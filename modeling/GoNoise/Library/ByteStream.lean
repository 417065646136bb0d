import GoNoise.Library.Bytes
import GoNoise.Library.Calls
import Mathlib.Data.List.Basic

/-!
# Reading from a byte stream

A stream delivers pieces of any size, and failures between them. `readFull` is `io.ReadFull`: it
takes pieces until it has the bytes it was asked for, or meets a failure.
-/

namespace GoNoise.ByteStream

variable {ε : Type}

/-- A piece of data or a failure. -/
inductive Arrival (ε : Type)
  | bytes (l : Bytes)
  | failure (e : ε)
  deriving DecidableEq

/-- The stream, byte by byte. -/
def items : List (Arrival ε) → List (Except ε UInt8)
  | [] => []
  | .bytes l :: rest => l.map .ok ++ items rest
  | .failure e :: rest => .error e :: items rest

theorem items_append (as as' : List (Arrival ε)) : items (as ++ as') = items as ++ items as' := by
  induction as with
  | nil => rfl
  | cons a as ih =>
    cases a with
    | bytes l => rw [List.cons_append, items, items, ih, List.append_assoc]
    | failure e => rw [List.cons_append, items, items, ih, List.cons_append]

def read (k : ℕ) : List (Arrival ε) → Outcome ε Bytes × List (Arrival ε)
  | [] => (.waiting, [])
  | .failure e :: rest => (.error e, rest)
  | .bytes l :: rest =>
    if l.length ≤ k then (.ok l, rest) else (.ok (l.take k), .bytes (l.drop k) :: rest)

/-- `io.ReadFull`, for `k` bytes: the bytes it has read and how it ended. -/
def readFull : ℕ → List (Arrival ε) → Bytes × Outcome ε Unit × List (Arrival ε)
  | 0, rest => ([], .ok (), rest)
  | _ + 1, [] => ([], .waiting, [])
  | _ + 1, .failure e :: rest => ([], .error e, rest)
  | k + 1, .bytes l :: rest =>
    if l.length ≤ k + 1 then
      let (l', outcome, rest') := readFull (k + 1 - l.length) rest
      (l ++ l', outcome, rest')
    else (l.take (k + 1), .ok (), .bytes (l.drop (k + 1)) :: rest)

/-- What `io.ReadFull` does to a stream. -/
inductive Reads (k : ℕ) (s : List (Arrival ε)) :
    Bytes × Outcome ε Unit × List (Arrival ε) → Prop
  | full (l : Bytes) (rest : List (Arrival ε)) (length : l.length = k)
      (split : items s = l.map .ok ++ items rest) : Reads k s (l, .ok (), rest)
  | failed (l : Bytes) (e : ε) (rest : List (Arrival ε)) (length : l.length < k)
      (split : items s = l.map .ok ++ .error e :: items rest) : Reads k s (l, .error e, rest)
  | waits (l : Bytes) (rest : List (Arrival ε)) (length : l.length < k)
      (split : items s = l.map .ok) : Reads k s (l, .waiting, rest)

/-- The borders of the pieces do not matter. -/
theorem reads (k : ℕ) (s : List (Arrival ε)) : Reads k s (readFull k s) := by
  fun_induction readFull k s with
  | case1 rest => exact .full [] rest rfl rfl
  | case2 k => exact .waits [] [] (Nat.succ_pos k) rfl
  | case3 k e rest => exact .failed [] e rest (Nat.succ_pos k) rfl
  | case4 k l rest hfits l' outcome rest' heq ih =>
    rw [heq] at ih
    cases ih with
    | full _ _ length split =>
      refine .full _ _ (by rw [List.length_append]; omega) ?_
      rw [items, split, List.map_append, List.append_assoc]
    | failed _ e _ length split =>
      refine .failed _ e _ (by rw [List.length_append]; omega) ?_
      rw [items, split, List.map_append, List.append_assoc]
    | waits _ _ length split =>
      refine .waits _ _ (by rw [List.length_append]; omega) ?_
      rw [items, split, List.map_append]
  | case5 k l rest hlong =>
    refine .full _ _ (by rw [List.length_take]; omega) ?_
    rw [items, items, ← List.append_assoc, ← List.map_append, List.take_append_drop]

end GoNoise.ByteStream
