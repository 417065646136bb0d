import Mathlib.Data.List.Basic
import Mathlib.Data.Nat.Notation

/-!
# Buffered channels

A Go channel with a buffer: a list of at most `capacity` values, sent at the end and received at the
front. `trySend` and `tryRecv` are the two arms of a `select` with a `default`.
-/

namespace GoNoise

structure Chan (α : Type) where
  capacity : ℕ
  items : List α
  length_le : items.length ≤ capacity

namespace Chan

variable {α : Type} {c c' : Chan α} {x : α}

def make (capacity : ℕ) : Chan α := ⟨capacity, [], Nat.zero_le _⟩

def HasRoom (c : Chan α) : Prop := c.items.length < c.capacity

instance (c : Chan α) : Decidable c.HasRoom := inferInstanceAs (Decidable (_ < _))

/-- A send that does not block: `none` when the buffer is full. -/
def trySend (c : Chan α) (x : α) : Option (Chan α) :=
  if h : c.HasRoom then
    some ⟨c.capacity, c.items ++ [x], by rw [List.length_append]; exact h⟩
  else none

/-- A receive that does not block: `none` when the buffer is empty. -/
def tryRecv (c : Chan α) : Option (α × Chan α) :=
  match h : c.items with
  | [] => none
  | x :: rest =>
    some (x, ⟨c.capacity, rest, by
      have hle := c.length_le
      rw [h, List.length_cons] at hle
      exact Nat.le_of_succ_le hle⟩)

theorem trySend_of_hasRoom (h : c.HasRoom) (x : α) :
    ∃ c', c.trySend x = some c' ∧ c'.items = c.items ++ [x] ∧ c'.capacity = c.capacity :=
  ⟨_, dif_pos h, rfl, rfl⟩

theorem trySend_of_not_hasRoom (h : ¬ c.HasRoom) (x : α) : c.trySend x = none :=
  dif_neg h

theorem items_of_trySend (h : c.trySend x = some c') : c'.items = c.items ++ [x] := by
  by_cases hroom : c.HasRoom
  · obtain ⟨c'', hc, hitems, -⟩ := trySend_of_hasRoom hroom x
    rw [hc] at h
    rw [← Option.some.inj h, hitems]
  · rw [trySend_of_not_hasRoom hroom x] at h
    cases h

theorem tryRecv_of_items {rest : List α} (h : c.items = x :: rest) :
    ∃ c', c.tryRecv = some (x, c') ∧ c'.items = rest ∧ c'.capacity = c.capacity := by
  obtain ⟨capacity, items, hle⟩ := c
  obtain rfl : items = x :: rest := h
  exact ⟨_, rfl, rfl, rfl⟩

theorem items_of_tryRecv (h : c.tryRecv = some (x, c')) : c.items = x :: c'.items := by
  rw [tryRecv] at h
  split at h
  · cases h
  · rename_i y rest hitems
    cases h
    exact hitems

end Chan
end GoNoise
