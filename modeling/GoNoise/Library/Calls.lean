import Mathlib.Init

/-!
# Calls that may block

A call works on a state. It returns a value or an error, or it is still waiting for its input; the
state is the one it has reached by then.

* `bind_apply_ok`, `bind_apply_error`, `bind_apply_waiting`: how a sequence of calls goes on.
-/

namespace GoNoise

/-- What a call comes to. -/
inductive Outcome (ε α : Type)
  | ok (a : α)
  | error (e : ε)
  | waiting
  deriving DecidableEq

def Call (σ ε α : Type) : Type := σ → Outcome ε α × σ

namespace Call

variable {σ τ ε α β : Type}

instance : Monad (Call σ ε) where
  pure a := fun s => (.ok a, s)
  bind x f := fun s =>
    match x s with
    | (.ok a, s') => f a s'
    | (.error e, s') => (.error e, s')
    | (.waiting, s') => (.waiting, s')

def fail (e : ε) : Call σ ε α := fun s => (.error e, s)

/-- The state. -/
def get : Call σ ε σ := fun s => (.ok s, s)

/-- Change the state. -/
def modify (f : σ → σ) : Call σ ε Unit := fun s => (.ok (), f s)

/-- Return the result of a computation that does not look at the state. -/
def ofExcept : Except ε α → Call σ ε α
  | .ok a => fun s => (.ok a, s)
  | .error e => fail e

/-- A computation that changes the state, fails or not. -/
def ofState (f : σ → Except ε α × σ) : Call σ ε α := fun s => (ofExcept (f s).1) (f s).2

@[simp] theorem get_apply (s : σ) : (get : Call σ ε σ) s = (.ok s, s) := rfl

section
variable {x : Call σ ε α} {f : α → Call σ ε β} {s s' : σ}

theorem bind_apply_ok {a : α} (h : x s = (.ok a, s')) : (x >>= f) s = f a s' := by
  simp [bind, h]

theorem bind_apply_error {e : ε} (h : x s = (.error e, s')) : (x >>= f) s = (.error e, s') := by
  simp [bind, h]

theorem bind_apply_waiting (h : x s = (.waiting, s')) : (x >>= f) s = (.waiting, s') := by
  simp [bind, h]

end

end Call
end GoNoise
