import Mathlib.Data.Int.Init
import Mathlib.Tactic.NormNum

/-!
# Integers of 64 bits

The values of a signed type of 64 bits are integers in a range; the result of an operation is taken
modulo `2 ^ 64` into that range.
-/

namespace GoNoise

/-- The value that a variable of a signed 64-bit type holds after an operation with result `x`. -/
def int64 (x : ℤ) : ℤ := x.bmod (2 ^ 64)

/-- The values of a signed 64-bit type. -/
def IsInt (x : ℤ) : Prop := -2 ^ 63 ≤ x ∧ x < 2 ^ 63

variable {x : ℤ}

theorem int64_of_isInt (h : IsInt x) : int64 x = x := by
  obtain ⟨hlow, hhigh⟩ := h
  exact Int.bmod_eq_of_le (by omega) (by omega)

theorem isInt_int64 (x : ℤ) : IsInt (int64 x) := by
  have hlow := Int.le_bmod (m := 2 ^ 64) (x := x) (by norm_num)
  have hhigh := Int.bmod_lt (m := 2 ^ 64) (x := x) (by norm_num)
  constructor <;> unfold int64 <;> omega

/-- A result that is too large, but less than three times the range, becomes negative. -/
theorem int64_of_overflow (hlow : 2 ^ 63 ≤ x) (hhigh : x < 2 ^ 64 + 2 ^ 63) :
    int64 x = x - 2 ^ 64 := by
  rw [int64, ← Int.sub_bmod_right]
  exact Int.bmod_eq_of_le (by omega) (by omega)

end GoNoise
