import Mathlib.Algebra.Order.Field.Power
import Mathlib.Algebra.Order.Floor.Semifield
import Mathlib.Data.Int.Log
import Mathlib.Data.Rat.Floor
import Mathlib.Tactic.FieldSimp
import Mathlib.Tactic.Linarith
import Mathlib.Tactic.Ring

/-!
# Floating point numbers of 64 bits

A finite number of the binary format of 64 bits is a rational number, and an operation rounds its
exact result to 53 significant bits, to nearest and ties to even. The exponent range is not
limited: the numbers here are far from its ends.
-/

namespace GoNoise.Binary64

/-- The nearest integer, the even one if there are two. -/
def roundEven (x : ℚ) : ℤ :=
  let k := ⌊x⌋
  if x - k < 1 / 2 then k else if 1 / 2 < x - k then k + 1 else k + k % 2

/-- The nearest number with 53 significant bits. -/
def round (x : ℚ) : ℚ :=
  if x = 0 then 0
  else
    let e := Int.log 2 |x| - 52
    roundEven (x / 2 ^ e) * 2 ^ e

/-- The number nearest to an integer. -/
def ofInt (n : ℤ) : ℚ := round n

def mul (x y : ℚ) : ℚ := round (x * y)

def add (x y : ℚ) : ℚ := round (x + y)

/-- The conversion to an integer, toward zero. -/
def toInt (x : ℚ) : ℤ := if 0 ≤ x then ⌊x⌋ else ⌈x⌉

@[simp] theorem roundEven_intCast (n : ℤ) : roundEven n = n := by
  simp [roundEven]

variable {k : ℕ} {n p : ℤ} {x : ℚ}

/-- Numbers that are not rounded. -/
theorem round_eq_self {m : ℤ} (hx : x * 2 ^ k = m) (hm : |m| < 2 ^ 53) : round x = x := by
  unfold round
  split_ifs with hzero
  · exact hzero.symm
  · -- the exponent is at most `-k`, so the scaled number is an integer
    have habs : |x| * 2 ^ k < 2 ^ 53 := by
      rw [← abs_of_pos (show (0 : ℚ) < 2 ^ k by positivity), ← abs_mul, hx]
      exact_mod_cast hm
    have hlog : Int.log 2 |x| < 53 - k := by
      rw [← Int.lt_zpow_iff_log_lt one_lt_two (abs_pos.mpr hzero), Nat.cast_ofNat,
        zpow_sub₀ two_ne_zero, lt_div_iff₀ (by positivity)]
      exact_mod_cast habs
    obtain ⟨j, hj⟩ : ∃ j : ℕ, Int.log 2 |x| - 52 = -k - j :=
      ⟨(-k - (Int.log 2 |x| - 52)).toNat, by omega⟩
    have hscaled : x / 2 ^ (Int.log 2 |x| - 52) = ((m * 2 ^ j : ℤ) : ℚ) := by
      rw [hj, div_eq_mul_inv, ← zpow_neg, neg_sub, sub_neg_eq_add, add_comm,
        zpow_add₀ two_ne_zero, zpow_natCast, zpow_natCast, ← mul_assoc, hx]
      push_cast
      rfl
    dsimp only
    rw [hscaled, roundEven_intCast, ← hscaled, div_mul_cancel₀ _ (by positivity)]

theorem ofInt_eq (hn : |n| < 2 ^ 53) : ofInt n = n :=
  round_eq_self (k := 0) (by simp) hn

theorem toInt_of_nonneg (hx : 0 ≤ x) : toInt x = ⌊x⌋ := if_pos hx

theorem mul_ofInt (hn : |n| < 2 ^ 53) (hp : |p * n| < 2 ^ 53) :
    mul (ofInt n) (p / 2 ^ k) = p * n / 2 ^ k := by
  rw [ofInt_eq hn, mul]
  have hexact : (n : ℚ) * (p / 2 ^ k) * 2 ^ k = ((p * n : ℤ) : ℚ) := by
    push_cast
    field_simp
  rw [round_eq_self hexact hp]
  ring

/-- Weighted sums of integers, with weights `p / 2 ^ k` and `q / 2 ^ k`. -/
theorem toInt_weighted {a b q : ℤ} (k : ℕ) (ha : 0 ≤ a) (hb : 0 ≤ b) (hp : 0 < p) (hq : 0 < q)
    (hsum : p * a + q * b < 2 ^ 53) :
    toInt (add (mul (ofInt a) (p / 2 ^ k)) (mul (ofInt b) (q / 2 ^ k))) =
      (p * a + q * b) / 2 ^ k := by
  have hpa : a ≤ p * a := le_mul_of_one_le_left ha hp
  have hqb : b ≤ q * b := le_mul_of_one_le_left hb hq
  have hbound : ∀ {x : ℤ}, 0 ≤ x → x < 2 ^ 53 → |x| < 2 ^ 53 := fun h h' => by rwa [abs_of_nonneg h]
  rw [mul_ofInt (hbound ha (by omega)) (hbound (by omega) (by omega)),
    mul_ofInt (hbound hb (by omega)) (hbound (by omega) (by omega))]
  have hexact : ((p * a + q * b : ℚ) / 2 ^ k) * 2 ^ k = ((p * a + q * b : ℤ) : ℚ) := by
    push_cast
    field_simp
  rw [add, ← add_div, round_eq_self hexact (hbound (by omega) hsum), toInt_of_nonneg
    (by positivity)]
  have hfloor := Rat.floor_intCast_div_natCast (p * a + q * b) (2 ^ k)
  push_cast at hfloor
  exact hfloor

end GoNoise.Binary64
