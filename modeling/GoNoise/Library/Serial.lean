import Mathlib.Algebra.Group.Nat.Defs
import Mathlib.Data.List.Range
import Mathlib.Data.Nat.Notation
import Mathlib.Logic.Basic

/-!
# Serial numbers

Arithmetic of 32-bit sequence numbers that wrap around.

* `ahead k e`: how far `k` is ahead of `e`, going up and around, with the step lemma `ahead_succ`.
* `seqFrom e n`: the `n` numbers from `e` on, with `seqFrom_succ` and `seqFrom_append`.
-/

namespace GoNoise.Serial

/-- The number of steps up from `e` to `k`, modulo `2 ^ 32`. -/
def ahead (k e : UInt32) : ℕ := (k - e).toNat

theorem ahead_eq (k e : UInt32) : ahead k e = (2 ^ 32 - e.toNat + k.toNat) % 2 ^ 32 :=
  UInt32.toNat_sub k e

variable (e : UInt32) (n : ℕ)

@[simp] theorem ahead_self : ahead e e = 0 := by
  rw [ahead, UInt32.sub_self, UInt32.toNat_zero]

theorem ahead_eq_zero_iff {k e : UInt32} : ahead k e = 0 ↔ k = e := by
  constructor
  · intro h
    have hk := k.toNat_lt
    have he := e.toNat_lt
    rw [ahead_eq] at h
    refine UInt32.toNat_inj.mp ?_
    omega
  · rintro rfl
    exact ahead_self k

/-- One step up from `e` brings everything but `e` one step nearer. -/
theorem ahead_succ {k e : UInt32} (h : k ≠ e) : ahead k (e + 1) + 1 = ahead k e := by
  have hne : ahead k e ≠ 0 := fun h0 => h (ahead_eq_zero_iff.mp h0)
  have hk := k.toNat_lt
  have he := e.toNat_lt
  have h1 : (e + 1).toNat = (e.toNat + 1) % 2 ^ 32 := UInt32.toNat_add e 1
  rw [ahead_eq] at hne
  rw [ahead_eq, ahead_eq, h1]
  omega

theorem ahead_of_le {k e : UInt32} (h : e.toNat ≤ k.toNat) : ahead k e = k.toNat - e.toNat := by
  have hk := k.toNat_lt
  rw [ahead_eq]
  omega

def seqFrom (e : UInt32) (n : ℕ) : List UInt32 := (List.range n).map fun i => e + UInt32.ofNat i

@[simp] theorem seqFrom_zero : seqFrom e 0 = [] := rfl

theorem add_ofNat_succ : e + UInt32.ofNat (n + 1) = e + 1 + UInt32.ofNat n := by
  rw [UInt32.ofNat_add, UInt32.add_comm (UInt32.ofNat n), UInt32.add_assoc]
  rfl

theorem seqFrom_succ : seqFrom e (n + 1) = e :: seqFrom (e + 1) n := by
  unfold seqFrom
  rw [List.range_succ_eq_map, List.map_cons, List.map_map]
  congr 1
  · exact UInt32.add_zero e
  · exact List.map_congr_left fun i _ => add_ofNat_succ e i

theorem seqFrom_append (m : ℕ) :
    seqFrom e (n + m) = seqFrom e n ++ seqFrom (e + UInt32.ofNat n) m := by
  induction n generalizing e with
  | zero =>
    have h : e + UInt32.ofNat 0 = e := UInt32.add_zero e
    rw [Nat.zero_add, seqFrom_zero, List.nil_append, h]
  | succ n ih =>
    rw [Nat.add_right_comm, seqFrom_succ, ih, seqFrom_succ, List.cons_append, add_ofNat_succ]

end GoNoise.Serial
