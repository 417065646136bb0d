import Mathlib.Data.List.Basic
import Mathlib.Data.Nat.Notation

/-!
# Cutting a list into chunks

`chunks k fuel l` cuts `l` into pieces of length `k`, the last one shorter. A piece takes at least
one element, so `l.length` turns are enough.

* `flatten_chunks`: the pieces are the list.
-/

namespace GoNoise.Chunks

variable {α : Type} {fuel k : ℕ} {l : List α}

/-- The pieces of `l`, with at most `fuel` turns. -/
def chunks (k : ℕ) : ℕ → List α → List (List α)
  | 0, _ => []
  | fuel + 1, l => if l.length = 0 then [] else l.take k :: chunks k fuel (l.drop k)

theorem chunks_nil (k fuel : ℕ) : chunks k fuel ([] : List α) = [] := by
  cases fuel <;> rfl

theorem chunks_of_ne_nil (k fuel : ℕ) (h : l.length ≠ 0) :
    chunks k (fuel + 1) l = l.take k :: chunks k fuel (l.drop k) := if_neg h

theorem length_drop_le (hk : 0 < k) (hfuel : l.length ≤ fuel + 1) : (l.drop k).length ≤ fuel := by
  rw [List.length_drop]
  omega

theorem flatten_chunks (hk : 0 < k) (hfuel : l.length ≤ fuel) : (chunks k fuel l).flatten = l := by
  induction fuel generalizing l with
  | zero =>
    rw [List.length_eq_zero_iff.mp (Nat.le_zero.mp hfuel)]
    rfl
  | succ fuel ih =>
    by_cases hl : l.length = 0
    · rw [List.length_eq_zero_iff.mp hl, chunks_nil]
      rfl
    · rw [chunks_of_ne_nil k fuel hl, List.flatten_cons, ih (length_drop_le hk hfuel),
        List.take_append_drop]

theorem length_le_of_mem_chunks {c : List α} (hc : c ∈ chunks k fuel l) : c.length ≤ k := by
  induction fuel generalizing l with
  | zero => cases hc
  | succ fuel ih =>
    by_cases hl : l.length = 0
    · rw [List.length_eq_zero_iff.mp hl, chunks_nil] at hc
      cases hc
    · rw [chunks_of_ne_nil k fuel hl, List.mem_cons] at hc
      rcases hc with rfl | hc
      · exact List.length_take_le k l
      · exact ih hc

/-- There are at most `n` pieces exactly when the list is no longer than `n` full pieces. -/
theorem length_chunks_le_iff (hk : 0 < k) (hfuel : l.length ≤ fuel)
    (n : ℕ) : (chunks k fuel l).length ≤ n ↔ l.length ≤ n * k := by
  induction fuel generalizing l n with
  | zero =>
    rw [List.length_eq_zero_iff.mp (Nat.le_zero.mp hfuel)]
    exact iff_of_true (Nat.zero_le _) (Nat.zero_le _)
  | succ fuel ih =>
    by_cases hl : l.length = 0
    · rw [List.length_eq_zero_iff.mp hl, chunks_nil]
      exact iff_of_true (Nat.zero_le _) (Nat.zero_le _)
    · rw [chunks_of_ne_nil k fuel hl, List.length_cons]
      cases n with
      | zero =>
        rw [Nat.zero_mul]
        exact iff_of_false (Nat.not_succ_le_zero _) (by omega)
      | succ n =>
        rw [Nat.add_le_add_iff_right, ih (length_drop_le hk hfuel), List.length_drop, Nat.add_mul,
          Nat.one_mul]
        omega

theorem chunks_drop_eq_nil_iff (hk : 0 < k)
    (hfuel : l.length ≤ fuel + 1) : chunks k fuel (l.drop k) = [] ↔ l.length ≤ k := by
  rw [← List.length_eq_zero_iff, ← Nat.le_zero,
    length_chunks_le_iff hk (length_drop_le hk hfuel), List.length_drop, Nat.zero_mul]
  omega

end GoNoise.Chunks
