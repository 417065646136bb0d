import Mathlib.Data.Finset.Card
import Mathlib.Data.Finset.Insert
import Mathlib.Data.Fintype.EquivFin
import Mathlib.Order.Nat

/-!
# The first missing number

A finite set of numbers, seen as what has arrived of a sequence `0`, `1`, `2`, ….

* `missing s`: the least number that has not arrived.
* `waiting s`: the numbers that have arrived beyond it.
* `missing_insert_of_ne`, `waiting_insert_of_lt`: another number arrives and the gap stays.
-/

namespace GoNoise.Missing

/-- The least number that is not in the set. -/
def missing (s : Finset ℕ) : ℕ := Nat.find (Infinite.exists_notMem_finset s)

/-- The numbers of the set beyond the least missing one. -/
def waiting (s : Finset ℕ) : Finset ℕ := s.filter (missing s < ·)

variable {s : Finset ℕ} {n : ℕ}

theorem missing_notMem (s : Finset ℕ) : missing s ∉ s :=
  Nat.find_spec (Infinite.exists_notMem_finset s)

theorem mem_of_lt_missing (h : n < missing s) : n ∈ s :=
  not_not.mp (Nat.find_min (Infinite.exists_notMem_finset s) h)

theorem missing_le (h : n ∉ s) : missing s ≤ n :=
  Nat.find_min' (Infinite.exists_notMem_finset s) h

theorem missing_eq (hn : n ∉ s) (h : ∀ m < n, m ∈ s) : missing s = n := by
  refine le_antisymm (missing_le hn) (Nat.le_of_not_lt fun hlt => ?_)
  exact missing_notMem s (h _ hlt)

@[simp] theorem missing_empty : missing ∅ = 0 := missing_eq (Finset.notMem_empty 0) fun _ h => by
    omega

theorem mem_waiting : n ∈ waiting s ↔ n ∈ s ∧ missing s < n := Finset.mem_filter

theorem missing_insert_zero_pos (s : Finset ℕ) : 0 < missing (insert 0 s) := by
  rw [Nat.pos_iff_ne_zero]
  intro h
  refine missing_notMem (insert 0 s) ?_
  rw [h]
  exact Finset.mem_insert_self 0 s

/-! ## One more number -/

theorem missing_insert_of_ne (h : n ≠ missing s) : missing (insert n s) = missing s := by
  refine missing_eq ?_ fun m hm => Finset.mem_insert_of_mem (mem_of_lt_missing hm)
  rw [Finset.mem_insert]
  rintro (he | hmem)
  · exact h he.symm
  · exact missing_notMem s hmem

theorem waiting_insert_of_lt (h : missing s < n) : waiting (insert n s) = insert n (waiting s) := by
  ext k
  rw [mem_waiting, missing_insert_of_ne h.ne', Finset.mem_insert, Finset.mem_insert, mem_waiting]
  constructor
  · rintro ⟨rfl | hk, hlt⟩
    · exact Or.inl rfl
    · exact Or.inr ⟨hk, hlt⟩
  · rintro (rfl | ⟨hk, hlt⟩)
    · exact ⟨Or.inl rfl, h⟩
    · exact ⟨Or.inr hk, hlt⟩

theorem missing_lt_missing_insert (s : Finset ℕ) : missing s < missing (insert (missing s) s) := by
  have hnot := missing_notMem (insert (missing s) s)
  rw [Finset.mem_insert, not_or] at hnot
  exact lt_of_le_of_ne (missing_le hnot.2) fun h => hnot.1 h.symm

/-- Between the number that was missing and the next one everything has arrived. -/
theorem mem_of_lt_missing_insert (hlt : missing s < n) (h : n < missing (insert (missing s) s)) :
    n ∈ waiting s := by
  refine mem_waiting.mpr ⟨?_, hlt⟩
  rcases Finset.mem_insert.mp (mem_of_lt_missing h) with rfl | hmem
  · exact absurd hlt (lt_irrefl _)
  · exact hmem

end GoNoise.Missing
