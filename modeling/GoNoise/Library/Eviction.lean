import Mathlib.Data.List.Dedup
import Mathlib.Data.List.MinMax
import Mathlib.Data.List.Sort
import GoNoise.Library.Assoc

/-!
# Eviction of the oldest entries

A map whose values carry a time makes room by giving up the entries with the least times.
-/

namespace GoNoise.GoMap

variable {κ ν : Type} [DecidableEq κ] (time : ν → ℤ) (order : List κ) {n : ℕ} {m : GoMap κ ν}
  {k k' : κ} {v : ν}

/-- The time of a stored key. -/
def timeOf (m : GoMap κ ν) (k : κ) : ℤ := ((m.lookup k).map time).getD 0

theorem timeOf_eq (h : m.lookup k = some v) : m.timeOf time k = time v := by
  rw [timeOf, h]
  rfl

def oldestFirst (m : GoMap κ ν) : List κ :=
  (m.inOrder order.dedup).insertionSort fun k k' => m.timeOf time k ≤ m.timeOf time k'

def evictOldest (n : ℕ) (m : GoMap κ ν) : GoMap κ ν :=
  ((m.oldestFirst time order).take n).foldl (fun m k => m.erase k) m

theorem nodup_inOrder (h : order.Nodup) : (m.inOrder order).Nodup := by
  refine List.Nodup.append (h.filter _) (m.keys_nodup.filter _) fun k hfirst hrest => ?_
  simp only [List.mem_filter, decide_eq_true_eq] at hfirst hrest
  exact hrest.2 hfirst.1

theorem nodup_oldestFirst : (m.oldestFirst time order).Nodup :=
  (List.perm_insertionSort _ _).nodup_iff.mpr (nodup_inOrder _ order.nodup_dedup)

@[simp] theorem mem_oldestFirst : k ∈ m.oldestFirst time order ↔ k ∈ m := by
  rw [oldestFirst, List.mem_insertionSort, mem_inOrder]

theorem length_oldestFirst : (m.oldestFirst time order).length = size m := by
  have hperm : (m.oldestFirst time order).Perm m.keys := by
    rw [List.perm_ext_iff_of_nodup (nodup_oldestFirst time order) m.keys_nodup]
    intro k
    rw [mem_oldestFirst, AList.mem_keys]
  rw [hperm.length_eq, length_keys]

theorem mem_iff_take_or_drop (n : ℕ) :
    k ∈ m ↔ k ∈ (m.oldestFirst time order).take n ∨ k ∈ (m.oldestFirst time order).drop n := by
  rw [← mem_oldestFirst time order, ← List.mem_append, List.take_append_drop]

theorem mem_evictOldest :
    k ∈ m.evictOldest time order n ↔ k ∈ (m.oldestFirst time order).drop n := by
  have hdisjoint : List.Disjoint ((m.oldestFirst time order).take n)
      ((m.oldestFirst time order).drop n) :=
    List.disjoint_take_drop (nodup_oldestFirst time order) le_rfl
  rw [evictOldest, mem_foldl_erase, mem_iff_take_or_drop time order n]
  constructor
  · rintro ⟨htake | hdrop, hnot⟩
    · exact absurd htake hnot
    · exact hdrop
  · exact fun hdrop => ⟨.inr hdrop, fun htake => hdisjoint htake hdrop⟩

theorem lookup_of_lookup_evictOldest
    (h : (m.evictOldest time order n).lookup k = some v) : m.lookup k = some v :=
  lookup_of_lookup_foldl_erase h

theorem lookup_evictOldest (h : k ∈ m.evictOldest time order n) :
    (m.evictOldest time order n).lookup k = m.lookup k := by
  obtain ⟨v, hv⟩ := Option.isSome_iff_exists.mp (AList.lookup_isSome.mpr h)
  rw [hv, lookup_of_lookup_evictOldest time order hv]

theorem size_evictOldest : size (m.evictOldest time order n) = size m - n := by
  have hperm : (m.evictOldest time order n).keys.Perm ((m.oldestFirst time order).drop n) := by
    rw [List.perm_ext_iff_of_nodup (AList.keys_nodup _)
      ((nodup_oldestFirst time order).sublist (List.drop_sublist _ _))]
    intro k
    rw [← AList.mem_keys, mem_evictOldest]
  rw [← length_keys, hperm.length_eq, List.length_drop, length_oldestFirst]

/-- What is evicted is no newer than what stays. -/
theorem timeOf_le_of_evicted (hk : k ∈ m) (hout : k ∉ m.evictOldest time order n)
    (hk' : k' ∈ m.evictOldest time order n) : m.timeOf time k ≤ m.timeOf time k' := by
  let older : κ → κ → Prop := fun k k' => m.timeOf time k ≤ m.timeOf time k'
  have : Std.Total older := ⟨fun _ _ => Int.le_total _ _⟩
  have : IsTrans κ older := ⟨fun _ _ _ => Int.le_trans⟩
  have hsorted : (m.oldestFirst time order).Pairwise older := List.pairwise_insertionSort _ _
  rw [← List.take_append_drop n (m.oldestFirst time order), List.pairwise_append] at hsorted
  rw [mem_evictOldest] at hout hk'
  rw [mem_iff_take_or_drop time order n] at hk
  exact hsorted.2.2 k (hk.resolve_right hout) k' hk'

/-! ## The loop for one entry -/

variable {ks : List κ} {b : κ × ℤ}

theorem oldest_eq_foldl (hks : ∀ k ∈ ks, k ∈ m) (best : Option κ) :
    oldest time m (best.map fun k => (k, m.timeOf time k)) ks =
      (ks.foldl (List.argAux fun k k' => m.timeOf time k < m.timeOf time k') best).map
        fun k => (k, m.timeOf time k) := by
  induction ks generalizing best with
  | nil => rfl
  | cons k ks ih =>
    obtain ⟨hk, hks⟩ := List.forall_mem_cons.mp hks
    obtain ⟨v, hv⟩ := Option.isSome_iff_exists.mp (AList.lookup_isSome.mpr hk)
    rw [oldest, hv, List.foldl_cons, ← ih hks]
    cases best with
    | none =>
      dsimp only [Option.map, List.argAux]
      rw [timeOf_eq time hv]
    | some k' =>
      dsimp only [Option.map, List.argAux]
      rw [← timeOf_eq time hv]
      split_ifs <;> rfl

/-- The loop finds an entry with the least time. -/
theorem oldest_spec (hks : ∀ k ∈ ks, k ∈ m) (hne : ks ≠ []) :
    ∃ k ∈ ks, oldest time m none ks = some (k, m.timeOf time k) ∧
      ∀ k' ∈ ks, m.timeOf time k ≤ m.timeOf time k' := by
  obtain ⟨k, hk⟩ : ∃ k, ks.argmin (m.timeOf time) = some k :=
    Option.ne_none_iff_exists'.mp (mt List.argmin_eq_none.mp hne)
  refine ⟨k, List.argmin_mem hk, ?_, fun k' hk' => List.le_of_mem_argmin hk' hk⟩
  exact (oldest_eq_foldl time hks none).trans (congrArg _ hk)

/-- The entry that the loop finds is the oldest of the map. -/
theorem time_le_of_oldest (h : oldest time m none (m.inOrder order) = some b) {v' : ν}
    (hv : m.lookup b.1 = some v) (hk : m.lookup k = some v') : time v ≤ time v' := by
  have hin : k ∈ m.inOrder order := mem_inOrder.mpr (AList.lookup_isSome.mp (by rw [hk]; rfl))
  obtain ⟨k₀, -, hold, hmin⟩ := oldest_spec time (fun _ => mem_inOrder.mp) (List.ne_nil_of_mem hin)
  cases hold.symm.trans h
  rw [← timeOf_eq time hv, ← timeOf_eq time hk]
  exact hmin k hin

/-- A least entry does not depend on the order of the list if there is only one. -/
theorem argmin_congr {α β : Type} [LinearOrder β] {f : α → β} {l l' : List α}
    (hmem : ∀ a, a ∈ l ↔ a ∈ l') (huniq : ∀ a ∈ l, ∀ b ∈ l,
      (∀ x ∈ l, f a ≤ f x) → (∀ x ∈ l, f b ≤ f x) → a = b) : l.argmin f = l'.argmin f := by
  cases ha : l.argmin f with
  | none =>
    obtain rfl := List.argmin_eq_none.mp ha
    refine (List.argmin_eq_none.mpr (List.eq_nil_iff_forall_not_mem.mpr fun a h => ?_)).symm
    exact List.not_mem_nil ((hmem a).mpr h)
  | some a =>
    have ha' := (hmem a).mp (List.argmin_mem ha)
    cases hb : l'.argmin f with
    | none => exact absurd (List.argmin_eq_none.mp hb) (List.ne_nil_of_mem ha')
    | some b =>
      exact congrArg some (huniq a (List.argmin_mem ha) b ((hmem b).mpr (List.argmin_mem hb))
        (fun x hx => List.le_of_mem_argmin hx ha)
        fun x hx => List.le_of_mem_argmin ((hmem x).mp hx) hb)

theorem argmin_cons_of_le {α β : Type} [LinearOrder β] {f : α → β} {a : α} {l : List α}
    (h : ∀ x ∈ l, f a ≤ f x) : (a :: l).argmin f = some a := by
  rw [List.argmin_cons]
  cases hc : l.argmin f with
  | none => rfl
  | some c => exact if_neg (not_lt.mpr (h c (List.argmin_mem hc)))

theorem inOrder_of_perm (h : order.Perm m.keys) : m.inOrder order = order := by
  have hall : order.filter (· ∈ m) = order :=
    List.filter_eq_self.mpr fun k hk => decide_eq_true (AList.mem_keys.mpr (h.mem_iff.mp hk))
  have hnone : m.keys.filter (· ∉ order) = [] := List.filter_eq_nil_iff.mpr fun k hk => by
    simpa using h.mem_iff.mpr hk
  rw [inOrder, hall, hnone, List.append_nil]

end GoNoise.GoMap
