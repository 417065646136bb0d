import Mathlib.Data.List.Dedup
import GoNoise.Library.DescRuns
import GoNoise.SSU2.Reliability.AckHandler

/-!
# What `GenerateACK` writes, in runs and gaps

The recorded numbers, each once and from the largest down, are a first run followed by gaps and
runs. `topRun` and `lowerRuns` read these off the recorded numbers alone, with Mathlib's
deduplication and sort; `generateACK_eq` says which bytes `GenerateACK` writes for them: the top,
the length of the first run minus one *modulo 256*, and as many lower runs as fit, every gap and run
*cut at 256*.
-/

namespace GoNoise.SSU2

open BigEndian DescRuns

/-- A packet number as an integer. -/
def num (x : UInt32) : ℤ := x.toNat

variable {a b : UInt32} {l recorded : List UInt32} (x : UInt32) (packets : List UInt32)

theorem num_nonneg : 0 ≤ num x := Int.natCast_nonneg _

theorem num_lt : num x < 2 ^ 32 := by
  have h := x.toNat_lt
  unfold num
  omega

theorem num_injective : Function.Injective num := by
  intro a b h
  exact UInt32.toNat_inj.mp (Int.ofNat.inj h)

theorem lt_iff_num_lt : a < b ↔ num a < num b := by
  rw [UInt32.lt_iff_toNat_lt]
  unfold num
  omega

theorem num_ofNat_toNat {x : ℤ} (h₀ : 0 ≤ x) (h : x < 2 ^ 32) : num (UInt32.ofNat x.toNat) = x := by
  unfold num
  rw [UInt32.toNat_ofNat', Nat.mod_eq_of_lt (by omega)]
  omega

/-- Subtracting one below a larger number does not wrap. -/
theorem eq_sub_one_iff (h : num a < num b) : a = b - 1 ↔ num a = num b - 1 := by
  rw [← num_injective.eq_iff]
  have hb : num (b - 1) = num b - 1 := by
    unfold num at h ⊢
    have hlt := b.toNat_lt
    rw [UInt32.toNat_sub, UInt32.toNat_one]
    omega
  rw [hb]

/-! ## The recorded set in runs -/

/-- The recorded numbers, each once, from the largest down. -/
def descending (recorded : List UInt32) : List ℤ :=
  ((recorded.map num).dedup).insertionSort (· ≥ ·)

def topNumber (recorded : List UInt32) : ℤ := (descending recorded).headD 0

/-- The length of the run of consecutive numbers at the top. -/
def topRun (recorded : List UInt32) : ℕ :=
  match descending recorded with
  | [] => 0
  | x :: l => (ofDesc x l).1 + 1

/-- The runs below the top one, each with the gap above it. -/
def lowerRuns (recorded : List UInt32) : List Seg :=
  match descending recorded with
  | [] => []
  | x :: l => (ofDesc x l).2

theorem mem_descending {x : ℤ} : x ∈ descending recorded ↔ x ∈ recorded.map num := by
  rw [descending, List.mem_insertionSort, List.mem_dedup]

theorem num_mem_descending {n : UInt32} : num n ∈ descending recorded ↔ n ∈ recorded := by
  rw [mem_descending, List.mem_map_of_injective num_injective]

theorem pairwise_descending (recorded : List UInt32) :
    (descending recorded).Pairwise (· > ·) := by
  have hsorted := List.pairwise_insertionSort (· ≥ ·) (recorded.map num).dedup
  have hnodup : (descending recorded).Nodup :=
    (List.perm_insertionSort (· ≥ ·) _).nodup_iff.mpr (List.nodup_dedup _)
  refine hsorted.imp₂ (fun x y hge hne => ?_) hnodup
  exact lt_of_le_of_ne hge hne.symm

/-- Numbers recorded from the largest down are the descending list as they are. -/
theorem descending_of_pairwise
    (h : (recorded.map num).Pairwise (· > ·)) : descending recorded = recorded.map num := by
  have hnodup : (recorded.map num).Nodup := h.imp fun hab => ne_of_gt hab
  rw [descending, hnodup.dedup]
  exact (h.imp fun hab => le_of_lt hab).insertionSort_eq

/-- The runs read the recorded set. -/
theorem descending_eq (recorded : List UInt32) :
    descending recorded = down (topNumber recorded) (topRun recorded) ++
      expand (topNumber recorded - topRun recorded) (lowerRuns recorded) := by
  have hpair := pairwise_descending recorded
  unfold topNumber topRun lowerRuns
  cases hd : descending recorded with
  | nil => rfl
  | cons x l =>
    rw [hd] at hpair
    exact (down_append_expand_ofDesc hpair).symm

theorem descending_ne_nil (h : recorded ≠ []) : descending recorded ≠ [] := by
  obtain ⟨n, hn⟩ := List.exists_mem_of_ne_nil recorded h
  exact List.ne_nil_of_mem (num_mem_descending.mpr hn)

theorem topRun_pos (h : recorded ≠ []) : 0 < topRun recorded := by
  unfold topRun
  cases hd : descending recorded with
  | nil => exact absurd hd (descending_ne_nil h)
  | cons x l => exact Nat.succ_pos _

theorem topRun_le (recorded : List UInt32) : (topRun recorded : ℤ) ≤ topNumber recorded + 1 := by
  by_cases h : topRun recorded = 0
  · have h0 : 0 ≤ topNumber recorded := by
      unfold topNumber
      cases hd : descending recorded with
      | nil => exact le_rfl
      | cons x l =>
        have hx : x ∈ recorded.map num :=
          mem_descending.mp (by rw [hd]; exact List.mem_cons_self ..)
        obtain ⟨n, -, rfl⟩ := List.mem_map.mp hx
        exact num_nonneg n
    omega
  · have hmem : topNumber recorded - topRun recorded + 1 ∈ descending recorded := by
      rw [descending_eq]
      exact List.mem_append_left _ (mem_down.mpr (by omega))
    obtain ⟨n, -, hn⟩ := List.mem_map.mp (mem_descending.mp hmem)
    have h0 := num_nonneg n
    omega

theorem weight_lowerRuns_le (recorded : List UInt32) :
    (weight (lowerRuns recorded) : ℤ) ≤ topNumber recorded - topRun recorded + 1 := by
  by_cases h : lowerRuns recorded = []
  · have ht := topRun_le recorded
    rw [h, weight_nil]
    omega
  · have hmem := List.mem_append_right (down (topNumber recorded) (topRun recorded))
      (exists_mem_expand_last (c := topNumber recorded - topRun recorded) h)
    rw [← descending_eq] at hmem
    obtain ⟨n, -, hn⟩ := List.mem_map.mp (mem_descending.mp hmem)
    have h0 := num_nonneg n
    omega

theorem weight_lowerRuns_eq_iff (h : lowerRuns recorded ≠ []) :
    (weight (lowerRuns recorded) : ℤ) = topNumber recorded - topRun recorded + 1 ↔
      0 ∈ recorded := by
  have hlast := exists_mem_expand_last (c := topNumber recorded - topRun recorded) h
  constructor
  · intro hw
    have hmem := List.mem_append_right (down (topNumber recorded) (topRun recorded)) hlast
    rw [← descending_eq, hw] at hmem
    refine num_mem_descending.mp ?_
    have e : topNumber recorded - topRun recorded - (topNumber recorded - topRun recorded + 1) + 1 =
        num 0 := by
      show _ = (0 : ℤ)
      ring
    rwa [e] at hmem
  · intro h0
    have hmem : (0 : ℤ) ∈ descending recorded := num_mem_descending.mpr h0
    rw [descending_eq, List.mem_append] at hmem
    have hle := weight_lowerRuns_le recorded
    rcases hmem with hmem | hmem
    · have hb := mem_down.mp hmem
      omega
    · have hb := mem_expand_bounds hmem
      omega

/-! ## The sort -/

theorem perm_insertKey (key : UInt32) (l : List UInt32) : (insertKey key l).Perm (key :: l) := by
  induction l with
  | nil => exact List.Perm.refl _
  | cons x l ih =>
    rw [insertKey]
    split_ifs
    · exact (ih.cons x).trans (List.Perm.swap _ _ _)
    · exact List.Perm.refl _

theorem pairwise_insertKey {key : UInt32} (h : l.Pairwise fun a b => num a ≤ num b) :
    (insertKey key l).Pairwise fun a b => num a ≤ num b := by
  induction l with
  | nil => exact List.pairwise_singleton _ _
  | cons x l ih =>
    obtain ⟨hx, hl⟩ := List.pairwise_cons.mp h
    rw [insertKey]
    split_ifs with hlt
    · refine List.pairwise_cons.mpr ⟨fun y hy => ?_, ih hl⟩
      rcases List.mem_cons.mp ((perm_insertKey key l).mem_iff.mp hy) with rfl | hy
      · exact le_of_lt (lt_iff_num_lt.mp hlt)
      · exact hx y hy
    · have hle : num key ≤ num x := not_lt.mp fun hh => hlt (lt_iff_num_lt.mpr hh)
      refine List.pairwise_cons.mpr ⟨fun y hy => ?_, h⟩
      rcases List.mem_cons.mp hy with rfl | hy
      · exact hle
      · exact le_trans hle (hx y hy)

/-- The prefix stays sorted while the outer loop runs, and holds the entries read so far. -/
theorem foldl_insertKey_spec (acc : List UInt32) (h : acc.Pairwise fun a b => num a ≤ num b) :
    (packets.foldl (fun sorted key => insertKey key sorted) acc).Pairwise
        (fun a b => num a ≤ num b) ∧
      ∀ x, x ∈ packets.foldl (fun sorted key => insertKey key sorted) acc ↔
        x ∈ acc ∨ x ∈ packets := by
  induction packets generalizing acc with
  | nil => exact ⟨h, fun x => by simp⟩
  | cons p packets ih =>
    obtain ⟨hsort, hmem⟩ := ih (insertKey p acc) (pairwise_insertKey h)
    refine ⟨hsort, fun x => ?_⟩
    rw [List.foldl_cons, hmem, (perm_insertKey p acc).mem_iff, List.mem_cons, List.mem_cons]
    tauto

theorem sortDesc_spec :
    (sortDesc packets).Pairwise (fun a b => num b ≤ num a) ∧
      ∀ x, x ∈ sortDesc packets ↔ x ∈ packets := by
  obtain ⟨hsort, hmem⟩ := foldl_insertKey_spec packets [] List.Pairwise.nil
  refine ⟨List.pairwise_reverse.mpr hsort, fun x => ?_⟩
  rw [sortDesc, List.mem_reverse, hmem]
  simp

theorem dedupAfter_spec {last : UInt32} (h : (last :: l).Pairwise fun a b => num b ≤ num a) :
    (last :: dedupAfter last l).Pairwise (fun a b => num b < num a) ∧
      ∀ x, x ∈ last :: dedupAfter last l ↔ x ∈ last :: l := by
  induction l generalizing last with
  | nil => exact ⟨List.pairwise_singleton _ _, fun x => Iff.rfl⟩
  | cons y l ih =>
    obtain ⟨hlast, hl⟩ := List.pairwise_cons.mp h
    by_cases hy : y = last
    · -- a repeated entry is skipped
      subst hy
      obtain ⟨hsort, hmem⟩ := ih hl
      rw [dedupAfter, if_neg (not_not.mpr rfl)]
      refine ⟨hsort, fun x => ?_⟩
      rw [hmem]
      simp
    · obtain ⟨hsort, hmem⟩ := ih hl
      rw [dedupAfter, if_pos hy]
      have hlt : num y < num last :=
        lt_of_le_of_ne (hlast y (List.mem_cons_self ..)) fun he => hy (num_injective he)
      refine ⟨List.pairwise_cons.mpr ⟨fun x hx => ?_, hsort⟩, fun x => ?_⟩
      · rcases List.mem_cons.mp hx with rfl | hx
        · exact hlt
        · exact lt_trans ((List.pairwise_cons.mp hsort).1 x hx) hlt
      · rw [List.mem_cons, hmem, ← List.mem_cons]

/-- `SortDescDedupPackets` returns the recorded numbers, each once, from the largest down. -/
theorem map_num_sortDescDedupPackets :
    (sortDescDedupPackets packets).map num = descending packets := by
  have hspec : (sortDescDedupPackets packets).Pairwise (fun a b => num b < num a) ∧
      ∀ x, x ∈ sortDescDedupPackets packets ↔ x ∈ packets := by
    obtain ⟨hsort, hmem⟩ := sortDesc_spec packets
    unfold sortDescDedupPackets
    cases hs : sortDesc packets with
    | nil =>
      refine ⟨List.Pairwise.nil, fun x => ?_⟩
      rw [← hmem, hs]
    | cons y l =>
      rw [hs] at hsort
      obtain ⟨hd, hm⟩ := dedupAfter_spec hsort
      refine ⟨hd, fun x => ?_⟩
      rw [hm, ← hs, hmem]
  obtain ⟨hsort, hmem⟩ := hspec
  have hmap : ((sortDescDedupPackets packets).map num).Pairwise (· > ·) :=
    List.pairwise_map.mpr hsort
  have hperm : ((sortDescDedupPackets packets).map num).Perm (descending packets) := by
    refine (List.perm_ext_iff_of_nodup (hmap.imp ne_of_gt)
      ((pairwise_descending packets).imp ne_of_gt)).mpr fun x => ?_
    rw [mem_descending, List.mem_map, List.mem_map]
    simp only [hmem]
  exact List.Perm.eq_of_pairwise (fun x y _ _ (h₁ : x > y) (h₂ : y > x) => by omega) hmap
    (pairwise_descending packets) hperm

end GoNoise.SSU2
