import Mathlib.Data.List.Sort
import Mathlib.Data.List.Nodup
import Mathlib.Data.List.Perm.Subperm
import Mathlib.Tactic.Ring
import Mathlib.Tactic.Linarith

/-!
# Run codes of finite sets of integers

A finite set of integers, read from its largest element downwards, is a first run of
consecutive numbers followed by alternating gaps and runs. A *run code* writes it as the top,
the length of the first run, and one `Seg` (gap, run) for every further run.
-/

namespace GoNoise
namespace DescRuns

/-! ## Consecutive integers -/

/-- `n` consecutive integers from `a` downwards. -/
def down (a : ℤ) : ℕ → List ℤ
  | 0 => []
  | n + 1 => a :: down (a - 1) n

variable (a prev c : ℤ) (n : ℕ) (s : Seg) (l : List Seg)

@[simp] theorem down_zero : down a 0 = [] := rfl

theorem down_succ : down a (n + 1) = a :: down (a - 1) n := rfl

@[simp] theorem length_down : (down a n).length = n := by
  induction n generalizing a with
  | zero => rfl
  | succ n ih => rw [down_succ, List.length_cons, ih]

theorem mem_down {a x : ℤ} {n : ℕ} : x ∈ down a n ↔ a - n < x ∧ x ≤ a := by
  induction n generalizing a with
  | zero =>
    rw [down_zero]
    constructor
    · intro h
      exact absurd h (by simp)
    · intro h
      omega
  | succ n ih =>
    rw [down_succ, List.mem_cons, ih]
    push_cast
    constructor
    · rintro (rfl | h) <;> omega
    · intro h
      by_cases hx : x = a
      · exact Or.inl hx
      · exact Or.inr (by omega)

theorem down_succ_last : down a (n + 1) = down a n ++ [a - n] := by
  induction n generalizing a with
  | zero => simp [down_succ]
  | succ n ih =>
    rw [down_succ, ih, down_succ a n, List.cons_append]
    congr 3
    push_cast
    ring

theorem pairwise_down : (down a n).Pairwise (· > ·) := by
  induction n generalizing a with
  | zero => exact List.Pairwise.nil
  | succ n ih =>
    refine List.pairwise_cons.mpr ⟨fun x hx => ?_, ih (a - 1)⟩
    have h := mem_down.mp hx
    omega

/-! ## Segments -/

/-- A gap followed by a run. Both lengths are stored minus one, so that neither is ever empty. -/
structure Seg where
  gapPred : ℕ
  runPred : ℕ
  deriving DecidableEq

/-- How many numbers the segment skips. -/
def Seg.gap (s : Seg) : ℕ := s.gapPred + 1

/-- How many numbers the segment keeps. -/
def Seg.run (s : Seg) : ℕ := s.runPred + 1

theorem Seg.gap_pos : 0 < s.gap := Nat.succ_pos _

theorem Seg.run_pos : 0 < s.run := Nat.succ_pos _

theorem Seg.ext_lengths {s t : Seg} (hg : s.gap = t.gap) (hr : s.run = t.run) : s = t := by
  obtain ⟨g, r⟩ := s
  obtain ⟨g', r'⟩ := t
  simp only [Seg.gap, Seg.run] at hg hr
  have h₁ : g = g' := by omega
  have h₂ : r = r' := by omega
  rw [h₁, h₂]

/-- The numbers a list of segments keeps below the position `c`. -/
def expand (c : ℤ) : List Seg → List ℤ
  | [] => []
  | s :: l => down (c - s.gap) s.run ++ expand (c - s.gap - s.run) l

@[simp] theorem expand_nil : expand c [] = [] := rfl

theorem expand_cons :
    expand c (s :: l) = down (c - s.gap) s.run ++ expand (c - s.gap - s.run) l := rfl

/-- How far a list of segments reaches down. -/
def weight : List Seg → ℕ
  | [] => 0
  | s :: l => s.gap + s.run + weight l

@[simp] theorem weight_nil : weight [] = 0 := rfl

@[simp] theorem weight_cons :
    weight (s :: l) = s.gap + s.run + weight l := rfl

/-- Every kept number lies below the position and above the reach of the segments. -/
theorem mem_expand_bounds {c x : ℤ} {l : List Seg} (h : x ∈ expand c l) :
    c - weight l < x ∧ x < c := by
  induction l generalizing c with
  | nil => exact absurd h (by simp)
  | cons s l ih =>
    rw [expand_cons, List.mem_append] at h
    have hg := s.gap_pos
    rw [weight_cons]
    push_cast
    rcases h with h | h
    · have hx := mem_down.mp h
      omega
    · have hx := ih h
      omega

theorem pairwise_expand : (expand c l).Pairwise (· > ·) := by
  induction l generalizing c with
  | nil => exact List.Pairwise.nil
  | cons s l ih =>
    rw [expand_cons, List.pairwise_append]
    refine ⟨pairwise_down _ _, ih _, fun x hx y hy => ?_⟩
    have h₁ := mem_down.mp hx
    have h₂ := mem_expand_bounds hy
    omega

theorem pairwise_down_append_expand : (down a n ++ expand (a - n) l).Pairwise (· > ·) := by
  refine List.pairwise_append.mpr ⟨pairwise_down _ _, pairwise_expand _ _, fun x hx y hy => ?_⟩
  have h₁ := mem_down.mp hx
  have h₂ := mem_expand_bounds hy
  omega

theorem exists_mem_expand_last {c : ℤ} {l : List Seg} (hl : l ≠ []) :
    c - weight l + 1 ∈ expand c l := by
  induction l generalizing c with
  | nil => exact absurd rfl hl
  | cons s l ih =>
    rw [expand_cons, List.mem_append, weight_cons]
    rcases l with _ | ⟨t, l⟩
    · refine Or.inl (mem_down.mpr ?_)
      have hr := s.run_pos
      push_cast
      rw [weight_nil]
      omega
    · have h := ih (c := c - s.gap - s.run) (List.cons_ne_nil t l)
      refine Or.inr ?_
      have e : c - ((s.gap + s.run + weight (t :: l) : ℕ) : ℤ) + 1 =
          c - s.gap - s.run - weight (t :: l) + 1 := by
        push_cast
        ring
      rw [e]
      exact h

/-! ## The run code of a descending list -/

/-- The run code below `prev`: how many numbers continue the run of `prev`, and the segments
after it. -/
def ofDesc (prev : ℤ) : List ℤ → ℕ × List Seg
  | [] => (0, [])
  | x :: l =>
    if x = prev - 1 then ((ofDesc x l).1 + 1, (ofDesc x l).2)
    else (0, ⟨(prev - x - 2).toNat, (ofDesc x l).1⟩ :: (ofDesc x l).2)

theorem ofDesc_cons_pred (l : List ℤ) :
    ofDesc prev ((prev - 1) :: l) = ((ofDesc (prev - 1) l).1 + 1, (ofDesc (prev - 1) l).2) := by
  rw [ofDesc, if_pos rfl]

theorem ofDesc_cons_of_ne {prev x : ℤ} (h : x ≠ prev - 1) (l : List ℤ) :
    ofDesc prev (x :: l) =
      (0, ⟨(prev - x - 2).toNat, (ofDesc x l).1⟩ :: (ofDesc x l).2) := by
  rw [ofDesc, if_neg h]

/-- The run code reads the list back. -/
theorem down_append_expand_ofDesc {prev : ℤ} {l : List ℤ} (h : (prev :: l).Pairwise (· > ·)) :
    down prev ((ofDesc prev l).1 + 1) ++
      expand (prev - ((ofDesc prev l).1 + 1 : ℕ)) (ofDesc prev l).2 = prev :: l := by
  induction l generalizing prev with
  | nil => rfl
  | cons x l ih =>
    have htail := ih (List.pairwise_cons.mp h).2
    have hlt : prev > x := (List.pairwise_cons.mp h).1 x (List.mem_cons_self ..)
    by_cases hx : x = prev - 1
    · -- the run of `prev` goes on
      subst hx
      rw [ofDesc_cons_pred, down_succ, List.cons_append]
      have e : prev - (((ofDesc (prev - 1) l).1 + 1 + 1 : ℕ) : ℤ) =
          prev - 1 - (((ofDesc (prev - 1) l).1 + 1 : ℕ) : ℤ) := by
        push_cast
        ring
      rw [e, htail]
    · -- a gap: a new segment starts at `x`
      rw [ofDesc_cons_of_ne hx, down_succ, down_zero, List.cons_append, List.nil_append,
        expand_cons]
      have hgap : prev - ((0 + 1 : ℕ) : ℤ) -
          (Seg.gap ⟨(prev - x - 2).toNat, (ofDesc x l).1⟩ : ℤ) = x := by
        simp only [Seg.gap]
        push_cast
        omega
      rw [hgap]
      have hrun : Seg.run ⟨(prev - x - 2).toNat, (ofDesc x l).1⟩ = (ofDesc x l).1 + 1 := rfl
      rw [hrun, htail]

/-- How many numbers at the head of a list continue the run of `prev`. -/
def runBelow (prev : ℤ) : List ℤ → ℕ
  | [] => 0
  | x :: l => if x = prev - 1 then runBelow x l + 1 else 0

theorem runBelow_eq_ofDesc (l : List ℤ) : runBelow prev l = (ofDesc prev l).1 := by
  induction l generalizing prev with
  | nil => rfl
  | cons x l ih =>
    rw [runBelow, ofDesc]
    by_cases hx : x = prev - 1
    · rw [if_pos hx, if_pos hx, ih]
    · rw [if_neg hx, if_neg hx]

/-- Dropping the rest of the first run leaves the segments. -/
theorem ofDesc_drop_runBelow (l : List ℤ) :
    ofDesc (prev - runBelow prev l) (l.drop (runBelow prev l)) = (0, (ofDesc prev l).2) := by
  induction l generalizing prev with
  | nil => simp [runBelow, ofDesc]
  | cons x l ih =>
    by_cases hx : x = prev - 1
    · have hr : runBelow prev (x :: l) = runBelow x l + 1 := by rw [runBelow, if_pos hx]
      have hs : (ofDesc prev (x :: l)).2 = (ofDesc x l).2 := by rw [ofDesc, if_pos hx]
      have e : prev - ((runBelow x l + 1 : ℕ) : ℤ) = x - runBelow x l := by
        push_cast
        omega
      rw [hr, hs, List.drop_succ_cons, e, ih]
    · have hr : runBelow prev (x :: l) = 0 := by rw [runBelow, if_neg hx]
      rw [hr, List.drop_zero, Nat.cast_zero, sub_zero, ofDesc_cons_of_ne hx]

/-! ## Cutting lengths -/

/-- A segment with both lengths cut at `n + 1`. -/
def Seg.cap (n : ℕ) (s : Seg) : Seg := ⟨min s.gapPred n, min s.runPred n⟩

/-- Nothing was cut. -/
def Seg.Fits (n : ℕ) (s : Seg) : Prop := s.gap ≤ n + 1 ∧ s.run ≤ n + 1

instance (n : ℕ) (s : Seg) : Decidable (s.Fits n) := inferInstanceAs (Decidable (_ ∧ _))

theorem Seg.gap_cap : (s.cap n).gap = min s.gap (n + 1) := by
  simp only [Seg.cap, Seg.gap]
  omega

theorem Seg.run_cap : (s.cap n).run = min s.run (n + 1) := by
  simp only [Seg.cap, Seg.run]
  omega

theorem Seg.cap_eq_self_iff {n : ℕ} {s : Seg} : s.cap n = s ↔ s.Fits n := by
  constructor
  · intro h
    have hg := congrArg Seg.gap h
    have hr := congrArg Seg.run h
    rw [Seg.gap_cap] at hg
    rw [Seg.run_cap] at hr
    exact ⟨by omega, by omega⟩
  · rintro ⟨hg, hr⟩
    apply Seg.ext_lengths
    · rw [Seg.gap_cap]
      omega
    · rw [Seg.run_cap]
      omega

theorem map_cap_eq_self {n : ℕ} {l : List Seg} (h : ∀ s ∈ l, s.Fits n) :
    l.map (Seg.cap n) = l := by
  conv_rhs => rw [← List.map_id l]
  exact List.map_congr_left fun s hs => Seg.cap_eq_self_iff.mpr (h s hs)

/-- How many numbers a list of segments keeps. -/
def size : List Seg → ℕ
  | [] => 0
  | s :: l => s.run + size l

theorem length_expand : (expand c l).length = size l := by
  induction l generalizing c with
  | nil => rfl
  | cons s l ih => rw [expand_cons, List.length_append, length_down, ih, size]

/-- Cutting lengths and dropping segments never reaches further down nor keeps more numbers. It
reaches as far only when nothing was cut or dropped, and keeps as many only when no run was cut and
no segment dropped. -/
theorem map_cap_take_le (k : ℕ) (l : List Seg) :
    (weight ((l.take k).map (Seg.cap n)) ≤ weight l ∧
      (weight ((l.take k).map (Seg.cap n)) = weight l ↔ l.length ≤ k ∧ ∀ s ∈ l, s.Fits n)) ∧
    size ((l.take k).map (Seg.cap n)) ≤ size l ∧
      (size ((l.take k).map (Seg.cap n)) = size l → l.length ≤ k ∧ ∀ s ∈ l, s.run ≤ n + 1) := by
  induction l generalizing k with
  | nil => simp
  | cons s l ih =>
    have hr := s.run_pos
    rcases k with _ | k
    · simp only [List.take_zero, List.map_nil, weight_nil, weight_cons, size, List.length_cons]
      omega
    · obtain ⟨⟨hle, hiff⟩, hsize, himp⟩ := ih k
      simp only [List.take_succ_cons, List.map_cons, weight_cons, size, Seg.gap_cap, Seg.run_cap,
        List.length_cons, List.forall_mem_cons, Seg.Fits]
      refine ⟨⟨by omega, fun h => ?_, fun h => ?_⟩, by omega, fun h => ?_⟩
      · have hw := hiff.mp (by omega)
        exact ⟨by omega, ⟨by omega, by omega⟩, hw.2⟩
      · have hw := hiff.mpr ⟨by omega, h.2.2⟩
        omega
      · have hw := himp (by omega)
        exact ⟨by omega, by omega, hw.2⟩

theorem gap_le_of_expand_cap_eq {n : ℕ} {c : ℤ} {l : List Seg} (hrun : ∀ s ∈ l, s.run ≤ n + 1)
    (h : expand c (l.map (Seg.cap n)) = expand c l) : ∀ s ∈ l, s.Fits n := by
  induction l generalizing c with
  | nil => exact fun s hs => absurd hs (by simp)
  | cons s l ih =>
    rw [List.forall_mem_cons] at hrun
    rw [List.map_cons, expand_cons, expand_cons] at h
    have hr : (s.cap n).run = s.run := by
      rw [Seg.run_cap]
      omega
    rw [hr] at h
    -- the first kept number pins the gap
    obtain ⟨r, hrs⟩ : ∃ r, s.run = r + 1 := ⟨s.runPred, rfl⟩
    have hhead : c - ((s.cap n).gap : ℤ) = c - (s.gap : ℤ) := by
      rw [hrs, down_succ, down_succ, List.cons_append, List.cons_append] at h
      exact (List.cons.inj h).1
    have hg : (s.cap n).gap = s.gap := by omega
    rw [hg] at h
    have htail := List.append_cancel_left h
    rw [Seg.gap_cap] at hg
    refine List.forall_mem_cons.mpr ⟨⟨by omega, hrun.1⟩, ih hrun.2 htail⟩

/-- A cut code keeps every number exactly when nothing was cut. The code of a set is cut to
a first run of `m' ≤ m` numbers and to its first `k` segments, each cut at `n + 1`. -/
theorem subset_cap_iff {a : ℤ} {m m' n k : ℕ} {l : List Seg} (hm : m' ≤ m) :
    (∀ x ∈ down a m ++ expand (a - m) l,
        x ∈ down a m' ++ expand (a - m') ((l.take k).map (Seg.cap n))) ↔
      m' = m ∧ l.length ≤ k ∧ ∀ s ∈ l, s.Fits n := by
  constructor
  · intro h
    have hnd : (down a m ++ expand (a - m) l).Nodup :=
      (pairwise_down_append_expand a m l).imp fun hxy => ne_of_gt hxy
    have hsub := List.subperm_of_subset hnd h
    -- the cut code has at most as many numbers, so exactly as many, and is the same list
    have hlen := hsub.length_le
    simp only [List.length_append, length_down, length_expand] at hlen
    obtain ⟨hle, himp⟩ := (map_cap_take_le n k l).2
    obtain ⟨hk, hruns⟩ := himp (by omega)
    have hmm : m' = m := by omega
    refine ⟨hmm, hk, ?_⟩
    subst hmm
    have hperm := hsub.perm_of_length_le (by
      simp only [List.length_append, length_down, length_expand]
      omega)
    have heq := List.Perm.eq_of_pairwise (fun x y _ _ (h₁ : x > y) (h₂ : y > x) => by omega)
      (pairwise_down_append_expand a m' l)
      (pairwise_down_append_expand a m' ((l.take k).map (Seg.cap n))) hperm
    have htail := List.append_cancel_left heq
    rw [List.take_of_length_le hk] at htail
    exact gap_le_of_expand_cap_eq hruns htail.symm
  · rintro ⟨rfl, hk, hfit⟩ x hx
    rw [List.take_of_length_le hk, map_cap_eq_self hfit]
    exact hx

/-! ## Where a cut code puts its runs -/

/-- Below a position `c`, with everything moved up by `δ`: every run, cut at `n + 1`, lands inside
`S` once the lengths cut above it are added to `δ`. -/
def LandsIn (n : ℕ) (S : ℤ → Prop) (c δ : ℤ) : List Seg → Prop
  | [] => True
  | s :: l =>
    (∀ x, x ∈ down (c - s.gap) (min s.run (n + 1)) →
        S (x + (δ + (s.gap - min s.gap (n + 1) : ℕ)))) ∧
      LandsIn n S (c - s.gap - s.run)
        (δ + (s.gap - min s.gap (n + 1) : ℕ) + (s.run - min s.run (n + 1) : ℕ)) l

/-- Cutting a length moves what is below it up. What the cut code keeps below `c + δ` is what
the original keeps below `c`, each run moved up by the lengths cut above it. -/
theorem forall_mem_expand_cap_iff (S : ℤ → Prop) (c δ : ℤ) (l : List Seg) :
    (∀ x ∈ expand (c + δ) (l.map (Seg.cap n)), S x) ↔ LandsIn n S c δ l := by
  induction l generalizing c δ with
  | nil => simp [LandsIn]
  | cons s l ih =>
    rw [List.map_cons, expand_cons, List.forall_mem_append, LandsIn, Seg.gap_cap, Seg.run_cap,
      ← ih]
    have hpos : c + δ - ((min s.gap (n + 1) : ℕ) : ℤ) - ((min s.run (n + 1) : ℕ) : ℤ) =
        c - s.gap - s.run +
          (δ + ((s.gap - min s.gap (n + 1) : ℕ) : ℤ) + ((s.run - min s.run (n + 1) : ℕ) : ℤ)) := by
      omega
    rw [hpos]
    refine and_congr_left fun _ => ⟨fun h x hx => ?_, fun h x hx => ?_⟩
    · apply h
      have hb := mem_down.mp hx
      exact mem_down.mpr (by omega)
    · have hb := mem_down.mp hx
      have hx' := h (x - (δ + ((s.gap - min s.gap (n + 1) : ℕ) : ℤ)))
        (mem_down.mpr (by omega))
      rwa [sub_add_cancel] at hx'

end DescRuns
end GoNoise
