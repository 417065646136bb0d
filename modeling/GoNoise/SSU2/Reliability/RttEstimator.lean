import Mathlib.Data.List.Induction
import GoNoise.Library.Binary64
import GoNoise.Library.MachineInt
import GoNoise.Library.Traces
import GoNoise.Oops

/-!
# The RTT estimator

`RTTEstimator`: the averages are computed in floating point and truncated to nanoseconds.
-/

namespace GoNoise.SSU2

open Trace Binary64

def clockGranularity : Duration := millisecond
def initialRTO : Duration := 1 * second
def minRTO : Duration := 1 * second
def maxRTO : Duration := 60 * second

structure RTTEstimator where
  smoothedRTT : Duration
  rttVariance : Duration
  minRTT : Duration
  initialized : Bool
  deriving DecidableEq

namespace RTTEstimator

def newRTTEstimator : RTTEstimator := ⟨0, 0, 0, false⟩

def update (r : RTTEstimator) (sample : Duration) : RTTEstimator :=
  if sample ≤ 0 then r
  else if r.initialized = false then ⟨sample, sample.tdiv 2, sample, true⟩
  else
    let diff := if sample > r.smoothedRTT then sample - r.smoothedRTT else r.smoothedRTT - sample
    { r with
      rttVariance := toInt (add
        (mul (ofInt r.rttVariance) (1 - 0.25))
        (mul (ofInt diff) 0.25))
      smoothedRTT := toInt (add
        (mul (ofInt r.smoothedRTT) (1 - 0.125))
        (mul (ofInt sample) 0.125))
      minRTT := if sample < r.minRTT then sample else r.minRTT }

def getRTO (r : RTTEstimator) : Duration :=
  if r.initialized = false then initialRTO
  else
    let variance := toInt (mul 4 (ofInt r.rttVariance))
    let variance := if variance < clockGranularity then clockGranularity else variance
    let rto := int64 (r.smoothedRTT + variance)
    if rto < minRTO then minRTO else if rto > maxRTO then maxRTO else rto

/-! ## One sample -/

variable {r : RTTEstimator} {sample : Duration} {samples : List Duration}

theorem update_of_initialized (h : r.initialized = true) (hpos : 0 < sample)
    (hsample : sample < 2 ^ 50) (hsmoothed : 0 ≤ r.smoothedRTT)
    (hsmoothed' : r.smoothedRTT < 2 ^ 50) (hvar : 0 ≤ r.rttVariance)
    (hvar' : r.rttVariance < 2 ^ 50) :
    r.update sample =
      { r with
        rttVariance := (3 * r.rttVariance + |r.smoothedRTT - sample|) / 4
        smoothedRTT := (7 * r.smoothedRTT + sample) / 8
        minRTT := min r.minRTT sample } := by
  have hdiff : (if sample > r.smoothedRTT then sample - r.smoothedRTT else r.smoothedRTT - sample) =
      |r.smoothedRTT - sample| := by
    split_ifs <;> grind
  have hvariance := toInt_weighted 2 hvar (abs_nonneg (r.smoothedRTT - sample))
    (p := 3) (q := 1) (by norm_num) (by norm_num) (by lia)
  have haverage := toInt_weighted 3 hsmoothed hpos.le
    (p := 7) (q := 1) (by norm_num) (by norm_num) (by lia)
  norm_num at hvariance haverage
  unfold update
  rw [if_neg (by lia), if_neg (by simp [h])]
  rw [hdiff]
  norm_num
  exact ⟨haverage, hvariance, by split_ifs <;> lia⟩

theorem getRTO_bounds (r : RTTEstimator) : second ≤ r.getRTO ∧ r.getRTO ≤ 60 * second := by
  have hmin : minRTO = second := by decide
  have hmax : maxRTO = 60 * second := by decide
  have hinit : initialRTO = second := by decide
  have hsecond : (0 : ℤ) < second := by decide
  unfold getRTO
  split_ifs <;> lia

/-! ## All samples -/

/-- What the estimator knows of the samples. -/
structure Tracks (samples : List Duration) (r : RTTEstimator) : Prop where
  initialized : r.initialized = true
  minRTT_mem : r.minRTT ∈ samples
  minRTT_le : ∀ sample ∈ samples, r.minRTT ≤ sample
  minRTT_le_smoothedRTT : r.minRTT ≤ r.smoothedRTT
  smoothedRTT_le : ∃ sample ∈ samples, r.smoothedRTT ≤ sample
  rttVariance_nonneg : 0 ≤ r.rttVariance
  rttVariance_lt : r.rttVariance < 2 ^ 50

theorem tracks_first (h : r.initialized = false) (hpos : 0 < sample)
    (hsample : sample < 2 ^ 50) : Tracks [sample] (r.update sample) := by
  have hhalf : sample.tdiv 2 = sample / 2 := Int.tdiv_eq_ediv_of_nonneg hpos.le
  rw [update, if_neg (by lia), if_pos h, hhalf]
  constructor <;> simp <;> lia

theorem tracks_update (h : Tracks samples r)
    (hsamples : ∀ sample ∈ samples, 0 < sample ∧ sample < 2 ^ 50) (hpos : 0 < sample)
    (hsample : sample < 2 ^ 50) : Tracks (samples ++ [sample]) (r.update sample) := by
  obtain ⟨largest, hlargest, hle⟩ := h.smoothedRTT_le
  have hmin := (hsamples _ h.minRTT_mem).1
  have hmax := (hsamples _ hlargest).2
  have hsmoothed := h.minRTT_le_smoothedRTT
  have hvar := h.rttVariance_nonneg
  have hvar' := h.rttVariance_lt
  have hdiff := abs_nonneg (r.smoothedRTT - sample)
  have hdiff' : |r.smoothedRTT - sample| < 2 ^ 50 := by grind
  rw [update_of_initialized h.initialized hpos hsample (by lia) (by lia) hvar hvar']
  refine ⟨h.initialized, ?_, fun s hs => ?_, ?_, ?_, ?_, ?_⟩ <;> dsimp only
  · rcases min_choice r.minRTT sample with heq | heq <;> rw [heq]
    · exact List.mem_append_left _ h.minRTT_mem
    · exact List.mem_append_right _ List.mem_cons_self
  · rcases List.mem_append.mp hs with hs | hs
    · exact (min_le_left _ _).trans (h.minRTT_le s hs)
    · exact (min_le_right _ _).trans_eq (List.mem_singleton.mp hs).symm
  -- a truncated average is between the smaller and the larger of the two numbers
  · lia
  · rcases le_total r.smoothedRTT sample with hcmp | hcmp
    · exact ⟨sample, List.mem_append_right _ List.mem_cons_self, by lia⟩
    · exact ⟨largest, List.mem_append_left _ hlargest, by lia⟩
  · lia
  · lia

theorem tracks_exec (hsamples : ∀ sample ∈ samples, 0 < sample ∧ sample < 2 ^ 50)
    (hne : samples ≠ []) : Tracks samples (exec update newRTTEstimator samples) := by
  induction samples using List.reverseRecOn with
  | nil => exact absurd rfl hne
  | append_singleton samples sample ih =>
    obtain ⟨hold, hpos, hsample⟩ := by
      simpa only [List.forall_mem_append, List.forall_mem_singleton] using hsamples
    rw [exec_append]
    rcases eq_or_ne samples [] with rfl | hne'
    · exact tracks_first rfl hpos hsample
    · exact tracks_update (ih hold hne') hold hpos hsample

/-- **The RTT estimator.** After the last of any samples below `2 ^ 50` nanoseconds, and so after
each of them: the minimum is the smallest sample, the smoothed RTT is between the smallest and the
largest one, the variance is not negative, and the timeout is between 1 and 60 seconds. -/
theorem update_bounds (samples : List Duration) (hne : samples ≠ [])
    (hsamples : ∀ sample ∈ samples, 0 < sample ∧ sample < 2 ^ 50) :
    let r := exec update newRTTEstimator samples
    samples.min? = some r.minRTT ∧ r.minRTT ≤ r.smoothedRTT ∧
      (∀ largest ∈ samples.max?, r.smoothedRTT ≤ largest) ∧ 0 ≤ r.rttVariance ∧
      second ≤ r.getRTO ∧ r.getRTO ≤ 60 * second := by
  have h := tracks_exec hsamples hne
  refine ⟨List.min?_eq_some_iff.mpr ⟨h.minRTT_mem, h.minRTT_le⟩, h.minRTT_le_smoothedRTT,
    fun largest hlargest => ?_, h.rttVariance_nonneg, getRTO_bounds _⟩
  obtain ⟨sample, hmem, hle⟩ := h.smoothedRTT_le
  exact hle.trans ((List.max?_eq_some_iff.mp hlargest).2 sample hmem)

theorem update_bounds_three :
    (exec update newRTTEstimator [8, 20, 5]).smoothedRTT = 8 ∧
      second ≤ (exec update newRTTEstimator [8, 20, 5]).getRTO := by
  obtain ⟨-, -, -, -, hrto, -⟩ := update_bounds [8, 20, 5] (by decide) (by decide)
  exact ⟨by decide +kernel, hrto⟩

end RTTEstimator
end GoNoise.SSU2
