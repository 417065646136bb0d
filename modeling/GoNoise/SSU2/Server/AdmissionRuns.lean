import GoNoise.Library.Traces
import GoNoise.SSU2.Server.TokenAdmission
import Mathlib.Tactic.Linarith
import Mathlib.Tactic.Positivity
import Mathlib.Tactic.Ring

/-!
# `token_admission.go` over whole runs

The bucket bounds what is allowed in any interval of time.
-/

namespace GoNoise.SSU2

open Trace

/-! ## The issuance limiter -/

theorem seconds_nonneg {d : Duration} (h : 0 ≤ d) : 0 ≤ seconds d := by
  unfold seconds second
  positivity

theorem seconds_sub_add (a b c : Time) : seconds (b - a) + seconds (c - b) = seconds (c - a) := by
  unfold seconds
  push_cast
  ring

namespace TokenIssuanceLimiter

variable {t : TokenIssuanceLimiter} {now t₀ t₁ : Time} {times : List Time}

/-- The number of requests in `[t₀, t₁]` that are allowed, of requests at the given times. -/
def allowedBetween (t₀ t₁ : Time) : List Time → TokenIssuanceLimiter → ℕ
  | [], _ => 0
  | now :: times, t =>
    (if t₀ ≤ now ∧ now ≤ t₁ ∧ (t.allow now).1 = true then 1 else 0) +
      allowedBetween t₀ t₁ times (t.allow now).2

/-- The bucket is neither overdrawn nor overfull. -/
structure Level (t : TokenIssuanceLimiter) : Prop where
  rate : 0 ≤ t.rate
  tokens : 0 ≤ t.tokens
  burst : t.tokens ≤ t.burst

theorem level_new (rate burst : ℚ) (now : Time) :
    Level (newTokenIssuanceLimiter rate burst now) := by
  constructor <;> simp only [newTokenIssuanceLimiter] <;> split_ifs <;> linarith

/-- The refill brings the bucket to the present. -/
theorem refill_spec (h : t.Level) (hnow : t.lastRefill ≤ now) :
    (t.refill now).Level ∧ (t.refill now).lastRefill = now ∧ (t.refill now).rate = t.rate ∧
      (t.refill now).burst = t.burst ∧
      (t.refill now).tokens ≤ t.tokens + t.rate * seconds (now - t.lastRefill) := by
  have helapsed := seconds_nonneg (Int.sub_nonneg.mpr hnow)
  have hgain := mul_nonneg helapsed h.rate
  obtain ⟨hrate, htokens, hburst⟩ := h
  unfold refill
  dsimp only
  split_ifs with hpos hover
  · exact ⟨⟨hrate, by linarith, le_rfl⟩, rfl, rfl, rfl, by linarith⟩
  · exact ⟨⟨hrate, by linarith, by linarith⟩, rfl, rfl, rfl, by linarith⟩
  · refine ⟨⟨hrate, htokens, hburst⟩, ?_, rfl, rfl, by linarith⟩
    by_contra hne
    exact hpos (by unfold seconds second; positivity)

def allowance (t₀ t₁ : Time) (t : TokenIssuanceLimiter) : ℚ :=
  if t.lastRefill < t₀ then t.burst + t.rate * seconds (t₁ - t₀)
  else t.tokens + t.rate * seconds (t₁ - t.lastRefill)

/-- One request takes from the allowance what it is allowed. -/
theorem allowance_allow (h : t.Level) (hnow : t.lastRefill ≤ now) :
    (t.allow now).2.Level ∧ (t.allow now).2.lastRefill ≤ now ∧ (t.allow now).2.rate = t.rate ∧
      (t.allow now).2.burst = t.burst ∧
      (if t₀ ≤ now ∧ (t.allow now).1 = true then 1 else 0) + allowance t₀ t₁ (t.allow now).2 ≤
        allowance t₀ t₁ t := by
  by_cases hzero : t.rate = 0
  · have hsame : t.allow now = (false, t) := if_pos hzero
    rw [hsame, if_neg (by simp)]
    exact ⟨h, hnow, rfl, rfl, (zero_add _).le⟩
  obtain ⟨⟨hrate₀, htokens₀, hburst₀⟩, hlast, hrate, hburst, htokens⟩ := refill_spec h hnow
  have hsplit := congrArg (t.rate * ·) (seconds_sub_add t.lastRefill now t₁)
  have hstart := congrArg (t.rate * ·) (seconds_sub_add t₀ now t₁)
  have hwait : t₀ ≤ now → 0 ≤ t.rate * seconds (now - t₀) := fun hle =>
    mul_nonneg h.rate (seconds_nonneg (Int.sub_nonneg.mpr hle))
  have hallow : t.allow now = if (t.refill now).tokens ≥ 1 then
      (true, { t.refill now with tokens := (t.refill now).tokens - 1 })
      else (false, t.refill now) := if_neg hzero
  rw [hallow]
  generalize t.refill now = r at *
  obtain ⟨rate, burst, tokens, lastRefill⟩ := r
  subst hlast hrate hburst
  unfold allowance
  by_cases hone : tokens ≥ 1
  · rw [if_pos hone]
    exact ⟨⟨hrate₀, by linarith, by linarith⟩, le_rfl, rfl, rfl, by grind⟩
  · rw [if_neg hone]
    exact ⟨⟨hrate₀, by linarith, by linarith⟩, le_rfl, rfl, rfl, by grind⟩

theorem allowedBetween_of_after (h : ∀ now ∈ times, t₁ < now) : allowedBetween t₀ t₁ times t =
    0 := by
  induction times generalizing t with
  | nil => rfl
  | cons now times ih =>
    rw [allowedBetween, ih fun n hn => h n (List.mem_cons_of_mem _ hn), if_neg]
    exact fun hin => absurd hin.2.1 (not_le.mpr (h now List.mem_cons_self))

theorem allowance_nonneg (h : t.Level) (hle : t₀ ≤ t₁) (hlast : t.lastRefill ≤ t₁) :
    0 ≤ allowance t₀ t₁ t := by
  obtain ⟨hrate, htokens, hburst⟩ := h
  unfold allowance
  split_ifs
  · exact add_nonneg (htokens.trans hburst)
      (mul_nonneg hrate (seconds_nonneg (Int.sub_nonneg.mpr hle)))
  · exact add_nonneg htokens (mul_nonneg hrate (seconds_nonneg (Int.sub_nonneg.mpr hlast)))

/-- A run of requests is allowed no more than the allowance. -/
theorem allowedBetween_le (h : t.Level) (hle : t₀ ≤ t₁) (hlast : t.lastRefill ≤ t₁)
    (hclock : (t.lastRefill :: times).Pairwise (· ≤ ·)) :
    (allowedBetween t₀ t₁ times t : ℚ) ≤ allowance t₀ t₁ t := by
  induction times generalizing t with
  | nil => simpa [allowedBetween] using allowance_nonneg h hle hlast
  | cons now times ih =>
    rw [List.pairwise_cons, List.pairwise_cons] at hclock
    obtain ⟨hfirst, hlater, hrest⟩ := hclock
    by_cases hend : now ≤ t₁
    · obtain ⟨hlevel, hlast', hrate, hburst, hstep⟩ :=
        @allowance_allow t now t₀ t₁ h (hfirst now List.mem_cons_self)
      have hih := ih hlevel (hlast'.trans hend)
        (List.pairwise_cons.mpr ⟨fun n hn => hlast'.trans (hlater n hn), hrest⟩)
      rw [allowedBetween]
      push_cast
      simp only [hend, true_and]
      exact (add_le_add_right hih _).trans hstep
    · -- the clock has left the interval
      have hafter : allowedBetween t₀ t₁ (now :: times) t = 0 := by
        refine allowedBetween_of_after fun n hn => ?_
        rcases List.mem_cons.mp hn with rfl | hn
        · exact not_le.mp hend
        · exact (not_le.mp hend).trans_le (hlater n hn)
      rw [hafter]
      exact_mod_cast allowance_nonneg h hle hlast

/-- **Issuance is bounded.** For requests at any times under a clock that does not go back, at most
`burst + rate * (t₁ - t₀)` are allowed in any interval `[t₀, t₁]`. -/
theorem issuance_bounded (rate burst : ℚ) (created : Time)
    (hclock : (created :: times).Pairwise (· ≤ ·)) (hle : t₀ ≤ t₁) :
    let t := newTokenIssuanceLimiter rate burst created
    (allowedBetween t₀ t₁ times t : ℚ) ≤ t.burst + t.rate * seconds (t₁ - t₀) := by
  intro t
  have hlevel : t.Level := level_new rate burst created
  by_cases hstart : created ≤ t₁
  · refine (allowedBetween_le hlevel hle hstart hclock).trans ?_
    have hsplit := congrArg (t.rate * ·) (seconds_sub_add t₀ created t₁)
    unfold allowance
    split_ifs with hearly
    · exact le_rfl
    · have hwait : 0 ≤ t.rate * seconds (created - t₀) :=
        mul_nonneg hlevel.rate (seconds_nonneg (Int.sub_nonneg.mpr (not_lt.mp hearly)))
      have hburst := hlevel.burst
      show t.tokens + t.rate * seconds (t₁ - created) ≤ _
      linarith
  · rw [allowedBetween_of_after fun n hn =>
      (not_le.mp hstart).trans_le ((List.pairwise_cons.mp hclock).1 n hn)]
    exact add_nonneg (hlevel.tokens.trans hlevel.burst)
      (mul_nonneg hlevel.rate (seconds_nonneg (Int.sub_nonneg.mpr hle)))

/-- Two tokens a second and a burst of one: of four requests within a second, three are allowed. -/
theorem issuance_bounded_second :
    allowedBetween 0 second [0, 0, second / 2, second] (newTokenIssuanceLimiter 2 1 0) = 3 ∧
      (3 : ℚ) ≤ 1 + 2 * seconds (second - 0) := by
  have hcount : allowedBetween 0 second [0, 0, second / 2, second] (newTokenIssuanceLimiter 2 1 0) =
      3 := by decide +kernel
  refine ⟨hcount, ?_⟩
  have h := @issuance_bounded 0 second [0, 0, second / 2, second] 2 1 0 (by decide +kernel)
    (by decide +kernel)
  dsimp only at h
  rw [hcount] at h
  exact h

end TokenIssuanceLimiter
end GoNoise.SSU2
