import GoNoise.Library.MachineInt
import GoNoise.Library.Traces
import GoNoise.SSU2.Wire.Packet

/-!
# The congestion controller

`CongestionController`, with the arithmetic of the 64-bit type `int`. The bandwidth estimate and
the RTT estimator are read only through the bandwidth-times-RTT product and the smoothed RTT; both
are arguments of the operations that read them.
-/

namespace GoNoise.SSU2

open Trace

/-! ## The controller -/

def minCongestionWindow : ℤ := 1280
def initialCongestionWindow : ℤ := maxPacketSizeIPv4 * 3
def maxCongestionWindow : ℤ := 1024 * 1024
def initialSlowStartThreshold : ℤ := maxCongestionWindow
def persistentCongestionMultiplier : ℤ := 3

inductive CongestionState
  | slowStart
  | congestionAvoidance
  | recovery
  deriving DecidableEq

structure CongestionController where
  cwnd : ℤ
  ssthresh : ℤ
  state : CongestionState
  bytesAcked : ℤ
  bytesInFlight : ℤ
  /-- `none` is the zero time -/
  congestionEpochStart : Option Time
  mtu : ℤ
  deriving DecidableEq

/-- What an operation reads from the clock and from the estimates. -/
structure Estimates where
  now : Time
  /-- `GetSmoothedRTT`, if there is an RTT estimator -/
  smoothedRTT : Option Duration
  /-- `int(bandwidthEstimate * minRTT.Seconds())`, if both factors are there and positive -/
  bwWindow : Option ℤ
  deriving DecidableEq

namespace CongestionController

def newCongestionControllerWithMTU (mtu : ℤ) : CongestionController :=
  let mtu := if mtu ≤ 0 then (maxPacketSizeIPv4 : ℤ) else mtu
  { cwnd := int64 (mtu * 3)
    ssthresh := initialSlowStartThreshold
    state := .slowStart
    bytesAcked := 0
    bytesInFlight := 0
    congestionEpochStart := none
    mtu := mtu }

def onPacketSent (cc : CongestionController) (packetSize : ℤ) : CongestionController :=
  if packetSize ≤ 0 then cc
  else { cc with bytesInFlight := int64 (cc.bytesInFlight + packetSize) }

def handleSlowStartAck (cc : CongestionController) (ackedBytes : ℤ) : CongestionController :=
  let cwnd := int64 (cc.cwnd + ackedBytes)
  let cwnd := if cwnd > maxCongestionWindow then maxCongestionWindow else cwnd
  { cc with
    cwnd := cwnd
    state := if cwnd ≥ cc.ssthresh then .congestionAvoidance else cc.state }

/-- The increment of the window in congestion avoidance. -/
def mss (cc : CongestionController) : ℤ :=
  if cc.mtu < minCongestionWindow then minCongestionWindow else cc.mtu

/-- `handleCongestionAvoidanceAck`. The window grows before it is taken from the accumulator. -/
def handleCongestionAvoidanceAck (cc : CongestionController) (ackedBytes : ℤ) :
    CongestionController :=
  let bytesAcked := int64 (cc.bytesAcked + ackedBytes)
  let (cwnd, bytesAcked) :=
    if bytesAcked ≥ cc.cwnd then
      let cwnd := int64 (cc.cwnd + cc.mss)
      let bytesAcked := int64 (bytesAcked - cwnd)
      (cwnd, if bytesAcked < 0 then 0 else bytesAcked)
    else (cc.cwnd, bytesAcked)
  { cc with
    cwnd := if cwnd > maxCongestionWindow then maxCongestionWindow else cwnd
    bytesAcked := bytesAcked }

def onAck (cc : CongestionController) (ackedBytes : ℤ) : CongestionController :=
  if ackedBytes ≤ 0 then cc
  else
    let bytesInFlight := int64 (cc.bytesInFlight - ackedBytes)
    let cc := { cc with bytesInFlight := if bytesInFlight < 0 then 0 else bytesInFlight }
    match cc.state with
    | .slowStart => cc.handleSlowStartAck ackedBytes
    | .congestionAvoidance => cc.handleCongestionAvoidanceAck ackedBytes
    | .recovery => cc

def westwoodSSThresh (cc : CongestionController) (env : Estimates) : ℤ :=
  match env.bwWindow with
  | some bwWindow =>
    if bwWindow < minCongestionWindow then minCongestionWindow
    else if bwWindow > cc.cwnd then cc.cwnd
    else bwWindow
  | none =>
    let half := cc.cwnd.tdiv 2
    if half < minCongestionWindow then minCongestionWindow else half

/-- The event is within one RTT of the one that began the epoch. -/
def coalesced (cc : CongestionController) (env : Estimates) : Bool :=
  match cc.congestionEpochStart, env.smoothedRTT with
  | some start, some rtt => rtt > 0 ∧ timeSub env.now start < rtt
  | _, _ => false

def handleCongestionEvent (cc : CongestionController) (env : Estimates)
    (targetState : CongestionState) : CongestionController :=
  if cc.state = .recovery then cc
  else if cc.coalesced env then cc
  else
    { cc with
      congestionEpochStart := some env.now
      ssthresh := cc.westwoodSSThresh env
      cwnd := cc.westwoodSSThresh env
      state := targetState
      bytesAcked := 0 }

def onPacketLoss (cc : CongestionController) (env : Estimates) : CongestionController :=
  cc.handleCongestionEvent env .recovery

def onECN (cc : CongestionController) (env : Estimates) : CongestionController :=
  cc.handleCongestionEvent env .congestionAvoidance

def onRetransmissionTimeout (cc : CongestionController) (env : Estimates) :
    CongestionController :=
  { cc with
    ssthresh := cc.westwoodSSThresh env
    cwnd := minCongestionWindow
    bytesInFlight := 0
    state := .slowStart
    bytesAcked := 0 }

def exitRecovery (cc : CongestionController) : CongestionController :=
  if cc.state = .recovery then { cc with state := .congestionAvoidance, bytesAcked := 0 } else cc

def onPersistentCongestion (cc : CongestionController) : CongestionController :=
  { cc with
    cwnd := 2 * minCongestionWindow
    ssthresh := 2 * minCongestionWindow
    bytesInFlight := 0
    bytesAcked := 0
    state := .slowStart }

/-- `PersistentCongestionThreshold`; `rto` is `GetRTO`, if there is an RTT estimator. -/
def persistentCongestionThreshold (rto : Option Duration) : Duration :=
  match rto with
  | none => 3 * second
  | some rto => int64 (persistentCongestionMultiplier * rto)

def detectPersistentCongestion (cc : CongestionController)
    (earliestLossSendTime latestLossSendTime : Option Time) (ackInRange : Bool)
    (rto : Option Duration) : Bool × CongestionController :=
  match ackInRange, earliestLossSendTime, latestLossSendTime with
  | false, some earliest, some latest =>
    let span := timeSub latest earliest
    let span := if span < 0 then int64 (-span) else span
    if span > persistentCongestionThreshold rto then (true, cc.onPersistentCongestion)
    else (false, cc)
  | _, _, _ => (false, cc)

/-- `Reset`. The MTU and the start of the epoch stay. -/
def reset (cc : CongestionController) : CongestionController :=
  { cc with
    cwnd := initialCongestionWindow
    ssthresh := initialSlowStartThreshold
    state := .slowStart
    bytesAcked := 0
    bytesInFlight := 0 }

def setCWND (cc : CongestionController) (cwnd : ℤ) : CongestionController :=
  { cc with
    cwnd :=
      if cwnd < minCongestionWindow then minCongestionWindow
      else if cwnd > maxCongestionWindow then maxCongestionWindow
      else cwnd }

/-! ## Runs -/

inductive Signal
  | packetLoss (env : Estimates)
  | ecn (env : Estimates)
  | retransmissionTimeout (env : Estimates)
  | persistentCongestion

/-- The operations that change the controller. -/
inductive Op
  | packetSent (packetSize : ℤ)
  | ack (ackedBytes : ℤ)
  | signal (signal : Signal)
  | detectPersistentCongestion (earliestLossSendTime latestLossSendTime : Option Time)
      (ackInRange : Bool) (rto : Option Duration)
  | exitRecovery
  | setCWND (cwnd : ℤ)
  | reset

def onSignal (cc : CongestionController) : Signal → CongestionController
  | .packetLoss env => cc.onPacketLoss env
  | .ecn env => cc.onECN env
  | .retransmissionTimeout env => cc.onRetransmissionTimeout env
  | .persistentCongestion => cc.onPersistentCongestion

/-- One operation. -/
def step (cc : CongestionController) : Op → CongestionController
  | .packetSent packetSize => cc.onPacketSent packetSize
  | .ack ackedBytes => cc.onAck ackedBytes
  | .signal signal => cc.onSignal signal
  | .detectPersistentCongestion earliest latest ackInRange rto =>
    (cc.detectPersistentCongestion earliest latest ackInRange rto).2
  | .exitRecovery => cc.exitRecovery
  | .setCWND cwnd => cc.setCWND cwnd
  | .reset => cc.reset

/-! ## An acknowledgment in congestion avoidance -/

theorem window_limits_eq : minCongestionWindow = 1280 ∧ maxCongestionWindow = 1048576 ∧
    initialCongestionWindow = 4416 ∧ initialSlowStartThreshold = 1048576 := by decide

/-- The accumulator reaches the window. -/
def Fills (cc : CongestionController) (ackedBytes : ℤ) : Prop :=
  cc.cwnd ≤ int64 (cc.bytesAcked + ackedBytes)

theorem min_le_mss (cc : CongestionController) : minCongestionWindow ≤ cc.mss := by
  unfold mss
  split_ifs <;> omega

variable {cc : CongestionController} {n : ℤ}

theorem mss_le {x : ℤ} (hx : minCongestionWindow ≤ x) (hmtu : cc.mtu ≤ x) : cc.mss ≤ x := by
  unfold mss
  split_ifs <;> assumption

/-- If the window is filled, the grown window is charged. -/
theorem handleCongestionAvoidanceAck_of_fills (h : cc.Fills n) :
    cc.handleCongestionAvoidanceAck n =
      { cc with
        cwnd := min (int64 (cc.cwnd + cc.mss)) maxCongestionWindow
        bytesAcked := max 0 (int64 (int64 (cc.bytesAcked + n) - int64 (cc.cwnd + cc.mss))) } := by
  have h' : int64 (cc.bytesAcked + n) ≥ cc.cwnd := h
  unfold handleCongestionAvoidanceAck
  dsimp only
  rw [if_pos h']
  congr 1
  · split_ifs <;> omega
  · split_ifs <;> omega

theorem handleCongestionAvoidanceAck_of_not_fills (h : ¬cc.Fills n) :
    cc.handleCongestionAvoidanceAck n =
      { cc with
        cwnd := min cc.cwnd maxCongestionWindow
        bytesAcked := int64 (cc.bytesAcked + n) } := by
  have h' : ¬int64 (cc.bytesAcked + n) ≥ cc.cwnd := h
  unfold handleCongestionAvoidanceAck
  dsimp only
  rw [if_neg h']
  congr 1
  split_ifs <;> omega

/-! ## Bounds -/

/-- The bounds of the window, the threshold and the counters. -/
structure Bounded (cc : CongestionController) : Prop where
  min_le_cwnd : minCongestionWindow ≤ cc.cwnd
  cwnd_le_max : cc.cwnd ≤ maxCongestionWindow
  min_le_ssthresh : minCongestionWindow ≤ cc.ssthresh
  bytesInFlight_nonneg : 0 ≤ cc.bytesInFlight
  bytesAcked_nonneg : 0 ≤ cc.bytesAcked

/-- The sum that the operation forms is a value of type `int`. -/
def Fits (cc : CongestionController) : Op → Prop
  | .packetSent packetSize => cc.bytesInFlight + packetSize < 2 ^ 63
  | .ack ackedBytes =>
    (cc.state = .slowStart → cc.cwnd + ackedBytes < 2 ^ 63) ∧
      (cc.state = .congestionAvoidance → cc.bytesAcked + ackedBytes < 2 ^ 63)
  | _ => True

instance (cc : CongestionController) : ∀ op, Decidable (cc.Fits op)
  | .packetSent _ => inferInstanceAs (Decidable (_ < _))
  | .ack _ => inferInstanceAs (Decidable (_ ∧ _))
  | .signal _ | .detectPersistentCongestion _ _ _ _ | .exitRecovery | .setCWND _ | .reset =>
    inferInstanceAs (Decidable True)

/-- The threshold that a signal sets is between the minimum and the window. -/
theorem westwoodSSThresh_bounds (h : minCongestionWindow ≤ cc.cwnd) (env : Estimates) :
    minCongestionWindow ≤ cc.westwoodSSThresh env ∧ cc.westwoodSSThresh env ≤ cc.cwnd := by
  unfold westwoodSSThresh
  split
  · split_ifs <;> omega
  · have hmin := window_limits_eq.1
    have hhalf : cc.cwnd.tdiv 2 = cc.cwnd / 2 := Int.tdiv_eq_ediv_of_nonneg (by omega)
    dsimp only
    rw [hhalf]
    split_ifs <;> omega

theorem bounded_handleSlowStartAck (h : cc.Bounded) (hn : 0 < n)
    (hfits : cc.cwnd + n < 2 ^ 63) : (cc.handleSlowStartAck n).Bounded := by
  obtain ⟨hmin, hmax, hssthresh, hflight, hacked⟩ := h
  obtain ⟨hmin', hmax', -, -⟩ := window_limits_eq
  have hsum : int64 (cc.cwnd + n) = cc.cwnd + n := int64_of_isInt ⟨by omega, hfits⟩
  constructor <;> simp only [handleSlowStartAck, hsum] <;>
    first | assumption | (split_ifs <;> omega)

theorem bounded_handleCongestionAvoidanceAck (h : cc.Bounded) (hmtu : cc.mtu ≤ 1500) (hn : 0 < n)
    (hfits : cc.bytesAcked + n < 2 ^ 63) : (cc.handleCongestionAvoidanceAck n).Bounded := by
  obtain ⟨hmin, hmax, hssthresh, hflight, hacked⟩ := h
  obtain ⟨hmin', hmax', -, -⟩ := window_limits_eq
  have hmss := cc.min_le_mss
  have hmss' : cc.mss ≤ 1500 := mss_le (by omega) hmtu
  have hacc : int64 (cc.bytesAcked + n) = cc.bytesAcked + n := int64_of_isInt ⟨by omega, hfits⟩
  have hgrown : int64 (cc.cwnd + cc.mss) = cc.cwnd + cc.mss :=
    int64_of_isInt ⟨by omega, by omega⟩
  by_cases hfills : cc.Fills n
  · rw [handleCongestionAvoidanceAck_of_fills hfills, hgrown]
    constructor <;> dsimp only <;> omega
  · rw [handleCongestionAvoidanceAck_of_not_fills hfills, hacc]
    constructor <;> dsimp only <;> omega

theorem bounded_onAck (h : cc.Bounded) (hmtu : cc.mtu ≤ 1500)
    (hfits : cc.Fits (.ack n)) : (cc.onAck n).Bounded := by
  unfold onAck
  split_ifs with hn
  · exact h
  · have hflight : ∀ b : ℤ, 0 ≤ if b < 0 then 0 else b := by intro b; split_ifs <;> omega
    dsimp only
    generalize int64 (cc.bytesInFlight - n) = b
    have h' : { cc with bytesInFlight := if b < 0 then 0 else b }.Bounded :=
      ⟨h.min_le_cwnd, h.cwnd_le_max, h.min_le_ssthresh, hflight b, h.bytesAcked_nonneg⟩
    split
    · next hstate => exact bounded_handleSlowStartAck h' (by omega) (hfits.1 hstate)
    · next hstate =>
        exact bounded_handleCongestionAvoidanceAck h' hmtu (by omega) (hfits.2 hstate)
    · exact h'

theorem bounded_handleCongestionEvent (h : cc.Bounded) (env : Estimates)
    (targetState : CongestionState) : (cc.handleCongestionEvent env targetState).Bounded := by
  obtain ⟨hlow, hhigh⟩ := westwoodSSThresh_bounds h.min_le_cwnd env
  unfold handleCongestionEvent
  split_ifs
  · exact h
  · exact h
  · exact ⟨hlow, hhigh.trans h.cwnd_le_max, hlow, h.bytesInFlight_nonneg, le_rfl⟩

theorem detectPersistentCongestion_cases (cc : CongestionController) (earliest latest : Option Time)
    (ackInRange : Bool) (rto : Option Duration) :
    (cc.detectPersistentCongestion earliest latest ackInRange rto).2 = cc.onPersistentCongestion ∨
      (cc.detectPersistentCongestion earliest latest ackInRange rto).2 = cc := by
  unfold detectPersistentCongestion
  split
  · rw [apply_ite Prod.snd]
    exact ite_eq_or_eq _ _ _
  · exact .inr rfl

theorem bounded_onPersistentCongestion (cc : CongestionController) :
    cc.onPersistentCongestion.Bounded := by
  obtain ⟨hmin, hmax, -, -⟩ := window_limits_eq
  constructor <;> dsimp only [onPersistentCongestion] <;> omega

theorem bounded_onSignal (h : cc.Bounded) (signal : Signal) : (cc.onSignal signal).Bounded := by
  cases signal with
  | packetLoss env => exact bounded_handleCongestionEvent h env .recovery
  | ecn env => exact bounded_handleCongestionEvent h env .congestionAvoidance
  | retransmissionTimeout env =>
    exact ⟨le_rfl, h.min_le_cwnd.trans h.cwnd_le_max,
      (westwoodSSThresh_bounds h.min_le_cwnd env).1, le_rfl, le_rfl⟩
  | persistentCongestion => exact cc.bounded_onPersistentCongestion

theorem bounded_step (h : cc.Bounded) (hmtu : cc.mtu ≤ 1500) {op : Op}
    (hfits : cc.Fits op) : (cc.step op).Bounded := by
  obtain ⟨hmin, hmax, -, -⟩ := window_limits_eq
  have hcwnd := h.min_le_cwnd
  cases op with
  | packetSent packetSize =>
    have hflight := h.bytesInFlight_nonneg
    unfold step onPacketSent
    dsimp only
    split_ifs with hsize
    · exact h
    · refine ⟨hcwnd, h.cwnd_le_max, h.min_le_ssthresh, ?_, h.bytesAcked_nonneg⟩
      dsimp only
      rw [int64_of_isInt ⟨by omega, hfits⟩]
      omega
  | ack ackedBytes => exact bounded_onAck h hmtu hfits
  | signal signal => exact bounded_onSignal h signal
  | detectPersistentCongestion earliest latest ackInRange rto =>
    rcases cc.detectPersistentCongestion_cases earliest latest ackInRange rto with he | he
    · rw [step, he]
      exact cc.bounded_onPersistentCongestion
    · rw [step, he]
      exact h
  | exitRecovery =>
    unfold step exitRecovery
    split_ifs
    · exact ⟨hcwnd, h.cwnd_le_max, h.min_le_ssthresh, h.bytesInFlight_nonneg, le_rfl⟩
    · exact h
  | setCWND cwnd =>
    refine ⟨?_, ?_, h.min_le_ssthresh, h.bytesInFlight_nonneg, h.bytesAcked_nonneg⟩ <;>
      (unfold step setCWND; dsimp only; split_ifs <;> omega)
  | reset =>
    obtain ⟨-, -, hinit, hssthresh⟩ := window_limits_eq
    constructor <;> dsimp only [step, CongestionController.reset] <;> omega

theorem mtu_handleCongestionEvent (cc : CongestionController) (env : Estimates)
    (targetState : CongestionState) : (cc.handleCongestionEvent env targetState).mtu = cc.mtu := by
  unfold handleCongestionEvent
  split_ifs <;> rfl

theorem mtu_onAck (cc : CongestionController) (n : ℤ) : (cc.onAck n).mtu = cc.mtu := by
  unfold onAck
  by_cases hn : n ≤ 0
  · rw [if_pos hn]
  · rw [if_neg hn]
    dsimp only
    split <;> rfl

theorem mtu_step (cc : CongestionController) (op : Op) : (cc.step op).mtu = cc.mtu := by
  cases op with
  | packetSent packetSize => unfold step onPacketSent; dsimp only; split_ifs <;> rfl
  | ack ackedBytes => exact cc.mtu_onAck ackedBytes
  | signal signal =>
    cases signal with
    | packetLoss env => exact cc.mtu_handleCongestionEvent env .recovery
    | ecn env => exact cc.mtu_handleCongestionEvent env .congestionAvoidance
    | retransmissionTimeout env => rfl
    | persistentCongestion => rfl
  | detectPersistentCongestion earliest latest ackInRange rto =>
    rcases cc.detectPersistentCongestion_cases earliest latest ackInRange rto with he | he
    · rw [step, he]
      rfl
    · rw [step, he]
  | exitRecovery => unfold step exitRecovery; dsimp only; split_ifs <;> rfl
  | setCWND cwnd => rfl
  | reset => rfl

theorem bounded_newCongestionControllerWithMTU {mtu : ℤ} (hlow : 1280 ≤ mtu) (hhigh : mtu ≤ 1500) :
    (newCongestionControllerWithMTU mtu).Bounded := by
  obtain ⟨hmin, hmax, -, -⟩ := window_limits_eq
  have hmtu : (if mtu ≤ 0 then (maxPacketSizeIPv4 : ℤ) else mtu) = mtu := if_neg (by omega)
  have hcwnd : int64 (mtu * 3) = mtu * 3 := int64_of_isInt ⟨by omega, by omega⟩
  constructor <;> simp only [newCongestionControllerWithMTU, hmtu, hcwnd] <;>
    first | omega | decide

/-- **The bounds of the controller.** In every run whose sums fit into the type `int`, the window
is between one minimum packet and the maximum, the threshold is at least one minimum packet, and the
counters are not negative. Every state of such a run is the last one of a shorter run. -/
theorem bounded_of_fits {mtu : ℤ} (hlow : 1280 ≤ mtu) (hhigh : mtu ≤ 1500) {ops : List Op}
    (hfits : Always step Fits (newCongestionControllerWithMTU mtu) ops) :
    (exec step (newCongestionControllerWithMTU mtu) ops).Bounded := by
  have hmtu : (newCongestionControllerWithMTU mtu).mtu = mtu := if_neg (by omega)
  refine (exec_induct (I := fun cc => cc.Bounded ∧ cc.mtu ≤ 1500) ?_ ⟨?_, ?_⟩ hfits).1
  · rintro cc op ⟨h, hmtu⟩ hop
    exact ⟨bounded_step h hmtu hop, (mtu_step cc op).trans_le hmtu⟩
  · exact bounded_newCongestionControllerWithMTU hlow hhigh
  · rw [hmtu]
    exact hhigh

/-- A run through all three states. -/
def mixedRun : List Op :=
  [.packetSent 3000, .ack 1500, .signal (.packetLoss ⟨5, some 3, none⟩), .exitRecovery, .ack 2670,
    .signal (.retransmissionTimeout ⟨9, some 3, some 1300⟩), .signal .persistentCongestion,
    .setCWND 7, .reset]

theorem bounded_of_fits_mixedRun :
    (exec step (newCongestionControllerWithMTU 1472) mixedRun).Bounded ∧
      (exec step (newCongestionControllerWithMTU 1472) (mixedRun.take 7)).cwnd = 2560 :=
  ⟨bounded_of_fits (by decide) (by decide) (by decide), by decide⟩

/-- The largest value of type `int`, sent twice or acknowledged once in slow start. -/
theorem overflow_not_bounded :
    (exec step (newCongestionControllerWithMTU 1472)
        [.packetSent (2 ^ 63 - 1), .packetSent (2 ^ 63 - 1)]).bytesInFlight = -2 ∧
      (exec step (newCongestionControllerWithMTU 1472) [.ack (2 ^ 63 - 1)]).cwnd =
        -9223372036854771393 := by decide

/-! ## Signals -/

/-- There is room for the window to grow. -/
def CanGrow (cc : CongestionController) : Prop :=
  cc.cwnd < maxCongestionWindow ∧ cc.cwnd + cc.mss < 2 ^ 63

theorem onAck_congestionAvoidance (hstate : cc.state = .congestionAvoidance) (hn : 0 < n) :
    (cc.onAck n).cwnd = (cc.handleCongestionAvoidanceAck n).cwnd ∧
      (cc.onAck n).bytesAcked = (cc.handleCongestionAvoidanceAck n).bytesAcked ∧
      (cc.onAck n).state = .congestionAvoidance ∧ (cc.onAck n).mss = cc.mss := by
  unfold onAck
  rw [if_neg (by omega)]
  rw [hstate]
  exact ⟨rfl, rfl, rfl, rfl⟩

/-- The window grows exactly if it is filled and there is room. -/
theorem cwnd_lt_handleCongestionAvoidanceAck_iff (hcwnd : IsInt cc.cwnd) (hmtu : IsInt cc.mtu)
    (n : ℤ) : cc.cwnd < (cc.handleCongestionAvoidanceAck n).cwnd ↔ cc.Fills n ∧ cc.CanGrow := by
  obtain ⟨hmin', hmax', -, -⟩ := window_limits_eq
  obtain ⟨hlow, hhigh⟩ := hcwnd
  have hmss := cc.min_le_mss
  have hmss' : cc.mss ≤ 2 ^ 63 - 1 := mss_le (by omega) (by have := hmtu.2; omega)
  by_cases hfills : cc.Fills n
  · rw [handleCongestionAvoidanceAck_of_fills hfills]
    dsimp only [CanGrow]
    by_cases hroom : cc.cwnd + cc.mss < 2 ^ 63
    · rw [int64_of_isInt ⟨by omega, hroom⟩]
      simp only [hfills, hroom, true_and, and_true]
      omega
    · rw [int64_of_overflow (by omega) (by omega)]
      omega
  · rw [handleCongestionAvoidanceAck_of_not_fills hfills]
    simp only [hfills, false_and, iff_false]
    omega

theorem bytesAcked_eq_iff (hcwnd : IsInt cc.cwnd) (hacked : IsInt cc.bytesAcked)
    (hmtu : IsInt cc.mtu) (hn : IsInt n) (hpos : 0 < n) (hfills : cc.Fills n) (hgrow : cc.CanGrow) :
    (cc.handleCongestionAvoidanceAck n).bytesAcked = cc.bytesAcked + n - cc.cwnd ↔
      cc.bytesAcked + n = cc.cwnd := by
  obtain ⟨hmin', hmax', -, -⟩ := window_limits_eq
  have hmss := cc.min_le_mss
  have hmss' : cc.mss ≤ 2 ^ 63 - 1 := mss_le (by omega) (by have := hmtu.2; omega)
  rw [handleCongestionAvoidanceAck_of_fills hfills]
  unfold Fills at hfills
  unfold IsInt at hcwnd hacked hn
  dsimp only
  rw [int64_of_isInt (x := cc.cwnd + cc.mss) ⟨by omega, hgrow.2⟩]
  have hint := isInt_int64 (int64 (cc.bytesAcked + n) - (cc.cwnd + cc.mss))
  unfold IsInt at hint
  by_cases hfits : cc.bytesAcked + n < 2 ^ 63
  · rw [int64_of_isInt (x := cc.bytesAcked + n) ⟨by omega, hfits⟩] at hfills ⊢
    -- a difference that is too large becomes negative, and the accumulator zero
    by_cases hsmall : cc.bytesAcked + n - (cc.cwnd + cc.mss) < 2 ^ 63
    · rw [int64_of_isInt (x := cc.bytesAcked + n - (cc.cwnd + cc.mss)) ⟨by omega, hsmall⟩]
      omega
    · rw [int64_of_overflow (x := cc.bytesAcked + n - (cc.cwnd + cc.mss)) (by omega) (by omega)]
      omega
  · grind [int64_of_overflow]

/-- The windows that a sequence of acknowledgments fills, each as it was before it grew. -/
def filled : CongestionController → List ℤ → List ℤ
  | _, [] => []
  | cc, n :: ns => (if cc.cwnd ≤ cc.bytesAcked + n then [cc.cwnd] else []) ++ (cc.onAck n).filled ns

/-- An acknowledgment that does not overshoot the window, with room for a whole step. -/
structure Exact (cc : CongestionController) (n : ℤ) : Prop where
  pos : 0 < n
  le_cwnd : cc.bytesAcked + n ≤ cc.cwnd
  room : cc.cwnd + cc.mss ≤ maxCongestionWindow

theorem onAck_of_exact (hstate : cc.state = .congestionAvoidance) (hacked : 0 ≤ cc.bytesAcked)
    (h : cc.Exact n) :
    if cc.cwnd ≤ cc.bytesAcked + n then
      (cc.onAck n).cwnd = cc.cwnd + cc.mss ∧ (cc.onAck n).bytesAcked = 0
    else (cc.onAck n).cwnd = cc.cwnd ∧ (cc.onAck n).bytesAcked = cc.bytesAcked + n := by
  obtain ⟨hpos, hle, hroom⟩ := h
  obtain ⟨hmin', hmax', -, -⟩ := window_limits_eq
  have hmss := cc.min_le_mss
  obtain ⟨hcwnd, hbytes, -, -⟩ := onAck_congestionAvoidance hstate hpos
  rw [hcwnd, hbytes]
  have hacc : int64 (cc.bytesAcked + n) = cc.bytesAcked + n :=
    int64_of_isInt ⟨by omega, by omega⟩
  have hgrown : int64 (cc.cwnd + cc.mss) = cc.cwnd + cc.mss :=
    int64_of_isInt ⟨by omega, by omega⟩
  have hleft : int64 (cc.bytesAcked + n - (cc.cwnd + cc.mss)) =
      cc.bytesAcked + n - (cc.cwnd + cc.mss) := int64_of_isInt ⟨by omega, by omega⟩
  have hfills : cc.Fills n ↔ cc.cwnd ≤ cc.bytesAcked + n := by rw [Fills, hacc]
  split_ifs with hfull
  · rw [handleCongestionAvoidanceAck_of_fills (hfills.mpr hfull), hacc, hgrown, hleft]
    dsimp only
    omega
  · rw [handleCongestionAvoidanceAck_of_not_fills (hfills.not.mpr hfull), hacc]
    dsimp only
    omega

/-- Over acknowledgments that do not overshoot, every acknowledged byte is in a filled window or in
the accumulator, and the window has grown by one step per filled window. -/
theorem credit_of_exact (hstate : cc.state = .congestionAvoidance) (hacked : 0 ≤ cc.bytesAcked)
    {ns : List ℤ} (h : Always onAck Exact cc ns) :
    cc.bytesAcked + ns.sum = (exec onAck cc ns).bytesAcked + (cc.filled ns).sum ∧
      (exec onAck cc ns).cwnd = cc.cwnd + (cc.filled ns).length * cc.mss := by
  induction ns generalizing cc with
  | nil => simp [filled]
  | cons n ns ih =>
    obtain ⟨hn, hns⟩ := h
    have hstep := onAck_of_exact hstate hacked hn
    obtain ⟨-, -, hstate', hmss⟩ := onAck_congestionAvoidance hstate hn.pos
    have hpos := hn.pos
    rw [exec_cons, filled]
    split_ifs at hstep ⊢ with hfull
    · obtain ⟨hcredit, hcwnd⟩ := ih hstate' (by omega) hns
      rw [hcwnd, hmss, List.sum_cons, List.sum_append, List.length_append]
      have hle := hn.le_cwnd
      constructor
      · simp only [List.sum_singleton]
        omega
      · grind
    · grind

/-- **Credit.** When an acknowledgment makes the window grow, the accumulator is left with what
exceeds the window that was filled exactly if nothing exceeds it; over acknowledgments none of
which exceeds the window, the window grows by one step per filled window of acknowledged bytes. -/
theorem credit_iff (cc : CongestionController) (hstate : cc.state = .congestionAvoidance)
    (hcwnd : IsInt cc.cwnd) (hacked : IsInt cc.bytesAcked) (hmtu : IsInt cc.mtu) :
    (∀ n, IsInt n → 0 < n →
      ((cc.cwnd < (cc.onAck n).cwnd →
          (cc.onAck n).bytesAcked = cc.bytesAcked + n - cc.cwnd) ↔
        (cc.Fills n → cc.CanGrow → cc.bytesAcked + n = cc.cwnd))) ∧
    (∀ ns, 0 ≤ cc.bytesAcked → Always onAck Exact cc ns →
      cc.bytesAcked + ns.sum = (exec onAck cc ns).bytesAcked + (cc.filled ns).sum ∧
        (exec onAck cc ns).cwnd = cc.cwnd + (cc.filled ns).length * cc.mss) := by
  refine ⟨fun n hn hpos => ?_, fun ns hnonneg h => credit_of_exact hstate hnonneg h⟩
  obtain ⟨hgrown, hbytes, -, -⟩ := onAck_congestionAvoidance hstate hpos
  rw [hgrown, hbytes, cwnd_lt_handleCongestionAvoidanceAck_iff hcwnd hmtu n, and_imp]
  exact forall_congr' fun hfills => forall_congr' fun hgrow =>
    bytesAcked_eq_iff hcwnd hacked hmtu hn hpos hfills hgrow

/-- Congestion avoidance after one loss, with a window of 2208 bytes. -/
def afterRecovery : CongestionController :=
  exec step (newCongestionControllerWithMTU 1472)
    [.signal (.packetLoss ⟨0, none, none⟩), .exitRecovery]

theorem credit_iff_afterRecovery :
    afterRecovery.state = .congestionAvoidance ∧ afterRecovery.Fills 2208 ∧
      afterRecovery.CanGrow ∧
      (afterRecovery.onAck 2208).bytesAcked = afterRecovery.bytesAcked + 2208 - 2208 ∧
      (exec onAck afterRecovery [1000, 1208, 3680]).cwnd = 2208 + 2 * 1472 := by
  obtain ⟨hone, hrun⟩ := credit_iff afterRecovery (by decide) ⟨by decide, by decide⟩
    ⟨by decide, by decide⟩ ⟨by decide, by decide⟩
  have hexact : Always onAck Exact afterRecovery [1000, 1208, 3680] :=
    ⟨⟨by decide, by decide, by decide⟩, ⟨by decide, by decide, by decide⟩,
      ⟨by decide, by decide, by decide⟩, trivial⟩
  refine ⟨by decide, by unfold Fills; decide, by unfold CanGrow; decide, ?_, ?_⟩
  · exact (hone 2208 ⟨by decide, by decide⟩ (by decide)).mpr (fun _ _ => by decide) (by decide)
  · rw [(hrun [1000, 1208, 3680] (by decide) hexact).2]
    decide

/-- 3000 acknowledged bytes fill the window of 2208 bytes; the excess of 792 bytes is lost. -/
theorem credit_lost :
    afterRecovery.cwnd = 2208 ∧ afterRecovery.bytesAcked = 0 ∧
      (afterRecovery.onAck 3000).cwnd = 2208 + 1472 ∧
      (afterRecovery.onAck 3000).bytesAcked = 0 := by
  decide

end CongestionController
end GoNoise.SSU2
