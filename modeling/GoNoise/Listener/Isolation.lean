import GoNoise.Conn.ModifierUse
import GoNoise.Handshake.SharedModifiers
import Mathlib

/-!
# `listener/listener.go`: connections that share their modifiers

`createAcceptConnConfig` copies the list of the modifiers, not the modifiers, so all connections
that a listener has accepted work with the same modifiers.
-/

namespace GoNoise.Listener

open ByteStream Conn Handshake Noise Modifier NoiseConn ModifierChain

/-! ## Accepting connections -/

/-- `ListenerConfig`, without modifiers and hook. -/
structure ListenerConfig where
  pattern : String
  staticKey : Bytes
  handshakeTimeout : Duration
  readTimeout : Duration
  writeTimeout : Duration
  additionalSymmetricKeyLabels : List Bytes
  handshakeRetries : ℤ
  retryBackoff : Duration

/-- `Listener`, with the modifiers of its configuration. -/
structure NoiseListener (μ : Type) where
  config : ListenerConfig
  modifiers : List μ
  closed : Bool

def createAcceptConnConfig (config : ListenerConfig) : ConnConfig where
  pattern := config.pattern
  initiator := false
  staticKey := config.staticKey
  remoteKey := []
  handshakeTimeout := config.handshakeTimeout
  readTimeout := config.readTimeout
  writeTimeout := config.writeTimeout
  handshakeRetries := if 0 < config.handshakeRetries then config.handshakeRetries else 0
  retryBackoff := if 0 < config.retryBackoff then config.retryBackoff else second
  protocolName := []
  additionalSymmetricKeyLabels := config.additionalSymmetricKeyLabels

/-- `Accept`. `underlying` is what the underlying listener accepts. -/
def NoiseListener.accept {μ : Type} (P : Primitives) (nl : NoiseListener μ)
    (underlying : Except Oops Transport) : Except Oops (NoiseConn μ) :=
  if nl.closed then .error ⟨"LISTENER_CLOSED", "noise", [], "listener is closed"⟩
  else
    match underlying with
    | .error e => .error ((e.wrapf "failed to accept underlying connection").wrap "ACCEPT_FAILED"
        "noise" [])
    | .ok t =>
      match newNoiseConn P t (createAcceptConnConfig nl.config) nl.modifiers with
      | .error e => .error ((e.wrapf "failed to create noise connection").wrap "WRAP_FAILED"
          "noise" [])
      | .ok nc => .ok nc

/-! ## Operations -/

/-- The operations on a connection, with what they meet outside. -/
inductive Op
  /-- bytes and errors that the underlying connection will give to reads -/
  | deliver (arrivals : List (Arrival Oops))
  | handshake (env : HandshakeEnv)
  | startHandshake
  | completeHandshake
  | failHandshake
  | writeHandshakeMsgToBytes (ephemeral : Bytes) (phase : HandshakePhase) (payload : Bytes)
  | readHandshakeMsgFromBytes (phase : HandshakePhase) (wireData : Bytes)
  | encrypt (data : Bytes)
  | decrypt (encrypted : Bytes)
  | write (deadline : Option Oops)
      (outcomes : Option (ℕ × Option Oops) × Option (ℕ × Option Oops)) (b : Bytes)
  | read (deadline : Option Oops) (k : ℕ)
  | close (err : Option Oops)

/-- What an operation returns. -/
inductive Result
  | nothing
  | handshake (outcome : Outcome Oops Unit)
  | data (result : Except Oops Bytes)
  | written (result : ℕ × Option Oops)
  | read (outcome : Outcome Oops Bytes)
  | closed (err : Option Oops)

/-- Modifiers that connections share. `D` is what the random source gives one operation. -/
structure Sharing (μ D : Type) where
  ops : HandshakeModifier μ
  close : μ → μ
  supply : D → List μ → List μ

section
variable {μ D : Type} (P : Primitives) (zeroKey : CipherState → CipherState)
  (hook : Option (NoiseConn μ → Option Oops)) (K : Sharing μ D)

def perform (op : Op) (nc : NoiseConn μ) : Result × NoiseConn μ :=
  match op with
  | .deliver arrivals => (.nothing, { nc with
      underlying := { nc.underlying with arrivals := nc.underlying.arrivals ++ arrivals } })
  | .handshake env =>
    (handshake P K.ops env (hook.map fun run nc => (run nc, nc.modifiers)) nc).map
      .handshake id
  | .startHandshake => (.nothing, nc.startHandshake)
  | .completeHandshake => (.nothing, nc.completeHandshake)
  | .failHandshake => (.nothing, nc.failHandshake P)
  | .writeHandshakeMsgToBytes ephemeral phase payload =>
    (nc.writeHandshakeMsgToBytes P K.ops ephemeral phase payload).map .data id
  | .readHandshakeMsgFromBytes phase wireData =>
    (nc.readHandshakeMsgFromBytes P K.ops phase wireData).map .data id
  | .encrypt data => (nc.encrypt P.suite data).map .data id
  | .decrypt encrypted => (nc.decrypt P.suite encrypted).map .data id
  | .write deadline outcomes b => (nc.write P.suite K.ops deadline outcomes b).map .written id
  | .read deadline k => (read P.suite K.ops deadline k nc).map .read id
  | .close err => (nc.close K.close zeroKey err).map .closed id

/-! ## Two connections -/

/-- The two connections. -/
inductive Side
  | first
  | second
  deriving DecidableEq

/-- Two connections of one listener. Their modifiers are `shared`. -/
structure System (μ : Type) where
  conns : Side → NoiseConn μ
  shared : List μ

/-- An operation on one of the connections. -/
structure Event (D : Type) where
  side : Side
  op : Op
  draw : D

def step (s : System μ) (event : Event D) : Result × System μ :=
  let (result, nc) := perform P zeroKey hook K event.op
    { s.conns event.side with modifiers := K.supply event.draw s.shared }
  (result, ⟨Function.update s.conns event.side { nc with modifiers := [] }, nc.modifiers⟩)

/-- What the operations on one side return. -/
def results (side : Side) : System μ → List (Event D) → List Result
  | _, [] => []
  | s, event :: events =>
    let (result, s') := step P zeroKey hook K s event
    if event.side = side then result :: results side s' events else results side s' events

/-- The results on one side depend on the operations on that side only. -/
def Isolated (s : System μ) : Prop :=
  ∀ side events events', events.filter (·.side = side) = events'.filter (·.side = side) →
    results P zeroKey hook K side s events = results P zeroKey hook K side s events'

end

/-! ## Modifiers that do not change -/

section
variable {μ D : Type} {P : Primitives} {zeroKey : CipherState → CipherState}
  {hook : Option (NoiseConn μ → Option Oops)} {K : Sharing μ D}

/-- The modifiers are the same, but for what the random source gave them. -/
def Sharing.Same (K : Sharing μ D) (ms ms' : List μ) : Prop := ∀ d, K.supply d ms' = K.supply d ms

/-- Neither a use nor `Close` changes the modifiers. -/
structure Sharing.Unchanged (K : Sharing μ D) (ms : List μ) : Prop where
  use : ClosedUnderUse K.ops (K.Same ms)
  close : ∀ ms', K.Same ms ms' → K.Same ms (ms'.map K.close)
  supply : ∀ d ms', K.Same ms ms' → K.Same ms (K.supply d ms')

theorem perform_modifiers {Q : List μ → Prop} (huse : ClosedUnderUse K.ops Q)
    (hclose : ∀ ms, Q ms → Q (ms.map K.close)) (op : Op) {nc : NoiseConn μ} (hnc : Q nc.modifiers) :
    Q (perform P zeroKey hook K op nc).2.modifiers := by
  cases op with
  | deliver arrivals => exact hnc
  | handshake env =>
    refine NoiseConn.keepsModifiers_handshake huse (fun run hrun nc hnc => ?_) nc hnc
    obtain ⟨check, -, rfl⟩ := Option.map_eq_some_iff.mp hrun
    exact hnc
  | startHandshake => exact hnc
  | completeHandshake => exact hnc
  | failHandshake =>
    dsimp only [perform, NoiseConn.failHandshake]
    rw [NoiseConn.resetHandshakeState_modifiers]
    exact hnc
  | writeHandshakeMsgToBytes ephemeral phase payload =>
    exact NoiseConn.writeHandshakeMsgToBytes_modifiers huse ephemeral phase payload hnc
  | readHandshakeMsgFromBytes phase wireData =>
    exact NoiseConn.readHandshakeMsgFromBytes_modifiers huse phase wireData hnc
  | encrypt data =>
    change Q (nc.encrypt P.suite data).2.modifiers
    rw [NoiseConn.encrypt_modifiers]
    exact hnc
  | decrypt encrypted =>
    change Q (nc.decrypt P.suite encrypted).2.modifiers
    rw [NoiseConn.decrypt_modifiers]
    exact hnc
  | write deadline outcomes b => exact NoiseConn.write_modifiers huse deadline outcomes b hnc
  | read deadline k => exact NoiseConn.keepsModifiers_read huse deadline k nc hnc
  | close err =>
    change Q (nc.close K.close zeroKey err).2.modifiers
    unfold NoiseConn.close
    split_ifs
    · exact hnc
    · exact hclose _ hnc

variable {ms : List μ} {event : Event D} {s s' : System μ} {side : Side}

theorem step_shared (h : K.Unchanged ms) (hs : K.Same ms s.shared)
    (event : Event D) : K.Same ms (step P zeroKey hook K s event).2.shared :=
  perform_modifiers h.use h.close event.op (h.supply event.draw s.shared hs :)

theorem results_cons_of_ne (hside : event.side ≠ side) (events : List (Event D)) :
    results P zeroKey hook K side s (event :: events) =
      results P zeroKey hook K side (step P zeroKey hook K s event).2 events := by
  simp [results, hside]

variable (P zeroKey hook) in
/-- An operation on the one side, where the other side has done different things. -/
theorem step_of_same (hs : K.Same ms s.shared) (hs' : K.Same ms s'.shared)
    (hconn : s.conns event.side = s'.conns event.side) :
    (step P zeroKey hook K s event).1 = (step P zeroKey hook K s' event).1 ∧
      (step P zeroKey hook K s event).2.conns event.side =
        (step P zeroKey hook K s' event).2.conns event.side := by
  have hsupply : K.supply event.draw s.shared = K.supply event.draw s'.shared :=
    (hs event.draw).trans (hs' event.draw).symm
  unfold step
  rw [hconn, hsupply]
  refine ⟨rfl, ?_⟩
  dsimp only
  rw [Function.update_self, Function.update_self]

theorem results_filter (h : K.Unchanged ms) (hs : K.Same ms s.shared) (hs' : K.Same ms s'.shared)
    (hconn : s.conns side = s'.conns side) (events : List (Event D)) :
    results P zeroKey hook K side s events =
      results P zeroKey hook K side s' (events.filter (·.side = side)) := by
  induction events generalizing s s' with
  | nil => rfl
  | cons event events ih =>
    by_cases hside : event.side = side
    · subst hside
      obtain ⟨hresult, hnext⟩ := step_of_same P zeroKey hook hs hs' hconn
      rw [List.filter_cons_of_pos (by simp), results, results]
      dsimp only
      rw [if_pos rfl, if_pos rfl, hresult,
        ih (step_shared h hs event) (step_shared h hs' event) hnext]
    · rw [List.filter_cons_of_neg (by simpa using hside), results_cons_of_ne hside]
      exact ih (step_shared h hs event) hs' ((Function.update_of_ne (Ne.symm hside) ..).trans hconn)

theorem isolated_of_unchanged (h : K.Unchanged ms) (conns : Side → NoiseConn μ) :
    Isolated P zeroKey hook K ⟨conns, ms⟩ := by
  intro side events events' hfilter
  have hsame : K.Same ms ms := fun _ => rfl
  rw [results_filter h hsame hsame rfl events, results_filter h hsame hsame rfl events', hfilter]

end

/-! ## XOR, padding and chains -/

def handshakeModifiers : Sharing Modifier (List ℕ → ℕ → PaddingDraw) where
  ops := modifiers
  close := close
  supply draws ms := supplyAll draws [] 0 ms

theorem unchanged_of_xors {ms : List Modifier} (h : xorsAll ms = []) :
    handshakeModifiers.Unchanged ms where
  use :=
    { outbound := fun phase data ms' hsame draws => by
        change supplyAll draws [] 0 (outboundFrom _ _ _ _ _).2 = _
        rw [handshakeModifiers, ← outboundFrom_eq, supplyAll_outboundFrom]
        exact hsame draws
      inbound := fun phase data ms' hsame draws => by
        change supplyAll draws [] 0 (inboundFrom _ _ _ _ _).2 = _
        rw [handshakeModifiers, ← inboundFrom_eq, supplyAll_inboundFrom]
        exact hsame draws }
  close ms' hsame draws := by
    have hsame' : supplyAll draws [] 0 ms' = supplyAll draws [] 0 ms := hsame draws
    have hxors : xorsAll ms' = [] := by
      rw [← xorsAll_supplyAll draws [] 0 ms', hsame', xorsAll_supplyAll, h]
    change supplyAll draws [] 0 (ms'.map close) = _
    rw [← closeAll_eq, closeAll_of_xors ms' hxors]
    exact hsame draws
  supply draws ms' hsame draws' := by
    change supplyAll draws' [] 0 (supplyAll draws [] 0 ms') = _
    rw [supplyAll_supplyAll]
    exact hsame draws'

section
variable {P : Primitives} {zeroKey : CipherState → CipherState}
  {hook : Option (NoiseConn Modifier → Option Oops)} {nc : NoiseConn Modifier}

/-- Open modifiers pass the message on to the handshake. -/
theorem not_chainError_of_open (hopen : ∀ xm ∈ Modifier.xorsAll nc.modifiers, xm.closed = false)
    (wireData : Bytes) :
    ¬ Modifier.ChainError (nc.readHandshakeMsgFromBytes P modifiers .data wireData).1 := by
  obtain ⟨data, hdata⟩ := Modifier.inboundFrom_data_of_open wireData 0 nc.modifiers hopen
  rw [Modifier.inboundFrom_eq] at hdata
  unfold NoiseConn.readHandshakeMsgFromBytes NoiseConn.applyInbound ModifierChain.modifyInbound
  generalize ModifierChain.inboundFrom modifiers .data 0 nc.modifiers wireData = result at hdata
  obtain ⟨_, ms⟩ := result
  obtain rfl := hdata
  dsimp only
  rintro ⟨e, he, text, htext⟩
  split at he
  next e' hread =>
    cases he
    -- the two texts begin with different letters
    change "failed to process handshake message for phase " ++ "data" ++ ": " ++
      e'.message = _ at htext
    have hfirst := congrArg (fun s : String => s.toList.head?) htext
    simp at hfirst
  · cases he

theorem chainError_of_closed (hne : Modifier.xorsAll nc.modifiers ≠ [])
    (hclosed : ∀ xm ∈ Modifier.xorsAll nc.modifiers, xm.closed = true) (wireData : Bytes) :
    Modifier.ChainError (nc.readHandshakeMsgFromBytes P modifiers .data wireData).1 := by
  obtain ⟨e, he, htext⟩ := Modifier.inboundFrom_data_of_closed wireData 0 nc.modifiers hne hclosed
  rw [Modifier.inboundFrom_eq] at he
  unfold NoiseConn.readHandshakeMsgFromBytes NoiseConn.applyInbound ModifierChain.modifyInbound
  generalize ModifierChain.inboundFrom modifiers .data 0 nc.modifiers wireData = result at he
  obtain ⟨_, ms⟩ := result
  obtain rfl := he
  exact ⟨e, rfl, htext⟩

/-- The first connection reads a message; the second one is closed before, or not. -/
theorem not_isolated_of_xors {ms : List Modifier}
    (hopen : ∀ xm ∈ Modifier.xorsAll ms, xm.closed = false) (hne : Modifier.xorsAll ms ≠ [])
    {conns : Side → NoiseConn Modifier} (hstate : (conns .second).state ≠ .closed) :
    ¬ Isolated P zeroKey hook handshakeModifiers ⟨conns, ms⟩ := by
  intro hisolated
  obtain ⟨draws⟩ : Nonempty (List ℕ → ℕ → PaddingDraw) := ⟨fun _ _ => ⟨.ok 0, .ok fun _ => 0⟩⟩
  have hresults := (hisolated .first [⟨.first, .readHandshakeMsgFromBytes .data [], draws⟩]
    [⟨.second, .close none, draws⟩, ⟨.first, .readHandshakeMsgFromBytes .data [], draws⟩]
    rfl).trans (results_cons_of_ne (by simp) _)
  have hshared : (step P zeroKey hook handshakeModifiers ⟨conns, ms⟩
      ⟨.second, .close none, draws⟩).2.shared = closeAll (supplyAll draws [] 0 ms) := by
    rw [Modifier.closeAll_eq]
    simp only [step, perform, NoiseConn.close, if_neg hstate]
    rfl
  generalize (step P zeroKey hook handshakeModifiers ⟨conns, ms⟩ ⟨.second, .close none, draws⟩).2 =
    s at hresults hshared
  have hread := Result.data.inj (List.cons.inj hresults).1
  have hxors : xorsAll (supplyAll draws [] 0 s.shared) =
      (xorsAll ms).map XORModifier.close := by
    rw [xorsAll_supplyAll, hshared, xorsAll_closeAll, xorsAll_supplyAll]
  refine not_chainError_of_open ?_ []
    ((congrArg Modifier.ChainError hread).mpr (chainError_of_closed ?_ ?_ []))
  · change ∀ xm ∈ xorsAll (supplyAll draws [] 0 ms), xm.closed = false
    rw [xorsAll_supplyAll]
    exact hopen
  · change xorsAll (supplyAll draws [] 0 s.shared) ≠ []
    rw [hxors]
    exact mt List.map_eq_nil_iff.mp hne
  · change ∀ xm ∈ xorsAll (supplyAll draws [] 0 s.shared), xm.closed = true
    rw [hxors]
    exact List.forall_mem_map.mpr fun _ _ => rfl

end

theorem NoiseListener.state_of_accept {μ : Type} {P : Primitives} {nl : NoiseListener μ}
    {underlying : Except Oops Transport} {nc : NoiseConn μ}
    (h : nl.accept P underlying = .ok nc) : nc.state = .init := by
  unfold accept at h
  split_ifs at h
  cases underlying with
  | error e => cases h
  | ok t =>
    dsimp only at h
    split at h
    · cases h
    next nc' hnew =>
      cases h
      unfold newNoiseConn at hnew
      split at hnew
      · cases hnew
      · grind

def NoiseListener.accepted {μ : Type} (nl : NoiseListener μ) (first second : NoiseConn μ) :
    System μ where
  conns
    | .first => first
    | .second => second
  shared := nl.modifiers

/-- **Isolation.** Two connections of a listener, whose modifiers are open, are isolated exactly if
there is no XOR modifier. -/
theorem isolated_iff {P : Primitives} {nl : NoiseListener Modifier}
    (hopen : ∀ xm ∈ Modifier.xorsAll nl.modifiers, xm.closed = false)
    {tfirst tsecond : Except Oops Transport} {first second : NoiseConn Modifier}
    (_hfirst : nl.accept P tfirst = .ok first) (hsecond : nl.accept P tsecond = .ok second)
    (zeroKey : CipherState → CipherState) (hook : Option (NoiseConn Modifier → Option Oops)) :
    Isolated P zeroKey hook handshakeModifiers (nl.accepted first second) ↔
      Modifier.xorsAll nl.modifiers = [] := by
  constructor
  · intro hisolated
    by_contra hne
    refine not_isolated_of_xors hopen hne ?_ hisolated
    rw [NoiseListener.state_of_accept hsecond]
    exact nofun
  · intro hxors
    exact isolated_of_unchanged (unchanged_of_xors hxors) _

/-! ## Two listeners -/

def oneWayListener (modifiers : List Modifier) : NoiseListener Modifier where
  config := ⟨"N", List.replicate 32 1, 30 * second, 0, 0, [], 0, second⟩
  modifiers := modifiers
  closed := false

def oneWayResponder (modifiers : List Modifier) : NoiseConn Modifier where
  underlying := ⟨[], [], []⟩
  config := createAcceptConnConfig (oneWayListener modifiers).config
  modifiers := modifiers
  privateStaticKey := List.replicate 32 1
  sendCipherState := none
  recvCipherState := none
  handshakeState := ⟨⟨List.replicate 32 1, (FixedBytes.ofNat 32 1).val⟩, [messageCount .n]⟩
  state := .init
  pendingPlaintext := []
  encryptions := []

theorem accept_oneWayListener (modifiers : List Modifier) :
    (oneWayListener modifiers).accept testPrimitives (.ok ⟨[], [], []⟩) =
      .ok (oneWayResponder modifiers) := by
  rfl

theorem two_nonneg : (0 : ℤ) ≤ 2 := by decide

theorem two_le_five : (2 : ℤ) ≤ 5 := by decide

def paddingChain : Modifier :=
  .chain "padding" [.padding ⟨"padding", 2, 5, two_nonneg, two_le_five⟩ fun _ =>
    ⟨.ok 1, .ok fun _ => 7⟩]

theorem isolated_iff_paddingChain :
    Isolated NoiseConn.testPrimitives id none handshakeModifiers
      ((oneWayListener [paddingChain]).accepted (oneWayResponder [paddingChain])
        (oneWayResponder [paddingChain])) :=
  (isolated_iff (by simp [oneWayListener, paddingChain, xorsAll, xors])
    (accept_oneWayListener _) (accept_oneWayListener _) id none).mpr
    (by simp [oneWayListener, paddingChain, xorsAll, xors])

def xorByte : Modifier := .xor ⟨"xor", [0x5a], false, List.cons_ne_nil _ _⟩

/-- The message of the pattern, masked: an ephemeral key and the tag of an empty payload. -/
def maskedMessage : Bytes := [0, 48] ++ List.replicate 48 0x5a

/-- Two connections of a listener with an XOR modifier. -/
def xorSystem : System Modifier :=
  (oneWayListener [xorByte]).accepted (oneWayResponder [xorByte]) (oneWayResponder [xorByte])

/-- The message arrives and the first connection shakes hands. -/
def shakesHands : List (Event (List ℕ → ℕ → PaddingDraw)) :=
  [⟨.first, .deliver [.bytes maskedMessage], fun _ _ => ⟨.ok 0, .ok fun _ => 0⟩⟩,
    ⟨.first, .handshake ⟨none, fun _ => [], fun _ => (none, none)⟩,
      fun _ _ => ⟨.ok 0, .ok fun _ => 0⟩⟩]

/-- The second connection is closed, and the handshake of the first one fails. -/
theorem not_isolated_xorByte :
    results NoiseConn.testPrimitives id none handshakeModifiers .first xorSystem shakesHands =
      [.nothing, .handshake (.ok ())] ∧
    results NoiseConn.testPrimitives id none handshakeModifiers .first xorSystem
        (⟨.second, .close none, fun _ _ => ⟨.ok 0, .ok fun _ => 0⟩⟩ :: shakesHands) =
      [.nothing, .handshake (.error ⟨"MODIFIER_CLOSED", "handshake", [("modifier_index", 0)],
        "responder handshake failed: modifier chain inbound processing failed: " ++
          "XORModifier has been closed"⟩)] :=
  ⟨rfl, rfl⟩

end GoNoise.Listener
