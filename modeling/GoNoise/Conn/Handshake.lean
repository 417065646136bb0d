import GoNoise.Conn.NoiseConn
import GoNoise.Validation

/-!
# `conn/handshake.go`, `conn/pattern_handlers.go`: the handshake of a core connection

A handshake is a sequence of messages that the two sides send in turn. One that fails is followed by
a reset, so that the next attempt starts from the first message; but a post-handshake hook that
fails is not.
-/

namespace GoNoise.Conn

open BigEndian ByteStream Handshake Noise

/-! ## Patterns -/

/-- The patterns of the `noise` package that are supported. -/
inductive Pattern
  | nn | nk | nx | xn | xk | xx | kn | kk | kx | in_ | ik | ix | n | k | x
  deriving DecidableEq

namespace Pattern

def name : Pattern → String
  | nn => "NN"
  | nk => "NK"
  | nx => "NX"
  | xn => "XN"
  | xk => "XK"
  | xx => "XX"
  | kn => "KN"
  | kk => "KK"
  | kx => "KX"
  | in_ => "IN"
  | ik => "IK"
  | ix => "IX"
  | n => "N"
  | k => "K"
  | x => "X"

end Pattern

/-- The patterns in the order of `parseHandshakePattern`. -/
def allPatterns : List Pattern :=
  [.nn, .nk, .nx, .xn, .xk, .xx, .kn, .kk, .kx, .in_, .ik, .ix, .n, .k, .x]

def parseHandshakePattern (patternName : String) : Except Oops Pattern :=
  match allPatterns.find? fun p =>
      patternName = s!"Noise_{p.name}_25519_AESGCM_SHA256" ∨
        patternName = s!"Noise_{p.name}_25519_ChaChaPoly_SHA256" ∨ patternName = p.name with
  | some p => .ok p
  | none => .error ⟨"UNSUPPORTED_PATTERN", "noise", [],
      s!"unsupported handshake pattern: {patternName}"⟩

def normalizePattern (pattern : String) : String :=
  match parseHandshakePattern pattern with
  | .ok p => p.name
  | .error _ => pattern

/-! ## Creation -/

namespace ConnConfig

variable (c : ConnConfig)

def validatePattern : Except Oops Unit :=
  match GoNoise.validatePattern c.pattern "noise" with
  | .error e => .error e
  | .ok () =>
    match parseHandshakePattern c.pattern with
    | .error e => .error ((e.wrapf "unrecognized noise pattern").wrap "INVALID_PATTERN" "noise" [])
    | .ok _ => .ok ()

def validate : Except Oops Unit := do
  c.validatePattern
  validateHandshakeTimeout c.handshakeTimeout "noise"
  validateRetryConfig c.handshakeRetries c.retryBackoff "noise"
  validateKeyLength c.staticKey "static key" "noise"
  validateKeyLength c.remoteKey "remote key" "noise"

end ConnConfig

/-- `noise.Config`, without the cipher suite and the source of random bytes. -/
structure NoiseConfig where
  pattern : Pattern
  initiator : Bool
  protocolName : Bytes
  additionalSymmetricKeyLabels : List Bytes
  staticKeypair : DHKey
  peerStatic : Bytes

/-- The `noise` package with a cipher suite, and the derivation of public keys. -/
structure Primitives where
  suite : Suite Oops
  publicKey : (privateKey : Bytes) → FixedBytes 32
  newHandshakeState : NoiseConfig → Except Oops HandshakeState
  /-- `WriteMessage`, with the private ephemeral key that is generated: the message, the cipher
  states if it was the last one, and the next state -/
  writeMessage : (ephemeral payload : Bytes) → HandshakeState →
    Except Oops (Bytes × Option (CipherState × CipherState) × HandshakeState)
  /-- `ReadMessage`, with the payload in place of the message -/
  readMessage : (message : Bytes) → HandshakeState →
    Except Oops (Bytes × Option (CipherState × CipherState) × HandshakeState)
  /-- `MessageIndex`: the number of the next message -/
  messageIndex : HandshakeState → ℕ

/-- A message that was written or read is used up. -/
structure Primitives.Lawful (P : Primitives) : Prop where
  writeMessage : ∀ {ephemeral payload msg cs hs hs'},
    P.writeMessage ephemeral payload hs = .ok (msg, cs, hs') →
      P.messageIndex hs < P.messageIndex hs'
  readMessage : ∀ {msg payload cs hs hs'}, P.readMessage msg hs = .ok (payload, cs, hs') →
    P.messageIndex hs < P.messageIndex hs'

/-- What a call of `Handshake` meets: the result of `SetDeadline`, and for each message the private
ephemeral key that is generated and what the writes come to. -/
structure HandshakeEnv where
  deadline : Option Oops
  ephemeral : ℕ → Bytes
  outcomes : ℕ → Option (ℕ × Option Oops) × Option (ℕ × Option Oops)

namespace NoiseConn

section
variable (P : Primitives)

def createHandshakeState (config : ConnConfig) (privateStaticKey : Bytes) :
    Except Oops HandshakeState :=
  match parseHandshakePattern config.pattern with
  | .error e => .error ((e.wrapf "invalid handshake pattern").wrap "INVALID_PATTERN" "noise" [])
  | .ok pattern =>
    if 0 < privateStaticKey.length ∧ privateStaticKey.length ≠ 32 then
      .error (((Oops.errorf "crypto/ecdh: invalid private key size").wrapf
        "failed to derive public key from static private key").wrap "INVALID_STATIC_KEY" "noise" [])
    else
      let staticKeypair : DHKey := if 0 < privateStaticKey.length then
        ⟨privateStaticKey, (P.publicKey privateStaticKey).val⟩ else ⟨[], []⟩
      match P.newHandshakeState ⟨pattern, config.initiator, config.protocolName,
          config.additionalSymmetricKeyLabels, staticKeypair, config.remoteKey⟩ with
      | .error e => .error ((e.wrapf "failed to create handshake state").wrap
          "HANDSHAKE_INIT_FAILED" "noise" [("initiator", config.initiator.toNat)])
      | .ok hs => .ok hs

variable {μ : Type}

def newNoiseConn (underlying : Transport) (config : ConnConfig) (modifiers : List μ) :
    Except Oops (NoiseConn μ) :=
  match config.validate with
  | .error e => .error ((e.wrapf "config validation failed").wrap "INVALID_CONFIG" "noise" [])
  | .ok () =>
    match createHandshakeState P config config.staticKey with
    | .error e => .error e
    | .ok hs => .ok
      { underlying := underlying
        config := config
        modifiers := modifiers
        privateStaticKey := config.staticKey
        sendCipherState := none
        recvCipherState := none
        handshakeState := hs
        state := .init
        pendingPlaintext := []
        encryptions := [] }

/-! ## Messages -/

/-- `updateCipherStates`. The `noise` package returns both cipher states or none. -/
def updateCipherStates (cs : Option (CipherState × CipherState)) (nc : NoiseConn μ) : NoiseConn μ :=
  match cs with
  | none => nc
  | some (cs₁, cs₂) =>
    if nc.config.initiator then
      { nc with sendCipherState := some cs₁, recvCipherState := some cs₂ }
    else { nc with recvCipherState := some cs₁, sendCipherState := some cs₂ }

variable (M : HandshakeModifier μ) (env : HandshakeEnv)

def sendNoiseHandshakeMsg (i : ℕ) (phase : HandshakePhase) (label : String) :
    Call (NoiseConn μ) Oops Unit := fun nc =>
  match P.writeMessage (env.ephemeral i) [] nc.handshakeState with
  | .error e => (.error ((e.wrapf
      s!"failed to create {label} handshake message").wrap "WRITE_MESSAGE_FAILED" "noise" []), nc)
  | .ok (msg, cs, hs) =>
    match ({ nc with handshakeState := hs } : NoiseConn μ).applyOutbound M phase msg with
    | (.error e, nc) => (.error e, nc)
    | (.ok msg, nc) =>
      match nc.writeFramedMessage (env.outcomes i) msg with
      | (.error e, nc) => (.error ((e.wrapf s!"failed to send {label} handshake message").wrap
          "SEND_MESSAGE_FAILED" "noise" []), nc)
      | (.ok (), nc) => (.ok (), nc.updateCipherStates cs)

/-- The rest of `receiveNoiseHandshakeMsg`, once the message was read from the stream. -/
def processNoiseHandshakeMsg (phase : HandshakePhase) (label : String) (buffer : Bytes)
    (nc : NoiseConn μ) : Except Oops Unit × NoiseConn μ :=
  match nc.applyInbound M phase buffer with
  | (.error e, nc) => (.error e, nc)
  | (.ok buffer, nc) =>
    match P.readMessage buffer nc.handshakeState with
    | .error e => (.error ((e.wrapf
        s!"failed to process {label} handshake message").wrap "PROCESS_MESSAGE_FAILED" "noise" []),
        nc)
    | .ok (_, cs, hs) => (.ok (), { nc with handshakeState := hs }.updateCipherStates cs)

def receiveNoiseHandshakeMsg (phase : HandshakePhase) (label : String) :
    Call (NoiseConn μ) Oops Unit := fun nc =>
  match readFramedMessage nc with
  | (.waiting, nc) => (.waiting, nc)
  | (.error e, nc) => (.error ((e.wrapf s!"failed to read {label} handshake message").wrap
      "READ_MESSAGE_FAILED" "noise" []), nc)
  | (.ok buffer, nc) => Call.ofState (processNoiseHandshakeMsg P M phase label buffer) nc

/-- Send the message number `i`, or receive it. -/
def exchange (sends : Bool) (i : ℕ) (phase : HandshakePhase) (label : String) :
    Call (NoiseConn μ) Oops Unit :=
  if sends then sendNoiseHandshakeMsg P M env i phase label
  else receiveNoiseHandshakeMsg P M phase label

/-! ## Handlers -/

/-- A handler of a pattern with one message. -/
def oneMessage (initiator : Bool) (name : String) : Call (NoiseConn μ) Oops Unit :=
  exchange P M env initiator 0 .initial name

def twoMessages (initiator : Bool) (name : String) : Call (NoiseConn μ) Oops Unit := do
  exchange P M env initiator 0 .initial s!"first {name}"
  exchange P M env (!initiator) 1 .exchange s!"second {name}"

def threeMessages (initiator : Bool) (name : String) : Call (NoiseConn μ) Oops Unit := do
  exchange P M env initiator 0 .initial s!"first {name}"
  exchange P M env (!initiator) 1 .exchange s!"second {name}"
  exchange P M env initiator 2 .final s!"third {name}"

def performNInitiator : Call (NoiseConn μ) Oops Unit := oneMessage P M env true "N"
def performNResponder : Call (NoiseConn μ) Oops Unit := oneMessage P M env false "N"
def performKInitiator : Call (NoiseConn μ) Oops Unit := oneMessage P M env true "K"
def performKResponder : Call (NoiseConn μ) Oops Unit := oneMessage P M env false "K"
def performXInitiator : Call (NoiseConn μ) Oops Unit := oneMessage P M env true "X"
def performXResponder : Call (NoiseConn μ) Oops Unit := oneMessage P M env false "X"
def performNNInitiator : Call (NoiseConn μ) Oops Unit := twoMessages P M env true "NN"
def performNNResponder : Call (NoiseConn μ) Oops Unit := twoMessages P M env false "NN"
def performNKInitiator : Call (NoiseConn μ) Oops Unit := twoMessages P M env true "NK"
def performNKResponder : Call (NoiseConn μ) Oops Unit := twoMessages P M env false "NK"
def performNXInitiator : Call (NoiseConn μ) Oops Unit := twoMessages P M env true "NX"
def performNXResponder : Call (NoiseConn μ) Oops Unit := twoMessages P M env false "NX"
def performXNInitiator : Call (NoiseConn μ) Oops Unit := threeMessages P M env true "XN"
def performXNResponder : Call (NoiseConn μ) Oops Unit := threeMessages P M env false "XN"
def performXKInitiator : Call (NoiseConn μ) Oops Unit := threeMessages P M env true "XK"
def performXKResponder : Call (NoiseConn μ) Oops Unit := threeMessages P M env false "XK"
def performXXInitiator : Call (NoiseConn μ) Oops Unit := threeMessages P M env true "XX"
def performXXResponder : Call (NoiseConn μ) Oops Unit := threeMessages P M env false "XX"
def performKNInitiator : Call (NoiseConn μ) Oops Unit := twoMessages P M env true "KN"
def performKNResponder : Call (NoiseConn μ) Oops Unit := twoMessages P M env false "KN"
def performKKInitiator : Call (NoiseConn μ) Oops Unit := twoMessages P M env true "KK"
def performKKResponder : Call (NoiseConn μ) Oops Unit := twoMessages P M env false "KK"
def performKXInitiator : Call (NoiseConn μ) Oops Unit := twoMessages P M env true "KX"
def performKXResponder : Call (NoiseConn μ) Oops Unit := twoMessages P M env false "KX"
def performINInitiator : Call (NoiseConn μ) Oops Unit := twoMessages P M env true "IN"
def performINResponder : Call (NoiseConn μ) Oops Unit := twoMessages P M env false "IN"
def performIKInitiator : Call (NoiseConn μ) Oops Unit := twoMessages P M env true "IK"
def performIKResponder : Call (NoiseConn μ) Oops Unit := twoMessages P M env false "IK"
def performIXInitiator : Call (NoiseConn μ) Oops Unit := twoMessages P M env true "IX"
def performIXResponder : Call (NoiseConn μ) Oops Unit := twoMessages P M env false "IX"

def initiatorHandlers : String → Option (Call (NoiseConn μ) Oops Unit)
  | "N" => some (performNInitiator P M env)
  | "K" => some (performKInitiator P M env)
  | "X" => some (performXInitiator P M env)
  | "NN" => some (performNNInitiator P M env)
  | "NK" => some (performNKInitiator P M env)
  | "NX" => some (performNXInitiator P M env)
  | "XN" => some (performXNInitiator P M env)
  | "XK" => some (performXKInitiator P M env)
  | "XX" => some (performXXInitiator P M env)
  | "KN" => some (performKNInitiator P M env)
  | "KK" => some (performKKInitiator P M env)
  | "KX" => some (performKXInitiator P M env)
  | "IN" => some (performINInitiator P M env)
  | "IK" => some (performIKInitiator P M env)
  | "IX" => some (performIXInitiator P M env)
  | _ => none

def responderHandlers : String → Option (Call (NoiseConn μ) Oops Unit)
  | "N" => some (performNResponder P M env)
  | "K" => some (performKResponder P M env)
  | "X" => some (performXResponder P M env)
  | "NN" => some (performNNResponder P M env)
  | "NK" => some (performNKResponder P M env)
  | "NX" => some (performNXResponder P M env)
  | "XN" => some (performXNResponder P M env)
  | "XK" => some (performXKResponder P M env)
  | "XX" => some (performXXResponder P M env)
  | "KN" => some (performKNResponder P M env)
  | "KK" => some (performKKResponder P M env)
  | "KX" => some (performKXResponder P M env)
  | "IN" => some (performINResponder P M env)
  | "IK" => some (performIKResponder P M env)
  | "IX" => some (performIXResponder P M env)
  | _ => none

def performWith (handlers : String → Option (Call (NoiseConn μ) Oops Unit)) :
    Call (NoiseConn μ) Oops Unit := fun nc =>
  match handlers (normalizePattern nc.config.pattern) with
  | some handler => handler nc
  | none => (.error ⟨"UNSUPPORTED_PATTERN", "noise", [],
      s!"unsupported handshake pattern: {nc.config.pattern}"⟩, nc)

def performInitiatorHandshake : Call (NoiseConn μ) Oops Unit :=
  performWith (initiatorHandlers P M env)

def performResponderHandshake : Call (NoiseConn μ) Oops Unit :=
  performWith (responderHandlers P M env)

/-! ## `Handshake` -/

def mapError (f : Oops → Oops) (x : Call (NoiseConn μ) Oops Unit) : Call (NoiseConn μ) Oops Unit :=
  fun nc =>
    match x nc with
    | (.error e, nc) => (.error (f e), nc)
    | result => result

def executeRoleBasedHandshake : Call (NoiseConn μ) Oops Unit := fun nc =>
  match env.deadline with
  | some e => (.error ((e.wrapf
      "failed to set handshake deadline on underlying connection").wrap "SET_DEADLINE_FAILED"
      "noise" []), nc)
  | none =>
    if nc.config.initiator then
      mapError (fun e => (e.wrapf "initiator handshake failed").wrap "INITIATOR_HANDSHAKE_FAILED"
        "noise" []) (performInitiatorHandshake P M env) nc
    else
      mapError (fun e => (e.wrapf "responder handshake failed").wrap "RESPONDER_HANDSHAKE_FAILED"
        "noise" []) (performResponderHandshake P M env) nc

def resetHandshakeState (nc : NoiseConn μ) : NoiseConn μ :=
  match createHandshakeState P nc.config nc.privateStaticKey with
  | .error _ => nc
  | .ok hs => { nc with handshakeState := hs, sendCipherState := none, recvCipherState := none }

/-- `Handshake`. `hook` is the `PostHandshakeHook` of the configuration: an error, and the modifiers
with the keys that it has derived for them. -/
def handshake (hook : Option (NoiseConn μ → Option Oops × List μ)) :
    Call (NoiseConn μ) Oops Unit := fun nc =>
  if nc.state = .established then (.ok (), nc)
  else
    match executeRoleBasedHandshake P M env { nc with state := .handshaking } with
    | (.waiting, nc) => (.waiting, nc)
    | (.error e, nc) => (.error e, { nc.resetHandshakeState P with state := .init })
    | (.ok (), nc) =>
      match hook with
      | none => (.ok (), { nc with state := .established })
      | some hook =>
        match hook nc with
        | (some e, ms) => (.error ((e.wrapf "post-handshake hook failed").wrap
            "POST_HANDSHAKE_HOOK_FAILED" "noise" []), { nc with modifiers := ms, state := .init })
        | (none, ms) => (.ok (), { nc with modifiers := ms, state := .established })

/-! ## Handshakes in steps -/

/-- `WriteHandshakeMsgToBytes`, with the private ephemeral key that is generated. -/
def writeHandshakeMsgToBytes (ephemeral : Bytes) (phase : HandshakePhase) (payload : Bytes)
    (nc : NoiseConn μ) : Except Oops Bytes × NoiseConn μ :=
  match P.writeMessage ephemeral payload nc.handshakeState with
  | .error e => (.error ((e.wrapf
      s!"failed to create handshake message for phase {phase.string}").wrap "WRITE_MESSAGE_FAILED"
      "noise" []), nc)
  | .ok (msg, cs, hs) =>
    match ({ nc with handshakeState := hs } : NoiseConn μ).applyOutbound M phase msg with
    | (.error e, nc) => (.error e, nc)
    | (.ok msg, nc) => (.ok msg, nc.updateCipherStates cs)

def readHandshakeMsgFromBytes (phase : HandshakePhase) (wireData : Bytes) (nc : NoiseConn μ) :
    Except Oops Bytes × NoiseConn μ :=
  match nc.applyInbound M phase wireData with
  | (.error e, nc) => (.error e, nc)
  | (.ok data, nc) =>
    match P.readMessage data nc.handshakeState with
    | .error e => (.error ((e.wrapf
        s!"failed to process handshake message for phase {phase.string}").wrap
        "PROCESS_MESSAGE_FAILED" "noise" []), nc)
    | .ok (payload, cs, hs) => (.ok payload, { nc with handshakeState := hs }.updateCipherStates cs)

def startHandshake (nc : NoiseConn μ) : NoiseConn μ := { nc with state := .handshaking }

def completeHandshake (nc : NoiseConn μ) : NoiseConn μ := { nc with state := .established }

def failHandshake (nc : NoiseConn μ) : NoiseConn μ :=
  { nc.resetHandshakeState P with state := .init }

/-! ## What a handshake leaves alone -/

/-- The connection has got further in its handshake: its next message is a later one. -/
structure Advances (nc nc' : NoiseConn μ) : Prop where
  config : nc'.config = nc.config
  privateStaticKey : nc'.privateStaticKey = nc.privateStaticKey
  index_le : P.messageIndex nc.handshakeState ≤ P.messageIndex nc'.handshakeState

theorem Advances.refl (nc : NoiseConn μ) : Advances P nc nc := ⟨rfl, rfl, le_rfl⟩

/-- A call that advances, by at least one message if it succeeds. -/
structure AdvancesCall (x : Call (NoiseConn μ) Oops Unit) : Prop where
  result : ∀ nc, Advances P nc (x nc).2 ∧ ((x nc).1 = .ok () →
    P.messageIndex nc.handshakeState < P.messageIndex (x nc).2.handshakeState)

end

section
variable {μ : Type} {P : Primitives} {M : HandshakeModifier μ} {env : HandshakeEnv}
  {cs : Option (CipherState × CipherState)} {handler x : Call (NoiseConn μ) Oops Unit}
  {hs hs' : HandshakeState} {name : String} (phase : HandshakePhase) (label : String)

theorem Advances.trans {nc₁ nc₂ nc₃ : NoiseConn μ} (h : Advances P nc₁ nc₂)
    (h' : Advances P nc₂ nc₃) : Advances P nc₁ nc₃ :=
  ⟨h'.config.trans h.config, h'.privateStaticKey.trans h.privateStaticKey,
    h.index_le.trans h'.index_le⟩

theorem updateCipherStates_eq (cs : Option (CipherState × CipherState)) (nc : NoiseConn μ) :
    ∃ send recv, nc.updateCipherStates cs =
      { nc with sendCipherState := send, recvCipherState := recv } := by
  unfold updateCipherStates
  split
  · exact ⟨_, _, rfl⟩
  · split_ifs <;> exact ⟨_, _, rfl⟩

theorem writeFramedMessage_underlying
    (outcomes : Option (ℕ × Option Oops) × Option (ℕ × Option Oops)) (data : Bytes)
    (nc : NoiseConn μ) :
    ∃ t, (nc.writeFramedMessage outcomes data).2 = { nc with underlying := t } := by
  unfold writeFramedMessage
  split_ifs
  · exact ⟨_, rfl⟩
  · split
    · exact ⟨_, rfl⟩
    · split <;> exact ⟨_, rfl⟩

theorem readFull_underlying (k : ℕ) (wrap : Bytes → Oops → Oops) (nc : NoiseConn μ) :
    ∃ t, (readFull k wrap nc).2 = { nc with underlying := t } := by
  unfold readFull
  split <;> exact ⟨_, rfl⟩

theorem readFramedMessage_underlying (nc : NoiseConn μ) :
    ∃ t, (readFramedMessage nc).2 = { nc with underlying := t } := by
  unfold readFramedMessage
  obtain ⟨t, ht⟩ := readFull_underlying lengthFieldSize (fun _ e =>
    (e.wrapf "failed to read message length prefix").wrap "READ_LENGTH_FAILED" "noise" []) nc
  rcases hread : readFull lengthFieldSize (fun _ e =>
    (e.wrapf "failed to read message length prefix").wrap "READ_LENGTH_FAILED" "noise" []) nc
    with ⟨header | e | _, nc'⟩
  · rw [hread] at ht
    rw [Call.bind_apply_ok hread]
    subst ht
    split_ifs
    · exact ⟨t, rfl⟩
    · exact readFull_underlying ..
  · grind [Call.bind_apply_error]
  · grind [Call.bind_apply_waiting]

theorem advances_sendNoiseHandshakeMsg (hP : P.Lawful) (i : ℕ) (phase : HandshakePhase)
    (label : String) :
    AdvancesCall P (sendNoiseHandshakeMsg P M env i phase label) := by
  refine ⟨fun nc => ?_⟩
  unfold sendNoiseHandshakeMsg
  cases hwrite : P.writeMessage (env.ephemeral i) [] nc.handshakeState with
  | error e => exact ⟨.refl P nc, nofun⟩
  | ok result =>
    obtain ⟨msg, cs, hs⟩ := result
    have hless := hP.writeMessage hwrite
    dsimp only [applyOutbound]
    rcases ModifierChain.modifyOutbound M phase msg nc.modifiers with ⟨_ | out, ms⟩
    · exact ⟨⟨rfl, rfl, hless.le⟩, nofun⟩
    · dsimp only
      obtain ⟨t, ht⟩ := writeFramedMessage_underlying (env.outcomes i) out
        ({ nc with handshakeState := hs, modifiers := ms } : NoiseConn μ)
      rcases hframed : writeFramedMessage (env.outcomes i) out
        ({ nc with handshakeState := hs, modifiers := ms } : NoiseConn μ) with ⟨_ | _, nc'⟩
      · rw [hframed] at ht
        cases ht
        exact ⟨⟨rfl, rfl, hless.le⟩, nofun⟩
      · rw [hframed] at ht
        cases ht
        dsimp only
        obtain ⟨send, recv, hupdate⟩ := updateCipherStates_eq cs
          ({ nc with handshakeState := hs, modifiers := ms, underlying := t } : NoiseConn μ)
        rw [hupdate]
        exact ⟨⟨rfl, rfl, hless.le⟩, fun _ => hless⟩

theorem advances_processNoiseHandshakeMsg (hP : P.Lawful) (buffer : Bytes) (nc : NoiseConn μ) :
    Advances P nc (processNoiseHandshakeMsg P M phase label buffer nc).2 ∧
      ((processNoiseHandshakeMsg P M phase label buffer nc).1 = .ok () →
        P.messageIndex nc.handshakeState < P.messageIndex
          (processNoiseHandshakeMsg P M phase label buffer nc).2.handshakeState) := by
  unfold processNoiseHandshakeMsg applyInbound
  rcases ModifierChain.modifyInbound M phase buffer nc.modifiers with ⟨_ | data, ms⟩
  · exact ⟨⟨rfl, rfl, le_rfl⟩, nofun⟩
  · dsimp only
    cases hread : P.readMessage data nc.handshakeState with
    | error e => exact ⟨⟨rfl, rfl, le_rfl⟩, nofun⟩
    | ok result =>
      obtain ⟨payload, cs, hs⟩ := result
      have hless := hP.readMessage hread
      dsimp only
      obtain ⟨send, recv, hupdate⟩ := updateCipherStates_eq cs
        ({ nc with modifiers := ms, handshakeState := hs } : NoiseConn μ)
      rw [hupdate]
      exact ⟨⟨rfl, rfl, hless.le⟩, fun _ => hless⟩

theorem advances_receiveNoiseHandshakeMsg (hP : P.Lawful) :
    AdvancesCall P (receiveNoiseHandshakeMsg P M phase label) := by
  refine ⟨fun nc => ?_⟩
  unfold receiveNoiseHandshakeMsg
  obtain ⟨t, ht⟩ := readFramedMessage_underlying nc
  rcases hread : readFramedMessage nc with ⟨buffer | e | _, nc'⟩
  · rw [hread] at ht
    cases ht
    have hprocess := advances_processNoiseHandshakeMsg (M := M) phase label hP buffer
      { nc with underlying := t }
    dsimp only [Call.ofState]
    generalize processNoiseHandshakeMsg P M phase label buffer { nc with underlying := t } = result
      at hprocess
    have hstart : Advances P nc { nc with underlying := t } := ⟨rfl, rfl, le_rfl⟩
    obtain ⟨_ | _, nc'⟩ := result
    · exact ⟨hstart.trans hprocess.1, nofun⟩
    · exact ⟨hstart.trans hprocess.1, fun _ => hprocess.2 rfl⟩
  · rw [hread] at ht
    cases ht
    exact ⟨⟨rfl, rfl, le_rfl⟩, nofun⟩
  · rw [hread] at ht
    cases ht
    exact ⟨⟨rfl, rfl, le_rfl⟩, nofun⟩

theorem advances_exchange (hP : P.Lawful) (sends : Bool) (i : ℕ) (phase : HandshakePhase)
    (label : String) :
    AdvancesCall P (exchange P M env sends i phase label) := by
  unfold exchange
  split_ifs
  · exact advances_sendNoiseHandshakeMsg hP i phase label
  · exact advances_receiveNoiseHandshakeMsg phase label hP

theorem AdvancesCall.bind {y : Call (NoiseConn μ) Oops Unit} (hx : AdvancesCall P x)
    (hy : AdvancesCall P y) : AdvancesCall P (x >>= fun _ => y) := by
  refine ⟨fun nc => ?_⟩
  obtain ⟨hfirst, hless⟩ := hx.result nc
  rcases hresult : x nc with ⟨_ | e | _, nc'⟩
  · rw [hresult] at hfirst hless
    rw [Call.bind_apply_ok hresult]
    obtain ⟨hsecond, -⟩ := hy.result nc'
    exact ⟨hfirst.trans hsecond, fun _ => (hless rfl).trans_le hsecond.index_le⟩
  · grind [Call.bind_apply_error]
  · grind [Call.bind_apply_waiting]

/-- Handlers. What holds of the exchange of one message and of two exchanges in a row holds of
every handler. -/
theorem handlers_induct {motive : Call (NoiseConn μ) Oops Unit → Prop}
    (hexchange : ∀ sends i phase label, motive (exchange P M env sends i phase label))
    (hbind : ∀ x y, motive x → motive y → motive (x >>= fun _ => y))
    (h : initiatorHandlers P M env name = some handler ∨
      responderHandlers P M env name = some handler) : motive handler := by
  have hone : ∀ initiator name, motive (oneMessage P M env initiator name) :=
    fun _ _ => hexchange ..
  have htwo : ∀ initiator name, motive (twoMessages P M env initiator name) :=
    fun _ _ => hbind _ _ (hexchange ..) (hexchange ..)
  have hthree : ∀ initiator name, motive (threeMessages P M env initiator name) :=
    fun _ _ => hbind _ _ (hexchange ..) (hbind _ _ (hexchange ..) (hexchange ..))
  obtain h | h := h
  on_goal 1 => unfold initiatorHandlers at h
  on_goal 2 => unfold responderHandlers at h
  all_goals
    split at h <;> first
      | (cases h; exact hone ..)
      | (cases h; exact htwo ..)
      | (cases h; exact hthree ..)
      | cases h

theorem advances_handlers (hP : P.Lawful)
    (h : initiatorHandlers P M env name = some handler ∨
      responderHandlers P M env name = some handler) : AdvancesCall P handler :=
  handlers_induct (fun _ _ _ _ => advances_exchange hP ..) (fun _ _ => .bind) h

theorem AdvancesCall.performWith {handlers : String → Option (Call (NoiseConn μ) Oops Unit)}
    (h : ∀ name handler, handlers name = some handler → AdvancesCall P handler) :
    AdvancesCall P (performWith handlers) := by
  refine ⟨fun nc => ?_⟩
  unfold NoiseConn.performWith
  split
  next handler hhandler => exact (h _ handler hhandler).result nc
  · exact ⟨.refl P nc, nofun⟩

theorem AdvancesCall.mapError (h : AdvancesCall P x)
    (f : Oops → Oops) : AdvancesCall P (mapError f x) := by
  refine ⟨fun nc => ?_⟩
  have hx := h.result nc
  unfold NoiseConn.mapError
  generalize x nc = result at hx
  obtain ⟨_ | _ | _, nc'⟩ := result
  · exact hx
  · exact ⟨hx.1, nofun⟩
  · exact hx

variable (M env) in
theorem advances_executeRoleBasedHandshake (hP : P.Lawful) :
    AdvancesCall P (executeRoleBasedHandshake P M env) := by
  refine ⟨fun nc => ?_⟩
  unfold executeRoleBasedHandshake
  cases env.deadline with
  | some e => exact ⟨.refl P nc, nofun⟩
  | none =>
    split_ifs
    · exact ((AdvancesCall.performWith fun _ _ h => advances_handlers hP (.inl h)).mapError
        _).result nc
    · exact ((AdvancesCall.performWith fun _ _ h => advances_handlers hP (.inr h)).mapError
        _).result nc

/-! ## A handshake that failed -/

/-- Handshake state and cipher states are those of the new connection `conn₀`. -/
structure Fresh (conn₀ nc : NoiseConn μ) : Prop where
  handshakeState : nc.handshakeState = conn₀.handshakeState
  sendCipherState : nc.sendCipherState = none
  recvCipherState : nc.recvCipherState = none

section
variable {t : Transport} {config : ConnConfig} {ms : List μ} {conn₀ nc : NoiseConn μ}

variable (P M env) in
/-- The ways a call of `Handshake` ends. -/
inductive Handshakes (hook : Option (NoiseConn μ → Option Oops × List μ)) (nc : NoiseConn μ) :
    Outcome Oops Unit × NoiseConn μ → Prop
  | done (established : nc.state = .established) : Handshakes hook nc (.ok (), nc)
  | waits (nc' : NoiseConn μ)
      (execute : executeRoleBasedHandshake P M env { nc with state := .handshaking } =
        (.waiting, nc')) : Handshakes hook nc (.waiting, nc')
  | failed (e : Oops) (nc' : NoiseConn μ)
      (execute : executeRoleBasedHandshake P M env { nc with state := .handshaking } =
        (.error e, nc')) :
      Handshakes hook nc (.error e, { nc'.resetHandshakeState P with state := .init })
  | completed (nc' : NoiseConn μ) (ms : List μ)
      (execute : executeRoleBasedHandshake P M env { nc with state := .handshaking } =
        (.ok (), nc')) :
      Handshakes hook nc (.ok (), { nc' with modifiers := ms, state := .established })
  | hookFailed (run : NoiseConn μ → Option Oops × List μ) (configured : hook = some run)
      (e cause : Oops) (nc' : NoiseConn μ) (ms : List μ)
      (execute : executeRoleBasedHandshake P M env { nc with state := .handshaking } =
        (.ok (), nc')) (fails : run nc' = (some cause, ms)) :
      Handshakes hook nc (.error e, { nc' with modifiers := ms, state := .init })

variable (P M env) in
theorem handshakes (hook : Option (NoiseConn μ → Option Oops × List μ)) (nc : NoiseConn μ) :
    Handshakes P M env hook nc (handshake P M env hook nc) := by
  unfold handshake
  split_ifs with hdone
  · exact .done hdone
  rcases hexecute : executeRoleBasedHandshake P M env { nc with state := .handshaking }
    with ⟨_ | e | _, nc'⟩
  · cases hook with
    | none => exact .completed nc' nc'.modifiers hexecute
    | some run =>
      dsimp only
      rcases hrun : run nc' with ⟨_ | cause, ms⟩
      · exact .completed nc' ms hexecute
      · exact .hookFailed run rfl _ cause nc' ms hexecute hrun
  · exact .failed e nc' hexecute
  · exact .waits nc' hexecute

theorem Advances.execute (hP : P.Lawful) (h : Advances P conn₀ nc) {outcome : Outcome Oops Unit}
    {nc' : NoiseConn μ}
    (hexecute : executeRoleBasedHandshake P M env { nc with state := .handshaking } =
      (outcome, nc')) :
    Advances P conn₀ nc' ∧ (outcome = .ok () →
      P.messageIndex conn₀.handshakeState < P.messageIndex nc'.handshakeState) := by
  have hstart : Advances P conn₀ { nc with state := .handshaking } :=
    ⟨h.config, h.privateStaticKey, h.index_le⟩
  have hresult := (advances_executeRoleBasedHandshake M env hP).result
    { nc with state := .handshaking }
  rw [hexecute] at hresult
  exact ⟨hstart.trans hresult.1, fun hok => h.index_le.trans_lt (hresult.2 hok)⟩

/-- **A handshake that failed.** The connection is fresh again exactly if the failure came before
the hook. -/
theorem fresh_handshake_iff (hP : P.Lawful) (hnew : newNoiseConn P t config ms = .ok conn₀)
    (h : Advances P conn₀ nc) {hook : Option (NoiseConn μ → Option Oops × List μ)} {e : Oops}
    (hfailed : (handshake P M env hook nc).1 = .error e) :
    Fresh conn₀ (handshake P M env hook nc).2 ↔
      ∀ run, hook = some run → ∀ nc',
        executeRoleBasedHandshake P M env { nc with state := .handshaking } = (.ok (), nc') →
        (run nc').1 = none := by
  have hcases := handshakes P M env hook nc
  generalize handshake P M env hook nc = result at hcases hfailed
  cases hcases with
  | done established => cases hfailed
  | waits nc' execute => cases hfailed
  | completed nc' ms execute => cases hfailed
  | failed e' nc' execute =>
    have hadvances := (h.execute hP execute).1
    have hcreate : createHandshakeState P conn₀.config conn₀.privateStaticKey =
        .ok conn₀.handshakeState := by grind [newNoiseConn]
    rw [resetHandshakeState, hadvances.config, hadvances.privateStaticKey, hcreate]
    refine iff_of_true ⟨rfl, rfl, rfl⟩ fun run _ nc'' hok => ?_
    cases execute.symm.trans hok
  | hookFailed run configured e' cause nc' ms execute fails =>
    have hless := (h.execute hP execute).2 rfl
    refine iff_of_false (fun hfresh => ?_) fun haccepts => ?_
    · -- a message was used up
      rw [← hfresh.handshakeState] at hless
      exact Nat.lt_irrefl _ hless
    · grind

end
end

/-- How many messages a pattern has. -/
def messageCount : Pattern → UInt8
  | .n | .k | .x => 1
  | .xn | .xk | .xx => 3
  | _ => 2

/-- The next message of a state that holds the number of messages and one byte for each message that
is used up. With the last one come the cipher states. -/
def nextMessage (msg : Bytes) (hs : HandshakeState) :
    Except Oops (Bytes × Option (CipherState × CipherState) × HandshakeState) :=
  match hs.contents with
  | [] => .error (.errorf "noise: no handshake messages left")
  | count :: used =>
    if count.toNat ≤ used.length then .error (.errorf "noise: no handshake messages left")
    else .ok (msg, if used.length + 1 = count.toNat then
        some (⟨FixedBytes.ofNat 32 7, 0⟩, ⟨FixedBytes.ofNat 32 7, 0⟩) else none,
      { hs with contents := count :: 0 :: used })

/-- A package whose messages carry a payload in clear. -/
def testPrimitives : Primitives where
  suite := numberedSuite
  publicKey _ := FixedBytes.ofNat 32 1
  newHandshakeState c := .ok ⟨c.staticKeypair, [messageCount c.pattern]⟩
  writeMessage _ payload := nextMessage payload
  readMessage := nextMessage
  messageIndex hs := hs.contents.length - 1

theorem lawful_testPrimitives : testPrimitives.Lawful := by
  have hnext : ∀ {msg msg' cs hs hs'}, nextMessage msg hs = .ok (msg', cs, hs') →
      testPrimitives.messageIndex hs < testPrimitives.messageIndex hs' := by
    intro msg msg' cs hs hs' h
    unfold nextMessage at h
    split at h
    · cases h
    next count used heq =>
      split_ifs at h <;> cases h <;> simp [testPrimitives, heq]
  exact ⟨hnext, hnext⟩

/-- The initiator of a pattern. -/
def shakingConfig (pattern : String) : ConnConfig :=
  ⟨pattern, true, [], List.replicate 32 1, 30 * second, 0, 0, 0, 0, [1], []⟩

def shakingConn (pattern : Pattern) : NoiseConn Unit where
  underlying := ⟨[], [], []⟩
  config := shakingConfig pattern.name
  modifiers := []
  privateStaticKey := []
  sendCipherState := none
  recvCipherState := none
  handshakeState := ⟨⟨[], []⟩, [messageCount pattern]⟩
  state := .init
  pendingPlaintext := []
  encryptions := []

theorem newNoiseConn_shaking : newNoiseConn testPrimitives ⟨[], [], []⟩ (shakingConfig "N") [] =
      .ok (shakingConn .n) ∧
    newNoiseConn testPrimitives ⟨[], [], []⟩ (shakingConfig "XX") [] = .ok (shakingConn .xx) :=
  ⟨rfl, rfl⟩

/-- No modifier. -/
def noModifiers : HandshakeModifier Unit :=
  ⟨fun _ => "", fun _ data m => (.ok data, m), fun _ data m => (.ok data, m)⟩

/-- The first message was sent, and the second one has an end of its stream. -/
theorem fresh_handshake_iff_second :
    let nc := { shakingConn .xx with underlying := ⟨[.failure (.errorf "EOF")], [], []⟩ }
    let result := handshake testPrimitives noModifiers
      ⟨none, fun _ => [], fun _ => (none, none)⟩ none nc
    result.2.underlying.sent ≠ [] ∧ Fresh (shakingConn .xx) result.2 := by
  intro nc result
  have hadvances : Advances testPrimitives (shakingConn .xx) nc := ⟨rfl, rfl, le_rfl⟩
  have hfailed : result.1 = .error _ := rfl
  refine ⟨by decide, (fresh_handshake_iff lawful_testPrimitives newNoiseConn_shaking.2 hadvances
    hfailed).mpr ?_⟩
  intro run hrun
  cases hrun

/-- The message was sent and the hook fails: no message is left for another attempt, and the cipher
states stay. -/
theorem not_fresh_handshake :
    (handshake testPrimitives noModifiers ⟨none, fun _ => [], fun _ => (none, none)⟩
        (some fun nc => (some (.errorf "no keys"), nc.modifiers)) (shakingConn .n)).1 =
      .error ⟨"POST_HANDSHAKE_HOOK_FAILED", "noise", [], "post-handshake hook failed: no keys"⟩ ∧
    ¬ Fresh (shakingConn .n) (handshake testPrimitives noModifiers
        ⟨none, fun _ => [], fun _ => (none, none)⟩
        (some fun nc => (some (.errorf "no keys"), nc.modifiers)) (shakingConn .n)).2 :=
  ⟨rfl, fun hfresh => absurd hfresh.sendCipherState nofun⟩

end NoiseConn
end GoNoise.Conn
