import Mathlib.Data.Rat.Floor
import GoNoise.SSU2.Session.Conn

/-!
# `ssu2/handshake`: session requests

The initiator's first message, with or without a retry token. The `noise` package is a parameter:
a type of handshake states with the operations that the handler calls.
-/

namespace GoNoise.SSU2

open BigEndian

/-! ## `options.go` -/

/-- `OptionsParams`, with exact ratios. -/
structure OptionsParams where
  tMinRatio : ℚ
  tMaxRatio : ℚ
  rMinRatio : ℚ
  rMaxRatio : ℚ
  tDummy : UInt16
  rDummy : UInt16
  tDelay : UInt16
  rDelay : UInt16
  deriving DecidableEq

def floatToFixedPoint (f : ℚ) : UInt8 :=
  let f := if f < 0 then 0 else f
  let f := if f > 255 / 16 then 255 / 16 else f
  let intPart := f.floor.toNat
  let fracPart := ((f - intPart) * 16).floor.toNat
  UInt8.ofNat (intPart <<< 4 ||| fracPart)

def OptionsParams.serialize (o : OptionsParams) : Bytes :=
  [floatToFixedPoint o.tMinRatio, floatToFixedPoint o.tMaxRatio, floatToFixedPoint o.rMinRatio,
    floatToFixedPoint o.rMaxRatio] ++ putUint16 o.tDummy ++ putUint16 o.rDummy ++
    putUint16 o.tDelay ++ putUint16 o.rDelay

/-! ## The handler -/

/-- The `noise` package, with handshake states in `σ`, and the key derivations. -/
structure Noise (σ : Type) where
  derivePublicKey : Bytes → Except Oops Bytes
  /-- `NewHandshakeState`: the role, the static private and public keys, the peer's static key, and
  what `rand.Reader` gives -/
  newHandshakeState : Bool → Bytes → Bytes → Option Bytes → Bytes → Except Oops σ
  mixHash : Bytes → σ → σ
  /-- `WriteMessage`: the message, and two cipher states after the last message -/
  writeMessage : Bytes → σ → Except Oops (Bytes × Option (CipherState × CipherState)) × σ
  chainingKey : σ → Bytes
  deriveIntermediateHeaderKey : Bytes → String → Bytes

/-- The fields of `HandshakeHandler` that writing messages uses. An empty list stands for a nil
slice. -/
structure HandshakeHandler (σ : Type) where
  initiator : Bool
  staticKey : Bytes
  remoteStaticKey : Bytes
  handshakeState : σ
  sendCipher : Option CipherState
  recvCipher : Option CipherState
  sessCreateHeaderKey : Bytes
  sessionConfirmedHeaderKey : Bytes
  localOptions : Option OptionsParams

namespace HandshakeHandler

variable {σ : Type} (noise : Noise σ) {destConnID sourceConnID : UInt64} {h h' : HandshakeHandler σ}
  {msgType : UInt8} {packet : SSU2Packet} {token : Bytes}

def createHandshakeBlocks (now : Time) (h : HandshakeHandler σ) : List SSU2Block :=
  [newSSU2Block blockTypeDateTime (putUint32 (UInt32.ofInt (unix now))),
    newSSU2Block blockTypeOptions
      (match h.localOptions with
      | some options => options.serialize
      | none => List.replicate 12 0)]

def updateCipherStates (cs : Option (CipherState × CipherState)) (h : HandshakeHandler σ) :
    HandshakeHandler σ :=
  match cs with
  | none => h
  | some (cs₁, cs₂) =>
    if h.initiator then { h with sendCipher := some cs₁, recvCipher := some cs₂ }
    else { h with sendCipher := some cs₂, recvCipher := some cs₁ }

def deriveNextHeaderKey (msgType : UInt8) (h : HandshakeHandler σ) : HandshakeHandler σ :=
  let key := noise.deriveIntermediateHeaderKey (noise.chainingKey h.handshakeState)
  if msgType = messageTypeSessionRequest then
    { h with sessCreateHeaderKey := key "SessCreateHeader" }
  else if msgType = messageTypeSessionCreated then
    { h with sessionConfirmedHeaderKey := key "SessionConfirmed" }
  else h

/-- The long header of `buildHandshakePacket`. -/
def longHeader (msgType : UInt8) (sourceConnID destConnID : UInt64) (token : Bytes) : Bytes :=
  putUint64 destConnID ++ putUint32 0 ++ [msgType, ssu2ProtocolVersion, ssu2NetworkID, 0] ++
    putUint64 sourceConnID ++ (if token.length = 8 then token else List.replicate 8 0)

/-- The Noise message cut into ephemeral key, payload and tag. -/
def packetOfMessage (header : Bytes) (msgType : UInt8) (ciphertext : Bytes) : SSU2Packet :=
  let aead := ciphertext.drop 32
  { header := header
    ephemeralKey := ciphertext.take 32
    payload := if aead.length ≥ 16 then aead.take (aead.length - 16) else aead
    mac := if aead.length ≥ 16 then aead.drop (aead.length - 16) else List.replicate 16 0
    messageType := msgType
    packetNumber := 0
    timestamp := 0 }

def buildHandshakePacket (blocks : List SSU2Block) (msgType : UInt8)
    (sourceConnID destConnID : UInt64) (token : Bytes) (h : HandshakeHandler σ) :
    Except Oops SSU2Packet × HandshakeHandler σ :=
  if destConnID = 0 ∧ msgType ≠ messageTypeSessionRequest then
    (.error <| .errorf <| s!"destConnID=0 is only allowed for SessionRequest (type " ++
      s!"{messageTypeSessionRequest}), got type {msgType}", h)
  else
    match serializeBlocks blocks with
    | .error e => (.error (e.wrapf "failed to serialize handshake blocks"), h)
    | .ok payload =>
      let header := longHeader msgType sourceConnID destConnID token
      match noise.writeMessage payload (noise.mixHash header h.handshakeState) with
      | (.error e, s) =>
        (.error (e.wrapf "failed to create handshake message"), { h with handshakeState := s })
      | (.ok (ciphertext, cs), s) =>
        let h := updateCipherStates cs { h with handshakeState := s }
        if ciphertext.length < 32 then
          (.error <| .errorf <|
            s!"invalid handshake message: too short ({ciphertext.length} bytes)", h)
        else
          (.ok (packetOfMessage header msgType ciphertext), h.deriveNextHeaderKey noise msgType)

def createSessionRequest (now : Time) (sourceConnID destConnID : UInt64) (h : HandshakeHandler σ) :
    Except Oops SSU2Packet × HandshakeHandler σ :=
  if ¬ h.initiator then (.error (.errorf "only initiator can create SessionRequest"), h)
  else
    h.buildHandshakePacket noise (h.createHandshakeBlocks now) messageTypeSessionRequest
      sourceConnID destConnID []

def resetForRetry (random : Bytes) (h : HandshakeHandler σ) : Except Oops (HandshakeHandler σ) :=
  match noise.derivePublicKey h.staticKey with
  | .error e => .error (e.wrapf "derive local static public key for retry")
  | .ok pub =>
    let peerStatic := if h.initiator ∧ h.remoteStaticKey.length = 32 then some h.remoteStaticKey
      else none
    match noise.newHandshakeState h.initiator h.staticKey pub peerStatic random with
    | .error e => .error (e.wrapf "failed to recreate handshake state for retry")
    | .ok hs =>
      .ok { h with
        handshakeState := hs
        sendCipher := none
        recvCipher := none
        sessCreateHeaderKey := []
        sessionConfirmedHeaderKey := [] }

def createSessionRequestWithToken (now : Time) (random : Bytes) (sourceConnID destConnID : UInt64)
    (token : Bytes) (h : HandshakeHandler σ) : Except Oops SSU2Packet × HandshakeHandler σ :=
  if ¬ h.initiator then (.error (.errorf "only initiator can create SessionRequest"), h)
  else if token.length ≠ 8 then
    (.error (.errorf s!"retry token must be exactly 8 bytes, got {token.length}"), h)
  else if token.all (· = 0) then
    (.error (.errorf "retry token must be nonzero per SSU2 spec"), h)
  else
    match h.resetForRetry noise random with
    | .error e => (.error (e.wrapf "failed to reset handshake state for Retry"), h)
    | .ok h =>
      h.buildHandshakePacket noise (h.createHandshakeBlocks now) messageTypeSessionRequest
        sourceConnID destConnID token

/-! ## What is built -/

theorem drop_longHeader
    (h : token.length = 8) : (longHeader msgType sourceConnID destConnID token).drop 24 =
      token := by
  rw [longHeader, if_pos h]
  exact List.drop_left' (by simp)

/-- A packet that is built has the header with the token, and the rest of it is a Noise message. -/
theorem packet_of_buildHandshakePacket {blocks : List SSU2Block}
    (hbuild : h.buildHandshakePacket noise blocks msgType sourceConnID destConnID token =
      (.ok packet, h')) :
    ∃ ciphertext, packet =
      packetOfMessage (longHeader msgType sourceConnID destConnID token) msgType ciphertext := by
  unfold buildHandshakePacket at hbuild
  split_ifs at hbuild
  · cases hbuild
  split at hbuild
  · cases hbuild
  dsimp only at hbuild
  split at hbuild
  · cases hbuild
  split_ifs at hbuild
  · cases hbuild
  · cases hbuild
    exact ⟨_, rfl⟩

theorem token_of_createSessionRequestWithToken {now : Time} {random : Bytes}
    (hcreate : h.createSessionRequestWithToken noise now random sourceConnID destConnID token =
      (.ok packet, h')) : token.length = tokenSize ∧ packet.header.drop 24 = token := by
  unfold createSessionRequestWithToken at hcreate
  split_ifs at hcreate with _ hlen
  · cases hcreate
  · cases hcreate
  swap
  · cases hcreate
  cases hreset : h.resetForRetry noise random with
  | error e =>
    rw [hreset] at hcreate
    cases hcreate
  | ok hr =>
    rw [hreset] at hcreate
    obtain ⟨ciphertext, rfl⟩ := packet_of_buildHandshakePacket noise hcreate
    exact ⟨not_not.mp hlen, drop_longHeader (not_not.mp hlen)⟩

end HandshakeHandler
end GoNoise.SSU2
