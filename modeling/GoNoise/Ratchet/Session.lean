import GoNoise.Ratchet.Crypto

/-!
# `ratchet/session.go`, `ratchet/ratchet_step.go`, `ratchet/nextkey.go`: sessions

A session has a sending and a receiving direction, each with a symmetric ratchet for the message
keys and a tag ratchet for the session tags, and one DH ratchet for both.
-/

namespace GoNoise.Ratchet

def dhRatchetInterval : UInt32 := 50

def maxConsecutiveDHFailures : UInt32 := 3

def tagWindowSize : ℕ := 24

def maxMessageNumber : UInt32 := 65535

def maxKeyID : UInt16 := 32767

structure NoiseHandshakeState where
  h : Bytes
  ck : Bytes
  localEphPriv : Bytes
  remoteEphPub : Key
  remoteStaticPub : Key
  deriving DecidableEq

structure Session (δ σ τ : Type) where
  remotePublicKey : Key
  dhRatchet : δ
  /-- the sending chain -/
  symmetricRatchet : σ
  tagRatchet : τ
  recvSymmetricRatchet : Option σ
  recvTagRatchet : Option τ
  lastUsed : Time
  messageCounter : UInt32
  /-- the lowest message counter that is still accepted -/
  recvWindowBase : UInt32
  /-- the next counter without a derived key -/
  recvFillMark : UInt32
  /-- the keys of the counters below `recvFillMark` that were not used -/
  recvKeyCache : GoMap UInt32 Key
  pendingTags : List Tag
  dhRatchetCounter : UInt32
  consecutiveDHFailures : UInt32
  newEphemeralPub : Option Key
  handshakeState : Option NoiseHandshakeState
  isInitiator : Bool
  nsrTag : Option Tag
  sendKeyID : UInt16
  recvKeyID : UInt16
  pendingNextKeys : List PayloadBlock
  awaitingReverseKey : Bool
  /-- the message counter of the next tag of `recvTagRatchet` -/
  nextRecvTagCounter : UInt32
  pendingAcks : List PayloadBlock
  lastAckedEntries : List AckEntry
  awaitingFirstES : Bool

variable {δ σ τ : Type} (P : Primitives δ σ τ)

def createSession (now : Time) (remotePubKey : Key) (keys : SessionKeys) (ourPrivateKey : Key)
    (isInitiator : Bool) : Except Oops (Session δ σ τ) :=
  match deriveDirectionalKeys P keys.rootKey isInitiator with
  | .error e => .error (e.wrapf "failed to derive directional root keys")
  | .ok (sendRootKey, recvRootKey) =>
    match deriveDirectionalKeys P keys.tagKey isInitiator with
    | .error e => .error (e.wrapf "failed to derive directional tag keys")
    | .ok (sendTagKey, recvTagKey) =>
      .ok {
        remotePublicKey := remotePubKey
        dhRatchet := P.newDHRatchet keys.rootKey ourPrivateKey remotePubKey
        symmetricRatchet := P.newSymmetricRatchet sendRootKey
        tagRatchet := P.newTagRatchet sendTagKey
        recvSymmetricRatchet := some (P.newSymmetricRatchet recvRootKey)
        recvTagRatchet := some (P.newTagRatchet recvTagKey)
        lastUsed := now
        messageCounter := 1
        recvWindowBase := 1
        recvFillMark := 1
        recvKeyCache := ∅
        pendingTags := []
        dhRatchetCounter := 0
        consecutiveDHFailures := 0
        newEphemeralPub := none
        handshakeState := none
        isInitiator := false
        nsrTag := none
        sendKeyID := 0
        recvKeyID := 0
        pendingNextKeys := []
        awaitingReverseKey := false
        nextRecvTagCounter := 1
        pendingAcks := []
        lastAckedEntries := []
        awaitingFirstES := false }

namespace Session

/-! ## The DH ratchet -/

/-- `applyRatchetKeys`: the DH ratchet gives new ratchets for one direction. -/
def applyRatchetKeys (send : Bool) (s : Session δ σ τ) : Except Oops Unit × Session δ σ τ :=
  match P.performRatchet s.dhRatchet with
  | (.error e, dhRatchet) =>
    (.error (e.wrapf (if send then "failed to perform DH ratchet"
      else "failed to perform receiving DH ratchet")), { s with dhRatchet := dhRatchet })
  | (.ok (sendingChainKey, receivingChainKey), dhRatchet) =>
    let s := { s with dhRatchet := dhRatchet }
    let chainKey := if send then sendingChainKey else receivingChainKey
    match deriveTagAndSymKeysFromChainKey P chainKey with
    | .error e =>
      (.error (e.wrapf (if send then "failed to derive keys after DH ratchet step"
        else "failed to derive receiving tag and symmetric keys after DH ratchet")), s)
    | .ok (tagKey, symKey) =>
      if send then
        (.ok (), { s with
          symmetricRatchet := P.newSymmetricRatchet symKey
          tagRatchet := P.newTagRatchet tagKey })
      else
        (.ok (), { s with
          recvSymmetricRatchet := some (P.newSymmetricRatchet symKey)
          recvTagRatchet := some (P.newTagRatchet tagKey) })

/-- `performDHRatchetStep`: new sending ratchets, and a Next Key block in the queue. -/
def performDHRatchetStep (s : Session δ σ τ) : Except Oops Unit × Session δ σ τ :=
  if maxKeyID ≤ s.sendKeyID then
    (.error (.errorf (s!"send key ID {s.sendKeyID} has reached maximum {maxKeyID}, " ++
      "session must be replaced")), s)
  else
    match P.generateNewKeyPair s.dhRatchet with
    | (.error e, dhRatchet) =>
      (.error (e.wrapf "failed to generate new ephemeral key pair"),
        { s with dhRatchet := dhRatchet })
    | (.ok newPubKey, dhRatchet) =>
      match applyRatchetKeys P true { s with dhRatchet := dhRatchet } with
      | (.error e, s) => (.error e, s)
      | (.ok (), s) =>
        (.ok (), { s with
          newEphemeralPub := some newPubKey
          pendingNextKeys :=
            s.pendingNextKeys ++ [newNextKeyBlock s.sendKeyID (some newPubKey) false true]
          awaitingReverseKey := true
          sendKeyID := s.sendKeyID + 1 })

def attemptDHRatchetRotation (s : Session δ σ τ) : Except Oops Unit × Session δ σ τ :=
  let s := { s with dhRatchetCounter := s.dhRatchetCounter + 1 }
  if s.dhRatchetCounter < dhRatchetInterval then (.ok (), s)
  else
    match performDHRatchetStep P s with
    | (.error e, s) =>
      let s := { s with consecutiveDHFailures := s.consecutiveDHFailures + 1 }
      if maxConsecutiveDHFailures ≤ s.consecutiveDHFailures then
        (.error (e.wrapf (s!"DH ratchet failed {s.consecutiveDHFailures} consecutive times " ++
          s!"(max {maxConsecutiveDHFailures}), forward secrecy compromised")), s)
      else (.ok (), s)
    | (.ok (), s) => (.ok (), { s with dhRatchetCounter := 0, consecutiveDHFailures := 0 })

/-! ## Sending -/

def deriveMessageKey (s : Session δ σ τ) : Except Oops Key × Session δ σ τ :=
  match P.deriveMessageKeyAndAdvance s.messageCounter s.symmetricRatchet with
  | (.error e, r) =>
    (.error (e.wrapf "failed to advance symmetric ratchet"), { s with symmetricRatchet := r })
  | (.ok messageKey, r) => (.ok messageKey, { s with symmetricRatchet := r })

def generateAndTrackSessionTag (s : Session δ σ τ) : Except Oops Tag × Session δ σ τ :=
  match P.generateNextTag s.tagRatchet with
  | (.error e, r) => (.error (e.wrapf "failed to generate session tag"), { s with tagRatchet := r })
  | (.ok sessionTag, r) => (.ok sessionTag, { s with tagRatchet := r })

def advanceRatchets (s : Session δ σ τ) : Except Oops (Key × Tag) × Session δ σ τ :=
  if maxMessageNumber ≤ s.messageCounter then
    (.error (.errorf (s!"message number {s.messageCounter} exceeds maximum {maxMessageNumber}, " ++
      "session must be ratcheted")), s)
  else
    match attemptDHRatchetRotation P s with
    | (.error e, s) => (.error e, s)
    | (.ok (), s) =>
      match deriveMessageKey P s with
      | (.error e, s) => (.error e, s)
      | (.ok messageKey, s) =>
        match generateAndTrackSessionTag P s with
        | (.error e, s) => (.error e, s)
        | (.ok sessionTag, s) => (.ok (messageKey, sessionTag), s)

/-- The loop of `prependPendingNextKeys`, into a buffer with that much room. -/
def serializeControl : ℕ → List PayloadBlock → Except Oops Bytes
  | _, [] => .ok []
  | room, block :: rest =>
    match block.serialize room with
    | .error e => .error (e.wrapf s!"failed to serialize control block (type {block.type})")
    | .ok wire =>
      match serializeControl (room - wire.length) rest with
      | .error e => .error e
      | .ok more => .ok (wire ++ more)

/-- `prependPendingNextKeys`: the queued control blocks go in front of the plaintext. -/
def prependPendingNextKeys (plaintext : Bytes) (s : Session δ σ τ) :
    Except Oops Bytes × Session δ σ τ :=
  let pendingBlocks := s.pendingNextKeys ++ s.pendingAcks
  let s := { s with pendingNextKeys := [], pendingAcks := [] }
  if pendingBlocks.length = 0 then (.ok plaintext, s)
  else
    let controlSize := (pendingBlocks.map PayloadBlock.serializeSize).sum
    match serializeControl (controlSize + plaintext.length) pendingBlocks with
    | .error e => (.error e, s)
    | .ok control => (.ok (control ++ plaintext), s)

def encryptExistingSession (now : Time) (plaintextGarlic : Bytes) (s : Session δ σ τ) :
    Except Oops Bytes × Session δ σ τ :=
  if s.isInitiator ∧ s.handshakeState.isSome then
    (.error (.errorf
      ("spec violation (ratchet.md §1g): initiator must receive New Session Reply " ++
      "before sending Existing Session messages")), s)
  else if ¬s.isInitiator ∧ s.awaitingFirstES then
    (.error (.errorf ("spec violation (ratchet.md §Notes): responder must receive an ES message " ++
      "from initiator before sending ES")), s)
  else
    match advanceRatchets P s with
    | (.error e, s) => (.error e, s)
    | (.ok (messageKey, sessionTag), s) =>
      match prependPendingNextKeys plaintextGarlic s with
      | (.error e, s) => (.error (e.wrapf "failed to prepend NextKey blocks to payload"), s)
      | (.ok payload, s) =>
        match encryptWithSessionKey P messageKey payload sessionTag s.messageCounter with
        | .error e => (.error e, s)
        | .ok (ciphertext, tag) =>
          (.ok (buildExistingSessionMessage sessionTag ciphertext tag),
            { s with lastUsed := now, messageCounter := s.messageCounter + 1 })

/-! ## Next Key blocks of the peer -/

def applyIncomingDHKey (remotePubKey : Key) (s : Session δ σ τ) :
    Except Oops Unit × Session δ σ τ :=
  match P.updateKeys remotePubKey.val s.dhRatchet with
  | (.error e, dhRatchet) =>
    (.error (e.wrapf "failed to update remote DH public key"), { s with dhRatchet := dhRatchet })
  | (.ok (), dhRatchet) =>
    match applyRatchetKeys P false { s with dhRatchet := dhRatchet } with
    | (.error e, s) => (.error e, s)
    | (.ok (), s) => (.ok (), { s with remotePublicKey := remotePubKey })

def generateReverseNextKey (s : Session δ σ τ) : Except Oops Unit × Session δ σ τ :=
  if maxKeyID ≤ s.sendKeyID then
    (.error (.errorf s!"send key ID {s.sendKeyID} has reached maximum {maxKeyID}"), s)
  else
    match P.generateNewKeyPair s.dhRatchet with
    | (.error e, dhRatchet) =>
      (.error (e.wrapf "failed to generate reverse NextKey key pair"),
        { s with dhRatchet := dhRatchet })
    | (.ok newPubKey, dhRatchet) =>
      (.ok (), { s with
        dhRatchet := dhRatchet
        pendingNextKeys :=
          s.pendingNextKeys ++ [newNextKeyBlock s.sendKeyID (some newPubKey) true false]
        newEphemeralPub := some newPubKey
        sendKeyID := s.sendKeyID + 1 })

def processForwardNextKey (info : NextKeyInfo) (s : Session δ σ τ) :
    Except Oops Unit × Session δ σ τ :=
  match applyIncomingDHKey P info.publicKey s with
  | (.error e, s) =>
    (.error (e.wrapf s!"failed to process forward NextKey (keyID={info.keyID})"), s)
  | (.ok (), s) =>
    let s := { s with recvKeyID := info.keyID }
    if info.requestReverse then generateReverseNextKey P s else (.ok (), s)

def processReverseNextKey (info : NextKeyInfo) (s : Session δ σ τ) :
    Except Oops Unit × Session δ σ τ :=
  match applyIncomingDHKey P info.publicKey s with
  | (.error e, s) =>
    (.error (e.wrapf s!"failed to process reverse NextKey (keyID={info.keyID})"), s)
  | (.ok (), s) => (.ok (), { s with recvKeyID := info.keyID, awaitingReverseKey := false })

def processNextKeyAck (info : NextKeyInfo) (s : Session δ σ τ) :
    Except Oops Unit × Session δ σ τ :=
  match applyIncomingDHKey P s.remotePublicKey s with
  | (.error e, s) => (.error (e.wrapf s!"failed to process NextKey ack (keyID={info.keyID})"), s)
  | (.ok (), s) => (.ok (), if info.reverse then { s with awaitingReverseKey := false } else s)

/-- `ProcessReceivedNextKey`, for the session that was found. -/
def processNextKey (info : NextKeyInfo) (s : Session δ σ τ) : Except Oops Unit × Session δ σ τ :=
  if info.keyPresent then
    if info.reverse then processReverseNextKey P info s else processForwardNextKey P info s
  else processNextKeyAck P info s

end Session
end GoNoise.Ratchet
