import GoNoise.SSU2.Reliability.AckHandler
import GoNoise.SSU2.Reliability.ReceiveWindow
import GoNoise.SSU2.Session.DataHandler

/-!
# `ssu2/session`: the connection and its send path

`conn.go` and `conn_write.go`. A packet gets its number when it is made, waits in the send queue
and is encrypted when it is sent, with its number as the nonce. Packets that are put in the send
queue, calls of the cipher's `Encrypt` and goroutines that are started are returned by the
functions.
-/

namespace GoNoise.SSU2

open BigEndian

/-! ## State -/

inductive ConnState
  | init
  | handshaking
  | established
  | closing
  | closed
  deriving DecidableEq

def ConnState.toString : ConnState → String
  | .init => "init"
  | .handshaking => "handshaking"
  | .established => "established"
  | .closing => "closing"
  | .closed => "closed"

/-- The fields of `SSU2Config` that the data phase reads. -/
structure SSU2Config where
  mtu : ℤ
  enableNextNonce : Bool
  receiveWindowSize : ℤ
  fragmentTimeout : Duration
  deriving DecidableEq

def SSU2Config.newSSU2Config : SSU2Config := ⟨1280, false, 256, 10000 * millisecond⟩

/-- A cipher state of the `noise` package: the key and the nonce of the next call. -/
structure CipherState where
  key : Bytes
  nonce : UInt64
  deriving DecidableEq

structure Encryption where
  key : Bytes
  nonce : UInt64
  deriving DecidableEq

/-- A goroutine that is started. -/
inductive Spawn
  | close
  | initiateRekey
  deriving DecidableEq

structure PendingPacket where
  packet : SSU2Packet
  plaintextPayload : Bytes
  sentTime : Time
  retries : ℕ
  nextRetry : Time

structure SSU2Conn where
  config : SSU2Config
  state : ConnState
  dataHandler : DataHandler
  ackHandler : ACKHandler
  recvWindow : Option ReceiveWindow
  sendCipher : Option CipherState
  recvCipher : Option CipherState
  recvQueue : Chan SSU2Packet
  sendSequence : UInt32
  pendingPackets : GoMap UInt32 PendingPacket
  lastActivity : Time
  remoteConnectionID : UInt64
  rekeyInFlight : Bool
  validDataPacketsReceived : UInt64
  validDataPacketsSent : UInt64

/-- The third-party cryptography. -/
structure Crypto where
  /-- `CipherState.Encrypt`: key, nonce, associated data, plaintext -/
  encrypt : Bytes → UInt64 → Bytes → Bytes → Except Oops Bytes
  /-- `HKDF(key, ZEROLEN, "WrapCipherKey", 32)` -/
  hkdf : Bytes → Except Oops Bytes

/-- What a call on the send path meets outside the modelled state. -/
structure SendEnv where
  now : Time
  rto : Duration
  /-- the next mask of the SipHash modifier, if one is installed -/
  mask : Option UInt16
  /-- `EncryptOutboundHeader`, or the identity without a header protector -/
  protectHeader : Bytes → Except Oops Bytes
  writeTo : Bytes → Except Oops Unit

/-- Cryptography that leaves everything as it is, for concrete runs. -/
def Crypto.identity : Crypto := ⟨fun _ _ _ plaintext => .ok plaintext, .ok⟩

/-- A socket that takes everything, for concrete runs. -/
def SendEnv.openSocket : SendEnv := ⟨0, 0, none, .ok, fun _ => .ok ()⟩

def rekeyThreshold : UInt32 := 0xFFFFFF00
def maxPacketRetries : ℕ := 5

namespace SSU2Conn

def assembleSSU2Conn (config : SSU2Config) (now : Time) : SSU2Conn where
  config := config
  state := .init
  dataHandler :=
    let dh := DataHandler.newDataHandler 100
    if config.fragmentTimeout > 0 then { dh with fragmentTimeout := config.fragmentTimeout } else dh
  ackHandler := ACKHandler.newACKHandler
  recvWindow := some (ReceiveWindow.newReceiveWindow 0 config.receiveWindowSize)
  sendCipher := none
  recvCipher := none
  recvQueue := .make 64
  sendSequence := 0
  pendingPackets := ∅
  lastActivity := now
  remoteConnectionID := 0
  rekeyInFlight := false
  validDataPacketsReceived := 0
  validDataPacketsSent := 0

/-- A connection at the end of the handshake: the cipher states are installed and the peer's
connection ID is known. -/
def establish (h : SSU2Conn) (sendKey recvKey : Bytes) (remoteConnectionID : UInt64) : SSU2Conn :=
  { h with
    state := .established
    sendCipher := some ⟨sendKey, 0⟩
    recvCipher := some ⟨recvKey, 0⟩
    remoteConnectionID := remoteConnectionID }

/-! ## Numbering -/

def nextSendSequence (h : SSU2Conn) : UInt32 × List Spawn × SSU2Conn :=
  if h.sendSequence = 0xFFFFFFFF then (0xFFFFFFFF, [.close], h)
  else
    let seq := h.sendSequence
    let h := { h with sendSequence := seq + 1 }
    if h.config.enableNextNonce ∧ seq ≥ rekeyThreshold ∧ ¬ h.rekeyInFlight then
      (seq, [.initiateRekey], { h with rekeyInFlight := true })
    else (seq, [], h)

variable (h : SSU2Conn)

/-- Every way a number is handed out. At the end of the number space the counter stays;
otherwise it moves on, and at most one rekey is started. -/
theorem nextSendSequence_cases :
    (h.sendSequence = 0xFFFFFFFF ∧ h.nextSendSequence = (h.sendSequence, [.close], h)) ∨
      h.sendSequence ≠ 0xFFFFFFFF ∧
        (h.nextSendSequence =
            (h.sendSequence, [], { h with sendSequence := h.sendSequence + 1 }) ∨
          h.config.enableNextNonce = true ∧ h.rekeyInFlight = false ∧
            h.nextSendSequence = (h.sendSequence, [.initiateRekey],
              { h with sendSequence := h.sendSequence + 1, rekeyInFlight := true })) := by
  rw [nextSendSequence]
  by_cases hmax : h.sendSequence = 0xFFFFFFFF
  · rw [if_pos hmax, hmax]
    exact Or.inl ⟨rfl, rfl⟩
  rw [if_neg hmax]
  refine Or.inr ⟨hmax, ?_⟩
  by_cases hrekey : h.config.enableNextNonce = true ∧ h.sendSequence ≥ rekeyThreshold ∧
      ¬ h.rekeyInFlight = true
  · exact Or.inr ⟨hrekey.1, Bool.eq_false_iff.mpr hrekey.2.2, if_pos hrekey⟩
  · exact Or.inl (if_neg hrekey)

theorem nextSendSequence_fst : h.nextSendSequence.1 = h.sendSequence := by
  rcases h.nextSendSequence_cases with ⟨-, he⟩ | ⟨-, he | ⟨-, -, he⟩⟩ <;> rw [he]

theorem state_nextSendSequence : h.nextSendSequence.2.2.state = h.state := by
  rcases h.nextSendSequence_cases with ⟨-, he⟩ | ⟨-, he | ⟨-, -, he⟩⟩ <;> rw [he]

/-- The short header: connection ID, packet number, and four bytes set later. -/
def shortHeader (h : SSU2Conn) (pktNum : UInt32) : Bytes :=
  putUint64 h.remoteConnectionID ++ putUint32 pktNum ++ [0, 0, 0, 0]

def dataPacket (h : SSU2Conn) (pktNum : UInt32) (payload : Bytes) : SSU2Packet where
  header := h.shortHeader pktNum
  ephemeralKey := []
  payload := payload
  mac := List.replicate macSize 0
  messageType := messageTypeData
  packetNumber := pktNum
  timestamp := 0

def newDataPacket (h : SSU2Conn) : SSU2Packet × List Spawn × SSU2Conn :=
  let (pktNum, spawned, h) := h.nextSendSequence
  (h.dataPacket pktNum [], spawned, h)

/-! ## Sending -/

/-- `encryptDataPayload`: the packet to send and the plaintext kept for retransmission. -/
def encryptDataPayload (crypto : Crypto) (h : SSU2Conn) (packet : SSU2Packet) :
    Except Oops (SSU2Packet × Bytes) × List Encryption × SSU2Conn :=
  match h.sendCipher with
  | none => (.ok (packet, []), [], h)
  | some cipher =>
    if packet.messageType ≠ messageTypeData ∨ packet.payload.length = 0 then
      (.ok (packet, []), [], h)
    else
      let packet := { packet with header := packet.header.set 12 packet.messageType }
      let nonce := UInt64.ofNat packet.packetNumber.toNat
      let h := { h with sendCipher := some { cipher with nonce := nonce } }
      match crypto.encrypt cipher.key nonce (packet.header.take shortHeaderSize) packet.payload with
      | .error e => (.error (e.wrapf "failed to encrypt payload"), [⟨cipher.key, nonce⟩], h)
      | .ok encrypted =>
        (.ok ({ packet with payload := encrypted }, packet.payload), [⟨cipher.key, nonce⟩], h)

/-- The length obfuscation of header bytes 14 and 15. -/
def applySipHashObfuscation (mask : Option UInt16) (packet : SSU2Packet) : SSU2Packet :=
  match mask with
  | none => packet
  | some mask =>
    if packet.messageType ≠ messageTypeData then packet
    else
      let dataLen := UInt16.ofNat packet.payload.length
      { packet with
        header := packet.header.take 14 ++ putUint16 (dataLen ^^^ mask) ++ packet.header.drop 16 }

/-- Nothing but the header changes, and its length does not. -/
theorem applySipHashObfuscation_eq (mask : Option UInt16) (packet : SSU2Packet) :
    ∃ header, applySipHashObfuscation mask packet = { packet with header := header } ∧
      (16 ≤ packet.header.length → header.length = packet.header.length) := by
  unfold applySipHashObfuscation
  cases mask with
  | none => exact ⟨_, rfl, fun _ => rfl⟩
  | some mask =>
    dsimp only
    split_ifs
    · exact ⟨_, rfl, fun _ => rfl⟩
    · refine ⟨_, rfl, fun hlen => ?_⟩
      simp only [List.length_append, List.length_take, List.length_drop, length_putUint16]
      omega

def trackPendingPacket (env : SendEnv) (h : SSU2Conn) (packet : SSU2Packet) (plaintext : Bytes) :
    SSU2Conn :=
  if packet.messageType ≠ messageTypeData ∨ packet.packetNumber = 0 then h
  else
    { h with
      pendingPackets := h.pendingPackets.insert packet.packetNumber
        ⟨packet, plaintext, env.now, 0, env.now + env.rto⟩ }

/-- Serialization, header protection and the socket write. -/
def putOnWire (env : SendEnv) (packet : SSU2Packet) : Except Oops SSU2Packet :=
  match (applySipHashObfuscation env.mask packet).serialize with
  | .error e => .error (e.wrapf "failed to serialize packet")
  | .ok (data, packet) =>
    match env.protectHeader data with
    | .error e => .error e
    | .ok data =>
      match env.writeTo data with
      | .error e => .error (e.wrapf "failed to write to UDP")
      | .ok () => .ok packet

def sendPacketDirect (crypto : Crypto) (env : SendEnv) (h : SSU2Conn) (packet : SSU2Packet) :
    Except Oops Unit × List Encryption × SSU2Conn :=
  match h.encryptDataPayload crypto packet with
  | (.error e, encryptions, h) => (.error e, encryptions, h)
  | (.ok (packet, plaintextPayload), encryptions, h) =>
    match putOnWire env packet with
    | .error e => (.error e, encryptions, h)
    | .ok packet =>
      let sent := if packet.messageType = messageTypeData then h.validDataPacketsSent + 1
        else h.validDataPacketsSent
      let h := { h with validDataPacketsSent := sent, lastActivity := env.now }
      (.ok (), encryptions, h.trackPendingPacket env packet plaintextPayload)

/-! ## The other users of numbers -/

/-- `sendImmediateACK` up to the call of `sendPacketDirect`: the packet that carries the ACK block,
if there is something to acknowledge. -/
def immediateACKPacket (h : SSU2Conn) (now : Time) : Option SSU2Packet × List Spawn × SSU2Conn :=
  match h.ackHandler.generateACK now with
  | (none, ackHandler) => (none, [], { h with ackHandler := ackHandler })
  | (some ack, ackHandler) =>
    let (pktNum, spawned, h) := { h with ackHandler := ackHandler }.nextSendSequence
    let payload := (serializeBlocks [ack]).toOption.getD []
    (some (h.dataPacket pktNum payload), spawned, h)

def sendImmediateACK (crypto : Crypto) (env : SendEnv) (h : SSU2Conn) :
    List Encryption × List Spawn × SSU2Conn :=
  match h.immediateACKPacket env.now with
  | (none, spawned, h) => ([], spawned, h)
  | (some packet, spawned, h) =>
    let (_, encryptions, h) := h.sendPacketDirect crypto env packet
    (encryptions, spawned, h)

/-- The body of the loop of `retransmitExpired`: the packet for the send queue, if the pending
packet has expired and may be tried again. -/
def retransmitPending (h : SSU2Conn) (now : Time) (pn : UInt32) (pp : PendingPacket) :
    Option SSU2Packet × List Spawn × SSU2Conn :=
  if now < pp.nextRetry then (none, [], h)
  else if pp.retries ≥ maxPacketRetries then
    (none, [], { h with pendingPackets := h.pendingPackets.erase pn })
  else
    let (newPacket, spawned, h) := h.newDataPacket
    (some { newPacket with payload := pp.plaintextPayload }, spawned,
      { h with pendingPackets := h.pendingPackets.erase pn })

/-- `retransmitExpired`, over the entries of the pending map: the packets for the send queue. -/
def retransmitExpired (now : Time) :
    SSU2Conn → List ((_ : UInt32) × PendingPacket) → List SSU2Packet × List Spawn × SSU2Conn
  | h, [] => ([], [], h)
  | h, ⟨pn, pp⟩ :: rest =>
    let (packet, spawned, h) := h.retransmitPending now pn pp
    let (packets, spawned', h) := retransmitExpired now h rest
    (packet.toList ++ packets, spawned ++ spawned', h)

/-- `SendToAddress`: the packet is numbered and sent as it is, without the cipher. -/
def sendToAddress (env : SendEnv) (h : SSU2Conn) (block : SSU2Block) :
    Except Oops Unit × List Spawn × SSU2Conn :=
  let (pktNum, spawned, h) := h.nextSendSequence
  match serializeBlocks [block] with
  | .error e => (.error (e.wrapf "failed to serialize block for path validation"), spawned, h)
  | .ok payload =>
    match (h.dataPacket pktNum payload).serialize with
    | .error e => (.error (e.wrapf "failed to serialize packet for path validation"), spawned, h)
    | .ok (data, _) => (env.writeTo data, spawned, h)

theorem sendToAddress_conn (env : SendEnv) (h : SSU2Conn) (block : SSU2Block) :
    (h.sendToAddress env block).2.2 = h.nextSendSequence.2.2 := by
  unfold sendToAddress
  dsimp only
  split
  · rfl
  · split <;> rfl

/-- `CloseWithReason` up to the call of `sendPacketDirect`: the packet with the Termination block,
if the block can be serialized. -/
def terminationPacket (h : SSU2Conn) (reason : UInt8) (additionalData : Bytes) :
    Option SSU2Packet × List Spawn × SSU2Conn :=
  let h := { h with state := .closing }
  let termData := putUint64 h.validDataPacketsReceived ++ [reason] ++ additionalData
  let (pktNum, spawned, h) := h.nextSendSequence
  match serializeBlocks [⟨blockTypeTermination, termData⟩] with
  | .error _ => (none, spawned, h)
  | .ok payload => (some (h.dataPacket pktNum payload), spawned, h)

/-! ## Rekeying -/

/-- `sendNextNonceInline`, with the cipher `cipher` that `initiateRekey` holds the lock of. -/
def sendNextNonceInline (crypto : Crypto) (env : SendEnv) (h : SSU2Conn) (cipher : CipherState) :
    Except Oops Unit × List Encryption × SSU2Conn :=
  let pktNum := h.sendSequence
  let h := { h with sendSequence := pktNum + 1 }
  match serializeBlocks [⟨blockTypeNextNonce, putUint64 0⟩] with
  | .error e => (.error (e.wrapf "serialize NextNonce block"), [], h)
  | .ok payload =>
    let packet := h.dataPacket pktNum payload
    let packet := { packet with header := packet.header.set 12 messageTypeData }
    let nonce := UInt64.ofNat pktNum.toNat
    let h := { h with sendCipher := some { cipher with nonce := nonce } }
    match crypto.encrypt cipher.key nonce (packet.header.take shortHeaderSize) payload with
    | .error e => (.error (e.wrapf "encrypt NextNonce block"), [⟨cipher.key, nonce⟩], h)
    | .ok encrypted =>
      match (applySipHashObfuscation env.mask { packet with payload := encrypted }).serialize with
      | .error e => (.error (e.wrapf "serialize NextNonce packet"), [⟨cipher.key, nonce⟩], h)
      | .ok (data, _) =>
        -- an error of the header protector is ignored here
        match env.writeTo ((env.protectHeader data).toOption.getD data) with
        | .error e => (.error (e.wrapf "send NextNonce packet"), [⟨cipher.key, nonce⟩], h)
        | .ok () => (.ok (), [⟨cipher.key, nonce⟩], { h with lastActivity := env.now })

/-- The end of `initiateRekey`: the new key, and numbers from 0 again. -/
def switchKey (h : SSU2Conn) (newKey : Bytes) : SSU2Conn :=
  { h with sendCipher := some ⟨newKey, 0⟩, sendSequence := 0 }

/-- `initiateRekey`, when nothing runs in between. -/
def initiateRekey (crypto : Crypto) (env : SendEnv) (h : SSU2Conn) : List Encryption × SSU2Conn :=
  match h.sendCipher with
  | none => ([], h)
  | some cipher =>
    match crypto.hkdf cipher.key with
    | .error _ => ([], h)
    | .ok newKey =>
      match h.sendNextNonceInline crypto env cipher with
      | (.error _, encryptions, h) => (encryptions, h)
      | (.ok (), encryptions, h) => (encryptions, h.switchKey newKey)

end SSU2Conn
end GoNoise.SSU2
