import GoNoise.SSU2.Session.Emissions
import GoNoise.SSU2.Session.ConnRead

/-!
# One end of a connection

The goroutines of an established connection, in steps that the locks and the channels make atomic.
A packet gets its number when it is made; `writeBlock` then waits for a place in the send queue,
and `sendPacketDirect` encrypts, writes and tracks the packet, each under another lock. The other
goroutines may run in between. The receive loop has at most one packet in its hands.

Every payload that is made gets an index, its tag, which the retransmissions of the payload keep.
Tags, and the lists that only grow, are bookkeeping that the code does not have.
-/

namespace GoNoise.SSU2

/-! ## State -/

/-- A packet that has its number, with the tag of its payload. -/
structure Job where
  packet : SSU2Packet
  tag : ℕ

/-- A packet that `encryptDataPayload` has returned, with the plaintext and the calls of
`Encrypt`. -/
structure EncryptedJob extends Job where
  plaintext : Bytes
  encryptions : List Encryption

/-- A Data packet that was written to the socket. There is no tag if the payload is not one of the
tagged ones. -/
structure Emission where
  data : Bytes
  packetNumber : UInt32
  /-- the blocks, before encryption -/
  payload : Bytes
  encryptions : List Encryption
  tag : Option ℕ

/-- A Data packet that the receive window took, with the tag of its payload on the other side. -/
structure Inbound where
  packet : SSU2Packet
  source : Option ℕ

/-- One end of a connection. -/
structure Endpoint where
  conn : SSU2Conn
  /-- the payloads made so far; the index is the tag -/
  payloads : List Bytes
  /-- `writeBlock` waits for a place in the send queue -/
  writing : List Job
  /-- the tags for which `writeBlock` has returned without an error -/
  accepted : List ℕ
  sendQueue : Chan Job
  /-- `sendPacketDirect` was called -/
  sending : List Job
  /-- `encryptDataPayload` has returned -/
  encrypted : List EncryptedJob
  /-- `WriteTo` has returned -/
  sent : List EncryptedJob
  rekey : Rekey
  /-- the tags of the pending packets -/
  tagOf : UInt32 → ℕ
  /-- the tags of the pending packets that an ACK block retired -/
  acked : List ℕ
  /-- the tags of the pending packets that `retransmitExpired` took to send them again -/
  expired : List ℕ
  emissions : List Emission
  /-- the packet in the hands of the receive loop -/
  receiving : Option Inbound
  /-- for each message that was queued for `Read`, where it came from -/
  delivered : List (Option ℕ)

/-- The environment of a call that sends a Data packet on a connection with header context `ctx`. -/
def HeaderContext.dataEnv (ctx : HeaderContext) (env : SendEnv) : SendEnv :=
  ctx.sendEnv env.now env.rto env.mask env.writeTo

namespace Endpoint

/-- An established connection on which nothing has been sent or received. -/
def start (h : SSU2Conn) : Endpoint where
  conn := h
  payloads := []
  writing := []
  accepted := []
  sendQueue := .make 64
  sending := []
  encrypted := []
  sent := []
  rekey := .idle
  tagOf _ := 0
  acked := []
  expired := []
  emissions := []
  receiving := none
  delivered := []

/-! ## Steps -/

/-- The goroutines that `nextSendSequence` started. -/
def spawn (s : Endpoint) (spawned : List Spawn) : Endpoint :=
  { s with rekey := if .initiateRekey ∈ spawned then .started else s.rekey }

def writeBlock (s : Endpoint) (block : SSU2Block) : Endpoint :=
  let (r, spawned, h) := s.conn.writeBlock .enqueued block
  let s := { s with conn := h }.spawn spawned
  match r with
  | .error _ => s
  | .ok packet =>
    { s with
      payloads := s.payloads ++ [packet.payload]
      writing := s.writing ++ [⟨packet, s.payloads.length⟩] }

/-- The `select` of `writeBlock` puts packet `i` in the send queue, if there is room. -/
def enqueue (s : Endpoint) (i : ℕ) : Endpoint :=
  match s.writing[i]? with
  | none => s
  | some job =>
    match s.sendQueue.trySend job with
    | none => s
    | some queue =>
      { s with
        writing := s.writing.eraseIdx i
        sendQueue := queue
        accepted := s.accepted ++ [job.tag] }

/-- The send loop takes a packet out of the send queue. -/
def take (s : Endpoint) : Endpoint :=
  match s.sendQueue.tryRecv with
  | none => s
  | some (job, queue) => { s with sendQueue := queue, sending := s.sending ++ [job] }

/-- A packet that was made is given to `sendPacketDirect` at once. -/
def direct (s : Endpoint) (r : Option SSU2Packet × List Spawn × SSU2Conn) : Endpoint :=
  let s := { s with conn := r.2.2 }.spawn r.2.1
  match r.1 with
  | none => s
  | some packet =>
    { s with
      payloads := s.payloads ++ [packet.payload]
      sending := s.sending ++ [⟨packet, s.payloads.length⟩] }

/-- `encryptDataPayload`, if the lock of the cipher is free. -/
def encrypt (aead : Aead) (s : Endpoint) (i : ℕ) : Endpoint :=
  match s.rekey, s.sending[i]? with
  | .switching _, _ => s
  | _, none => s
  | _, some job =>
    match s.conn.encryptDataPayload aead.toCrypto job.packet with
    | (.error _, _, h) => { s with conn := h, sending := s.sending.eraseIdx i }
    | (.ok (packet, plaintext), encryptions, h) =>
      { s with
        conn := h
        sending := s.sending.eraseIdx i
        encrypted := s.encrypted ++ [⟨⟨packet, job.tag⟩, plaintext, encryptions⟩] }

/-- `Serialize`, header protection and `WriteTo`. If one of them fails, the packet is gone. -/
def emit (ctx : HeaderContext) (env : SendEnv) (s : Endpoint) (i : ℕ) : Endpoint :=
  match s.encrypted[i]? with
  | none => s
  | some job =>
    match SSU2Conn.putOnWire (ctx.dataEnv env) job.packet,
        SSU2Conn.wireData (ctx.dataEnv env) job.packet with
    | .ok packet, some data =>
      { s with
        conn := { s.conn with
          validDataPacketsSent := if packet.messageType = messageTypeData then
            s.conn.validDataPacketsSent + 1 else s.conn.validDataPacketsSent
          lastActivity := env.now }
        encrypted := s.encrypted.eraseIdx i
        sent := s.sent ++ [{ job with packet := packet }]
        emissions := s.emissions ++
          [⟨data, job.packet.packetNumber, job.plaintext, job.encryptions, some job.tag⟩] }
    | _, _ => { s with encrypted := s.encrypted.eraseIdx i }

/-- `trackPendingPacket` -/
def track (env : SendEnv) (s : Endpoint) (i : ℕ) : Endpoint :=
  match s.sent[i]? with
  | none => s
  | some job =>
    { s with
      conn := s.conn.trackPendingPacket env job.packet job.plaintext
      sent := s.sent.eraseIdx i
      tagOf := if job.packet.messageType ≠ messageTypeData ∨ job.packet.packetNumber = 0 then
        s.tagOf else Function.update s.tagOf job.packet.packetNumber job.tag }

/-- `retransmitExpired` looks at pending packet `pn`. The new packet is dropped if the send queue
is full. -/
def retransmit (now : Time) (s : Endpoint) (pn : UInt32) : Endpoint :=
  match s.conn.pendingPackets.lookup pn with
  | none => s
  | some pp =>
    let (packet, spawned, h) := s.conn.retransmitPending now pn pp
    let s := { s with conn := h }.spawn spawned
    match packet with
    | none => s
    | some packet =>
      { s with
        sendQueue := (s.sendQueue.trySend ⟨packet, s.tagOf pn⟩).getD s.sendQueue
        expired := s.expired ++ [s.tagOf pn] }

def sendToAddress (env : SendEnv) (s : Endpoint) (block : SSU2Block) : Endpoint :=
  let (r, spawned, h) := s.conn.sendToAddress env block
  let emission := match r, s.conn.addressDatagram block with
    | .ok (), some data =>
      [⟨data, s.conn.sendSequence, (serializeBlocks [block]).toOption.getD [], [], none⟩]
    | _, _ => []
  { s with conn := h, emissions := s.emissions ++ emission }.spawn spawned

/-- `initiateRekey` up to the end of `sendNextNonceInline`. -/
def rekeySend (aead : Aead) (ctx : HeaderContext) (env : SendEnv) (s : Endpoint) : Endpoint :=
  match s.rekey, s.conn.sendCipher with
  | .started, some cipher =>
    match aead.hkdf cipher.key with
    | .error _ => { s with rekey := .idle }
    | .ok newKey =>
      match s.conn.sendNextNonceInline aead.toCrypto (ctx.dataEnv env) cipher,
          s.conn.nextNonceDatagram aead.toCrypto (ctx.dataEnv env) cipher with
      | (.ok (), encryptions, h), some data =>
        { s with
          conn := h
          rekey := .switching newKey
          emissions := s.emissions ++
            [⟨data, s.conn.sendSequence, SSU2Conn.nextNoncePayload, encryptions, none⟩] }
      | (_, _, h), _ => { s with conn := h, rekey := .idle }
  | .started, none => { s with rekey := .idle }
  | _, _ => s

/-- The rest of `initiateRekey`. -/
def rekeySwitch (s : Endpoint) : Endpoint :=
  match s.rekey with
  | .switching newKey => { s with conn := s.conn.switchKey newKey, rekey := .idle }
  | _ => s

/-- The receive loop reads a datagram, up to the call of `processDataPacket`. The ACK that the
packet may ask for is sent by a step of its own. -/
def receive (aead : Aead) (ctx : HeaderContext) (env : RecvEnv) (s : Endpoint) (data : Bytes)
    (addr : Option UDPAddr) (source : Option ℕ) : Endpoint :=
  match s.receiving with
  | some _ => s
  | none =>
    match s.conn.parseInboundPacket aead ctx env data addr with
    | (none, _, h) => { s with conn := h }
    | (some packet, _, h) =>
      if packet.messageType = messageTypeData then
        match h.insertWindow packet with
        | (.error _, h) => { s with conn := h }
        | (.ok (), h) =>
          let h := h.recordReceived packet
          { s with
            conn := { h with validDataPacketsReceived := h.validDataPacketsReceived + 1 }
            receiving := some ⟨packet, source⟩ }
      else
        let r := h.processInboundPacket aead.toCrypto SendEnv.openSocket packet
        { s with conn := r.2.2.2 }

/-- The callbacks that act on the connection, but for the ACK that a Congestion block may ask for,
which is sent by a step of its own. -/
def callback (aead : Aead) (h : SSU2Conn) : Callback → SSU2Conn
  | .onNextNonce newNonce =>
    if h.config.enableNextNonce then (h.handlePeerNextNonce aead.toCrypto newNonce).2 else h
  | _ => h

/-- The connection after the data handler and the callbacks. -/
def handled (aead : Aead) (now : Time) (h : SSU2Conn) (packet : SSU2Packet) : SSU2Conn :=
  let r := h.dataHandler.processDataPacket now packet
  r.2.1.foldl (callback aead) { h with dataHandler := r.2.2 }

/-- `processDataPacket` -/
def process (aead : Aead) (now : Time) (s : Endpoint) : Endpoint :=
  match s.receiving with
  | none => s
  | some inbound =>
    let r := s.conn.dataHandler.processDataPacket now inbound.packet
    let h := handled aead now s.conn inbound.packet
    let queued := r.2.2.messageQueue.items.length - s.conn.dataHandler.messageQueue.items.length
    let s := { s with
      receiving := none, delivered := s.delivered ++ List.replicate queued inbound.source }
    match r.1 with
    | .error _ => { s with conn := h }
    | .ok blocks =>
      let h' := blocks.foldl SSU2Conn.retireACK h
      { s with
        conn := h'
        acked := s.acked ++
          (h.pendingPackets.keys.filter fun pn => pn ∉ h'.pendingPackets).map s.tagOf }

/-- `Read` takes a message out of the queue. -/
def read (s : Endpoint) : Endpoint :=
  match s.conn.dataHandler.messageQueue.tryRecv with
  | none => s
  | some (_, queue) =>
    { s with
      conn := { s.conn with dataHandler := { s.conn.dataHandler with messageQueue := queue } } }

/-- What can happen on one end. -/
inductive Event
  | writeBlock (block : SSU2Block)
  | enqueue (i : ℕ)
  /-- `writeBlock` gives up: the deadline, or the connection closes -/
  | abandon (i : ℕ)
  | take
  | immediateACK (now : Time)
  | terminate (reason : UInt8) (additionalData : Bytes)
  | encrypt (i : ℕ)
  | emit (env : SendEnv) (i : ℕ)
  | track (env : SendEnv) (i : ℕ)
  | retransmit (now : Time) (pn : UInt32)
  | sendToAddress (env : SendEnv) (block : SSU2Block)
  | rekeySend (env : SendEnv)
  | rekeySwitch
  | receive (env : RecvEnv) (data : Bytes) (addr : Option UDPAddr) (source : Option ℕ)
  | process (now : Time)
  | read
  | cleanup (now : Time)

def step (aead : Aead) (ctx : HeaderContext) (s : Endpoint) : Event → Endpoint
  | .writeBlock block => s.writeBlock block
  | .enqueue i => s.enqueue i
  | .abandon i => { s with writing := s.writing.eraseIdx i }
  | .take => s.take
  | .immediateACK now => s.direct (s.conn.immediateACKPacket now)
  | .terminate reason additionalData => s.direct (s.conn.terminationPacket reason additionalData)
  | .encrypt i => s.encrypt aead i
  | .emit env i => s.emit ctx env i
  | .track env i => s.track env i
  | .retransmit now pn => s.retransmit now pn
  | .sendToAddress env block => s.sendToAddress env block
  | .rekeySend env => s.rekeySend aead ctx env
  | .rekeySwitch => s.rekeySwitch
  | .receive env data addr source => s.receive aead ctx env data addr source
  | .process now => s.process aead now
  | .read => s.read
  | .cleanup now =>
    { s with conn := { s.conn with
        dataHandler := s.conn.dataHandler.cleanupStaleFragments now } }

/-! ## The parts and the whole -/

/-- `putOnWire` succeeds exactly if there is a datagram and the socket takes it. -/
theorem putOnWire_eq_ok_iff (env : SendEnv) (packet : SSU2Packet) :
    (∃ packet', SSU2Conn.putOnWire env packet = .ok packet') ↔
      ∃ data, SSU2Conn.wireData env packet = some data ∧ env.writeTo data = .ok () := by
  rw [SSU2Conn.putOnWire, SSU2Conn.wireData]
  cases (SSU2Conn.applySipHashObfuscation env.mask packet).serialize with
  | error e => simp
  | ok result =>
    dsimp only
    cases env.protectHeader result.1 with
    | error e => simp [Except.toOption]
    | ok data => cases hw : env.writeTo data <;> simp [Except.toOption, hw]

end Endpoint
end GoNoise.SSU2
