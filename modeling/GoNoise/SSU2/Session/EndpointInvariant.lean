import GoNoise.SSU2.Session.Endpoint

/-!
# What the places of an endpoint hold

Every packet between `writeBlock` and the socket is a Data packet that carries the payload of its
tag, in the clear until it is encrypted and sealed from then on; every pending packet remembers the
payload of its tag and has no retries; and what was written to the socket is a sealed packet, or
comes from `SendToAddress`.
-/

namespace GoNoise.SSU2

open Trace SSU2Conn Endpoint

/-! ## What the code leaves alone -/

namespace SSU2Conn

/-- The peer's connection ID, the size limit of ACK blocks, whether there is a send cipher, and the
pending packets are those of `h`. -/
structure Steady (h h' : SSU2Conn) : Prop where
  remoteConnectionID : h'.remoteConnectionID = h.remoteConnectionID
  maxACKDataSize : h'.ackHandler.maxACKDataSize = h.ackHandler.maxACKDataSize
  sendCipher : h'.sendCipher.isSome = h.sendCipher.isSome
  pendingPackets : h'.pendingPackets = h.pendingPackets

namespace Steady

variable (h : SSU2Conn)

theorem refl : Steady h h := ⟨rfl, rfl, rfl, rfl⟩

theorem trans {h₁ h₂ h₃ : SSU2Conn} (h : Steady h₁ h₂) (h' : Steady h₂ h₃) : Steady h₁ h₃ :=
  ⟨h'.remoteConnectionID.trans h.remoteConnectionID, h'.maxACKDataSize.trans h.maxACKDataSize,
    h'.sendCipher.trans h.sendCipher, h'.pendingPackets.trans h.pendingPackets⟩

theorem nextSendSequence : Steady h h.nextSendSequence.2.2 := by
  rcases h.nextSendSequence_cases with ⟨-, he⟩ | ⟨-, he | ⟨-, -, he⟩⟩ <;>
    (rw [he]; exact ⟨rfl, rfl, rfl, rfl⟩)

theorem sendToAddress (env : SendEnv) (h : SSU2Conn) (block : SSU2Block) :
    Steady h (h.sendToAddress env block).2.2 := by
  rw [sendToAddress_conn]
  exact nextSendSequence h

theorem sendNextNonceInline (crypto : Crypto) (env : SendEnv) {h : SSU2Conn} {cipher : CipherState}
    (hcipher : h.sendCipher = some cipher) :
    Steady h (h.sendNextNonceInline crypto env cipher).2.2 := by
  have hsome : h.sendCipher.isSome = true := by rw [hcipher]; rfl
  rw [SSU2Conn.sendNextNonceInline, serializeBlocks_nextNonce]
  dsimp only
  split
  · exact ⟨rfl, rfl, hsome.symm, rfl⟩
  · split
    · exact ⟨rfl, rfl, hsome.symm, rfl⟩
    · split <;> exact ⟨rfl, rfl, hsome.symm, rfl⟩

end Steady

/-- The send side and the state are those of `h`. -/
structure KeepsSend (h h' : SSU2Conn) : Prop where
  config : h'.config = h.config
  state : h'.state = h.state
  sendCipher : h'.sendCipher = h.sendCipher
  sendSequence : h'.sendSequence = h.sendSequence
  rekeyInFlight : h'.rekeyInFlight = h.rekeyInFlight
  remoteConnectionID : h'.remoteConnectionID = h.remoteConnectionID
  maxACKDataSize : h'.ackHandler.maxACKDataSize = h.ackHandler.maxACKDataSize
  pendingPackets : h'.pendingPackets = h.pendingPackets

namespace KeepsSend

variable (aead : Aead) (h : SSU2Conn) (packet : SSU2Packet)

theorem refl : KeepsSend h h := ⟨rfl, rfl, rfl, rfl, rfl, rfl, rfl, rfl⟩

theorem trans {h₁ h₂ h₃ : SSU2Conn} (h : KeepsSend h₁ h₂) (h' : KeepsSend h₂ h₃) :
    KeepsSend h₁ h₃ :=
  ⟨h'.config.trans h.config, h'.state.trans h.state, h'.sendCipher.trans h.sendCipher,
    h'.sendSequence.trans h.sendSequence, h'.rekeyInFlight.trans h.rekeyInFlight,
    h'.remoteConnectionID.trans h.remoteConnectionID, h'.maxACKDataSize.trans h.maxACKDataSize,
    h'.pendingPackets.trans h.pendingPackets⟩

theorem steady {h h' : SSU2Conn} (hk : KeepsSend h h') : Steady h h' :=
  ⟨hk.remoteConnectionID, hk.maxACKDataSize, by rw [hk.sendCipher], hk.pendingPackets⟩

theorem sameSend {h h' : SSU2Conn} (hk : KeepsSend h h') : SameSend h h' :=
  ⟨hk.sendSequence, by rw [sendKey, sendKey, hk.sendCipher], hk.config, hk.rekeyInFlight⟩

theorem parseInboundPacket (ctx : HeaderContext) (env : RecvEnv) (h : SSU2Conn) (data : Bytes)
    (addr : Option UDPAddr) : KeepsSend h (h.parseInboundPacket aead ctx env data addr).2.2 := by
  have hdecrypt : ∀ packet, KeepsSend h (h.decryptDataPayload aead packet).2 := by
    intro packet
    rw [decryptDataPayload]
    split
    · exact refl h
    · split_ifs
      · dsimp only
        split <;> exact ⟨rfl, rfl, rfl, rfl, rfl, rfl, rfl, rfl⟩
      · exact refl h
  cases addr with
  | none => exact refl h
  | some addr =>
    rw [SSU2Conn.parseInboundPacket]
    split
    · exact refl h
    · split
      · exact refl h
      · rename_i packet _
        have hpacket := hdecrypt packet
        generalize h.decryptDataPayload aead packet = result at hpacket ⊢
        obtain ⟨_ | _, h'⟩ := result
        · exact hpacket
        · exact hpacket.trans ⟨rfl, rfl, rfl, rfl, rfl, rfl, rfl, rfl⟩

theorem insertWindow : KeepsSend h (h.insertWindow packet).2 := by
  rw [SSU2Conn.insertWindow]
  split <;> exact ⟨rfl, rfl, rfl, rfl, rfl, rfl, rfl, rfl⟩

theorem recordReceived : KeepsSend h (h.recordReceived packet) := by
  rw [SSU2Conn.recordReceived]
  split_ifs <;> exact ⟨rfl, rfl, rfl, rfl, rfl, rfl, rfl, rfl⟩

theorem handshakePacket (crypto : Crypto) (env : SendEnv) (h : SSU2Conn) {packet : SSU2Packet}
    (htype : packet.messageType ≠ messageTypeData) :
    KeepsSend h (h.processInboundPacket crypto env packet).2.2.2 := by
  rw [processInboundPacket, if_neg htype]
  split_ifs
  · exact (recordReceived h packet).trans ⟨rfl, rfl, rfl, rfl, rfl, rfl, rfl, rfl⟩
  · exact refl h

theorem callback (c : Callback) : KeepsSend h (Endpoint.callback aead h c) := by
  cases c with
  | onNextNonce newNonce =>
    rw [Endpoint.callback, handlePeerNextNonce]
    split_ifs
    · split
      · exact refl h
      · split <;> exact ⟨rfl, rfl, rfl, rfl, rfl, rfl, rfl, rfl⟩
    · exact refl h
  | onTermination | onNewToken | onFirstPacketNumber | onCongestion | onDateTime | onBlock
  | onSigned => exact refl h

theorem callbacks (callbacks : List Callback) :
    KeepsSend h (callbacks.foldl (Endpoint.callback aead) h) := by
  induction callbacks generalizing h with
  | nil => exact refl h
  | cons c rest ih => exact (callback aead h c).trans (ih _)

theorem handled (now : Time) (h : SSU2Conn) (packet : SSU2Packet) :
    KeepsSend h (Endpoint.handled aead now h packet) := by
  have hhandler : KeepsSend h { h with
      dataHandler := (h.dataHandler.processDataPacket now packet).2.2 } :=
        ⟨rfl, rfl, rfl, rfl, rfl, rfl, rfl, rfl⟩
  exact hhandler.trans (callbacks aead _ _)

end KeepsSend

/-- The loop over the ACK blocks takes pending packets out and changes nothing else that matters
here. -/
theorem foldl_retireACK_spec (blocks : List SSU2Block) (h : SSU2Conn) :
    KeepsSend { h with pendingPackets := (blocks.foldl retireACK h).pendingPackets }
        (blocks.foldl retireACK h) ∧
      ∀ pn pp, (blocks.foldl retireACK h).pendingPackets.lookup pn = some pp →
        h.pendingPackets.lookup pn = some pp := by
  induction blocks generalizing h with
  | nil => exact ⟨.refl h, fun pn pp hlook => hlook⟩
  | cons block rest ih =>
    have hone : KeepsSend { h with pendingPackets := (h.retireACK block).pendingPackets }
          (h.retireACK block) ∧
        ∀ pn pp, (h.retireACK block).pendingPackets.lookup pn = some pp →
          h.pendingPackets.lookup pn = some pp := by
      rw [retireACK]
      split_ifs
      · exact ⟨⟨rfl, rfl, rfl, rfl, rfl, rfl, h.ackHandler.maxACKDataSize_processACK block, rfl⟩,
          fun pn pp hlook => GoMap.lookup_of_lookup_foldl_erase hlook⟩
      · exact ⟨.refl h, fun pn pp hlook => hlook⟩
    obtain ⟨hkeeps, hpending⟩ := ih (h.retireACK block)
    obtain ⟨hk, hlook⟩ := hone
    refine ⟨⟨hkeeps.config.trans hk.config, hkeeps.state.trans hk.state,
      hkeeps.sendCipher.trans hk.sendCipher,
      hkeeps.sendSequence.trans hk.sendSequence, hkeeps.rekeyInFlight.trans hk.rekeyInFlight,
      hkeeps.remoteConnectionID.trans hk.remoteConnectionID,
      hkeeps.maxACKDataSize.trans hk.maxACKDataSize, rfl⟩, fun pn pp h' => ?_⟩
    exact hlook pn pp (hpending pn pp h')

theorem dataPacket_congr {h h' : SSU2Conn} (hid : h'.remoteConnectionID = h.remoteConnectionID)
    (pktNum : UInt32) (payload : Bytes) :
    h'.dataPacket pktNum payload = h.dataPacket pktNum payload := by
  rw [dataPacket, dataPacket, shortHeader, shortHeader, hid]

theorem sealedHeader_congr {h h' : SSU2Conn} (hid : h'.remoteConnectionID = h.remoteConnectionID)
    (pktNum : UInt32) : h'.sealedHeader pktNum = h.sealedHeader pktNum := by
  rw [sealedHeader, sealedHeader, hid]

theorem sealedPayload_congr {h h' : SSU2Conn}
    (hid : h'.remoteConnectionID = h.remoteConnectionID) (aead : Aead) (key : Bytes)
    (pktNum : UInt32) (payload : Bytes) :
    h'.sealedPayload aead key pktNum payload = h.sealedPayload aead key pktNum payload := by
  rw [sealedPayload, sealedPayload, sealedHeader_congr hid]

/-! ## Packets when they are made -/

/-- A Data packet with a payload that is not empty. -/
structure Made (h : SSU2Conn) (packet : SSU2Packet) : Prop where
  eq : packet = h.dataPacket packet.packetNumber packet.payload
  payload : packet.payload ≠ []

variable {payload : Bytes} (h : SSU2Conn) (block : SSU2Block)

theorem made_dataPacket {h h' : SSU2Conn} (hid : h'.remoteConnectionID = h.remoteConnectionID)
    (pktNum : UInt32) (hpayload : payload ≠ []) : Made h (h'.dataPacket pktNum payload) := by
  rw [dataPacket_congr hid]
  exact ⟨rfl, hpayload⟩

theorem serializeBlocks_ne_nil {block : SSU2Block}
    (h : serializeBlocks [block] = .ok payload) : payload ≠ [] := by
  obtain ⟨-, rfl⟩ := serializeBlocks_singleton_iff.mp h
  exact List.cons_ne_nil _ _

/-- `writeBlock` up to its `select`: the counter moves on, and the packet carries the block. -/
theorem writeBlock_spec :
    (h.writeBlock .enqueued block).2 = h.nextSendSequence.2 ∧
      ∀ packet, (h.writeBlock .enqueued block).1 = .ok packet →
        block.Valid ∧ packet = h.dataPacket h.sendSequence block.wire := by
  have hnum := h.nextSendSequence_fst
  have hid := (Steady.nextSendSequence h).remoteConnectionID
  rw [writeBlock, newDataPacket]
  generalize h.nextSendSequence = result at hnum hid ⊢
  obtain ⟨pktNum, spawned, h'⟩ := result
  subst hnum
  cases hser : serializeBlocks [block] with
  | error e => exact ⟨rfl, fun packet hpacket => by cases hpacket⟩
  | ok payload =>
    obtain ⟨hvalid, rfl⟩ := serializeBlocks_singleton_iff.mp hser
    refine ⟨rfl, fun packet hpacket => ⟨hvalid, ?_⟩⟩
    obtain rfl := Except.ok.inj hpacket
    exact dataPacket_congr hid _ _

theorem Steady.writeBlock : Steady h (h.writeBlock .enqueued block).2.2 := by
  rw [(writeBlock_spec h block).1]
  exact nextSendSequence h

theorem immediateACKPacket_spec (hlimit : h.ackHandler.maxACKDataSize ≤ maxBlockLength)
    (now : Time) :
    Steady h (h.immediateACKPacket now).2.2 ∧
      ∀ packet ∈ (h.immediateACKPacket now).1, Made h packet := by
  obtain ⟨hmax, hblock⟩ := h.ackHandler.generateACK_spec now
  rw [immediateACKPacket]
  generalize h.ackHandler.generateACK now = result at hmax hblock ⊢
  obtain ⟨_ | ack, ackHandler⟩ := result
  · exact ⟨⟨rfl, hmax, rfl, rfl⟩, fun packet hpacket => by cases hpacket⟩
  · obtain ⟨htype, hge, hle⟩ := hblock ack rfl
    have hvalid : ack.Valid := by
      refine ⟨hle.trans hlimit, fun minSize hmin => ?_⟩
      rw [htype] at hmin
      obtain rfl : (5 : ℕ) = minSize := Option.some.inj hmin
      exact hge
    have hsteady : Steady h { h with ackHandler := ackHandler } := ⟨rfl, hmax, rfl, rfl⟩
    have hnext := hsteady.trans (Steady.nextSendSequence { h with ackHandler := ackHandler })
    refine ⟨hnext, fun packet hpacket => ?_⟩
    cases hpacket
    rw [serializeBlocks_singleton hvalid]
    exact made_dataPacket hnext.remoteConnectionID _ (List.cons_ne_nil _ _)

theorem terminationPacket_spec (reason : UInt8) (additionalData : Bytes) :
    Steady h (h.terminationPacket reason additionalData).2.2 ∧
      ∀ packet ∈ (h.terminationPacket reason additionalData).1, Made h packet := by
  have hsteady : Steady h { h with state := .closing } := ⟨rfl, rfl, rfl, rfl⟩
  have hnext := hsteady.trans (Steady.nextSendSequence { h with state := .closing })
  rw [terminationPacket]
  generalize nextSendSequence { h with state := .closing } = result at hnext ⊢
  dsimp only
  split
  · exact ⟨hnext, fun packet hpacket => by cases hpacket⟩
  · rename_i payload hpayload
    refine ⟨hnext, fun packet hpacket => ?_⟩
    cases hpacket
    exact made_dataPacket hnext.remoteConnectionID _ (serializeBlocks_ne_nil hpayload)

/-- A pending packet without retries stays if it is not due; otherwise its entry goes and its
payload gets a new packet. -/
theorem retransmitPending_cases (now : Time) (pn : UInt32) {pp : PendingPacket}
    (hretries : pp.retries = 0) :
    (now < pp.nextRetry ∧ h.retransmitPending now pn pp = (none, [], h)) ∨
      ¬ now < pp.nextRetry ∧ h.retransmitPending now pn pp =
        (some (h.dataPacket h.sendSequence pp.plaintextPayload), h.nextSendSequence.2.1,
          { h.nextSendSequence.2.2 with pendingPackets := h.pendingPackets.erase pn }) := by
  have hnum := h.nextSendSequence_fst
  have hnext := Steady.nextSendSequence h
  rw [retransmitPending]
  by_cases hearly : now < pp.nextRetry
  · exact Or.inl ⟨hearly, if_pos hearly⟩
  · refine Or.inr ⟨hearly, ?_⟩
    rw [if_neg hearly, if_neg (by rw [hretries]; decide), newDataPacket]
    generalize h.nextSendSequence = result at hnum hnext ⊢
    obtain ⟨pktNum, spawned, h'⟩ := result
    dsimp only at hnum hnext ⊢
    subst hnum
    rw [hnext.pendingPackets, dataPacket_congr hnext.remoteConnectionID]
    rfl

theorem putOnWire_keeps {env : SendEnv} {packet packet' : SSU2Packet}
    (h : putOnWire env packet = .ok packet') :
    packet'.messageType = packet.messageType ∧ packet'.packetNumber = packet.packetNumber := by
  obtain ⟨header, hmask, -⟩ := applySipHashObfuscation_eq env.mask packet
  rw [putOnWire, hmask] at h
  cases hser : SSU2Packet.serialize { packet with header := header } with
  | error e => grind
  | ok result =>
    obtain ⟨-, hq, -⟩ := (SSU2Packet.serialize_eq_ok_iff _ result.2 result.1).mp hser
    rw [hser] at h
    split at h
    · cases h
    · grind

end SSU2Conn

/-! ## The invariant -/

/-- A waiting packet carries the payload of its tag. -/
structure Job.Carries (h₀ : SSU2Conn) (payloads : List Bytes) (job : Job) : Prop where
  made : SSU2Conn.Made h₀ job.packet
  payload : payloads[job.tag]? = some job.packet.payload

/-- The payload of the tag is sealed in the packet. -/
structure EncryptedJob.Sealed (aead : Aead) (h₀ : SSU2Conn) (payloads : List Bytes)
    (job : EncryptedJob) : Prop where
  plaintext : job.plaintext ≠ []
  payload : payloads[job.tag]? = some job.plaintext
  packet : ∃ key number, job.encryptions = [⟨key, packetNonce number⟩] ∧
    job.packet = SSU2Conn.wirePacket (h₀.sealedHeader number)
      (h₀.sealedPayload aead key number job.plaintext) number 0

def Job.sealWith (aead : Aead) (h₀ : SSU2Conn) (key : Bytes) (job : Job) : EncryptedJob :=
  ⟨⟨wirePacket (h₀.sealedHeader job.packet.packetNumber)
      (h₀.sealedPayload aead key job.packet.packetNumber job.packet.payload)
      job.packet.packetNumber 0, job.tag⟩,
    job.packet.payload, [⟨key, packetNonce job.packet.packetNumber⟩]⟩

/-- The plaintext kept for retransmission is the payload of the tag. -/
structure EncryptedJob.Written (payloads : List Bytes) (job : EncryptedJob) : Prop where
  plaintext : job.plaintext ≠ []
  payload : payloads[job.tag]? = some job.plaintext
  messageType : job.packet.messageType = messageTypeData

/-- A pending packet remembers the payload of its tag; its retries are never counted. -/
structure PendingPacket.Keeps (payloads : List Bytes) (tag : ℕ) (pp : PendingPacket) : Prop where
  plaintext : pp.plaintextPayload ≠ []
  payload : payloads[tag]? = some pp.plaintextPayload
  retries : pp.retries = 0

/-- The datagram with its header protected; an error of the protector leaves it as it is. -/
def HeaderContext.protectOr (ctx : HeaderContext) (data : Bytes) : Bytes :=
  (ctx.applyOutboundHeaderProtection messageTypeData data).toOption.getD data

/-- The datagram has the payload sealed in it. -/
structure Emission.Sealed (aead : Aead) (ctx : HeaderContext) (h₀ : SSU2Conn) (e : Emission) :
    Prop where
  payload : e.payload ≠ []
  size : e.payload.length + 48 ≤ maxPacketSizeIPv6
  data : ∃ key x, e.encryptions = [⟨key, packetNonce e.packetNumber⟩] ∧
    e.data = ctx.protectOr (h₀.plainDatagram e.packetNumber x
      (h₀.sealedPayload aead key e.packetNumber e.payload))

/-- The datagram has the payload of its tag sealed in it, or it comes from `SendToAddress`. -/
def Emission.Accounted (aead : Aead) (ctx : HeaderContext) (h₀ : SSU2Conn) (payloads : List Bytes)
    (e : Emission) : Prop :=
  (e.Sealed aead ctx h₀ ∧ ∀ t ∈ e.tag, payloads[t]? = some e.payload) ∨
    e.encryptions = [] ∧ e.tag = none

section mono
variable {h₀ : SSU2Conn} {payloads payloads' : List Bytes} (hle : payloads <+: payloads')
  {aead : Aead} {job : EncryptedJob}
include hle

theorem getElem?_of_prefix {t : ℕ} {p : Bytes} (h : payloads[t]? = some p) :
    payloads'[t]? = some p := by
  obtain ⟨rest, rfl⟩ := hle
  rw [List.getElem?_append_left (List.getElem?_eq_some_iff.mp h).1, h]

theorem Job.Carries.mono {job : Job} (h : job.Carries h₀ payloads) : job.Carries h₀ payloads' :=
  ⟨h.made, getElem?_of_prefix hle h.payload⟩

theorem EncryptedJob.Sealed.mono (h : job.Sealed aead h₀ payloads) : job.Sealed aead h₀ payloads' :=
  ⟨h.plaintext, getElem?_of_prefix hle h.payload, h.packet⟩

theorem EncryptedJob.Written.mono (h : job.Written payloads) : job.Written payloads' :=
  ⟨h.plaintext, getElem?_of_prefix hle h.payload, h.messageType⟩

theorem PendingPacket.Keeps.mono {tag : ℕ} {pp : PendingPacket} (h : pp.Keeps payloads tag) :
    pp.Keeps payloads' tag :=
  ⟨h.plaintext, getElem?_of_prefix hle h.payload, h.retries⟩

theorem Emission.Accounted.mono {ctx : HeaderContext} {e : Emission}
    (h : e.Accounted aead ctx h₀ payloads) : e.Accounted aead ctx h₀ payloads' :=
  h.imp_left fun ⟨hsealed, htag⟩ => ⟨hsealed, fun t ht => getElem?_of_prefix hle (htag t ht)⟩

end mono

namespace Endpoint

/-- Every place holds packets that carry the payload of their tag. -/
structure WellFormed (aead : Aead) (ctx : HeaderContext) (h₀ : SSU2Conn) (s : Endpoint) : Prop where
  remoteConnectionID : s.conn.remoteConnectionID = h₀.remoteConnectionID
  maxACKDataSize : s.conn.ackHandler.maxACKDataSize ≤ maxBlockLength
  sendCipher : s.conn.sendCipher.isSome = true
  writing : ∀ job ∈ s.writing, job.Carries h₀ s.payloads
  queued : ∀ job ∈ s.sendQueue.items, job.Carries h₀ s.payloads
  sending : ∀ job ∈ s.sending, job.Carries h₀ s.payloads
  encrypted : ∀ job ∈ s.encrypted, job.Sealed aead h₀ s.payloads
  sent : ∀ job ∈ s.sent, job.Written s.payloads
  pending : ∀ pn pp, s.conn.pendingPackets.lookup pn = some pp → pp.Keeps s.payloads (s.tagOf pn)
  emissions : ∀ e ∈ s.emissions, e.Accounted aead ctx h₀ s.payloads

/-- A connection at the end of the handshake: there is a send cipher, nothing is pending, and an ACK
block fits its length field. -/
structure Ready (h : SSU2Conn) : Prop where
  sendCipher : h.sendCipher.isSome = true
  pendingPackets : h.pendingPackets = ∅
  maxACKDataSize : h.ackHandler.maxACKDataSize ≤ maxBlockLength

theorem ready_establish (config : SSU2Config) (now : Time) (sendKey recvKey : Bytes)
    (remoteConnectionID : UInt64) :
    Ready ((assembleSSU2Conn config now).establish sendKey recvKey remoteConnectionID) :=
  ⟨rfl, rfl, by show 504 ≤ maxBlockLength; decide⟩

namespace WellFormed

variable {aead : Aead} {ctx : HeaderContext} {h₀ : SSU2Conn} {s : Endpoint} {h : SSU2Conn}

theorem start (hready : Ready h₀) : WellFormed aead ctx h₀ (.start h₀) := by
  refine ⟨rfl, hready.maxACKDataSize, hready.sendCipher, ?_, ?_, ?_, ?_, ?_, fun pn pp hlook => ?_,
    ?_⟩
  case refine_6 =>
    have hempty : (Endpoint.start h₀).conn.pendingPackets = ∅ := hready.pendingPackets
    rw [hempty] at hlook
    cases hlook
  all_goals
    intro x hx
    cases hx

section
variable (hw : WellFormed aead ctx h₀ s)
include hw

/-- The connection changes, and its pending packets do not. -/
theorem conn (hsteady : SSU2Conn.Steady s.conn h) : WellFormed aead ctx h₀ { s with conn := h } :=
  { hw with
    remoteConnectionID := hsteady.remoteConnectionID.trans hw.remoteConnectionID
    maxACKDataSize := hsteady.maxACKDataSize.trans_le hw.maxACKDataSize
    sendCipher := hsteady.sendCipher.trans hw.sendCipher
    pending := fun pn pp hlook => hw.pending pn pp (by rwa [← hsteady.pendingPackets]) }

theorem conn_erase (hid : h.remoteConnectionID = s.conn.remoteConnectionID)
    (hmax : h.ackHandler.maxACKDataSize = s.conn.ackHandler.maxACKDataSize)
    (hcipher : h.sendCipher.isSome = s.conn.sendCipher.isSome)
    (hpending : ∀ pn pp, h.pendingPackets.lookup pn = some pp →
      s.conn.pendingPackets.lookup pn = some pp) : WellFormed aead ctx h₀ { s with conn := h } :=
  { hw with
    remoteConnectionID := hid.trans hw.remoteConnectionID
    maxACKDataSize := hmax.trans_le hw.maxACKDataSize
    sendCipher := hcipher.trans hw.sendCipher
    pending := fun pn pp hlook => hw.pending pn pp (hpending pn pp hlook) }

theorem spawn (spawned : List Spawn) :
    WellFormed aead ctx h₀ (s.spawn spawned) := { hw with }

theorem addEmissions {es : List Emission} (hes : ∀ e ∈ es, e.Accounted aead ctx h₀ s.payloads) :
    WellFormed aead ctx h₀ { s with emissions := s.emissions ++ es } :=
  { hw with emissions := fun e he => (List.mem_append.mp he).elim (hw.emissions e) (hes e) }

theorem addPayload (payload : Bytes) :
    WellFormed aead ctx h₀ { s with payloads := s.payloads ++ [payload] } := by
  have hle : s.payloads <+: s.payloads ++ [payload] := List.prefix_append _ _
  exact
    { hw with
      writing := fun job hjob => (hw.writing job hjob).mono hle
      queued := fun job hjob => (hw.queued job hjob).mono hle
      sending := fun job hjob => (hw.sending job hjob).mono hle
      encrypted := fun job hjob => (hw.encrypted job hjob).mono hle
      sent := fun job hjob => (hw.sent job hjob).mono hle
      pending := fun pn pp hlook => (hw.pending pn pp hlook).mono hle
      emissions := fun e he => (hw.emissions e he).mono hle }

end

theorem carries_last {packet : SSU2Packet} (hmade : SSU2Conn.Made h₀ packet)
    (payloads : List Bytes) :
    Job.Carries h₀ (payloads ++ [packet.payload]) ⟨packet, payloads.length⟩ :=
  ⟨hmade, List.getElem?_concat_length⟩

section
variable (hw : WellFormed aead ctx h₀ s) (i : ℕ)
include hw

theorem writeBlock (block : SSU2Block) : WellFormed aead ctx h₀ (s.writeBlock block) := by
  have hsteady := SSU2Conn.Steady.writeBlock s.conn block
  have hmade := (SSU2Conn.writeBlock_spec s.conn block).2
  rw [Endpoint.writeBlock]
  generalize s.conn.writeBlock .enqueued block = result at hsteady hmade ⊢
  obtain ⟨e | packet, spawned, h⟩ := result
  · exact (hw.conn hsteady).spawn spawned
  · obtain ⟨-, heq⟩ := hmade packet rfl
    have hpacket : SSU2Conn.Made h₀ packet := by
      rw [heq]
      exact SSU2Conn.made_dataPacket hw.remoteConnectionID _ (List.cons_ne_nil _ _)
    have hadd := ((hw.conn hsteady).spawn spawned).addPayload packet.payload
    exact { hadd with writing := forall_mem_concat hadd.writing (carries_last hpacket _) }

theorem direct {r : Option SSU2Packet × List Spawn × SSU2Conn}
    (hsteady : SSU2Conn.Steady s.conn r.2.2) (hmade : ∀ packet ∈ r.1, SSU2Conn.Made s.conn packet) :
    WellFormed aead ctx h₀ (s.direct r) := by
  obtain ⟨_ | packet, spawned, h⟩ := r
  · exact (hw.conn hsteady).spawn spawned
  · have hpacket : SSU2Conn.Made h₀ packet := by
      have hp := hmade packet rfl
      rw [hp.eq]
      exact made_dataPacket hw.remoteConnectionID _ hp.payload
    have hadd := ((hw.conn hsteady).spawn spawned).addPayload packet.payload
    exact { hadd with sending := forall_mem_concat hadd.sending (carries_last hpacket _) }

theorem enqueue : WellFormed aead ctx h₀ (s.enqueue i) := by
  rw [Endpoint.enqueue]
  cases hjob : s.writing[i]? with
  | none => exact hw
  | some job =>
    dsimp only
    cases hqueue : s.sendQueue.trySend job with
    | none => exact hw
    | some queue =>
      refine { hw with
        writing := fun j hj => hw.writing j (List.mem_of_mem_eraseIdx hj)
        queued := ?_ }
      rw [Chan.items_of_trySend hqueue]
      exact forall_mem_concat hw.queued (hw.writing job (List.mem_of_getElem? hjob))

theorem take : WellFormed aead ctx h₀ s.take := by
  unfold Endpoint.take
  cases hrecv : s.sendQueue.tryRecv with
  | none => exact hw
  | some received =>
    have hitems := Chan.items_of_tryRecv hrecv
    have hqueued := hw.queued
    rw [hitems] at hqueued
    exact { hw with
      queued := fun job hjob => hqueued job (List.mem_cons_of_mem _ hjob)
      sending := forall_mem_concat hw.sending (hqueued _ List.mem_cons_self) }

theorem encrypt_eq {i : ℕ} {job : Job} {cipher : CipherState} (hjob : s.sending[i]? = some job)
    (hcipher : s.conn.sendCipher = some cipher) (hfree : ∀ newKey, s.rekey ≠ .switching newKey) :
    s.encrypt aead i = { s with
      conn := { s.conn with
        sendCipher := some ⟨cipher.key, packetNonce job.packet.packetNumber⟩ }
      sending := s.sending.eraseIdx i
      encrypted := s.encrypted ++ [job.sealWith aead h₀ cipher.key] } := by
  have hmade := (hw.sending job (List.mem_of_getElem? hjob)).made
  have hpacket : job.packet = s.conn.dataPacket job.packet.packetNumber job.packet.payload :=
    hmade.eq.trans (dataPacket_congr hw.remoteConnectionID _ _).symm
  have henc := encryptDataPayload_dataPacket aead job.packet.packetNumber hcipher
    hmade.payload
  rw [← hpacket, sealedHeader_congr hw.remoteConnectionID,
    sealedPayload_congr hw.remoteConnectionID] at henc
  unfold encrypt
  rw [hjob]
  cases hrekey : s.rekey with
  | switching newKey => exact absurd hrekey (hfree newKey)
  | idle | started =>
    dsimp only
    rw [henc]
    rfl

/-- `encryptDataPayload` does nothing, because there is no such packet or the lock is held, or it
seals the packet with the key of the moment. -/
theorem encrypt_cases :
    s.encrypt aead i = s ∨ ∃ job cipher, s.sending[i]? = some job ∧
      s.conn.sendCipher = some cipher ∧ (∀ newKey, s.rekey ≠ .switching newKey) ∧
      s.encrypt aead i = { s with
        conn := { s.conn with
          sendCipher := some ⟨cipher.key, packetNonce job.packet.packetNumber⟩ }
        sending := s.sending.eraseIdx i
        encrypted := s.encrypted ++ [job.sealWith aead h₀ cipher.key] } := by
  cases hjob : s.sending[i]? with
  | none =>
    left
    unfold encrypt
    rw [hjob]
    cases s.rekey <;> rfl
  | some job =>
    by_cases hfree : ∀ newKey, s.rekey ≠ .switching newKey
    · obtain ⟨cipher, hcipher⟩ := Option.isSome_iff_exists.mp hw.sendCipher
      exact Or.inr ⟨job, cipher, rfl, hcipher, hfree, hw.encrypt_eq hjob hcipher hfree⟩
    · simp only [not_forall, not_not] at hfree
      obtain ⟨newKey, hrekey⟩ := hfree
      left
      unfold encrypt
      rw [hrekey, hjob]

theorem encrypt : WellFormed aead ctx h₀ (s.encrypt aead i) := by
  rcases hw.encrypt_cases i with heq | ⟨job, cipher, hjob, hcipher, -, heq⟩
  · rw [heq]
    exact hw
  · have hcarries := hw.sending job (List.mem_of_getElem? hjob)
    rw [heq]
    exact { hw with
      sendCipher := rfl
      sending := fun j hj => hw.sending j (List.mem_of_mem_eraseIdx hj)
      encrypted := forall_mem_concat hw.encrypted
        ⟨hcarries.made.payload, hcarries.payload, cipher.key, job.packet.packetNumber, rfl, rfl⟩ }

end

end WellFormed

theorem emit_eq {ctx : HeaderContext} {env : SendEnv} {s : Endpoint} {i : ℕ} {job : EncryptedJob}
    {packet : SSU2Packet} {data : Bytes} (hjob : s.encrypted[i]? = some job)
    (hput : putOnWire (ctx.dataEnv env) job.packet = .ok packet)
    (hdata : wireData (ctx.dataEnv env) job.packet = some data) :
    ∃ h, h = { s.conn with
        validDataPacketsSent := h.validDataPacketsSent, lastActivity := env.now } ∧
      s.emit ctx env i = { s with
        conn := h
        encrypted := s.encrypted.eraseIdx i
        sent := s.sent ++ [{ job with packet := packet }]
        emissions := s.emissions ++
          [⟨data, job.packet.packetNumber, job.plaintext, job.encryptions, some job.tag⟩] } := by
  rw [emit, hjob]
  dsimp only
  rw [hput, hdata]
  exact ⟨_, rfl, rfl⟩

/-- The end of `sendPacketDirect` is not reached, because there is no such packet or something
fails, or the packet is written. -/
theorem emit_cases (ctx : HeaderContext) (env : SendEnv) (s : Endpoint) (i : ℕ) :
    s.emit ctx env i = s ∨
      (∃ job, s.encrypted[i]? = some job ∧
        (¬ ∃ packet, putOnWire (ctx.dataEnv env) job.packet = .ok packet) ∧
        s.emit ctx env i = { s with encrypted := s.encrypted.eraseIdx i }) ∨
      ∃ job packet data h, s.encrypted[i]? = some job ∧
        putOnWire (ctx.dataEnv env) job.packet = .ok packet ∧
        wireData (ctx.dataEnv env) job.packet = some data ∧
        h = { s.conn with
          validDataPacketsSent := h.validDataPacketsSent, lastActivity := env.now } ∧
        s.emit ctx env i = { s with
          conn := h
          encrypted := s.encrypted.eraseIdx i
          sent := s.sent ++ [{ job with packet := packet }]
          emissions := s.emissions ++
            [⟨data, job.packet.packetNumber, job.plaintext, job.encryptions, some job.tag⟩] } := by
  cases hjob : s.encrypted[i]? with
  | none => grind [emit]
  | some job =>
    right
    cases hput : putOnWire (ctx.dataEnv env) job.packet with
    | error e => grind [emit]
    | ok packet =>
      obtain ⟨data, hdata, -⟩ := (putOnWire_eq_ok_iff _ _).mp ⟨packet, hput⟩
      obtain ⟨h, hconn, heq⟩ := emit_eq hjob hput hdata
      exact Or.inr ⟨job, packet, data, h, rfl, hput, hdata, hconn, heq⟩

/-- The receive loop reads a datagram: the packet is refused somewhere, or it is a Data packet that
the window takes. -/
theorem receive_cases (aead : Aead) (ctx : HeaderContext) (env : RecvEnv) (s : Endpoint)
    (data : Bytes) (addr : Option UDPAddr) (source : Option ℕ) :
    (∃ h, SSU2Conn.KeepsSend s.conn h ∧
        s.receive aead ctx env data addr source = { s with conn := h }) ∨
      ∃ packet h, SSU2Conn.KeepsSend s.conn h ∧ s.receiving = none ∧
        (s.conn.parseInboundPacket aead ctx env data addr).1 = some packet ∧
        packet.messageType = messageTypeData ∧
        s.receive aead ctx env data addr source =
          { s with conn := h, receiving := some ⟨packet, source⟩ } := by
  have hparse := SSU2Conn.KeepsSend.parseInboundPacket aead ctx env s.conn data addr
  rw [receive]
  cases hreceiving : s.receiving with
  | some inbound =>
    refine Or.inl ⟨s.conn, .refl _, ?_⟩
    show s = _
    rw [← hreceiving]
  | none =>
    generalize s.conn.parseInboundPacket aead ctx env data addr = result at hparse ⊢
    obtain ⟨_ | packet, validate, h⟩ := result
    · exact Or.inl ⟨h, hparse, rfl⟩
    · dsimp only
      split_ifs with htype
      · have hinsert := hparse.trans (SSU2Conn.KeepsSend.insertWindow h packet)
        generalize h.insertWindow packet = result at hinsert ⊢
        obtain ⟨_ | _, h'⟩ := result
        · exact Or.inl ⟨h', hinsert, rfl⟩
        · have hrecord := hinsert.trans (SSU2Conn.KeepsSend.recordReceived h' packet)
          refine Or.inr ⟨packet, _, ?_, rfl, rfl, htype, rfl⟩
          exact hrecord.trans ⟨rfl, rfl, rfl, rfl, rfl, rfl, rfl, rfl⟩
      · exact Or.inl ⟨_, hparse.trans (SSU2Conn.KeepsSend.handshakePacket _ _ h htype), rfl⟩

namespace WellFormed

variable {aead : Aead} {ctx : HeaderContext} {h₀ : SSU2Conn} {s : Endpoint}

section
variable (hw : WellFormed aead ctx h₀ s) (env : SendEnv) (now : Time) (i : ℕ) (pn : UInt32)
include hw

theorem emit : WellFormed aead ctx h₀ (s.emit ctx env i) := by
  rcases emit_cases ctx env s i with heq | ⟨job, hjob, -, heq⟩ |
    ⟨job, packet, data, h, hjob, hput, hdata, hconn, heq⟩
  · rw [heq]
    exact hw
  · rw [heq]
    exact { hw with encrypted := fun j hj => hw.encrypted j (List.mem_of_mem_eraseIdx hj) }
  · have hsealed := hw.encrypted job (List.mem_of_getElem? hjob)
    obtain ⟨key, number, hencryptions, hpacket⟩ := hsealed.packet
    have hsteady : SSU2Conn.Steady s.conn h := by
      rw [hconn]
      exact ⟨rfl, rfl, rfl, rfl⟩
    have hemission : (Emission.mk data job.packet.packetNumber job.plaintext
        job.encryptions (some job.tag)).Accounted aead ctx h₀ s.payloads := by
      have hnumber : job.packet.packetNumber = number := by rw [hpacket]; rfl
      rw [hpacket] at hdata
      obtain ⟨hsize, x, hprotect⟩ := wireData_wirePacket number hdata
      rw [length_sealedPayload, macSize] at hsize
      refine Or.inl ⟨⟨hsealed.plaintext, by omega, key, x, ?_, ?_⟩, fun t ht => ?_⟩
      · rw [hnumber]
        exact hencryptions
      · change ctx.applyOutboundHeaderProtection messageTypeData _ = _ at hprotect
        rw [hnumber, HeaderContext.protectOr, hprotect]
        rfl
      · obtain rfl := Option.some.inj ht
        exact hsealed.payload
    have hbase := (hw.conn hsteady).addEmissions (List.forall_mem_singleton.mpr hemission)
    rw [heq]
    refine { hbase with
      encrypted := fun j hj => hw.encrypted j (List.mem_of_mem_eraseIdx hj)
      sent := forall_mem_concat hw.sent
        ⟨hsealed.plaintext, hsealed.payload, (putOnWire_keeps hput).1.trans ?_⟩ }
    rw [hpacket]
    rfl

theorem track : WellFormed aead ctx h₀ (s.track env i) := by
  rw [Endpoint.track]
  cases hjob : s.sent[i]? with
  | none => exact hw
  | some job =>
    have hwritten := hw.sent job (List.mem_of_getElem? hjob)
    dsimp only
    rw [SSU2Conn.trackPendingPacket]
    split_ifs with hskip
    · exact { hw with sent := fun j hj => hw.sent j (List.mem_of_mem_eraseIdx hj) }
    · refine { hw with
        sent := fun j hj => hw.sent j (List.mem_of_mem_eraseIdx hj)
        pending := fun pn pp hlook => ?_ }
      show pp.Keeps s.payloads (Function.update s.tagOf job.packet.packetNumber job.tag pn)
      by_cases hpn : pn = job.packet.packetNumber
      · rw [hpn, AList.lookup_insert] at hlook
        obtain rfl := Option.some.inj hlook
        rw [hpn, Function.update_self]
        exact ⟨hwritten.plaintext, hwritten.payload, rfl⟩
      · rw [AList.lookup_insert_ne hpn] at hlook
        rw [Function.update_of_ne hpn]
        exact hw.pending pn pp hlook

/-- `retransmitExpired` does nothing with a packet that is not pending or not due; otherwise the
entry goes and the payload is put in the send queue, if there is room. -/
theorem retransmit_cases :
    s.retransmit now pn = s ∨ ∃ pp, s.conn.pendingPackets.lookup pn = some pp ∧
      ¬ now < pp.nextRetry ∧
      s.retransmit now pn = { s with
        conn := { s.conn.nextSendSequence.2.2 with
          pendingPackets := s.conn.pendingPackets.erase pn }
        rekey := if .initiateRekey ∈ s.conn.nextSendSequence.2.1 then .started else s.rekey
        sendQueue := (s.sendQueue.trySend
          ⟨s.conn.dataPacket s.conn.sendSequence pp.plaintextPayload, s.tagOf pn⟩).getD s.sendQueue
        expired := s.expired ++ [s.tagOf pn] } := by
  rw [retransmit]
  cases hlook : s.conn.pendingPackets.lookup pn with
  | none => exact Or.inl rfl
  | some pp =>
    dsimp only
    rcases s.conn.retransmitPending_cases now pn (hw.pending pn pp hlook).retries with
      ⟨-, heq⟩ | ⟨hdue, heq⟩
    · rw [heq]
      exact Or.inl rfl
    · rw [heq]
      exact Or.inr ⟨pp, rfl, hdue, rfl⟩

theorem retransmit : WellFormed aead ctx h₀ (s.retransmit now pn) := by
  rcases hw.retransmit_cases now pn with heq | ⟨pp, hlook, -, heq⟩
  · rw [heq]
    exact hw
  · have hkeeps := hw.pending pn pp hlook
    have hnext := SSU2Conn.Steady.nextSendSequence s.conn
    have hcarries : Job.Carries h₀ s.payloads
        ⟨s.conn.dataPacket s.conn.sendSequence pp.plaintextPayload, s.tagOf pn⟩ :=
      ⟨made_dataPacket hw.remoteConnectionID _ hkeeps.plaintext, hkeeps.payload⟩
    have hbase := hw.conn_erase (h := { s.conn.nextSendSequence.2.2 with
        pendingPackets := s.conn.pendingPackets.erase pn }) hnext.remoteConnectionID
      hnext.maxACKDataSize hnext.sendCipher fun k p hk =>
        GoMap.lookup_of_lookup_foldl_erase (l := [pn]) hk
    rw [heq]
    refine { hbase with queued := ?_ }
    cases hqueue : s.sendQueue.trySend
        ⟨s.conn.dataPacket s.conn.sendSequence pp.plaintextPayload, s.tagOf pn⟩ with
    | none => exact hw.queued
    | some queue =>
      rw [Option.getD_some, Chan.items_of_trySend hqueue]
      exact forall_mem_concat hw.queued hcarries

theorem sendToAddress (block : SSU2Block) : WellFormed aead ctx h₀ (s.sendToAddress env block) := by
  have hsteady := SSU2Conn.Steady.sendToAddress env s.conn block
  rw [Endpoint.sendToAddress]
  generalize s.conn.sendToAddress env block = result at hsteady ⊢
  obtain ⟨r, spawned, h⟩ := result
  refine ((hw.conn hsteady).addEmissions fun e he => ?_).spawn spawned
  split at he
  · obtain rfl := List.mem_singleton.mp he
    exact Or.inr ⟨rfl, rfl⟩
  · cases he

theorem sealed_nextNonce {env : SendEnv} {cipher : CipherState} {data : Bytes}
    (hdata : s.conn.nextNonceDatagram aead.toCrypto (ctx.dataEnv env) cipher = some data) :
    Emission.Sealed aead ctx h₀ ⟨data, s.conn.sendSequence, nextNoncePayload,
      [⟨cipher.key, packetNonce s.conn.sendSequence⟩], none⟩ := by
  have hsize : nextNoncePayload.length + 48 ≤ maxPacketSizeIPv6 := by decide
  obtain ⟨x, hx⟩ := s.conn.nextNonceDatagram_eq aead (ctx.dataEnv env) cipher
  rw [hx] at hdata
  refine ⟨List.cons_ne_nil _ _, hsize, cipher.key, x, rfl, ?_⟩
  have hplain : s.conn.plainDatagram s.conn.sendSequence x (s.conn.sealedPayload aead cipher.key
      s.conn.sendSequence nextNoncePayload) =
      h₀.plainDatagram s.conn.sendSequence x (h₀.sealedPayload aead cipher.key
        s.conn.sendSequence nextNoncePayload) := by
    rw [sealedPayload_congr hw.remoteConnectionID, plainDatagram,
      plainDatagram, sealedHeader_congr hw.remoteConnectionID]
  rw [hplain] at hdata
  exact (Option.some.inj hdata).symm

theorem rekeySend_cases :
    (∃ h rekey, SSU2Conn.Steady s.conn h ∧ SSU2Conn.SendFrame s.conn h ∧
        h.sendKey = s.conn.sendKey ∧ h.rekeyInFlight = s.conn.rekeyInFlight ∧
        (s.rekey = .started ∧ rekey = .idle ∨ s.rekey ≠ .started ∧ rekey = s.rekey) ∧
        s.rekeySend aead ctx env = { s with conn := h, rekey := rekey }) ∨
      ∃ cipher newKey data, s.rekey = .started ∧ s.conn.sendCipher = some cipher ∧
        aead.hkdf cipher.key = .ok newKey ∧
        s.conn.nextNonceDatagram aead.toCrypto (ctx.dataEnv env) cipher = some data ∧
        s.rekeySend aead ctx env = { s with
          conn := (s.conn.sendNextNonceInline aead.toCrypto (ctx.dataEnv env) cipher).2.2
          rekey := .switching newKey
          emissions := s.emissions ++ [⟨data, s.conn.sendSequence, nextNoncePayload,
            [⟨cipher.key, packetNonce s.conn.sendSequence⟩], none⟩] } := by
  obtain ⟨cipher, hcipher⟩ := Option.isSome_iff_exists.mp hw.sendCipher
  unfold rekeySend
  rw [hcipher]
  cases hrekey : s.rekey with
  | idle =>
    exact Or.inl ⟨s.conn, s.rekey, .refl _, .refl _, rfl, rfl,
      Or.inr ⟨(fun h => by cases h), hrekey⟩, rfl⟩
  | switching newKey =>
    exact Or.inl ⟨s.conn, s.rekey, .refl _, .refl _, rfl, rfl,
      Or.inr ⟨(fun h => by cases h), hrekey⟩, rfl⟩
  | started =>
    dsimp only
    cases hkdf : aead.hkdf cipher.key with
    | error e => exact Or.inl ⟨s.conn, .idle, .refl _, .refl _, rfl, rfl, Or.inl ⟨rfl, rfl⟩, rfl⟩
    | ok newKey =>
      have hsteady := SSU2Conn.Steady.sendNextNonceInline aead.toCrypto (ctx.dataEnv env) hcipher
      have hframe := SSU2Conn.SendFrame.sendNextNonceInline aead.toCrypto (ctx.dataEnv env) s.conn
        cipher
      obtain ⟨hsame, hencryptions⟩ :=
        sendNextNonceInline_spec aead.toCrypto (ctx.dataEnv env) hcipher
      rcases hsend : s.conn.sendNextNonceInline aead.toCrypto (ctx.dataEnv env) cipher with
        ⟨r, encryptions, h⟩
      rw [hsend] at hsteady hframe hsame hencryptions
      cases hdata : s.conn.nextNonceDatagram aead.toCrypto (ctx.dataEnv env) cipher with
      | none =>
        cases r <;>
          exact Or.inl ⟨h, .idle, hsteady, hframe, hsame.sendKey, hsame.rekeyInFlight,
            Or.inl ⟨rfl, rfl⟩, rfl⟩
      | some data =>
        cases r with
        | error e =>
          exact Or.inl ⟨h, .idle, hsteady, hframe, hsame.sendKey, hsame.rekeyInFlight,
            Or.inl ⟨rfl, rfl⟩, rfl⟩
        | ok u => grind

theorem rekeySend : WellFormed aead ctx h₀ (s.rekeySend aead ctx env) := by
  rcases hw.rekeySend_cases env with ⟨h, rekey, hsteady, -, -, -, -, heq⟩ |
    ⟨cipher, newKey, data, -, hcipher, -, hdata, heq⟩
  · rw [heq]
    exact { hw.conn hsteady with }
  · have hsteady := SSU2Conn.Steady.sendNextNonceInline aead.toCrypto (ctx.dataEnv env) hcipher
    have hbase := (hw.conn hsteady).addEmissions (List.forall_mem_singleton.mpr
      (Or.inl ⟨hw.sealed_nextNonce hdata, fun t ht => by cases ht⟩))
    rw [heq]
    exact { hbase with }

theorem rekeySwitch : WellFormed aead ctx h₀ s.rekeySwitch := by
  unfold Endpoint.rekeySwitch
  cases s.rekey with
  | idle => exact hw
  | started => exact hw
  | switching newKey => exact { hw with sendCipher := rfl }

theorem receive (env : RecvEnv) (data : Bytes) (addr : Option UDPAddr) (source : Option ℕ) :
    WellFormed aead ctx h₀ (s.receive aead ctx env data addr source) := by
  rcases receive_cases aead ctx env s data addr source with ⟨h, hkeeps, heq⟩ |
    ⟨packet, h, hkeeps, -, -, -, heq⟩
  all_goals
    rw [heq]
    exact { hw.conn hkeeps.steady with }

end

/-- The blocks of the packet are handled, and, if none of them was refused, its ACK blocks take
pending packets out. -/
theorem process_cases (aead : Aead) (s : Endpoint) (now : Time) :
    s.process aead now = s ∨ ∃ inbound n, s.receiving = some inbound ∧
      n = (s.conn.dataHandler.processDataPacket now inbound.packet).2.2.messageQueue.items.length -
        s.conn.dataHandler.messageQueue.items.length ∧
      (s.process aead now = { s with
          conn := handled aead now s.conn inbound.packet
          receiving := none
          delivered := s.delivered ++ List.replicate n inbound.source } ∨
        ∃ blocks, (s.conn.dataHandler.processDataPacket now inbound.packet).1 = .ok blocks ∧
          s.process aead now = { s with
            conn := blocks.foldl retireACK (handled aead now s.conn inbound.packet)
            receiving := none
            delivered := s.delivered ++ List.replicate n inbound.source
            acked := s.acked ++ (s.conn.pendingPackets.keys.filter fun pn =>
              pn ∉ (blocks.foldl retireACK
                (handled aead now s.conn inbound.packet)).pendingPackets).map s.tagOf }) := by
  rw [process]
  cases s.receiving with
  | none => exact Or.inl rfl
  | some inbound =>
    refine Or.inr ⟨inbound, _, rfl, rfl, ?_⟩
    dsimp only
    rw [(SSU2Conn.KeepsSend.handled aead now s.conn inbound.packet).pendingPackets]
    cases (s.conn.dataHandler.processDataPacket now inbound.packet).1 with
    | error e => exact Or.inl rfl
    | ok blocks => exact Or.inr ⟨blocks, rfl, rfl⟩

theorem process (hw : WellFormed aead ctx h₀ s) (now : Time) :
    WellFormed aead ctx h₀ (s.process aead now) := by
  rcases process_cases aead s now with heq | ⟨inbound, n, -, -, heq⟩
  · rw [heq]
    exact hw
  · have hsteady := SSU2Conn.KeepsSend.handled aead now s.conn inbound.packet
    rcases heq with heq | ⟨blocks, -, heq⟩
    · rw [heq]
      exact { hw.conn hsteady.steady with }
    · obtain ⟨hkeeps, hpending⟩ :=
        foldl_retireACK_spec blocks (handled aead now s.conn inbound.packet)
      have hbase := hw.conn_erase (hkeeps.remoteConnectionID.trans hsteady.remoteConnectionID)
        (hkeeps.maxACKDataSize.trans hsteady.maxACKDataSize)
        (congrArg _ (hkeeps.sendCipher.trans hsteady.sendCipher))
        fun pn pp hlook => by
          rw [← hsteady.pendingPackets]
          exact hpending pn pp hlook
      rw [heq]
      exact { hbase with }

/-- Every step keeps the places in order. -/
theorem step (hw : WellFormed aead ctx h₀ s) (e : Event) :
    WellFormed aead ctx h₀ (s.step aead ctx e) := by
  cases e with
  | writeBlock block => exact hw.writeBlock block
  | enqueue i => exact hw.enqueue i
  | abandon i =>
    exact { hw with writing := fun job hjob => hw.writing job (List.mem_of_mem_eraseIdx hjob) }
  | take => exact hw.take
  | immediateACK now =>
    obtain ⟨hsteady, hmade⟩ := s.conn.immediateACKPacket_spec hw.maxACKDataSize now
    exact hw.direct hsteady hmade
  | terminate reason additionalData =>
    obtain ⟨hsteady, hmade⟩ := s.conn.terminationPacket_spec reason additionalData
    exact hw.direct hsteady hmade
  | encrypt i => exact hw.encrypt i
  | emit env i => exact hw.emit env i
  | track env i => exact hw.track env i
  | retransmit now pn => exact hw.retransmit now pn
  | sendToAddress env block => exact hw.sendToAddress env block
  | rekeySend env => exact hw.rekeySend env
  | rekeySwitch => exact hw.rekeySwitch
  | receive env data addr source => exact hw.receive env data addr source
  | process now => exact hw.process now
  | read =>
    show WellFormed aead ctx h₀ s.read
    rw [read]
    split
    · exact hw
    · exact hw.conn ⟨rfl, rfl, rfl, rfl⟩
  | cleanup now => exact hw.conn ⟨rfl, rfl, rfl, rfl⟩

theorem exec (hready : Ready h₀) (es : List Event) :
    WellFormed aead ctx h₀ (exec (Endpoint.step aead ctx) (Endpoint.start h₀) es) := by
  refine exec_induct (P := fun _ _ => True) (fun s e hw _ => hw.step e) (start hready)
    (always_iff.mpr fun _ _ _ _ => trivial)

end WellFormed
end Endpoint
end GoNoise.SSU2
