import GoNoise.SSU2.Session.ConnWrite

/-!
# `ssu2/session/conn_read.go`: the receive path

A Data packet must be taken by the receive window; it is then recorded for the next ACK block and
its blocks are processed at once. The packets that the window releases are not used.
-/

namespace GoNoise.SSU2.SSU2Conn

/-! ## The code -/

def congestionFlagRequestACK : UInt8 := 1

/-- `handleCongestionBlock`, without the congestion controller. -/
def handleCongestionBlock (crypto : Crypto) (env : SendEnv) (h : SSU2Conn) (flags : UInt8) :
    List Encryption × List Spawn × SSU2Conn :=
  if flags &&& congestionFlagRequestACK ≠ 0 then h.sendImmediateACK crypto env else ([], [], h)

def handlePeerNextNonce (crypto : Crypto) (h : SSU2Conn) (newNonce : UInt64) :
    Except Oops Unit × SSU2Conn :=
  match h.recvCipher with
  | none => (.error <| .errorf "receive cipher not initialized", h)
  | some cipher =>
    match crypto.hkdf cipher.key with
    | .error e => (.error (e.wrapf "failed to derive rekey for recv cipher"), h)
    | .ok newKey => (.ok (), { h with recvCipher := some ⟨newKey, newNonce⟩ })

/-- The callbacks that `wireDataCallbacks` installs and that act on the connection. -/
def runCallback (crypto : Crypto) (env : SendEnv) (h : SSU2Conn) :
    Callback → List Encryption × List Spawn × SSU2Conn
  | .onCongestion flags => h.handleCongestionBlock crypto env flags
  | .onNextNonce newNonce =>
    if h.config.enableNextNonce then ([], [], (h.handlePeerNextNonce crypto newNonce).2)
    else ([], [], h)
  | _ => ([], [], h)

/-- The callbacks of one packet, in order. -/
def runCallbacks (crypto : Crypto) (env : SendEnv) :
    SSU2Conn → List Callback → List Encryption × List Spawn × SSU2Conn
  | h, [] => ([], [], h)
  | h, callback :: rest =>
    let (encryptions, spawned, h) := h.runCallback crypto env callback
    let (encryptions', spawned', h) := runCallbacks crypto env h rest
    (encryptions ++ encryptions', spawned ++ spawned', h)

/-- One turn of the loop over the blocks: the packets an ACK block acknowledges are not pending any
more. -/
def retireACK (h : SSU2Conn) (block : SSU2Block) : SSU2Conn :=
  if block.type = blockTypeACK then
    let (ackedNums, ackHandler) := h.ackHandler.processACK block
    { h with
      ackHandler := ackHandler
      pendingPackets := (ackedNums.toOption.getD []).foldl (fun m num => m.erase num)
        h.pendingPackets }
  else h

def processDataPacket (crypto : Crypto) (env : SendEnv) (h : SSU2Conn) (packet : SSU2Packet) :
    Except Oops (List SSU2Block) × List Encryption × List Spawn × SSU2Conn :=
  let (r, callbacks, dataHandler) := h.dataHandler.processDataPacket env.now packet
  let (encryptions, spawned, h) :=
    runCallbacks crypto env { h with dataHandler := dataHandler } callbacks
  match r with
  | .error e => (.error e, encryptions, spawned, h)
  | .ok blocks => (.ok blocks, encryptions, spawned, blocks.foldl retireACK h)

/-- The receive window is asked, if there is one. -/
def insertWindow (h : SSU2Conn) (packet : SSU2Packet) : Except Oops Unit × SSU2Conn :=
  match h.recvWindow with
  | none => (.ok (), h)
  | some w =>
    let (r, w) := w.insert (some packet)
    (r.map fun _ => (), { h with recvWindow := some w })

/-- `RecordReceived`; number 0 is not acknowledged. -/
def recordReceived (h : SSU2Conn) (packet : SSU2Packet) : SSU2Conn :=
  if packet.packetNumber > 0 then
    { h with ackHandler := h.ackHandler.recordReceived packet.packetNumber }
  else h

/-- The immediate-ACK flag, bit 0 of header byte 13. -/
def immediateACKRequested (packet : SSU2Packet) : Prop :=
  packet.header.length > 13 ∧ packet.header.getD 13 0 &&& 0x01 ≠ 0

instance (packet : SSU2Packet) : Decidable (immediateACKRequested packet) :=
  inferInstanceAs (Decidable (_ ∧ _))

def acceptDataPacket (crypto : Crypto) (env : SendEnv) (h : SSU2Conn) (packet : SSU2Packet) :
    Except Oops (List SSU2Block) × List Encryption × List Spawn × SSU2Conn :=
  let h := h.recordReceived packet
  let h := { h with validDataPacketsReceived := h.validDataPacketsReceived + 1 }
  let (encryptions, spawned, h) :=
    if immediateACKRequested packet then h.sendImmediateACK crypto env else ([], [], h)
  let (r, encryptions', spawned', h) := h.processDataPacket crypto env packet
  (r, encryptions ++ encryptions', spawned ++ spawned', h)

/-- `processInboundPacket`. The first component is what the data handler returned; it is `none` if
the packet was not handed to it. -/
def processInboundPacket (crypto : Crypto) (env : SendEnv) (h : SSU2Conn) (packet : SSU2Packet) :
    Option (Except Oops (List SSU2Block)) × List Encryption × List Spawn × SSU2Conn :=
  if packet.messageType = messageTypeData then
    match h.insertWindow packet with
    | (.error _, h) => (none, [], [], h)
    | (.ok (), h) =>
      let (r, encryptions, spawned, h) := h.acceptDataPacket crypto env packet
      (some r, encryptions, spawned, h)
  else if packet.messageType = messageTypeSessionRequest ∨
      packet.messageType = messageTypeSessionCreated ∨
      packet.messageType = messageTypeSessionConfirmed then
    let h := h.recordReceived packet
    (none, [], [], { h with recvQueue := (h.recvQueue.trySend packet).getD h.recvQueue })
  else (none, [], [], h)

/-! ## Events of an established connection -/

/-- What can happen on an established connection. -/
inductive Event
  | inbound (env : SendEnv) (packet : SSU2Packet)
  | write (random : Except Oops UInt32) (now : Time) (sel : ℕ → Select) (b : Bytes)
  | writeBlocks (sel : ℕ → Select) (blocks : List SSU2Block)
  /-- the send loop takes a packet out of the send queue -/
  | send (env : SendEnv) (packet : SSU2Packet)
  | keepalive (env : SendEnv)
  /-- the retransmit loop looks at the pending packets -/
  | retransmit (now : Time)
  | sendToAddress (env : SendEnv) (block : SSU2Block)
  /-- the rekey that was started runs -/
  | rekey (env : SendEnv)

def step (crypto : Crypto) (h : SSU2Conn) : Event → SSU2Conn
  | .inbound env packet => (h.processInboundPacket crypto env packet).2.2.2
  | .write random now sel b => (h.write random now sel b).2.2.2
  | .writeBlocks sel blocks => (h.writeBlocks sel blocks).2.2.2
  | .send env packet => (h.sendPacketDirect crypto env packet).2.2
  | .keepalive env => (h.sendImmediateACK crypto env).2.2
  | .retransmit now => (retransmitExpired now h h.pendingPackets.entries).2.2
  | .sendToAddress env block => (h.sendToAddress env block).2.2
  | .rekey env => (h.initiateRekey crypto env).2

/-! ## The send path and the receive side -/

/-- The receive window and the data handler are those of `h`. -/
structure Frame (h h' : SSU2Conn) : Prop where
  recvWindow : h'.recvWindow = h.recvWindow
  dataHandler : h'.dataHandler = h.dataHandler

namespace Frame

theorem refl (h : SSU2Conn) : Frame h h := ⟨rfl, rfl⟩

theorem trans {h₁ h₂ h₃ : SSU2Conn} (h : Frame h₁ h₂) (h' : Frame h₂ h₃) : Frame h₁ h₃ :=
  ⟨h'.recvWindow.trans h.recvWindow, h'.dataHandler.trans h.dataHandler⟩

end Frame

/-- In addition, the configuration, the state, the receive cipher and the peer's connection ID are
those of `h`. -/
structure SendFrame (h h' : SSU2Conn) : Prop extends Frame h h' where
  config : h'.config = h.config
  state : h'.state = h.state
  recvCipher : h'.recvCipher = h.recvCipher
  remoteConnectionID : h'.remoteConnectionID = h.remoteConnectionID

namespace SendFrame

variable (crypto : Crypto) (env : SendEnv) (h : SSU2Conn) (now : Time) (sel : ℕ → Select)
  (packet : SSU2Packet)

theorem refl : SendFrame h h := ⟨⟨rfl, rfl⟩, rfl, rfl, rfl, rfl⟩

theorem trans {h₁ h₂ h₃ : SSU2Conn} (h : SendFrame h₁ h₂) (h' : SendFrame h₂ h₃) :
    SendFrame h₁ h₃ :=
  ⟨h.toFrame.trans h'.toFrame, h'.config.trans h.config, h'.state.trans h.state,
    h'.recvCipher.trans h.recvCipher, h'.remoteConnectionID.trans h.remoteConnectionID⟩

theorem nextSendSequence : SendFrame h h.nextSendSequence.2.2 := by
  rcases h.nextSendSequence_cases with ⟨-, he⟩ | ⟨-, he | ⟨-, -, he⟩⟩ <;>
    (rw [he]; exact ⟨⟨rfl, rfl⟩, rfl, rfl, rfl, rfl⟩)

theorem encryptDataPayload : SendFrame h (h.encryptDataPayload crypto packet).2.2 := by
  rw [SSU2Conn.encryptDataPayload]
  split
  · exact refl h
  · split_ifs
    · exact refl h
    · dsimp only
      split <;> exact ⟨⟨rfl, rfl⟩, rfl, rfl, rfl, rfl⟩

theorem trackPendingPacket
    (plaintext : Bytes) : SendFrame h (h.trackPendingPacket env packet plaintext) := by
  rw [SSU2Conn.trackPendingPacket]
  split_ifs <;> exact ⟨⟨rfl, rfl⟩, rfl, rfl, rfl, rfl⟩

theorem sendPacketDirect : SendFrame h (h.sendPacketDirect crypto env packet).2.2 := by
  have hencrypt := encryptDataPayload crypto h packet
  rw [SSU2Conn.sendPacketDirect]
  generalize h.encryptDataPayload crypto packet = result at hencrypt ⊢
  rcases result with ⟨_ | ⟨sent, plaintext⟩, encryptions, h'⟩
  · exact hencrypt
  · dsimp only
    cases putOnWire env sent with
    | error e => exact hencrypt
    | ok packet =>
      refine hencrypt.trans (SendFrame.trans ?_ (trackPendingPacket env _ packet plaintext))
      exact ⟨⟨rfl, rfl⟩, rfl, rfl, rfl, rfl⟩

theorem immediateACKPacket : SendFrame h (h.immediateACKPacket now).2.2 := by
  rw [SSU2Conn.immediateACKPacket]
  rcases h.ackHandler.generateACK now with ⟨_ | ack, ackHandler⟩
  · exact ⟨⟨rfl, rfl⟩, rfl, rfl, rfl, rfl⟩
  · have hnext := nextSendSequence { h with ackHandler := ackHandler }
    exact ⟨⟨hnext.recvWindow, hnext.dataHandler⟩, hnext.config, hnext.state, hnext.recvCipher,
      hnext.remoteConnectionID⟩

theorem sendImmediateACK : SendFrame h (h.sendImmediateACK crypto env).2.2 := by
  have hpacket := immediateACKPacket h env.now
  rw [SSU2Conn.sendImmediateACK]
  generalize h.immediateACKPacket env.now = result at hpacket ⊢
  rcases result with ⟨_ | packet, spawned, h'⟩
  · exact hpacket
  · exact hpacket.trans (sendPacketDirect crypto env h' packet)

theorem retransmitPending (pn : UInt32) (pp : PendingPacket) :
    SendFrame h (h.retransmitPending now pn pp).2.2 := by
  rw [SSU2Conn.retransmitPending]
  split_ifs
  · exact refl h
  · exact ⟨⟨rfl, rfl⟩, rfl, rfl, rfl, rfl⟩
  · exact trans (nextSendSequence h) ⟨⟨rfl, rfl⟩, rfl, rfl, rfl, rfl⟩

theorem retransmitExpired (h : SSU2Conn) (entries : List ((_ : UInt32) × PendingPacket)) :
    SendFrame h (SSU2Conn.retransmitExpired now h entries).2.2 := by
  induction entries generalizing h with
  | nil => exact refl h
  | cons entry rest ih => exact (retransmitPending h now entry.1 entry.2).trans (ih _)

theorem sendToAddress (block : SSU2Block) : SendFrame h (h.sendToAddress env block).2.2 := by
  rw [sendToAddress_conn]
  exact nextSendSequence h

theorem sendNextNonceInline
    (cipher : CipherState) : SendFrame h (h.sendNextNonceInline crypto env cipher).2.2 := by
  rw [SSU2Conn.sendNextNonceInline]
  dsimp only
  split
  · exact ⟨⟨rfl, rfl⟩, rfl, rfl, rfl, rfl⟩
  · split
    · exact ⟨⟨rfl, rfl⟩, rfl, rfl, rfl, rfl⟩
    · split
      · exact ⟨⟨rfl, rfl⟩, rfl, rfl, rfl, rfl⟩
      · split <;> exact ⟨⟨rfl, rfl⟩, rfl, rfl, rfl, rfl⟩

theorem initiateRekey : SendFrame h (h.initiateRekey crypto env).2 := by
  rw [SSU2Conn.initiateRekey]
  cases h.sendCipher with
  | none => exact refl h
  | some cipher =>
    dsimp only
    cases crypto.hkdf cipher.key with
    | error e => exact refl h
    | ok newKey =>
      have hcipher := sendNextNonceInline crypto env h cipher
      generalize h.sendNextNonceInline crypto env cipher = result at hcipher ⊢
      rcases result with ⟨_ | _, encryptions, h'⟩
      · exact hcipher
      · exact hcipher.trans ⟨⟨rfl, rfl⟩, rfl, rfl, rfl, rfl⟩

theorem writeBlock (sel : Select) (block : SSU2Block) :
    SendFrame h (h.writeBlock sel block).2.2 := by
  have hnext := nextSendSequence h
  rw [SSU2Conn.writeBlock, newDataPacket]
  generalize h.nextSendSequence = result at hnext ⊢
  rcases result with ⟨pktNum, spawned, h'⟩
  dsimp only
  split
  · exact hnext
  · cases sel <;> exact hnext

theorem writeBlocksFrom (i : ℕ) (h : SSU2Conn) (blocks : List SSU2Block) :
    SendFrame h (SSU2Conn.writeBlocksFrom sel i h blocks).2.2.2 := by
  induction blocks generalizing i h with
  | nil => exact refl h
  | cons block rest ih =>
    have hblock := writeBlock h (sel i) block
    rw [SSU2Conn.writeBlocksFrom]
    generalize h.writeBlock (sel i) block = result at hblock ⊢
    rcases result with ⟨_ | packet, spawned, h'⟩
    · exact hblock
    · exact hblock.trans (ih (i + 1) h')

theorem writeBlocks (blocks : List SSU2Block) : SendFrame h (h.writeBlocks sel blocks).2.2.2 := by
  rw [SSU2Conn.writeBlocks]
  cases h.validateReadyForIO with
  | error e => exact refl h
  | ok u => exact writeBlocksFrom sel 0 h blocks

theorem write (random : Except Oops UInt32) (now : Time) (sel : ℕ → Select)
    (b : Bytes) : SendFrame h (h.write random now sel b).2.2.2 := by
  rw [SSU2Conn.write]
  cases h.validateReadyForIO with
  | error e => exact refl h
  | ok u =>
    split_ifs
    · have hblock := writeBlock h (sel 0) ⟨blockTypeI2NPMessage, b⟩
      generalize h.writeBlock (sel 0) ⟨blockTypeI2NPMessage, b⟩ = result at hblock ⊢
      rcases result with ⟨_ | packet, spawned, h'⟩ <;> exact hblock
    · cases buildI2NPFragmentBlocks random now b h.maxBlockData with
      | error e => exact refl h
      | ok blocks => exact writeBlocks h sel blocks

end SendFrame

/-! ## The receive path and the window -/

variable {event : Event} (crypto : Crypto) (env : SendEnv) (h : SSU2Conn) (packet : SSU2Packet)

theorem Frame.runCallback (callback : Callback) :
    Frame h (h.runCallback crypto env callback).2.2 := by
  cases callback with
  | onCongestion flags =>
    rw [SSU2Conn.runCallback, handleCongestionBlock]
    split_ifs
    · exact (SendFrame.sendImmediateACK crypto env h).toFrame
    · exact refl h
  | onNextNonce newNonce =>
    rw [SSU2Conn.runCallback]
    split_ifs
    · rw [handlePeerNextNonce]
      split
      · exact refl h
      · split <;> exact ⟨rfl, rfl⟩
    · exact refl h
  | onTermination | onNewToken | onFirstPacketNumber | onDateTime | onBlock | onSigned =>
    exact refl h

theorem Frame.runCallbacks
    (callbacks : List Callback) : Frame h (SSU2Conn.runCallbacks crypto env h callbacks).2.2 := by
  induction callbacks generalizing h with
  | nil => exact refl h
  | cons callback rest ih => exact (Frame.runCallback crypto env h callback).trans (ih _)

theorem Frame.foldl_retireACK (blocks : List SSU2Block) (h : SSU2Conn) :
    Frame h (blocks.foldl retireACK h) := by
  induction blocks generalizing h with
  | nil => exact refl h
  | cons block rest ih =>
    refine Frame.trans ?_ (ih _)
    rw [retireACK]
    split_ifs <;> exact ⟨rfl, rfl⟩

/-- The packet goes to the data handler, and its blocks do not change the window. -/
theorem processDataPacket_spec :
    (h.processDataPacket crypto env packet).1 =
        (h.dataHandler.processDataPacket env.now packet).1 ∧
      (h.processDataPacket crypto env packet).2.2.2.recvWindow = h.recvWindow ∧
      (h.processDataPacket crypto env packet).2.2.2.dataHandler =
        (h.dataHandler.processDataPacket env.now packet).2.2 := by
  rw [processDataPacket]
  rcases h.dataHandler.processDataPacket env.now packet with ⟨_ | blocks, callbacks, dataHandler⟩
  · have hframe := Frame.runCallbacks crypto env { h with dataHandler := dataHandler } callbacks
    exact ⟨rfl, hframe.recvWindow, hframe.dataHandler⟩
  · have hframe := (Frame.runCallbacks crypto env { h with dataHandler := dataHandler }
      callbacks).trans (Frame.foldl_retireACK blocks _)
    exact ⟨rfl, hframe.recvWindow, hframe.dataHandler⟩

theorem acceptDataPacket_spec :
    (h.acceptDataPacket crypto env packet).1 =
        (h.dataHandler.processDataPacket env.now packet).1 ∧
      (h.acceptDataPacket crypto env packet).2.2.2.recvWindow = h.recvWindow ∧
      (h.acceptDataPacket crypto env packet).2.2.2.dataHandler =
        (h.dataHandler.processDataPacket env.now packet).2.2 := by
  set h₁ : SSU2Conn := { h.recordReceived packet with
    validDataPacketsReceived := (h.recordReceived packet).validDataPacketsReceived + 1 } with hh₁
  have hrec : Frame h h₁ := by
    rw [hh₁, recordReceived]
    split_ifs <;> exact ⟨rfl, rfl⟩
  set ack : List Encryption × List Spawn × SSU2Conn :=
    if immediateACKRequested packet then h₁.sendImmediateACK crypto env else ([], [], h₁) with hack
  have hframe : Frame h ack.2.2 := by
    refine hrec.trans ?_
    rw [hack]
    split_ifs
    · exact (SendFrame.sendImmediateACK crypto env h₁).toFrame
    · exact Frame.refl h₁
  have hspec := processDataPacket_spec crypto env ack.2.2 packet
  rw [hframe.dataHandler, hframe.recvWindow] at hspec
  exact hspec

section
variable (crypto : Crypto) (env : SendEnv) {h : SSU2Conn} {packet : SSU2Packet}
  {w w' : ReceiveWindow}

theorem processInboundPacket_of_ok (htype : packet.messageType = messageTypeData)
    (hw : h.recvWindow = some w) {ready : List SSU2Packet}
    (hins : w.insert (some packet) = (.ok ready, w')) :
    (h.processInboundPacket crypto env packet).1 =
        some (h.dataHandler.processDataPacket env.now packet).1 ∧
      (h.processInboundPacket crypto env packet).2.2.2.recvWindow = some w' := by
  obtain ⟨hr, hwin, -⟩ :=
    acceptDataPacket_spec crypto env { h with recvWindow := some w' } packet
  rw [processInboundPacket, if_pos htype, insertWindow, hw]
  dsimp only
  rw [hins]
  exact ⟨congrArg some hr, hwin⟩

theorem processInboundPacket_of_error (htype : packet.messageType = messageTypeData)
    (hw : h.recvWindow = some w) {e : Oops} (hins : w.insert (some packet) = (.error e, w)) :
    h.processInboundPacket crypto env packet = (none, [], [], h) := by
  rw [processInboundPacket, if_pos htype, insertWindow, hw]
  dsimp only
  rw [hins]
  show (_, _, _, { h with recvWindow := some w }) = _
  rw [← hw]

theorem recvWindow_processInboundPacket_of_ne (htype : packet.messageType ≠ messageTypeData) :
    (h.processInboundPacket crypto env packet).2.2.2.recvWindow = h.recvWindow := by
  rw [processInboundPacket, if_neg htype]
  split_ifs
  · rw [recordReceived]
    split_ifs <;> rfl
  · rfl

end

def Event.dataNumber : Event → Option UInt32
  | .inbound _ packet =>
    if packet.messageType = messageTypeData then some packet.packetNumber else none
  | _ => none

theorem Event.dataNumber_eq_some {k : UInt32} (h : event.dataNumber = some k) :
    ∃ env packet, event = .inbound env packet ∧ packet.messageType = messageTypeData ∧
      packet.packetNumber = k := by
  cases event with
  | inbound env packet => grind [Event.dataNumber]
  | write | writeBlocks | send | keepalive | retransmit | sendToAddress | rekey => cases h

/-- Only Data packets that come in change the receive window. -/
theorem recvWindow_step
    (hevent : event.dataNumber = none) : (h.step crypto event).recvWindow = h.recvWindow := by
  cases event with
  | inbound env packet =>
    refine recvWindow_processInboundPacket_of_ne crypto env fun htype => ?_
    rw [Event.dataNumber, if_pos htype] at hevent
    cases hevent
  | write random now sel b => exact (SendFrame.write h random now sel b).recvWindow
  | writeBlocks sel blocks => exact (SendFrame.writeBlocks h sel blocks).recvWindow
  | send env packet => exact (SendFrame.sendPacketDirect crypto env h packet).recvWindow
  | keepalive env => exact (SendFrame.sendImmediateACK crypto env h).recvWindow
  | retransmit now => exact (SendFrame.retransmitExpired now h _).recvWindow
  | sendToAddress env block => exact (SendFrame.sendToAddress env h block).recvWindow
  | rekey env => exact (SendFrame.initiateRekey crypto env h).recvWindow

end GoNoise.SSU2.SSU2Conn
