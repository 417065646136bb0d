import GoNoise.SSU2.Reliability.ReceivedNumbers
import GoNoise.SSU2.Session.ConnRead
import GoNoise.SSU2.Session.MessageQueue

/-!
# `ssu2/session/conn_read.go`: reading

`Read` takes a message out of the queue of the data handler, or goes on with the remainder of the
last one. The receive path puts messages in the queue; they are lost between the packet and the
queue if there is no room.
-/

namespace GoNoise.SSU2

open Trace

/-! ## The code -/

inductive ReadSelect
  | message
  | closed
  | deadline
  deriving DecidableEq

/-- A connection, and the remainder that `Read` keeps for the next call. -/
structure Reader where
  conn : SSU2Conn
  pendingMessage : Bytes

namespace Reader

def queue (r : Reader) : Chan Bytes := r.conn.dataHandler.messageQueue

/-- The end of `Read`: the message `msg` was taken and `queue` is left. What does not fit the
buffer is kept. -/
def copyMessage (r : Reader) (size : ℕ) (msg : Bytes) (queue : Chan Bytes) :
    (Bytes × Option Oops) × Reader :=
  let dataHandler := { r.conn.dataHandler with messageQueue := queue }
  let r := { r with conn := { r.conn with dataHandler := dataHandler } }
  if size < msg.length then
    ((msg.take size, some (.errorf s!"buffer too small: need {msg.length} bytes, got {size}")),
      { r with pendingMessage := msg.drop size })
  else ((msg, none), r)

/-- `Read` into a buffer of `size` bytes: the bytes copied and the error. It is `none` if there is
no message and the call goes on waiting. -/
def read (r : Reader) (sel : ReadSelect) (size : ℕ) : Option ((Bytes × Option Oops) × Reader) :=
  match r.conn.validateReadyForIO with
  | .error e => some (([], some e), r)
  | .ok () =>
    if r.pendingMessage.length > 0 then
      some ((r.pendingMessage.take size, none),
        { r with pendingMessage := r.pendingMessage.drop size })
    else
      match sel with
      | .message => r.queue.tryRecv.map fun received => r.copyMessage size received.1 received.2
      | .closed => some (([], some (.errorf "connection closed")), r)
      | .deadline => some (([], some (.errorf "read deadline exceeded")), r)

/-! ## Runs -/

/-- An event of the connection, a change of its state, a round of the fragment cleanup, or a call
of `Read`. -/
inductive Event
  | conn (event : SSU2Conn.Event)
  | setState (state : ConnState)
  | cleanup (now : Time)
  | read (sel : ReadSelect) (size : ℕ)

end Reader

/-- A reader with every message that was queued and the bytes that each call of `Read` returned. -/
structure Reading where
  reader : Reader
  queued : List Bytes
  returned : List Bytes

namespace Reading

def step (crypto : Crypto) (s : Reading) : Reader.Event → Reading
  | .conn event =>
    let conn := s.reader.conn.step crypto event
    { s with
      reader := { s.reader with conn := conn }
      queued := s.queued ++ conn.dataHandler.messageQueue.items.drop s.reader.queue.items.length }
  | .setState state => { s with reader.conn.state := state }
  | .cleanup now =>
    { s with reader.conn.dataHandler := s.reader.conn.dataHandler.cleanupStaleFragments now }
  | .read sel size =>
    match s.reader.read sel size with
    | none => s
    | some ((bytes, _), reader) => { s with reader := reader, returned := s.returned ++ [bytes] }

def start (h : SSU2Conn) : Reading := ⟨⟨h, []⟩, h.dataHandler.messageQueue.items, []⟩

end Reading

/-! ## The queue along a run -/

namespace SSU2Conn

/-- A Data packet that the receive window takes. -/
def Accepts (h : SSU2Conn) (packet : SSU2Packet) : Prop :=
  packet.messageType = messageTypeData ∧ (h.insertWindow packet).1 = .ok ()

section
variable (crypto : Crypto) (env : SendEnv) {h : SSU2Conn} {packet : SSU2Packet}

theorem dataHandler_insertWindow (h : SSU2Conn) (packet : SSU2Packet) :
    (h.insertWindow packet).2.dataHandler = h.dataHandler := by grind [insertWindow]

/-- A packet that is accepted is handed to the data handler. -/
theorem processInboundPacket_of_accepts (haccepts : h.Accepts packet) :
    (h.processInboundPacket crypto env packet).2.2.2 =
        ((h.insertWindow packet).2.acceptDataPacket crypto env packet).2.2.2 ∧
      (h.processInboundPacket crypto env packet).2.2.2.dataHandler =
        (h.dataHandler.processDataPacket env.now packet).2.2 := by
  have hspec := acceptDataPacket_spec crypto env (h.insertWindow packet).2 packet
  have hhandler := dataHandler_insertWindow h packet
  obtain ⟨htype, hok⟩ := haccepts
  rw [processInboundPacket, if_pos htype]
  generalize h.insertWindow packet = result at hok hspec hhandler ⊢
  obtain ⟨r, h'⟩ := result
  obtain rfl : r = .ok () := hok
  exact ⟨rfl, by rw [← hhandler]; exact hspec.2.2⟩

theorem dataHandler_processInboundPacket_of_not_accepts (haccepts : ¬ h.Accepts packet) :
    (h.processInboundPacket crypto env packet).2.2.2.dataHandler = h.dataHandler := by
  rw [processInboundPacket]
  split_ifs with htype hhandshake
  · have hhandler := dataHandler_insertWindow h packet
    have hnot : (h.insertWindow packet).1 ≠ .ok () := fun hok => haccepts ⟨htype, hok⟩
    generalize h.insertWindow packet = result at hnot hhandler ⊢
    obtain ⟨r, h'⟩ := result
    cases r with
    | error e => exact hhandler
    | ok u => exact absurd rfl hnot
  · grind [recordReceived]
  · rfl

end

theorem step_appends (crypto : Crypto) (h : SSU2Conn) (event : Event) :
    h.dataHandler.messageQueue.items <+:
      (h.step crypto event).dataHandler.messageQueue.items := by
  have hframe : ∀ {h' : SSU2Conn}, SendFrame h h' →
      h.dataHandler.messageQueue.items <+: h'.dataHandler.messageQueue.items := by
    intro h' hf
    rw [hf.dataHandler]
  cases event with
  | inbound env packet =>
    show _ <+: (h.processInboundPacket crypto env packet).2.2.2.dataHandler.messageQueue.items
    by_cases haccepts : h.Accepts packet
    · rw [(processInboundPacket_of_accepts crypto env haccepts).2]
      exact h.dataHandler.processDataPacket_appends env.now packet
    · rw [dataHandler_processInboundPacket_of_not_accepts crypto env haccepts]
  | write random now sel b => exact hframe (.write h random now sel b)
  | writeBlocks sel blocks => exact hframe (.writeBlocks h sel blocks)
  | send env packet => exact hframe (.sendPacketDirect crypto env h packet)
  | keepalive env => exact hframe (.sendImmediateACK crypto env h)
  | retransmit now => exact hframe (.retransmitExpired now h _)
  | sendToAddress env block => exact hframe (.sendToAddress env h block)
  | rekey env => exact hframe (.initiateRekey crypto env h)

end SSU2Conn

/-! ## Reading preserves the stream -/

namespace Reading

/-- What was returned, the remainder and the queue are the messages that were queued. -/
def Balanced (s : Reading) : Prop :=
  s.returned.flatten ++ s.reader.pendingMessage ++ s.reader.queue.items.flatten =
    s.queued.flatten

theorem balanced_start (h : SSU2Conn) : (start h).Balanced := rfl

variable {s : Reading} (crypto : Crypto)

theorem balanced_conn (hs : s.Balanced) (event : SSU2Conn.Event) :
    (s.step crypto (.conn event)).Balanced := by
  obtain ⟨new, hnew⟩ := s.reader.conn.step_appends crypto event
  have hdrop : (s.reader.conn.step crypto event).dataHandler.messageQueue.items.drop
      s.reader.queue.items.length = new := by
    rw [← hnew]
    exact List.drop_left
  show s.returned.flatten ++ s.reader.pendingMessage ++
    (s.reader.conn.step crypto event).dataHandler.messageQueue.items.flatten =
      (s.queued ++ _).flatten
  rw [hdrop, ← hnew, List.flatten_append, List.flatten_append, ← hs, List.append_assoc,
    List.append_assoc, List.append_assoc]
  rfl

theorem balanced_cleanup (hs : s.Balanced) (now : Time) :
    (s.step crypto (.cleanup now)).Balanced := by
  rw [Balanced, step, Reader.queue, DataHandler.messageQueue_cleanupStaleFragments]
  exact hs

theorem copyMessage_spec (r : Reader) (hnil : r.pendingMessage = []) (size : ℕ) (msg : Bytes)
    (queue : Chan Bytes) :
    (r.copyMessage size msg queue).1.1 ++ ((r.copyMessage size msg queue).2.pendingMessage ++
      (r.copyMessage size msg queue).2.queue.items.flatten) = msg ++ queue.items.flatten := by
  rw [Reader.copyMessage]
  split_ifs with hshort
  · show msg.take size ++ (msg.drop size ++ queue.items.flatten) = _
    rw [← List.append_assoc, List.take_append_drop]
  · show msg ++ (r.pendingMessage ++ queue.items.flatten) = _
    rw [hnil, List.nil_append]

/-- `Read` moves bytes from the remainder, or from the first message, to its caller. -/
theorem read_spec {r : Reader} {sel : ReadSelect} {size : ℕ}
    {result : (Bytes × Option Oops) × Reader} (h : r.read sel size = some result) :
    result.1.1 ++ (result.2.pendingMessage ++ result.2.queue.items.flatten) =
      r.pendingMessage ++ r.queue.items.flatten := by
  unfold Reader.read at h
  cases hready : r.conn.validateReadyForIO with
  | error e => grind
  | ok u =>
    rw [hready] at h
    split_ifs at h with hpending
    · cases h
      show r.pendingMessage.take size ++ (r.pendingMessage.drop size ++ r.queue.items.flatten) = _
      rw [← List.append_assoc, List.take_append_drop]
    · have hnil : r.pendingMessage = [] :=
        List.eq_nil_of_length_eq_zero (Nat.eq_zero_of_not_pos hpending)
      cases sel with
      | message =>
        obtain ⟨received, hrecv, rfl⟩ := Option.map_eq_some_iff.mp h
        rw [copyMessage_spec r hnil, hnil, Chan.items_of_tryRecv hrecv, List.flatten_cons,
          List.nil_append]
      | closed => grind
      | deadline => grind

theorem balanced_read (hs : s.Balanced) (sel : ReadSelect)
    (size : ℕ) : (s.step crypto (.read sel size)).Balanced := by
  rw [step]
  cases hread : s.reader.read sel size with
  | none => exact hs
  | some result =>
    have hspec := read_spec hread
    show (s.returned ++ [result.1.1]).flatten ++ result.2.pendingMessage ++
      result.2.queue.items.flatten = s.queued.flatten
    rw [List.flatten_append, List.flatten_singleton, List.append_assoc, List.append_assoc, hspec,
      ← hs, List.append_assoc]

/-- **Reading preserves the byte stream.** In every run, with every choice of buffer sizes, the
bytes returned so far are a beginning of the queued messages, and the rest is in the remainder and
in the queue. -/
theorem read_preserves_stream (crypto : Crypto) (h : SSU2Conn) (es : List Reader.Event) :
    let s := exec (step crypto) (start h) es
    s.returned.flatten <+: s.queued.flatten ∧
      s.returned.flatten ++ s.reader.pendingMessage ++ s.reader.queue.items.flatten =
        s.queued.flatten := by
  have hbalanced : (exec (step crypto) (start h) es).Balanced := by
    refine exec_induct (P := fun _ _ => True) ?_ (balanced_start h) (always_iff.mpr ?_)
    · rintro s (event | state | now | ⟨sel, size⟩) hs -
      · exact balanced_conn crypto hs event
      · exact hs
      · exact balanced_cleanup crypto hs now
      · exact balanced_read crypto hs sel size
    · intro pre e post hsplit
      trivial
  refine ⟨?_, hbalanced⟩
  rw [← hbalanced, List.append_assoc]
  exact List.prefix_append _ _

end Reading

/-! ## What is acknowledged and what is delivered -/

/-- The packet numbers that an ACK block acknowledges; they do not depend on the handler. -/
def SSU2Block.ackedNums (block : SSU2Block) : List UInt32 :=
  (ACKHandler.newACKHandler.processACK block).1.toOption.getD []

namespace SSU2Conn

variable {blocks : List SSU2Block} {h : SSU2Conn} {num : UInt32}

theorem notMem_retireACK (hnum : num ∉ h.pendingPackets)
    (block : SSU2Block) : num ∉ (h.retireACK block).pendingPackets := by
  rw [retireACK]
  split_ifs
  · exact fun hmem => hnum (GoMap.mem_foldl_erase.mp hmem).1
  · exact hnum

theorem notMem_foldl_retireACK (hnum : num ∉ h.pendingPackets)
    (blocks : List SSU2Block) : num ∉ (blocks.foldl retireACK h).pendingPackets := by
  induction blocks generalizing h with
  | nil => exact hnum
  | cons block rest ih => exact ih (notMem_retireACK hnum block)

/-- The loop over the ACK blocks takes every acknowledged number out of the pending packets. -/
theorem foldl_retireACK_acked {block : SSU2Block} (hmem : block ∈ blocks)
    (htype : block.type = blockTypeACK) (hnum : num ∈ block.ackedNums)
    (h : SSU2Conn) : num ∉ (blocks.foldl retireACK h).pendingPackets := by
  induction blocks generalizing h with
  | nil => cases hmem
  | cons first rest ih =>
    rw [List.foldl_cons]
    rcases List.mem_cons.mp hmem with rfl | hrest
    · refine notMem_foldl_retireACK ?_ rest
      rw [retireACK, if_pos htype]
      intro hmem'
      refine (GoMap.mem_foldl_erase.mp hmem').2 ?_
      rwa [ACKHandler.processACK_fst h.ackHandler ACKHandler.newACKHandler]
    · exact ih hrest _

structure BlocksDelivered (h h' : SSU2Conn) (now : Time) (blocks : List SSU2Block) : Prop where
  /-- the completed messages are behind those that were in the queue -/
  queued : h'.dataHandler.messageQueue.items =
    h.dataHandler.messageQueue.items ++ h.dataHandler.messages now blocks
  message : ∀ block ∈ blocks, block.type = blockTypeI2NPMessage →
    block.data ∈ h'.dataHandler.messageQueue.items.drop h.dataHandler.messageQueue.items.length
  acked : ∀ block ∈ blocks, block.type = blockTypeACK → ∀ num ∈ block.ackedNums,
    num ∉ h'.pendingPackets

def Delivered (crypto : Crypto) (h : SSU2Conn) (env : SendEnv) (packet : SSU2Packet) : Prop :=
  ∃ blocks, deserializeBlocks packet.payload = .ok blocks ∧
    BlocksDelivered h (h.processInboundPacket crypto env packet).2.2.2 env.now blocks

/-- The packet is made of blocks that are not refused. -/
def Handled (packet : SSU2Packet) : Prop :=
  ∃ blocks, deserializeBlocks packet.payload = .ok blocks ∧ ∀ block ∈ blocks, block.Handled

/-- There is room for the messages that the packet completes. -/
def Fits (h : SSU2Conn) (env : SendEnv) (packet : SSU2Packet) : Prop :=
  ∀ blocks, deserializeBlocks packet.payload = .ok blocks →
    (h.dataHandler.messages env.now blocks).length ≤ h.dataHandler.free

section
variable (crypto : Crypto) (env : SendEnv) {h : SSU2Conn} {packet : SSU2Packet}
  {blocks : List SSU2Block}

/-- What the data handler makes of the blocks of a packet. -/
theorem processDataPacket_of_blocks (d : DataHandler)
    (htype : packet.messageType = messageTypeData)
    (hblocks : deserializeBlocks packet.payload = .ok blocks)
    (hhandled : ∀ block ∈ blocks, block.Handled) :
    (d.processDataPacket env.now packet).2.2.messageQueue.items =
        d.messageQueue.items ++ (d.messages env.now blocks).take d.free ∧
      ((d.messages env.now blocks).length ≤ d.free →
        (d.processDataPacket env.now packet).1 = .ok blocks) := by
  obtain ⟨hitems, hok⟩ := DataHandler.processBlocks_spec env.now hhandled d
  rw [DataHandler.processDataPacket, if_neg (not_not.mpr htype), hblocks]
  dsimp only
  refine ⟨hitems, fun hfits => ?_⟩
  rw [hok.mpr hfits]
  rfl

theorem delivered_iff_fits (haccepts : h.Accepts packet) (hhandled : Handled packet) :
    h.Delivered crypto env packet ↔ h.Fits env packet := by
  obtain ⟨blocks, hblocks, hhandled⟩ := hhandled
  obtain ⟨hprocess, hhandler⟩ := processInboundPacket_of_accepts crypto env haccepts
  obtain ⟨hitems, hok⟩ := processDataPacket_of_blocks env h.dataHandler haccepts.1 hblocks hhandled
  constructor
  · rintro ⟨blocks', hblocks', hdelivered⟩ blocks'' hblocks''
    cases hblocks.symm.trans hblocks'
    cases hblocks.symm.trans hblocks''
    have hqueued := hdelivered.queued
    rw [hhandler, hitems, List.append_cancel_left_eq] at hqueued
    exact List.take_eq_self_iff _ |>.mp hqueued
  · intro hfits
    have hroom := hfits blocks hblocks
    have hqueued : (h.processInboundPacket crypto env packet).2.2.2.dataHandler.messageQueue.items =
        h.dataHandler.messageQueue.items ++ h.dataHandler.messages env.now blocks := by
      rw [hhandler, hitems, List.take_of_length_le hroom]
    refine ⟨blocks, hblocks, hqueued, fun block hmem htype => ?_, fun block hmem htype num hnum =>
      ?_⟩
    · rw [hqueued, List.drop_left]
      exact DataHandler.mem_messages hmem htype ((hhandled block hmem).message htype) _ _
    · have hresult := (acceptDataPacket_spec crypto env (h.insertWindow packet).2 packet).1
      rw [dataHandler_insertWindow, hok hroom] at hresult
      obtain ⟨h', hretires⟩ : ∃ h',
        ((h.insertWindow packet).2.acceptDataPacket crypto env packet).2.2.2
          = blocks.foldl retireACK h' := by grind [acceptDataPacket, processDataPacket]
      rw [hprocess, hretires]
      exact foldl_retireACK_acked hmem htype hnum h'

end
end SSU2Conn

namespace Reading

/-- `Q` holds of the connection and the packet, if the event brings in a Data packet whose number
is recorded for acknowledgement. -/
def ForRecorded (Q : SSU2Conn → SendEnv → SSU2Packet → Prop) (s : Reading) : Reader.Event → Prop
  | .conn (.inbound env packet) =>
    s.reader.conn.Accepts packet → packet.packetNumber > 0 → Q s.reader.conn env packet
  | _ => True

def demo : SSU2Conn := (SSU2Conn.assembleSSU2Conn .newSSU2Config 0).establish [] [] 0

/-- Number 1, with `n` messages of one byte. -/
def burst (n : ℕ) : SSU2Packet :=
  demo.dataPacket 1 ((List.replicate n ⟨blockTypeI2NPMessage, [7]⟩).map SSU2Block.wire).flatten

variable (n : ℕ)

theorem deserializeBlocks_burst :
    deserializeBlocks (burst n).payload =
      .ok (List.replicate n ⟨blockTypeI2NPMessage, [7]⟩) := by
  refine deserializeBlocks_flatten fun block hblock => ?_
  obtain rfl := List.eq_of_mem_replicate hblock
  exact (SSU2Block.validate_eq_ok_iff _).mp rfl

theorem handled_burst : SSU2Conn.Handled (burst n) := by
  refine ⟨_, deserializeBlocks_burst n, fun block hblock => ?_⟩
  obtain rfl := List.eq_of_mem_replicate hblock
  exact ⟨fun _ => List.cons_ne_nil _ _, fun h => absurd h (by decide),
    fun h => absurd h (by decide)⟩

theorem accepts_burst : demo.Accepts (burst n) := by
  have hnumber : (burst n).packetNumber.toNat = 1 := rfl
  have hwaiting : Missing.waiting ∅ = ∅ :=
    Finset.eq_empty_of_forall_notMem fun k hk => Finset.notMem_empty k (Missing.mem_waiting.mp hk).1
  obtain ⟨ready, w', hins, -, -⟩ := (Received.represents_new 256).insert_ok hnumber
    (Finset.notMem_empty 1) (by omega) (Or.inr (by rw [hwaiting]; decide))
  refine ⟨rfl, ?_⟩
  show ((ReceiveWindow.newReceiveWindow 0 256).insert (some (burst n))).1.map (fun _ => ()) = .ok ()
  rw [hins]
  rfl

/-- The queue of the connection has room for 100 messages. -/
theorem fits_burst_iff : demo.Fits .openSocket (burst n) ↔ n ≤ 100 := by
  have hmessages : demo.dataHandler.messages SendEnv.openSocket.now
      (List.replicate n ⟨blockTypeI2NPMessage, [7]⟩) = List.replicate n [7] := by
    rw [DataHandler.messages_of_messages, List.map_replicate]
    intro block hblock
    obtain rfl := List.eq_of_mem_replicate hblock
    exact ⟨rfl, List.cons_ne_nil _ _⟩
  have hfree : demo.dataHandler.free = 100 := rfl
  constructor
  · intro hfits
    have hlen := hfits _ (deserializeBlocks_burst n)
    rwa [hmessages, List.length_replicate, hfree] at hlen
  · intro hn blocks hblocks
    obtain rfl := Except.ok.inj ((deserializeBlocks_burst n).symm.trans hblocks)
    rwa [hmessages, List.length_replicate, hfree]

theorem forRecorded_congr {Q Q' P : SSU2Conn → SendEnv → SSU2Packet → Prop}
    (h : ∀ conn env packet, conn.Accepts packet → P conn env packet →
      (Q conn env packet ↔ Q' conn env packet)) {s : Reading} {e : Reader.Event}
    (hP : s.ForRecorded P e) : s.ForRecorded Q e ↔ s.ForRecorded Q' e := by
  rcases e with event | state | now | ⟨sel, size⟩
  · cases event with
    | inbound env packet =>
      exact forall_congr' fun haccepts => forall_congr' fun hpos =>
        h _ env packet haccepts (hP haccepts hpos)
    | write | writeBlocks | send | keepalive | retransmit | sendToAddress | rekey => exact Iff.rfl
  all_goals exact Iff.rfl

/-- **What was acknowledged was delivered, if there was room for it.** In every run in which the
recorded packets are made of blocks that are not refused, all of them are delivered if and only if
each time the messages of the packet fit the queue. -/
theorem acknowledged_delivered_iff (crypto : Crypto) (h : SSU2Conn) (es : List Reader.Event)
    (hes : Always (step crypto) (ForRecorded fun _ _ packet => SSU2Conn.Handled packet)
      (start h) es) :
    Always (step crypto) (ForRecorded (SSU2Conn.Delivered crypto)) (start h) es ↔
      Always (step crypto) (ForRecorded SSU2Conn.Fits) (start h) es := by
  rw [always_iff] at hes ⊢
  rw [always_iff]
  refine forall_congr' fun pre => forall_congr' fun e => forall_congr' fun post =>
    forall_congr' fun hsplit => ?_
  refine forRecorded_congr (fun conn env packet haccepts hhandled => ?_) (hes pre e post hsplit)
  exact SSU2Conn.delivered_iff_fits crypto env haccepts hhandled

/-- A hundred messages in one packet are delivered. -/
theorem acknowledged_delivered_hundred :
    Always (step .identity) (ForRecorded fun _ _ packet => SSU2Conn.Handled packet) (start demo)
        [.conn (.inbound .openSocket (burst 100))] ∧
      Always (step .identity) (ForRecorded (SSU2Conn.Delivered .identity)) (start demo)
        [.conn (.inbound .openSocket (burst 100))] := by
  have hhandled : Always (step .identity) (ForRecorded fun _ _ packet => SSU2Conn.Handled packet)
      (start demo) [.conn (.inbound .openSocket (burst 100))] :=
    ⟨fun _ _ => handled_burst 100, trivial⟩
  refine ⟨hhandled, (acknowledged_delivered_iff .identity demo _ hhandled).mpr ?_⟩
  exact ⟨fun _ _ => (fits_burst_iff 100).mpr le_rfl, trivial⟩

/-- With one more, the packet is recorded for acknowledgement and its last message is dropped. -/
theorem acknowledged_message_dropped :
    demo.Accepts (burst 101) ∧ (burst 101).packetNumber > 0 ∧ SSU2Conn.Handled (burst 101) ∧
      ¬ Always (step .identity) (ForRecorded (SSU2Conn.Delivered .identity)) (start demo)
        [.conn (.inbound .openSocket (burst 101))] := by
  have haccepts := accepts_burst 101
  refine ⟨haccepts, by decide, handled_burst 101, fun h => ?_⟩
  have hdelivered : demo.Delivered .identity .openSocket (burst 101) := h.1 haccepts (by decide)
  have hfits := (SSU2Conn.delivered_iff_fits .identity .openSocket haccepts
    (handled_burst 101)).mp hdelivered
  exact absurd ((fits_burst_iff 101).mp hfits) (by decide)

end Reading
end GoNoise.SSU2
