import GoNoise.SSU2.Session.Conn
import GoNoise.SSU2.Session.Fragmentation

/-!
# `Write`: message fidelity

A message that fits one block is sent as it is. A longer one is split: the first byte is read as
the I2NP type, and the fragments carry the whole message behind a header of their own.
-/

namespace GoNoise.SSU2

open BigEndian DataHandler SSU2Conn

/-! ## The code -/

/-- The case of the `select` in `writeBlock` that fires. -/
inductive Select
  | enqueued
  | closed
  | deadline
  deriving DecidableEq

namespace SSU2Conn

def validateReadyForIO (h : SSU2Conn) : Except Oops Unit :=
  if h.state ≠ .established then
    .error <| .errorf s!"connection not established: {h.state.toString}"
  else .ok ()

/-- `writeBlock`: the packet that is put in the send queue. -/
def writeBlock (h : SSU2Conn) (sel : Select) (block : SSU2Block) :
    Except Oops SSU2Packet × List Spawn × SSU2Conn :=
  let (packet, spawned, h) := h.newDataPacket
  match serializeBlocks [block] with
  | .error e => (.error (e.wrapf "failed to serialize block"), spawned, h)
  | .ok payload =>
    match sel with
    | .enqueued => (.ok { packet with payload := payload }, spawned, h)
    | .closed => (.error <| .errorf "connection closed", spawned, h)
    | .deadline => (.error <| .errorf "write deadline exceeded", spawned, h)

/-- The loop of `WriteBlocks`: the packets put in the send queue before it ends. `sel i` is the
case that fires for block `i`. -/
def writeBlocksFrom (sel : ℕ → Select) :
    ℕ → SSU2Conn → List SSU2Block → Except Oops Unit × List SSU2Packet × List Spawn × SSU2Conn
  | _, h, [] => (.ok (), [], [], h)
  | i, h, block :: rest =>
    match h.writeBlock (sel i) block with
    | (.error e, spawned, h) => (.error e, [], spawned, h)
    | (.ok packet, spawned, h) =>
      let (r, packets, spawned', h) := writeBlocksFrom sel (i + 1) h rest
      (r, packet :: packets, spawned ++ spawned', h)

def writeBlocks (h : SSU2Conn) (sel : ℕ → Select) (blocks : List SSU2Block) :
    Except Oops Unit × List SSU2Packet × List Spawn × SSU2Conn :=
  match h.validateReadyForIO with
  | .error e => (.error e, [], [], h)
  | .ok () => writeBlocksFrom sel 0 h blocks

/-- The data of a block that fits a packet: the MTU less the IP, UDP and SSU2 headers, the tag and
the block header. -/
def maxBlockData (h : SSU2Conn) : ℤ := h.config.mtu - 80 - 3

/-- `Write`: the length written or the error, and the packets put in the send queue. -/
def write (h : SSU2Conn) (random : Except Oops UInt32) (now : Time) (sel : ℕ → Select) (b : Bytes) :
    Except Oops ℕ × List SSU2Packet × List Spawn × SSU2Conn :=
  match h.validateReadyForIO with
  | .error e => (.error e, [], [], h)
  | .ok () =>
    if (b.length : ℤ) + 3 ≤ h.maxBlockData + 3 then
      match h.writeBlock (sel 0) ⟨blockTypeI2NPMessage, b⟩ with
      | (.error e, spawned, h) => (.error e, [], spawned, h)
      | (.ok packet, spawned, h) => (.ok b.length, [packet], spawned, h)
    else
      match buildI2NPFragmentBlocks random now b h.maxBlockData with
      | .error e => (.error (e.wrapf "failed to build I2NP fragment blocks"), [], [], h)
      | .ok blocks =>
        let (r, packets, spawned, h) := h.writeBlocks sel blocks
        (r.map fun _ => b.length, packets, spawned, h)

end SSU2Conn

def DataHandler.receive (d : DataHandler) (arrivals : List (SSU2Packet × Time)) : DataHandler :=
  arrivals.foldl (fun d a => (d.processDataPacket a.2 a.1).2.2) d

/-! ## One block in one packet -/

variable {b : Bytes} {block : SSU2Block} {blocks : List SSU2Block} {d : DataHandler}
  {packet : SSU2Packet} {packets : List SSU2Packet}

/-- A data packet with one block hands the block to `processBlock`. -/
theorem snd_processDataPacket_of_block (hvalid : block.Valid) (d : DataHandler) (now : Time)
    (htype : packet.messageType = messageTypeData) (hpayload : packet.payload = block.wire) :
    (d.processDataPacket now packet).2 = ((d.countBlock.processBlock now block).2.1.toList,
      (d.countBlock.processBlock now block).2.2) := by
  have hdes : deserializeBlocks packet.payload = .ok [block] := by
    rw [hpayload]
    exact deserializeBlocks_wire hvalid
  rw [processDataPacket, if_neg (not_not.mpr htype), hdes]
  dsimp only
  rw [processBlocks]
  rcases d.countBlock.processBlock now block with ⟨_ | _, callback, d'⟩
  · rfl
  · show (callback.toList ++ [], d') = _
    rw [List.append_nil]

theorem processDataPacket_of_block (hvalid : block.Valid) (d : DataHandler) (now : Time)
    (htype : packet.messageType = messageTypeData) (hpayload : packet.payload = block.wire) :
    (d.processDataPacket now packet).2.2 = (d.countBlock.processBlock now block).2.2 := by
  rw [snd_processDataPacket_of_block hvalid d now htype hpayload]

structure Carries (block : SSU2Block) (packet : SSU2Packet) : Prop where
  messageType : packet.messageType = messageTypeData
  payload : packet.payload = block.wire

theorem writeBlock_of_valid (hvalid : block.Valid) (h : SSU2Conn) (sel : Select) :
    ∃ packet spawned h', Carries block packet ∧ h'.state = h.state ∧
      h.writeBlock sel block =
        (match sel with
          | .enqueued => .ok packet
          | .closed => .error (.errorf "connection closed")
          | .deadline => .error (.errorf "write deadline exceeded"), spawned, h') := by
  have hstate := h.state_nextSendSequence
  rcases hseq : h.nextSendSequence with ⟨pktNum, spawned, h'⟩
  rw [hseq] at hstate
  refine ⟨{ h'.dataPacket pktNum [] with payload := block.wire }, spawned, h', ⟨rfl, rfl⟩, hstate,
    ?_⟩
  rw [writeBlock, newDataPacket, hseq, serializeBlocks_singleton hvalid]
  cases sel <;> rfl

/-- With room in the queue for every block, each block is put in a packet of its own. -/
theorem writeBlocksFrom_enqueued (hvalid : ∀ b ∈ blocks, b.Valid) (i : ℕ) (h : SSU2Conn) :
    ∃ packets spawned h', List.Forall₂ Carries blocks packets ∧
      writeBlocksFrom (fun _ => .enqueued) i h blocks = (.ok (), packets, spawned, h') := by
  induction blocks generalizing i h with
  | nil => exact ⟨[], [], h, .nil, rfl⟩
  | cons block rest ih =>
    rw [List.forall_mem_cons] at hvalid
    obtain ⟨packet, spawned, h₁, hcarries, -, hwrite⟩ :=
      writeBlock_of_valid hvalid.1 h .enqueued
    obtain ⟨packets, spawned', h₂, hall, hrest⟩ := ih hvalid.2 (i + 1) h₁
    refine ⟨packet :: packets, spawned ++ spawned', h₂, .cons hcarries hall, ?_⟩
    rw [writeBlocksFrom, hwrite]
    dsimp only
    rw [hrest]

theorem receive_of_carries (hvalid : ∀ b ∈ blocks, b.Valid)
    (hall : List.Forall₂ Carries blocks packets) (now : Time) (d : DataHandler) :
    d.receive (packets.map fun p => (p, now)) =
      blocks.foldl (fun d b => (d.countBlock.processBlock now b).2.2) d := by
  induction hall generalizing d with
  | nil => rfl
  | cons hc _ ih =>
    rw [List.forall_mem_cons] at hvalid
    rw [List.foldl_cons, ← processDataPacket_of_block hvalid.1 d now hc.messageType hc.payload,
      ← ih hvalid.2]
    rfl

/-! ## A message that fits -/

theorem valid_i2npMessage (h : b.length ≤ maxBlockLength) :
    (⟨blockTypeI2NPMessage, b⟩ : SSU2Block).Valid := by
  refine ⟨h, fun minSize hmin => ?_⟩
  have hnone : blockMinSizes blockTypeI2NPMessage = none := by decide
  rw [hnone] at hmin
  cases hmin

theorem processBlock_i2npMessage (hroom : d.messageQueue.HasRoom) (hb : b.length ≠ 0) (now : Time) :
    (d.processBlock now ⟨blockTypeI2NPMessage, b⟩).2.2.messageQueue.items =
      d.messageQueue.items ++ [b] := by
  obtain ⟨queue, hsend, hitems, -⟩ := Chan.trySend_of_hasRoom hroom b
  have hproc : d.processBlock now ⟨blockTypeI2NPMessage, b⟩ =
      ((d.handleI2NPMessage b).1, none, (d.handleI2NPMessage b).2) := rfl
  rw [hproc, handleI2NPMessage, if_neg hb, hsend]
  exact hitems

theorem receive_write_of_le {h h' : SSU2Conn} {random : Except Oops UInt32} {now : Time}
    {sel : ℕ → Select} {n : ℕ} {spawned : List Spawn} (hb : b.length ≠ 0)
    (hfits : (b.length : ℤ) ≤ h.maxBlockData) (hmax : b.length ≤ maxBlockLength)
    (hwrite : h.write random now sel b = (.ok n, packets, spawned, h'))
    {arrivals : List (SSU2Packet × Time)} (hperm : (arrivals.map Prod.fst).Perm packets)
    (hroom : d.messageQueue.items.length + packets.length ≤ d.messageQueue.capacity) :
    (d.receive arrivals).messageQueue.items = d.messageQueue.items ++ [b] := by
  obtain ⟨packet, spawned₁, h₁, hcarries, -, hblock⟩ :=
    writeBlock_of_valid (valid_i2npMessage hmax) h (sel 0)
  rw [write] at hwrite
  rcases hready : h.validateReadyForIO with e | u
  · rw [hready] at hwrite
    cases hwrite
  rw [hready] at hwrite
  rw [if_pos (by omega), hblock] at hwrite
  cases hsel : sel 0 with
  | closed => grind
  | deadline => grind
  | enqueued =>
    rw [hsel] at hwrite
    cases hwrite
    obtain ⟨⟨p, t⟩, harr, hp⟩ := List.map_eq_singleton_iff.mp (List.perm_singleton.mp hperm)
    have hp : p = packet := hp
    rw [harr, hp]
    have hroom' : d.countBlock.messageQueue.HasRoom := hroom
    show ((d.processDataPacket t packet).2.2).messageQueue.items = _
    rw [processDataPacket_of_block (valid_i2npMessage hmax) d t hcarries.messageType
      hcarries.payload]
    exact processBlock_i2npMessage hroom' hb t

/-! ## A message in fragments -/

inductive IsFragmentOf (id : UInt32) : SSU2Block → Prop
  | first (i2npType : UInt8) (shortExpiration : UInt32) (body : Bytes) :
    IsFragmentOf id ⟨blockTypeFirstFragment,
      i2npType :: (putUint32 id ++ putUint32 shortExpiration) ++ body⟩
  | followOn (fragInfo : UInt8) (body : Bytes) :
    IsFragmentOf id ⟨blockTypeFollowOnFragment, fragInfo :: (putUint32 id ++ body)⟩

/-- Only message `id` is in progress in `d`, and whatever was queued since `d₀` has its ID in bytes
1 to 4. -/
structure OnlyID (id : UInt32) (d₀ d : DataHandler) : Prop where
  sets : ∀ k fs, d.fragments.lookup k = some fs → k = id ∧ fs.messageID = id
  queue : ∃ extra, d.messageQueue.items = d₀.messageQueue.items ++ extra ∧
    ∀ msg ∈ extra, (msg.drop 1).take 4 = putUint32 id

theorem take_drop_message (fs : FragmentSet) :
    (fs.message.drop 1).take 4 = putUint32 fs.messageID := by
  rw [FragmentSet.message, FragmentSet.header, List.cons_append, List.drop_succ_cons,
    List.drop_zero,
    List.append_assoc, take_putUint32_append]

namespace OnlyID

variable {id : UInt32} {d₀ d : DataHandler}

section
variable (h : OnlyID id d₀ d) (now : Time)
include h

theorem insert {fs : FragmentSet} (hid : fs.messageID = id) :
    OnlyID id d₀ { d with fragments := d.fragments.insert id fs } := by
  refine ⟨fun k fs' hk => ?_, h.queue⟩
  by_cases hkid : k = id
  · rw [hkid, AList.lookup_insert] at hk
    exact ⟨hkid, Option.some.inj hk ▸ hid⟩
  · rw [AList.lookup_insert_ne hkid] at hk
    exact h.sets k fs' hk

theorem erase (k₀ : UInt32) : OnlyID id d₀ { d with fragments := d.fragments.erase k₀ } := by
  refine ⟨fun k fs hk => ?_, h.queue⟩
  by_cases hkk : k = k₀
  · rw [hkk, AList.lookup_erase] at hk
    cases hk
  · rw [AList.lookup_erase_ne hkk] at hk
    exact h.sets k fs hk

theorem makeRoom : OnlyID id d₀ d.makeRoom := by
  rw [DataHandler.makeRoom]
  split_ifs
  · rw [DataHandler.evictOldestFragment]
    split
    · exact h
    · exact ⟨(h.erase _).sets, h.queue⟩
  · exact h

theorem reassembleMessage : OnlyID id d₀ (d.reassembleMessage id).2 := by
  rw [DataHandler.reassembleMessage]
  cases hfs : d.fragments.lookup id with
  | none => exact h
  | some fs =>
    dsimp only
    split_ifs
    · exact h
    · exact h
    cases hsend : d.messageQueue.trySend fs.message with
    | none => exact ⟨(h.erase id).sets, h.queue⟩
    | some queue =>
      refine ⟨(h.erase id).sets, ?_⟩
      obtain ⟨extra, hitems, hextra⟩ := h.queue
      refine ⟨extra ++ [fs.message], ?_, fun msg hmsg => ?_⟩
      · rw [Chan.items_of_trySend hsend, hitems, List.append_assoc]
      · rcases List.mem_append.mp hmsg with hmsg | hmsg
        · exact hextra msg hmsg
        · rw [List.mem_singleton.mp hmsg, take_drop_message, (h.sets id fs hfs).2]

theorem storeFirstFragment (i2npType : UInt8) (shortExpiration : UInt32) (body : Bytes) :
    OnlyID id d₀ (d.storeFirstFragment now i2npType id shortExpiration body).2 := by
  rw [DataHandler.storeFirstFragment]
  cases hfs : d.fragments.lookup id with
  | none => exact ⟨(h.makeRoom.insert rfl).sets, h.makeRoom.queue⟩
  | some fs =>
    have hid : (fs.addFirst i2npType shortExpiration body now).messageID = id :=
      (h.sets id fs hfs).2
    have hins := h.insert hid
    dsimp only
    split_ifs
    · exact h
    · exact reassembleMessage ⟨hins.sets, hins.queue⟩
    · exact ⟨hins.sets, hins.queue⟩

theorem findOrCreateSet :
    OnlyID id d₀ (d.findOrCreateSet now id).2 ∧ (d.findOrCreateSet now id).1.messageID = id := by
  rw [DataHandler.findOrCreateSet]
  cases hfs : d.fragments.lookup id with
  | none => exact ⟨h.makeRoom.insert rfl, rfl⟩
  | some fs => exact ⟨h, (h.sets id fs hfs).2⟩

theorem storeFollowOnFragment (fragInfo : UInt8) (body : Bytes) :
    OnlyID id d₀ (d.storeFollowOnFragment now fragInfo id body).2 := by
  obtain ⟨hd, hid⟩ := h.findOrCreateSet now
  rw [DataHandler.storeFollowOnFragment]
  rcases hfind : d.findOrCreateSet now id with ⟨fs, d₁⟩
  rw [hfind] at hd hid
  have hadd : (fs.addFollowOn fragInfo body now).messageID = id := by
    rw [FragmentSet.addFollowOn]
    split_ifs <;> exact hid
  have hins := hd.insert hadd
  dsimp only
  split_ifs
  · exact hd
  · exact reassembleMessage ⟨hins.sets, hins.queue⟩
  · exact ⟨hins.sets, hins.queue⟩

/-- A fragment of the message keeps the property, wherever it comes in the order. -/
theorem processBlock {block : SSU2Block}
    (hblock : IsFragmentOf id block) : OnlyID id d₀ (d.countBlock.processBlock now block).2.2 := by
  have h' : OnlyID id d₀ d.countBlock := ⟨h.sets, h.queue⟩
  cases hblock with
  | first i2npType shortExpiration body =>
    rw [processBlock_firstFragment, handleFirstFragment_append]
    exact h'.storeFirstFragment now i2npType shortExpiration body
  | followOn fragInfo body =>
    rw [processBlock_followOnFragment, handleFollowOnFragment_cons]
    exact h'.storeFollowOnFragment now fragInfo body

end

theorem foldl_processBlock {blocks : List SSU2Block} (hblocks : ∀ b ∈ blocks, IsFragmentOf id b)
    (now : Time) (h : OnlyID id d₀ d) :
    OnlyID id d₀ (blocks.foldl (fun d b => (d.countBlock.processBlock now b).2.2) d) := by
  induction blocks generalizing d with
  | nil => exact h
  | cons b blocks ih =>
    rw [List.forall_mem_cons] at hblocks
    exact ih hblocks.2 (h.processBlock now hblocks.1)

end OnlyID

theorem fragments_of_build {maxBlockData : ℤ} (hmax : 9 < maxBlockData)
    (hle : maxBlockData ≤ maxBlockLength) (messageID : UInt32) (now : Time) (b : Bytes) :
    ∀ block ∈ firstBlock messageID now b maxBlockData ::
        followBlocks messageID (followBodies b maxBlockData),
      IsFragmentOf messageID block ∧ block.Valid := by
  intro block hblock
  have hlen := length_data_le hmax messageID now b block hblock
  have hfirst : blockMinSizes blockTypeFirstFragment = none := by decide
  have hfollow : blockMinSizes blockTypeFollowOnFragment = none := by decide
  rcases List.mem_cons.mp hblock with rfl | hmem
  · refine ⟨.first _ _ _, by omega, fun minSize hmin => ?_⟩
    rw [firstBlock, hfirst] at hmin
    cases hmin
  · obtain ⟨info, body, -, rfl⟩ := mem_followBlocks hmem
    refine ⟨.followOn info body, by omega, fun minSize hmin => ?_⟩
    rw [hfollow] at hmin
    cases hmin

/-! ## Fidelity -/

/-- Message fidelity for `b` at this MTU. Whenever `Write` succeeds, whatever the state of the
connection, the message ID and the time, and its packets reach a data handler in any order while its
queue has room, the handler enqueues `b` and nothing else. -/
def Faithful (b : Bytes) (mtu : ℤ) : Prop :=
  ∀ (h h' : SSU2Conn) (random : Except Oops UInt32) (now : Time) (sel : ℕ → Select) (n : ℕ)
    (packets : List SSU2Packet) (spawned : List Spawn), h.config.mtu = mtu →
    h.write random now sel b = (.ok n, packets, spawned, h') →
    ∀ (d : DataHandler) (arrivals : List (SSU2Packet × Time)),
      (arrivals.map Prod.fst).Perm packets →
      d.messageQueue.items.length + packets.length ≤ d.messageQueue.capacity →
      (d.receive arrivals).messageQueue.items = d.messageQueue.items ++ [b]

/-- A long message on an established connection is written as fragments. -/
theorem write_of_lt {h : SSU2Conn} (hstate : h.state = .established)
    (hlong : h.maxBlockData < b.length) (hmax : 9 < h.maxBlockData)
    (hle : h.maxBlockData ≤ maxBlockLength) (messageID : UInt32) (now : Time) :
    ∃ packets spawned h',
      List.Forall₂ Carries (firstBlock messageID now b h.maxBlockData ::
        followBlocks messageID (followBodies b h.maxBlockData)) packets ∧
      h.write (.ok messageID) now (fun _ => .enqueued) b =
        (.ok b.length, packets, spawned, h') := by
  have hready : h.validateReadyForIO = .ok () := if_neg (not_not.mpr hstate)
  have hvalid := fun block hblock =>
    (fragments_of_build hmax hle messageID now b block hblock).2
  obtain ⟨packets, spawned, h', hcarries, hwrite⟩ := writeBlocksFrom_enqueued hvalid 0 h
  refine ⟨packets, spawned, h', hcarries, ?_⟩
  rw [write, hready]
  rw [if_neg (by omega), buildI2NPFragmentBlocks_eq hmax]
  dsimp only
  rw [writeBlocks, hready]
  rw [hwrite]
  rfl

/-- A message that is split does not arrive as it was written. The message ID drawn need only
differ from the one in the message's own header. -/
theorem not_faithful_of_lt {mtu : ℤ} (hmin : 1280 ≤ mtu) (hmax : mtu ≤ 1500)
    (hlong : mtu - 83 < b.length) : ¬ Faithful b mtu := by
  intro hfaithful
  set h := (assembleSSU2Conn { SSU2Config.newSSU2Config with mtu := mtu } 0).establish
    [] [] 0 with hh
  have hdata : h.maxBlockData = mtu - 80 - 3 := rfl
  set own := uint32 ((b.drop 1).take 4) with hown
  have hid : (b.drop 1).take 4 ≠ putUint32 (own + 1) := by
    intro heq
    have hsame : own = own + 1 := by
      rw [heq, uint32_putUint32] at hown
      exact hown
    have hnat := congrArg UInt32.toNat hsame
    rw [UInt32.toNat_add, UInt32.toNat_one] at hnat
    omega
  have hle : h.maxBlockData ≤ (maxBlockLength : ℤ) := by grind [maxBlockLength]
  obtain ⟨packets, spawned, h', hcarries, hwrite⟩ :=
    write_of_lt (h := h) rfl (by omega : h.maxBlockData < b.length) (by omega) hle (own + 1) 0
  have hblocks := fragments_of_build (by omega : 9 < h.maxBlockData) hle (own + 1) 0 b
  set d : DataHandler := newDataHandler (packets.length + 1) with hd
  have hcap : d.messageQueue.capacity = packets.length + 1 := by
    have hpos : ¬ ((packets.length : ℤ) + 1 ≤ 0) := by omega
    show (if (packets.length : ℤ) + 1 ≤ 0 then 100 else ((packets.length : ℤ) + 1).toNat) = _
    rw [if_neg hpos]
    omega
  have hperm : ((packets.map fun p => (p, (0 : Time))).map Prod.fst).Perm packets := by
    rw [List.map_map]
    exact List.Perm.of_eq (List.map_id packets)
  have hroom : d.messageQueue.items.length + packets.length ≤ d.messageQueue.capacity := by
    rw [hcap]
    show 0 + packets.length ≤ packets.length + 1
    omega
  have hqueue := hfaithful h h' (.ok (own + 1)) 0 (fun _ => .enqueued) _ packets spawned rfl hwrite
    d
    _ hperm hroom
  rw [receive_of_carries (fun block hblock => (hblocks block hblock).2) hcarries] at hqueue
  have hstart : OnlyID (own + 1) d d := by
    refine ⟨fun k fs hk => ?_, [], (List.append_nil _).symm, List.forall_mem_nil _⟩
    have hnone : d.fragments.lookup k = none := rfl
    rw [hnone] at hk
    cases hk
  obtain ⟨extra, hitems, hextra⟩ :=
    (hstart.foldl_processBlock (fun block hblock => (hblocks block hblock).1) 0).queue
  rw [hitems] at hqueue
  have hb : b ∈ extra := by grind [List.append_cancel_left]
  exact hid (hextra b hb)

/-- **Fidelity, exactly.** For every message with a header and every MTU that the configuration
accepts, what is written is what arrives if and only if the message fits one block. -/
theorem write_faithful_iff (b : Bytes) (mtu : ℤ) (hb : 9 ≤ b.length) (hmin : 1280 ≤ mtu)
    (hmax : mtu ≤ 1500) : Faithful b mtu ↔ (b.length : ℤ) ≤ mtu - 83 := by
  constructor
  · intro hfaithful
    by_contra hlong
    exact not_faithful_of_lt hmin hmax (by omega) hfaithful
  · intro hfits h h' random now sel n packets spawned hmtu hwrite d arrivals hperm hroom
    have hdata : h.maxBlockData = mtu - 80 - 3 := by rw [maxBlockData, hmtu]
    have hlen : b.length ≤ maxBlockLength := by
      unfold maxBlockLength
      omega
    exact receive_write_of_le (by omega) (by omega) hlen hwrite hperm hroom

/-- A header and a body of three bytes at the default MTU. -/
theorem write_faithful_body : Faithful [1, 0, 0, 0, 7, 0, 0, 0, 9, 4, 5, 6] 1280 :=
  (write_faithful_iff [1, 0, 0, 0, 7, 0, 0, 0, 9, 4, 5, 6] 1280 (by decide) (by decide)
    (by decide)).mpr (by decide)

/-- One byte more than a block holds at the default MTU. -/
theorem write_not_faithful : ¬ Faithful (List.replicate 1198 7) 1280 :=
  not_faithful_of_lt (by decide) (by decide) (by rw [List.length_replicate]; decide)

end GoNoise.SSU2
