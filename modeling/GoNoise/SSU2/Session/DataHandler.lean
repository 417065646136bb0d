import GoNoise.Library.Assoc
import GoNoise.Library.Chan
import GoNoise.SSU2.Wire.Block
import GoNoise.SSU2.Wire.Packet

/-!
# `ssu2/session`: the data handler

`data_handler.go`, `fragment_assembler.go` and `i2np_handler.go`: a data packet is split into
blocks; I2NP messages go to the message queue, fragments are collected in a set for each message ID,
and every other block is passed to the callback for its type.
-/

namespace GoNoise.SSU2

open BigEndian

/-! ## State -/

/-- A message being reassembled. The number of the last fragment comes from seven bits, which is
why the loops over it end. -/
structure FragmentSet where
  messageID : UInt32
  i2npType : UInt8
  shortExpiration : UInt32
  fragments : GoMap UInt8 Bytes
  receivedSize : UInt32
  hasLast : Bool
  hasFirst : Bool
  lastFragNum : UInt8
  createdAt : Time
  lastUpdate : Time
  lastFragNum_le : lastFragNum.toNat ≤ 127

structure DataHandlerStats where
  messagesReceived : UInt64 := 0
  fragmentsReceived : UInt64 := 0
  messagesReassembled : UInt64 := 0
  messagesDropped : UInt64 := 0
  blocksProcessed : UInt64 := 0
  unknownBlocks : UInt64 := 0
  deriving DecidableEq

/-- `DataHandler`, without the callbacks, which are returned as requests. -/
structure DataHandler where
  messageQueue : Chan Bytes
  fragments : GoMap UInt32 FragmentSet
  stats : DataHandlerStats
  fragmentTimeout : Duration

/-- A callback that a block asks for, with the values passed to it. -/
inductive Callback
  | onTermination (validDataReceived : UInt64) (reason : UInt8) (additionalData : Bytes)
  | onNewToken (token : Bytes)
  | onNextNonce (newNonce : UInt64)
  | onFirstPacketNumber (packetNumber : UInt32)
  | onCongestion (flags : UInt8)
  | onDateTime (timestamp : UInt32)
  /-- a callback that gets the block or its data as it is -/
  | onBlock (block : SSU2Block)
  /-- a block that is decoded and whose signature is checked before its callback -/
  | onSigned (block : SSU2Block)
  deriving DecidableEq

def maxFragmentsPerConn : ℕ := 512

namespace DataHandler

def newDataHandler (queueSize : ℤ) : DataHandler :=
  let queueSize := if queueSize ≤ 0 then 100 else queueSize.toNat
  ⟨.make queueSize, ∅, {}, 10000 * millisecond⟩

/-- `incrementStat(&h.stats.MessagesDropped)` -/
def countDropped (h : DataHandler) : DataHandler :=
  { h with stats := { h.stats with messagesDropped := h.stats.messagesDropped + 1 } }

/-- `incrementStat(&h.stats.FragmentsReceived)` -/
def countFragment (h : DataHandler) : DataHandler :=
  { h with stats := { h.stats with fragmentsReceived := h.stats.fragmentsReceived + 1 } }

/-- `incrementStat(&h.stats.BlocksProcessed)` -/
def countBlock (h : DataHandler) : DataHandler :=
  { h with stats := { h.stats with blocksProcessed := h.stats.blocksProcessed + 1 } }

/-- `incrementStat(&h.stats.UnknownBlocks)` -/
def countUnknown (h : DataHandler) : DataHandler :=
  { h with stats := { h.stats with unknownBlocks := h.stats.unknownBlocks + 1 } }

/-! ## Complete messages -/

def handleI2NPMessage (h : DataHandler) (data : Bytes) : Except Oops Unit × DataHandler :=
  if data.length = 0 then (.error <| .errorf "I2NP message block is empty", h.countDropped)
  else
    match h.messageQueue.trySend data with
    | some queue =>
      (.ok (), { h with
        messageQueue := queue
        stats := { h.stats with messagesReceived := h.stats.messagesReceived + 1 } })
    | none => (.error <| .errorf "message queue full, dropping message", h.countDropped)

/-! ## Reassembly -/

end DataHandler

namespace FragmentSet

def fragNums (fs : FragmentSet) : List UInt8 :=
  (List.range (fs.lastFragNum.toNat + 1)).map UInt8.ofNat

/-- Type, message ID and expiration: the short header that is put in front of the bodies. -/
def header (fs : FragmentSet) : Bytes :=
  fs.i2npType :: (putUint32 fs.messageID ++ putUint32 fs.shortExpiration)

/-- The header and the bodies in order. -/
def message (fs : FragmentSet) : Bytes :=
  fs.header ++ fs.fragNums.flatMap fun i => (fs.fragments.lookup i).getD []

def early (messageID : UInt32) (now : Time) : FragmentSet :=
  ⟨messageID, 0, 0, ∅, 0, false, false, 0, now, now, by decide⟩

def ofFirst (i2npType : UInt8) (messageID shortExpiration : UInt32) (fragmentData : Bytes)
    (now : Time) : FragmentSet :=
  ⟨messageID, i2npType, shortExpiration, (∅ : GoMap UInt8 Bytes).insert 0 fragmentData,
    UInt32.ofNat fragmentData.length, false, true, 0, now, now, by decide⟩

/-- A first fragment that comes after a follow-on fragment. Bytes already counted for fragment 0
are taken off first. -/
def addFirst (fs : FragmentSet) (i2npType : UInt8) (shortExpiration : UInt32) (fragmentData : Bytes)
    (now : Time) : FragmentSet :=
  let receivedSize :=
    match fs.fragments.lookup 0 with
    | some oldFrag => fs.receivedSize - UInt32.ofNat oldFrag.length
    | none => fs.receivedSize
  { fs with
    i2npType := i2npType
    shortExpiration := shortExpiration
    hasFirst := true
    fragments := fs.fragments.insert 0 fragmentData
    receivedSize := receivedSize + UInt32.ofNat fragmentData.length
    lastUpdate := now }

/-- The fragment number in a follow-on fragment's first byte. -/
def fragNumOf (fragInfo : UInt8) : UInt8 := fragInfo >>> 1

theorem fragNumOf_le (fragInfo : UInt8) : (fragNumOf fragInfo).toNat ≤ 127 := by
  have hlt := fragInfo.toNat_lt
  rw [fragNumOf, UInt8.toNat_shiftRight]
  show fragInfo.toNat >>> 1 ≤ 127
  rw [Nat.shiftRight_eq_div_pow]
  omega

def addFollowOn (fs : FragmentSet) (fragInfo : UInt8) (fragmentData : Bytes) (now : Time) :
    FragmentSet :=
  let fs := { fs with
    fragments := fs.fragments.insert (fragNumOf fragInfo) fragmentData
    receivedSize := fs.receivedSize + UInt32.ofNat fragmentData.length
    lastUpdate := now }
  if fragInfo &&& 1 ≠ 0 then
    { fs with
      hasLast := true, lastFragNum := fragNumOf fragInfo, lastFragNum_le := fragNumOf_le fragInfo }
  else fs

end FragmentSet

namespace DataHandler

def cleanupStaleFragments (h : DataHandler) (now : Time) : DataHandler :=
  (h.fragments.entries.map fun e => (e.1, e.2)).foldl (fun h (id, fs) =>
    if now - fs.lastUpdate > h.fragmentTimeout then
      { h with fragments := h.fragments.erase id }.countDropped
    else h) h

/-- The loop of `evictOldestFragment`: the ID and the time of the oldest set met so far. The order
of the entries stands for Go's iteration order. -/
def oldestFragment : Option (UInt32 × Time) → List (UInt32 × FragmentSet) → Option (UInt32 × Time)
  | oldest, [] => oldest
  | none, (id, fs) :: rest => oldestFragment (some (id, fs.createdAt)) rest
  | some (oldestID, oldestTime), (id, fs) :: rest =>
    if fs.createdAt < oldestTime then oldestFragment (some (id, fs.createdAt)) rest
    else oldestFragment (some (oldestID, oldestTime)) rest

def evictOldestFragment (h : DataHandler) : DataHandler :=
  match oldestFragment none (h.fragments.entries.map fun e => (e.1, e.2)) with
  | none => h
  | some (oldestID, _) => { h with fragments := h.fragments.erase oldestID }.countDropped

/-- The capacity check before a set is made. -/
def makeRoom (h : DataHandler) : DataHandler :=
  if h.fragments.size ≥ maxFragmentsPerConn then h.evictOldestFragment else h

def reassembleMessage (h : DataHandler) (messageID : UInt32) : Except Oops Unit × DataHandler :=
  match h.fragments.lookup messageID with
  | none =>
    (.error <| .errorf s!"fragment set not found for message ID {messageID.toNat}", h)
  | some fragmentSet =>
    if !fragmentSet.hasFirst || !fragmentSet.hasLast then (.ok (), h)
    else if fragmentSet.fragNums.any fun i => i ∉ fragmentSet.fragments then (.ok (), h)
    else
      match h.messageQueue.trySend fragmentSet.message with
      | some queue =>
        (.ok (), { h with
          messageQueue := queue
          fragments := h.fragments.erase messageID
          stats := { h.stats with messagesReassembled := h.stats.messagesReassembled + 1 } })
      | none =>
        (.error <| .errorf "message queue full, dropping reassembled message",
          { h with fragments := h.fragments.erase messageID }.countDropped)

/-- The part of `handleFirstFragment` after the header is parsed. -/
def storeFirstFragment (h : DataHandler) (now : Time) (i2npType : UInt8)
    (messageID shortExpiration : UInt32) (fragmentData : Bytes) : Except Oops Unit × DataHandler :=
  match h.fragments.lookup messageID with
  | some existing =>
    -- a set made by an early follow-on fragment, or a duplicate
    if existing.hasFirst then (.ok (), h)
    else
      let existing := existing.addFirst i2npType shortExpiration fragmentData now
      let h := { h with fragments := h.fragments.insert messageID existing }.countFragment
      if existing.hasLast then h.reassembleMessage messageID else (.ok (), h)
  | none =>
    let h := h.makeRoom
    let fragmentSet := FragmentSet.ofFirst i2npType messageID shortExpiration fragmentData now
    (.ok (), { h with fragments := h.fragments.insert messageID fragmentSet }.countFragment)

def handleFirstFragment (h : DataHandler) (now : Time) (data : Bytes) :
    Except Oops Unit × DataHandler :=
  if data.length < 9 then
    (.error <| .errorf s!"first fragment too short: {data.length} bytes, need at least 9",
      h.countDropped)
  else
    h.storeFirstFragment now (data.getD 0 0) (uint32 ((data.drop 1).take 4))
      (uint32 ((data.drop 5).take 4)) (data.drop 9)

/-- The set a follow-on fragment goes to, which is made if there is none. -/
def findOrCreateSet (h : DataHandler) (now : Time) (messageID : UInt32) :
    FragmentSet × DataHandler :=
  match h.fragments.lookup messageID with
  | some fragmentSet => (fragmentSet, h)
  | none =>
    let h := h.makeRoom
    let fragmentSet := FragmentSet.early messageID now
    (fragmentSet, { h with fragments := h.fragments.insert messageID fragmentSet })

/-- The part of `handleFollowOnFragment` after the header is parsed. -/
def storeFollowOnFragment (h : DataHandler) (now : Time) (fragInfo : UInt8) (messageID : UInt32)
    (fragmentData : Bytes) : Except Oops Unit × DataHandler :=
  let (fragmentSet, h) := h.findOrCreateSet now messageID
  -- a duplicate is ignored, with its last flag
  if FragmentSet.fragNumOf fragInfo ∈ fragmentSet.fragments then (.ok (), h)
  else
    let fragmentSet := fragmentSet.addFollowOn fragInfo fragmentData now
    let h := { h with fragments := h.fragments.insert messageID fragmentSet }.countFragment
    if fragmentSet.hasFirst && fragmentSet.hasLast then h.reassembleMessage messageID
    else (.ok (), h)

def handleFollowOnFragment (h : DataHandler) (now : Time) (data : Bytes) :
    Except Oops Unit × DataHandler :=
  if data.length < 5 then
    (.error <| .errorf s!"follow-on fragment too short: {data.length} bytes, need at least 5",
      h.countDropped)
  else
    h.storeFollowOnFragment now (data.getD 0 0) (uint32 ((data.drop 1).take 4)) (data.drop 5)

/-! ## Dispatch -/

/-- `dispatchNonCriticalBlock`: the callback the block asks for, if it is long enough for its type.
An error is only logged. -/
def dispatchNonCriticalBlock (h : DataHandler) (block : SSU2Block) :
    Option Callback × DataHandler :=
  let data := block.data
  if block.type = blockTypeTermination then
    (if data.length < 9 then none
      else some (.onTermination (uint64 (data.take 8)) (data.getD 8 0) (data.drop 9)), h)
  else if block.type = blockTypeNewToken then
    (if data.length < 12 then none else some (.onNewToken data), h)
  else if block.type = blockTypeRelayRequest ∨ block.type = blockTypeRelayResponse ∨
      block.type = blockTypeRelayIntro ∨ block.type = blockTypePeerTest then
    (some (.onSigned block), h)
  else if block.type = blockTypeRelayTagRequest ∨ block.type = blockTypeRelayTag ∨
      block.type = blockTypePathChallenge ∨ block.type = blockTypePathResponse ∨
      block.type = blockTypeOptions ∨ block.type = blockTypeRouterInfo ∨
      block.type = blockTypeAddress ∨ block.type = blockTypeACK then
    (some (.onBlock block), h)
  else if block.type = blockTypeDateTime then
    (if data.length < 4 then none else some (.onDateTime (uint32 (data.take 4))), h)
  else if block.type = blockTypeNextNonce then
    (if data.length < 8 then none else some (.onNextNonce (uint64 (data.take 8))), h)
  else if block.type = blockTypeFirstPacketNumber then
    (if data.length < 4 then none else some (.onFirstPacketNumber (uint32 (data.take 4))), h)
  else if block.type = blockTypeCongestion then
    (if data.length < 1 then none else some (.onCongestion (data.getD 0 0)), h)
  else (none, h.countUnknown)

/-- `processBlock`: only the errors of message and fragment blocks are returned. -/
def processBlock (h : DataHandler) (now : Time) (block : SSU2Block) :
    Except Oops Unit × Option Callback × DataHandler :=
  if block.type = blockTypeI2NPMessage then
    let (r, h) := h.handleI2NPMessage block.data
    (r, none, h)
  else if block.type = blockTypeFirstFragment then
    let (r, h) := h.handleFirstFragment now block.data
    (r, none, h)
  else if block.type = blockTypeFollowOnFragment then
    let (r, h) := h.handleFollowOnFragment now block.data
    (r, none, h)
  else if block.type = blockTypePadding then (.ok (), none, h)
  else (.ok (), h.dispatchNonCriticalBlock block)

/-- The loop over the blocks: it ends at the first error. The callbacks are collected: they act on
the connection and not on the handler. -/
def processBlocks (h : DataHandler) (now : Time) :
    List SSU2Block → Except Oops Unit × List Callback × DataHandler
  | [] => (.ok (), [], h)
  | block :: rest =>
    match h.countBlock.processBlock now block with
    | (.error e, callback, h) => (.error e, callback.toList, h)
    | (.ok (), callback, h) =>
      let (r, callbacks, h) := processBlocks h now rest
      (r, callback.toList ++ callbacks, h)

/-- `ProcessDataPacket`: the blocks, or the error. A wrong order of the blocks is only logged. -/
def processDataPacket (h : DataHandler) (now : Time) (packet : SSU2Packet) :
    Except Oops (List SSU2Block) × List Callback × DataHandler :=
  if packet.messageType ≠ messageTypeData then
    (.error <| .errorf <| s!"expected Data packet (type {messageTypeData.toNat}), " ++
      s!"got type {packet.messageType.toNat}", [], h)
  else
    match deserializeBlocks packet.payload with
    | .error e =>
      (.error (e.wrapf "failed to deserialize blocks from Data packet"), [], h.countDropped)
    | .ok blocks =>
      let (r, callbacks, h) := h.processBlocks now blocks
      (r.map fun _ => blocks, callbacks, h)

end DataHandler

/-! ## Which block asks for which callback -/

def SignedType (block : SSU2Block) : Prop :=
  block.type = blockTypeRelayRequest ∨ block.type = blockTypeRelayResponse ∨
    block.type = blockTypeRelayIntro ∨ block.type = blockTypePeerTest

def Callback.AskedBy (block : SSU2Block) : Callback → Prop
  | .onNextNonce _ => block.type = blockTypeNextNonce
  | .onSigned b => b = block ∧ SignedType block
  | _ => True

theorem DataHandler.askedBy_processBlock (d : DataHandler) (now : Time) (block : SSU2Block) :
    ∀ c ∈ (d.processBlock now block).2.1, c.AskedBy block := by
  -- the two dispatchers are chains of `if`, and each answer is a callback or none
  have hite : ∀ {P : Prop} [Decidable P] {a b : Option Callback × DataHandler},
      (P → ∀ c ∈ a.1, c.AskedBy block) → (¬ P → ∀ c ∈ b.1, c.AskedBy block) →
        ∀ c ∈ (if P then a else b).1, c.AskedBy block := by
    intro P _ a b ha hb
    split
    · exact ha ‹_›
    · exact hb ‹_›
  have hsome : ∀ {P : Prop} [Decidable P] {c' : Callback}, c'.AskedBy block →
      ∀ c ∈ (if P then none else some c'), c.AskedBy block := by
    intro P _ c' hc' c hc
    split at hc
    · cases hc
    · obtain rfl := Option.some.inj hc
      exact hc'
  have hone : ∀ {c' : Callback}, c'.AskedBy block → ∀ c ∈ some c', c.AskedBy block := by
    rintro c' hc' c ⟨⟩
    exact hc'
  have hdispatch : ∀ c ∈ (d.dispatchNonCriticalBlock block).1, c.AskedBy block := by
    rw [dispatchNonCriticalBlock]
    refine hite (fun _ => hsome trivial) fun _ => ?_
    refine hite (fun _ => hsome trivial) fun _ => ?_
    refine hite (fun htype => hone ⟨rfl, htype⟩) fun _ => ?_
    refine hite (fun _ => hone trivial) fun _ => ?_
    refine hite (fun _ => hsome trivial) fun _ => ?_
    refine hite (fun htype => hsome htype) fun _ => ?_
    refine hite (fun _ => hsome trivial) fun _ => ?_
    refine hite (fun _ => hsome trivial) fun _ c hc => ?_
    cases hc
  rw [processBlock]
  split
  · nofun
  · split
    · nofun
    · split
      · nofun
      · split
        · nofun
        · exact hdispatch

end GoNoise.SSU2
