import GoNoise.SSU2.Session.DataHandler

/-!
# What blocks put in the message queue

A block completes at most one message: an I2NP message block its own data, a fragment block the
message whose last missing part it brings. The message goes to the queue if there is room;
otherwise it is dropped and the loop over the blocks of the packet ends.

Which message a block completes is told by the fragments that are there with it: the first, the last
and every number between. It does not depend on the queue, so the handler is compared with a copy of
it that has an empty queue (`fresh`).
-/

namespace GoNoise.SSU2

open BigEndian

/-- A block that is not refused: a message is not empty, and a fragment has its header. -/
structure SSU2Block.Handled (block : SSU2Block) : Prop where
  message : block.type = blockTypeI2NPMessage → block.data ≠ []
  first : block.type = blockTypeFirstFragment → 9 ≤ block.data.length
  followOn : block.type = blockTypeFollowOnFragment → 5 ≤ block.data.length

/-- The message of a set that has the first fragment, the last one and every number between. -/
def FragmentSet.whole (fs : FragmentSet) : Option Bytes :=
  if fs.hasFirst && fs.hasLast && fs.fragNums.all (· ∈ fs.fragments) then some fs.message
  else none

theorem FragmentSet.whole_of_missing {fs : FragmentSet} (h : (fs.hasFirst && fs.hasLast) = false) :
    fs.whole = none := by
  rw [FragmentSet.whole, h]
  rfl

namespace DataHandler

def fresh (d : DataHandler) : DataHandler := { d with messageQueue := .make 1 }

/-- `d₀` has an empty queue with room for one message, and the fragments of `d`. -/
structure Twin (d d₀ : DataHandler) : Prop where
  queue : d₀.messageQueue = .make 1
  fragments : d₀.fragments = d.fragments

theorem twin_fresh (d : DataHandler) : Twin d d.fresh := ⟨rfl, rfl⟩

/-- How work on the queue of `d` ends, with result `r`, next to the same work on an empty queue,
with result `r₀`: no message is completed, or one that is queued, or one that is dropped. -/
inductive Queues (d : DataHandler) (r r₀ : Except Oops Unit × DataHandler) : Prop
  | none (items : r₀.2.messageQueue.items = []) (result : r.1 = r₀.1)
      (queue : r.2.messageQueue = d.messageQueue) (fragments : r₀.2.fragments = r.2.fragments)
  | queued (m : Bytes) (room : d.messageQueue.HasRoom) (items : r₀.2.messageQueue.items = [m])
      (ok₀ : r₀.1 = .ok ()) (ok : r.1 = .ok ())
      (queue : r.2.messageQueue.items = d.messageQueue.items ++ [m])
      (capacity : r.2.messageQueue.capacity = d.messageQueue.capacity)
      (fragments : r₀.2.fragments = r.2.fragments)
  | dropped (m : Bytes) (full : ¬ d.messageQueue.HasRoom) (items : r₀.2.messageQueue.items = [m])
      (ok₀ : r₀.1 = .ok ()) (e : Oops) (error : r.1 = .error e)
      (queue : r.2.messageQueue = d.messageQueue) (fragments : r₀.2.fragments = r.2.fragments)

variable {d d₀ : DataHandler} {block : SSU2Block} {blocks : List SSU2Block} (now : Time)

theorem make_trySend (m : Bytes) : ∃ c, (Chan.make 1).trySend m = some c ∧ c.items = [m] := by
  obtain ⟨c, hc, hitems, -⟩ := Chan.trySend_of_hasRoom (c := (Chan.make 1 : Chan Bytes))
    Nat.zero_lt_one m
  exact ⟨c, hc, hitems⟩

section
variable (ht : Twin d d₀) (messageID : UInt32) (fragmentSet : FragmentSet)
include ht

theorem handleI2NPMessage_queues (data : Bytes) :
    Queues d (d.handleI2NPMessage data) (d₀.handleI2NPMessage data) := by
  obtain ⟨c₀, hc₀, hitems₀⟩ := make_trySend data
  rw [handleI2NPMessage, handleI2NPMessage, ht.queue, hc₀]
  split_ifs with hempty
  · refine .none ?_ rfl rfl ht.fragments
    show d₀.messageQueue.items = []
    rw [ht.queue]
    rfl
  · by_cases hroom : d.messageQueue.HasRoom
    · obtain ⟨c, hc, hitems, hcap⟩ := Chan.trySend_of_hasRoom hroom data
      rw [hc]
      exact .queued data hroom hitems₀ rfl rfl hitems hcap ht.fragments
    · rw [Chan.trySend_of_not_hasRoom hroom]
      exact .dropped data hroom hitems₀ rfl _ rfl rfl ht.fragments

theorem reassembleMessage_queues :
    Queues d (d.reassembleMessage messageID) (d₀.reassembleMessage messageID) := by
  have hnil : d₀.messageQueue.items = [] := by rw [ht.queue]; rfl
  rw [reassembleMessage, reassembleMessage, ht.fragments]
  cases d.fragments.lookup messageID with
  | none => exact .none hnil rfl rfl ht.fragments
  | some fragmentSet =>
    obtain ⟨c₀, hc₀, hitems₀⟩ := make_trySend fragmentSet.message
    dsimp only
    split_ifs
    · exact .none hnil rfl rfl ht.fragments
    · exact .none hnil rfl rfl ht.fragments
    · rw [ht.queue, hc₀]
      by_cases hroom : d.messageQueue.HasRoom
      · obtain ⟨c, hc, hitems, hcap⟩ := Chan.trySend_of_hasRoom hroom fragmentSet.message
        rw [hc]
        exact .queued _ hroom hitems₀ rfl rfl hitems hcap rfl
      · rw [Chan.trySend_of_not_hasRoom hroom]
        exact .dropped _ hroom hitems₀ rfl _ rfl rfl rfl

theorem twin_makeRoom : Twin d.makeRoom d₀.makeRoom ∧ d.makeRoom.messageQueue = d.messageQueue := by
  rw [makeRoom, makeRoom, evictOldestFragment, evictOldestFragment, ht.fragments]
  split_ifs
  · cases oldestFragment none (d.fragments.entries.map fun e => (e.1, e.2)) with
    | none => exact ⟨ht, rfl⟩
    | some oldest => exact ⟨⟨ht.queue, rfl⟩, rfl⟩
  · exact ⟨ht, rfl⟩

theorem twin_insert_count :
    Twin (countFragment { d with fragments := d.fragments.insert messageID fragmentSet })
      (countFragment { d₀ with fragments := d₀.fragments.insert messageID fragmentSet }) :=
  ⟨ht.queue, by rw [countFragment, countFragment, ht.fragments]⟩

theorem twin_countDropped : Twin d.countDropped d₀.countDropped :=
  ⟨ht.queue, ht.fragments⟩

end

theorem Queues.of_twin {d' d₀' : DataHandler} (ht : Twin d' d₀')
    (hqueue : d'.messageQueue = d.messageQueue) (r : Except Oops Unit) :
    Queues d (r, d') (r, d₀') :=
  .none (by rw [ht.queue]; rfl) rfl hqueue ht.fragments

/-- The queue of `d` may be read off a handler with the same queue. -/
theorem Queues.congr {d' : DataHandler} {r r₀ : Except Oops Unit × DataHandler}
    (hqueue : d'.messageQueue = d.messageQueue) (h : Queues d' r r₀) : Queues d r r₀ := by
  cases h with
  | none items result queue fragments => exact .none items result (queue.trans hqueue) fragments
  | queued m room items ok₀ ok queue capacity fragments =>
    rw [hqueue] at room queue capacity
    exact .queued m room items ok₀ ok queue capacity fragments
  | dropped m full items ok₀ e error queue fragments =>
    rw [hqueue] at full queue
    exact .dropped m full items ok₀ e error queue fragments

theorem storeFirstFragment_queues (ht : Twin d d₀) (now : Time) (i2npType : UInt8)
    (messageID shortExpiration : UInt32) (fragmentData : Bytes) :
    Queues d (d.storeFirstFragment now i2npType messageID shortExpiration fragmentData)
      (d₀.storeFirstFragment now i2npType messageID shortExpiration fragmentData) := by
  have hlookup : d₀.fragments.lookup messageID = d.fragments.lookup messageID := by
    rw [ht.fragments]
  rw [storeFirstFragment, storeFirstFragment, hlookup]
  cases d.fragments.lookup messageID with
  | none =>
    obtain ⟨hroom, hqueue⟩ := twin_makeRoom ht
    exact .of_twin (twin_insert_count hroom _ _) hqueue _
  | some existing =>
    dsimp only
    split_ifs
    · exact .of_twin ht rfl _
    · refine .congr ?_ (reassembleMessage_queues (twin_insert_count ht _ _) messageID)
      rfl
    · refine .of_twin (twin_insert_count ht _ _) ?_ _
      rfl

theorem findOrCreateSet_twin (ht : Twin d d₀) (now : Time) (messageID : UInt32) :
    (d₀.findOrCreateSet now messageID).1 = (d.findOrCreateSet now messageID).1 ∧
      Twin (d.findOrCreateSet now messageID).2 (d₀.findOrCreateSet now messageID).2 ∧
      (d.findOrCreateSet now messageID).2.messageQueue = d.messageQueue := by
  rw [findOrCreateSet, findOrCreateSet, ht.fragments]
  cases d.fragments.lookup messageID with
  | none =>
    obtain ⟨hroom, hqueue⟩ := twin_makeRoom ht
    exact ⟨rfl, ⟨hroom.queue, by dsimp only; rw [hroom.fragments]⟩, hqueue⟩
  | some fragmentSet => exact ⟨rfl, ht, rfl⟩

theorem storeFollowOnFragment_queues (ht : Twin d d₀) (now : Time) (fragInfo : UInt8)
    (messageID : UInt32) (fragmentData : Bytes) :
    Queues d (d.storeFollowOnFragment now fragInfo messageID fragmentData)
      (d₀.storeFollowOnFragment now fragInfo messageID fragmentData) := by
  obtain ⟨hset, htwin, hqueue⟩ := findOrCreateSet_twin ht now messageID
  rw [storeFollowOnFragment, storeFollowOnFragment]
  generalize d.findOrCreateSet now messageID = result at hset htwin hqueue ⊢
  generalize d₀.findOrCreateSet now messageID = result₀ at hset htwin ⊢
  obtain ⟨fragmentSet, d'⟩ := result
  obtain ⟨fragmentSet₀, d₀'⟩ := result₀
  obtain rfl : fragmentSet₀ = fragmentSet := hset
  dsimp only
  split_ifs
  · exact .of_twin htwin hqueue _
  · refine .congr ?_ (reassembleMessage_queues (twin_insert_count htwin _ _) messageID)
    exact hqueue
  · exact .of_twin (twin_insert_count htwin _ _) hqueue _

theorem messageQueue_dispatchNonCriticalBlock (d : DataHandler) (block : SSU2Block) :
    (d.dispatchNonCriticalBlock block).2.messageQueue = d.messageQueue ∧
      (d.dispatchNonCriticalBlock block).2.fragments = d.fragments := by
  rw [dispatchNonCriticalBlock]
  split_ifs <;> exact ⟨rfl, rfl⟩

theorem processBlock_queues (ht : Twin d d₀) (now : Time) (block : SSU2Block) :
    Queues d ((d.processBlock now block).1, (d.processBlock now block).2.2)
      ((d₀.processBlock now block).1, (d₀.processBlock now block).2.2) := by
  rw [processBlock, processBlock]
  split_ifs
  · exact handleI2NPMessage_queues ht block.data
  · rw [handleFirstFragment, handleFirstFragment]
    split_ifs
    · refine .of_twin (twin_countDropped ht) ?_ _
      rfl
    · exact storeFirstFragment_queues ht _ _ _ _ _
  · rw [handleFollowOnFragment, handleFollowOnFragment]
    split_ifs
    · refine .of_twin (twin_countDropped ht) ?_ _
      rfl
    · exact storeFollowOnFragment_queues ht _ _ _ _
  · exact .of_twin ht rfl _
  · obtain ⟨hqueue, hfragments⟩ := messageQueue_dispatchNonCriticalBlock d block
    obtain ⟨hqueue₀, hfragments₀⟩ := messageQueue_dispatchNonCriticalBlock d₀ block
    exact .of_twin ⟨hqueue₀.trans ht.queue, by rw [hfragments, hfragments₀, ht.fragments]⟩ hqueue _

/-! ## The blocks of a packet -/

/-- The message that a block completes: the one it carries, or the one whose last missing fragment
it brings. -/
def completed (now : Time) (d : DataHandler) (block : SSU2Block) : Option Bytes :=
  let data := block.data
  if block.type = blockTypeI2NPMessage then if data = [] then none else some data
  else if block.type = blockTypeFirstFragment ∧ 9 ≤ data.length then
    (d.fragments.lookup (uint32 ((data.drop 1).take 4))).bind fun fs =>
      if fs.hasFirst then none
      else (fs.addFirst (data.getD 0 0) (uint32 ((data.drop 5).take 4)) (data.drop 9) now).whole
  else if block.type = blockTypeFollowOnFragment ∧ 5 ≤ data.length then
    let messageID := uint32 ((data.drop 1).take 4)
    let fs := (d.fragments.lookup messageID).getD (.early messageID now)
    if FragmentSet.fragNumOf (data.getD 0 0) ∈ fs.fragments then none
    else (fs.addFollowOn (data.getD 0 0) (data.drop 5) now).whole
  else none

/-- The messages that the blocks of a packet complete, one after the other. -/
def messages (now : Time) : DataHandler → List SSU2Block → List Bytes
  | _, [] => []
  | d, block :: rest =>
    (d.completed now block).toList ++ messages now (d.fresh.processBlock now block).2.2 rest

section
variable (hqueue : d.messageQueue = .make 1)
include hqueue

theorem items_reassembleMessage {messageID : UInt32} {fs : FragmentSet}
    (hset : d.fragments.lookup messageID = some fs) :
    (d.reassembleMessage messageID).2.messageQueue.items = fs.whole.toList := by
  obtain ⟨c, hc, hitems⟩ := make_trySend fs.message
  have hnil : d.messageQueue.items = [] := by rw [hqueue]; rfl
  rw [reassembleMessage, hset, FragmentSet.whole]
  dsimp only
  rw [hqueue, hc]
  by_cases hparts : (fs.hasFirst && fs.hasLast) = true
  · rw [hparts, Bool.true_and, ← Bool.not_and, hparts, List.any_eq_not_all_not]
    simp only [decide_not, Bool.not_not]
    cases fs.fragNums.all fun i => decide (i ∈ fs.fragments)
    · exact hnil
    · exact hitems
  · rw [Bool.not_eq_true] at hparts
    rw [hparts, ← Bool.not_and, hparts]
    exact hnil

theorem items_storeFirstFragment (now : Time) (i2npType : UInt8)
    (messageID shortExpiration : UInt32) (fragmentData : Bytes) :
    (d.storeFirstFragment now i2npType messageID shortExpiration
      fragmentData).2.messageQueue.items =
      ((d.fragments.lookup messageID).bind fun fs => if fs.hasFirst then none
        else (fs.addFirst i2npType shortExpiration fragmentData now).whole).toList := by
  have hnil : d.messageQueue.items = [] := by rw [hqueue]; rfl
  rw [storeFirstFragment]
  cases d.fragments.lookup messageID with
  | none =>
    show d.makeRoom.messageQueue.items = []
    rwa [(twin_makeRoom ⟨hqueue, rfl⟩).2]
  | some existing =>
    rw [Option.bind_some]
    dsimp only
    split_ifs with hfirst hlast
    · exact hnil
    · refine items_reassembleMessage ?_ (AList.lookup_insert _)
      exact hqueue
    · rw [FragmentSet.whole_of_missing (by rw [Bool.eq_false_iff.mpr hlast, Bool.and_false])]
      exact hnil

theorem items_storeFollowOnFragment (now : Time) (fragInfo : UInt8) (messageID : UInt32)
    (fragmentData : Bytes) :
    (d.storeFollowOnFragment now fragInfo messageID fragmentData).2.messageQueue.items =
      (let fs := (d.fragments.lookup messageID).getD (.early messageID now)
        if FragmentSet.fragNumOf fragInfo ∈ fs.fragments then none
        else (fs.addFollowOn fragInfo fragmentData now).whole).toList := by
  obtain ⟨-, htwin, -⟩ := findOrCreateSet_twin ⟨hqueue, rfl⟩ now messageID
  have hset : (d.findOrCreateSet now messageID).1 =
      (d.fragments.lookup messageID).getD (.early messageID now) := by
    rw [findOrCreateSet]
    cases d.fragments.lookup messageID <;> rfl
  rw [storeFollowOnFragment, ← hset]
  generalize d.findOrCreateSet now messageID = result at htwin ⊢
  have hnil : result.2.messageQueue.items = [] := by rw [htwin.queue]; rfl
  dsimp only
  split_ifs with hdup hparts
  · exact hnil
  · refine items_reassembleMessage ?_ (AList.lookup_insert _)
    exact htwin.queue
  · rw [FragmentSet.whole_of_missing (Bool.eq_false_iff.mpr hparts)]
    exact hnil

end

/-- What a block leaves in an empty queue is the message it completes. -/
theorem items_processBlock (now : Time) (d : DataHandler) (block : SSU2Block) :
    (d.fresh.processBlock now block).2.2.messageQueue.items = (d.completed now block).toList := by
  rw [processBlock, completed]
  dsimp only
  by_cases hmessage : block.type = blockTypeI2NPMessage
  · rw [if_pos hmessage, if_pos hmessage, handleI2NPMessage]
    by_cases hdata : block.data = []
    · rw [if_pos hdata, hdata, if_pos List.length_nil]
      rfl
    · obtain ⟨c, hc, hitems⟩ := make_trySend block.data
      rw [if_neg hdata, if_neg (mt List.eq_nil_of_length_eq_zero hdata), fresh, hc]
      exact hitems
  rw [if_neg hmessage, if_neg hmessage]
  by_cases hfirst : block.type = blockTypeFirstFragment
  · rw [if_pos hfirst, handleFirstFragment]
    by_cases hlong : 9 ≤ block.data.length
    · rw [if_neg (Nat.not_lt.mpr hlong), if_pos ⟨hfirst, hlong⟩]
      exact items_storeFirstFragment rfl ..
    · rw [if_pos (Nat.lt_of_not_le hlong), if_neg (not_and_of_not_right _ hlong), hfirst]
      rfl
  rw [if_neg hfirst, if_neg (not_and_of_not_left _ hfirst)]
  by_cases hfollow : block.type = blockTypeFollowOnFragment
  · rw [if_pos hfollow, handleFollowOnFragment]
    by_cases hlong : 5 ≤ block.data.length
    · rw [if_neg (Nat.not_lt.mpr hlong), if_pos ⟨hfollow, hlong⟩]
      exact items_storeFollowOnFragment rfl ..
    · rw [if_pos (Nat.lt_of_not_le hlong), if_neg (not_and_of_not_right _ hlong)]
      rfl
  rw [if_neg hfollow, if_neg (not_and_of_not_left _ hfollow)]
  split_ifs
  · rfl
  · exact congrArg Chan.items (messageQueue_dispatchNonCriticalBlock d.fresh block).1

/-- An I2NP message block completes the message that it carries. -/
theorem completed_message (htype : block.type = blockTypeI2NPMessage) (hdata : block.data ≠ [])
    (now : Time) (d : DataHandler) : d.completed now block = some block.data := by
  rw [completed, if_pos htype, if_neg hdata]

theorem mem_messages (hmem : block ∈ blocks) (htype : block.type = blockTypeI2NPMessage)
    (hdata : block.data ≠ []) (now : Time)
    (d : DataHandler) : block.data ∈ messages now d blocks := by
  induction blocks generalizing d with
  | nil => cases hmem
  | cons first rest ih => grind [messages, completed_message]

theorem messages_of_messages
    (h : ∀ block ∈ blocks, block.type = blockTypeI2NPMessage ∧ block.data ≠ []) (now : Time)
    (d : DataHandler) : messages now d blocks = blocks.map SSU2Block.data := by
  induction blocks generalizing d with
  | nil => rfl
  | cons block rest ih =>
    obtain ⟨⟨htype, hdata⟩, hrest⟩ := List.forall_mem_cons.mp h
    rw [messages, completed_message htype hdata, ih hrest]
    rfl

theorem messages_congr (blocks : List SSU2Block) {d d' : DataHandler}
    (h : d'.fragments = d.fragments) : messages now d' blocks = messages now d blocks := by
  induction blocks generalizing d d' with
  | nil => rfl
  | cons block rest ih =>
    have hcompleted : d'.completed now block = d.completed now block := by
      rw [completed, completed, h]
    have hfragments : (d'.fresh.processBlock now block).2.2.fragments =
        (d.fresh.processBlock now block).2.2.fragments := by
      cases processBlock_queues (⟨rfl, h⟩ : Twin d.fresh d'.fresh) now block with
      | none items result queue fragments => exact fragments
      | queued m room items ok₀ ok queue capacity fragments => exact fragments
      | dropped m full items ok₀ e error queue fragments => exact fragments
    rw [messages, messages, hcompleted, ih hfragments]

section
variable (hqueue : d.messageQueue = .make 1)
include hqueue

theorem reassembleMessage_ok {messageID : UInt32} {fragmentSet : FragmentSet}
    (hset : d.fragments.lookup messageID = some fragmentSet) :
    (d.reassembleMessage messageID).1 = .ok () := by
  obtain ⟨c, hc, -⟩ := make_trySend fragmentSet.message
  rw [reassembleMessage, hset]
  dsimp only
  split_ifs
  · rfl
  · rfl
  · rw [hqueue, hc]

theorem storeFirstFragment_ok (now : Time) (i2npType : UInt8) (messageID shortExpiration : UInt32)
    (fragmentData : Bytes) :
    (d.storeFirstFragment now i2npType messageID shortExpiration fragmentData).1 = .ok () := by
  rw [storeFirstFragment]
  cases d.fragments.lookup messageID with
  | none => rfl
  | some existing =>
    dsimp only
    split_ifs
    · rfl
    · refine reassembleMessage_ok ?_ (AList.lookup_insert _)
      exact hqueue
    · rfl

theorem storeFollowOnFragment_ok (now : Time) (fragInfo : UInt8) (messageID : UInt32)
    (fragmentData : Bytes) :
    (d.storeFollowOnFragment now fragInfo messageID fragmentData).1 = .ok () := by
  obtain ⟨-, htwin, -⟩ := findOrCreateSet_twin ⟨hqueue, rfl⟩ now messageID
  rw [storeFollowOnFragment]
  generalize d.findOrCreateSet now messageID = result at htwin ⊢
  dsimp only
  split_ifs
  · rfl
  · refine reassembleMessage_ok ?_ (AList.lookup_insert _)
    exact htwin.queue
  · rfl

end

theorem processBlock_fresh_ok (hblock : block.Handled) (now : Time) :
    (d.fresh.processBlock now block).1 = .ok () := by
  rw [processBlock]
  split_ifs with hmessage hfirst hfollow
  · obtain ⟨c, hc, -⟩ := make_trySend block.data
    have hlen : block.data.length ≠ 0 := fun h0 =>
      hblock.message hmessage (List.eq_nil_of_length_eq_zero h0)
    rw [handleI2NPMessage, if_neg hlen, fresh, hc]
  · rw [handleFirstFragment, if_neg (Nat.not_lt.mpr (hblock.first hfirst))]
    exact storeFirstFragment_ok rfl _ _ _ _ _
  · rw [handleFollowOnFragment, if_neg (Nat.not_lt.mpr (hblock.followOn hfollow))]
    exact storeFollowOnFragment_ok rfl _ _ _ _
  · rfl
  · rfl

/-- The places left in the queue. -/
def free (d : DataHandler) : ℕ := d.messageQueue.capacity - d.messageQueue.items.length

/-- The blocks of a packet. The completed messages are queued in order until there is no room;
the result is an error exactly if one of them was dropped. -/
theorem processBlocks_spec (hblocks : ∀ block ∈ blocks, block.Handled) (d : DataHandler) :
    (d.processBlocks now blocks).2.2.messageQueue.items =
        d.messageQueue.items ++ (messages now d blocks).take d.free ∧
      ((d.processBlocks now blocks).1 = .ok () ↔ (messages now d blocks).length ≤ d.free) := by
  induction blocks generalizing d with
  | nil => exact ⟨by simp [processBlocks, messages], by simp [processBlocks, messages]⟩
  | cons block rest ih =>
    have hok := processBlock_fresh_ok (d := d) (hblocks block List.mem_cons_self) now
    have hrest := ih fun b hb => hblocks b (List.mem_cons_of_mem _ hb)
    have ht : Twin d.countBlock d.fresh := ⟨rfl, rfl⟩
    have hcount : d.countBlock.messageQueue = d.messageQueue := rfl
    have hq := (processBlock_queues ht now block).congr hcount
    rw [processBlocks, messages, ← items_processBlock]
    generalize d.countBlock.processBlock now block = result at hq ⊢
    obtain ⟨r, callback, d'⟩ := result
    cases hq with
    | none items result queue fragments =>
      obtain rfl : r = .ok () := result.trans hok
      have hfree : d'.free = d.free := by rw [free, free, queue]
      have hsame := hrest d'
      rw [queue, hfree, ← messages_congr now rest fragments] at hsame
      rw [items, List.nil_append]
      exact hsame
    | queued m room items ok₀ ok queue capacity fragments =>
      obtain rfl : r = .ok () := ok
      have hfree : d.free = d'.free + 1 := by
        rw [free, free, queue, capacity, List.length_append, List.length_singleton]
        have hlt : d.messageQueue.items.length < d.messageQueue.capacity := room
        omega
      obtain ⟨hitems, hiff⟩ := hrest d'
      rw [← messages_congr now rest fragments] at hitems hiff
      rw [items, hfree]
      refine ⟨?_, ?_⟩
      · rw [List.singleton_append, List.take_succ_cons]
        exact hitems.trans (by rw [queue, List.append_assoc, List.singleton_append])
      · rw [List.singleton_append, List.length_cons, Nat.add_le_add_iff_right]
        exact hiff
    | dropped m full items ok₀ e error queue fragments =>
      obtain rfl : r = .error e := error
      have hfree : d.free = 0 := Nat.sub_eq_zero_of_le (Nat.not_lt.mp full)
      rw [hfree, items, List.take_zero, List.append_nil]
      refine ⟨by rw [queue], iff_of_false (fun h => by cases h) ?_⟩
      rw [List.singleton_append, List.length_cons]
      omega

/-! ## The queue only grows at its end -/

theorem processBlock_appends (d : DataHandler) (now : Time) (block : SSU2Block) :
    ∃ ms, d.messageQueue.items ++ ms = (d.processBlock now block).2.2.messageQueue.items ∧
      ms.length ≤ 1 := by
  cases processBlock_queues (twin_fresh d) now block with
  | none items result queue fragments => exact ⟨[], by rw [queue, List.append_nil], Nat.zero_le 1⟩
  | queued m room items ok₀ ok queue capacity fragments => exact ⟨[m], queue.symm, Nat.le_refl 1⟩
  | dropped m full items ok₀ e error queue fragments =>
    exact ⟨[], by rw [queue, List.append_nil], Nat.zero_le 1⟩

theorem processBlocks_appends (d : DataHandler) (now : Time) (blocks : List SSU2Block) :
    d.messageQueue.items <+: (d.processBlocks now blocks).2.2.messageQueue.items := by
  induction blocks generalizing d with
  | nil => exact List.prefix_rfl
  | cons block rest ih =>
    obtain ⟨ms, hblock, -⟩ := d.countBlock.processBlock_appends now block
    replace hblock : d.messageQueue.items <+: _ := ⟨ms, hblock⟩
    rw [processBlocks]
    generalize d.countBlock.processBlock now block = result at hblock ⊢
    obtain ⟨_ | _, callback, d'⟩ := result
    · exact hblock
    · exact List.IsPrefix.trans hblock (ih d')

theorem processDataPacket_appends (d : DataHandler) (now : Time) (packet : SSU2Packet) :
    d.messageQueue.items <+: (d.processDataPacket now packet).2.2.messageQueue.items := by
  rw [processDataPacket]
  split_ifs
  · exact List.prefix_rfl
  · cases deserializeBlocks packet.payload with
    | error e => exact List.prefix_rfl
    | ok blocks => exact d.processBlocks_appends now blocks

theorem messageQueue_cleanupStaleFragments (d : DataHandler) (now : Time) :
    (d.cleanupStaleFragments now).messageQueue = d.messageQueue := by
  rw [cleanupStaleFragments]
  generalize d.fragments.entries.map (fun e => (e.1, e.2)) = entries
  induction entries generalizing d with
  | nil => rfl
  | cons entry rest ih =>
    rw [List.foldl_cons, ih]
    dsimp only
    split_ifs <;> rfl

end DataHandler
end GoNoise.SSU2
