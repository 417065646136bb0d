import Mathlib.Data.Finset.Basic
import GoNoise.SSU2.Session.DataHandler

/-!
# What a fragment set holds

A message that is split has a short header and at least two bodies. `Message.fragment` is the block
that carries one of them, and `Message.bytes` what the receiver puts together. A fragment set
`Holds` a set of fragment numbers of a message when its fields are those that the fragments with
these numbers leave, in whatever order they came.
-/

namespace GoNoise.SSU2

open BigEndian FragmentSet DataHandler

/-! ## Messages in fragments -/

/-- A message split into a first body and 1 to 127 follow-on bodies. -/
structure Message where
  i2npType : UInt8
  messageID : UInt32
  shortExpiration : UInt32
  bodies : List Bytes
  two_le : 2 ≤ bodies.length
  length_le : bodies.length ≤ 128
  deriving DecidableEq

namespace Message

variable (m : Message) {i : ℕ}

/-- The number of the last fragment. -/
def last : ℕ := m.bodies.length - 1

def header : Bytes := m.i2npType :: (putUint32 m.messageID ++ putUint32 m.shortExpiration)

def bytes : Bytes := m.header ++ m.bodies.flatten

def body (i : ℕ) : Bytes := m.bodies.getD i []

/-- The first byte of follow-on fragment `i`: its number, and the flag of the last one. -/
def fragInfo (i : ℕ) : UInt8 := UInt8.ofNat (2 * i + if i = m.last then 1 else 0)

def fragment (i : ℕ) : SSU2Block :=
  if i = 0 then ⟨blockTypeFirstFragment, m.header ++ m.body 0⟩
  else ⟨blockTypeFollowOnFragment, m.fragInfo i :: (putUint32 m.messageID ++ m.body i)⟩

theorem last_lt : m.last < m.bodies.length := by
  have h := m.two_le
  unfold last
  omega

theorem last_pos : 0 < m.last := by
  have h := m.two_le
  unfold last
  omega

theorem toNat_fragInfo (h : i < m.bodies.length) :
    (m.fragInfo i).toNat = 2 * i + if i = m.last then 1 else 0 := by
  have hlen := m.length_le
  rw [fragInfo, UInt8.toNat_ofNat']
  split_ifs <;> omega

theorem fragNumOf_fragInfo (h : i < m.bodies.length) :
    (fragNumOf (m.fragInfo i)).toNat = i := by
  rw [fragNumOf, UInt8.toNat_shiftRight, m.toNat_fragInfo h]
  show (2 * i + if i = m.last then 1 else 0) >>> 1 = i
  rw [Nat.shiftRight_eq_div_pow]
  split_ifs <;> omega

theorem fragInfo_and_one_ne_zero (h : i < m.bodies.length) :
    m.fragInfo i &&& 1 ≠ 0 ↔ i = m.last := by
  have hand : (m.fragInfo i &&& 1).toNat = (m.fragInfo i).toNat % 2 := by grind [UInt8.toNat_and]
  have hzero : m.fragInfo i &&& 1 = 0 ↔ (m.fragInfo i).toNat % 2 = 0 := by
    rw [← UInt8.toNat_inj, hand]
    rfl
  rw [Ne, hzero, m.toNat_fragInfo h]
  split_ifs with hi
  · exact iff_of_true (by omega) hi
  · exact iff_of_false (by omega) hi

end Message

/-! ## What a set holds -/

/-- `fs` is a set of message `m` that has received the fragments with numbers in `S`. -/
structure Holds (m : Message) (S : Finset ℕ) (fs : FragmentSet) : Prop where
  messageID : fs.messageID = m.messageID
  hasFirst : fs.hasFirst = true ↔ 0 ∈ S
  i2npType : 0 ∈ S → fs.i2npType = m.i2npType
  shortExpiration : 0 ∈ S → fs.shortExpiration = m.shortExpiration
  hasLast : fs.hasLast = true ↔ m.last ∈ S
  lastFragNum : m.last ∈ S → fs.lastFragNum.toNat = m.last
  lookup : ∀ k : UInt8, fs.fragments.lookup k = if k.toNat ∈ S then some (m.body k.toNat) else none

namespace Holds

variable {m : Message} {S : Finset ℕ} {fs : FragmentSet} {i : ℕ}

theorem early (m : Message) (now : Time) : Holds m ∅ (FragmentSet.early m.messageID now) :=
  ⟨rfl, by simp [FragmentSet.early], fun h => by simp at h, fun h => by simp at h,
    by simp [FragmentSet.early], fun h => by simp at h, fun k => by simp [FragmentSet.early]⟩

theorem lookup_insert (h : Holds m S fs) (k₀ : UInt8) (k : UInt8) :
    (fs.fragments.insert k₀ (m.body k₀.toNat)).lookup k =
      if k.toNat ∈ insert k₀.toNat S then some (m.body k.toNat) else none := by
  by_cases hk : k = k₀
  · subst hk
    rw [AList.lookup_insert, if_pos (Finset.mem_insert_self _ _)]
  · have hne : k.toNat ≠ k₀.toNat := fun heq => hk (UInt8.toNat_inj.mp heq)
    rw [AList.lookup_insert_ne hk, h.lookup k]
    simp only [Finset.mem_insert, hne, false_or]

theorem addFirst (h : Holds m S fs) (now : Time) :
    Holds m (insert 0 S) (fs.addFirst m.i2npType m.shortExpiration (m.body 0) now) := by
  have hlast : m.last ∈ insert 0 S ↔ m.last ∈ S := by
    rw [Finset.mem_insert]
    exact or_iff_right (Nat.ne_of_gt m.last_pos)
  refine ⟨h.messageID, iff_of_true rfl (Finset.mem_insert_self _ _), fun _ => rfl, fun _ => rfl,
    ?_, fun hm => h.lastFragNum (hlast.mp hm), fun k => h.lookup_insert 0 k⟩
  rw [hlast]
  exact h.hasLast

theorem ofFirst (m : Message) (now : Time) :
    Holds m {0} (FragmentSet.ofFirst m.i2npType m.messageID m.shortExpiration (m.body 0) now) := by
  have hlast : m.last ∉ ({0} : Finset ℕ) := fun h =>
    Nat.ne_of_gt m.last_pos (Finset.mem_singleton.mp h)
  refine ⟨rfl, iff_of_true rfl (Finset.mem_singleton_self 0), fun _ => rfl, fun _ => rfl,
    iff_of_false (by simp [FragmentSet.ofFirst]) hlast, fun h => absurd h hlast, fun k => ?_⟩
  exact (early m now).lookup_insert 0 k

theorem addFollowOn (h : Holds m S fs) (hpos : 0 < i) (hi : i < m.bodies.length)
    (now : Time) : Holds m (insert i S) (fs.addFollowOn (m.fragInfo i) (m.body i) now) := by
  have hnum := m.fragNumOf_fragInfo hi
  have hzero : 0 ∈ insert i S ↔ 0 ∈ S := by grind
  have hlook : ∀ k : UInt8,
      (fs.fragments.insert (FragmentSet.fragNumOf (m.fragInfo i)) (m.body i)).lookup k =
        if k.toNat ∈ insert i S then some (m.body k.toNat) else none := fun k => by
    have hk := h.lookup_insert (FragmentSet.fragNumOf (m.fragInfo i)) k
    rwa [hnum] at hk
  rw [FragmentSet.addFollowOn]
  by_cases hflag : m.fragInfo i &&& 1 ≠ 0
  · -- the last fragment
    rw [if_pos hflag]
    have hlast : i = m.last := (m.fragInfo_and_one_ne_zero hi).mp hflag
    refine ⟨h.messageID, ?_, fun h0 => h.i2npType (hzero.mp h0),
      fun h0 => h.shortExpiration (hzero.mp h0), ?_, fun _ => ?_, hlook⟩
    · rw [hzero]
      exact h.hasFirst
    · exact iff_of_true rfl (by rw [hlast]; exact Finset.mem_insert_self _ _)
    · rw [← hlast]
      exact hnum
  · rw [if_neg hflag]
    have hlast : m.last ∈ insert i S ↔ m.last ∈ S := by
      rw [Finset.mem_insert]
      exact or_iff_right fun heq => hflag ((m.fragInfo_and_one_ne_zero hi).mpr heq.symm)
    refine ⟨h.messageID, ?_, fun h0 => h.i2npType (hzero.mp h0),
      fun h0 => h.shortExpiration (hzero.mp h0), ?_, fun hm => h.lastFragNum (hlast.mp hm), hlook⟩
    · rw [hzero]
      exact h.hasFirst
    · rw [hlast]
      exact h.hasLast

/-- Every fragment of the message is held. -/
def Complete (m : Message) (S : Finset ℕ) : Prop := ∀ i < m.bodies.length, i ∈ S

instance (m : Message) (S : Finset ℕ) : Decidable (Complete m S) :=
  inferInstanceAs (Decidable (∀ i < m.bodies.length, i ∈ S))

theorem mem_fragments (h : Holds m S fs) (k : UInt8) : k ∈ fs.fragments ↔ k.toNat ∈ S := by
  rw [← AList.lookup_isSome, h.lookup k]
  split_ifs with hk
  · exact iff_of_true rfl hk
  · exact iff_of_false (by simp) hk

theorem fragNums_eq (h : Holds m S fs) (hlast : m.last ∈ S) :
    fs.fragNums = (List.range m.bodies.length).map UInt8.ofNat := by
  have hlen := m.two_le
  rw [fragNums, h.lastFragNum hlast]
  congr 2
  unfold Message.last
  omega

theorem toNat_ofNat_fragNum (hi : i < m.bodies.length) : (UInt8.ofNat i).toNat = i := by
  have hlen := m.length_le
  rw [UInt8.toNat_ofNat']
  omega

/-- With the last fragment held, the code's test for a missing fragment is incompleteness. -/
theorem any_missing_iff (h : Holds m S fs) (hlast : m.last ∈ S) :
    (fs.fragNums.any fun i => i ∉ fs.fragments) = true ↔ ¬ Complete m S := by
  have hmissing : ∀ i < m.bodies.length, UInt8.ofNat i ∉ fs.fragments ↔ i ∉ S := fun i hi => by
    rw [h.mem_fragments, toNat_ofNat_fragNum hi]
  rw [h.fragNums_eq hlast, List.any_map, List.any_eq_true]
  constructor
  · rintro ⟨i, hi, hnot⟩ hcomplete
    rw [List.mem_range] at hi
    exact (hmissing i hi).mp (of_decide_eq_true hnot) (hcomplete i hi)
  · intro hincomplete
    unfold Complete at hincomplete
    push Not at hincomplete
    obtain ⟨i, hi, hnot⟩ := hincomplete
    exact ⟨i, List.mem_range.mpr hi, decide_eq_true ((hmissing i hi).mpr hnot)⟩

theorem message_eq (h : Holds m S fs) (hcomplete : Complete m S) : fs.message = m.bytes := by
  have hlast : m.last ∈ S := hcomplete _ m.last_lt
  have h0 : 0 ∈ S := hcomplete 0 (by have := m.two_le; omega)
  have hheader : fs.header = m.header := by
    rw [header, Message.header, h.messageID, h.i2npType h0, h.shortExpiration h0]
  rw [message, Message.bytes, hheader, h.fragNums_eq hlast, List.flatMap_map,
    List.flatMap]
  congr 2
  refine List.ext_getElem (by rw [List.length_map, List.length_range]) fun i hi hi' => ?_
  rw [List.getElem_map, List.getElem_range, h.lookup, toNat_ofNat_fragNum hi',
    if_pos (hcomplete i hi'), Option.getD_some, Message.body, List.getD_eq_getElem _ _ hi']

end Holds

/-! ## One fragment -/

/-- What a fragment of `m` does to the handler when `S` are the numbers received after it: the
message is queued and its set removed if `S` is everything, and the set holds `S` otherwise; the
other sets stay. -/
structure FragmentEffect (m : Message) (S : Finset ℕ) (h h' : DataHandler) : Prop where
  others : ∀ k, k ≠ m.messageID → h'.fragments.lookup k = h.fragments.lookup k
  complete : Holds.Complete m S →
    h'.messageQueue.items = h.messageQueue.items ++ [m.bytes] ∧ m.messageID ∉ h'.fragments
  incomplete : ¬ Holds.Complete m S →
    h'.messageQueue = h.messageQueue ∧
      ∃ fs, h'.fragments.lookup m.messageID = some fs ∧ Holds m S fs

section Effect

variable {m : Message} {S : Finset ℕ} {fs : FragmentSet} {h h₁ : DataHandler}

theorem fragmentEffect_of_incomplete (hfs : h₁.fragments.lookup m.messageID = some fs)
    (hholds : Holds m S fs)
    (hothers : ∀ k, k ≠ m.messageID → h₁.fragments.lookup k = h.fragments.lookup k)
    (hqueue : h₁.messageQueue = h.messageQueue) (hnot : ¬ Holds.Complete m S) :
    FragmentEffect m S h h₁ :=
  ⟨hothers, fun hc => absurd hc hnot, fun _ => ⟨hqueue, fs, hfs, hholds⟩⟩

/-- Reassembly. The message is queued exactly when every fragment is held. -/
theorem fragmentEffect_reassembleMessage (hfs : h₁.fragments.lookup m.messageID = some fs)
    (hholds : Holds m S fs)
    (hothers : ∀ k, k ≠ m.messageID → h₁.fragments.lookup k = h.fragments.lookup k)
    (hqueue : h₁.messageQueue = h.messageQueue) (hroom : h.messageQueue.HasRoom) :
    FragmentEffect m S h (h₁.reassembleMessage m.messageID).2 := by
  rw [reassembleMessage, hfs]
  dsimp only
  by_cases hready : (!fs.hasFirst || !fs.hasLast) = true
  · rw [if_pos hready]
    refine fragmentEffect_of_incomplete hfs hholds hothers hqueue fun hc => ?_
    rw [hholds.hasFirst.mpr (hc 0 (by have := m.two_le; omega)),
      hholds.hasLast.mpr (hc _ m.last_lt)] at hready
    cases hready
  rw [if_neg hready]
  have hlast : m.last ∈ S := by
    refine hholds.hasLast.mp ?_
    cases hl : fs.hasLast with
    | true => rfl
    | false => exact absurd (by rw [hl, Bool.not_false, Bool.or_true]) hready
  by_cases hmiss : (fs.fragNums.any fun i => i ∉ fs.fragments) = true
  · rw [if_pos hmiss]
    exact fragmentEffect_of_incomplete hfs hholds hothers hqueue
      ((hholds.any_missing_iff hlast).mp hmiss)
  rw [if_neg hmiss]
  have hcomplete : Holds.Complete m S :=
    not_not.mp fun hnot => hmiss ((hholds.any_missing_iff hlast).mpr hnot)
  obtain ⟨queue, hsend, hitems, -⟩ :=
    Chan.trySend_of_hasRoom (by rw [hqueue]; exact hroom : h₁.messageQueue.HasRoom) fs.message
  rw [hsend]
  refine ⟨fun k hk => ?_, fun _ => ⟨?_, ?_⟩, fun hnot => absurd hcomplete hnot⟩
  · rw [AList.lookup_erase_ne hk, hothers k hk]
  · rw [← hholds.message_eq hcomplete, ← hqueue]
    exact hitems
  · exact fun hmem => (AList.mem_erase.mp hmem).1 rfl

end Effect

/-- The fragment numbers in `S`, none of them for an empty set, are what the handler has of `m`. -/
def Tracks (m : Message) (S : Finset ℕ) (h : DataHandler) : Prop :=
  if S = ∅ then m.messageID ∉ h.fragments
  else ∃ fs, h.fragments.lookup m.messageID = some fs ∧ Holds m S fs

theorem makeRoom_of_lt {h : DataHandler} (hsize : h.fragments.size < maxFragmentsPerConn) :
    h.makeRoom = h := by
  rw [makeRoom, if_neg (Nat.not_le.mpr hsize)]

variable (h : DataHandler) (now : Time) (data : Bytes)

theorem processBlock_firstFragment :
    (h.processBlock now ⟨blockTypeFirstFragment, data⟩).2.2 = (h.handleFirstFragment now data).2 :=
  rfl

theorem processBlock_followOnFragment :
    (h.processBlock now ⟨blockTypeFollowOnFragment, data⟩).2.2 =
      (h.handleFollowOnFragment now data).2 := rfl

/-- A first fragment as `handleFirstFragment` parses it. -/
theorem handleFirstFragment_append (i2npType : UInt8) (messageID shortExpiration : UInt32)
    (body : Bytes) :
    h.handleFirstFragment now
        (i2npType :: (putUint32 messageID ++ putUint32 shortExpiration) ++ body) =
      h.storeFirstFragment now i2npType messageID shortExpiration body := by
  set data := i2npType :: (putUint32 messageID ++ putUint32 shortExpiration) ++ body with hdata
  have hlen : ¬ data.length < 9 := by grind [List.length_append, List.length_cons, length_putUint32]
  have h1 : data.drop 1 = putUint32 messageID ++ (putUint32 shortExpiration ++ body) := by
    rw [hdata, List.cons_append, List.drop_succ_cons, List.drop_zero, List.append_assoc]
  have h5 : data.drop 5 = putUint32 shortExpiration ++ body := by
    rw [← drop_putUint32_append messageID (putUint32 shortExpiration ++ body), ← h1,
      List.drop_drop]
  have h9 : data.drop 9 = body := by
    rw [← drop_putUint32_append shortExpiration body, ← h5, List.drop_drop]
  rw [handleFirstFragment, if_neg hlen, h1, h5, h9, take_putUint32_append,
    take_putUint32_append, uint32_putUint32, uint32_putUint32]
  rfl

theorem handleFollowOnFragment_cons (fragInfo : UInt8) (messageID : UInt32) (body : Bytes) :
    h.handleFollowOnFragment now (fragInfo :: (putUint32 messageID ++ body)) =
      h.storeFollowOnFragment now fragInfo messageID body := by
  set data := fragInfo :: (putUint32 messageID ++ body) with hdata
  have hlen : ¬ data.length < 5 := by grind [List.length_cons, List.length_append, length_putUint32]
  have h1 : data.drop 1 = putUint32 messageID ++ body := rfl
  have h5 : data.drop 5 = body := by
    rw [← drop_putUint32_append messageID body, ← h1, List.drop_drop]
  rw [handleFollowOnFragment, if_neg hlen, h1, h5, take_putUint32_append,
    uint32_putUint32]
  rfl

section Step

variable {m : Message} {S : Finset ℕ} {h : DataHandler} {i : ℕ}

section
variable (htrack : Tracks m S h)
include htrack

theorem fragmentEffect_storeFirstFragment (hnot : ¬ Holds.Complete m S)
    (hsize : h.fragments.size < maxFragmentsPerConn) (hroom : h.messageQueue.HasRoom) (now : Time) :
    FragmentEffect m (insert 0 S) h
      (h.storeFirstFragment now m.i2npType m.messageID m.shortExpiration (m.body 0)).2 := by
  rw [storeFirstFragment]
  by_cases hS : S = ∅
  · -- the message starts with its first fragment
    rw [Tracks, if_pos hS] at htrack
    rw [AList.lookup_eq_none.mpr htrack]
    rw [makeRoom_of_lt hsize, hS]
    refine fragmentEffect_of_incomplete (AList.lookup_insert _) (Holds.ofFirst m now)
      (fun k hk => AList.lookup_insert_ne hk) rfl fun hc => ?_
    have hmem := hc 1 m.two_le
    rw [insert_empty_eq, Finset.mem_singleton] at hmem
    cases hmem
  · rw [Tracks, if_neg hS] at htrack
    obtain ⟨fs, hfs, hholds⟩ := htrack
    rw [hfs]
    dsimp only
    by_cases hfirst : fs.hasFirst = true
    · -- a duplicate
      rw [if_pos hfirst, Finset.insert_eq_of_mem (hholds.hasFirst.mp hfirst)]
      exact fragmentEffect_of_incomplete hfs hholds (fun _ _ => rfl) rfl hnot
    rw [if_neg hfirst]
    have hholds' := hholds.addFirst now
    by_cases hlast : (fs.addFirst m.i2npType m.shortExpiration (m.body 0) now).hasLast = true
    · rw [if_pos hlast]
      exact fragmentEffect_reassembleMessage (AList.lookup_insert _) hholds'
        (fun k hk => AList.lookup_insert_ne hk) rfl hroom
    · rw [if_neg hlast]
      exact fragmentEffect_of_incomplete (AList.lookup_insert _) hholds'
        (fun k hk => AList.lookup_insert_ne hk) rfl
        fun hc => hlast (hholds'.hasLast.mpr (hc _ m.last_lt))

theorem findOrCreateSet_spec (hsize : h.fragments.size < maxFragmentsPerConn) (now : Time) :
    ∃ fs h₁, h.findOrCreateSet now m.messageID = (fs, h₁) ∧ Holds m S fs ∧
      h₁.fragments.lookup m.messageID = some fs ∧ h₁.messageQueue = h.messageQueue ∧
        ∀ k, k ≠ m.messageID → h₁.fragments.lookup k = h.fragments.lookup k := by
  rw [findOrCreateSet]
  by_cases hS : S = ∅
  · rw [Tracks, if_pos hS] at htrack
    rw [AList.lookup_eq_none.mpr htrack, hS]
    rw [makeRoom_of_lt hsize]
    exact ⟨_, _, rfl, Holds.early m now, AList.lookup_insert _, rfl,
      fun k hk => AList.lookup_insert_ne hk⟩
  · grind [Tracks]

theorem fragmentEffect_storeFollowOnFragment (hnot : ¬ Holds.Complete m S)
    (hsize : h.fragments.size < maxFragmentsPerConn) (hroom : h.messageQueue.HasRoom) (hpos : 0 < i)
    (hi : i < m.bodies.length) (now : Time) :
    FragmentEffect m (insert i S) h
      (h.storeFollowOnFragment now (m.fragInfo i) m.messageID (m.body i)).2 := by
  obtain ⟨fs, h₁, hfind, hholds, hfs, hqueue, hothers⟩ := findOrCreateSet_spec htrack hsize now
  rw [storeFollowOnFragment, hfind]
  dsimp only
  have hmem : fragNumOf (m.fragInfo i) ∈ fs.fragments ↔ i ∈ S := by
    rw [hholds.mem_fragments, m.fragNumOf_fragInfo hi]
  by_cases hdup : fragNumOf (m.fragInfo i) ∈ fs.fragments
  · rw [if_pos hdup, Finset.insert_eq_of_mem (hmem.mp hdup)]
    exact fragmentEffect_of_incomplete hfs hholds hothers hqueue hnot
  rw [if_neg hdup]
  have hholds' := hholds.addFollowOn hpos hi now
  have hothers' : ∀ k, k ≠ m.messageID →
      (h₁.fragments.insert m.messageID
        (fs.addFollowOn (m.fragInfo i) (m.body i) now)).lookup k = h.fragments.lookup k :=
    fun k hk => (AList.lookup_insert_ne hk).trans (hothers k hk)
  by_cases hready : ((fs.addFollowOn (m.fragInfo i) (m.body i) now).hasFirst &&
      (fs.addFollowOn (m.fragInfo i) (m.body i) now).hasLast) = true
  · rw [if_pos hready]
    exact fragmentEffect_reassembleMessage (AList.lookup_insert _) hholds' hothers' hqueue hroom
  · rw [if_neg hready]
    refine fragmentEffect_of_incomplete (AList.lookup_insert _) hholds' hothers' hqueue fun hc => ?_
    refine hready (Bool.and_eq_true_iff.mpr ⟨?_, hholds'.hasLast.mpr (hc _ m.last_lt)⟩)
    exact hholds'.hasFirst.mpr (hc 0 (by have := m.two_le; omega))

/-- One fragment of a message in progress, whichever of the two kinds it is. -/
theorem processBlock_fragment (hnot : ¬ Holds.Complete m S)
    (hsize : h.fragments.size < maxFragmentsPerConn) (hroom : h.messageQueue.HasRoom)
    (hi : i < m.bodies.length) (now : Time) :
    FragmentEffect m (insert i S) h (h.processBlock now (m.fragment i)).2.2 := by
  by_cases h0 : i = 0
  · subst h0
    rw [Message.fragment, if_pos rfl, processBlock_firstFragment, Message.header,
      handleFirstFragment_append]
    exact fragmentEffect_storeFirstFragment htrack hnot hsize hroom now
  · rw [Message.fragment, if_neg h0, processBlock_followOnFragment, handleFollowOnFragment_cons]
    exact fragmentEffect_storeFollowOnFragment htrack hnot hsize hroom (Nat.pos_of_ne_zero h0) hi
      now

end

end Step
end GoNoise.SSU2
