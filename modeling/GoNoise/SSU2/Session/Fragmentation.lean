import GoNoise.Library.Chunks
import GoNoise.SSU2.Session.Fragments

/-!
# `buildI2NPFragmentBlocks`: splitting a message

A message that does not fit one packet is sent as a first fragment and follow-on fragments. The
number of a follow-on fragment is an 8-bit counter shifted left by one, so seven bits of it are
left.
-/

namespace GoNoise.SSU2

open BigEndian Chunks

/-! ## The code -/

def unixSeconds (now : Time) : UInt32 := UInt32.ofNat (now / (1000 * millisecond) % 2 ^ 32).toNat

def fragInfoByte (fragNum : UInt8) (isLast : Bool) : UInt8 :=
  if isLast then fragNum <<< 1 ||| 0x01 else fragNum <<< 1

/-- The loop that builds the follow-on fragments from what is left of the data. A turn takes at
least one byte, so the length of the data bounds the turns. -/
def followOnBlocks (messageID : UInt32) (maxFollowData : ℕ) : ℕ → UInt8 → Bytes → List SSU2Block
  | 0, _, _ => []
  | fuel + 1, fragNum, rest =>
    if rest.length = 0 then []
    else
      let isLast : Bool := rest.length ≤ maxFollowData
      let followData :=
        fragInfoByte fragNum isLast :: (putUint32 messageID ++ rest.take maxFollowData)
      ⟨blockTypeFollowOnFragment, followData⟩ ::
        followOnBlocks messageID maxFollowData fuel (fragNum + 1) (rest.drop maxFollowData)

/-- `buildI2NPFragmentBlocks`; `random` is the message ID drawn, or the error of the source. -/
def buildI2NPFragmentBlocks (random : Except Oops UInt32) (now : Time) (data : Bytes)
    (maxBlockData : ℤ) : Except Oops (List SSU2Block) :=
  match random with
  | .error e => .error (e.wrapf "failed to generate fragment message ID")
  | .ok messageID =>
    let i2npType := data.headD 0
    let shortExpiry := unixSeconds now + 120
    let maxFirstData := maxBlockData - 9
    if maxFirstData ≤ 0 then .error <| .errorf "MTU too small for fragmentation"
    else
      let first := data.take maxFirstData.toNat
      let firstData := i2npType :: (putUint32 messageID ++ putUint32 shortExpiry) ++ first
      let maxFollowData := (maxBlockData - 5).toNat
      .ok (⟨blockTypeFirstFragment, firstData⟩ ::
        followOnBlocks messageID maxFollowData data.length 1 (data.drop maxFirstData.toNat))

/-! ## The loop -/

def followOnBlock (messageID : UInt32) (fragNum : UInt8) (isLast : Bool) (body : Bytes) :
    SSU2Block :=
  ⟨blockTypeFollowOnFragment, fragInfoByte fragNum isLast :: (putUint32 messageID ++ body)⟩

theorem add_ofNat_succ_uint8 (n : UInt8) (i : ℕ) :
    n + UInt8.ofNat (i + 1) = n + 1 + UInt8.ofNat i := by
  rw [UInt8.ofNat_add, UInt8.add_comm (UInt8.ofNat i), UInt8.add_assoc]
  rfl

/-- The loop. The rest of the data is cut into chunks; block `i` has the counter moved on by
`i` and the flag when it is the last. -/
theorem followOnBlocks_eq (messageID : UInt32) {k fuel : ℕ} (hk : 0 < k) (fragNum : UInt8)
    {rest : Bytes} (hfuel : rest.length ≤ fuel) :
    followOnBlocks messageID k fuel fragNum rest =
      (chunks k fuel rest).mapIdx fun i body =>
        followOnBlock messageID (fragNum + UInt8.ofNat i)
          (decide (i + 1 = (chunks k fuel rest).length)) body := by
  induction fuel generalizing fragNum rest with
  | zero => rfl
  | succ fuel ih =>
    rw [followOnBlocks]
    by_cases hrest : rest.length = 0
    · rw [if_pos hrest, List.length_eq_zero_iff.mp hrest, chunks_nil]
      rfl
    · rw [if_neg hrest, chunks_of_ne_nil k fuel hrest, List.mapIdx_cons,
        ih (fragNum + 1) (length_drop_le hk hfuel)]
      have hlast : (decide (rest.length ≤ k) : Bool) =
          decide (0 + 1 = (rest.take k :: chunks k fuel (rest.drop k)).length) := by
        rw [decide_eq_decide, ← chunks_drop_eq_nil_iff hk hfuel, List.length_cons,
          ← List.length_eq_zero_iff]
        omega
      refine congrArg₂ List.cons ?_ (List.ext_getElem (by simp) fun i hi hi' => ?_)
      · have hnum : fragNum + UInt8.ofNat 0 = fragNum := UInt8.add_zero fragNum
        rw [followOnBlock, hnum, ← hlast]
      · rw [List.getElem_mapIdx, List.getElem_mapIdx, add_ofNat_succ_uint8]
        simp only [List.length_cons, Nat.add_right_cancel_iff]

/-! ## Numbers -/

variable (fragNum : UInt8) (isLast : Bool)

theorem toNat_fragNumOf_fragInfoByte :
    (FragmentSet.fragNumOf (fragInfoByte fragNum isLast)).toNat = fragNum.toNat % 128 := by
  have hall : ∀ n : Fin 256, ∀ b : Bool,
      (FragmentSet.fragNumOf (fragInfoByte (UInt8.ofNat n) b)).toNat = n.val % 128 := by
    decide +kernel
  have h := hall ⟨fragNum.toNat, fragNum.toNat_lt⟩ isLast
  rwa [UInt8.ofNat_toNat] at h

theorem fragInfoByte_and_one_ne_zero : fragInfoByte fragNum isLast &&& 1 ≠ 0 ↔ isLast = true := by
  have hall : ∀ n : Fin 256, ∀ b : Bool,
      fragInfoByte (UInt8.ofNat n) b &&& 1 ≠ 0 ↔ b = true := by decide +kernel
  have h := hall ⟨fragNum.toNat, fragNum.toNat_lt⟩ isLast
  rwa [UInt8.ofNat_toNat] at h

/-! ## What the receiver decodes -/

/-- The fragment number of a follow-on block, as `handleFollowOnFragment` decodes it. -/
def decodedNum (b : SSU2Block) : ℕ := (FragmentSet.fragNumOf (b.data.getD 0 0)).toNat

/-- The last flag of a follow-on block, as `handleFollowOnFragment` decodes it. -/
def decodedLast (b : SSU2Block) : Bool := b.data.getD 0 0 &&& 1 ≠ 0

/-- A first fragment and follow-on fragments that spell `data`: the numbers are 1, 2, … in order,
exactly the final one is flagged, no block is too long, and the bodies in order are the data. -/
structure WellNumbered (data : Bytes) (maxBlockData : ℤ) (first : SSU2Block)
    (follow : List SSU2Block) : Prop where
  firstType : first.type = blockTypeFirstFragment
  followType : ∀ b ∈ follow, b.type = blockTypeFollowOnFragment
  numbers : follow.map decodedNum = List.range' 1 follow.length
  last : ∀ i (hi : i < follow.length), decodedLast follow[i] = true ↔ i + 1 = follow.length
  size_le : ∀ b ∈ first :: follow, (b.data.length : ℤ) ≤ maxBlockData
  bodies : first.data.drop 9 ++ follow.flatMap (fun b => b.data.drop 5) = data

def followBodies (data : Bytes) (maxBlockData : ℤ) : List Bytes :=
  chunks (maxBlockData - 5).toNat data.length (data.drop (maxBlockData - 9).toNat)

def firstBlock (messageID : UInt32) (now : Time) (data : Bytes) (maxBlockData : ℤ) : SSU2Block :=
  ⟨blockTypeFirstFragment,
    data.headD 0 :: (putUint32 messageID ++ putUint32 (unixSeconds now + 120)) ++
      data.take (maxBlockData - 9).toNat⟩

def followBlocks (messageID : UInt32) (bodies : List Bytes) : List SSU2Block :=
  bodies.mapIdx fun i body =>
    followOnBlock messageID (1 + UInt8.ofNat i) (decide (i + 1 = bodies.length)) body

section Build

variable {data : Bytes} {maxBlockData : ℤ} (messageID : UInt32) (bodies : List Bytes)

theorem buildI2NPFragmentBlocks_eq (hmax : 9 < maxBlockData) (messageID : UInt32) (now : Time)
    (data : Bytes) :
    buildI2NPFragmentBlocks (.ok messageID) now data maxBlockData =
      .ok (firstBlock messageID now data maxBlockData ::
        followBlocks messageID (followBodies data maxBlockData)) := by
  have hpos : ¬ maxBlockData - 9 ≤ 0 := by omega
  have hk : 0 < (maxBlockData - 5).toNat := by omega
  have hloop := followOnBlocks_eq messageID hk 1
    (List.drop_sublist (maxBlockData - 9).toNat data).length_le
  rw [buildI2NPFragmentBlocks, if_neg hpos]
  exact congrArg (fun follow => Except.ok (firstBlock messageID now data maxBlockData :: follow))
    hloop

theorem length_followBodies_le_iff (hmax : 9 < maxBlockData) (n : ℕ) :
    (followBodies data maxBlockData).length ≤ n ↔
      (data.length : ℤ) ≤ (maxBlockData - 9) + n * (maxBlockData - 5) := by
  have hk : 0 < (maxBlockData - 5).toNat := by omega
  have hk' : ((maxBlockData - 5).toNat : ℤ) = maxBlockData - 5 := Int.toNat_of_nonneg (by omega)
  have hmul : ((n * (maxBlockData - 5).toNat : ℕ) : ℤ) = n * (maxBlockData - 5) := by
    rw [Int.natCast_mul, hk']
  rw [followBodies, length_chunks_le_iff hk ((List.drop_sublist _ data).length_le),
    List.length_drop]
  omega

theorem length_followBlocks :
    (followBlocks messageID bodies).length = bodies.length := List.length_mapIdx

theorem map_decodedNum_followBlocks :
    (followBlocks messageID bodies).map decodedNum =
      (List.range bodies.length).map fun i => (i + 1) % 128 := by
  refine List.ext_getElem (by simp [followBlocks]) fun i hi hi' => ?_
  have hnum : (1 + UInt8.ofNat i).toNat % 128 = (i + 1) % 128 := by
    rw [UInt8.toNat_add, UInt8.toNat_ofNat', UInt8.toNat_one]
    omega
  rw [List.getElem_map, List.getElem_map, List.getElem_range, ← hnum]
  simp only [followBlocks, List.getElem_mapIdx]
  exact toNat_fragNumOf_fragInfoByte _ _

/-- Modulo 128, the numbers are 1, 2, … exactly as long as 128 is not reached. -/
theorem map_range_mod_eq_iff (n : ℕ) :
    ((List.range n).map fun i => (i + 1) % 128) = List.range' 1 n ↔ n ≤ 127 := by
  constructor
  · intro h
    by_contra hn
    have hmem : 128 ∈ List.range' 1 n := List.mem_range'_1.mpr ⟨by omega, by omega⟩
    rw [← h] at hmem
    obtain ⟨i, -, hi⟩ := List.mem_map.mp hmem
    omega
  · intro hn
    refine List.ext_getElem (by simp) fun i hi hi' => ?_
    rw [List.length_map, List.length_range] at hi
    rw [List.getElem_map, List.getElem_range, List.getElem_range']
    omega

theorem last_followBlocks (i : ℕ) (hi : i < (followBlocks messageID bodies).length) :
    decodedLast (followBlocks messageID bodies)[i] = true ↔
      i + 1 = (followBlocks messageID bodies).length := by
  rw [length_followBlocks]
  simp only [followBlocks, List.getElem_mapIdx]
  rw [decodedLast, decide_eq_true_iff]
  exact (fragInfoByte_and_one_ne_zero _ _).trans decide_eq_true_iff

theorem mem_followBlocks {messageID : UInt32} {bodies : List Bytes} {b : SSU2Block}
    (hb : b ∈ followBlocks messageID bodies) :
    ∃ info, ∃ body ∈ bodies, b =
      ⟨blockTypeFollowOnFragment, info :: (putUint32 messageID ++ body)⟩ := by
  obtain ⟨i, hi, rfl⟩ := List.getElem_of_mem hb
  rw [length_followBlocks] at hi
  simp only [followBlocks, List.getElem_mapIdx]
  exact ⟨_, _, List.getElem_mem hi, rfl⟩

theorem flatMap_drop_followBlocks :
    (followBlocks messageID bodies).flatMap (fun b => b.data.drop 5) = bodies.flatten := by
  rw [List.flatMap]
  congr 1
  refine List.ext_getElem (by simp [followBlocks]) fun i hi hi' => ?_
  simp only [followBlocks, List.getElem_map, List.getElem_mapIdx]
  exact drop_putUint32_append messageID _

theorem length_data_le (hmax : 9 < maxBlockData) (messageID : UInt32) (now : Time) (data : Bytes) :
    ∀ b ∈ firstBlock messageID now data maxBlockData ::
        followBlocks messageID (followBodies data maxBlockData),
      (b.data.length : ℤ) ≤ maxBlockData := by
  intro b hb
  rcases List.mem_cons.mp hb with rfl | hb
  · have hlen : (firstBlock messageID now data maxBlockData).data.length ≤
        9 + (maxBlockData - 9).toNat := by
      rw [firstBlock, List.length_append, List.length_cons, List.length_append, length_putUint32,
        length_putUint32, List.length_take]
      omega
    omega
  · obtain ⟨info, body, hbody, rfl⟩ := mem_followBlocks hb
    have hlen : body.length ≤ (maxBlockData - 5).toNat := length_le_of_mem_chunks hbody
    rw [List.length_cons, List.length_append, length_putUint32]
    omega

/-- Everything but the numbers is right for every length; the numbers are right for at most 127
follow-on fragments. -/
theorem wellNumbered_blocks_iff (hmax : 9 < maxBlockData) (messageID : UInt32) (now : Time)
    (data : Bytes) :
    WellNumbered data maxBlockData (firstBlock messageID now data maxBlockData)
        (followBlocks messageID (followBodies data maxBlockData)) ↔
      (followBodies data maxBlockData).length ≤ 127 := by
  have hsize := length_data_le hmax messageID now data
  set bodies := followBodies data maxBlockData with hbodies
  rw [← map_range_mod_eq_iff, ← map_decodedNum_followBlocks messageID bodies]
  constructor
  · intro h
    rw [h.numbers, length_followBlocks]
  · intro hnum
    have hk : 0 < (maxBlockData - 5).toNat := by omega
    refine ⟨rfl, fun b hb => ?_, by rw [hnum, length_followBlocks],
      last_followBlocks messageID bodies, hsize, ?_⟩
    · obtain ⟨info, body, -, rfl⟩ := mem_followBlocks hb
      rfl
    · have hfirst : (firstBlock messageID now data maxBlockData).data.drop 9 =
          data.take (maxBlockData - 9).toNat := by
        refine List.drop_left' ?_
        rw [List.length_cons, List.length_append, length_putUint32, length_putUint32]
      rw [hfirst, flatMap_drop_followBlocks, hbodies, followBodies,
        flatten_chunks hk ((List.drop_sublist _ data).length_le), List.take_append_drop]

end Build

/-- **Fragment numbering, exactly.** Whatever message ID is drawn and whenever, the blocks returned
are well numbered if and only if the data fits in the first fragment and 127 follow-on fragments. -/
theorem wellNumbered_iff (data : Bytes) (maxBlockData : ℤ) (hmax : 9 < maxBlockData) :
    (∀ random now blocks, buildI2NPFragmentBlocks random now data maxBlockData = .ok blocks →
        ∃ first follow, blocks = first :: follow ∧ WellNumbered data maxBlockData first follow) ↔
      (data.length : ℤ) ≤ (maxBlockData - 9) + 127 * (maxBlockData - 5) := by
  have hcount : (followBodies data maxBlockData).length ≤ 127 ↔ _ :=
    length_followBodies_le_iff hmax 127
  constructor
  · intro h
    obtain ⟨first, follow, hblocks, hwell⟩ :=
      h (.ok 0) 0 _ (buildI2NPFragmentBlocks_eq hmax 0 0 data)
    cases hblocks
    exact hcount.mp ((wellNumbered_blocks_iff hmax 0 0 data).mp hwell)
  · intro hlen random now blocks hbuild
    cases random with
    | error e => cases hbuild
    | ok messageID =>
      rw [buildI2NPFragmentBlocks_eq hmax] at hbuild
      cases hbuild
      exact ⟨_, _, rfl, (wellNumbered_blocks_iff hmax messageID now data).mpr (hcount.mpr hlen)⟩

/-- Seven bytes in a first fragment with one byte and follow-on fragments with up to five. -/
theorem wellNumbered_seven_bytes :
    ∃ first follow,
      buildI2NPFragmentBlocks (.ok 9) 0 [1, 2, 3, 4, 5, 6, 7] 10 = .ok (first :: follow) ∧
        WellNumbered [1, 2, 3, 4, 5, 6, 7] 10 first follow := by
  have h := (wellNumbered_iff [1, 2, 3, 4, 5, 6, 7] 10 (by decide)).mpr (by decide)
  obtain ⟨first, follow, hblocks, hwell⟩ := h (.ok 9) 0 _ rfl
  exact ⟨first, follow, congrArg _ hblocks, hwell⟩

/-- With the default MTU of 1280 a block holds 1197 bytes. A message of 152573 bytes has 128
follow-on fragments, and the number of the last one is decoded as 0. -/
theorem fragment_numbers_run_out :
    ∃ first follow,
      buildI2NPFragmentBlocks (.ok 9) 0 (List.replicate 152573 0) 1197 = .ok (first :: follow) ∧
        ¬ WellNumbered (List.replicate 152573 0) 1197 first follow := by
  refine ⟨_, _, buildI2NPFragmentBlocks_eq (by decide) 9 0 _, fun hwell => ?_⟩
  have hfew := (wellNumbered_blocks_iff (by decide) 9 0 _).mp hwell
  rw [length_followBodies_le_iff (by decide), List.length_replicate] at hfew
  omega

end GoNoise.SSU2
