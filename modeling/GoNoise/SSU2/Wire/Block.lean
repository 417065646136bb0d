import GoNoise.Oops
import GoNoise.Library.Bytes

/-!
# `ssu2/wire/block.go`: blocks

A block is a type byte and a payload; on the wire it is `[Type:1][Length:2][Data:Length]` and a
packet payload is a concatenation of blocks.
-/

namespace GoNoise.SSU2

open BigEndian

/-- A TLV block. The length is that of `data`. -/
structure SSU2Block where
  type : UInt8
  data : Bytes
  deriving DecidableEq

/-! ## Block types -/

def blockTypeDateTime : UInt8 := 0
def blockTypeOptions : UInt8 := 1
def blockTypeRouterInfo : UInt8 := 2
def blockTypeI2NPMessage : UInt8 := 3
def blockTypeFirstFragment : UInt8 := 4
def blockTypeFollowOnFragment : UInt8 := 5
def blockTypeTermination : UInt8 := 6
def blockTypeRelayRequest : UInt8 := 7
def blockTypeRelayResponse : UInt8 := 8
def blockTypeRelayIntro : UInt8 := 9
def blockTypePeerTest : UInt8 := 10
def blockTypeNextNonce : UInt8 := 11
def blockTypeACK : UInt8 := 12
def blockTypeAddress : UInt8 := 13
def blockTypeReserved14 : UInt8 := 14
def blockTypeRelayTagRequest : UInt8 := 15
def blockTypeRelayTag : UInt8 := 16
def blockTypeNewToken : UInt8 := 17
def blockTypePathChallenge : UInt8 := 18
def blockTypePathResponse : UInt8 := 19
def blockTypeFirstPacketNumber : UInt8 := 20
def blockTypeCongestion : UInt8 := 21
def blockTypePadding : UInt8 := 254

def getBlockTypeName (t : UInt8) : String :=
  if t = blockTypeDateTime then "DateTime"
  else if t = blockTypeOptions then "Options"
  else if t = blockTypeRouterInfo then "RouterInfo"
  else if t = blockTypeI2NPMessage then "I2NPMessage"
  else if t = blockTypeFirstFragment then "FirstFragment"
  else if t = blockTypeFollowOnFragment then "FollowOnFragment"
  else if t = blockTypeTermination then "Termination"
  else if t = blockTypeRelayRequest then "RelayRequest"
  else if t = blockTypeRelayResponse then "RelayResponse"
  else if t = blockTypeRelayIntro then "RelayIntro"
  else if t = blockTypePeerTest then "PeerTest"
  else if t = blockTypeNextNonce then "NextNonce"
  else if t = blockTypeACK then "ACK"
  else if t = blockTypeAddress then "Address"
  else if t = blockTypeReserved14 then "Reserved14"
  else if t = blockTypeRelayTagRequest then "RelayTagRequest"
  else if t = blockTypeRelayTag then "RelayTag"
  else if t = blockTypeNewToken then "NewToken"
  else if t = blockTypePathChallenge then "PathChallenge"
  else if t = blockTypePathResponse then "PathResponse"
  else if t = blockTypeFirstPacketNumber then "FirstPacketNumber"
  else if t = blockTypeCongestion then "Congestion"
  else if t = blockTypePadding then "Padding"
  else "Unknown"

def tokenSize : ℕ := 8

/-- `minBlockHeaderSize`: the type byte and the two length bytes. -/
def minBlockHeaderSize : ℕ := 3

def maxBlockLength : ℕ := 65535

/-- `blockMinSizes`: the smallest payload of the types that have one. -/
def blockMinSizes (t : UInt8) : Option ℕ :=
  if t = blockTypeDateTime then some 4
  else if t = blockTypeOptions then some 12
  else if t = blockTypeTermination then some 9
  else if t = blockTypeNextNonce then some 8
  else if t = blockTypeACK then some 5
  else if t = blockTypeReserved14 then some 0
  else if t = blockTypeAddress then some 6
  else if t = blockTypeRelayTagRequest then some 0
  else if t = blockTypeRelayTag then some 4
  else if t = blockTypeNewToken then some 12
  else if t = blockTypeFirstPacketNumber then some 4
  else if t = blockTypeCongestion then some 1
  else none

def newSSU2Block (blockType : UInt8) (data : Bytes) : SSU2Block := ⟨blockType, data⟩

/-! ## One block -/

/-- `validate`: the length field can hold the length, and the type's minimum is met. -/
def SSU2Block.validate (b : SSU2Block) : Except Oops Unit :=
  if maxBlockLength < b.data.length then
    .error (.errorf s!"block data too large: {b.data.length} bytes (maximum {maxBlockLength})")
  else
    match blockMinSizes b.type with
    | some minSize =>
      if b.data.length < minSize then
        .error (.errorf
          s!"{getBlockTypeName b.type} block too short: {b.data.length} bytes (minimum {minSize})")
      else .ok ()
    | none => .ok ()

/-- The two size rules of `validate`. -/
structure SSU2Block.Valid (b : SSU2Block) : Prop where
  length_le : b.data.length ≤ maxBlockLength
  min_le : ∀ minSize ∈ blockMinSizes b.type, minSize ≤ b.data.length

theorem SSU2Block.validate_eq_ok_iff (b : SSU2Block) : b.validate = .ok () ↔ b.Valid := by
  unfold SSU2Block.validate
  constructor
  · intro h
    split at h
    · cases h
    · refine ⟨by omega, fun minSize hmin => ?_⟩
      rw [Option.mem_def] at hmin
      rw [hmin] at h
      by_contra hlt
      simp only [if_pos (Nat.lt_of_not_le hlt)] at h
      cases h
  · rintro ⟨hle, hmin⟩
    rw [if_neg (by omega)]
    cases hm : blockMinSizes b.type with
    | none => rfl
    | some minSize =>
      have h := hmin minSize (by rw [hm]; rfl)
      simp only [if_neg (Nat.not_lt.mpr h)]

/-- `Size`: the number of bytes on the wire. -/
def SSU2Block.size (b : SSU2Block) : ℕ := minBlockHeaderSize + b.data.length

/-- The bytes `Serialize` writes. -/
def SSU2Block.wire (b : SSU2Block) : Bytes :=
  b.type :: (putUint16 (UInt16.ofNat b.data.length) ++ b.data)

def SSU2Block.serialize (b : SSU2Block) : Except Oops Bytes :=
  match b.validate with
  | .error e => .error (e.wrapf "invalid block")
  | .ok () => .ok b.wire

/-- `Deserialize`: the block at the head of `data`, and how many bytes it takes. -/
def SSU2Block.deserialize (data : Bytes) : Except Oops (SSU2Block × ℕ) :=
  if data.length < minBlockHeaderSize then
    .error (.errorf s!"block too short: {data.length} bytes (minimum {minBlockHeaderSize})")
  else
    let dataLen := (uint16 ((data.drop 1).take 2)).toNat
    let totalLen := minBlockHeaderSize + dataLen
    if data.length < totalLen then
      .error (.errorf
        s!"insufficient data: have {data.length} bytes, need {totalLen} (header + {dataLen} data)")
    else
      let b : SSU2Block := ⟨data.headD 0, (data.drop 3).take dataLen⟩
      match b.validate with
      | .error e => .error (e.wrapf "invalid decoded block")
      | .ok () => .ok (b, totalLen)

theorem SSU2Block.length_wire (b : SSU2Block) : b.wire.length = b.size := by
  simp only [SSU2Block.wire, SSU2Block.size, minBlockHeaderSize, List.length_cons,
    List.length_append, length_putUint16]
  omega

variable {b : SSU2Block} {blocks : List SSU2Block}

theorem SSU2Block.serialize_of_valid (h : b.Valid) : b.serialize = .ok b.wire := by
  rw [SSU2Block.serialize, (SSU2Block.validate_eq_ok_iff b).mpr h]

/-- A serialized block is read back, whatever follows it, and exactly its bytes are
consumed. -/
theorem SSU2Block.deserialize_wire_append (h : b.Valid) (rest : Bytes) :
    SSU2Block.deserialize (b.wire ++ rest) = .ok (b, b.size) := by
  have hlen : (UInt16.ofNat b.data.length).toNat = b.data.length := by
    have hle := h.length_le
    unfold maxBlockLength at hle
    rw [UInt16.toNat_ofNat', Nat.mod_eq_of_lt (by omega)]
  have hfull : (b.wire ++ rest).length = b.size + rest.length := by
    rw [List.length_append, SSU2Block.length_wire]
  have hdrop1 : ((b.wire ++ rest).drop 1).take 2 = putUint16 (UInt16.ofNat b.data.length) := by
    rw [SSU2Block.wire, List.cons_append, List.drop_succ_cons, List.drop_zero, List.append_assoc,
      take_putUint16_append]
  have hdrop3 : ((b.wire ++ rest).drop 3).take b.data.length = b.data := by
    rw [SSU2Block.wire, List.cons_append, List.drop_succ_cons, List.append_assoc,
      drop_putUint16_append]
    exact List.take_left' rfl
  have hsize : b.size = minBlockHeaderSize + b.data.length := rfl
  unfold SSU2Block.deserialize
  simp only [hdrop1, uint16_putUint16, hlen, hdrop3]
  rw [if_neg (by rw [hfull, hsize]; omega), if_neg (by rw [hfull, hsize]; omega)]
  have hb : (⟨(b.wire ++ rest).headD 0, b.data⟩ : SSU2Block) = b := rfl
  rw [hb, (SSU2Block.validate_eq_ok_iff b).mpr h]
  rfl

/-! ## Payloads -/

/-- `enforceBlockOrder`: the last Termination and the last Padding block go to the end, in that
order. -/
def enforceBlockOrder (blocks : List SSU2Block) : List SSU2Block :=
  let normal := blocks.filter fun b => b.type ≠ blockTypeTermination ∧ b.type ≠ blockTypePadding
  let termBlock := (blocks.filter fun b => b.type = blockTypeTermination).getLast?
  let padBlock := (blocks.filter fun b => b.type = blockTypePadding).getLast?
  normal ++ termBlock.toList ++ padBlock.toList

def serializeFrom (i : ℕ) : List SSU2Block → Except Oops Bytes
  | [] => .ok []
  | b :: rest =>
    match b.serialize with
    | .error e => .error (e.wrapf s!"failed to serialize block {i} (type {b.type})")
    | .ok data =>
      match serializeFrom (i + 1) rest with
      | .error e => .error e
      | .ok buf => .ok (data ++ buf)

def serializeBlocks (blocks : List SSU2Block) : Except Oops Bytes :=
  if blocks.isEmpty then .ok [] else serializeFrom 0 (enforceBlockOrder blocks)

/-- The loop of `DeserializeBlocks` at byte `offset`. A block takes at least three bytes, so the
number of bytes bounds the number of rounds. -/
def deserializeFrom : ℕ → ℕ → Bytes → Except Oops (List SSU2Block)
  | 0, _, _ => .ok []
  | fuel + 1, offset, data =>
    if data.isEmpty then .ok []
    else
      match SSU2Block.deserialize data with
      | .error e => .error (e.wrapf s!"failed to deserialize block at offset {offset}")
      | .ok (block, consumed) =>
        match deserializeFrom fuel (offset + consumed) (data.drop consumed) with
        | .error e => .error e
        | .ok blocks => .ok (block :: blocks)

def deserializeBlocks (data : Bytes) : Except Oops (List SSU2Block) :=
  deserializeFrom data.length 0 data

/-- Reading a concatenation of valid blocks, with enough rounds. -/
theorem deserializeFrom_flatten (h : ∀ b ∈ blocks, b.Valid) {fuel : ℕ}
    (hfuel : (blocks.map SSU2Block.wire).flatten.length ≤ fuel) (offset : ℕ) :
    deserializeFrom fuel offset (blocks.map SSU2Block.wire).flatten = .ok blocks := by
  induction blocks generalizing fuel offset with
  | nil => cases fuel <;> rfl
  | cons b blocks ih =>
    rw [List.forall_mem_cons] at h
    rw [List.map_cons, List.flatten_cons] at hfuel ⊢
    rw [List.length_append, SSU2Block.length_wire, SSU2Block.size, minBlockHeaderSize] at hfuel
    obtain ⟨fuel, rfl⟩ : ∃ k, fuel = k + 1 := ⟨fuel - 1, by omega⟩
    have hne : (b.wire ++ (blocks.map SSU2Block.wire).flatten).isEmpty = false := by
      rw [SSU2Block.wire]
      rfl
    have hdrop : (b.wire ++ (blocks.map SSU2Block.wire).flatten).drop b.size =
        (blocks.map SSU2Block.wire).flatten := List.drop_left' b.length_wire
    simp only [deserializeFrom, hne, SSU2Block.deserialize_wire_append h.1, hdrop,
      ih h.2 (by omega : (blocks.map SSU2Block.wire).flatten.length ≤ fuel)]
    rfl

theorem deserializeBlocks_flatten (h : ∀ b ∈ blocks, b.Valid) :
    deserializeBlocks (blocks.map SSU2Block.wire).flatten = .ok blocks :=
  deserializeFrom_flatten h le_rfl 0

theorem enforceBlockOrder_of_normal
    (h : ∀ b ∈ blocks, b.type ≠ blockTypeTermination ∧ b.type ≠ blockTypePadding) :
    enforceBlockOrder blocks = blocks := by
  have hnormal : blocks.filter
      (fun b => b.type ≠ blockTypeTermination ∧ b.type ≠ blockTypePadding) = blocks :=
    List.filter_eq_self.mpr fun b hb => decide_eq_true (h b hb)
  have hterm : blocks.filter (fun b => b.type = blockTypeTermination) = [] :=
    List.filter_eq_nil_iff.mpr fun b hb => by simpa using (h b hb).1
  have hpad : blocks.filter (fun b => b.type = blockTypePadding) = [] :=
    List.filter_eq_nil_iff.mpr fun b hb => by simpa using (h b hb).2
  rw [enforceBlockOrder, hnormal, hterm, hpad]
  simp

theorem serializeFrom_of_valid (h : ∀ b ∈ blocks, b.Valid) (i : ℕ) :
    serializeFrom i blocks = .ok (blocks.map SSU2Block.wire).flatten := by
  induction blocks generalizing i with
  | nil => rfl
  | cons b blocks ih =>
    rw [List.forall_mem_cons] at h
    rw [serializeFrom, SSU2Block.serialize_of_valid h.1, ih h.2]
    rfl

theorem serializeBlocks_of_valid (h : ∀ b ∈ blocks, b.Valid)
    (hnormal : ∀ b ∈ blocks, b.type ≠ blockTypeTermination ∧ b.type ≠ blockTypePadding) :
    serializeBlocks blocks = .ok (blocks.map SSU2Block.wire).flatten := by
  rw [serializeBlocks, enforceBlockOrder_of_normal hnormal]
  split_ifs with hempty
  · rw [List.isEmpty_iff.mp hempty]
    rfl
  · exact serializeFrom_of_valid h 0

theorem enforceBlockOrder_singleton (b : SSU2Block) : enforceBlockOrder [b] = [b] := by
  by_cases ht : b.type = blockTypeTermination
  · simp [enforceBlockOrder, ht, blockTypeTermination, blockTypePadding]
  · by_cases hp : b.type = blockTypePadding
    · simp [enforceBlockOrder, hp, blockTypeTermination, blockTypePadding]
    · simp [enforceBlockOrder, ht, hp]

theorem serializeBlocks_singleton_iff {payload : Bytes} :
    serializeBlocks [b] = .ok payload ↔ b.Valid ∧ payload = b.wire := by
  have hne : ([b] : List SSU2Block).isEmpty = false := rfl
  rw [serializeBlocks, hne, enforceBlockOrder_singleton, serializeFrom, SSU2Block.serialize,
    ← SSU2Block.validate_eq_ok_iff]
  cases b.validate with
  | error e => simp
  | ok u => simp [serializeFrom, eq_comm]

theorem serializeBlocks_singleton (h : b.Valid) : serializeBlocks [b] = .ok b.wire :=
  serializeBlocks_singleton_iff.mpr ⟨h, rfl⟩

theorem deserializeBlocks_wire (h : b.Valid) : deserializeBlocks b.wire = .ok [b] := by
  have hb := @deserializeBlocks_flatten [b] (List.forall_mem_singleton.mpr h)
  rwa [List.map_singleton, List.flatten_singleton] at hb

end GoNoise.SSU2
