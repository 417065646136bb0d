import GoNoise.Ratchet.Session

/-!
# `ratchet/payload_builder.go`: payloads out of blocks and back

`Build` checks the order of the blocks and serializes them, `prependPendingNextKeys` puts control
blocks in front of a finished payload, `ParsePayload` reads a payload block by block.
-/

namespace GoNoise.Ratchet

open BigEndian

def blockOptions : UInt8 := 5
def blockPadding : UInt8 := 254

def maxPayloadSize : ℕ := 65519

/-! ## `PayloadBuilder` -/

structure PayloadBuilder where
  blocks : List PayloadBlock

/-- What the loop of `validate` finds; the source writes `-1` for an index it has not found. -/
structure BlockIndexes where
  paddingCount : ℕ
  terminationIdx : Option ℕ
  paddingIdx : Option ℕ

/-- The loop of `validate`, from index `i` on. -/
def scanBlocks : ℕ → BlockIndexes → List PayloadBlock → Except Oops BlockIndexes
  | _, found, [] => .ok found
  | i, found, b :: rest =>
    if b.type = blockOptions then
      .error (.errorf (s!"BlockOptions (type {blockOptions}) is unimplemented in the I2P ECIES " ++
        "spec and must not appear in outgoing messages (ratchet.md §\"Unencrypted data\")"))
    else if b.type = blockPadding then
      let found := { found with paddingCount := found.paddingCount + 1 }
      if 1 < found.paddingCount then .error (.errorf "multiple padding blocks not allowed")
      else scanBlocks (i + 1) { found with paddingIdx := some i } rest
    else if b.type = blockTermination then
      scanBlocks (i + 1) { found with terminationIdx := some i } rest
    else scanBlocks (i + 1) found rest

/-- Padding must be the last block. -/
def checkPadding (count : ℤ) : Option ℕ → Except Oops Unit
  | some paddingIdx =>
    if (paddingIdx : ℤ) ≠ count - 1 then
      .error (.errorf (s!"padding block must be the last block (found at index {paddingIdx} " ++
        s!"of {count - 1})"))
    else .ok ()
  | none => .ok ()

/-- Termination must be last except for padding. -/
def checkTermination (count : ℤ) (found : BlockIndexes) : Except Oops Unit :=
  match found.terminationIdx with
  | some terminationIdx =>
    let expectedLast := if found.paddingIdx.isSome then count - 2 else count - 1
    if (terminationIdx : ℤ) ≠ expectedLast then
      .error (.errorf (s!"termination block must be last non-padding block " ++
        s!"(found at index {terminationIdx}, expected {expectedLast})"))
    else .ok ()
  | none => .ok ()

/-- The loop of `Build`, into a buffer with that much room. -/
def serializeBlocks : ℕ → List PayloadBlock → Except Oops Bytes
  | _, [] => .ok []
  | room, b :: rest =>
    match b.serialize room with
    | .error e => .error (e.wrapf s!"failed to serialize block type {b.type}")
    | .ok wire =>
      match serializeBlocks (room - wire.length) rest with
      | .error e => .error e
      | .ok more => .ok (wire ++ more)

namespace PayloadBuilder

def validate (pb : PayloadBuilder) : Except Oops Unit :=
  if pb.blocks.length = 0 then .ok ()
  else
    match scanBlocks 0 ⟨0, none, none⟩ pb.blocks with
    | .error e => .error e
    | .ok found =>
      match checkPadding pb.blocks.length found.paddingIdx with
      | .error e => .error e
      | .ok () => checkTermination pb.blocks.length found

def build (pb : PayloadBuilder) : Except Oops Bytes :=
  match pb.validate with
  | .error e => .error e
  | .ok () =>
    let totalSize := (pb.blocks.map PayloadBlock.serializeSize).sum
    if maxPayloadSize < totalSize then
      .error (.errorf s!"payload size {totalSize} exceeds maximum {maxPayloadSize}")
    else serializeBlocks totalSize pb.blocks

end PayloadBuilder

/-! ## The wire form -/

def PayloadBlock.wire (b : PayloadBlock) : Bytes :=
  b.type :: (putUint16 (UInt16.ofNat b.data.length) ++ b.data)

def wireAll (blocks : List PayloadBlock) : Bytes := blocks.flatMap PayloadBlock.wire

theorem wireAll_cons (b : PayloadBlock) (blocks : List PayloadBlock) :
    wireAll (b :: blocks) = b.type :: (putUint16 (UInt16.ofNat b.data.length) ++
      (b.data ++ wireAll blocks)) := by
  simp [wireAll, PayloadBlock.wire]

theorem PayloadBlock.length_wire (b : PayloadBlock) : b.wire.length = b.serializeSize := by
  rw [wire, List.length_cons, List.length_append, length_putUint16, serializeSize, blockHeaderSize]
  omega

/-- The size field of a block holds the length of its data. -/
def PayloadBlock.Sized (b : PayloadBlock) : Prop := b.data.length < 2 ^ 16

variable {b : PayloadBlock} {blocks : List PayloadBlock} {room : ℕ}

/-- A payload that begins with a block, field by field. -/
theorem eq_wireAll_cons_iff {t x y : UInt8} {rest : Bytes} :
    t :: x :: y :: rest = wireAll (b :: blocks) ∧ b.Sized ↔
      (uint16 [x, y]).toNat ≤ rest.length ∧ b = ⟨t, rest.take (uint16 [x, y]).toNat⟩ ∧
        rest.drop (uint16 [x, y]).toNat = wireAll blocks := by
  constructor
  · rintro ⟨hdata, hsized⟩
    rw [wireAll_cons, List.cons.injEq] at hdata
    obtain ⟨rfl, hdata⟩ := hdata
    obtain ⟨hlen, rfl⟩ : [x, y] = putUint16 (UInt16.ofNat b.data.length) ∧
        rest = b.data ++ wireAll blocks :=
      List.append_inj (show [x, y] ++ rest = _ from hdata) (length_putUint16 _).symm
    have hn : (uint16 [x, y]).toNat = b.data.length := by
      rw [hlen, uint16_putUint16, UInt16.toNat_ofNat', Nat.mod_eq_of_lt hsized]
    rw [hn, List.take_left, List.drop_left]
    exact ⟨by simp, rfl, rfl⟩
  · rintro ⟨hle, rfl, hdrop⟩
    have hlen : (rest.take (uint16 [x, y]).toNat).length = (uint16 [x, y]).toNat := by
      rw [List.length_take, Nat.min_eq_left hle]
    refine ⟨?_, by rw [PayloadBlock.Sized, hlen]; exact UInt16.toNat_lt _⟩
    rw [wireAll_cons, hlen, UInt16.ofNat_toNat, putUint16_uint16 (l := [x, y]) rfl, ← hdrop,
      List.take_append_drop]
    rfl

/-- The loop of `ParsePayload` reads a concatenation of blocks, and nothing else. -/
theorem parseFrom_eq_ok_iff {fuel : ℕ} {data : Bytes} (hfuel : data.length ≤ fuel) (offset : ℕ)
    {blocks : List PayloadBlock} :
    parseFrom fuel offset data = .ok blocks ↔ data = wireAll blocks ∧ ∀ b ∈ blocks, b.Sized := by
  have hnil : ∀ {blocks}, (Except.ok [] : Except Oops (List PayloadBlock)) = .ok blocks ↔
      ([] : Bytes) = wireAll blocks ∧ ∀ b ∈ blocks, b.Sized := by
    rintro (_ | ⟨b, blocks⟩) <;> simp [wireAll, PayloadBlock.wire]
  induction fuel generalizing data offset blocks with
  | zero =>
    obtain rfl : data = [] := List.length_eq_zero_iff.mp (Nat.le_zero.mp hfuel)
    exact hnil
  | succ fuel ih =>
    rw [parseFrom]
    by_cases hempty : data.length = 0
    · rw [if_pos hempty, List.length_eq_zero_iff.mp hempty]
      exact hnil
    rw [if_neg hempty]
    by_cases hshort : data.length < blockHeaderSize
    · -- a cut header is no block
      rw [if_pos hshort]
      refine iff_of_false nofun ?_
      rintro ⟨rfl, -⟩
      cases blocks with
      | nil => exact hempty rfl
      | cons b blocks =>
        rw [wireAll_cons, List.length_cons, List.length_append, length_putUint16,
          blockHeaderSize] at hshort
        omega
    rw [if_neg hshort]
    obtain ⟨t, x, y, rest, rfl⟩ : ∃ t x y rest, data = t :: x :: y :: rest := by
      match data, not_lt.mp hshort with
      | [_], h => exact absurd h (by simp [blockHeaderSize])
      | [_, _], h => exact absurd h (by simp [blockHeaderSize])
      | t :: x :: y :: rest, _ => exact ⟨t, x, y, rest, rfl⟩
    have hrest : (rest.drop (uint16 [x, y]).toNat).length ≤ fuel := by
      rw [List.length_drop]
      simp only [List.length_cons] at hfuel
      omega
    have ih := fun blocks => @ih _ hrest (offset + blockHeaderSize + (uint16 [x, y]).toNat) blocks
    simp only [List.headD_cons, blockHeaderSize, List.drop_succ_cons, List.drop_zero,
      List.take_succ_cons, List.take_zero] at ih ⊢
    cases blocks with
    | nil =>
      refine iff_of_false ?_ nofun
      split_ifs
      · nofun
      · split <;> nofun
    | cons b blocks =>
      rw [List.forall_mem_cons, ← and_assoc, eq_wireAll_cons_iff]
      by_cases hlong : rest.length < (uint16 [x, y]).toNat
      · rw [if_pos hlong]
        exact iff_of_false nofun fun h => absurd h.1.1 (not_le.mpr hlong)
      rw [if_neg hlong, and_iff_right (not_lt.mp hlong), and_assoc]
      refine Iff.trans ?_ (and_congr_right fun _ => ih blocks)
      split
      next e he => simp [he]
      next blocks' he => simp [he, eq_comm]

theorem parsePayload_eq_ok_iff {data : Bytes} :
    parsePayload data = .ok blocks ↔ data = wireAll blocks ∧ ∀ b ∈ blocks, b.Sized :=
  parseFrom_eq_ok_iff le_rfl 0

/-! ## Writing -/

theorem PayloadBlock.serialize_eq (h : b.serializeSize ≤ room) :
    (b.data.length ≤ maxBlockDataSize → b.serialize room = .ok b.wire) ∧
      (maxBlockDataSize < b.data.length → ∃ e, b.serialize room = .error e) := by
  constructor
  · intro hle
    rw [serialize, if_neg (not_lt.mpr h), if_neg (not_lt.mpr hle)]
    rfl
  · intro hlt
    exact ⟨_, by rw [serialize, if_neg (not_lt.mpr h), if_pos hlt]⟩

/-- The loop of `Build` fails only on a block that is too large. -/
theorem serializeBlocks_eq_ok_iff (hroom : (blocks.map PayloadBlock.serializeSize).sum ≤ room)
    (bytes : Bytes) :
    serializeBlocks room blocks = .ok bytes ↔
      bytes = wireAll blocks ∧ ∀ b ∈ blocks, b.data.length ≤ maxBlockDataSize := by
  induction blocks generalizing room bytes with
  | nil => simp [serializeBlocks, wireAll, eq_comm]
  | cons b blocks ih =>
    rw [List.map_cons, List.sum_cons] at hroom
    obtain ⟨hok, herr⟩ := @PayloadBlock.serialize_eq b room (by omega)
    rw [serializeBlocks, List.forall_mem_cons]
    by_cases hle : b.data.length ≤ maxBlockDataSize
    · rw [hok hle]
      have ih := @ih (room - b.wire.length) (by rw [b.length_wire]; omega)
      dsimp only
      rcases hmore : serializeBlocks (room - b.wire.length) blocks with e | more
      · refine iff_of_false nofun fun h => ?_
        have hall := (ih (wireAll blocks)).mpr ⟨rfl, h.2.2⟩
        rw [hmore] at hall
        cases hall
      · obtain ⟨rfl, hall⟩ := (ih more).mp hmore
        rw [and_iff_left ⟨hle, hall⟩, Except.ok.injEq]
        exact eq_comm
    · obtain ⟨e, he⟩ := herr (not_le.mp hle)
      rw [he]
      exact iff_of_false nofun fun h => hle h.2.1

theorem serializeControl_eq_ok_iff (room : ℕ) (blocks : List PayloadBlock) (bytes : Bytes) :
    Session.serializeControl room blocks = .ok bytes ↔ serializeBlocks room blocks = .ok bytes := by
  induction blocks generalizing room bytes with
  | nil => rfl
  | cons b blocks ih =>
    rw [Session.serializeControl, serializeBlocks]
    cases b.serialize room with
    | error e => simp only [reduceCtorEq]
    | ok wire =>
      have ih := ih (room - wire.length)
      dsimp only
      generalize Session.serializeControl (room - wire.length) blocks = control at ih ⊢
      generalize serializeBlocks (room - wire.length) blocks = written at ih ⊢
      cases control with
      | ok more => rw [(ih more).mp rfl]
      | error e =>
        cases written with
        | ok more => cases (ih more).mpr rfl
        | error e => simp only [reduceCtorEq]

theorem PayloadBuilder.build_ok {pb : PayloadBuilder} {bytes : Bytes} (h : pb.build = .ok bytes) :
    bytes = wireAll pb.blocks ∧ ∀ b ∈ pb.blocks, b.data.length ≤ maxBlockDataSize := by
  unfold build at h
  split at h
  · cases h
  · dsimp only at h
    split_ifs at h
    exact (serializeBlocks_eq_ok_iff le_rfl bytes).mp h

variable {δ σ τ : Type}

/-- `prependPendingNextKeys` fails only on a control block that is too large. -/
theorem prependPendingNextKeys_eq_ok_iff (s : Session δ σ τ) (plaintext payload : Bytes) :
    (s.prependPendingNextKeys plaintext).1 = .ok payload ↔
      payload = wireAll (s.pendingNextKeys ++ s.pendingAcks) ++ plaintext ∧
        ∀ b ∈ s.pendingNextKeys ++ s.pendingAcks, b.data.length ≤ maxBlockDataSize := by
  rw [Session.prependPendingNextKeys]
  generalize s.pendingNextKeys ++ s.pendingAcks = pendingBlocks
  dsimp only
  split_ifs with hnone
  · rw [List.length_eq_zero_iff.mp hnone]
    simp [wireAll, eq_comm]
  · have hwire := @serializeBlocks_eq_ok_iff pendingBlocks _
      (Nat.le_add_right _ plaintext.length)
    simp only [← serializeControl_eq_ok_iff] at hwire
    generalize Session.serializeControl _ pendingBlocks = control at hwire ⊢
    cases control with
    | error e =>
      refine iff_of_false nofun fun h => ?_
      cases (hwire _).mpr ⟨rfl, h.2⟩
    | ok control =>
      obtain ⟨rfl, hall⟩ := (hwire control).mp rfl
      rw [and_iff_left hall, Except.ok.injEq]
      exact eq_comm

/-- **The payload codec.** `ParsePayload` returns the blocks that `Build` was given; `Build` of
parsed blocks returns the payload they came from; and control blocks put in front of a payload,
which succeeds unless one is too large, are read before its blocks. -/
theorem payload_codec :
    (∀ (pb : PayloadBuilder) (bytes : Bytes), pb.build = .ok bytes →
      parsePayload bytes = .ok pb.blocks) ∧
    (∀ (data : Bytes) (blocks : List PayloadBlock) (bytes : Bytes), parsePayload data = .ok blocks →
      PayloadBuilder.build ⟨blocks⟩ = .ok bytes → bytes = data) ∧
    ∀ (s : Session δ σ τ) (plaintext : Bytes) (blocks : List PayloadBlock),
      parsePayload plaintext = .ok blocks →
      ((∃ payload, (s.prependPendingNextKeys plaintext).1 = .ok payload) ↔
        ∀ b ∈ s.pendingNextKeys ++ s.pendingAcks, b.data.length ≤ maxBlockDataSize) ∧
      ∀ payload, (s.prependPendingNextKeys plaintext).1 = .ok payload →
        parsePayload payload = .ok (s.pendingNextKeys ++ s.pendingAcks ++ blocks) := by
  have hsized : ∀ b : PayloadBlock, b.data.length ≤ maxBlockDataSize → b.Sized :=
    fun b hb => lt_of_le_of_lt hb (by decide)
  refine ⟨?_, ?_, ?_⟩
  · intro pb bytes hbuild
    obtain ⟨rfl, hall⟩ := PayloadBuilder.build_ok hbuild
    exact parsePayload_eq_ok_iff.mpr ⟨rfl, fun b hb => hsized b (hall b hb)⟩
  · intro data blocks bytes hparse hbuild
    rw [(PayloadBuilder.build_ok hbuild).1, (parsePayload_eq_ok_iff.mp hparse).1]
  · intro s plaintext blocks hparse
    obtain ⟨rfl, hblocks⟩ := parsePayload_eq_ok_iff.mp hparse
    simp only [prependPendingNextKeys_eq_ok_iff]
    refine ⟨⟨fun ⟨_, h⟩ => h.2, fun h => ⟨_, rfl, h⟩⟩, ?_⟩
    rintro _ ⟨rfl, hall⟩
    rw [wireAll, wireAll, ← List.flatMap_append, parsePayload_eq_ok_iff]
    refine ⟨rfl, fun b hb => ?_⟩
    rcases List.mem_append.mp hb with hb | hb
    · exact hsized b (hall b hb)
    · exact hblocks b hb

/-! ## The order of the blocks -/

namespace PayloadBuilder

abbrev types (pb : PayloadBuilder) : List UInt8 := pb.blocks.map PayloadBlock.type

/-- What `validate` has found in blocks of these types. -/
structure Found (types : List UInt8) (found : BlockIndexes) : Prop where
  options : blockOptions ∉ types
  padding : ∀ i, types[i]? = some blockPadding ↔ found.paddingIdx = some i
  count : found.paddingIdx.isSome → found.paddingCount = 1
  termination : ∀ i, found.terminationIdx = some i → types[i]? = some blockTermination
  noTermination : found.terminationIdx = none → blockTermination ∉ types

theorem Found.scanBlocks {types : List UInt8} {found out : BlockIndexes}
    (h : Found types found) {blocks : List PayloadBlock}
    (hout : scanBlocks types.length found blocks = .ok out) :
    Found (types ++ blocks.map PayloadBlock.type) out := by
  induction blocks generalizing types found with
  | nil =>
    cases hout
    rwa [List.map_nil, List.append_nil]
  | cons b blocks ih =>
    rw [Ratchet.scanBlocks] at hout
    rw [List.map_cons, List.append_cons]
    have hnext : types.length + 1 = (types ++ [b.type]).length := by
      rw [List.length_append, List.length_singleton]
    rw [hnext] at hout
    obtain ⟨hoptions, hpadding, hcount, htermination, hnone⟩ := h
    dsimp only at hout
    split_ifs at hout with h5 h254 hcount' h4
    · have hfirst : found.paddingIdx = none := by
        by_contra hsome
        have hone := hcount (Option.isSome_iff_ne_none.mpr hsome)
        omega
      refine ih ?_ hout
      constructor <;> grind [blockPadding, blockTermination]
    · refine ih ?_ hout
      constructor <;> grind [blockPadding, blockTermination]
    · refine ih ?_ hout
      constructor <;> grind

theorem Found.of_validate {pb : PayloadBuilder} (h : pb.validate = .ok ()) :
    ∃ found, Found pb.types found ∧
      (∀ i, found.paddingIdx = some i → i + 1 = pb.types.length) ∧
      ∀ i, found.terminationIdx = some i →
        i + (if found.paddingIdx.isSome then 2 else 1) = pb.types.length := by
  have hstart : Found [] ⟨0, none, none⟩ := by
    constructor <;> simp
  unfold validate at h
  split_ifs at h with hempty
  · have hnil : pb.types = [] := List.map_eq_nil_iff.mpr (List.eq_nil_of_length_eq_zero hempty)
    exact ⟨⟨0, none, none⟩, hnil ▸ hstart, nofun, nofun⟩
  split at h
  · cases h
  next found hscan =>
    refine ⟨found, hstart.scanBlocks hscan, ?_⟩
    split at h
    · cases h
    next hpadding =>
      unfold checkPadding at hpadding
      unfold checkTermination at h
      rw [List.length_map]
      grind

/-- **The order of the blocks.** In a list that `Build` accepts there are no Options, padding comes
last, and, exactly if there is one Termination block at most, nothing else comes after it. -/
theorem build_ordered_iff {pb : PayloadBuilder} {bytes : Bytes} (h : pb.build = .ok bytes) :
    (blockOptions ∉ pb.types ∧
      (∀ i : ℕ, pb.types[i]? = some blockPadding → i + 1 = pb.types.length) ∧
      ∀ i j : ℕ, pb.types[i]? = some blockTermination → i < j → j < pb.types.length →
        pb.types[j]? = some blockPadding) ↔
      ∀ i j : ℕ, pb.types[i]? = some blockTermination → pb.types[j]? = some blockTermination →
        i = j := by
  have hvalid : pb.validate = .ok () := by
    unfold build at h
    split at h
    · cases h
    · assumption
  obtain ⟨found, hfound, hpadding, htermination⟩ := Found.of_validate hvalid
  have hne : some blockTermination ≠ some blockPadding := by decide
  constructor
  · rintro ⟨-, -, hlast⟩ i j hi hj
    have hlt (i : ℕ) (hi : pb.types[i]? = some blockTermination) : i < pb.types.length :=
      (List.getElem?_eq_some_iff.mp hi).1
    rcases lt_trichotomy i j with hij | hij | hij
    · exact absurd (hj.symm.trans (hlast i j hi hij (hlt j hj))) hne
    · exact hij
    · exact absurd (hi.symm.trans (hlast j i hj hij (hlt i hi))) hne
  · intro hone
    refine ⟨hfound.options, fun i hi => hpadding i ((hfound.padding i).mp hi), ?_⟩
    intro i j hi hij hj
    cases hidx : found.terminationIdx with
    | none => exact absurd (List.mem_of_getElem? hi) (hfound.noTermination hidx)
    | some t =>
      obtain rfl := hone i t hi (hfound.termination t hidx)
      have ht := htermination i hidx
      -- only the padding can come after the last Termination
      split_ifs at ht with hsome
      · obtain ⟨p, hp⟩ := Option.isSome_iff_exists.mp hsome
        have hlast := hpadding p hp
        rw [(hfound.padding j).mpr (hp.trans (congrArg some (by omega)))]
      · omega

/-- Padding after a Termination. -/
theorem build_ordered_padded :
    let pb := PayloadBuilder.mk [⟨blockTermination, [0]⟩, ⟨blockPadding, []⟩]
    pb.build = .ok [4, 0, 1, 0, 254, 0, 0] ∧ pb.types[1]? = some blockPadding := by
  have hbuild : (PayloadBuilder.mk [⟨blockTermination, [0]⟩, ⟨blockPadding, []⟩]).build =
      .ok [4, 0, 1, 0, 254, 0, 0] := by decide
  refine ⟨hbuild, ((build_ordered_iff hbuild).mpr ?_).2.2 0 1 rfl (by decide) (by decide)⟩
  rintro (_ | _ | i) (_ | _ | j) <;> simp [blockTermination, blockPadding]

/-- Two Termination blocks: the second one comes after the first and is not padding. -/
theorem build_two_terminations :
    let pb := PayloadBuilder.mk [⟨blockTermination, [0]⟩, ⟨blockTermination, [0]⟩]
    pb.build = .ok [4, 0, 1, 0, 4, 0, 1, 0] ∧ pb.types[0]? = some blockTermination ∧
      pb.types[1]? ≠ some blockPadding := by
  decide

end PayloadBuilder

end GoNoise.Ratchet
