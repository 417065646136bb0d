import GoNoise.Oops
import GoNoise.Library.Bytes
import Mathlib.Data.Rat.Defs
import Mathlib.Data.List.Range
import Mathlib.Tactic.NormNum

/-!
# `handshake/padding_engine.go`: padding

The padding modifiers of both transports pad with this engine: it chooses a size, appends a padding
block `[254][size:2][random bytes]` and takes a trailing padding block off again. The block is
looked for from the end of the data, smallest size first.
-/

namespace GoNoise.Handshake

open BigEndian

inductive HandshakePhase
  | initial
  | exchange
  | final
  | data
  deriving DecidableEq

namespace HandshakePhase

/-- The number of a phase. The code compares phases by it. -/
def toNat : HandshakePhase → ℕ
  | initial => 0
  | exchange => 1
  | final => 2
  | data => 3

def string : HandshakePhase → String
  | initial => "initial"
  | exchange => "exchange"
  | final => "final"
  | data => "data"

instance : LT HandshakePhase := ⟨fun p q => p.toNat < q.toNat⟩
instance : LE HandshakePhase := ⟨fun p q => p.toNat ≤ q.toNat⟩

instance (p q : HandshakePhase) : Decidable (p < q) := inferInstanceAs
    (Decidable (p.toNat < q.toNat))
instance (p q : HandshakePhase) : Decidable (p ≤ q) := inferInstanceAs
    (Decidable (p.toNat ≤ q.toNat))

end HandshakePhase

def i2pPaddingBlockType : UInt8 := 254

def i2pBlockHeaderSize : ℕ := 3

def i2pMaxBlockDataSize : ℕ := 65516

def i2pMaxPaddingRatio : ℚ := 15.9375

structure PaddingEngineConfig where
  minPadding : ℤ
  maxPadding : ℤ
  paddingRatio : ℚ
  testMode : Bool
  domain : String
  deriving DecidableEq

def validatePaddingParams (domain : String) (minPadding maxPadding : ℤ) (paddingRatio : ℚ) :
    Except Oops Unit :=
  if minPadding < 0 then
    .error ⟨"INVALID_PADDING", domain, [("min_padding", minPadding)],
      "minimum padding cannot be negative"⟩
  else if maxPadding < minPadding then
    .error ⟨"INVALID_PADDING", domain, [("min_padding", minPadding), ("max_padding", maxPadding)],
      "maximum padding cannot be less than minimum padding"⟩
  else if i2pMaxBlockDataSize < maxPadding then
    .error ⟨"INVALID_PADDING", domain, [("max_padding", maxPadding)],
      s!"maximum padding cannot exceed {i2pMaxBlockDataSize} bytes (I2P spec limit)"⟩
  else if paddingRatio < 0 ∨ i2pMaxPaddingRatio < paddingRatio then
    .error ⟨"INVALID_PADDING_RATIO", domain, [],
      "padding ratio must be between 0.0 and 15.9375 (I2P spec)"⟩
  else .ok ()

theorem bounds_of_validatePaddingParams {domain : String} {minPadding maxPadding : ℤ}
    {paddingRatio : ℚ}
    (h : validatePaddingParams domain minPadding maxPadding paddingRatio = .ok ()) :
    0 ≤ minPadding ∧ minPadding ≤ maxPadding ∧ maxPadding ≤ i2pMaxBlockDataSize := by
  unfold validatePaddingParams at h
  split_ifs at h
  omega

/-- `PaddingEngine`: parameters that were accepted. -/
structure PaddingEngine where
  config : PaddingEngineConfig
  valid : validatePaddingParams config.domain config.minPadding config.maxPadding
    config.paddingRatio = .ok ()

def newPaddingEngine (config : PaddingEngineConfig) : Except Oops PaddingEngine :=
  match h : validatePaddingParams config.domain config.minPadding config.maxPadding
      config.paddingRatio with
  | .error e => .error e
  | .ok () => .ok ⟨config, h⟩

/-- What `rand.Read` returns to one call of `ModifyOutbound`: the number that varies the size, and
the padding bytes. -/
structure Draw where
  variation : Except Oops UInt32
  content : Except Oops (ℕ → UInt8)

namespace PaddingEngine

def shouldSkipPadding (pe : PaddingEngine) : Bool :=
  pe.config.minPadding = 0 ∧ pe.config.maxPadding = 0 ∧ pe.config.paddingRatio = 0

section
-- `int(float64(dataLen) * ratio)`, as the floating point arithmetic of the machine has it.
variable (product : ℕ → ℚ → ℤ) {paddingSize : ℤ} (pe : PaddingEngine) (draw : Draw) (dataLen : ℕ)

def calculateRatioPadding (pe : PaddingEngine) (dataLen : ℕ) : ℤ :=
  if 0 < pe.config.paddingRatio then product dataLen pe.config.paddingRatio else 0

def enforceMinimumPadding (pe : PaddingEngine) (paddingSize : ℤ) : ℤ :=
  if paddingSize < pe.config.minPadding then pe.config.minPadding else paddingSize

def enforceMaximumPadding (pe : PaddingEngine) (paddingSize : ℤ) : ℤ :=
  if pe.config.maxPadding < paddingSize then pe.config.maxPadding else paddingSize

def calculateSecureRandomPadding (pe : PaddingEngine) (draw : Draw)
    (paddingSize paddingRange : ℤ) : ℤ :=
  match draw.variation with
  | .error _ => paddingSize
  | .ok randomValue =>
    let randomPadding : ℤ := (randomValue % UInt32.ofNat (paddingRange + 1).toNat).toNat
    if 0 < pe.config.paddingRatio then
      if paddingSize - pe.config.minPadding < randomPadding then
        pe.config.minPadding + randomPadding
      else paddingSize
    else pe.config.minPadding + randomPadding

def applyRandomVariation (pe : PaddingEngine) (draw : Draw) (paddingSize : ℤ) (dataLen : ℕ) : ℤ :=
  let paddingRange := pe.config.maxPadding - pe.config.minPadding
  if paddingRange ≤ 0 then paddingSize
  else if pe.config.testMode then
    pe.config.minPadding + (dataLen % paddingRange + paddingRange) % paddingRange
  else pe.calculateSecureRandomPadding draw paddingSize paddingRange

def calculatePaddingSize (pe : PaddingEngine) (draw : Draw) (dataLen : ℕ) : ℤ :=
  if pe.shouldSkipPadding then 0
  else
    let paddingSize := pe.calculateRatioPadding product dataLen
    let paddingSize := pe.enforceMinimumPadding paddingSize
    let paddingSize := pe.applyRandomVariation draw paddingSize dataLen
    pe.enforceMaximumPadding paddingSize

theorem le_applyRandomVariation (h : pe.config.minPadding ≤ paddingSize) :
    pe.config.minPadding ≤ pe.applyRandomVariation draw paddingSize dataLen := by
  simp only [applyRandomVariation]
  split_ifs with hrange
  · exact h
  · have hmod := Int.emod_nonneg (dataLen % (pe.config.maxPadding - pe.config.minPadding) +
      (pe.config.maxPadding - pe.config.minPadding)) (ne_of_gt (not_le.mp hrange))
    omega
  · unfold calculateSecureRandomPadding
    split
    · exact h
    · dsimp only
      split_ifs <;> omega

theorem le_calculatePaddingSize :
    pe.config.minPadding ≤ pe.calculatePaddingSize product draw dataLen := by
  obtain ⟨hmin, hmax, -⟩ := bounds_of_validatePaddingParams pe.valid
  unfold calculatePaddingSize
  split_ifs with hskip
  · exact (of_decide_eq_true hskip).1.le
  · have hfloor : pe.config.minPadding ≤
        pe.enforceMinimumPadding (pe.calculateRatioPadding product dataLen) := by
      unfold enforceMinimumPadding
      split_ifs <;> omega
    have hvaried := pe.le_applyRandomVariation draw dataLen hfloor
    dsimp only
    unfold enforceMaximumPadding
    split_ifs <;> omega

theorem calculatePaddingSize_nonneg : 0 ≤ pe.calculatePaddingSize product draw dataLen :=
  (bounds_of_validatePaddingParams pe.valid).1.trans
    (pe.le_calculatePaddingSize product draw dataLen)

theorem calculatePaddingSize_le :
    pe.calculatePaddingSize product draw dataLen ≤ pe.config.maxPadding := by
  obtain ⟨hmin, hmax, -⟩ := bounds_of_validatePaddingParams pe.valid
  unfold calculatePaddingSize
  split_ifs
  · omega
  · dsimp only [enforceMaximumPadding]
    split_ifs <;> omega

end

def paddingData (pe : PaddingEngine) (draw : Draw) (dataLen paddingSize : ℕ) : Except Oops Bytes :=
  if pe.config.testMode then
    .ok ((List.range paddingSize).map fun i => UInt8.ofNat ((i + dataLen) % 256))
  else draw.content.map (List.range paddingSize).map

theorem length_of_paddingData {pe : PaddingEngine} {draw : Draw} {dataLen paddingSize : ℕ}
    {content : Bytes} (h : pe.paddingData draw dataLen paddingSize = .ok content) :
    content.length = paddingSize := by
  unfold paddingData at h
  split_ifs at h
  · cases h
    simp
  · cases hcontent : draw.content with
    | error e =>
      rw [hcontent] at h
      cases h
    | ok f =>
      rw [hcontent] at h
      cases h
      simp

def addCleartextPadding (pe : PaddingEngine) (draw : Draw) (data : Bytes) (paddingSize : ℕ) :
    Except Oops Bytes :=
  match pe.paddingData draw data.length paddingSize with
  | .error e => .error ((e.wrapf "failed to generate secure random padding").wrap
      "PADDING_GENERATION_FAILED" pe.config.domain [("padding_size", paddingSize)])
  | .ok content => .ok (data ++ content)

end PaddingEngine

/-- A block `[type][size:2][data]`. -/
def block (type : UInt8) (data : Bytes) : Bytes :=
  type :: putUint16 (UInt16.ofNat data.length) ++ data

def paddingBlock (content : Bytes) : Bytes := block i2pPaddingBlockType content

namespace PaddingEngine

def addAEADPadding (pe : PaddingEngine) (draw : Draw) (data : Bytes) (paddingSize : ℕ) :
    Except Oops Bytes :=
  match pe.paddingData draw data.length paddingSize with
  | .error e => .error ((e.wrapf "failed to generate secure random AEAD padding").wrap
      "AEAD_PADDING_GENERATION_FAILED" pe.config.domain [("padding_size", paddingSize)])
  | .ok content => .ok (data ++ paddingBlock content)

end PaddingEngine

/-! ## Taking padding off -/

/-- The test of `RemoveTrailingAEADPadding`: at `start` there is the header of a padding block that
goes to the end of the data. -/
def isPaddingHeader (data : Bytes) (paddingSize : ℕ) : Bool :=
  let start := data.length - i2pBlockHeaderSize - paddingSize
  data[start]? = some i2pPaddingBlockType ∧
    (uint16 ((data.drop (start + 1)).take 2)).toNat = paddingSize

def removeTrailingAEADPadding (data : Bytes) (maxScanPadding : ℤ) : Bytes :=
  if data.length < i2pBlockHeaderSize then data
  else
    let maxPadding := data.length - i2pBlockHeaderSize
    let maxPadding :=
      if 0 < maxScanPadding ∧ maxScanPadding < maxPadding then maxScanPadding.toNat else maxPadding
    let maxPadding := if i2pMaxBlockDataSize < maxPadding then i2pMaxBlockDataSize else maxPadding
    match (List.range (maxPadding + 1)).find? (isPaddingHeader data) with
    | some paddingSize => data.take (data.length - i2pBlockHeaderSize - paddingSize)
    | none => data

/-- The byte string ends in what reads as a padding block of `paddingSize` bytes. -/
def EndsInPadding (data : Bytes) (paddingSize : ℕ) : Prop :=
  ∃ content : Bytes, content.length = paddingSize ∧ paddingBlock content <:+ data

theorem length_paddingBlock (content : Bytes) :
    (paddingBlock content).length = i2pBlockHeaderSize + content.length := by
  simp [paddingBlock, block, i2pBlockHeaderSize]
  omega

variable {data : Bytes} {paddingSize : ℕ} (pre : Bytes)

/-- The test of the search, for a header that is inside of the data. -/
theorem isPaddingHeader_append {block : Bytes}
    (hblock : block.length = i2pBlockHeaderSize + paddingSize) :
    isPaddingHeader (pre ++ block) paddingSize ↔
      block[0]? = some i2pPaddingBlockType ∧
        (uint16 ((block.drop 1).take 2)).toNat = paddingSize := by
  have hstart : (pre ++ block).length - i2pBlockHeaderSize - paddingSize = pre.length := by grind
  have hdrop : (pre ++ block).drop (pre.length + 1) = block.drop 1 := by
    rw [← List.drop_drop, List.drop_left]
  have hget : (pre ++ block)[pre.length]? = block[0]? := by
    rw [List.getElem?_append_right le_rfl, Nat.sub_self]
  simp only [isPaddingHeader, hstart, hdrop, hget, decide_eq_true_eq]

/-- The test of the search finds what reads as a padding block. -/
theorem isPaddingHeader_iff (hfits : i2pBlockHeaderSize + paddingSize ≤ data.length)
    (hsize : paddingSize < 65536) :
    isPaddingHeader data paddingSize ↔ EndsInPadding data paddingSize := by
  constructor
  · intro h
    -- The block is cut at the place that the header says.
    obtain ⟨pre, block, rfl, hblock⟩ : ∃ pre block, data = pre ++ block ∧
        block.length = i2pBlockHeaderSize + paddingSize :=
      ⟨_, _, (List.take_append_drop (data.length - (i2pBlockHeaderSize + paddingSize)) data).symm,
        by rw [List.length_drop]; omega⟩
    rw [isPaddingHeader_append pre hblock] at h
    rw [i2pBlockHeaderSize] at hblock
    rcases block with _ | ⟨b, _ | ⟨b₁, _ | ⟨b₂, content⟩⟩⟩
    · cases Nat.add_eq_zero_iff.mp hblock.symm |>.1
    · simp only [List.length_cons, List.length_nil] at hblock
      omega
    · simp only [List.length_cons, List.length_nil] at hblock
      omega
    · obtain ⟨hb, hdeclared⟩ := h
      obtain rfl : b = i2pPaddingBlockType := by simpa using hb
      have hlen : content.length = paddingSize := by grind
      have hheader : putUint16 (UInt16.ofNat content.length) = [b₁, b₂] := by
        rw [hlen, ← hdeclared]
        simp only [List.drop_succ_cons, List.drop_zero, List.take_succ_cons, List.take_zero,
          UInt16.ofNat_toNat]
        exact putUint16_uint16 rfl
      refine ⟨content, hlen, pre, ?_⟩
      rw [paddingBlock, block, hheader]
      rfl
  · rintro ⟨content, rfl, pre, rfl⟩
    rw [isPaddingHeader_append pre (length_paddingBlock content)]
    refine ⟨rfl, ?_⟩
    have htake : ((paddingBlock content).drop 1).take 2 = putUint16 (UInt16.ofNat content.length) :=
      take_putUint16_append _ content
    rw [htake, uint16_putUint16, UInt16.toNat_ofNat', Nat.mod_eq_of_lt hsize]

theorem EndsInPadding.length_le
    (h : EndsInPadding data paddingSize) : i2pBlockHeaderSize + paddingSize ≤ data.length := by
  obtain ⟨content, rfl, hsuffix⟩ := h
  rw [← length_paddingBlock]
  exact hsuffix.length_le

theorem endsInPadding_append_iff (hfits : i2pBlockHeaderSize + paddingSize ≤ data.length) :
    EndsInPadding (pre ++ data) paddingSize ↔ EndsInPadding data paddingSize := by
  constructor
  · rintro ⟨content, rfl, hsuffix⟩
    rw [← length_paddingBlock] at hfits
    exact ⟨content, rfl, List.suffix_of_suffix_length_le hsuffix (List.suffix_append _ _) hfits⟩
  · rintro ⟨content, hlen, hsuffix⟩
    exact ⟨content, hlen, hsuffix.trans (List.suffix_append _ _)⟩

/-- The sizes that the search tries. A maximum of zero is no bound. -/
def Scanned (maxScanPadding : ℤ) (paddingSize : ℕ) : Prop :=
  paddingSize ≤ i2pMaxBlockDataSize ∧ (0 < maxScanPadding → paddingSize ≤ maxScanPadding)

/-- What `RemoveTrailingAEADPadding` does. -/
inductive Removal (maxScanPadding : ℤ) (data : Bytes) : Bytes → Prop
  | found (paddingSize : ℕ) (scanned : Scanned maxScanPadding paddingSize)
      (ends : EndsInPadding data paddingSize)
      (first : ∀ smaller < paddingSize, ¬ EndsInPadding data smaller) :
      Removal maxScanPadding data (data.take (data.length - i2pBlockHeaderSize - paddingSize))
  | unchanged (none : ∀ paddingSize, Scanned maxScanPadding paddingSize →
      ¬ EndsInPadding data paddingSize) : Removal maxScanPadding data data

/-- The search: the smallest padding block at the end of the data is taken off. -/
theorem removal (data : Bytes) (maxScanPadding : ℤ) :
    Removal maxScanPadding data (removeTrailingAEADPadding data maxScanPadding) := by
  unfold removeTrailingAEADPadding
  split_ifs with hshort
  · exact .unchanged fun paddingSize _ hends => by
      have := hends.length_le
      omega
  dsimp only
  generalize hlimit : (if i2pMaxBlockDataSize < _ then _ else _) = limit
  -- The sizes up to the limit are those that are scanned and fit.
  have hscan : ∀ paddingSize : ℕ, paddingSize ≤ limit ↔
      Scanned maxScanPadding paddingSize ∧ i2pBlockHeaderSize + paddingSize ≤ data.length := by
    intro paddingSize
    unfold Scanned i2pMaxBlockDataSize at *
    split_ifs at hlimit <;> omega
  have htest : ∀ paddingSize ≤ limit,
      (isPaddingHeader data paddingSize ↔ EndsInPadding data paddingSize) := by
    intro paddingSize hle
    obtain ⟨⟨hsize, -⟩, hfits⟩ := (hscan paddingSize).mp hle
    exact isPaddingHeader_iff hfits (by unfold i2pMaxBlockDataSize at hsize; omega)
  cases hfind : (List.range (limit + 1)).find? (isPaddingHeader data) with
  | some paddingSize =>
    obtain ⟨hfound, hmem, hfirst⟩ := List.find?_range_eq_some.mp hfind
    have hle : paddingSize ≤ limit := Nat.lt_succ_iff.mp (List.mem_range.mp hmem)
    refine .found paddingSize ((hscan paddingSize).mp hle).1 ((htest _ hle).mp hfound) ?_
    intro smaller hsmaller hends
    have hnot := hfirst smaller hsmaller
    rw [(htest smaller (by omega)).mpr hends] at hnot
    cases hnot
  | none =>
    refine .unchanged fun paddingSize hscanned hends => ?_
    have hle : paddingSize ≤ limit := (hscan paddingSize).mpr ⟨hscanned, hends.length_le⟩
    have hnot := List.find?_range_eq_none.mp hfind paddingSize (by omega)
    rw [(htest paddingSize hle).mpr hends] at hnot
    cases hnot

/-- Padding comes off again exactly when the padding block has no smaller one at its end. -/
theorem removeTrailingAEADPadding_append_iff (data content : Bytes) {maxScanPadding : ℤ}
    (hscanned : Scanned maxScanPadding content.length) :
    removeTrailingAEADPadding (data ++ paddingBlock content) maxScanPadding = data ↔
      ∀ smaller < content.length, ¬ EndsInPadding (paddingBlock content) smaller := by
  have hends : EndsInPadding (data ++ paddingBlock content) content.length :=
    ⟨content, rfl, List.suffix_append _ _⟩
  have hiff : ∀ smaller < content.length, (EndsInPadding (data ++ paddingBlock content) smaller ↔
      EndsInPadding (paddingBlock content) smaller) := fun smaller hsmaller =>
    endsInPadding_append_iff data (by rw [length_paddingBlock]; omega)
  have hremoval := removal (data ++ paddingBlock content) maxScanPadding
  generalize removeTrailingAEADPadding (data ++ paddingBlock content) maxScanPadding = result
    at hremoval
  cases hremoval with
  | unchanged none => exact absurd hends (none _ hscanned)
  | found paddingSize scanned ends first =>
    constructor
    · grind [List.length_take, List.length_append, length_paddingBlock]
    · intro hnone
      obtain rfl : paddingSize = content.length := by grind
      refine List.take_left' ?_
      rw [List.length_append, length_paddingBlock]
      omega

/-- Without padding the data stays exactly when it does not end in what reads as padding. -/
theorem removeTrailingAEADPadding_eq_self_iff (data : Bytes) (maxScanPadding : ℤ) :
    removeTrailingAEADPadding data maxScanPadding = data ↔
      ∀ paddingSize, Scanned maxScanPadding paddingSize → ¬ EndsInPadding data paddingSize := by
  have hremoval := removal data maxScanPadding
  generalize removeTrailingAEADPadding data maxScanPadding = result at hremoval
  cases hremoval with
  | unchanged none => exact iff_of_true rfl none
  | found paddingSize scanned ends first =>
    refine iff_of_false (fun heq => ?_) fun hnone => hnone paddingSize scanned ends
    have hlen := congrArg List.length heq
    have hle := ends.length_le
    rw [List.length_take, i2pBlockHeaderSize] at *
    omega

end GoNoise.Handshake
