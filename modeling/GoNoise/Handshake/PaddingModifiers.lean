import GoNoise.Handshake.PaddingEngine
import GoNoise.Library.Fallible
import GoNoise.SSU2.Wire.Packet

/-!
# `ntcp2/padding_modifier.go`, `ssu2/wire/ssu2_padding_modifier.go`: the padding modifiers

Both modifiers append a padding block to what is sent in the data phase and take a trailing padding
block off what is received. The SSU2 modifier pads no further than the MTU.
-/

namespace GoNoise

open Handshake

namespace NTCP2

structure NTCP2PaddingModifier where
  name : String
  engine : PaddingEngine
  useAEADPadding : Bool

def newNTCP2PaddingModifierWithRatio (name : String) (minPadding maxPadding : ℤ)
    (useAEADPadding : Bool) (paddingRatio : ℚ) : Except Oops NTCP2PaddingModifier := do
  let engine ← newPaddingEngine ⟨minPadding, maxPadding, paddingRatio, false, "ntcp2"⟩
  return ⟨name, engine, useAEADPadding⟩

def newNTCP2PaddingModifier (name : String) (minPadding maxPadding : ℤ) (useAEADPadding : Bool) :
    Except Oops NTCP2PaddingModifier :=
  newNTCP2PaddingModifierWithRatio name minPadding maxPadding useAEADPadding 0

namespace NTCP2PaddingModifier

def modifyOutbound (product : ℕ → ℚ → ℤ) (draw : Draw) (npm : NTCP2PaddingModifier)
    (phase : HandshakePhase) (data : Bytes) : Except Oops Bytes :=
  let paddingSize := npm.engine.calculatePaddingSize product draw data.length
  if paddingSize = 0 then .ok data
  else if npm.useAEADPadding ∧ .final < phase then
    npm.engine.addAEADPadding draw data paddingSize.toNat
  else if ¬ npm.useAEADPadding ∧ phase < .final then
    npm.engine.addCleartextPadding draw data paddingSize.toNat
  else .ok data

def modifyInbound (npm : NTCP2PaddingModifier) (phase : HandshakePhase) (data : Bytes) :
    Except Oops Bytes :=
  if npm.useAEADPadding ∧ .final < phase then
    .ok (removeTrailingAEADPadding data npm.engine.config.maxPadding)
  else .ok data

end NTCP2PaddingModifier
end NTCP2

namespace SSU2

def minMTU : ℤ := 1280
def maxMTU : ℤ := 1500
def aeadTagSize : ℤ := 16

def validateMTU (mtu : ℤ) : Except Oops Unit :=
  if mtu < minMTU ∨ maxMTU < mtu then
    .error ⟨"INVALID_MTU", "wire", [("mtu", mtu)],
      s!"MTU must be between {minMTU} and {maxMTU} bytes"⟩
  else .ok ()

structure SSU2PaddingModifier where
  name : String
  engine : PaddingEngine
  aeadMode : Bool
  mtu : ℤ
  validMTU : validateMTU mtu = .ok ()

namespace SSU2PaddingModifier

def headerOverhead (spm : SSU2PaddingModifier) : ℤ :=
  if spm.aeadMode then shortHeaderSize else longHeaderSize

def calculateMTUAwarePadding (product : ℕ → ℚ → ℤ) (draw : Draw) (spm : SSU2PaddingModifier)
    (dataLen : ℕ) : ℤ :=
  if spm.engine.shouldSkipPadding then 0
  else
    let overhead := spm.headerOverhead + aeadTagSize
    let overhead := if spm.aeadMode then overhead + i2pBlockHeaderSize else overhead
    let availableSpace := spm.mtu - dataLen - overhead
    if availableSpace ≤ 0 then 0
    else
      let paddingSize := spm.engine.calculatePaddingSize product draw dataLen
      if availableSpace < paddingSize then availableSpace else paddingSize

def modifyOutbound (product : ℕ → ℚ → ℤ) (draw : Draw) (spm : SSU2PaddingModifier)
    (phase : HandshakePhase) (data : Bytes) : Except Oops Bytes :=
  let paddingSize := spm.calculateMTUAwarePadding product draw data.length
  if paddingSize = 0 then .ok data
  else if spm.aeadMode ∧ .final ≤ phase then
    spm.engine.addAEADPadding draw data paddingSize.toNat
  else if ¬ spm.aeadMode ∧ phase < .final then
    spm.engine.addCleartextPadding draw data paddingSize.toNat
  else .ok data

def modifyInbound (spm : SSU2PaddingModifier) (phase : HandshakePhase) (data : Bytes) :
    Except Oops Bytes :=
  if spm.aeadMode ∧ .final ≤ phase then
    .ok (removeTrailingAEADPadding data spm.engine.config.maxPadding)
  else .ok data

theorem calculateMTUAwarePadding_mem (product : ℕ → ℚ → ℤ) (draw : Draw)
    (spm : SSU2PaddingModifier) (dataLen : ℕ) :
    0 ≤ spm.calculateMTUAwarePadding product draw dataLen ∧
      spm.calculateMTUAwarePadding product draw dataLen ≤ spm.engine.config.maxPadding := by
  have hnonneg := spm.engine.calculatePaddingSize_nonneg product draw dataLen
  have hle := spm.engine.calculatePaddingSize_le product draw dataLen
  unfold calculateMTUAwarePadding
  dsimp only
  generalize spm.mtu - dataLen - _ = availableSpace
  split_ifs <;> omega

/-- `EstimatePaddingSize`; `product` is `int(math.Ceil(float64(dataLen) * ratio))`. -/
def estimatePaddingSize (product : ℕ → ℚ → ℤ) (spm : SSU2PaddingModifier) (dataLen : ℕ) : ℤ :=
  let config := spm.engine.config
  if 0 < config.paddingRatio then
    let ratioPadding := product dataLen config.paddingRatio
    if ratioPadding < config.minPadding then config.minPadding
    else if config.maxPadding < ratioPadding then config.maxPadding
    else
      let availableSpace := spm.mtu - dataLen - (spm.headerOverhead + aeadTagSize)
      if availableSpace < ratioPadding then availableSpace else ratioPadding
  else (config.minPadding + config.maxPadding) / 2

theorem length_modifyOutbound_le (product : ℕ → ℚ → ℤ) (draw : Draw) (spm : SSU2PaddingModifier)
    (phase : HandshakePhase) {data out : Bytes}
    (hfits : data.length + (spm.headerOverhead + aeadTagSize) ≤ spm.mtu)
    (hout : spm.modifyOutbound product draw phase data = .ok out) :
    out.length + (spm.headerOverhead + aeadTagSize) ≤ spm.mtu := by
  have hmem := spm.calculateMTUAwarePadding_mem product draw data.length
  have hroom : spm.calculateMTUAwarePadding product draw data.length ≠ 0 →
      data.length + (if spm.aeadMode then i2pBlockHeaderSize else 0) +
        spm.calculateMTUAwarePadding product draw data.length +
        (spm.headerOverhead + aeadTagSize) ≤ spm.mtu := by
    unfold calculateMTUAwarePadding
    dsimp only
    split_ifs <;> omega
  unfold modifyOutbound at hout
  dsimp only at hout
  generalize spm.calculateMTUAwarePadding product draw data.length = size at *
  split_ifs at hout with hzero haead hclear
  · cases hout
    exact hfits
  · have hroom := hroom hzero
    rw [if_pos haead.1] at hroom
    unfold PaddingEngine.addAEADPadding at hout
    split at hout
    · cases hout
    next content hcontent =>
      cases hout
      have hlen := PaddingEngine.length_of_paddingData hcontent
      rw [List.length_append, length_paddingBlock, hlen]
      omega
  · have hroom := hroom hzero
    rw [if_neg hclear.1] at hroom
    unfold PaddingEngine.addCleartextPadding at hout
    split at hout
    · cases hout
    next content hcontent =>
      cases hout
      rw [List.length_append, PaddingEngine.length_of_paddingData hcontent]
      omega
  · cases hout
    exact hfits

/-- **Padding and the MTU.** A packet that fits the MTU fits it with its padding. The estimate is
between 0 and the maximum exactly if it is not cut to the space that data without room leaves. -/
theorem padding_within_mtu_iff (product estimate : ℕ → ℚ → ℤ) (spm : SSU2PaddingModifier) :
    (∀ draw phase data out, data.length + (spm.headerOverhead + aeadTagSize) ≤ spm.mtu →
      spm.modifyOutbound product draw phase data = .ok out →
        out.length + (spm.headerOverhead + aeadTagSize) ≤ spm.mtu) ∧
    ∀ dataLen : ℕ,
      (0 ≤ spm.estimatePaddingSize estimate dataLen ∧
          spm.estimatePaddingSize estimate dataLen ≤ spm.engine.config.maxPadding) ↔
        spm.engine.config.paddingRatio ≤ 0 ∨
          estimate dataLen spm.engine.config.paddingRatio < spm.engine.config.minPadding ∨
          spm.engine.config.maxPadding < estimate dataLen spm.engine.config.paddingRatio ∨
          dataLen + (spm.headerOverhead + aeadTagSize) ≤ spm.mtu := by
  refine ⟨fun draw phase data out hfits hout =>
    spm.length_modifyOutbound_le product draw phase hfits hout, fun dataLen => ?_⟩
  obtain ⟨hmin, hmax, -⟩ := bounds_of_validatePaddingParams spm.engine.valid
  unfold estimatePaddingSize
  dsimp only
  by_cases hpos : 0 < spm.engine.config.paddingRatio
  · rw [if_pos hpos, or_iff_right (not_le.mpr hpos)]
    split_ifs <;> omega
  · rw [if_neg hpos]
    exact iff_of_true ⟨by omega, by omega⟩ (.inl (not_lt.mp hpos))

/-- Data that leaves no room in the MTU: the estimate is negative. -/
theorem estimatePaddingSize_negative :
    ∃ spm : SSU2PaddingModifier, spm.engine.config = ⟨0, 1400, 1, false, "ssu2"⟩ ∧
      spm.mtu = 1280 ∧ spm.estimatePaddingSize (fun dataLen _ => dataLen) 1300 < 0 := by
  have hvalid : validatePaddingParams "ssu2" 0 1400 1 = .ok () := by
    rw [validatePaddingParams, if_neg (by decide), if_neg (by decide), if_neg (by decide),
      if_neg (by norm_num [i2pMaxPaddingRatio])]
  refine ⟨⟨"padding", ⟨⟨0, 1400, 1, false, "ssu2"⟩, hvalid⟩, true, 1280, by decide⟩, rfl, rfl, ?_⟩
  rw [estimatePaddingSize, if_pos (by norm_num)]
  norm_num [headerOverhead, aeadTagSize, shortHeaderSize]

end SSU2PaddingModifier
end SSU2

namespace Handshake

/-- The receiver takes too little off: what was appended ends in a smaller padding block. Or it
takes off data: nothing was appended, and the data ends in what reads as a padding block. -/
def Misread (maxPadding : ℤ) (data content : Bytes) : Prop :=
  if content = [] then ∃ paddingSize, Scanned maxPadding paddingSize ∧ EndsInPadding data
    paddingSize
  else ∃ paddingSize < content.length, EndsInPadding (paddingBlock content) paddingSize

def withPadding (data content : Bytes) : Bytes :=
  if content = [] then data else data ++ paddingBlock content

namespace PaddingEngine

variable {pe : PaddingEngine} {draw : Draw} {data content : Bytes} {paddingSize : ℤ}

/-- What the modifiers send in the data phase, for the size they chose. -/
theorem addAEADPadding_eq (hnonneg : 0 ≤ paddingSize)
    (hcontent : pe.paddingData draw data.length paddingSize.toNat = .ok content) :
    (if paddingSize = 0 then .ok data else pe.addAEADPadding draw data paddingSize.toNat) =
      .ok (withPadding data content) := by
  have hlen := length_of_paddingData hcontent
  have hnil : content = [] ↔ paddingSize = 0 := by
    rw [← List.length_eq_zero_iff]
    omega
  simp only [withPadding, hnil, addAEADPadding, hcontent]
  split_ifs <;> rfl

/-- The round trip of the engine. -/
theorem removeTrailingAEADPadding_withPadding_iff (hle : paddingSize ≤ pe.config.maxPadding)
    (hcontent : pe.paddingData draw data.length paddingSize.toNat = .ok content) :
    removeTrailingAEADPadding (withPadding data content) pe.config.maxPadding = data ↔
      ¬ Misread pe.config.maxPadding data content := by
  have hbounds := bounds_of_validatePaddingParams pe.valid
  have hlen := length_of_paddingData hcontent
  unfold withPadding Misread
  split_ifs
  · rw [removeTrailingAEADPadding_eq_self_iff]
    push Not
    rfl
  · have hscanned : Scanned pe.config.maxPadding content.length := by
      refine ⟨?_, fun _ => ?_⟩ <;> omega
    rw [removeTrailingAEADPadding_append_iff _ _ hscanned]
    push Not
    rfl

end PaddingEngine

/-- **Padding round trip.** In the data phase, and with the padding that was drawn, the receiver
gets the data back exactly when nothing is misread. -/
theorem aeadPadding_roundTrip_iff (product : ℕ → ℚ → ℤ) (draw : Draw) (data content : Bytes) :
    (∀ npm : NTCP2.NTCP2PaddingModifier, npm.useAEADPadding = true →
      npm.engine.paddingData draw data.length
        (npm.engine.calculatePaddingSize product draw data.length).toNat = .ok content →
      ((npm.modifyOutbound product draw .data data >>= npm.modifyInbound .data) = .ok data ↔
        ¬ Misread npm.engine.config.maxPadding data content)) ∧
    (∀ spm : SSU2.SSU2PaddingModifier, spm.aeadMode = true →
      spm.engine.paddingData draw data.length
        (spm.calculateMTUAwarePadding product draw data.length).toNat = .ok content →
      ((spm.modifyOutbound product draw .data data >>= spm.modifyInbound .data) = .ok data ↔
        ¬ Misread spm.engine.config.maxPadding data content)) := by
  have hntcp2 : HandshakePhase.final < .data := by decide
  have hssu2 : HandshakePhase.final ≤ .data := by decide
  constructor
  · intro npm haead hcontent
    have hnonneg := npm.engine.calculatePaddingSize_nonneg product draw data.length
    have hle := npm.engine.calculatePaddingSize_le product draw data.length
    have hout : npm.modifyOutbound product draw .data data = .ok (withPadding data content) := by
      rw [← PaddingEngine.addAEADPadding_eq hnonneg hcontent]
      simp [NTCP2.NTCP2PaddingModifier.modifyOutbound, haead, hntcp2]
    rw [← PaddingEngine.removeTrailingAEADPadding_withPadding_iff hle hcontent, hout]
    simp [bind, Except.bind, NTCP2.NTCP2PaddingModifier.modifyInbound, haead, hntcp2]
  · intro spm haead hcontent
    obtain ⟨hnonneg, hle⟩ := spm.calculateMTUAwarePadding_mem product draw data.length
    have hout : spm.modifyOutbound product draw .data data = .ok (withPadding data content) := by
      rw [← PaddingEngine.addAEADPadding_eq hnonneg hcontent]
      simp [SSU2.SSU2PaddingModifier.modifyOutbound, haead, hssu2]
    rw [← PaddingEngine.removeTrailingAEADPadding_withPadding_iff hle hcontent, hout]
    simp [bind, Except.bind, SSU2.SSU2PaddingModifier.modifyInbound, haead, hssu2]

theorem validatePaddingParams_fixed (domain : String) {size : ℕ} (h : size ≤ i2pMaxBlockDataSize) :
    validatePaddingParams domain size size 0 = .ok () := by
  have hle : ¬ (i2pMaxBlockDataSize : ℤ) < size := by omega
  have hratio : ¬ i2pMaxPaddingRatio < 0 := by norm_num [i2pMaxPaddingRatio]
  simp [validatePaddingParams, hle, hratio]

/-- The engine that always pads with `size` bytes. -/
def fixedEngine (domain : String) (size : ℕ) (h : size ≤ i2pMaxBlockDataSize) : PaddingEngine :=
  ⟨⟨size, size, 0, false, domain⟩, validatePaddingParams_fixed domain h⟩

def fixedNTCP2 (size : ℕ) (h : size ≤ i2pMaxBlockDataSize) : NTCP2.NTCP2PaddingModifier :=
  ⟨"ntcp2-padding", fixedEngine "ntcp2" size h, true⟩

def fixedSSU2 (size : ℕ) (h : size ≤ i2pMaxBlockDataSize) : SSU2.SSU2PaddingModifier :=
  ⟨"ssu2-padding", fixedEngine "ssu2" size h, true, 1280, rfl⟩

/-- The padding bytes are those of a byte string. -/
def drawn (content : Bytes) : Draw := ⟨.ok 0, .ok fun i => content.getD i 0⟩

/-- Padding that comes off again. -/
theorem aeadPadding_roundTrip_iff_three :
    ¬ Misread 3 (block 3 [42]) [7, 7, 7] ∧
      (fixedSSU2 3 (by decide)).modifyInbound .data (block 3 [42] ++ paddingBlock [7, 7, 7]) =
        .ok (block 3 [42]) := by
  have h := aeadPadding_roundTrip_iff (fun _ _ => 0) (drawn [7, 7, 7]) (block 3 [42]) [7, 7, 7]
  have hread : ¬ Misread 3 (block 3 [42]) [7, 7, 7] :=
    (h.1 (fixedNTCP2 3 (by decide)) rfl rfl).mp (by decide +kernel)
  exact ⟨hread, (h.2 (fixedSSU2 3 (by decide)) rfl rfl).mpr hread⟩

/-- Padding bytes that end in what reads as an empty padding block, for both modifiers, and data
that ends in it and is not padded. -/
theorem aeadPadding_misread :
    ((fixedNTCP2 3 (by decide)).modifyOutbound (fun _ _ => 0) (drawn [254, 0, 0]) .data
      (block 3 [42]) >>=
      (fixedNTCP2 3 (by decide)).modifyInbound .data) = .ok (block 3 [42] ++ [254, 0, 3]) ∧
    ((fixedSSU2 3 (by decide)).modifyOutbound (fun _ _ => 0) (drawn [254, 0, 0]) .data
      (block 3 [42]) >>=
      (fixedSSU2 3 (by decide)).modifyInbound .data) = .ok (block 3 [42] ++ [254, 0, 3]) ∧
    ((fixedNTCP2 0 (by decide)).modifyOutbound (fun _ _ => 0) (drawn []) .data
      (block 3 [254, 0, 0]) >>=
      (fixedNTCP2 0 (by decide)).modifyInbound .data) = .ok [3, 0, 3] := by
  decide +kernel

end Handshake
end GoNoise
