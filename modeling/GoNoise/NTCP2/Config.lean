import GoNoise.Handshake.Modifiers
import GoNoise.Handshake.PaddingModifiers
import GoNoise.Validation

/-!
# `ntcp2/config.go`, `ntcp2/aes_obfuscation_modifier.go`: configuration and modifiers

A configuration is validated and turned into the list of modifiers of the connection: the AES
obfuscation of ephemeral keys, a SipHash length modifier with the configured keys, the padding, and
the modifiers of the caller.
-/

namespace GoNoise.NTCP2

open Handshake

/-! ## Constants -/

def routerHashSize : ℕ := 32
def staticKeySize : ℕ := 32
def ivSize : ℕ := 16
def specMaxFrameSize : ℕ := 65535
def minDataPhaseFrameSize : ℕ := 16
def blockHeaderSize : ℕ := 3
def ntcp2Pattern : String := "XK"
def defaultMaxFrameSize : ℕ := 16384
def poly1305Overhead : ℕ := 16
def maxNonce : ℕ := 18446744073709551614
def aeadErrorMaxJunkBytes : ℕ := 1024

/-! ## Configuration -/

/-- `Config`. `μ` is the type of the modifiers of the caller. -/
structure Config (μ : Type) where
  pattern : String
  initiator : Bool
  bobRouterHash : FixedBytes 32
  staticKey : Bytes
  remoteRouterHash : Option (FixedBytes 32)
  remoteStaticKey : Bytes
  handshakeTimeout : Duration
  readTimeout : Duration
  writeTimeout : Duration
  handshakeRetries : ℤ
  retryBackoff : Duration
  enableAESObfuscation : Bool
  obfuscationIV : Option Bytes
  enableSipHashLength : Bool
  sipHashKeys : SipKeys
  modifiers : List μ
  maxFrameSize : ℤ
  framePaddingEnabled : Bool
  minPaddingSize : ℤ
  maxPaddingSize : ℤ
  localRouterInfo : Bytes
  strictRouterInfoVerification : Bool

def validatePaddingRange (subsystem : String) (minPadding maxPadding : ℤ) : Except Oops Unit :=
  if minPadding < 0 then
    .error ⟨"INVALID_MIN_PADDING", subsystem, [("min_padding", minPadding)],
      "min padding size must be non-negative"⟩
  else if maxPadding < minPadding then
    .error ⟨"INVALID_PADDING_RANGE", subsystem,
      [("min_padding", minPadding), ("max_padding", maxPadding)],
      "max padding size must be >= min padding size"⟩
  else .ok ()

def maxRouterInfoSize : ℕ := 0xFFFF - (blockHeaderSize + 1 + poly1305Overhead)

namespace Config

variable {μ : Type} (nc : Config μ)

def validateBasicConfiguration : Except Oops Unit := validatePattern nc.pattern "ntcp2"

def validateCryptographicParameters : Except Oops Unit := do
  validateKeyLength nc.staticKey "static key" "ntcp2"
  if nc.initiator ∧ nc.remoteRouterHash = none then
    .error ⟨"MISSING_REMOTE_ROUTER_HASH", "ntcp2", [],
      "remote router hash is required for initiator connections"⟩
  validateKeyLength nc.remoteStaticKey "remote static key" "ntcp2"
  if nc.initiator ∧ nc.pattern = ntcp2Pattern ∧ nc.remoteStaticKey.length = 0 then
    .error ⟨"MISSING_REMOTE_STATIC_KEY", "ntcp2", [],
      "remote static key is required for initiator XK connections (pre-message: ← s)"⟩
  if maxRouterInfoSize < nc.localRouterInfo.length then
    .error ⟨"ROUTER_INFO_TOO_LARGE", "ntcp2",
      [("router_info_size", nc.localRouterInfo.length), ("max_size", maxRouterInfoSize)],
      s!"LocalRouterInfo too large for NTCP2 message 3 part 2 (max {maxRouterInfoSize} bytes)"⟩
  match nc.obfuscationIV with
  | some iv =>
    if iv.length ≠ ivSize then
      .error ⟨"INVALID_OBFUSCATION_IV", "ntcp2", [("iv_length", iv.length)],
        s!"obfuscation IV must be {ivSize} bytes"⟩
    else .ok ()
  | none => .ok ()

def validateTimeoutConfiguration : Except Oops Unit :=
  validateTransportConfig nc.handshakeTimeout nc.handshakeRetries nc.retryBackoff "ntcp2"

def minAllowedFrameSize : ℕ := minDataPhaseFrameSize + poly1305Overhead

def validateFrameConfiguration : Except Oops Unit :=
  if nc.maxFrameSize ≤ 0 then
    .error ⟨"INVALID_MAX_FRAME_SIZE", "ntcp2", [("max_size", nc.maxFrameSize)],
      "max frame size must be positive"⟩
  else if nc.maxFrameSize < minAllowedFrameSize then
    .error ⟨"INVALID_MAX_FRAME_SIZE", "ntcp2",
      [("max_size", nc.maxFrameSize), ("min_allowed", minAllowedFrameSize)],
      s!"max frame size {nc.maxFrameSize} is too small (minimum {minAllowedFrameSize} bytes " ++
        "required for I2NP block header + AEAD tag)"⟩
  else if specMaxFrameSize < nc.maxFrameSize then
    .error ⟨"INVALID_MAX_FRAME_SIZE", "ntcp2",
      [("max_size", nc.maxFrameSize), ("spec_max", specMaxFrameSize)],
      s!"max frame size {nc.maxFrameSize} exceeds spec maximum {specMaxFrameSize}"⟩
  else validatePaddingRange "ntcp2" nc.minPaddingSize nc.maxPaddingSize

/-- `validateModifiers`. `isPaddingModifier` says which modifiers are a `*PaddingModifier`. -/
def validateModifiers (isPaddingModifier : μ → Bool) : Except Oops Unit :=
  if nc.modifiers.any isPaddingModifier then
    .error ⟨"INCOMPATIBLE_MODIFIER", "ntcp2", [],
      "PaddingModifier is not NTCP2-compatible; use NTCP2PaddingModifier"⟩
  else .ok ()

def validate (isPaddingModifier : μ → Bool) : Except Oops Unit := do
  nc.validateBasicConfiguration
  nc.validateCryptographicParameters
  nc.validateTimeoutConfiguration
  nc.validateFrameConfiguration
  nc.validateModifiers isPaddingModifier

end Config

/-! ## AES obfuscation -/

/-- AES-256 in CBC mode, of the standard library. -/
structure AES where
  encryptCBC : (key iv data : Bytes) → Bytes
  decryptCBC : (key iv data : Bytes) → Bytes

structure AESObfuscationModifier where
  name : String
  routerHash : Bytes
  iv : Bytes
  aesState : Option Bytes
  deriving DecidableEq

def newAESObfuscationModifier (name : String) (routerHash iv : Bytes) :
    Except Oops AESObfuscationModifier :=
  if routerHash.length ≠ routerHashSize then
    .error ⟨"INVALID_ROUTER_HASH", "ntcp2", [("hash_length", routerHash.length)],
      s!"router hash must be exactly {routerHashSize} bytes"⟩
  else if iv.length ≠ ivSize then
    .error ⟨"INVALID_IV", "ntcp2", [("iv_length", iv.length)],
      s!"IV must be exactly {ivSize} bytes"⟩
  else .ok ⟨name, routerHash, iv, none⟩

namespace AESObfuscationModifier

def missingAESState : Oops :=
  ⟨"MISSING_AES_STATE", "ntcp2", [], "AES state not available for message 2"⟩

/-- The IV of a message: the published one for message 1, the last block of message 1 for
message 2. Other messages are not obfuscated. -/
def ivFor (aom : AESObfuscationModifier) : HandshakePhase → Option (Except Oops Bytes)
  | .initial => some (.ok aom.iv)
  | .exchange => some (match aom.aesState with
    | none => .error missingAESState
    | some state => .ok state)
  | _ => none

section
variable (A : AES)

def modifyOutbound (phase : HandshakePhase) (data : Bytes) (aom : AESObfuscationModifier) :
    Except Oops Bytes × AESObfuscationModifier :=
  if data.length < staticKeySize then (.ok data, aom)
  else
    match aom.ivFor phase with
    | none => (.ok data, aom)
    | some (.error e) => (.error e, aom)
    | some (.ok iv) =>
      let obfuscated := A.encryptCBC aom.routerHash iv (data.take staticKeySize)
      let result := obfuscated ++ data.drop staticKeySize
      (.ok result, if phase = .initial then
        { aom with aesState := some ((result.drop ivSize).take ivSize) } else aom)

def modifyInbound (phase : HandshakePhase) (data : Bytes) (aom : AESObfuscationModifier) :
    Except Oops Bytes × AESObfuscationModifier :=
  if data.length < staticKeySize then (.ok data, aom)
  else
    let aom := if phase = .initial then
      { aom with aesState := some ((data.drop ivSize).take ivSize) } else aom
    match aom.ivFor phase with
    | none => (.ok data, aom)
    | some (.error e) => (.error e, aom)
    | some (.ok iv) =>
      let key := A.decryptCBC aom.routerHash iv (data.take staticKeySize)
      if key.getD (staticKeySize - 1) 0 &&& 0x80 ≠ 0 then
        (.error ⟨"INVALID_CURVE25519_KEY", "ntcp2", [("phase", phase.toNat)],
          "decrypted key has high bit set (X[31]&0x80 != 0); invalid Curve25519 point"⟩, aom)
      else (.ok (key ++ data.drop staticKeySize), aom)

end
end AESObfuscationModifier

/-! ## The modifiers of a connection -/

/-- A modifier of an NTCP2 connection. The padding comes with what its calls of `rand.Read` will
return. -/
inductive NTCP2Modifier (μ : Type)
  | aes (aom : AESObfuscationModifier)
  | sipHash (slm : LengthModifier)
  | padding (npm : NTCP2PaddingModifier) (draws : ℕ → Draw)
  | custom (m : μ)

/-- What the modifiers take from their libraries. -/
structure ModifierLibrary where
  aes : AES
  sipHash : UInt64 → UInt64 → Bytes → UInt64
  /-- `int(float64(dataLen) * ratio)` -/
  product : ℕ → ℚ → ℤ

/-- The operations on the modifiers of a connection. -/
def ntcp2Modifiers (L : ModifierLibrary) {μ : Type} (custom : HandshakeModifier μ) :
    HandshakeModifier (NTCP2Modifier μ) where
  name
    | .aes aom => aom.name
    | .sipHash slm => slm.name
    | .padding npm _ => npm.name
    | .custom m => custom.name m
  modifyOutbound phase data
    | .aes aom => (aom.modifyOutbound L.aes phase data).map id .aes
    | .sipHash slm => (slm.modifyOutbound L.sipHash phase data).map id .sipHash
    | .padding npm draws =>
      (npm.modifyOutbound L.product (draws 0) phase data, .padding npm fun i => draws (i + 1))
    | .custom m => (custom.modifyOutbound phase data m).map id .custom
  modifyInbound phase data
    | .aes aom => (aom.modifyInbound L.aes phase data).map id .aes
    | .sipHash slm => (slm.modifyInbound L.sipHash phase data).map id .sipHash
    | .padding npm draws => (npm.modifyInbound phase data, .padding npm draws)
    | .custom m => (custom.modifyInbound phase data m).map id .custom

namespace Config

variable {μ : Type} (nc : Config μ)

def createAESModifierIfEnabled : Except Oops (Option AESObfuscationModifier) :=
  if ¬ nc.enableAESObfuscation then .ok none
  else
    match nc.obfuscationIV with
    | none => .error ⟨"MISSING_OBFUSCATION_IV", "ntcp2", [],
        "AES obfuscation IV is required (published in peer's network database entry)"⟩
    | some iv =>
      match newAESObfuscationModifier "ntcp2-aes" nc.bobRouterHash.val iv with
      | .error e => .error (e.wrap "AES_MODIFIER_FAILED" "ntcp2" [])
      | .ok aom => .ok (some aom)

def createSipHashModifierIfEnabled : Option LengthModifier :=
  if nc.enableSipHashLength then some (newLengthModifier "ntcp2-siphash" nc.sipHashKeys 0) else none

def createPaddingModifierIfEnabled : Except Oops (Option NTCP2PaddingModifier) :=
  if ¬ nc.framePaddingEnabled then .ok none
  else
    match newNTCP2PaddingModifier "ntcp2-padding" nc.minPaddingSize nc.maxPaddingSize true with
    | .error e => .error (e.wrap "PADDING_MODIFIER_FAILED" "ntcp2" [])
    | .ok npm => .ok (some npm)

/-- `setupNTCP2Modifiers`. `draws` is what `rand.Read` will return to the padding. -/
def setupNTCP2Modifiers (draws : ℕ → Draw) : Except Oops (List (NTCP2Modifier μ)) := do
  let aesModifier ← nc.createAESModifierIfEnabled
  let sipModifier := nc.createSipHashModifierIfEnabled
  let paddingModifier ← nc.createPaddingModifierIfEnabled
  return (aesModifier.map NTCP2Modifier.aes).toList ++
    (sipModifier.map NTCP2Modifier.sipHash).toList ++
    (paddingModifier.map (NTCP2Modifier.padding · draws)).toList ++
    nc.modifiers.map .custom

end Config

/-- Decryption inverts encryption of the two blocks of an ephemeral key. -/
structure AES.Inverts (A : AES) : Prop where
  length : ∀ key iv data, data.length = staticKeySize →
    (A.encryptCBC key iv data).length = staticKeySize
  decrypt : ∀ key iv data, key.length = routerHashSize → iv.length = ivSize →
    data.length = staticKeySize → A.decryptCBC key iv (A.encryptCBC key iv data) = data

namespace AESObfuscationModifier

variable {A : AES}

/-- A message with an obfuscated ephemeral key, and what the receiver makes of it. -/
theorem reveal (hA : A.Inverts) {key iv data : Bytes} (hkey : key.length = routerHashSize)
    (hiv : iv.length = ivSize) (hdata : staticKeySize ≤ data.length) :
    let wire := A.encryptCBC key iv (data.take staticKeySize) ++ data.drop staticKeySize
    staticKeySize ≤ wire.length ∧
      A.decryptCBC key iv (wire.take staticKeySize) = data.take staticKeySize ∧
      wire.drop staticKeySize = data.drop staticKeySize := by
  have htake : (data.take staticKeySize).length = staticKeySize := List.length_take_of_le hdata
  have hlen := hA.length key iv _ htake
  refine ⟨?_, ?_, List.drop_left' hlen⟩
  · rw [List.length_append, hlen]
    exact Nat.le_add_right _ _
  · rw [List.take_left' hlen]
    exact hA.decrypt key iv _ hkey hiv htake

/-- **The obfuscation of ephemeral keys agrees.** The responder gets message 1 back with the
published IV, and the initiator message 2 with the block of message 1 that both have kept. -/
theorem obfuscation_agrees (hA : A.Inverts) {name name' : String} {routerHash iv m₁ m₂ : Bytes}
    {initiator responder : AESObfuscationModifier}
    (hinitiator : newAESObfuscationModifier name routerHash iv = .ok initiator)
    (hresponder : newAESObfuscationModifier name' routerHash iv = .ok responder)
    (h₁ : staticKeySize ≤ m₁.length) (hbit₁ : m₁.getD 31 0 &&& 0x80 = 0)
    (h₂ : staticKeySize ≤ m₂.length) (hbit₂ : m₂.getD 31 0 &&& 0x80 = 0) :
    ∃ w₁ initiator₁, initiator.modifyOutbound A .initial m₁ = (.ok w₁, initiator₁) ∧
      ∃ responder₁, responder.modifyInbound A .initial w₁ = (.ok m₁, responder₁) ∧
      ∃ w₂, (responder₁.modifyOutbound A .exchange m₂).1 = .ok w₂ ∧
        (initiator₁.modifyInbound A .exchange w₂).1 = .ok m₂ := by
  unfold newAESObfuscationModifier at hinitiator hresponder
  split_ifs at hinitiator hresponder with hkey hiv
  cases hinitiator
  cases hresponder
  rw [not_not] at hkey hiv
  obtain ⟨hwire₁, hkey₁, hrest₁⟩ := reveal hA hkey hiv h₁
  set w₁ := A.encryptCBC routerHash iv (m₁.take staticKeySize) ++ m₁.drop staticKeySize
  set state := (w₁.drop ivSize).take ivSize with hdef
  have hstate : state.length = ivSize := by
    rw [hdef, List.length_take, List.length_drop]
    unfold staticKeySize at hwire₁
    unfold ivSize
    omega
  obtain ⟨hwire₂, hkey₂, hrest₂⟩ := reveal hA hkey hstate h₂
  have hhigh : ∀ m : Bytes, (m.take staticKeySize).getD (staticKeySize - 1) 0 = m.getD 31 0 :=
    fun m => by rw [List.getD_eq_getElem?_getD, List.getElem?_take_of_lt (by decide)]; rfl
  refine ⟨w₁, ⟨name, routerHash, iv, some state⟩, ?_, ⟨name', routerHash, iv, some state⟩, ?_,
    A.encryptCBC routerHash state (m₂.take staticKeySize) ++ m₂.drop staticKeySize, ?_, ?_⟩
  · rw [modifyOutbound, if_neg (Nat.not_lt.mpr h₁)]
    rfl
  · simp only [modifyInbound, if_neg (Nat.not_lt.mpr hwire₁), if_true, ivFor, hkey₁, hhigh, hbit₁,
      ne_eq, not_true_eq_false, if_false, hrest₁, List.take_append_drop]
    rfl
  · rw [modifyOutbound, if_neg (Nat.not_lt.mpr h₂)]
    rfl
  · simp only [modifyInbound, if_neg (Nat.not_lt.mpr hwire₂), ivFor, hkey₂, hhigh, hbit₂,
      ne_eq, not_true_eq_false, if_false, hrest₂, List.take_append_drop, reduceCtorEq]

/-- Two messages of 40 bytes under a cipher that turns the bytes over. -/
theorem obfuscation_agrees_reversed :
    ∃ A : AES, A.Inverts ∧ ∃ initiator responder,
      newAESObfuscationModifier "a" (.replicate 32 7) (.replicate 16 9) = .ok initiator ∧
      newAESObfuscationModifier "b" (.replicate 32 7) (.replicate 16 9) = .ok responder ∧
      ∃ w₁ initiator₁,
        initiator.modifyOutbound A .initial (.replicate 40 1) = (.ok w₁, initiator₁) ∧
        ∃ responder₁, responder.modifyInbound A .initial w₁ = (.ok (.replicate 40 1), responder₁) ∧
        ∃ w₂, (responder₁.modifyOutbound A .exchange (.replicate 40 2)).1 = .ok w₂ ∧
          (initiator₁.modifyInbound A .exchange w₂).1 = .ok (.replicate 40 2) := by
  have hA : (⟨fun _ _ data => data.reverse, fun _ _ data => data.reverse⟩ : AES).Inverts :=
    ⟨fun _ _ _ h => List.length_reverse.trans h, fun _ _ data _ _ _ => data.reverse_reverse⟩
  have hnew : ∀ name, newAESObfuscationModifier name (.replicate 32 7) (.replicate 16 9) =
      .ok ⟨name, .replicate 32 7, .replicate 16 9, none⟩ := fun _ => rfl
  exact ⟨_, hA, _, _, hnew "a", hnew "b", obfuscation_agrees hA (hnew "a") (hnew "b") (by decide)
    (by decide) (by decide) (by decide)⟩

end AESObfuscationModifier

end GoNoise.NTCP2
