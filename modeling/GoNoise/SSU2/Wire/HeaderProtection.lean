import GoNoise.Library.Keystream
import GoNoise.SSU2.Wire.Packet

/-!
# `ssu2/wire/header_protection.go`, `ssu2/wire/header_keys.go`: header protection

The first 16 bytes of a packet are masked with two ChaCha20 keystreams whose nonces are the last 24
bytes of the packet. Long headers have bytes 16 to 31, or 16 to 63 with an ephemeral key, encrypted
as well: before the masks are applied, and after they are removed.
-/

namespace GoNoise.SSU2

open Keystream

/-! ## ChaCha20 -/

/-- The `chacha20` package: the keystream of a key and a nonce, byte by byte. -/
structure ChaCha20 where
  keystream : Bytes → Bytes → ℕ → UInt8

/-- `NewUnauthenticatedCipher`: the keystream from counter 0 on. -/
def ChaCha20.newUnauthenticatedCipher (chacha20 : ChaCha20) (key nonce : Bytes) :
    Except Oops (ℕ → UInt8) :=
  if key.length ≠ 32 then .error <| .errorf "chacha20: wrong key size"
  else if nonce.length ≠ 12 ∧ nonce.length ≠ 24 then .error <| .errorf "chacha20: wrong nonce size"
  else .ok (chacha20.keystream key nonce)

/-- `SetCounter`: blocks have 64 bytes. -/
def setCounter (ks : ℕ → UInt8) (counter : ℕ) : ℕ → UInt8 := fun i => ks (64 * counter + i)

theorem ChaCha20.newUnauthenticatedCipher_eq (chacha20 : ChaCha20) {key nonce : Bytes}
    (hkey : key.length = 32) (hnonce : nonce.length = 12) :
    chacha20.newUnauthenticatedCipher key nonce = .ok (chacha20.keystream key nonce) := by
  rw [newUnauthenticatedCipher, if_neg (not_not.mpr hkey), if_neg fun h => h.1 hnonce]

/-! ## The protector of one packet type -/

inductive HeaderType
  | sessionRequest
  | sessionCreated
  | retry
  | tokenRequest
  | sessionConfirmed
  | data
  | peerTest
  | holePunch
  deriving DecidableEq

/-- The number of the constant. -/
def HeaderType.toInt : HeaderType → ℤ
  | .sessionRequest => 0
  | .sessionCreated => 1
  | .retry => 2
  | .tokenRequest => 3
  | .sessionConfirmed => 4
  | .data => 5
  | .peerTest => 6
  | .holePunch => 7

def headerKeySize : ℕ := 32

/-- `HeaderProtector`; `NewHeaderProtector` is the only way to make one. -/
structure HeaderProtector where
  kHeader1 : Bytes
  kHeader2 : Bytes
  headerType : HeaderType
  length_kHeader1 : kHeader1.length = headerKeySize
  length_kHeader2 : kHeader2.length = headerKeySize

def invalidKeySize (name : String) (key : Bytes) : Oops :=
  ⟨"INVALID_KEY_SIZE", "ssu2", [("expected", headerKeySize), ("actual", key.length)],
    s!"{name} must be exactly {headerKeySize} bytes"⟩

namespace HeaderProtector

def newHeaderProtector (kHeader1 kHeader2 : Bytes) (headerType : HeaderType) :
    Except Oops HeaderProtector :=
  if h₁ : kHeader1.length = headerKeySize then
    if h₂ : kHeader2.length = headerKeySize then .ok ⟨kHeader1, kHeader2, headerType, h₁, h₂⟩
    else .error (invalidKeySize "kHeader2" kHeader2)
  else .error (invalidKeySize "kHeader1" kHeader1)

def newHeaderProtectorFromIntroKey (introKey : Bytes) (headerType : HeaderType) :
    Except Oops HeaderProtector :=
  newHeaderProtector introKey introKey headerType

theorem headerType_of_newHeaderProtector {kHeader1 kHeader2 : Bytes} {headerType : HeaderType}
    {hp : HeaderProtector} (h : newHeaderProtector kHeader1 kHeader2 headerType = .ok hp) :
    hp.headerType = headerType := by grind [newHeaderProtector]

variable (chacha20 : ChaCha20) (hp : HeaderProtector) {packet : Bytes} {start : ℕ} (mask : Bytes)

def isLongHeader : Bool :=
  match hp.headerType with
  | .sessionRequest | .sessionCreated | .retry | .tokenRequest | .peerTest | .holePunch => true
  | _ => false

def getHeaderSize : ℕ := if hp.isLongHeader then longHeaderSize else shortHeaderSize

/-- The smallest packet whose last 24 bytes are not part of the header. -/
def minSize : ℕ := hp.getHeaderSize + 24

def validatePacketSize (packet : Bytes) : Except Oops Unit :=
  if packet.length < hp.minSize then
    .error ⟨"PACKET_TOO_SMALL", "ssu2", [("packet_size", packet.length), ("min_size", hp.minSize),
      ("header_type", hp.headerType.toInt)],
      s!"packet too small for header protection: need at least {hp.minSize} bytes"⟩
  else .ok ()

/-- `generateMask`: eight zero bytes encrypted. -/
def generateMask (key nonce : Bytes) : Except Oops Bytes :=
  match chacha20.newUnauthenticatedCipher key nonce with
  | .error e => .error (e.wrapf "failed to initialize ChaCha20 cipher")
  | .ok ks => .ok (xorRange ks 0 8 (List.replicate 8 0))

def iv1 (packet : Bytes) : Bytes := (packet.drop (packet.length - 24)).take 12

/-- `iv2 = packet[len-12 : len]` -/
def iv2 (packet : Bytes) : Bytes := (packet.drop (packet.length - 12)).take 12

def xorMask (mask : Bytes) (start : ℕ) (packet : Bytes) : Bytes :=
  xorRange (fun i => mask.getD i 0) start (start + 8) packet

def applyXORMasks (packet : Bytes) : Except Oops Bytes :=
  match generateMask chacha20 hp.kHeader1 (iv1 packet) with
  | .error e => .error (e.wrapf "failed to generate first header mask")
  | .ok mask1 =>
    let packet := xorMask mask1 0 packet
    match generateMask chacha20 hp.kHeader2 (iv2 packet) with
    | .error e => .error (e.wrapf "failed to generate second header mask")
    | .ok mask2 => .ok (xorMask mask2 8 packet)

/-- Where the encrypted part of a long header ends. -/
def extensionEnd (packet : Bytes) : ℕ :=
  if (hp.headerType = .sessionRequest ∨ hp.headerType = .sessionCreated) ∧
      packet.length ≥ longHeaderSize + ephemeralKeySize then 64
  else 32

def encryptLongHeaderExtension (packet : Bytes) : Except Oops Bytes :=
  if packet.length < longHeaderSize then .ok packet
  else
    match chacha20.newUnauthenticatedCipher hp.kHeader2 (List.replicate 12 0) with
    | .error e => .error (e.wrapf "failed to initialize ChaCha20 for header extension")
    | .ok ks => .ok (xorRange (setCounter ks 1) 16 (hp.extensionEnd packet) packet)

def encryptHeader (packet : Bytes) : Except Oops Bytes :=
  match hp.validatePacketSize packet with
  | .error e => .error e
  | .ok () =>
    if hp.isLongHeader ∧ packet.length ≥ longHeaderSize then
      match hp.encryptLongHeaderExtension chacha20 packet with
      | .error e => .error (e.wrapf "failed to encrypt long header extension")
      | .ok packet => hp.applyXORMasks chacha20 packet
    else hp.applyXORMasks chacha20 packet

def decryptHeader (packet : Bytes) : Except Oops Bytes :=
  match hp.validatePacketSize packet with
  | .error e => .error e
  | .ok () =>
    match hp.applyXORMasks chacha20 packet with
    | .error e => .error e
    | .ok packet =>
      if hp.isLongHeader ∧ packet.length ≥ longHeaderSize then
        match hp.encryptLongHeaderExtension chacha20 packet with
        | .error e => .error (e.wrapf "failed to decrypt long header extension")
        | .ok packet => .ok packet
      else .ok packet

/-! ## Protection undoes itself

On a packet of the minimum size no step fails, and the masks do not reach the bytes their nonces are
read from. So encryption is `masked` after `extended` and decryption is `extended` after `masked`,
and each of these two is its own inverse. That the extension may rewrite nonce bytes does not
matter: encryption reads them after the extension and decryption before it. -/

/-- The masks for the two nonces, XORed into the first 16 bytes. -/
def xorMasks (ivs : Bytes × Bytes) (packet : Bytes) : Bytes :=
  xorMask (xorRange (chacha20.keystream hp.kHeader2 ivs.2) 0 8 (List.replicate 8 0)) 8
    (xorMask (xorRange (chacha20.keystream hp.kHeader1 ivs.1) 0 8 (List.replicate 8 0)) 0 packet)

def ivs (packet : Bytes) : Bytes × Bytes := (iv1 packet, iv2 packet)

/-- What `applyXORMasks` computes. -/
def masked (packet : Bytes) : Bytes := hp.xorMasks chacha20 (ivs packet) packet

/-- What the extension step computes; short headers have none. -/
def extended (packet : Bytes) : Bytes :=
  if hp.isLongHeader then
    xorRange (setCounter (chacha20.keystream hp.kHeader2 (List.replicate 12 0)) 1) 16
      (hp.extensionEnd packet) packet
  else packet

@[simp] theorem length_xorMask (start : ℕ) (packet : Bytes) :
    (xorMask mask start packet).length = packet.length := length_xorRange _ _ _ _

@[simp] theorem length_masked (packet : Bytes) :
    (hp.masked chacha20 packet).length = packet.length := by
  rw [masked, xorMasks, length_xorMask, length_xorMask]

@[simp] theorem length_extended (packet : Bytes) :
    (hp.extended chacha20 packet).length = packet.length := by grind [extended, length_xorRange]

theorem minSize_ge : 40 ≤ hp.minSize := by
  rw [minSize, getHeaderSize, longHeaderSize, shortHeaderSize]
  split_ifs <;> omega

theorem iv1_xorMask
    (h : start + 8 + 24 ≤ packet.length) : iv1 (xorMask mask start packet) = iv1 packet := by
  rw [iv1, iv1, length_xorMask, xorMask, drop_xorRange _ _ _ (by omega)]

theorem iv2_xorMask
    (h : start + 8 + 12 ≤ packet.length) : iv2 (xorMask mask start packet) = iv2 packet := by
  rw [iv2, iv2, length_xorMask, xorMask, drop_xorRange _ _ _ (by omega)]

theorem xorMasks_involutive (ivs : Bytes × Bytes) :
    Function.Involutive (hp.xorMasks chacha20 ivs) := by
  intro packet
  simp only [xorMasks, xorMask]
  -- the two masks on bytes 0 to 7 meet after one exchange
  rw [xorRange_comm _ 0, xorRange_involutive, xorRange_involutive]

theorem masked_masked (h : 40 ≤ packet.length) :
    hp.masked chacha20 (hp.masked chacha20 packet) = packet := by
  refine mask_mask ?_ (hp.xorMasks_involutive chacha20 (ivs packet))
  rw [ivs, xorMasks, iv1_xorMask, iv1_xorMask, iv2_xorMask, iv2_xorMask, ivs]
  all_goals
    try rw [length_xorMask]
    omega

theorem extended_extended (packet : Bytes) :
    hp.extended chacha20 (hp.extended chacha20 packet) = packet := by
  by_cases hlong : hp.isLongHeader = true
  · have hend : hp.extensionEnd (hp.extended chacha20 packet) = hp.extensionEnd packet := by
      rw [extensionEnd, extensionEnd, length_extended]
    rw [extended, if_pos hlong, hend, extended, if_pos hlong, xorRange_involutive]
  · rw [extended, if_neg hlong, extended, if_neg hlong]

theorem generateMask_eq {key nonce : Bytes} (hkey : key.length = headerKeySize)
    (hnonce : nonce.length = 12) :
    generateMask chacha20 key nonce =
      .ok (xorRange (chacha20.keystream key nonce) 0 8 (List.replicate 8 0)) := by
  rw [generateMask, chacha20.newUnauthenticatedCipher_eq hkey hnonce]

theorem applyXORMasks_eq (h : 40 ≤ packet.length) :
    hp.applyXORMasks chacha20 packet = .ok (hp.masked chacha20 packet) := by
  have h₁ : (iv1 packet).length = 12 := by simp [iv1]; omega
  have h₂ : (iv2 packet).length = 12 := by simp [iv2]; omega
  rw [applyXORMasks, generateMask_eq chacha20 hp.length_kHeader1 h₁]
  dsimp only
  rw [iv2_xorMask _ (by omega), generateMask_eq chacha20 hp.length_kHeader2 h₂]
  rfl

theorem encryptLongHeaderExtension_eq (hlong : hp.isLongHeader = true)
    (h : longHeaderSize ≤ packet.length) :
    hp.encryptLongHeaderExtension chacha20 packet = .ok (hp.extended chacha20 packet) := by
  rw [encryptLongHeaderExtension, if_neg (Nat.not_lt.mpr h),
    chacha20.newUnauthenticatedCipher_eq hp.length_kHeader2 (by simp), extended, if_pos hlong]

theorem validatePacketSize_eq (h : hp.minSize ≤ packet.length) :
    hp.validatePacketSize packet = .ok () := by
  rw [validatePacketSize, if_neg (Nat.not_lt.mpr h)]

theorem longHeaderSize_le (hlong : hp.isLongHeader = true)
    (h : hp.minSize ≤ packet.length) : longHeaderSize ≤ packet.length := by
  rw [minSize, getHeaderSize, if_pos hlong] at h
  omega

section
variable (h : hp.minSize ≤ packet.length)
include h

theorem encryptHeader_eq :
    hp.encryptHeader chacha20 packet =
      .ok (hp.masked chacha20 (hp.extended chacha20 packet)) := by
  have hmin := hp.minSize_ge
  rw [encryptHeader, hp.validatePacketSize_eq h]
  by_cases hlong : hp.isLongHeader = true
  · have hsize := hp.longHeaderSize_le hlong h
    rw [if_pos ⟨hlong, hsize⟩, hp.encryptLongHeaderExtension_eq chacha20 hlong hsize]
    exact hp.applyXORMasks_eq chacha20 (by rw [length_extended]; omega)
  · rw [if_neg fun hc => hlong hc.1, extended, if_neg hlong,
      hp.applyXORMasks_eq chacha20 (by omega)]

theorem decryptHeader_eq :
    hp.decryptHeader chacha20 packet =
      .ok (hp.extended chacha20 (hp.masked chacha20 packet)) := by
  have hmin := hp.minSize_ge
  rw [decryptHeader, hp.validatePacketSize_eq h]
  rw [hp.applyXORMasks_eq chacha20 (by omega)]
  dsimp only
  by_cases hlong : hp.isLongHeader = true
  · have hsize : longHeaderSize ≤ (hp.masked chacha20 packet).length := by
      rw [length_masked]
      exact hp.longHeaderSize_le hlong h
    rw [if_pos ⟨hlong, hsize⟩, hp.encryptLongHeaderExtension_eq chacha20 hlong hsize]
  · rw [if_neg fun hc => hlong hc.1, extended, if_neg hlong]

theorem decryptHeader_encrypted :
    hp.decryptHeader chacha20 (hp.masked chacha20 (hp.extended chacha20 packet)) = .ok packet := by
  have hmin := hp.minSize_ge
  rw [hp.decryptHeader_eq chacha20 (by rwa [length_masked, length_extended]),
    hp.masked_masked chacha20 (by rw [length_extended]; omega), extended_extended]

theorem encryptHeader_decrypted :
    hp.encryptHeader chacha20 (hp.extended chacha20 (hp.masked chacha20 packet)) = .ok packet := by
  have hmin := hp.minSize_ge
  rw [hp.encryptHeader_eq chacha20 (by rwa [length_extended, length_masked]), extended_extended,
    hp.masked_masked chacha20 (by omega)]

end

theorem drop_masked (packet : Bytes) :
    (hp.masked chacha20 packet).drop 16 = packet.drop 16 := by
  rw [masked, xorMasks, xorMask, drop_xorRange _ _ _ (Nat.le_refl 16), xorMask,
    drop_xorRange _ _ _ (by omega)]

theorem encryptHeader_data {encrypted : Bytes} (htype : hp.headerType = .data)
    (h : hp.encryptHeader chacha20 packet = .ok encrypted) :
    encrypted.length = packet.length ∧ encrypted.drop 16 = packet.drop 16 := by
  by_cases hmin : hp.minSize ≤ packet.length
  · have hext : hp.extended chacha20 packet = packet := by grind [extended, isLongHeader]
    rw [hp.encryptHeader_eq chacha20 hmin, hext] at h
    cases h
    exact ⟨hp.length_masked chacha20 packet, hp.drop_masked chacha20 packet⟩
  · rw [encryptHeader, validatePacketSize, if_pos (Nat.not_le.mp hmin)] at h
    cases h

/-- **Header protection is invertible**, in both orders, for every packet of the minimum size. -/
theorem header_protection_invertible (packet : Bytes) (h : hp.minSize ≤ packet.length) :
    (∃ encrypted, hp.encryptHeader chacha20 packet = .ok encrypted ∧
        hp.decryptHeader chacha20 encrypted = .ok packet) ∧
      ∃ decrypted, hp.decryptHeader chacha20 packet = .ok decrypted ∧
        hp.encryptHeader chacha20 decrypted = .ok packet :=
  ⟨⟨_, hp.encryptHeader_eq chacha20 h, hp.decryptHeader_encrypted chacha20 h⟩,
    ⟨_, hp.decryptHeader_eq chacha20 h, hp.encryptHeader_decrypted chacha20 h⟩⟩

/-- A Session Request of 64 bytes, whose last 24 bytes are all in the extension. -/
theorem header_protection_invertible_overlap :
    ∃ (chacha20 : ChaCha20) (hp : HeaderProtector) (packet : Bytes),
      hp.headerType = .sessionRequest ∧ packet.length = 64 ∧ hp.extensionEnd packet = 64 ∧
        (∃ encrypted, hp.encryptHeader chacha20 packet = .ok encrypted ∧
          hp.decryptHeader chacha20 encrypted = .ok packet) ∧
        ∃ decrypted, hp.decryptHeader chacha20 packet = .ok decrypted ∧
          hp.encryptHeader chacha20 decrypted = .ok packet :=
  let chacha20 : ChaCha20 := ⟨fun key nonce i => key.headD 0 + nonce.headD 0 + UInt8.ofNat i⟩
  let hp : HeaderProtector :=
    ⟨List.replicate 32 7, List.replicate 32 9, .sessionRequest, List.length_replicate,
      List.length_replicate⟩
  let packet : Bytes := List.replicate 64 1
  ⟨chacha20, hp, packet, rfl, List.length_replicate, rfl,
    hp.header_protection_invertible chacha20 packet (by decide)⟩

end HeaderProtector

/-! ## The keys of a connection -/

/-- `HeaderProtectorManager`. An empty list stands for a nil slice. -/
structure HeaderProtectorManager where
  introKey : Bytes
  remoteIntroKey : Bytes
  sendDataHeader2 : Bytes
  recvDataHeader2 : Bytes
  sessCreateHeader2 : Bytes
  sessionConfirmedHeader2 : Bytes
  isInitiator : Bool
  deriving DecidableEq

namespace HeaderProtectorManager

/-- The key, or an error if it is missing. -/
def requireKey (code message : String) (key : Bytes) : Except Oops Bytes :=
  if key.length ≠ headerKeySize then .error ⟨code, "ssu2", [], message⟩ else .ok key

theorem requireKey_eq {code message : String} {key : Bytes} (h : key.length = headerKeySize) :
    requireKey code message key = .ok key := if_neg (not_not.mpr h)

variable (hpm : HeaderProtectorManager) {headerType : HeaderType} (chacha20 : ChaCha20)

def keysForIntroProtected : Except Oops (Bytes × Bytes) :=
  if hpm.isInitiator then do
    let key ← requireKey "MISSING_REMOTE_INTRO_KEY" "remote intro key required for Session Request"
      hpm.remoteIntroKey
    return (key, key)
  else .ok (hpm.introKey, hpm.introKey)

def keysForHolePunch : Except Oops (Bytes × Bytes) := do
  let key ← requireKey "MISSING_REMOTE_INTRO_KEY"
    "remote intro key required for HolePunch header protection" hpm.remoteIntroKey
  return (key, key)

def keysForSessionCreatedRetry (headerType : HeaderType) : Except Oops (Bytes × Bytes) := do
  let base ←
    if hpm.isInitiator then
      requireKey "MISSING_REMOTE_INTRO_KEY" "remote intro key required for Session Created/Retry"
        hpm.remoteIntroKey
    else .ok hpm.introKey
  if headerType = .retry then return (base, base)
  let k2 ← requireKey "MISSING_KDF_KEY"
    "SessCreateHeader k_header_2 required for SessionCreated per spec" hpm.sessCreateHeader2
  return (base, k2)

def keysForKDFProtected (headerType : HeaderType) : Except Oops (Bytes × Bytes) := do
  if headerType = .sessionConfirmed then
    let k1 ←
      if hpm.isInitiator then
        requireKey "MISSING_REMOTE_INTRO_KEY"
          "remote intro key (bik) required for SessionConfirmed k_header_1" hpm.remoteIntroKey
      else .ok hpm.introKey
    let k2 ← requireKey "MISSING_KDF_KEY"
      "SessionConfirmed k_header_2 required (from \"SessionConfirmed\" KDF)"
      hpm.sessionConfirmedHeader2
    return (k1, k2)
  let k1 ← requireKey "MISSING_REMOTE_INTRO_KEY"
    "remote intro key required for Data phase k_header_1" hpm.remoteIntroKey
  let k2 ← requireKey "MISSING_KDF_KEYS" "send data k_header_2 required for Data packets"
    hpm.sendDataHeader2
  return (k1, k2)

def getDataInboundKeys : Except Oops (Bytes × Bytes) := do
  let k1 ← requireKey "MISSING_INTRO_KEY" "own intro key required for inbound Data k_header_1"
    hpm.introKey
  let k2 ← requireKey "MISSING_KDF_KEYS" "recv data k_header_2 required for inbound Data packets"
    hpm.recvDataHeader2
  return (k1, k2)

/-- The keys that `GetProtectorForType` chooses. -/
def keysForType (headerType : HeaderType) : Except Oops (Bytes × Bytes) :=
  match headerType with
  | .sessionRequest | .tokenRequest => hpm.keysForIntroProtected
  | .holePunch => hpm.keysForHolePunch
  | .sessionCreated | .retry => hpm.keysForSessionCreatedRetry headerType
  | .sessionConfirmed | .data => hpm.keysForKDFProtected headerType
  | .peerTest => .error ⟨"PEER_TEST_NOT_SUPPORTED", "ssu2", [],
      "Peer Test requires target's intro key - use GetProtectorForType with explicit keys"⟩

def getProtectorForType (headerType : HeaderType) : Except Oops HeaderProtector := do
  let keys ← hpm.keysForType headerType
  HeaderProtector.newHeaderProtector keys.1 keys.2 headerType

def encryptOutboundHeader (chacha20 : ChaCha20) (packet : Bytes) (headerType : HeaderType) :
    Except Oops Bytes := do
  let protector ← hpm.getProtectorForType headerType
  protector.encryptHeader chacha20 packet

def inboundProtector (headerType : HeaderType) : Except Oops HeaderProtector :=
  if headerType = .data then do
    let keys ← hpm.getDataInboundKeys
    HeaderProtector.newHeaderProtector keys.1 keys.2 headerType
  else hpm.getProtectorForType headerType

def decryptInboundHeader (chacha20 : ChaCha20) (packet : Bytes) (headerType : HeaderType) :
    Except Oops Bytes := do
  if headerType = .data then
    let keys ← hpm.getDataInboundKeys
    let protector ← HeaderProtector.newHeaderProtector keys.1 keys.2 headerType
    protector.decryptHeader chacha20 packet
  else
    let protector ← hpm.getProtectorForType headerType
    protector.decryptHeader chacha20 packet

/-! ### Data packets -/

section
variable {hpm} (chacha20 : ChaCha20)

theorem encryptOutboundHeader_data (h₁ : hpm.remoteIntroKey.length = headerKeySize)
    (h₂ : hpm.sendDataHeader2.length = headerKeySize) (packet : Bytes) :
    hpm.encryptOutboundHeader chacha20 packet .data =
      HeaderProtector.encryptHeader chacha20
        ⟨hpm.remoteIntroKey, hpm.sendDataHeader2, .data, h₁, h₂⟩ packet := by
  have hkeys : hpm.keysForType .data = .ok (hpm.remoteIntroKey, hpm.sendDataHeader2) := by
    rw [keysForType, keysForKDFProtected, if_neg (by decide), requireKey_eq h₁, requireKey_eq h₂]
    rfl
  rw [encryptOutboundHeader, getProtectorForType, hkeys]
  show (HeaderProtector.newHeaderProtector _ _ _ >>= _) = _
  rw [HeaderProtector.newHeaderProtector, dif_pos h₁, dif_pos h₂]
  rfl

theorem decryptInboundHeader_data (h₁ : hpm.introKey.length = headerKeySize)
    (h₂ : hpm.recvDataHeader2.length = headerKeySize) (packet : Bytes) :
    hpm.decryptInboundHeader chacha20 packet .data =
      HeaderProtector.decryptHeader chacha20
        ⟨hpm.introKey, hpm.recvDataHeader2, .data, h₁, h₂⟩ packet := by
  have hkeys : hpm.getDataInboundKeys = .ok (hpm.introKey, hpm.recvDataHeader2) := by
    rw [getDataInboundKeys, requireKey_eq h₁, requireKey_eq h₂]
    rfl
  rw [decryptInboundHeader, if_pos rfl, hkeys]
  show (HeaderProtector.newHeaderProtector _ _ _ >>= _) = _
  rw [HeaderProtector.newHeaderProtector, dif_pos h₁, dif_pos h₂]
  rfl

end

theorem headerType_of_getProtectorForType {hp : HeaderProtector}
    (h : hpm.getProtectorForType headerType = .ok hp) : hp.headerType = headerType := by
  rw [getProtectorForType] at h
  cases hkeys : hpm.keysForType headerType with
  | error e =>
    rw [hkeys] at h
    cases h
  | ok keys =>
    rw [hkeys] at h
    exact HeaderProtector.headerType_of_newHeaderProtector h

/-- A protected Data packet has its body where it was. -/
theorem encryptOutboundHeader_keeps {packet encrypted : Bytes}
    (h : hpm.encryptOutboundHeader chacha20 packet .data = .ok encrypted) :
    encrypted.length = packet.length ∧ encrypted.drop 16 = packet.drop 16 := by
  rw [encryptOutboundHeader] at h
  cases hget : hpm.getProtectorForType .data with
  | error e =>
    rw [hget] at h
    cases h
  | ok hp =>
    rw [hget] at h
    exact hp.encryptHeader_data chacha20 (hpm.headerType_of_getProtectorForType hget) h

theorem decryptInboundHeader_of_short
    (htype : headerType = .sessionRequest ∨ headerType = .sessionCreated) {packet : Bytes}
    (hlen : packet.length < longHeaderSize + 24) :
    ∃ e, hpm.decryptInboundHeader chacha20 packet headerType = .error e := by
  have hne : headerType ≠ .data := by rcases htype with rfl | rfl <;> decide
  rw [decryptInboundHeader, if_neg hne]
  cases hget : hpm.getProtectorForType headerType with
  | error e => exact ⟨e, rfl⟩
  | ok hp =>
    have hlong : hp.isLongHeader = true := by
      rw [HeaderProtector.isLongHeader, hpm.headerType_of_getProtectorForType hget]
      rcases htype with rfl | rfl <;> rfl
    show ∃ e, hp.decryptHeader chacha20 packet = .error e
    rw [HeaderProtector.decryptHeader, HeaderProtector.validatePacketSize,
      HeaderProtector.minSize, HeaderProtector.getHeaderSize, if_pos hlong, if_pos hlen]
    exact ⟨_, rfl⟩

end HeaderProtectorManager
end GoNoise.SSU2
