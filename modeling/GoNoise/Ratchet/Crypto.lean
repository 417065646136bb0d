import GoNoise.Library.Assoc
import GoNoise.Ratchet.Payload

/-!
# `ratchet/crypto_helpers.go`: the crypto library and what is built on it

The ratchets, the key derivation and the AEAD come from a crypto library. Here they are a
parameter: what the library keeps behind a pointer is a state, and a call that fails may leave any
state.
-/

namespace GoNoise.Ratchet

open BigEndian

/-! ## The library -/

/-- `AEAD` of `chacha20poly1305`, for one key. -/
structure AEAD where
  encrypt : (plaintext additionalData nonce : Bytes) → Except Oops (Bytes × FixedBytes 16)
  decrypt : (ciphertext tag additionalData nonce : Bytes) → Except Oops Bytes

/-- The crypto library, with `δ`, `σ` and `τ` for what stands behind a `DHRatchet`, a
`SymmetricRatchet` and a `TagRatchet`. -/
structure Primitives (δ σ τ : Type) where
  newDHRatchet : (rootKey ourPrivateKey theirPublicKey : Key) → δ
  generateNewKeyPair : δ → Except Oops Key × δ
  updateKeys : Bytes → δ → Except Oops Unit × δ
  /-- the sending and the receiving chain key -/
  performRatchet : δ → Except Oops (Key × Key) × δ
  newSymmetricRatchet : Key → σ
  deriveMessageKeyAndAdvance : UInt32 → σ → Except Oops Key × σ
  newTagRatchet : Key → τ
  generateNextTag : τ → Except Oops Tag × τ
  deriveKeys : Key → (info : String) → Except Oops (Key × Key)
  newAEAD : Key → Except Oops AEAD

/-- `noise.BuildNonce`: four zero bytes and the number, least significant byte first. -/
def buildNonce (n : UInt64) : Bytes := List.replicate 4 0 ++ (putUint64 n).reverse

/-- `sessionKeys`, without `symKey`, which nothing reads. -/
structure SessionKeys where
  rootKey : Key
  tagKey : Key
  deriving DecidableEq

/-- `nsrSessionKeys`, without `chainKey`, which nothing reads. -/
structure NSRSessionKeys where
  keyAB : Key
  keyBA : Key
  deriving DecidableEq

/-! ## Key derivation -/

def hkdfInfoDHRatchetStep : String := "KDFDHRatchetStep"
def hkdfInfoTagAndKeyGenKeys : String := "TagAndKeyGenKeys"

section
variable {δ σ τ : Type} (P : Primitives δ σ τ)

/-- `deriveDirectionalKeys`: the sending and the receiving key. -/
def deriveDirectionalKeys (baseKey : Key) (isInitiator : Bool) : Except Oops (Key × Key) :=
  match P.deriveKeys baseKey hkdfInfoDHRatchetStep with
  | .error e => .error (e.wrapf "failed to derive directional keys via KDFDHRatchetStep")
  | .ok (key₀, key₁) => .ok (if isInitiator then (key₀, key₁) else (key₁, key₀))

/-- `deriveTagAndSymKeysFromChainKey`: the tag key and the symmetric key. -/
def deriveTagAndSymKeysFromChainKey (chainKey : Key) : Except Oops (Key × Key) :=
  match P.deriveKeys chainKey hkdfInfoTagAndKeyGenKeys with
  | .error e => .error (e.wrapf "failed to derive tag and symmetric keys via TagAndKeyGenKeys")
  | .ok keys => .ok keys

/-! ## Existing Session messages -/

def encryptWithSessionKey (messageKey : Key) (plaintext : Bytes) (sessionTag : Tag)
    (messageNumber : UInt32) : Except Oops (Bytes × FixedBytes 16) :=
  match P.newAEAD messageKey with
  | .error e => .error (e.wrapf "failed to create AEAD")
  | .ok aead =>
    match aead.encrypt plaintext sessionTag.val (buildNonce messageNumber.toUInt64) with
    | .error e => .error (e.wrapf "failed to encrypt existing session message")
    | .ok sealed => .ok sealed

def decryptWithSessionTag (messageKey : Key) (ciphertext : Bytes) (tag : FixedBytes 16)
    (sessionTag : Tag) (messageNumber : UInt32) : Except Oops Bytes :=
  match P.newAEAD messageKey with
  | .error e => .error (e.wrapf "failed to create AEAD")
  | .ok aead =>
    match aead.decrypt ciphertext tag.val sessionTag.val (buildNonce messageNumber.toUInt64) with
    | .error e => .error (e.wrapf "decryption failed (authentication error)")
    | .ok plaintext => .ok plaintext

end

def buildExistingSessionMessage (sessionTag : Tag) (ciphertext : Bytes) (tag : FixedBytes 16) :
    Bytes :=
  sessionTag.val ++ (ciphertext ++ tag.val)

/-- `parseExistingSessionMessage`, of a message without its session tag. -/
def parseExistingSessionMessage (msg : Bytes) : Except Oops (Bytes × FixedBytes 16) :=
  if msg.length < 16 then
    .error (.errorf s!"existing session message too short: {msg.length} bytes")
  else .ok (msg.take (msg.length - 16), .copyFrom 16 (msg.drop (msg.length - 16)))

section
variable (sessionTag : Tag) (ciphertext : Bytes) (tag : FixedBytes 16)

theorem tag_buildExistingSessionMessage :
    FixedBytes.copyFrom 8 ((buildExistingSessionMessage sessionTag ciphertext tag).take 8) =
      sessionTag := by
  rw [buildExistingSessionMessage, List.take_left' sessionTag.property, FixedBytes.copyFrom_self]

theorem length_buildExistingSessionMessage :
    (buildExistingSessionMessage sessionTag ciphertext tag).length = 24 + ciphertext.length := by
  simp only [buildExistingSessionMessage, List.length_append, sessionTag.property, tag.property]
  omega

theorem parseExistingSessionMessage_build :
    parseExistingSessionMessage ((buildExistingSessionMessage sessionTag ciphertext tag).drop 8) =
      .ok (ciphertext, tag) := by
  have hsize : (ciphertext ++ tag.val).length - 16 = ciphertext.length := by
    rw [List.length_append, tag.property]
    omega
  rw [buildExistingSessionMessage, List.drop_left' sessionTag.property,
    parseExistingSessionMessage, if_neg (by rw [List.length_append, tag.property]; omega), hsize,
    List.take_left' rfl, List.drop_left' rfl, FixedBytes.copyFrom_self]

end

end GoNoise.Ratchet
