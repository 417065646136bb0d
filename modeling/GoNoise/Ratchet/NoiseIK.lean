import GoNoise.Library.Fallible
import GoNoise.Library.Noise
import GoNoise.Ratchet.Session

/-!
# `ratchet/noise_ik.go`, `ratchet/noise_ik_nsr.go`: the handshake

A session begins with the Noise pattern IK: the New Session message of the initiator and the New
Session Reply of the responder. Ephemeral keys go over the wire in the encoding of Elligator2. An
unbound New Session message carries zeros in place of a static key and has no reply.
-/

namespace GoNoise.Ratchet

open Noise Fallible BigEndian SymmetricState FixedBytes

/-- What the handshake takes from its libraries. -/
structure NoiseLibrary where
  /-- `noise.ChaChaPoly_SHA256` -/
  suite : Suite Oops
  /-- `noise.HKDF1SHA256` -/
  hkdf1 : (chainingKey inputKeyMaterial : Bytes) → Key
  /-- the public key of an X25519 private key -/
  publicKey : Bytes → Key
  sharedKey : (privateKey publicKey : Bytes) → Except Oops Bytes
  /-- `elligator2.Encode` -/
  encode : Key → Except Oops Key
  /-- `elligator2.Decode` -/
  decode : Bytes → Except Oops Key
  standardHKDF : (ikm salt : Bytes) → (info : String) → (length : ℕ) → Except Oops Bytes
  deriveSessionKeys : Key → Except Oops SessionKeys

/-- Shared secrets commute, decoding inverts encoding, and the AEAD opens what it sealed. -/
structure NoiseLibrary.Lawful (N : NoiseLibrary) : Prop where
  suite : N.suite.Lawful
  sharedKey_comm : ∀ a b, N.sharedKey a (N.publicKey b).val = N.sharedKey b (N.publicKey a).val
  decode_encode : ∀ {pub encoded}, N.encode pub = .ok encoded → N.decode encoded.val = .ok pub

def noiseProtocolName : Bytes :=
  "Noise_IKelg2+hs2_25519_ChaChaPoly_SHA256".toList.map fun c => UInt8.ofNat c.toNat

def noiseIKMinMessageSize : ℕ := 32 + 48 + 16

def noiseEncryptedStaticSize : ℕ := 48

def nsrMinMessageSize : ℕ := 8 + 32 + 16 + 16

def hkdfInfoSessionReplyTags : String := "SessionReplyTags"
def hkdfInfoAttachPayloadKDF : String := "AttachPayloadKDF"

def isAllZeros (b : Bytes) : Bool := b.all (· = 0)

section
variable (N : NoiseLibrary)

def deriveSessionKeysFromSecret (sharedSecret : Bytes) : Except Oops SessionKeys :=
  (N.deriveSessionKeys (.copyFrom 32 sharedSecret)).mapError
    (·.wrapf "failed to derive session keys")

def initNoiseIK (responderStaticPub : Key) : SymmetricState :=
  let ns := initializeSymmetric N.suite noiseProtocolName
  let ns := ns.mixHash N.suite []
  ns.mixHash N.suite (N.suite.hash responderStaticPub.val).val

def mixKeyCKOnly (ikm : Bytes) (ns : SymmetricState) : SymmetricState :=
  { ns with ck := (N.hkdf1 ns.ck ikm).val }

/-! ## New Session -/

/-- `writeNoiseIKMessage1`, with what `elligator2.GenerateKeyPair` returns. -/
def writeNoiseIKMessage1 (eph : Except Oops (Key × Bytes))
    (ourStaticPriv ourStaticPub responderStaticPub : Key) (payload : Bytes) :
    Except Oops (Bytes × SessionKeys × NoiseHandshakeState) := do
  let ns := initNoiseIK N responderStaticPub
  let (ephPub, ephPriv) ←
    eph.mapError (·.wrapf "failed to generate Elligator2 ephemeral key pair")
  let ephEncoded ←
    (N.encode ephPub).mapError (·.wrapf "failed to Elligator2-encode ephemeral public key")
  let ns := ns.mixHash N.suite ephEncoded.val
  let sharedES ←
    (N.sharedKey ephPriv responderStaticPub.val).mapError (·.wrapf "failed to compute DH(e, rs)")
  let ns := ns.mixKey N.suite sharedES
  let (encryptedStatic, ns) ← (ns.encryptAndHash N.suite ourStaticPub.val).mapError
    (·.wrapf "failed to encrypt static public key")
  let sharedSS ← (N.sharedKey ourStaticPriv.val responderStaticPub.val).mapError
    (·.wrapf "failed to compute DH(s, rs)")
  let ns := ns.mixKey N.suite sharedSS
  let (encryptedPayload, ns) ←
    (ns.encryptAndHash N.suite payload).mapError (·.wrapf "failed to encrypt payload")
  let keys ← (deriveSessionKeysFromSecret N ns.ck).mapError
    (·.wrapf "failed to derive session keys from handshake")
  return (ephEncoded.val ++ encryptedStatic ++ encryptedPayload, keys,
    ⟨ns.h, ns.ck, ephPriv, .copyFrom 32 [], .copyFrom 32 []⟩)

/-- The handshake of `writeNoiseIKMessage1Unbound`: the message and the state after it. -/
def sealUnbound (eph : Except Oops (Key × Bytes)) (responderStaticPub : Key) (payload : Bytes) :
    Except Oops (Bytes × SymmetricState) := do
  let ns := initNoiseIK N responderStaticPub
  let (ephPub, ephPriv) ←
    eph.mapError (·.wrapf "failed to generate Elligator2 ephemeral key pair")
  let ephEncoded ←
    (N.encode ephPub).mapError (·.wrapf "failed to Elligator2-encode ephemeral public key")
  let ns := ns.mixHash N.suite ephEncoded.val
  let sharedES ←
    (N.sharedKey ephPriv responderStaticPub.val).mapError (·.wrapf "failed to compute DH(e, rs)")
  let ns := ns.mixKey N.suite sharedES
  let (encryptedFlags, ns) ← (ns.encryptAndHash N.suite (List.replicate 32 0)).mapError
    (·.wrapf "failed to encrypt unbound flags section")
  let (encryptedPayload, ns) ←
    (ns.encryptAndHash N.suite payload).mapError (·.wrapf "failed to encrypt payload")
  return (ephEncoded.val ++ encryptedFlags ++ encryptedPayload, ns)

/-- `writeNoiseIKMessage1Unbound`, with what `elligator2.GenerateKeyPair` returns. -/
def writeNoiseIKMessage1Unbound (eph : Except Oops (Key × Bytes)) (responderStaticPub : Key)
    (payload : Bytes) : Except Oops (Bytes × SessionKeys) := do
  let (msg, ns) ← sealUnbound N eph responderStaticPub payload
  let keys ← (deriveSessionKeysFromSecret N ns.ck).mapError
    (·.wrapf "failed to derive session keys from unbound handshake")
  return (msg, keys)

/-- What `readNoiseIKMessage1` returns without an error. -/
structure Message1 where
  payload : Bytes
  initiatorStaticPub : Key
  keys : SessionKeys
  hs : Option NoiseHandshakeState
  isUnbound : Bool
  deriving DecidableEq

def readEphemeralKey (ephEncoded : Bytes) (ns : SymmetricState) :
    Except Oops (Key × SymmetricState) := do
  let ns := ns.mixHash N.suite ephEncoded
  let ephPub ← (N.decode ephEncoded).mapError (·.wrapf "failed to decode Elligator2 ephemeral key")
  return (ephPub, ns)

/-- `readUnboundPayload`, without the error of its last step: the payload and the state after it. -/
def openUnbound (encryptedPayload : Bytes) (ns : SymmetricState) :
    Except Oops (Bytes × SymmetricState) :=
  (ns.decryptAndHash N.suite encryptedPayload).mapError
    (·.wrapf "failed to decrypt unbound payload")

def readUnboundPayload (ns : SymmetricState) (encryptedPayload : Bytes) : Except Oops Message1 := do
  let (payload, ns) ← openUnbound N encryptedPayload ns
  let keys ← (deriveSessionKeysFromSecret N ns.ck).mapError
    (·.wrapf "failed to derive session keys from unbound handshake")
  return ⟨payload, .copyFrom 32 [], keys, none, true⟩

def readBoundPayload (ns : SymmetricState) (ourStaticPriv initiatorEphPub : Key)
    (initiatorStaticBytes encryptedPayload : Bytes) : Except Oops Message1 := do
  let initiatorStaticPub : Key := .copyFrom 32 initiatorStaticBytes
  let sharedSS ← (N.sharedKey ourStaticPriv.val initiatorStaticPub.val).mapError
    (·.wrapf "failed to compute DH(s, rs)")
  let ns := ns.mixKey N.suite sharedSS
  let (payload, ns) ←
    (ns.decryptAndHash N.suite encryptedPayload).mapError (·.wrapf "failed to decrypt payload")
  let keys ← (deriveSessionKeysFromSecret N ns.ck).mapError
    (·.wrapf "failed to derive session keys from handshake")
  return ⟨payload, initiatorStaticPub, keys,
    some ⟨ns.h, ns.ck, [], initiatorEphPub, initiatorStaticPub⟩, false⟩

/-- `readNoiseIKMessage1` up to the static key: the ephemeral key, the static key or zeros, and the
state after it. -/
def openStatic (ourStaticPriv ourStaticPub : Key) (message : Bytes) :
    Except Oops (Key × Bytes × SymmetricState) := do
  let ns := initNoiseIK N ourStaticPub
  let (initiatorEphPub, ns) ← readEphemeralKey N (message.take 32) ns
  let sharedES ← (N.sharedKey ourStaticPriv.val initiatorEphPub.val).mapError
    (·.wrapf "failed to compute DH(s, re)")
  let ns := ns.mixKey N.suite sharedES
  let encryptedStatic := (message.drop 32).take noiseEncryptedStaticSize
  let (initiatorStaticBytes, ns) ← (ns.decryptAndHash N.suite encryptedStatic).mapError
    (·.wrapf "failed to decrypt initiator static key / flags section")
  return (initiatorEphPub, initiatorStaticBytes, ns)

/-- The payload section of a New Session message. -/
def encryptedPayloadOf (message : Bytes) : Bytes := message.drop (32 + noiseEncryptedStaticSize)

def readNoiseIKMessage1 (ourStaticPriv ourStaticPub : Key) (message : Bytes) :
    Except Oops Message1 := do
  if message.length < noiseIKMinMessageSize then
    .error (.errorf (s!"new session message too short: {message.length} bytes " ++
      s!"(minimum {noiseIKMinMessageSize})"))
  else
    let (initiatorEphPub, initiatorStaticBytes, ns) ← openStatic N ourStaticPriv ourStaticPub
      message
    if isAllZeros initiatorStaticBytes then readUnboundPayload N ns (encryptedPayloadOf message)
    else
      readBoundPayload N ns ourStaticPriv initiatorEphPub initiatorStaticBytes
        (encryptedPayloadOf message)

/-! ## New Session Reply -/

variable {δ σ τ : Type} (P : Primitives δ σ τ)

def deriveNSRTagRatchet (chainKey : Bytes) : Except Oops τ := do
  let tagsetKey ← (N.standardHKDF chainKey [] hkdfInfoSessionReplyTags 32).mapError
    (·.wrapf "failed to derive NSR tagset key")
  let keydata ← (N.standardHKDF chainKey tagsetKey hkdfInfoDHRatchetStep 64).mapError
    (·.wrapf "failed to derive NSR DH ratchet step")
  let ck : Key := .copyFrom 32 (keydata.drop 32)
  let keydata2 ← (N.standardHKDF ck.val [] hkdfInfoTagAndKeyGenKeys 64).mapError
    (·.wrapf "failed to derive NSR tag and key gen keys")
  return P.newTagRatchet (.copyFrom 32 (keydata2.take 32))

/-- `deriveNSRPayloadCipher`: the AEAD and the two directional keys. -/
def deriveNSRPayloadCipher (ns : SymmetricState) : Except Oops (AEAD × Key × Key) := do
  let (kAB, kBA) := N.suite.hkdf ns.ck []
  let payloadKeyBytes ← (N.standardHKDF kBA.val [] hkdfInfoAttachPayloadKDF 32).mapError
    (·.wrapf "failed to derive NSR payload key")
  let aead ← (P.newAEAD (.copyFrom 32 payloadKeyBytes)).mapError
    (·.wrapf "failed to create AEAD for NSR payload")
  return (aead, kAB, kBA)

def encryptNSRPayload (ns : SymmetricState) (payload : Bytes) :
    Except Oops (Bytes × NSRSessionKeys) := do
  let (aead, kAB, kBA) ← deriveNSRPayloadCipher N P ns
  let (ct, tag) ← (aead.encrypt payload ns.h (buildNonce 0)).mapError
    (·.wrapf "failed to encrypt NSR payload")
  return (ct ++ tag.val, ⟨kAB, kBA⟩)

def decryptNSRPayload (ns : SymmetricState) (encrypted : Bytes) :
    Except Oops (Bytes × NSRSessionKeys) := do
  if encrypted.length < 16 then
    .error (.errorf s!"NSR payload too short for auth tag: {encrypted.length} bytes")
  else
    let (aead, kAB, kBA) ← deriveNSRPayloadCipher N P ns
    let ct := encrypted.take (encrypted.length - 16)
    let tag : FixedBytes 16 := .copyFrom 16 (encrypted.drop (encrypted.length - 16))
    let plaintext ← (aead.decrypt ct tag.val ns.h (buildNonce 0)).mapError
      (·.wrapf "NSR payload decryption failed (authentication error)")
    return (plaintext, ⟨kAB, kBA⟩)

/-- The first tag of the reply tags, for the chaining key after New Session. -/
def nsrTagOf (chainKey : Bytes) (ratchetError tagError : String) : Except Oops Tag := do
  let nsrTagRatchet ← (deriveNSRTagRatchet N P chainKey).mapError (·.wrapf ratchetError)
  (P.generateNextTag nsrTagRatchet).1.mapError (·.wrapf tagError)

/-- `writeNoiseIKMessage2`, with what `elligator2.GenerateKeyPair` returns: the tag, the message and
the directional keys. -/
def writeNoiseIKMessage2 (eph : Except Oops (Key × Bytes)) (hs : NoiseHandshakeState)
    (payload : Bytes) : Except Oops (Tag × Bytes × NSRSessionKeys) := do
  let tag ← nsrTagOf N P hs.ck "failed to derive NSR tag ratchet" "failed to generate NSR tag"
  let ns : SymmetricState := ⟨none, 0, hs.ck, hs.h⟩
  let ns := ns.mixHash N.suite tag.val
  let (ephPub, ephPriv) ← eph.mapError (·.wrapf "failed to generate NSR ephemeral key pair")
  let ephEncoded ←
    (N.encode ephPub).mapError (·.wrapf "failed to Elligator2-encode NSR ephemeral key")
  let ns := ns.mixHash N.suite ephEncoded.val
  let sharedEE ← (N.sharedKey ephPriv hs.remoteEphPub.val).mapError
    (·.wrapf "failed to compute NSR DH(e, re)")
  let ns := mixKeyCKOnly N sharedEE ns
  let sharedSE ← (N.sharedKey ephPriv hs.remoteStaticPub.val).mapError
    (·.wrapf "failed to compute NSR DH(e, rs)")
  let ns := ns.mixKey N.suite sharedSE
  let (keySectionMAC, ns) ←
    (ns.encryptAndHash N.suite []).mapError (·.wrapf "failed to encrypt NSR key section")
  let (encryptedPayload, nsrKeys) ← encryptNSRPayload N P ns payload
  return (tag, tag.val ++ ephEncoded.val ++ keySectionMAC ++ encryptedPayload, nsrKeys)

def readNoiseIKMessage2 (hs : NoiseHandshakeState) (ourStaticPriv : Key) (message : Bytes) :
    Except Oops (Bytes × NSRSessionKeys) := do
  if message.length < nsrMinMessageSize then
    .error (.errorf (s!"NSR message too short: {message.length} bytes " ++
      s!"(minimum {nsrMinMessageSize})"))
  else
    let nsrTag : Tag := .copyFrom 8 (message.take 8)
    let ns : SymmetricState := ⟨none, 0, hs.ck, hs.h⟩
    let ns := ns.mixHash N.suite nsrTag.val
    let ephEncoded := (message.drop 8).take 32
    let ns := ns.mixHash N.suite ephEncoded
    let ephPub ←
      (N.decode ephEncoded).mapError (·.wrapf "failed to decode NSR Elligator2 ephemeral key")
    let sharedEE ← (N.sharedKey hs.localEphPriv ephPub.val).mapError
      (·.wrapf "failed to compute NSR DH(e, re)")
    let ns := mixKeyCKOnly N sharedEE ns
    let sharedSE ← (N.sharedKey ourStaticPriv.val ephPub.val).mapError
      (·.wrapf "failed to compute NSR DH(s, re)")
    let ns := ns.mixKey N.suite sharedSE
    let (_, ns) ← (ns.decryptAndHash N.suite ((message.drop 40).take 16)).mapError
      (·.wrapf "NSR key section authentication failed")
    decryptNSRPayload N P ns (message.drop 56)

end

/-! ## The reader follows the writer -/

section
variable {N : NoiseLibrary} (hN : N.Lawful)

theorem message1_parts (ephEncoded : Key) {encryptedStatic encryptedPayload : Bytes}
    (hstatic : encryptedStatic.length = noiseEncryptedStaticSize)
    (hpayload : tagSize ≤ encryptedPayload.length) :
    let msg := ephEncoded.val ++ encryptedStatic ++ encryptedPayload
    ¬msg.length < noiseIKMinMessageSize ∧ msg.take 32 = ephEncoded.val ∧
      (msg.drop 32).take noiseEncryptedStaticSize = encryptedStatic ∧
      encryptedPayloadOf msg = encryptedPayload := by
  intro msg
  have heph := ephEncoded.property
  have hdrop : msg.drop 32 = encryptedStatic ++ encryptedPayload := by grind
  refine ⟨?_, ?_, ?_, ?_⟩
  · unfold msg noiseIKMinMessageSize
    unfold noiseEncryptedStaticSize at hstatic
    unfold tagSize at hpayload
    rw [List.length_append, List.length_append]
    omega
  · unfold msg
    rw [List.append_assoc, List.take_left' heph]
  · rw [hdrop, List.take_left' hstatic]
  · rw [encryptedPayloadOf, ← List.drop_drop, hdrop, List.drop_left' hstatic]

variable {ephPriv : Bytes} {aPriv bPriv : Key} {payload msg : Bytes} {keys : SessionKeys}
include hN

/-- The tokens e and es, and the section after them: the responder follows the initiator. -/
theorem openStatic_of_seal {ephEncoded : Key} {sharedES : Bytes} {section₁ section₂ : Bytes}
    {encrypted₁ encrypted₂ : Bytes} {ns₁ ns₂ ns' : SymmetricState}
    (hencode : N.encode (N.publicKey ephPriv) = .ok ephEncoded)
    (hES : N.sharedKey ephPriv (N.publicKey bPriv.val).val = .ok sharedES)
    (hseal₁ : (((initNoiseIK N (N.publicKey bPriv.val)).mixHash N.suite ephEncoded.val).mixKey
      N.suite sharedES).encryptAndHash N.suite section₁ = .ok (encrypted₁, ns₁))
    (hlen : section₁.length = 32) (hkey : ns'.k.isSome)
    (hseal₂ : ns'.encryptAndHash N.suite section₂ = .ok (encrypted₂, ns₂)) :
    let msg := ephEncoded.val ++ encrypted₁ ++ encrypted₂
    ¬msg.length < noiseIKMinMessageSize ∧ encryptedPayloadOf msg = encrypted₂ ∧
      openStatic N bPriv (N.publicKey bPriv.val) msg =
        .ok (N.publicKey ephPriv, section₁, ns₁) := by
  intro msg
  have hlen₁ : encrypted₁.length = noiseEncryptedStaticSize := by
    rw [length_of_encryptAndHash hN.suite rfl hseal₁, hlen]
    rfl
  have hlen₂ : tagSize ≤ encrypted₂.length := by
    rw [length_of_encryptAndHash hN.suite hkey hseal₂]
    omega
  obtain ⟨hlong, htake, hmiddle, hrest⟩ := message1_parts ephEncoded hlen₁ hlen₂
  rw [hN.sharedKey_comm] at hES
  refine ⟨hlong, hrest, ?_⟩
  rw [openStatic, htake, hmiddle]
  simp only [readEphemeralKey, bind_eq_ok, mapError_eq_ok, pure_eq_ok]
  exact ⟨_, ⟨_, hN.decode_encode hencode, rfl⟩, sharedES, hES, _,
    decryptAndHash_of_encryptAndHash hN.suite hseal₁, rfl⟩

/-- A bound New Session message is read by its responder: the payload, the static key of the
initiator, and the chaining key and hash of the initiator. -/
theorem readNoiseIKMessage1_of_write {hs : NoiseHandshakeState}
    (hbound : ¬isAllZeros (N.publicKey aPriv.val).val)
    (h : writeNoiseIKMessage1 N (.ok (N.publicKey ephPriv, ephPriv)) aPriv (N.publicKey aPriv.val)
      (N.publicKey bPriv.val) payload = .ok (msg, keys, hs)) :
    hs.localEphPriv = ephPriv ∧
      readNoiseIKMessage1 N bPriv (N.publicKey bPriv.val) msg =
        .ok ⟨payload, N.publicKey aPriv.val, keys,
          some ⟨hs.h, hs.ck, [], N.publicKey ephPriv, N.publicKey aPriv.val⟩, false⟩ := by
  simp only [writeNoiseIKMessage1, bind_eq_ok, mapError_eq_ok,
    pure_eq_ok, Prod.mk.injEq] at h
  obtain ⟨_, ⟨⟩, ephEncoded, hencode, sharedES, hES, ⟨encryptedStatic, ns₁⟩, hsealStatic, sharedSS,
    hSS, ⟨encryptedPayload, ns₂⟩, hsealPayload, keys', hkeys, rfl, rfl, rfl⟩ := h
  obtain ⟨hlong, hrest, hopen⟩ := openStatic_of_seal hN hencode hES hsealStatic
    (N.publicKey aPriv.val).property (isSome_k_mixKey sharedSS) hsealPayload
  rw [hN.sharedKey_comm] at hSS
  refine ⟨rfl, ?_⟩
  rw [readNoiseIKMessage1, if_neg hlong, hrest]
  simp only [bind_eq_ok]
  refine ⟨_, hopen, ?_⟩
  rw [if_neg hbound]
  simp only [readBoundPayload, copyFrom_self, bind_eq_ok,
    mapError_eq_ok, pure_eq_ok]
  exact ⟨sharedSS, hSS, _, decryptAndHash_of_encryptAndHash hN.suite hsealPayload,
    keys', hkeys, rfl⟩

/-- An unbound New Session message is read as one: the payload, no static key, and the state of
the initiator. -/
theorem readNoiseIKMessage1_of_writeUnbound
    (h : writeNoiseIKMessage1Unbound N (.ok (N.publicKey ephPriv, ephPriv))
      (N.publicKey bPriv.val) payload = .ok (msg, keys)) :
    (∃ ns ns₁ : SymmetricState,
      sealUnbound N (.ok (N.publicKey ephPriv, ephPriv)) (N.publicKey bPriv.val) payload =
        .ok (msg, ns) ∧
      openStatic N bPriv (N.publicKey bPriv.val) msg =
        .ok (N.publicKey ephPriv, List.replicate 32 0, ns₁) ∧
      openUnbound N (encryptedPayloadOf msg) ns₁ = .ok (payload, ns)) ∧
      readNoiseIKMessage1 N bPriv (N.publicKey bPriv.val) msg =
        .ok ⟨payload, .copyFrom 32 [], keys, none, true⟩ := by
  simp only [writeNoiseIKMessage1Unbound, bind_eq_ok, mapError_eq_ok,
    pure_eq_ok, Prod.mk.injEq] at h
  obtain ⟨⟨_, ns⟩, hseal, keys', hkeys, rfl, rfl⟩ := h
  have hsealed := hseal
  simp only [sealUnbound, bind_eq_ok, mapError_eq_ok,
    pure_eq_ok, Prod.mk.injEq] at hseal
  obtain ⟨_, ⟨⟩, ephEncoded, hencode, sharedES, hES, ⟨encryptedFlags, ns₁⟩, hsealFlags,
    ⟨encryptedPayload, ns₂⟩, hsealPayload, rfl, rfl⟩ := hseal
  have hkey : ns₁.k.isSome := by
    rw [k_of_encryptAndHash hsealFlags]
    exact isSome_k_mixKey sharedES
  obtain ⟨hlong, hrest, hopen⟩ := openStatic_of_seal hN hencode hES hsealFlags
    List.length_replicate hkey hsealPayload
  have hpayload : openUnbound N encryptedPayload ns₁ = .ok (payload, ns₂) :=
    mapError_eq_ok.mpr
      (decryptAndHash_of_encryptAndHash hN.suite hsealPayload)
  refine ⟨⟨ns₂, ns₁, hsealed, hopen, by rw [hrest]; exact hpayload⟩, ?_⟩
  have hzeros : isAllZeros (List.replicate 32 0) := by decide
  rw [readNoiseIKMessage1, if_neg hlong, hrest]
  simp only [bind_eq_ok]
  refine ⟨_, hopen, ?_⟩
  rw [if_pos hzeros]
  simp only [readUnboundPayload, bind_eq_ok, mapError_eq_ok,
    pure_eq_ok]
  exact ⟨_, hpayload, keys', hkeys, rfl⟩

end

/-- The AEAD of the ratchets opens what it sealed. -/
def Primitives.OpensSealed {δ σ τ : Type} (P : Primitives δ σ τ) : Prop :=
  ∀ {key aead plaintext ad nonce ciphertext} {tag : FixedBytes 16}, P.newAEAD key = .ok aead →
    aead.encrypt plaintext ad nonce = .ok (ciphertext, tag) →
      aead.decrypt ciphertext tag.val ad nonce = .ok plaintext

section
variable {δ σ τ : Type} {P : Primitives δ σ τ} {N : NoiseLibrary} {nsrKeys : NSRSessionKeys}

theorem decryptNSRPayload_of_encrypt (hP : P.OpensSealed) {ns : SymmetricState}
    {payload encrypted : Bytes} (h : encryptNSRPayload N P ns payload = .ok (encrypted, nsrKeys)) :
    16 ≤ encrypted.length ∧ decryptNSRPayload N P ns encrypted = .ok (payload, nsrKeys) := by
  simp only [encryptNSRPayload, bind_eq_ok, mapError_eq_ok,
    pure_eq_ok, Prod.mk.injEq] at h
  obtain ⟨⟨aead, kAB, kBA⟩, hcipher, ⟨ct, tag⟩, hseal, rfl, rfl⟩ := h
  have haead : ∃ key, P.newAEAD key = .ok aead := by
    have hparts := hcipher
    simp only [deriveNSRPayloadCipher, bind_eq_ok, mapError_eq_ok,
      pure_eq_ok, Prod.mk.injEq] at hparts
    obtain ⟨_, _, _, hnew, rfl, -, -⟩ := hparts
    exact ⟨_, hnew⟩
  obtain ⟨key, hnew⟩ := haead
  have hlen : (ct ++ tag.val).length = ct.length + 16 := by
    rw [List.length_append, tag.property]
  have hsize : (ct ++ tag.val).length - 16 = ct.length := by omega
  have hlong : ¬(ct ++ tag.val).length < 16 := by omega
  refine ⟨Nat.not_lt.mp hlong, ?_⟩
  rw [decryptNSRPayload, if_neg hlong, hsize, List.take_left' rfl, List.drop_left' rfl,
    copyFrom_self]
  simp only [bind_eq_ok, mapError_eq_ok, pure_eq_ok]
  exact ⟨_, hcipher, payload, hP hnew hseal, rfl⟩

theorem message2_parts (tag : Tag) (ephEncoded : Key) {keySectionMAC encryptedPayload : Bytes}
    (hmac : keySectionMAC.length = 16) (hpayload : 16 ≤ encryptedPayload.length) :
    let msg := tag.val ++ ephEncoded.val ++ keySectionMAC ++ encryptedPayload
    ¬msg.length < nsrMinMessageSize ∧ msg.take 8 = tag.val ∧
      (msg.drop 8).take 32 = ephEncoded.val ∧ (msg.drop 40).take 16 = keySectionMAC ∧
      msg.drop 56 = encryptedPayload := by
  intro msg
  have htag := tag.property
  have heph := ephEncoded.property
  have hmsg : msg = tag.val ++ (ephEncoded.val ++ (keySectionMAC ++ encryptedPayload)) := by grind
  have hdrop₈ : msg.drop 8 = ephEncoded.val ++ (keySectionMAC ++ encryptedPayload) := by
    rw [hmsg, List.drop_left' htag]
  have hdrop₄₀ : msg.drop 40 = keySectionMAC ++ encryptedPayload := by
    rw [show 40 = 8 + 32 from rfl, ← List.drop_drop, hdrop₈, List.drop_left' heph]
  refine ⟨?_, ?_, ?_, ?_, ?_⟩
  · unfold msg nsrMinMessageSize
    simp only [List.length_append]
    omega
  · rw [hmsg, List.take_left' htag]
  · rw [hdrop₈, List.take_left' heph]
  · rw [hdrop₄₀, List.take_left' hmac]
  · rw [show 56 = 40 + 16 from rfl, ← List.drop_drop, hdrop₄₀, List.drop_left' hmac]

/-- A New Session Reply is read by the initiator: the payload, and the keys of the responder.
Its tag is the one that the initiator derives. -/
theorem readNoiseIKMessage2_of_write (hN : N.Lawful) (hP : P.OpensSealed) {h ck aEph bEph : Bytes}
    {aPriv : Key} {payload msg : Bytes} {tag : Tag} {hs : NoiseHandshakeState}
    (hsame : hs.h = h ∧ hs.ck = ck ∧ hs.localEphPriv = aEph)
    (hwrite : writeNoiseIKMessage2 N P (.ok (N.publicKey bEph, bEph))
      ⟨h, ck, [], N.publicKey aEph, N.publicKey aPriv.val⟩ payload = .ok (tag, msg, nsrKeys)) :
    copyFrom 8 (msg.take 8) = tag ∧
      nsrTagOf N P hs.ck "failed to derive NSR tag ratchet" "failed to generate NSR tag" = .ok tag ∧
      readNoiseIKMessage2 N P hs aPriv msg = .ok (payload, nsrKeys) := by
  obtain ⟨rfl, rfl, rfl⟩ := hsame
  simp only [writeNoiseIKMessage2, bind_eq_ok, mapError_eq_ok,
    pure_eq_ok, Prod.mk.injEq] at hwrite
  obtain ⟨_, htag, _, ⟨⟩, ephEncoded, hencode, sharedEE, hEE, sharedSE, hSE, ⟨keySectionMAC, ns⟩,
    hmac, ⟨encryptedPayload, _⟩, hpayload, rfl, rfl, rfl⟩ := hwrite
  have hmacLen : keySectionMAC.length = 16 :=
    length_of_encryptAndHash hN.suite (isSome_k_mixKey sharedSE) hmac
  obtain ⟨hpayloadLen, hread⟩ := decryptNSRPayload_of_encrypt hP hpayload
  obtain ⟨hlong, htake, heph, hsection, hrest⟩ := message2_parts _ ephEncoded hmacLen hpayloadLen
  rw [hN.sharedKey_comm] at hEE hSE
  refine ⟨by rw [htake, copyFrom_self], htag, ?_⟩
  rw [readNoiseIKMessage2, if_neg hlong, htake, heph, hsection, hrest, copyFrom_self]
  simp only [bind_eq_ok, mapError_eq_ok]
  exact ⟨_, hN.decode_encode hencode, sharedEE, hEE, sharedSE, hSE, _,
    decryptAndHash_of_encryptAndHash hN.suite hmac, hread⟩

end

/-! ## A library to run -/

/-- A library on numbers: a public key is its private key, shared secrets are products, and the AEAD
adds up what it is given. -/
def countingNoise : NoiseLibrary where
  suite := {
    hash := fun b => .ofNat 32 (beNat b)
    hkdf := fun ck ikm => (.ofNat 32 (beNat ck + beNat ikm),
      .ofNat 32 (beNat ck + beNat ikm + 1))
    encrypt := fun k n ad plaintext => .ok (plaintext ++ beBytes 16
      (beNat k.val + n + beNat ad + beNat plaintext))
    decrypt := fun k n ad ciphertext =>
      let plaintext := ciphertext.take (ciphertext.length - 16)
      if ciphertext.drop (ciphertext.length - 16) = beBytes 16
        (beNat k.val + n + beNat ad + beNat plaintext) then
        .ok plaintext
      else .error (.errorf "message authentication failed") }
  hkdf1 ck ikm := .ofNat 32 (beNat ck + beNat ikm)
  publicKey priv := .copyFrom 32 priv
  sharedKey priv pub := .ok (beBytes 32
    (beNat (copyFrom 32 priv).val *
      beNat (copyFrom 32 pub).val))
  encode pub := .ok pub
  decode b := .ok (.copyFrom 32 b)
  standardHKDF ikm _ _ length := .ok (beBytes length (beNat ikm))
  deriveSessionKeys key :=
    .ok ⟨.ofNat 32 (beNat key.val), .ofNat 32 (beNat key.val + 1)⟩

theorem lawful_countingNoise : countingNoise.Lawful where
  suite := {
    length_encrypt := by
      rintro k n ad plaintext ciphertext ⟨⟩
      rw [List.length_append, length_beBytes]
      rfl
    decrypt_encrypt := by
      rintro k n ad plaintext ciphertext ⟨⟩
      simp [countingNoise] }
  sharedKey_comm a b := by
    simp only [countingNoise, copyFrom_self, Nat.mul_comm]
  decode_encode := by simp [countingNoise, copyFrom_self]

end GoNoise.Ratchet
