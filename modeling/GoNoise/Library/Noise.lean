import GoNoise.Library.Bytes

/-!
# The Noise protocol framework: symmetric states

The two sides of a Noise handshake mix the same values into a chaining key and a hash, and encrypt
with the key that the chaining key gives. The hash function, the key derivation and the AEAD are a
parameter.
-/

namespace GoNoise.Noise

def tagSize : ℕ := 16

/-- Hash function, key derivation and AEAD. -/
structure Suite (ε : Type) where
  hash : Bytes → FixedBytes 32
  /-- two outputs -/
  hkdf : (chainingKey inputKeyMaterial : Bytes) → FixedBytes 32 × FixedBytes 32
  encrypt : (k : FixedBytes 32) → (n : ℕ) → (ad plaintext : Bytes) → Except ε Bytes
  decrypt : (k : FixedBytes 32) → (n : ℕ) → (ad ciphertext : Bytes) → Except ε Bytes

variable {ε : Type}

/-- The AEAD adds a tag and opens what it sealed. -/
structure Suite.Lawful (S : Suite ε) : Prop where
  length_encrypt : ∀ {k n ad plaintext ciphertext},
    S.encrypt k n ad plaintext = .ok ciphertext → ciphertext.length = plaintext.length + tagSize
  decrypt_encrypt : ∀ {k n ad plaintext ciphertext},
    S.encrypt k n ad plaintext = .ok ciphertext → S.decrypt k n ad ciphertext = .ok plaintext

structure SymmetricState where
  /-- the cipher key, once there is one -/
  k : Option (FixedBytes 32)
  n : ℕ
  ck : Bytes
  h : Bytes
  deriving DecidableEq

namespace SymmetricState

variable (S : Suite ε)

def initializeSymmetric (protocolName : Bytes) : SymmetricState :=
  let h := if protocolName.length ≤ 32 then (FixedBytes.copyFrom 32 protocolName).val
    else (S.hash protocolName).val
  ⟨none, 0, h, h⟩

def mixHash (data : Bytes) (ns : SymmetricState) : SymmetricState :=
  { ns with h := (S.hash (ns.h ++ data)).val }

def mixKey (inputKeyMaterial : Bytes) (ns : SymmetricState) : SymmetricState :=
  let keys := S.hkdf ns.ck inputKeyMaterial
  { ns with ck := keys.1.val, k := some keys.2, n := 0 }

def encryptAndHash (plaintext : Bytes) (ns : SymmetricState) : Except ε (Bytes × SymmetricState) :=
  match ns.k with
  | none => .ok (plaintext, ns.mixHash S plaintext)
  | some k =>
    match S.encrypt k ns.n ns.h plaintext with
    | .error e => .error e
    | .ok ciphertext => .ok (ciphertext, { ns with n := ns.n + 1 }.mixHash S ciphertext)

def decryptAndHash (ciphertext : Bytes) (ns : SymmetricState) : Except ε (Bytes × SymmetricState) :=
  match ns.k with
  | none => .ok (ciphertext, ns.mixHash S ciphertext)
  | some k =>
    match S.decrypt k ns.n ns.h ciphertext with
    | .error e => .error e
    | .ok plaintext => .ok (plaintext, { ns with n := ns.n + 1 }.mixHash S ciphertext)

variable {S} {ns ns' : SymmetricState} {plaintext ciphertext : Bytes}

theorem decryptAndHash_of_encryptAndHash (hS : S.Lawful)
    (h : ns.encryptAndHash S plaintext = .ok (ciphertext, ns')) :
    ns.decryptAndHash S ciphertext = .ok (plaintext, ns') := by
  unfold encryptAndHash at h
  unfold decryptAndHash
  split at h
  · cases h
    rfl
  · split at h
    · cases h
    next hsealed =>
      cases h
      rw [hS.decrypt_encrypt hsealed]

theorem length_of_encryptAndHash (hS : S.Lawful) (hkey : ns.k.isSome)
    (h : ns.encryptAndHash S plaintext = .ok (ciphertext, ns')) :
    ciphertext.length = plaintext.length + tagSize := by
  unfold encryptAndHash at h
  split at h
  next hnone =>
    rw [hnone] at hkey
    cases hkey
  · split at h
    · cases h
    next hsealed =>
      cases h
      exact hS.length_encrypt hsealed

theorem isSome_k_mixKey (inputKeyMaterial : Bytes) : (ns.mixKey S inputKeyMaterial).k.isSome := rfl

theorem k_of_encryptAndHash (h : ns.encryptAndHash S plaintext = .ok (ciphertext, ns')) :
    ns'.k = ns.k := by
  unfold encryptAndHash at h
  split at h
  · cases h
    rfl
  · split at h
    · cases h
    · cases h
      rfl

end SymmetricState
end GoNoise.Noise
