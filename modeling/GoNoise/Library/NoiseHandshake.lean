import GoNoise.Library.Noise

/-!
# The Noise protocol framework: cipher states and handshake states

After the handshake each direction has a cipher state: a key and a counter. During the handshake
each side has a handshake state, which it hands to the package to write or to read the next message.
What the package makes of it is a parameter of what uses it.
-/

namespace GoNoise.Noise

variable {ε : Type}

/-! ## Cipher states -/

structure CipherState where
  k : FixedBytes 32
  n : ℕ
  deriving DecidableEq

namespace CipherState

variable (S : Suite ε)

/-- `EncryptWithAd`, with no associated data. The counter goes on if nothing failed. -/
def encrypt (plaintext : Bytes) (cs : CipherState) : Except ε Bytes × CipherState :=
  match S.encrypt cs.k cs.n [] plaintext with
  | .error e => (.error e, cs)
  | .ok ciphertext => (.ok ciphertext, { cs with n := cs.n + 1 })

/-- `DecryptWithAd`, with no associated data. -/
def decrypt (ciphertext : Bytes) (cs : CipherState) : Except ε Bytes × CipherState :=
  match S.decrypt cs.k cs.n [] ciphertext with
  | .error e => (.error e, cs)
  | .ok plaintext => (.ok plaintext, { cs with n := cs.n + 1 })

theorem decrypt_of_encrypt {S : Suite ε} (hS : S.Lawful) {cs : CipherState}
    {plaintext ciphertext : Bytes} (h : S.encrypt cs.k cs.n [] plaintext = .ok ciphertext) :
    cs.decrypt S ciphertext = (.ok plaintext, { cs with n := cs.n + 1 }) := by
  rw [decrypt, hS.decrypt_encrypt h]

end CipherState

/-! ## Handshake states -/

/-- `DHKey`. Both parts are empty if there is no key. -/
structure DHKey where
  privateKey : Bytes
  publicKey : Bytes
  deriving DecidableEq

/-- `HandshakeState`: the static key pair that its creator gave it, and the rest in an encoding that
only the package reads. -/
structure HandshakeState where
  s : DHKey
  contents : Bytes
  deriving DecidableEq

end GoNoise.Noise
