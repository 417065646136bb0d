import GoNoise.Library.Bytes
import GoNoise.Oops

/-!
# `mod/validation`

The checks that the configurations of the packages share.
-/

namespace GoNoise

def validatePattern (pattern pkg : String) : Except Oops Unit :=
  if pattern = "" then .error ⟨"INVALID_PATTERN", pkg, [], "noise pattern is required"⟩ else .ok ()

def validateKeyLength (key : Bytes) (name pkg : String) : Except Oops Unit :=
  if 0 < key.length ∧ key.length ≠ 32 then
    .error ⟨"INVALID_KEY_LENGTH", pkg, [("key_length", key.length)],
      s!"{name} must be 32 bytes for Curve25519"⟩
  else .ok ()

def validateHandshakeTimeout (timeout : Duration) (pkg : String) : Except Oops Unit :=
  if timeout ≤ 0 then
    .error ⟨"INVALID_TIMEOUT", pkg, [("timeout", timeout)], "handshake timeout must be positive"⟩
  else .ok ()

def validateRetryConfig (retries : ℤ) (backoff : Duration) (pkg : String) : Except Oops Unit :=
  if retries < -1 then
    .error ⟨"INVALID_RETRY_COUNT", pkg, [("retries", retries)],
      "handshake retries must be >= -1 (-1 = infinite, 0 = no retries)"⟩
  else if backoff < 0 then
    .error ⟨"INVALID_RETRY_BACKOFF", pkg, [("backoff", backoff)],
      "retry backoff must be non-negative"⟩
  else .ok ()

def validateTransportConfig (timeout : Duration) (retries : ℤ) (backoff : Duration) (pkg : String) :
    Except Oops Unit := do
  validateHandshakeTimeout timeout pkg
  validateRetryConfig retries backoff pkg

end GoNoise
