import GoNoise.Handshake.Modifiers
import GoNoise.Library.ByteStream
import GoNoise.Library.Fallible
import GoNoise.Library.NoiseHandshake

/-!
# `conn/conn.go`, `conn/io.go`: the core connection

A core connection wraps a byte stream. After the handshake it encrypts what is written and decrypts
what is read, with a cipher state for each direction, and runs the data through its modifiers.
-/

namespace GoNoise.Conn

open BigEndian ByteStream Handshake Noise

/-! ## The byte stream -/

/-- The underlying connection. `consumed` and `sent` are the history of it. -/
structure Transport where
  /-- what the reads will meet -/
  arrivals : List (Arrival Oops)
  /-- what was read so far -/
  consumed : Bytes
  /-- what was written so far -/
  sent : Bytes
  deriving DecidableEq

namespace Transport

/-- `io.ReadFull`. An error comes with the bytes that were read before it. -/
def readFull (k : ℕ) : Call Transport (Bytes × Oops) Bytes := fun t =>
  match ByteStream.readFull k t.arrivals with
  | (l, .ok (), rest) => (.ok l, { t with arrivals := rest, consumed := t.consumed ++ l })
  | (l, .error e, rest) => (.error (l, e), { t with arrivals := rest, consumed := t.consumed ++ l })
  | (l, .waiting, rest) => (.waiting, { t with arrivals := rest, consumed := t.consumed ++ l })

/-- `Read` with a buffer of `k` bytes, for a caller that does not look at the result. -/
def discard (k : ℕ) (t : Transport) : Transport :=
  match ByteStream.read k t.arrivals with
  | (.ok l, rest) => { t with arrivals := rest, consumed := t.consumed ++ l }
  | (_, rest) => { t with arrivals := rest }

/-- `Write`. `outcome` is the number of bytes that are accepted and the error; `none` if all of
them are. -/
def write (outcome : Option (ℕ × Option Oops)) (data : Bytes) (t : Transport) :
    (ℕ × Option Oops) × Transport :=
  match outcome with
  | none => ((data.length, none), { t with sent := t.sent ++ data })
  | some (n, err) =>
    ((min n data.length, err), { t with sent := t.sent ++ data.take (min n data.length) })

/-- What `io.ReadFull` does to the connection. -/
inductive ReadsFull (k : ℕ) (t : Transport) : Outcome (Bytes × Oops) Bytes × Transport → Prop
  | full (l : Bytes) (t' : Transport) (length : l.length = k)
      (split : items t.arrivals = l.map .ok ++ items t'.arrivals)
      (consumed : t'.consumed = t.consumed ++ l) (sent : t'.sent = t.sent) :
      ReadsFull k t (.ok l, t')
  | failed (l : Bytes) (e : Oops) (t' : Transport) (length : l.length < k)
      (split : items t.arrivals = l.map .ok ++ .error e :: items t'.arrivals)
      (consumed : t'.consumed = t.consumed ++ l) (sent : t'.sent = t.sent) :
      ReadsFull k t (.error (l, e), t')
  | waits (l : Bytes) (t' : Transport) (length : l.length < k)
      (split : items t.arrivals = l.map .ok) : ReadsFull k t (.waiting, t')

theorem readsFull (k : ℕ) (t : Transport) : ReadsFull k t (t.readFull k) := by
  have hreads := reads k t.arrivals
  unfold readFull
  generalize ByteStream.readFull k t.arrivals = result at hreads
  cases hreads with
  | full l rest length split => exact .full l _ length split rfl rfl
  | failed l e rest length split => exact .failed l e _ length split rfl rfl
  | waits l rest length split => exact .waits l _ length split

end Transport

/-! ## The connection -/

inductive ConnState
  | init
  | handshaking
  | established
  | closing
  | closed
  deriving DecidableEq

/-- `ConnConfig`, without the modifiers, which have a state. -/
structure ConnConfig where
  pattern : String
  initiator : Bool
  staticKey : Bytes
  remoteKey : Bytes
  handshakeTimeout : Duration
  readTimeout : Duration
  writeTimeout : Duration
  handshakeRetries : ℤ
  retryBackoff : Duration
  protocolName : Bytes
  additionalSymmetricKeyLabels : List Bytes
  deriving DecidableEq

/-- `Conn` of `conn`. `μ` is the type of its modifiers. -/
structure NoiseConn (μ : Type) where
  underlying : Transport
  config : ConnConfig
  /-- the modifiers of the configuration, with their states -/
  modifiers : List μ
  privateStaticKey : Bytes
  sendCipherState : Option CipherState
  recvCipherState : Option CipherState
  handshakeState : HandshakeState
  state : ConnState
  pendingPlaintext : Bytes
  /-- what the cipher has encrypted so far, with the ciphertexts -/
  encryptions : List (Bytes × Bytes)

def maxNoiseMessageSize : ℕ := 65535

namespace NoiseConn

variable {μ : Type}

/-- `validateWriteState`: the cipher state, if there is one to be used. -/
def validateWriteState (nc : NoiseConn μ) : Except Oops CipherState :=
  if nc.state = .closed then .error ⟨"CONN_CLOSED", "noise", [], "connection is closed"⟩
  else if nc.state ≠ .established then
    .error ⟨"HANDSHAKE_NOT_DONE", "noise", [], "handshake not completed"⟩
  else
    match nc.sendCipherState with
    | none => .error ⟨"NO_CIPHER_STATE", "noise", [], "send cipher state not initialized"⟩
    | some cs => .ok cs

/-- `validateReadState`: the cipher state, if there is one to be used. -/
def validateReadState (nc : NoiseConn μ) : Except Oops CipherState :=
  if nc.state = .closed then .error ⟨"CONN_CLOSED", "noise", [], "connection is closed"⟩
  else if nc.state ≠ .established then
    .error ⟨"HANDSHAKE_NOT_DONE", "noise", [], "handshake not completed"⟩
  else
    match nc.recvCipherState with
    | none => .error ⟨"NO_CIPHER_STATE", "noise", [], "receive cipher state not initialized"⟩
    | some cs => .ok cs

section
variable (S : Suite Oops)

def encryptData (cs : CipherState) (data : Bytes) (nc : NoiseConn μ) :
    Except Oops Bytes × NoiseConn μ :=
  match cs.encrypt S data with
  | (.error e, _) => (.error ((e.wrapf "failed to encrypt data").wrap "ENCRYPT_FAILED" "noise"
      [("plaintext_len", data.length)]), nc)
  | (.ok encrypted, cs) => (.ok encrypted,
      { nc with sendCipherState := some cs, encryptions := nc.encryptions ++ [(data, encrypted)] })

def encrypt (data : Bytes) (nc : NoiseConn μ) : Except Oops Bytes × NoiseConn μ :=
  match nc.validateWriteState with
  | .error e => (.error e, nc)
  | .ok cs => nc.encryptData S cs data

def decryptData (cs : CipherState) (encrypted : Bytes) (nc : NoiseConn μ) :
    Except Oops Bytes × NoiseConn μ :=
  match cs.decrypt S encrypted with
  | (.error e, _) => (.error ((e.wrapf "failed to decrypt received data").wrap "DECRYPT_FAILED"
      "noise" [("encrypted_len", encrypted.length)]), nc)
  | (.ok plaintext, cs) => (.ok plaintext, { nc with recvCipherState := some cs })

def decrypt (encrypted : Bytes) (nc : NoiseConn μ) : Except Oops Bytes × NoiseConn μ :=
  match nc.validateReadState with
  | .error e => (.error e, nc)
  | .ok cs => nc.decryptData S cs encrypted

end

section
variable (M : HandshakeModifier μ)

/-- The modifier chain of the configuration, on data that is sent. -/
def applyOutbound (phase : HandshakePhase) (data : Bytes) (nc : NoiseConn μ) :
    Except Oops Bytes × NoiseConn μ :=
  let (result, modifiers) := ModifierChain.modifyOutbound M phase data nc.modifiers
  (result, { nc with modifiers := modifiers })

/-- The modifier chain of the configuration, on data that was received. -/
def applyInbound (phase : HandshakePhase) (data : Bytes) (nc : NoiseConn μ) :
    Except Oops Bytes × NoiseConn μ :=
  let (result, modifiers) := ModifierChain.modifyInbound M phase data nc.modifiers
  (result, { nc with modifiers := modifiers })

end

/-- `io.ReadFull` on the underlying connection, with the error that the caller makes of it. -/
def readFull (k : ℕ) (wrap : Bytes → Oops → Oops) : Call (NoiseConn μ) Oops Bytes := fun nc =>
  match Transport.readFull k nc.underlying with
  | (.ok l, t) => (.ok l, { nc with underlying := t })
  | (.error (l, e), t) => (.error (wrap l e), { nc with underlying := t })
  | (.waiting, t) => (.waiting, { nc with underlying := t })

/-! ## Messages with a length in front -/

/-- `writeFramedMessage`. `outcomes` is what the two writes come to. -/
def writeFramedMessage (outcomes : Option (ℕ × Option Oops) × Option (ℕ × Option Oops))
    (data : Bytes) (nc : NoiseConn μ) : Except Oops Unit × NoiseConn μ :=
  if maxNoiseMessageSize < data.length then
    (.error ⟨"MESSAGE_TOO_LARGE", "noise",
      [("message_len", data.length), ("max_len", maxNoiseMessageSize)],
      "message exceeds maximum Noise message size"⟩, nc)
  else
    match nc.underlying.write outcomes.1 (putUint16 (UInt16.ofNat data.length)) with
    | ((_, some e), t) => (.error ((e.wrapf "failed to write message length prefix").wrap
        "WRITE_LENGTH_FAILED" "noise" []), { nc with underlying := t })
    | ((_, none), t) =>
      match t.write outcomes.2 data with
      | ((_, some e), t) => (.error ((e.wrapf "failed to write message payload").wrap
          "WRITE_PAYLOAD_FAILED" "noise" []), { nc with underlying := t })
      | ((_, none), t) => (.ok (), { nc with underlying := t })

def readFramedMessage : Call (NoiseConn μ) Oops Bytes := do
  let header ← readFull lengthFieldSize fun _ e =>
    (e.wrapf "failed to read message length prefix").wrap "READ_LENGTH_FAILED" "noise" []
  let msgLen := (uint16 header).toNat
  if msgLen = 0 then
    Call.fail ⟨"EMPTY_MESSAGE", "noise", [], "received zero-length message"⟩
  else
    readFull msgLen fun _ e => (e.wrapf "failed to read complete message").wrap
      "UNDERLYING_READ_FAILED" "noise" [("expected_len", msgLen)]

section
variable (S : Suite Oops) (M : HandshakeModifier μ)

/-- `Write`. `deadline` is what `SetWriteDeadline` returns, `outcomes` what the two writes of the
underlying connection come to. -/
def write (deadline : Option Oops)
    (outcomes : Option (ℕ × Option Oops) × Option (ℕ × Option Oops)) (b : Bytes)
    (nc : NoiseConn μ) : (ℕ × Option Oops) × NoiseConn μ :=
  match nc.validateWriteState, if 0 < nc.config.writeTimeout then deadline else none with
  | .error e, _ => ((0, some e), nc)
  | .ok _, some e => ((0, some ((e.wrapf "failed to set write deadline").wrap
      "SET_DEADLINE_FAILED" "noise" [("timeout", nc.config.writeTimeout)])), nc)
  | .ok cs, none =>
    match nc.applyOutbound M .data b with
    | (.error e, nc) => ((0, some e), nc)
    | (.ok toEncrypt, nc) =>
      match nc.encryptData S cs toEncrypt with
      | (.error e, nc) => ((0, some e), nc)
      | (.ok encrypted, nc) =>
        match nc.writeFramedMessage outcomes encrypted with
        | (.error e, nc) => ((0, some ((e.wrapf "underlying connection write failed").wrap
            "UNDERLYING_WRITE_FAILED" "noise" [("encrypted_len", encrypted.length)])), nc)
        | (.ok (), nc) => ((b.length, none), nc)

/-- `Read` with a buffer of `k` bytes. `deadline` is what `SetReadDeadline` returns. -/
def read (deadline : Option Oops) (k : ℕ) : Call (NoiseConn μ) Oops Bytes := do
  let nc ← Call.get
  let cs ← Call.ofExcept nc.validateReadState
  match if 0 < nc.config.readTimeout then deadline else none with
  | some e => Call.fail ((e.wrapf "failed to set read deadline").wrap "SET_DEADLINE_FAILED" "noise"
      [("timeout", nc.config.readTimeout)])
  | none =>
    if nc.pendingPlaintext ≠ [] then
      Call.modify fun nc => { nc with pendingPlaintext := nc.pendingPlaintext.drop k }
      return nc.pendingPlaintext.take k
    else
      let encrypted ← readFramedMessage
      let decrypted ← Call.ofState (decryptData S cs encrypted)
      let decrypted ← Call.ofState (applyInbound M .data decrypted)
      Call.modify fun nc => { nc with pendingPlaintext := decrypted.drop k }
      return decrypted.take k

end
end NoiseConn

/-! ## A suite for tests -/

/-- The tag of a message ends with its number. -/
def numberedSuite : Suite Oops where
  hash _ := FixedBytes.ofNat 32 0
  hkdf _ _ := (FixedBytes.ofNat 32 0, FixedBytes.ofNat 32 0)
  encrypt _ n _ plaintext := .ok (plaintext ++ (List.replicate 15 0 ++ [UInt8.ofNat n]))
  decrypt _ n _ ciphertext :=
    if ciphertext.drop (ciphertext.length - tagSize) = List.replicate 15 0 ++ [UInt8.ofNat n] then
      .ok (ciphertext.take (ciphertext.length - tagSize))
    else .error (.errorf "chacha20poly1305: message authentication failed")

theorem lawful_numberedSuite : numberedSuite.Lawful where
  length_encrypt h := by
    cases h
    rw [List.length_append]
    rfl
  decrypt_encrypt {k n ad plaintext ciphertext} h := by
    cases h
    have hlength : (plaintext ++ (List.replicate 15 0 ++ [UInt8.ofNat n])).length - tagSize =
        plaintext.length := by
      rw [List.length_append]
      rfl
    dsimp only [numberedSuite]
    rw [hlength, List.drop_left, List.take_left, if_pos rfl]

end GoNoise.Conn
