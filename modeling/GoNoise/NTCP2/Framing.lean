import GoNoise.Conn.Stream
import GoNoise.NTCP2.Config

/-!
# `ntcp2/conn_framing.go`, `ntcp2/conn_lifecycle.go`: frames

In the data phase an NTCP2 connection sends frames: the ciphertext, behind its length in two bytes,
which is masked with the next value of a SipHash chain. An error that leaves the chain out of step
marks the connection as broken.
-/

namespace GoNoise.NTCP2

open BigEndian ByteStream Conn Handshake Noise

def frameLengthFieldSize : ℕ := 2

structure NTCP2Conn (κ : Type) where
  noiseConn : NoiseConn (NTCP2Modifier κ)
  lengthObfuscator : Option LengthModifier
  readBuffer : Bytes
  ntcp2Config : Option (Config κ)
  broken : Bool
  underlyingClosed : Bool
  writeNonce : ℕ
  readNonce : ℕ

namespace NTCP2Conn

variable {κ : Type}

def setUnderlying (t : Transport) (nc : NTCP2Conn κ) : NTCP2Conn κ :=
  { nc with noiseConn := { nc.noiseConn with underlying := t } }

/-- The error of `Read` and `Write` on a broken connection. -/
def connectionBroken : Oops :=
  ⟨"CONNECTION_BROKEN", "ntcp2", [],
    "connection is broken due to previous framing error (SipHash state desynchronized)"⟩

/-! ## Errors on the way in -/

/-- `handleAEADError`. `junk` is what `rand.Read` gives. -/
def handleAEADError (junk : Option UInt16) (nc : NTCP2Conn κ) : NTCP2Conn κ :=
  let junkLen := match junk with
    | none => 0
    | some r => (r &&& UInt16.ofNat (aeadErrorMaxJunkBytes - 1)).toNat
  let nc := if 0 < junkLen then nc.setUnderlying (nc.noiseConn.underlying.discard junkLen) else nc
  { nc with broken := true, underlyingClosed := true }

def guardReadNonce (nc : NTCP2Conn κ) : Option Oops :=
  if maxNonce ≤ nc.readNonce then
    some ⟨"NONCE_EXHAUSTED", "ntcp2", [("read_nonce", nc.readNonce), ("max_nonce", maxNonce)],
      s!"read nonce exhausted (reached {nc.readNonce}), connection must be terminated"⟩
  else none

def guardWriteNonce (nc : NTCP2Conn κ) : Option Oops :=
  if maxNonce ≤ nc.writeNonce then
    some ⟨"NONCE_EXHAUSTED", "ntcp2", [("write_nonce", nc.writeNonce), ("max_nonce", maxNonce)],
      s!"write nonce exhausted (reached {nc.writeNonce}), connection must be terminated"⟩
  else none

/-! ## `Read` -/

section
variable (L : ModifierLibrary) (custom : HandshakeModifier κ) (S : Suite Oops)

/-- `readObfuscatedFrameLength`, with `validateFrameLength`. -/
def readObfuscatedFrameLength (junk : Option UInt16) (slm : LengthModifier) :
    Call (NTCP2Conn κ) Oops UInt16 := fun nc =>
  match nc.noiseConn.underlying.readFull frameLengthFieldSize with
  | (.waiting, t) => (.waiting, nc.setUnderlying t)
  | (.error (_, e), t) => (.error ((e.wrapf
      s!"failed to read frame length (frame #{nc.readNonce})").wrap "READ_LENGTH_FAILED" "ntcp2"
      [("read_nonce", nc.readNonce)]), nc.setUnderlying t)
  | (.ok lengthBuf, t) =>
    let (mask, slm) := slm.nextInboundMask L.sipHash
    let frameLen := uint16 lengthBuf ^^^ mask
    let nc := { nc.setUnderlying t with lengthObfuscator := some slm }
    if frameLen.toNat < minDataPhaseFrameSize then
      (.error ⟨"FRAME_TOO_SMALL", "ntcp2",
        [("frame_length", frameLen.toNat), ("min_frame_size", minDataPhaseFrameSize)],
        s!"frame length {frameLen.toNat} below minimum {minDataPhaseFrameSize}"⟩,
        nc.handleAEADError junk)
    else (.ok frameLen, nc)

def readAndDecryptFrame (junk : Option UInt16) (frameLen : UInt16) :
    Call (NTCP2Conn κ) Oops Bytes := fun nc =>
  match nc.noiseConn.underlying.readFull frameLen.toNat with
  | (.waiting, t) => (.waiting, nc.setUnderlying t)
  | (.error (l, e), t) => (.error ((e.wrapf
      (s!"failed to read frame data (frame #{nc.readNonce}, expected {frameLen.toNat} bytes, " ++
        s!"got {l.length})")).wrap "READ_FRAME_FAILED" "ntcp2"
      [("frame_length", frameLen.toNat), ("bytes_actually_read", l.length),
        ("read_nonce", nc.readNonce)]), { nc.setUnderlying t with broken := true })
  | (.ok ciphertext, t) =>
    let nc := nc.setUnderlying t
    match nc.noiseConn.decrypt S ciphertext with
    | (.error e, _) => (.error ((e.wrapf "failed to decrypt frame").wrap "DECRYPT_FAILED" "ntcp2"
        [("frame_length", frameLen.toNat)]), nc.handleAEADError junk)
    | (.ok plaintext, noiseConn) => (.ok plaintext, { nc with noiseConn := noiseConn })

def bufferPlaintext (k : ℕ) (plaintext : Bytes) (nc : NTCP2Conn κ) : Bytes × NTCP2Conn κ :=
  (plaintext.take k,
    if k < plaintext.length then { nc with readBuffer := plaintext.drop k } else nc)

/-- The rest of `readFramed`, once the frame was decrypted. -/
def deliverPlaintext (k : ℕ) (plaintext : Bytes) : Call (NTCP2Conn κ) Oops Bytes := fun nc =>
  match nc.noiseConn.applyInbound (ntcp2Modifiers L custom) .data plaintext with
  | (.error e, noiseConn) => (.error e, { nc with noiseConn := noiseConn })
  | (.ok plaintext, noiseConn) =>
    let (l, nc) := bufferPlaintext k plaintext { nc with noiseConn := noiseConn }
    (.ok l, { nc with readNonce := nc.readNonce + 1 })

def readFramed (junk : Option UInt16) (slm : LengthModifier) (k : ℕ) :
    Call (NTCP2Conn κ) Oops Bytes := fun nc =>
  match nc.guardReadNonce with
  | some e => (.error e, { nc with broken := true })
  | none => (readObfuscatedFrameLength L junk slm >>= fun frameLen =>
      readAndDecryptFrame S junk frameLen >>= fun plaintext =>
      deliverPlaintext L custom k plaintext) nc

/-- `Read` with a buffer of `k` bytes. `deadline` is what `SetReadDeadline` returns to the core
connection, which is asked only without a length obfuscator. -/
def read (deadline : Option Oops) (junk : Option UInt16) (k : ℕ) :
    Call (NTCP2Conn κ) Oops Bytes := fun nc =>
  if nc.broken then (.error connectionBroken, nc)
  else
    match nc.lengthObfuscator with
    | none =>
      let (outcome, noiseConn) := nc.noiseConn.read S (ntcp2Modifiers L custom) deadline k
      (outcome, { nc with noiseConn := noiseConn })
    | some slm =>
      if nc.readBuffer ≠ [] then
        (.ok (nc.readBuffer.take k), { nc with readBuffer := nc.readBuffer.drop k })
      else readFramed L custom S junk slm k nc

section
variable {L custom S} {nc : NTCP2Conn κ} {slm : LengthModifier}

theorem read_of_broken (h : nc.broken = true) (deadline : Option Oops) (junk : Option UInt16)
    (k : ℕ) : nc.read L custom S deadline junk k = (.error connectionBroken, nc) := by
  rw [read, if_pos h]

theorem read_of_buffer (h : nc.broken = false) (hslm : nc.lengthObfuscator = some slm)
    (hbuffer : nc.readBuffer ≠ []) (deadline : Option Oops) (junk : Option UInt16) (k : ℕ) :
    nc.read L custom S deadline junk k =
      (.ok (nc.readBuffer.take k), { nc with readBuffer := nc.readBuffer.drop k }) := by
  rw [read, if_neg (by rw [h]; decide), hslm]
  exact if_pos hbuffer

theorem read_of_empty (h : nc.broken = false) (hslm : nc.lengthObfuscator = some slm)
    (hbuffer : nc.readBuffer = []) (deadline : Option Oops) (junk : Option UInt16) (k : ℕ) :
    nc.read L custom S deadline junk k = nc.readFramed L custom S junk slm k := by
  rw [read, if_neg (by rw [h]; decide), hslm]
  exact if_neg (not_not.mpr hbuffer)

end

/-! ## `Write` -/

def encryptFrame (b : Bytes) (nc : NTCP2Conn κ) : Except Oops Bytes × NTCP2Conn κ :=
  match nc.noiseConn.encrypt S b with
  | (.error e, noiseConn) => (.error ((e.wrapf "failed to encrypt frame").wrap "ENCRYPT_FAILED"
      "ntcp2" [("plaintext_len", b.length)]), { nc with noiseConn := noiseConn })
  | (.ok encrypted, noiseConn) =>
    if specMaxFrameSize < encrypted.length then
      (.error ⟨"FRAME_TOO_LARGE", "ntcp2",
        [("encrypted_len", encrypted.length), ("max_frame_size", specMaxFrameSize)],
        s!"encrypted frame ({encrypted.length} bytes) exceeds maximum frame size " ++
          s!"({specMaxFrameSize})"⟩, { nc with noiseConn := noiseConn })
    else (.ok encrypted, { nc with noiseConn := noiseConn })

def buildWireFrameWithMask (encrypted : Bytes) (slm : LengthModifier) : Bytes × LengthModifier :=
  let (mask, slm) := slm.nextOutboundMask L.sipHash
  (putUint16 (UInt16.ofNat encrypted.length ^^^ mask) ++ encrypted, slm)

/-- `writeWireFrame`. `outcome` is what the write comes to. -/
def writeWireFrame (outcome : Option (ℕ × Option Oops)) (frame : Bytes) (nc : NTCP2Conn κ) :
    Option Oops × NTCP2Conn κ :=
  match nc.noiseConn.underlying.write outcome frame with
  | ((_, some e), t) => (some ((e.wrapf "failed to write frame").wrap "WRITE_FRAME_FAILED" "ntcp2"
      [("frame_length", frame.length)]), { nc.setUnderlying t with broken := true })
  | ((n, none), t) =>
    if n ≠ frame.length then
      (some ⟨"PARTIAL_WRITE", "ntcp2", [("expected", frame.length), ("written", n)],
        s!"partial frame write: wrote {n} of {frame.length} bytes"⟩,
        { nc.setUnderlying t with broken := true })
    else (none, nc.setUnderlying t)

def writeSingleFrame (outcome : Option (ℕ × Option Oops)) (b : Bytes) (nc : NTCP2Conn κ) :
    (ℕ × Option Oops) × NTCP2Conn κ :=
  match nc.guardWriteNonce with
  | some e => ((0, some e), { nc with broken := true })
  | none =>
    match nc.noiseConn.applyOutbound (ntcp2Modifiers L custom) .data b with
    | (.error e, noiseConn) => ((0, some e), { nc with noiseConn := noiseConn })
    | (.ok toEncrypt, noiseConn) =>
      match encryptFrame S toEncrypt { nc with noiseConn := noiseConn } with
      | (.error e, nc) => ((0, some e), nc)
      | (.ok encrypted, nc) =>
        match nc.lengthObfuscator with
        -- `Write` has seen one
        | none => ((0, none), nc)
        | some slm =>
          let (frame, slm) := buildWireFrameWithMask L encrypted slm
          match writeWireFrame outcome frame { nc with lengthObfuscator := some slm } with
          | (some e, nc) => ((0, some e), nc)
          | (none, nc) => ((b.length, none), { nc with writeNonce := nc.writeNonce + 1 })

def getMaxFrameSize (nc : NTCP2Conn κ) : ℕ :=
  match nc.ntcp2Config with
  | none => defaultMaxFrameSize
  | some cfg =>
    if 0 < cfg.maxFrameSize ∧ cfg.maxFrameSize ≤ specMaxFrameSize then cfg.maxFrameSize.toNat
    else defaultMaxFrameSize

/-- The loop of `writeFramed`, for at most `turns` frames, from the frame number `i` of the call on.
`none` if the call goes on after that. -/
def writeFrames (outcomes : ℕ → Option (ℕ × Option Oops)) (maxPlaintext : ℕ) :
    (turns i : ℕ) → (b : Bytes) → (totalWritten : ℕ) → NTCP2Conn κ →
    Option (ℕ × Option Oops) × NTCP2Conn κ
  | _, _, [], totalWritten, nc => (some (totalWritten, none), nc)
  | 0, _, _ :: _, _, nc => (none, nc)
  | turns + 1, i, b, totalWritten, nc =>
    match writeSingleFrame L custom S (outcomes i) (b.take maxPlaintext) nc with
    | ((n, some e), nc) => (some (totalWritten + n, some e), nc)
    | ((n, none), nc) =>
      writeFrames outcomes maxPlaintext turns (i + 1) (b.drop maxPlaintext) (totalWritten + n) nc

def writeFramed (outcomes : ℕ → Option (ℕ × Option Oops)) (turns : ℕ) (b : Bytes)
    (nc : NTCP2Conn κ) : Option (ℕ × Option Oops) × NTCP2Conn κ :=
  if nc.getMaxFrameSize < poly1305Overhead then
    (some (0, some ⟨"INVALID_FRAME_SIZE", "ntcp2",
      [("maxFrameSize", nc.getMaxFrameSize), ("poly1305Overhead", poly1305Overhead)],
      s!"maxFrameSize {nc.getMaxFrameSize} < Poly1305Overhead {poly1305Overhead} would underflow"⟩),
      nc)
  else writeFrames L custom S outcomes (nc.getMaxFrameSize - poly1305Overhead) turns 0 b 0 nc

/-- `Write`. `outcomes` is what the writes to the underlying connection come to, and `deadline` is
what `SetWriteDeadline` returns to the core connection. -/
def write (deadline : Option Oops) (outcomes : ℕ → Option (ℕ × Option Oops)) (turns : ℕ) (b : Bytes)
    (nc : NTCP2Conn κ) : Option (ℕ × Option Oops) × NTCP2Conn κ :=
  if nc.broken then (some (0, some connectionBroken), nc)
  else
    match nc.lengthObfuscator with
    | none =>
      let (result, noiseConn) := nc.noiseConn.write S (ntcp2Modifiers L custom) deadline
        (outcomes 0, outcomes 1) b
      (some result, { nc with noiseConn := noiseConn })
    | some _ => writeFramed L custom S outcomes turns b nc

section
variable {L custom S} {nc : NTCP2Conn κ}

theorem write_of_broken (h : nc.broken = true) (deadline : Option Oops)
    (outcomes : ℕ → Option (ℕ × Option Oops)) (turns : ℕ) (b : Bytes) :
    nc.write L custom S deadline outcomes turns b = (some (0, some connectionBroken), nc) := by
  rw [write, if_pos h]

theorem write_of_framed (h : nc.broken = false) {slm : LengthModifier}
    (hslm : nc.lengthObfuscator = some slm) (deadline : Option Oops)
    (outcomes : ℕ → Option (ℕ × Option Oops)) (turns : ℕ) (b : Bytes) :
    nc.write L custom S deadline outcomes turns b =
      nc.writeFramed L custom S outcomes turns b := by
  rw [write, if_neg (by rw [h]; decide), hslm]

end
end
end NTCP2Conn

/-! ## A connection for tests -/

def testLibrary : ModifierLibrary where
  aes := ⟨fun _ _ data => data, fun _ _ data => data⟩
  sipHash k _ data := k + UInt64.ofNat (beNat data)
  product _ _ := 0

def noCustom : HandshakeModifier Empty where
  name := Empty.elim
  modifyOutbound _ _ := Empty.elim
  modifyInbound _ _ := Empty.elim

def framedConn {κ : Type} (modifiers : List (NTCP2Modifier κ)) (config : Option (Config κ)) :
    NTCP2Conn κ where
  noiseConn := { establishedConn [] with modifiers := modifiers }
  lengthObfuscator := some (newLengthModifier "ntcp2-siphash" (5, 6) 7)
  readBuffer := []
  ntcp2Config := config
  broken := false
  underlyingClosed := false
  writeNonce := 0
  readNonce := 0

end GoNoise.NTCP2
