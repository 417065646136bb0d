import GoNoise.Library.MaskedFrames
import GoNoise.NTCP2.Framing

/-!
# `ntcp2/conn_framing.go`: the sender and what it has encrypted

Each frame takes the next counter of the cipher and the next mask of the chain. The peer stays in
step as long as every ciphertext is written, in order. A frame that turns out to be too large is
given up after it was encrypted, and the connection is not marked as broken.
-/

namespace GoNoise.NTCP2

open BigEndian ByteStream Conn Handshake MaskedFrames Noise Trace NTCP2Conn ModifierChain

variable {κ : Type}

/-! ## One frame -/

def NTCP2Conn.encrypted (ms : List (NTCP2Modifier κ)) (cs : CipherState) (out c : Bytes)
    (nc : NTCP2Conn κ) : NTCP2Conn κ :=
  { nc with noiseConn := { nc.noiseConn with
      modifiers := ms
      sendCipherState := some { cs with n := cs.n + 1 }
      encryptions := nc.noiseConn.encryptions ++ [(out, c)] } }

/-- The connection after the underlying connection was given a frame. -/
def NTCP2Conn.wrote (slm : LengthModifier) (t : Transport) (nc : NTCP2Conn κ) : NTCP2Conn κ :=
  { nc.setUnderlying t with lengthObfuscator := some slm }

def sentWith (data : Bytes) (t : Transport) : Transport := { t with sent := t.sent ++ data }

section
variable (L : ModifierLibrary) (custom : HandshakeModifier κ) (S : Suite Oops) {nc : NTCP2Conn κ}

/-- The data after the modifiers, and the modifiers. -/
abbrev modifiedOutbound (b : Bytes) (nc : NTCP2Conn κ) :
    Except Oops Bytes × List (NTCP2Modifier κ) :=
  ModifierChain.modifyOutbound (ntcp2Modifiers L custom) .data b nc.noiseConn.modifiers

/-- What writing a frame does, with the cipher state `cs` and the chain `slm`. -/
inductive WritesFrame (outcome : Option (ℕ × Option Oops)) (b : Bytes) (nc : NTCP2Conn κ)
    (slm : LengthModifier) (cs : CipherState) : (ℕ × Option Oops) × NTCP2Conn κ → Prop
  | exhausted (e : Oops) (limit : maxNonce ≤ nc.writeNonce) :
      WritesFrame outcome b nc slm cs ((0, some e), { nc with broken := true })
  | refused (e : Oops)
      (reason : ∀ out c, (modifiedOutbound L custom b nc).1 = .ok out →
        S.encrypt cs.k cs.n [] out ≠ .ok c) :
      WritesFrame outcome b nc slm cs ((0, some e), { nc with noiseConn := { nc.noiseConn with
        modifiers := (modifiedOutbound L custom b nc).2 } })
  | tooLarge (e : Oops) (out c : Bytes) (modified : (modifiedOutbound L custom b nc).1 = .ok out)
      (sealed : S.encrypt cs.k cs.n [] out = .ok c) (large : specMaxFrameSize < c.length) :
      WritesFrame outcome b nc slm cs
        ((0, some e), nc.encrypted (modifiedOutbound L custom b nc).2 cs out c)
  | failed (e : Oops) (out c part : Bytes)
      (modified : (modifiedOutbound L custom b nc).1 = .ok out)
      (sealed : S.encrypt cs.k cs.n [] out = .ok c) (fits : c.length ≤ specMaxFrameSize)
      (le : part.length ≤ frameLengthFieldSize + c.length) (fails : outcome.isSome) :
      WritesFrame outcome b nc slm cs ((0, some e),
        { (nc.encrypted (modifiedOutbound L custom b nc).2 cs out c).wrote
            (slm.nextOutboundMask L.sipHash).2 (sentWith part nc.noiseConn.underlying) with
          broken := true })
  | sent (out c : Bytes) (modified : (modifiedOutbound L custom b nc).1 = .ok out)
      (sealed : S.encrypt cs.k cs.n [] out = .ok c) (fits : c.length ≤ specMaxFrameSize) :
      WritesFrame outcome b nc slm cs ((b.length, none),
        { (nc.encrypted (modifiedOutbound L custom b nc).2 cs out c).wrote
            (slm.nextOutboundMask L.sipHash).2
            (sentWith (frame (slm.nextOutboundMask L.sipHash).1 c) nc.noiseConn.underlying) with
          writeNonce := nc.writeNonce + 1 })

theorem writesFrame {slm : LengthModifier} {cs : CipherState}
    (hslm : nc.lengthObfuscator = some slm) (hcs : nc.noiseConn.validateWriteState = .ok cs)
    (outcome : Option (ℕ × Option Oops)) (b : Bytes) :
    WritesFrame L custom S outcome b nc slm cs (nc.writeSingleFrame L custom S outcome b) := by
  unfold writeSingleFrame guardWriteNonce
  split_ifs with hlimit
  · exact .exhausted _ hlimit
  dsimp only [NoiseConn.applyOutbound]
  generalize hchain : modifyOutbound (ntcp2Modifiers L custom) .data b
    nc.noiseConn.modifiers = result
  obtain ⟨e | out, ms⟩ := result
  · have hms : ms = (modifiedOutbound L custom b nc).2 := by rw [modifiedOutbound, hchain]
    subst hms
    refine .refused e ?_
    rw [modifiedOutbound, hchain]
    intro out c hout
    cases hout
  have hmodified : (modifiedOutbound L custom b nc).1 = .ok out := by rw [modifiedOutbound, hchain]
  have hms : ms = (modifiedOutbound L custom b nc).2 := by rw [modifiedOutbound, hchain]
  subst hms
  have hcs' : ({ nc.noiseConn with
      modifiers := (modifiedOutbound L custom b nc).2 } : NoiseConn _).validateWriteState =
      .ok cs := hcs
  dsimp only [encryptFrame, NoiseConn.encrypt]
  rw [hcs']
  dsimp only [NoiseConn.encryptData, CipherState.encrypt]
  cases hsealed : S.encrypt cs.k cs.n [] out with
  | error e =>
    refine .refused _ fun out' c hout => ?_
    cases hmodified.symm.trans hout
    rw [hsealed]
    intro h
    cases h
  | ok c =>
    dsimp only
    split_ifs with hlarge
    · exact .tooLarge _ out c hmodified hsealed hlarge
    rw [hslm]
    have hfits : c.length ≤ specMaxFrameSize := Nat.le_of_not_lt hlarge
    have hpart : ∀ n mask, ((frame mask c).take n).length ≤ frameLengthFieldSize + c.length :=
      fun n mask => (List.length_take_le' n _).trans_eq (length_frame mask c)
    dsimp only [buildWireFrameWithMask, writeWireFrame]
    rw [← frame]
    rcases outcome with _ | ⟨n, _ | e⟩
    · dsimp only [Transport.write]
      rw [if_neg (not_not.mpr rfl)]
      exact .sent out c hmodified hsealed hfits
    · dsimp only [Transport.write]
      split_ifs with hpartial
      · exact .failed _ out c _ hmodified hsealed hfits (hpart _ _) rfl
      · rw [not_not.mp hpartial, List.take_length]
        exact .sent out c hmodified hsealed hfits
    · exact .failed _ out c _ hmodified hsealed hfits (hpart _ _) rfl

/-- The frames of a `Write`. `I` is kept by each of them, and none is longer than `size`. -/
theorem writeFrames_induct {I : NTCP2Conn κ → Prop} {size maxPlaintext : ℕ}
    (hframe : ∀ outcome (chunk : Bytes) nc, chunk.length ≤ size → I nc →
      I (nc.writeSingleFrame L custom S outcome chunk).2) (outcomes : ℕ → Option (ℕ × Option Oops))
    (turns i : ℕ) (b : Bytes) (hsize : min maxPlaintext b.length ≤ size) (totalWritten : ℕ)
    (h : I nc) : I (nc.writeFrames L custom S outcomes maxPlaintext turns i b totalWritten).2 := by
  fun_induction writeFrames L custom S outcomes maxPlaintext turns i b totalWritten nc
    with
  | case1 => exact h
  | case2 => exact h
  | case3 turns i b totalWritten nc hb n e nc' heq => grind
  | case4 turns i b totalWritten nc hb n nc' heq ih => grind

end

/-! ## Sizes -/

/-- What is added for a padding of this size. -/
def paddingBlockSize (paddingSize : ℤ) : ℕ :=
  if paddingSize = 0 then 0 else paddingSize.toNat + i2pBlockHeaderSize

/-- How much a padding may add. -/
def paddingGrowth (npm : NTCP2PaddingModifier) : ℕ := paddingBlockSize npm.engine.config.maxPadding

section
variable (g : ℕ → ℕ)

/-- What a modifier may make of `n` bytes in the data phase. `g` is what a modifier of the caller
may make of them. -/
def NTCP2Modifier.sizeBound (n : ℕ) : NTCP2Modifier κ → ℕ
  | .aes _ => n
  | .sipHash _ => n
  | .padding npm _ => n + paddingGrowth npm
  | .custom _ => g n

/-- What the modifiers may make of `n` bytes. -/
def sizeBound (n : ℕ) (ms : List (NTCP2Modifier κ)) : ℕ := ms.foldl (NTCP2Modifier.sizeBound g) n

/-- The modifiers of the caller make at most `g n` bytes of `n`. -/
structure Bounds (custom : HandshakeModifier κ) : Prop where
  mono : Monotone g
  length_le : ∀ m data out, (custom.modifyOutbound .data data m).1 = .ok out →
    out.length ≤ g data.length

end

section
variable {L : ModifierLibrary} {custom : HandshakeModifier κ} {g : ℕ → ℕ} {data out : Bytes}

theorem length_of_padding {npm : NTCP2PaddingModifier} {draw : Draw}
    (h : npm.modifyOutbound L.product draw .data data = .ok out) :
    out.length = data.length + if npm.useAEADPadding then
      paddingBlockSize (npm.engine.calculatePaddingSize L.product draw data.length) else 0 := by
  have hfinal : HandshakePhase.final < .data := by decide
  have hnot : ¬ HandshakePhase.data < .final := by decide
  simp only [NTCP2PaddingModifier.modifyOutbound, hfinal, hnot, and_true, and_false, if_false] at h
  unfold paddingBlockSize
  split_ifs at h ⊢
  any_goals (cases h; rfl)
  unfold PaddingEngine.addAEADPadding at h
  cases hcontent : npm.engine.paddingData draw data.length
      (npm.engine.calculatePaddingSize L.product draw data.length).toNat with
  | error e => grind
  | ok content =>
    rw [hcontent] at h
    cases h
    rw [List.length_append, length_paddingBlock, PaddingEngine.length_of_paddingData hcontent,
      Nat.add_comm i2pBlockHeaderSize]

theorem length_le_of_padding {npm : NTCP2PaddingModifier} {draw : Draw}
    (h : npm.modifyOutbound L.product draw .data data = .ok out) :
    out.length ≤ data.length + paddingGrowth npm := by
  have hnonneg := npm.engine.calculatePaddingSize_nonneg L.product draw data.length
  have hle := npm.engine.calculatePaddingSize_le L.product draw data.length
  rw [length_of_padding h, paddingGrowth, paddingBlockSize, paddingBlockSize]
  split_ifs <;> omega

theorem length_aes {aom : AESObfuscationModifier}
    (h : (aom.modifyOutbound L.aes .data data).1 = .ok out) : out.length = data.length := by
  have hsame : (aom.modifyOutbound L.aes .data data).1 = .ok data := by
    unfold AESObfuscationModifier.modifyOutbound
    split_ifs <;> rfl
  cases hsame.symm.trans h
  rfl

theorem length_sipHash {slm : LengthModifier}
    (h : (slm.modifyOutbound L.sipHash .data data).1 = .ok out) : out.length = data.length := by
  unfold LengthModifier.modifyOutbound LengthModifier.applyMask at h
  split_ifs at h with hskip
  · cases h
    rfl
  · cases h
    rw [length_putUint16]
    exact (not_not.mp (not_or.mp hskip).2).symm

theorem length_le_sizeBound (hg : Bounds g custom) {m : NTCP2Modifier κ}
    (h : ((ntcp2Modifiers L custom).modifyOutbound .data data m).1 = .ok out) :
    out.length ≤ m.sizeBound g data.length := by
  cases m with
  | aes aom => exact (length_aes (L := L) h).le
  | sipHash slm => exact (length_sipHash (L := L) h).le
  | padding npm draws => exact length_le_of_padding h
  | custom m => exact hg.length_le m data out h

theorem sizeBound_mono (hg : Bounds g custom) (ms : List (NTCP2Modifier κ)) :
    Monotone fun n => sizeBound g n ms := by
  intro n n' hn
  induction ms generalizing n n' with
  | nil => exact hn
  | cons m ms ih =>
    refine ih ?_
    cases m with
    | aes aom => exact hn
    | sipHash slm => exact hn
    | padding npm draws => exact Nat.add_le_add_right hn _
    | custom m => exact hg.mono hn

theorem length_le_of_outboundFrom (hg : Bounds g custom) {ms : List (NTCP2Modifier κ)} {i : ℕ}
    (h : (outboundFrom (ntcp2Modifiers L custom) .data i ms data).1 = .ok out) :
    out.length ≤ sizeBound g data.length ms := by
  induction ms generalizing i data with
  | nil =>
    cases h
    exact Nat.le_refl _
  | cons m ms ih =>
    rw [outboundFrom] at h
    have hfirst : ∀ out, ((ntcp2Modifiers L custom).modifyOutbound .data data m).1 = .ok out →
        out.length ≤ m.sizeBound g data.length := fun _ => length_le_sizeBound hg
    generalize (ntcp2Modifiers L custom).modifyOutbound .data data m = result at h hfirst
    obtain ⟨e | data', m'⟩ := result
    · cases h
    · exact (ih h).trans (sizeBound_mono hg ms (hfirst data' rfl))

theorem sizeBound_outboundFrom (ms : List (NTCP2Modifier κ)) (i : ℕ) (data : Bytes) (n : ℕ) :
    sizeBound g n (outboundFrom (ntcp2Modifiers L custom) .data i ms data).2 =
      sizeBound g n ms := by
  induction ms generalizing i data n with
  | nil => rfl
  | cons m ms ih =>
    rw [outboundFrom]
    have hfirst : ((ntcp2Modifiers L custom).modifyOutbound .data data m).2.sizeBound g n =
        m.sizeBound g n := by cases m <;> rfl
    generalize (ntcp2Modifiers L custom).modifyOutbound .data data m = result at hfirst
    obtain ⟨e | data', m'⟩ := result
    · exact congrArg (fun n => sizeBound g n ms) hfirst
    · refine (ih (i + 1) data' _).trans ?_
      exact congrArg (fun n => sizeBound g n ms) hfirst

end

/-! ## Runs -/

/-- The peer opens a frame: its length can be told, and the cipher state moves on. -/
structure OpensFrame (S : Suite Oops) (cs : CipherState) (m : Bytes × Bytes) (cs' : CipherState) :
    Prop where
  fits : m.2.length ≤ specMaxFrameSize
  opened : cs.decrypt S m.2 = (.ok m.1, cs')

/-- Since the connection was `start`, with the chain `slm` and the cipher state `cs`: what was
encrypted, `es`, was written, in order, each with the next mask of the chain, and a peer that has
the same cipher state opens it and ends with the cipher state of the sender. -/
def InStep (L : ModifierLibrary) (S : Suite Oops) (start : NTCP2Conn κ) (slm : LengthModifier)
    (cs : CipherState) (nc : NTCP2Conn κ) : Prop :=
  ∃ (es : List (Bytes × Bytes)) (cs' : CipherState),
    nc.noiseConn.encryptions = start.noiseConn.encryptions ++ es ∧
    nc.noiseConn.underlying.sent = start.noiseConn.underlying.sent ++
      wire (nextMask L.sipHash slm.outboundKeys) slm.outboundIV (es.map Prod.snd) ∧
    nc.lengthObfuscator = some { slm with
      outboundIV := advance (nextMask L.sipHash slm.outboundKeys) slm.outboundIV es.length } ∧
    nc.noiseConn.sendCipherState = some cs' ∧ Path (OpensFrame S) cs es cs'

/-- The largest frame of a `Write` fits. -/
def Fits (g : ℕ → ℕ) (nc : NTCP2Conn κ) (b : Bytes) : Prop :=
  sizeBound g (min (nc.getMaxFrameSize - poly1305Overhead) b.length) nc.noiseConn.modifiers +
    poly1305Overhead ≤ specMaxFrameSize

structure WriteCall where
  deadline : Option Oops
  outcomes : ℕ → Option (ℕ × Option Oops)
  turns : ℕ
  b : Bytes

/-- One call. -/
def writeStep (L : ModifierLibrary) (custom : HandshakeModifier κ) (S : Suite Oops)
    (nc : NTCP2Conn κ) (call : WriteCall) : NTCP2Conn κ :=
  (nc.write L custom S call.deadline call.outcomes call.turns call.b).2

section
variable {L : ModifierLibrary} {custom : HandshakeModifier κ} {S : Suite Oops} {g : ℕ → ℕ}
  {start nc : NTCP2Conn κ} {slm : LengthModifier} {cs : CipherState} {c chunk out : Bytes}
  {call : WriteCall}

theorem InStep.sent (hS : S.Lawful) (h : InStep L S start slm cs nc) {slm' : LengthModifier}
    {cs' : CipherState} (hslm : nc.lengthObfuscator = some slm')
    (hcs : nc.noiseConn.sendCipherState = some cs') {ms : List (NTCP2Modifier κ)}
    (hsealed : S.encrypt cs'.k cs'.n [] out = .ok c) (hfits : c.length ≤ specMaxFrameSize)
    (writeNonce : ℕ) :
    InStep L S start slm cs { (nc.encrypted ms cs' out c).wrote (slm'.nextOutboundMask L.sipHash).2
      (sentWith (frame (slm'.nextOutboundMask L.sipHash).1 c) nc.noiseConn.underlying) with
      writeNonce := writeNonce } := by
  obtain ⟨es, cs'', hencryptions, hsent, hchain, hcipher, hpath⟩ := h
  cases hslm.symm.trans hchain
  cases hcs.symm.trans hcipher
  refine ⟨es ++ [(out, c)], _, ?_, ?_, ?_, rfl,
    hpath.concat ⟨hfits, CipherState.decrypt_of_encrypt hS hsealed⟩⟩
  · rw [← List.append_assoc, ← hencryptions]
    rfl
  · rw [List.map_append, List.map_singleton, wire_concat, ← List.append_assoc, ← hsent,
      List.length_map]
    rfl
  · rw [List.length_append, List.length_singleton, advance_succ']
    rfl

/-- The state of the sender, between the frames of a `Write` too. -/
structure Sending (L : ModifierLibrary) (S : Suite Oops) (start : NTCP2Conn κ)
    (slm : LengthModifier) (cs : CipherState) (nc : NTCP2Conn κ) : Prop where
  chain : ∃ slm', nc.lengthObfuscator = some slm'
  cipher : ∃ cs', nc.noiseConn.validateWriteState = .ok cs'
  inStep : nc.broken = false → InStep L S start slm cs nc

theorem Sending.writeSingleFrame (hS : S.Lawful) (hg : Bounds g custom)
    (h : Sending L S start slm cs nc) {size : ℕ}
    (hbound : sizeBound g size nc.noiseConn.modifiers + poly1305Overhead ≤ specMaxFrameSize)
    (outcome : Option (ℕ × Option Oops)) (hchunk : chunk.length ≤ size) :
    Sending L S start slm cs (nc.writeSingleFrame L custom S outcome chunk).2 ∧
      sizeBound g size (nc.writeSingleFrame L custom S outcome chunk).2.noiseConn.modifiers =
        sizeBound g size nc.noiseConn.modifiers := by
  obtain ⟨slm', hslm⟩ := h.chain
  obtain ⟨cs', hcs⟩ := h.cipher
  obtain ⟨hstate, hcipher⟩ := validateWriteState_eq_ok.mp hcs
  have hmodifiers : sizeBound g size (modifiedOutbound L custom chunk nc).2 =
      sizeBound g size nc.noiseConn.modifiers := sizeBound_outboundFrom ..
  have hnext : ∀ ms out c, ∃ cs'',
      (nc.encrypted ms cs' out c).noiseConn.validateWriteState = .ok cs'' :=
    fun _ _ _ => ⟨_, validateWriteState_eq_ok.mpr ⟨hstate, rfl⟩⟩
  have hwrites := writesFrame L custom S hslm hcs outcome chunk
  generalize nc.writeSingleFrame L custom S outcome chunk = result at hwrites
  cases hwrites with
  | exhausted e limit => exact ⟨⟨h.chain, h.cipher, fun hnot => by cases hnot⟩, rfl⟩
  | refused e reason => exact ⟨⟨h.chain, h.cipher, h.inStep⟩, hmodifiers⟩
  | tooLarge e out c modified sealed large =>
    have hout : out.length ≤ sizeBound g size nc.noiseConn.modifiers :=
      (length_le_of_outboundFrom hg modified).trans (sizeBound_mono hg _ hchunk)
    rw [hS.length_encrypt sealed] at large
    exact absurd large (by rw [poly1305Overhead] at hbound; rw [tagSize]; omega)
  | failed e out c part modified sealed fits le fails =>
    exact ⟨⟨⟨_, rfl⟩, hnext (modifiedOutbound L custom chunk nc).2 out c,
      fun hnot => by cases hnot⟩, hmodifiers⟩
  | sent out c modified sealed fits =>
    exact ⟨⟨⟨_, rfl⟩, hnext (modifiedOutbound L custom chunk nc).2 out c,
      fun hnot => (h.inStep hnot).sent hS hslm hcipher sealed fits _⟩, hmodifiers⟩

/-- The frames of one call. -/
theorem Sending.writeStep (hS : S.Lawful) (hg : Bounds g custom) (h : Sending L S start slm cs nc)
    (hfits : Fits g nc call.b) : Sending L S start slm cs (writeStep L custom S nc call) := by
  obtain ⟨slm', hslm⟩ := h.chain
  dsimp only [NTCP2.writeStep]
  cases hbroken : nc.broken with
  | true =>
    rw [write_of_broken hbroken]
    exact h
  | false =>
    rw [write_of_framed hbroken hslm, writeFramed]
    split_ifs with hsmall
    · exact h
    -- the bound is that of the modifiers before the first frame
    have hframes := writeFrames_induct L custom S
      (I := fun nc' => Sending L S start slm cs nc' ∧
        sizeBound g (min (nc.getMaxFrameSize - poly1305Overhead) call.b.length)
          nc'.noiseConn.modifiers =
        sizeBound g (min (nc.getMaxFrameSize - poly1305Overhead) call.b.length)
          nc.noiseConn.modifiers)
      (fun outcome chunk nc' hchunk hnc' => by
        obtain ⟨hsending, hsame⟩ := hnc'
        obtain ⟨hnext, hnextSame⟩ := hsending.writeSingleFrame hS hg
          (by rw [hsame]; exact hfits) outcome hchunk
        exact ⟨hnext, hnextSame.trans hsame⟩)
      call.outcomes call.turns 0 call.b le_rfl 0 ⟨h, rfl⟩
    exact hframes.1

theorem Sending.initial (hslm : start.lengthObfuscator = some slm)
    (hcs : start.noiseConn.validateWriteState = .ok cs) : Sending L S start slm cs start :=
  ⟨⟨slm, hslm⟩, ⟨cs, hcs⟩, fun _ => ⟨[], cs, (List.append_nil _).symm,
    (List.append_nil _).symm, hslm, (validateWriteState_eq_ok.mp hcs).2, .nil cs⟩⟩

/-- **The sender stays in step**, or is broken, as long as the largest frame of each `Write`
fits. -/
theorem inStep_exec (hS : S.Lawful) (hg : Bounds g custom)
    (hslm : start.lengthObfuscator = some slm)
    (hcs : start.noiseConn.validateWriteState = .ok cs) {calls : List WriteCall}
    (hfits : Always (writeStep L custom S) (fun nc call => Fits g nc call.b) start calls)
    (hbroken : (exec (writeStep L custom S) start calls).broken = false) :
    InStep L S start slm cs (exec (writeStep L custom S) start calls) := by
  have hend := exec_induct (I := Sending L S start slm cs)
    (fun nc call hnc hcall => hnc.writeStep hS hg hcall) (.initial hslm hcs) hfits
  exact hend.inStep hbroken

/-- The frame size of a connection is one that the length field can tell. -/
theorem getMaxFrameSize_le (nc : NTCP2Conn κ) : nc.getMaxFrameSize ≤ specMaxFrameSize := by
  unfold getMaxFrameSize
  split
  · decide
  · split_ifs with h
    · omega
    · decide

/-! ## Progress -/

theorem writeStep_tooLarge (hslm : nc.lengthObfuscator = some slm)
    (hcs : nc.noiseConn.validateWriteState = .ok cs) (hbroken : nc.broken = false)
    (hnonce : nc.writeNonce < maxNonce) (hframe : poly1305Overhead ≤ nc.getMaxFrameSize) {turns : ℕ}
    (hturns : call.turns = turns + 1) (hb : call.b ≠ [])
    (hchunk : call.b.take (nc.getMaxFrameSize - poly1305Overhead) = chunk)
    (houtcome : call.outcomes 0 = none)
    (hmodified : (modifiedOutbound L custom chunk nc).1 = .ok out)
    (hsealed : S.encrypt cs.k cs.n [] out = .ok c) (hlarge : specMaxFrameSize < c.length) :
    writeStep L custom S nc call =
      nc.encrypted (modifiedOutbound L custom chunk nc).2 cs out c := by
  have hwrites := writesFrame L custom S hslm hcs none chunk
  obtain ⟨a, rest, hcons⟩ := List.exists_cons_of_ne_nil hb
  dsimp only [writeStep]
  rw [write_of_framed hbroken hslm, writeFramed,
    if_neg (Nat.not_lt.mpr hframe), hturns, hcons, writeFrames.eq_def]
  dsimp only
  rw [← hcons, hchunk, houtcome]
  generalize nc.writeSingleFrame L custom S none chunk = result at hwrites
  cases hwrites with
  | exhausted e limit => exact absurd limit (Nat.not_le.mpr hnonce)
  | refused e reason => exact absurd hsealed (reason out c hmodified)
  | tooLarge e out' c' modified sealed large => grind
  | failed e out' c' part modified sealed fits le fails => cases fails
  | sent out' c' modified sealed fits => grind

theorem not_inStep_encrypted (ms : List (NTCP2Modifier κ)) (out c : Bytes) :
    ¬ InStep L S start slm cs (start.encrypted ms cs out c) := by
  rintro ⟨es, cs', hencryptions, hsent, -⟩
  obtain rfl : [(out, c)] = es := List.append_cancel_left hencryptions
  have hwire := List.append_cancel_left ((List.append_nil _).trans hsent)
  have hlength :
      0 = (frame (nextMask L.sipHash slm.outboundKeys slm.outboundIV).1 c ++ []).length :=
    congrArg List.length hwire
  rw [List.append_nil, length_frame] at hlength
  omega

end

theorem bounds_noCustom : Bounds id noCustom := ⟨monotone_id, fun m => m.elim⟩

/-- Padding that fits. -/
theorem inStep_exec_padded :
    InStep testLibrary numberedSuite
      (framedConn [.padding (fixedNTCP2 3 (by decide)) fun _ => drawn [7, 8, 9]] none)
      (newLengthModifier "ntcp2-siphash" (5, 6) 7) ⟨FixedBytes.ofNat 32 7, 0⟩
      (exec (writeStep testLibrary noCustom numberedSuite)
        (framedConn [.padding (fixedNTCP2 3 (by decide)) fun _ => drawn [7, 8, 9]] none)
        [⟨none, fun _ => none, 2, [1, 2, 3]⟩]) :=
  inStep_exec lawful_numberedSuite bounds_noCustom rfl rfl
    ⟨Nat.le_of_ble_eq_true rfl, trivial⟩ (by decide)

/-- The largest frames that the configuration allows, and one byte of padding. -/
def paddedConfig : Config Empty where
  pattern := "XK"
  initiator := false
  bobRouterHash := FixedBytes.ofNat 32 1
  staticKey := []
  remoteRouterHash := none
  remoteStaticKey := []
  handshakeTimeout := 30000000000
  readTimeout := 0
  writeTimeout := 0
  handshakeRetries := 3
  retryBackoff := 1000000000
  enableAESObfuscation := false
  obfuscationIV := none
  enableSipHashLength := true
  sipHashKeys := (0, 0)
  modifiers := []
  maxFrameSize := 65535
  framePaddingEnabled := true
  minPaddingSize := 1
  maxPaddingSize := 1
  localRouterInfo := []
  strictRouterInfoVerification := false

def paddedModifiers : List (NTCP2Modifier Empty) :=
  [.sipHash (newLengthModifier "ntcp2-siphash" (0, 0) 0),
    .padding (fixedNTCP2 1 (by decide)) fun _ => drawn [7]]

theorem modifiedOutbound_padded {b : Bytes} (hb : b.length ≠ 2) :
    (modifiedOutbound testLibrary noCustom b (framedConn paddedModifiers (some paddedConfig))).1 =
      .ok (b ++ paddingBlock [7]) := by
  have hmask : (newLengthModifier "ntcp2-siphash" (0, 0) 0).modifyOutbound testLibrary.sipHash
      .data b = (.ok b, newLengthModifier "ntcp2-siphash" (0, 0) 0) := by
    rw [LengthModifier.modifyOutbound, LengthModifier.applyMask, if_pos (.inr hb)]
  have hpad : (fixedNTCP2 1 (by decide)).modifyOutbound testLibrary.product (drawn [7]) .data b =
      .ok (b ++ paddingBlock [7]) := rfl
  rw [modifiedOutbound, modifyOutbound, framedConn, paddedModifiers,
    outboundFrom]
  dsimp only [ntcp2Modifiers]
  rw [hmask]
  dsimp only [Prod.map, id]
  rw [outboundFrom]
  dsimp only
  rw [hpad]
  rfl

theorem createPaddingModifier_padded :
    paddedConfig.createPaddingModifierIfEnabled = .ok (some (fixedNTCP2 1 (by decide))) := by
  have hengine : newPaddingEngine ⟨1, 1, 0, false, "ntcp2"⟩ =
      .ok (fixedEngine "ntcp2" 1 (by decide)) := by
    unfold newPaddingEngine
    split
    next e he =>
      exact absurd (he.symm.trans (validatePaddingParams_fixed "ntcp2" (by decide))) nofun
    next => rfl
  have hpadding : newNTCP2PaddingModifier "ntcp2-padding" 1 1 true =
      .ok (fixedNTCP2 1 (by decide)) := by
    rw [newNTCP2PaddingModifier, newNTCP2PaddingModifierWithRatio, hengine]
    rfl
  rw [Config.createPaddingModifierIfEnabled, if_neg (by decide)]
  dsimp only [paddedConfig]
  rw [hpadding]

theorem setupNTCP2Modifiers_padded :
    paddedConfig.setupNTCP2Modifiers (fun _ => drawn [7]) = .ok paddedModifiers := by
  rw [Config.setupNTCP2Modifiers, createPaddingModifier_padded]
  rfl

/-- A `Write` of as many bytes as fit into one frame without padding. The frame was encrypted and
was not written, and the connection is not broken. -/
theorem not_inStep_padded :
    let start := framedConn paddedModifiers (some paddedConfig)
    let nc := exec (writeStep testLibrary noCustom numberedSuite) start
      [⟨none, fun _ => none, 1, List.replicate 65519 0⟩]
    paddedConfig.validate Empty.elim = .ok () ∧
      paddedConfig.setupNTCP2Modifiers (fun _ => drawn [7]) = .ok paddedModifiers ∧
      nc.broken = false ∧
      ¬ InStep testLibrary numberedSuite start (newLengthModifier "ntcp2-siphash" (5, 6) 7)
        ⟨FixedBytes.ofNat 32 7, 0⟩ nc := by
  intro start nc
  have hlength : (List.replicate 65519 (0 : UInt8)).length = 65519 := List.length_replicate
  have hnc : nc = start.encrypted _ ⟨FixedBytes.ofNat 32 7, 0⟩ _ _ :=
    (exec_cons ..).trans <| (exec_nil ..).trans <| writeStep_tooLarge rfl rfl rfl (by decide)
      (by decide) rfl
      (List.ne_nil_of_length_pos (by rw [hlength]; decide))
      (List.take_of_length_le hlength.le) rfl
      (modifiedOutbound_padded (by rw [hlength]; decide)) rfl
      (by rw [List.length_append, List.length_append, hlength]; decide)
  refine ⟨by decide, setupNTCP2Modifiers_padded, ?_, ?_⟩
  · rw [hnc]
    rfl
  · rw [hnc]
    exact not_inStep_encrypted _ _ _

/-- The padding of a modifier. -/
def NTCP2Modifier.paddingOf : NTCP2Modifier κ → Option NTCP2PaddingModifier
  | .padding npm _ => some npm
  | _ => none

/-- A connection in the data phase: its padding is the configured one. -/
structure DataPhase (cfg : Config κ) (nc : NTCP2Conn κ) : Prop where
  config : nc.ntcp2Config = some cfg
  padding : cfg.createPaddingModifierIfEnabled.map Option.toList =
    .ok (nc.noiseConn.modifiers.filterMap NTCP2Modifier.paddingOf)
  chain : ∃ slm, nc.lengthObfuscator = some slm
  cipher : ∃ cs, nc.noiseConn.validateWriteState = .ok cs

section
variable {L : ModifierLibrary} {custom : HandshakeModifier κ} {S : Suite Oops} {cfg : Config κ}
  {nc : NTCP2Conn κ} {ms : List (NTCP2Modifier κ)} {data out : Bytes}

theorem paddingOf_outboundFrom (ms : List (NTCP2Modifier κ)) (i : ℕ) (data : Bytes) :
    (outboundFrom (ntcp2Modifiers L custom) .data i ms data).2.filterMap NTCP2Modifier.paddingOf =
      ms.filterMap NTCP2Modifier.paddingOf := by
  induction ms generalizing i data with
  | nil => rfl
  | cons m ms ih =>
    rw [outboundFrom]
    have hfirst : ((ntcp2Modifiers L custom).modifyOutbound .data data m).2.paddingOf =
        m.paddingOf := by cases m <;> rfl
    generalize (ntcp2Modifiers L custom).modifyOutbound .data data m = result at hfirst
    obtain ⟨e | data', m'⟩ := result
    · simp only [List.filterMap_cons, hfirst]
    · simp only [List.filterMap_cons, hfirst, ih]

theorem DataPhase.writeSingleFrame (h : DataPhase cfg nc) (outcome : Option (ℕ × Option Oops))
    (chunk : Bytes) : DataPhase cfg (nc.writeSingleFrame L custom S outcome chunk).2 := by
  obtain ⟨slm, hslm⟩ := h.chain
  obtain ⟨cs, hcs⟩ := h.cipher
  have hpadding : cfg.createPaddingModifierIfEnabled.map Option.toList =
      .ok ((modifiedOutbound L custom chunk nc).2.filterMap NTCP2Modifier.paddingOf) :=
    h.padding.trans (congrArg Except.ok (paddingOf_outboundFrom ..).symm)
  have hnext : ∀ ms out c, ∃ cs',
      (nc.encrypted ms cs out c).noiseConn.validateWriteState = .ok cs' :=
    fun _ _ _ => ⟨_, validateWriteState_eq_ok.mpr ⟨(validateWriteState_eq_ok.mp hcs).1, rfl⟩⟩
  have hwrites := writesFrame L custom S hslm hcs outcome chunk
  generalize nc.writeSingleFrame L custom S outcome chunk = result at hwrites
  cases hwrites with
  | exhausted e limit => exact ⟨h.config, h.padding, h.chain, h.cipher⟩
  | refused e reason => exact ⟨h.config, hpadding, h.chain, h.cipher⟩
  | tooLarge e out c modified sealed large =>
    exact ⟨h.config, hpadding, h.chain, hnext (modifiedOutbound L custom chunk nc).2 out c⟩
  | failed e out c part modified sealed fits le fails =>
    exact ⟨h.config, hpadding, ⟨_, rfl⟩, hnext (modifiedOutbound L custom chunk nc).2 out c⟩
  | sent out c modified sealed fits =>
    exact ⟨h.config, hpadding, ⟨_, rfl⟩, hnext (modifiedOutbound L custom chunk nc).2 out c⟩

end

end GoNoise.NTCP2
