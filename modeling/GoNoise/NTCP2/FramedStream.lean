import GoNoise.NTCP2.FrameWrites

/-!
# `ntcp2`: what is written is read

Two established connections face each other. The masks of the lengths, the masks that a SipHash
modifier puts on data of two bytes and the counters of the cipher move on separately, and each has
to stay in step with its counterpart at the other end.
-/

namespace GoNoise.NTCP2.FramedStream

open BigEndian ByteStream Conn Handshake MaskedFrames Noise Trace NTCP2Conn ModifierChain

variable {κ : Type} {L : ModifierLibrary} {S : Suite Oops} {b : Bytes}
  {custom : HandshakeModifier κ} {maxPlaintext : ℕ} {nc : NTCP2Conn κ}
  {outcomes : ℕ → Option (ℕ × Option Oops)}

/-! ## Masks -/

/-- A chain of masks: its keys, and the value it is at. -/
abbrev MaskChain := SipKeys × UInt64

section
variable (sipHash : UInt64 → UInt64 → Bytes → UInt64) (chain : MaskChain) (chains : List MaskChain)
  (data : Bytes)

def maskData (chain : MaskChain) (data : Bytes) : Bytes × MaskChain :=
  if data.length ≠ lengthFieldSize then (data, chain)
  else
    let (mask, iv) := nextMask sipHash chain.1 chain.2
    (putUint16 (uint16 data ^^^ mask), (chain.1, iv))

def maskAll : List MaskChain → Bytes → Bytes × List MaskChain
  | [], data => (data, [])
  | chain :: chains, data =>
    let (data, chain) := maskData sipHash chain data
    let (data, chains) := maskAll chains data
    (data, chain :: chains)

/-- The masks are taken off, the last one first. -/
def unmaskAll : List MaskChain → Bytes → Bytes × List MaskChain
  | [], data => (data, [])
  | chain :: chains, data =>
    let (data, chains) := unmaskAll chains data
    let (data, chain) := maskData sipHash chain data
    (data, chain :: chains)

theorem length_maskData : (maskData sipHash chain data).1.length = data.length := by
  unfold maskData
  split_ifs with h
  · rfl
  · exact (length_putUint16 _).trans (not_not.mp h).symm

theorem length_maskAll : (maskAll sipHash chains data).1.length = data.length := by
  induction chains generalizing data with
  | nil => rfl
  | cons chain chains ih => exact (ih _).trans (length_maskData sipHash chain data)

theorem maskData_maskData :
    maskData sipHash chain (maskData sipHash chain data).1 =
      (data, (maskData sipHash chain data).2) := by
  by_cases h : data.length = lengthFieldSize
  · have hmasked : maskData sipHash chain data =
        (putUint16 (uint16 data ^^^ (nextMask sipHash chain.1 chain.2).1),
          (chain.1, (nextMask sipHash chain.1 chain.2).2)) := if_neg (not_not.mpr h)
    rw [hmasked]
    refine (if_neg (not_not.mpr (length_putUint16 _))).trans ?_
    dsimp only
    rw [uint16_putUint16, UInt16.xor_assoc, UInt16.xor_self, UInt16.xor_zero, putUint16_uint16 h]
  · have hsame : maskData sipHash chain data = (data, chain) := if_pos h
    rw [hsame, hsame]

/-- The masks come off with the same chains. -/
theorem unmaskAll_maskAll :
    unmaskAll sipHash chains (maskAll sipHash chains data).1 =
      (data, (maskAll sipHash chains data).2) := by
  induction chains generalizing data with
  | nil => rfl
  | cons chain chains ih => simp [maskAll, unmaskAll, ih, maskData_maskData]

end

/-! ## The modifiers of a connection without padding -/

/-- AES obfuscation and SipHash lengths. -/
def Plain : NTCP2Modifier κ → Prop
  | .aes _ => True
  | .sipHash _ => True
  | _ => False

def outboundChains (ms : List (NTCP2Modifier κ)) : List MaskChain :=
  ms.filterMap fun
    | .sipHash slm => some (slm.outboundKeys, slm.outboundIV)
    | _ => none

def inboundChains (ms : List (NTCP2Modifier κ)) : List MaskChain :=
  ms.filterMap fun
    | .sipHash slm => some (slm.inboundKeys, slm.inboundIV)
    | _ => none

section
variable (L : ModifierLibrary) (custom : HandshakeModifier κ) {ms : List (NTCP2Modifier κ)}
  (aom : AESObfuscationModifier) (slm : LengthModifier) (data : Bytes)

/-- The AES obfuscation does nothing in the data phase. -/
theorem modifyOutbound_aes :
    (ntcp2Modifiers L custom).modifyOutbound .data data (.aes aom) = (.ok data, .aes aom) := by
  have h : aom.modifyOutbound L.aes .data data = (.ok data, aom) := by
    unfold AESObfuscationModifier.modifyOutbound
    split_ifs <;> rfl
  dsimp only [ntcp2Modifiers]
  rw [h]
  rfl

theorem modifyInbound_aes :
    (ntcp2Modifiers L custom).modifyInbound .data data (.aes aom) = (.ok data, .aes aom) := by
  have h : aom.modifyInbound L.aes .data data = (.ok data, aom) := by
    unfold AESObfuscationModifier.modifyInbound
    rw [if_neg (by decide : ¬ HandshakePhase.data = .initial)]
    split_ifs <;> rfl
  dsimp only [ntcp2Modifiers]
  rw [h]
  rfl

theorem modify_sipHash :
    (ntcp2Modifiers L custom).modifyOutbound .data data (.sipHash slm) =
      (.ok (maskData L.sipHash (slm.outboundKeys, slm.outboundIV) data).1,
        .sipHash { slm with outboundIV :=
          (maskData L.sipHash (slm.outboundKeys, slm.outboundIV) data).2.2 }) ∧
    (ntcp2Modifiers L custom).modifyInbound .data data (.sipHash slm) =
      (.ok (maskData L.sipHash (slm.inboundKeys, slm.inboundIV) data).1,
        .sipHash { slm with inboundIV :=
          (maskData L.sipHash (slm.inboundKeys, slm.inboundIV) data).2.2 }) := by
  dsimp only [ntcp2Modifiers]
  unfold LengthModifier.modifyOutbound LengthModifier.modifyInbound LengthModifier.applyMask
    maskData
  by_cases h : data.length = lengthFieldSize
  · constructor <;> rw [if_neg (by simp [h]; decide), if_neg (not_not.mpr h)] <;> rfl
  · constructor <;> rw [if_pos (.inr h), if_pos h] <;> rfl

theorem maskData_snd (sipHash : UInt64 → UInt64 → Bytes → UInt64) (chain : MaskChain)
    (data : Bytes) :
    (chain.1, (maskData sipHash chain data).2.2) = (maskData sipHash chain data).2 := by
  unfold maskData
  split_ifs <;> rfl

/-- What is sent gets the masks of the outbound chains. -/
theorem outboundFrom_plain (hms : ∀ m ∈ ms, Plain m) (i : ℕ) (data : Bytes) :
    ∃ ms', outboundFrom (ntcp2Modifiers L custom) .data i ms data =
        (.ok (maskAll L.sipHash (outboundChains ms) data).1, ms') ∧
      outboundChains ms' = (maskAll L.sipHash (outboundChains ms) data).2 ∧
      inboundChains ms' = inboundChains ms ∧ ∀ m ∈ ms', Plain m := by
  induction ms generalizing i data with
  | nil => exact ⟨[], rfl, rfl, rfl, hms⟩
  | cons m ms ih =>
    have hrest : ∀ m ∈ ms, Plain m := fun m hm => hms m (List.mem_cons_of_mem _ hm)
    cases m with
    | aes aom =>
      obtain ⟨ms', hout, hchains, hother, hplain⟩ := ih hrest (i + 1) data
      refine ⟨.aes aom :: ms', ?_, hchains, hother, List.forall_mem_cons.mpr ⟨trivial, hplain⟩⟩
      rw [outboundFrom, modifyOutbound_aes]
      dsimp only
      rw [hout]
      rfl
    | sipHash slm =>
      obtain ⟨ms', hout, hchains, hother, hplain⟩ := ih hrest (i + 1)
        (maskData L.sipHash (slm.outboundKeys, slm.outboundIV) data).1
      refine ⟨.sipHash { slm with outboundIV :=
        (maskData L.sipHash (slm.outboundKeys, slm.outboundIV) data).2.2 } :: ms', ?_, ?_, ?_,
        List.forall_mem_cons.mpr ⟨trivial, hplain⟩⟩
      · rw [outboundFrom, (modify_sipHash ..).1]
        dsimp only
        rw [hout]
        rfl
      · exact congrArg₂ List.cons
          (maskData_snd L.sipHash (slm.outboundKeys, slm.outboundIV) data) hchains
      · exact congrArg (List.cons (slm.inboundKeys, slm.inboundIV)) hother
    | padding npm draws => exact (hms _ List.mem_cons_self).elim
    | custom m => exact (hms _ List.mem_cons_self).elim

/-- What is received loses the masks of the inbound chains. -/
theorem inboundFrom_plain (hms : ∀ m ∈ ms, Plain m) (i : ℕ) (data : Bytes) :
    ∃ ms', inboundFrom (ntcp2Modifiers L custom) .data i ms data =
        (.ok (unmaskAll L.sipHash (inboundChains ms) data).1, ms') ∧
      inboundChains ms' = (unmaskAll L.sipHash (inboundChains ms) data).2 ∧
      outboundChains ms' = outboundChains ms ∧ ∀ m ∈ ms', Plain m := by
  induction ms generalizing i with
  | nil => exact ⟨[], rfl, rfl, rfl, hms⟩
  | cons m ms ih =>
    have hrest : ∀ m ∈ ms, Plain m := fun m hm => hms m (List.mem_cons_of_mem _ hm)
    obtain ⟨ms', hin, hchains, hother, hplain⟩ := ih hrest (i + 1)
    cases m with
    | aes aom =>
      refine ⟨.aes aom :: ms', ?_, hchains, hother, List.forall_mem_cons.mpr ⟨trivial, hplain⟩⟩
      rw [inboundFrom, hin]
      dsimp only
      rw [modifyInbound_aes]
      rfl
    | sipHash slm =>
      refine ⟨.sipHash { slm with inboundIV := (maskData L.sipHash (slm.inboundKeys, slm.inboundIV)
        (unmaskAll L.sipHash (inboundChains ms) data).1).2.2 } :: ms', ?_, ?_, ?_,
        List.forall_mem_cons.mpr ⟨trivial, hplain⟩⟩
      · rw [inboundFrom, hin]
        dsimp only
        rw [(modify_sipHash ..).2]
        rfl
      · exact congrArg₂ List.cons
          (maskData_snd L.sipHash (slm.inboundKeys, slm.inboundIV) _) hchains
      · exact congrArg (List.cons (slm.outboundKeys, slm.outboundIV)) hother
    | padding npm draws => exact (hms _ List.mem_cons_self).elim
    | custom m => exact (hms _ List.mem_cons_self).elim

end

/-! ## One direction -/

/-- What the two ends of a direction share. -/
structure Direction where
  cipher : CipherState
  chain : MaskChain
  hidden : List MaskChain

structure Sends (nc : NTCP2Conn κ) (d : Direction) : Prop where
  cipher : nc.noiseConn.validateWriteState = .ok d.cipher
  chain : ∃ slm, nc.lengthObfuscator = some slm ∧ (slm.outboundKeys, slm.outboundIV) = d.chain
  hidden : outboundChains nc.noiseConn.modifiers = d.hidden

structure Receives (nc : NTCP2Conn κ) (d : Direction) : Prop where
  cipher : nc.noiseConn.validateReadState = .ok d.cipher
  chain : ∃ slm, nc.lengthObfuscator = some slm ∧ (slm.inboundKeys, slm.inboundIV) = d.chain
  hidden : inboundChains nc.noiseConn.modifiers = d.hidden

section
variable (L : ModifierLibrary) (S : Suite Oops)

/-- The direction after a frame with the data `b`. -/
def Direction.next (b : Bytes) (d : Direction) : Direction where
  cipher := { d.cipher with n := d.cipher.n + 1 }
  chain := (d.chain.1, (nextMask L.sipHash d.chain.1 d.chain.2).2)
  hidden := (maskAll L.sipHash d.hidden b).2

/-- A frame with the data `m.1` and the ciphertext `m.2`. -/
structure Carries (d : Direction) (m : Bytes × Bytes) (d' : Direction) : Prop where
  min_le : minDataPhaseFrameSize ≤ m.2.length
  le_max : m.2.length ≤ specMaxFrameSize
  opened : S.decrypt d.cipher.k d.cipher.n [] m.2 = .ok (maskAll L.sipHash d.hidden m.1).1
  next : d' = d.next L m.1

/-- The frames of a queue, as they are sent from a point of the direction on. -/
def wireOf (d : Direction) (queue : List (Bytes × Bytes)) : Bytes :=
  wire (nextMask L.sipHash d.chain.1) d.chain.2 (queue.map Prod.snd)

theorem wireOf_cons (d : Direction) (m : Bytes × Bytes) (queue : List (Bytes × Bytes)) :
    wireOf L d (m :: queue) =
      frame (nextMask L.sipHash d.chain.1 d.chain.2).1 m.2 ++ wireOf L (d.next L m.1) queue := rfl

variable {L S}

theorem wireOf_concat {d d' : Direction} {queue : List (Bytes × Bytes)}
    (hpath : Path (Carries L S) d queue d') (m : Bytes × Bytes) :
    wireOf L d (queue ++ [m]) =
      wireOf L d queue ++ frame (nextMask L.sipHash d'.chain.1 d'.chain.2).1 m.2 := by
  induction hpath with
  | nil d => exact List.append_nil _
  | cons hfirst hrest ih =>
    rw [List.cons_append, wireOf_cons, wireOf_cons, List.append_assoc, ← hfirst.next, ih]

end

/-! ## `Read` -/

section
variable (L : ModifierLibrary) (custom : HandshakeModifier κ) (S : Suite Oops)

structure Received (k : ℕ) (b : Bytes) (d : Direction) (nc nc' : NTCP2Conn κ) : Prop where
  receives : Receives nc' (d.next L b)
  sends : ∀ d', Sends nc d' → Sends nc' d'
  plain : ∀ m ∈ nc'.noiseConn.modifiers, Plain m
  buffer : nc'.readBuffer = b.drop k
  broken : nc'.broken = nc.broken
  writeNonce : nc'.writeNonce = nc.writeNonce
  readNonce : nc'.readNonce = nc.readNonce + 1
  sent : nc'.noiseConn.underlying.sent = nc.noiseConn.underlying.sent

/-- What reading a frame does, if the frames of `queue` are on their way and `flight` has not
arrived yet. -/
inductive ReceivesFrame (k : ℕ) (nc : NTCP2Conn κ) (d : Direction) (queue : List (Bytes × Bytes))
    (flight : Bytes) : Outcome Oops Bytes × NTCP2Conn κ → Prop
  | exhausted (e : Oops) (limit : maxNonce ≤ nc.readNonce) :
      ReceivesFrame k nc d queue flight (.error e, { nc with broken := true })
  | waits (nc' : NTCP2Conn κ) (short : flight ≠ [] ∨ queue = []) :
      ReceivesFrame k nc d queue flight (.waiting, nc')
  | frame (b c : Bytes) (queue' : List (Bytes × Bytes)) (nc' : NTCP2Conn κ)
      (first : queue = (b, c) :: queue') (received : Received L k b d nc nc')
      (stream : items nc'.noiseConn.underlying.arrivals ++ flight.map .ok =
        (wireOf L (d.next L b) queue').map .ok) :
      ReceivesFrame k nc d queue flight (.ok (b.take k), nc')

variable {L S} {nc : NTCP2Conn κ} {slm : LengthModifier}

theorem readObfuscatedFrameLength_of_stream {c rest flight : Bytes}
    (hmin : minDataPhaseFrameSize ≤ c.length) (hmax : c.length ≤ specMaxFrameSize)
    (hstream : items nc.noiseConn.underlying.arrivals ++ flight.map .ok =
      (frame (slm.nextInboundMask L.sipHash).1 c ++ rest).map .ok) (junk : Option UInt16) :
    (∃ nc', nc.readObfuscatedFrameLength L junk slm = (.waiting, nc') ∧ flight ≠ []) ∨
    ∃ t, nc.readObfuscatedFrameLength L junk slm = (.ok (UInt16.ofNat c.length),
        { nc.setUnderlying t with lengthObfuscator := some (slm.nextInboundMask L.sipHash).2 }) ∧
      items t.arrivals ++ flight.map .ok = (c ++ rest).map .ok ∧
      t.sent = nc.noiseConn.underlying.sent := by
  rw [frame, List.append_assoc] at hstream
  unfold readObfuscatedFrameLength
  have hlong : frameLengthFieldSize =
      (putUint16 (UInt16.ofNat c.length ^^^ (slm.nextInboundMask L.sipHash).1)).length :=
    (length_putUint16 _).symm
  obtain ⟨t, hread, hwait⟩ | ⟨_, t, hread, hrest, hsent⟩ :=
    Transport.readFull_of_stream hstream frameLengthFieldSize
  · grind
  · grind [List.take_left, List.drop_left, uint16_putUint16, UInt16.xor_assoc, UInt16.xor_self,
      UInt16.xor_zero, specMaxFrameSize, UInt16.toNat_ofNat', Nat.mod_eq_of_lt]

/-- The body is read and decrypted, or it has not arrived. -/
theorem readAndDecryptFrame_of_stream {cs : CipherState}
    (hcs : nc.noiseConn.validateReadState = .ok cs) {c plaintext rest flight : Bytes}
    (hmax : c.length ≤ specMaxFrameSize) (hopened : S.decrypt cs.k cs.n [] c = .ok plaintext)
    (hstream : items nc.noiseConn.underlying.arrivals ++ flight.map .ok = (c ++ rest).map .ok)
    (junk : Option UInt16) :
    (∃ nc', nc.readAndDecryptFrame S junk (UInt16.ofNat c.length) = (.waiting, nc') ∧
      flight ≠ []) ∨
    ∃ t, nc.readAndDecryptFrame S junk (UInt16.ofNat c.length) = (.ok plaintext,
        { nc with noiseConn := { nc.noiseConn with
          underlying := t
          recvCipherState := some { cs with n := cs.n + 1 } } }) ∧
      items t.arrivals ++ flight.map .ok = rest.map .ok ∧
      t.sent = nc.noiseConn.underlying.sent := by
  have hlen : (UInt16.ofNat c.length).toNat = c.length := by
    rw [specMaxFrameSize] at hmax
    rw [UInt16.toNat_ofNat', Nat.mod_eq_of_lt (by omega)]
  unfold readAndDecryptFrame
  rw [hlen]
  obtain ⟨t, hread, hwait⟩ | ⟨_, t, hread, hrest, hsent⟩ :=
    Transport.readFull_of_stream hstream c.length
  · grind
  · rw [List.take_left] at hread
    rw [List.drop_left] at hrest
    refine .inr ⟨t, ?_, hrest, hsent⟩
    have hcs' : (nc.setUnderlying t).noiseConn.validateReadState = .ok cs := hcs
    simp only [hread]
    rw [NoiseConn.decrypt, hcs']
    dsimp only [NoiseConn.decryptData, CipherState.decrypt]
    rw [hopened]
    rfl

theorem bufferPlaintext_of_empty (h : nc.readBuffer = []) (k : ℕ) (plaintext : Bytes) :
    nc.bufferPlaintext k plaintext =
      (plaintext.take k, { nc with readBuffer := plaintext.drop k }) := by
  unfold bufferPlaintext
  split_ifs with hk
  · rfl
  · rw [List.drop_eq_nil_of_le (Nat.le_of_not_lt hk), ← h]

theorem received_deliverPlaintext {d : Direction} {t : Transport} (h : Receives nc d)
    (hplain : ∀ m ∈ nc.noiseConn.modifiers, Plain m) (hslm : nc.lengthObfuscator = some slm)
    (hbuffer : nc.readBuffer = []) (hsent : t.sent = nc.noiseConn.underlying.sent) (k : ℕ)
    (b : Bytes) :
    ∃ nc', deliverPlaintext L custom k (maskAll L.sipHash d.hidden b).1 { nc with
        lengthObfuscator := some (slm.nextInboundMask L.sipHash).2
        noiseConn := { nc.noiseConn with
          underlying := t
          recvCipherState := some { d.cipher with n := d.cipher.n + 1 } } } =
          (.ok (b.take k), nc') ∧
      Received L k b d nc nc' ∧ nc'.noiseConn.underlying = t := by
  obtain ⟨slm', hslm', hchain⟩ := h.chain
  cases hslm.symm.trans hslm'
  have hstate := (validateReadState_eq_ok.mp h.cipher).1
  obtain ⟨ms, hin, hinbound, houtbound, hms⟩ := inboundFrom_plain L custom hplain 0
    (maskAll L.sipHash d.hidden b).1
  rw [h.hidden, unmaskAll_maskAll] at hin hinbound
  dsimp only [deliverPlaintext, NoiseConn.applyInbound, modifyInbound]
  rw [hin]
  dsimp only
  rw [bufferPlaintext_of_empty ?_]
  swap
  · exact hbuffer
  refine ⟨_, rfl, ⟨⟨validateReadState_eq_ok.mpr ⟨hstate, rfl⟩, ⟨_, rfl, ?_⟩, hinbound⟩, ?_, hms,
    rfl, rfl, rfl, rfl, hsent⟩, rfl⟩
  · rw [Direction.next, ← hchain]
    rfl
  · intro d' hsends
    obtain ⟨slm', hslm', hchain'⟩ := hsends.chain
    cases hslm.symm.trans hslm'
    exact ⟨hsends.cipher, ⟨_, rfl, hchain'⟩, houtbound.trans hsends.hidden⟩

theorem receivesFrame {d dEnd : Direction} {queue : List (Bytes × Bytes)} {flight : Bytes}
    (h : Receives nc d) (hplain : ∀ m ∈ nc.noiseConn.modifiers, Plain m)
    (hslm : nc.lengthObfuscator = some slm) (hbuffer : nc.readBuffer = [])
    (hpath : Path (Carries L S) d queue dEnd)
    (hstream : items nc.noiseConn.underlying.arrivals ++ flight.map .ok =
      (wireOf L d queue).map .ok) (junk : Option UInt16) (k : ℕ) :
    ReceivesFrame L k nc d queue flight (nc.readFramed L custom S junk slm k) := by
  obtain ⟨slm', hslm', hchain⟩ := h.chain
  cases hslm.symm.trans hslm'
  unfold readFramed guardReadNonce
  split_ifs with hlimit
  · exact .exhausted _ hlimit
  cases queue with
  | nil =>
    have hempty : items nc.noiseConn.underlying.arrivals ++ flight.map .ok =
        ([] : Bytes).map .ok := hstream
    obtain ⟨t, hread, -⟩ | ⟨hle, -⟩ := Transport.readFull_of_stream hempty frameLengthFieldSize
    · rw [Call.bind_apply_waiting (by simp only [readObfuscatedFrameLength, hread]; rfl)]
      exact .waits _ (.inr rfl)
    · exact absurd hle (by decide)
  | cons m queue =>
    obtain ⟨d', hcarries, -⟩ := path_cons.mp hpath
    have hmask : (slm.nextInboundMask L.sipHash).1 =
        (nextMask L.sipHash d.chain.1 d.chain.2).1 := by
      rw [← hchain]
      rfl
    rw [wireOf_cons, ← hmask] at hstream
    obtain ⟨nc', hread, hflight⟩ | ⟨t, hread, hrest, hsent⟩ :=
      readObfuscatedFrameLength_of_stream hcarries.min_le hcarries.le_max hstream junk
    · rw [Call.bind_apply_waiting hread]
      exact .waits _ (.inl hflight)
    rw [Call.bind_apply_ok hread]
    have hcs : ({ nc.setUnderlying t with
        lengthObfuscator := some (slm.nextInboundMask L.sipHash).2 } :
        NTCP2Conn κ).noiseConn.validateReadState = .ok d.cipher := h.cipher
    obtain ⟨nc', hbody, hflight⟩ | ⟨t', hbody, hrest', hsent'⟩ :=
      readAndDecryptFrame_of_stream hcs hcarries.le_max hcarries.opened hrest junk
    · rw [Call.bind_apply_waiting hbody]
      exact .waits _ (.inl hflight)
    rw [Call.bind_apply_ok hbody]
    obtain ⟨nc', hdeliver, hreceived, hunderlying⟩ := received_deliverPlaintext custom h hplain hslm
      hbuffer (hsent'.trans hsent) k m.1
    refine (congrArg (ReceivesFrame L k nc d (m :: queue) flight) hdeliver).mpr ?_
    refine .frame m.1 m.2 queue nc' rfl hreceived ?_
    rw [hunderlying]
    exact hrest'

end

/-! ## `Write` -/

/-- Encryption fails only at the last counters. -/
def EncryptsBelow (S : Suite Oops) : Prop :=
  ∀ k n plaintext, n < maxNonce → ∃ c, S.encrypt k n [] plaintext = .ok c

section
variable (L : ModifierLibrary) (custom : HandshakeModifier κ) {S : Suite Oops}

structure Sent (b c : Bytes) (d : Direction) (nc nc' : NTCP2Conn κ) : Prop where
  sends : Sends nc' (d.next L b)
  receives : ∀ d', Receives nc d' → Receives nc' d'
  plain : ∀ m ∈ nc'.noiseConn.modifiers, Plain m
  buffer : nc'.readBuffer = nc.readBuffer
  broken : nc'.broken = nc.broken
  writeNonce : nc'.writeNonce = nc.writeNonce + 1
  readNonce : nc'.readNonce = nc.readNonce
  arrivals : nc'.noiseConn.underlying.arrivals = nc.noiseConn.underlying.arrivals
  sent : nc'.noiseConn.underlying.sent = nc.noiseConn.underlying.sent ++
    frame (nextMask L.sipHash d.chain.1 d.chain.2).1 c

variable {L} in
/-- Writing a frame, on a transport that does not fail. -/
theorem sent_writeSingleFrame (hS : S.Lawful) (hE : EncryptsBelow S) {nc : NTCP2Conn κ}
    {d : Direction} (h : Sends nc d) (hplain : ∀ m ∈ nc.noiseConn.modifiers, Plain m)
    (hcounter : d.cipher.n = nc.writeNonce) {b : Bytes}
    (hb : b.length + poly1305Overhead ≤ specMaxFrameSize) :
    (∃ e, nc.writeSingleFrame L custom S none b = ((0, some e), { nc with broken := true }) ∧
      maxNonce ≤ nc.writeNonce) ∨
    ∃ c nc', nc.writeSingleFrame L custom S none b = ((b.length, none), nc') ∧
      Carries L S d (b, c) (d.next L b) ∧ Sent L b c d nc nc' := by
  obtain ⟨slm, hslm, hchain⟩ := h.chain
  obtain ⟨ms, hout, houtbound, hinbound, hms⟩ := outboundFrom_plain L custom hplain 0 b
  rw [h.hidden] at hout houtbound
  have hmodified : modifiedOutbound L custom b nc = (.ok (maskAll L.sipHash d.hidden b).1, ms) :=
    hout
  by_cases hlimit : maxNonce ≤ nc.writeNonce
  · obtain ⟨e, hguard⟩ : ∃ e, nc.guardWriteNonce = some e := ⟨_, if_pos hlimit⟩
    exact .inl ⟨e, by rw [writeSingleFrame, hguard], hlimit⟩
  obtain ⟨c, hsealed⟩ := hE d.cipher.k d.cipher.n (maskAll L.sipHash d.hidden b).1
    (by rw [hcounter]; omega)
  have hlength : c.length = b.length + tagSize := by
    rw [hS.length_encrypt hsealed, length_maskAll]
  have hwrites := writesFrame L custom S hslm h.cipher none b
  generalize nc.writeSingleFrame L custom S none b = result at hwrites
  cases hwrites with
  | exhausted e limit => exact absurd limit hlimit
  | refused e reason => exact absurd hsealed (reason _ c (by rw [hmodified]))
  | tooLarge e out c' modified sealed large => grind [poly1305Overhead, tagSize]
  | failed e out c' part modified sealed fits le fails => cases fails
  | sent out c' modified sealed fits =>
    rw [hmodified] at modified ⊢
    cases modified
    cases hsealed.symm.trans sealed
    refine .inr ⟨c, _, rfl, ⟨?_, fits, hS.decrypt_encrypt hsealed, rfl⟩, ?_⟩
    · rw [hlength, tagSize, minDataPhaseFrameSize]
      omega
    have hstate := (validateWriteState_eq_ok.mp h.cipher).1
    refine ⟨⟨validateWriteState_eq_ok.mpr ⟨hstate, rfl⟩, ⟨_, rfl, ?_⟩, houtbound⟩, ?_, hms, rfl,
      rfl, rfl, rfl, rfl, ?_⟩
    · rw [Direction.next, ← hchain]
      rfl
    · intro d' hreceives
      obtain ⟨slm', hslm', hchain'⟩ := hreceives.chain
      cases hslm.symm.trans hslm'
      exact ⟨hreceives.cipher, ⟨_, rfl, hchain'⟩, hinbound.trans hreceives.hidden⟩
    · rw [← hchain]
      rfl

end

/-- The frames of a `Write`, and what was written of the data. `I` says it of what was written
so far. Without room for data in a frame the call does not return. -/
theorem writeFrames_written {I : Bytes → NTCP2Conn κ → Prop}
    (hframe : ∀ i (chunk written : Bytes) nc, chunk.length ≤ maxPlaintext → I written nc →
      match nc.writeSingleFrame L custom S (outcomes i) chunk with
      | ((n, none), nc') => n = chunk.length ∧ I (written ++ chunk) nc'
      | ((n, some _), nc') => n = 0 ∧ I written nc') (turns i : ℕ)
    (hturns : b.length ≤ turns ∨ maxPlaintext = 0) (totalWritten : ℕ) {written : Bytes}
    (h : I written nc) :
    match nc.writeFrames L custom S outcomes maxPlaintext turns i b totalWritten with
    | (some (n, _), nc') => ∃ m, n = totalWritten + m ∧ I (written ++ b.take m) nc'
    | (none, nc') => maxPlaintext = 0 ∧ I written nc' := by
  fun_induction writeFrames L custom S outcomes maxPlaintext turns i b totalWritten nc
    generalizing written with
  | case1 => exact ⟨0, rfl, by rwa [List.take_zero, List.append_nil]⟩
  | case2 => exact ⟨hturns.resolve_left (by simp), h⟩
  | case3 turns i b totalWritten nc hb n e nc' heq =>
    have hnext := hframe i (b.take maxPlaintext) written nc (List.length_take_le ..) h
    rw [heq] at hnext
    exact ⟨0, by rw [hnext.1], by rw [List.take_zero, List.append_nil]; exact hnext.2⟩
  | case4 turns i b totalWritten nc hb n nc' heq ih =>
    have hnext := hframe i (b.take maxPlaintext) written nc (List.length_take_le ..) h
    rw [heq] at hnext
    obtain ⟨rfl, hnext⟩ := hnext
    have hrest : (b.drop maxPlaintext).length ≤ turns ∨ maxPlaintext = 0 := by grind
    have hend := ih hrest hnext
    generalize nc'.writeFrames L custom S outcomes maxPlaintext turns (i + 1) (b.drop maxPlaintext)
      (totalWritten + (b.take maxPlaintext).length) = result at hend
    obtain ⟨_ | ⟨n, err⟩, nc''⟩ := result
    · grind
    · obtain ⟨m, rfl, hwritten⟩ := hend
      refine ⟨(b.take maxPlaintext).length + m, by omega, ?_⟩
      have htake : b.take ((b.take maxPlaintext).length + m) =
          b.take maxPlaintext ++ (b.drop maxPlaintext).take m := by
        rw [← List.take_length_add_append, List.take_append_drop]
      rwa [htake, ← List.append_assoc]

/-- A `Write` that has the counters for its frames writes all of the data. -/
theorem writeFrames_accepts {I : NTCP2Conn κ → Prop}
    (hframe : ∀ i (chunk : Bytes) nc, chunk.length ≤ maxPlaintext → I nc →
      nc.writeNonce < maxNonce →
      ∃ nc', nc.writeSingleFrame L custom S (outcomes i) chunk = ((chunk.length, none), nc') ∧
        I nc' ∧ nc'.writeNonce = nc.writeNonce + 1) (hpos : 0 < maxPlaintext) (turns i : ℕ)
    (hturns : b.length ≤ turns) (totalWritten : ℕ) (hnonce : nc.writeNonce + b.length ≤ maxNonce)
    (h : I nc) :
    (nc.writeFrames L custom S outcomes maxPlaintext turns i b totalWritten).1 =
      some (totalWritten + b.length, none) := by
  fun_induction writeFrames L custom S outcomes maxPlaintext turns i b totalWritten nc
    with
  | case1 => rfl
  | case2 => exact absurd hturns (by simp)
  | case3 turns i b totalWritten nc hb n e nc' heq =>
    have hlength := List.length_pos_of_ne_nil hb
    obtain ⟨nc'', hsent, -⟩ := hframe i (b.take maxPlaintext) nc (List.length_take_le ..) h
      (by omega)
    cases heq.symm.trans hsent
  | case4 turns i b totalWritten nc hb n nc' heq ih =>
    have hlength := List.length_pos_of_ne_nil hb
    obtain ⟨nc'', hsent, hnext, hwriteNonce⟩ := hframe i (b.take maxPlaintext) nc
      (List.length_take_le ..) h (by omega)
    cases heq.symm.trans hsent
    rw [ih (by rw [List.length_drop]; omega) (by rw [hwriteNonce, List.length_drop]; omega) hnext,
      List.length_take, List.length_drop]
    congr 2
    omega

/-! ## Two connections -/

/-- One end of the stream, with its history. -/
structure End (κ : Type) where
  conn : NTCP2Conn κ
  /-- how many of the bytes that the other end has sent have arrived here -/
  delivered : ℕ
  /-- what the calls of `Write` have accepted -/
  written : Bytes
  /-- what the calls of `Read` have returned -/
  returned : Bytes

abbrev Pair (κ : Type) := Bool → End κ

/-- What happens at one of the ends. -/
inductive Event
  | write (side : Bool) (deadline : Option Oops) (b : Bytes)
  /-- at most `n` bytes of what the other end has sent arrive, in one piece -/
  | deliver (side : Bool) (n : ℕ)
  | read (side : Bool) (deadline : Option Oops) (junk : Option UInt16) (k : ℕ)

section
variable (L : ModifierLibrary) (custom : HandshakeModifier κ) (S : Suite Oops)

/-- `Write`, on a transport that does not fail. A call that does not return has written nothing. -/
def End.write (deadline : Option Oops) (b : Bytes) (x : End κ) : End κ :=
  match x.conn.write L custom S deadline (fun _ => none) b.length b with
  | (some (n, _), conn) => { x with conn := conn, written := x.written ++ b.take n }
  | (none, conn) => { x with conn := conn }

/-- A piece of the stream arrives. -/
def End.receive (piece : Bytes) (x : End κ) : End κ :=
  { x with
    conn := x.conn.setUnderlying { x.conn.noiseConn.underlying with
      arrivals := x.conn.noiseConn.underlying.arrivals ++ [.bytes piece] }
    delivered := x.delivered + piece.length }

/-- `Read`. A call that waits is made again when more has arrived. -/
def End.read (deadline : Option Oops) (junk : Option UInt16) (k : ℕ) (x : End κ) : End κ :=
  match x.conn.read L custom S deadline junk k with
  | (.ok l, conn) => { x with conn := conn, returned := x.returned ++ l }
  | (.error _, conn) => { x with conn := conn }
  | (.waiting, _) => x

/-- What `w` has sent and `r` has not received. -/
def flight (w r : End κ) : Bytes := w.conn.noiseConn.underlying.sent.drop r.delivered

def step (p : Pair κ) : Event → Pair κ
  | .write side deadline b => Function.update p side ((p side).write L custom S deadline b)
  | .deliver side n =>
    Function.update p side ((p side).receive ((flight (p !side) (p side)).take n))
  | .read side deadline junk k =>
    Function.update p side ((p side).read L custom S deadline junk k)

/-- One direction. `queue` is the frames that `w` has sent and `r` has not read. -/
structure Link (w r : End κ) (queue : List (Bytes × Bytes)) : Prop where
  ends : ∃ d d', Receives r.conn d ∧ Sends w.conn d' ∧ Path (Carries L S) d queue d' ∧
    items r.conn.noiseConn.underlying.arrivals ++ (flight w r).map .ok = (wireOf L d queue).map .ok
  delivered_le : r.delivered ≤ w.conn.noiseConn.underlying.sent.length
  conserved : r.returned ++ r.conn.readBuffer ++ queue.flatMap Prod.fst = w.written

/-- One end. -/
structure Sound (nc : NTCP2Conn κ) : Prop where
  plain : ∀ m ∈ nc.noiseConn.modifiers, Plain m
  counter : ∀ cs, nc.noiseConn.validateWriteState = .ok cs → cs.n = nc.writeNonce
  exhausted : nc.broken = true → maxNonce ≤ nc.writeNonce ∨ maxNonce ≤ nc.readNonce

structure Joined (x y : End κ) : Prop where
  sound : Sound x.conn
  sending : ∃ queue, Link L S x y queue
  receiving : ∃ queue, Link L S y x queue

end

section
variable {L : ModifierLibrary} {S : Suite Oops}

theorem Sends.unique {nc : NTCP2Conn κ} {d d' : Direction} (h : Sends nc d) (h' : Sends nc d') :
    d = d' := by
  obtain ⟨slm, hslm, hchain⟩ := h.chain
  obtain ⟨slm', hslm', hchain'⟩ := h'.chain
  cases hslm.symm.trans hslm'
  have hcipher := Except.ok.inj (h.cipher.symm.trans h'.cipher)
  have hhidden := h.hidden.symm.trans h'.hidden
  cases d
  cases d'
  dsimp only at hcipher hhidden hchain hchain'
  rw [hcipher, hhidden, ← hchain, hchain']

variable {w r : End κ} {queue : List (Bytes × Bytes)}

section
variable (h : Link L S w r queue)
include h

theorem Link.writer {w' : End κ} (hsends : ∀ d, Sends w.conn d → Sends w'.conn d)
    (hsent : w'.conn.noiseConn.underlying.sent = w.conn.noiseConn.underlying.sent)
    (hwritten : w'.written = w.written) : Link L S w' r queue := by
  obtain ⟨d, d', hd, hd', hpath, hstream⟩ := h.ends
  refine ⟨⟨d, d', hd, hsends d' hd', hpath, ?_⟩, ?_, hwritten ▸ h.conserved⟩
  · rw [flight, hsent]
    exact hstream
  · rw [hsent]
    exact h.delivered_le

theorem Link.reader {r' : End κ} (hreceives : ∀ d, Receives r.conn d → Receives r'.conn d)
    (harrivals : r'.conn.noiseConn.underlying.arrivals = r.conn.noiseConn.underlying.arrivals)
    (hdelivered : r'.delivered = r.delivered)
    (hreturned : r'.returned ++ r'.conn.readBuffer = r.returned ++ r.conn.readBuffer) :
    Link L S w r' queue := by
  obtain ⟨d, d', hd, hd', hpath, hstream⟩ := h.ends
  refine ⟨⟨d, d', hreceives d hd, hd', hpath, ?_⟩, ?_, ?_⟩
  · rw [harrivals, flight, hdelivered]
    exact hstream
  · rw [hdelivered]
    exact h.delivered_le
  · rw [hreturned]
    exact h.conserved

theorem Link.sent {d : Direction} (hd : Sends w.conn d) {b c : Bytes}
    (hcarries : Carries L S d (b, c) (d.next L b)) {nc' : NTCP2Conn κ}
    (hsent : Sent L b c d w.conn nc') :
    Link L S { w with conn := nc', written := w.written ++ b } r (queue ++ [(b, c)]) := by
  obtain ⟨d₀, d', hd₀, hd', hpath, hstream⟩ := h.ends
  obtain rfl := hd.unique hd'
  refine ⟨⟨d₀, d.next L b, hd₀, hsent.sends, hpath.concat hcarries, ?_⟩, ?_, ?_⟩
  · rw [flight, hsent.sent, List.drop_append_of_le_length h.delivered_le, List.map_append,
      ← List.append_assoc, ← flight, hstream, wireOf_concat hpath, List.map_append]
  · rw [hsent.sent, List.length_append]
    exact h.delivered_le.trans (Nat.le_add_right _ _)
  · rw [List.flatMap_append, List.flatMap_singleton, ← List.append_assoc, h.conserved]

theorem Link.receive (n : ℕ) : Link L S w (r.receive ((flight w r).take n)) queue := by
  obtain ⟨d, d', hd, hd', hpath, hstream⟩ := h.ends
  refine ⟨⟨d, d', ⟨hd.cipher, hd.chain, hd.hidden⟩, hd', hpath, ?_⟩, ?_, h.conserved⟩
  · have hflight : flight w (r.receive ((flight w r).take n)) = (flight w r).drop n := by
      rw [flight, End.receive, ← List.drop_drop, ← flight]
      exact List.drop_eq_drop_iff.mpr (by simp)
    rw [hflight, End.receive, setUnderlying, items_append, items, items, List.append_nil,
      List.append_assoc, ← List.map_append, List.take_append_drop, hstream]
  · have hle := h.delivered_le
    have hlen : (flight w r).length = w.conn.noiseConn.underlying.sent.length - r.delivered :=
      List.length_drop
    dsimp only [End.receive]
    rw [List.length_take, hlen]
    omega

end

end

section
variable {L : ModifierLibrary} {custom : HandshakeModifier κ} {S : Suite Oops} {x y : End κ}
  {nc : NTCP2Conn κ} {p : Pair κ}

theorem Joined.exhausted (h : Joined L S x y)
    (hlimit : maxNonce ≤ x.conn.writeNonce ∨ maxNonce ≤ x.conn.readNonce) :
    Joined L S { x with conn := { x.conn with broken := true } } y := by
  obtain ⟨queue, hsending⟩ := h.sending
  obtain ⟨queue', hreceiving⟩ := h.receiving
  exact ⟨⟨h.sound.plain, h.sound.counter, fun _ => hlimit⟩,
    ⟨queue, hsending.writer (fun _ hd => ⟨hd.cipher, hd.chain, hd.hidden⟩) rfl rfl⟩,
    ⟨queue', hreceiving.reader (fun _ hd => ⟨hd.cipher, hd.chain, hd.hidden⟩) rfl rfl rfl⟩⟩

variable (custom) in
theorem Joined.writeSingleFrame (hS : S.Lawful) (hE : EncryptsBelow S) (h : Joined L S x y)
    {chunk : Bytes} (hchunk : chunk.length + poly1305Overhead ≤ specMaxFrameSize) :
    match x.conn.writeSingleFrame L custom S none chunk with
    | ((n, none), nc') => n = chunk.length ∧
        Joined L S { x with conn := nc', written := x.written ++ chunk } y
    | ((n, some _), nc') => n = 0 ∧ Joined L S { x with conn := nc' } y := by
  obtain ⟨queue, hsending⟩ := h.sending
  obtain ⟨queue', hreceiving⟩ := h.receiving
  obtain ⟨_, d, _, hd, _⟩ := hsending.ends
  have hcounter := h.sound.counter _ hd.cipher
  obtain ⟨e, hwrite, hlimit⟩ | ⟨c, nc', hwrite, hcarries, hsent⟩ :=
    sent_writeSingleFrame custom hS hE hd h.sound.plain hcounter hchunk
  · rw [hwrite]
    exact ⟨rfl, h.exhausted (.inl hlimit)⟩
  · rw [hwrite]
    refine ⟨rfl, ⟨hsent.plain, fun cs hcs => ?_, fun hbroken => ?_⟩,
      ⟨_, hsending.sent hd hcarries hsent⟩,
      ⟨queue', hreceiving.reader hsent.receives hsent.arrivals rfl (by rw [hsent.buffer])⟩⟩
    · cases hcs.symm.trans hsent.sends.cipher
      rw [hsent.writeNonce, ← hcounter]
      rfl
    · rw [hsent.writeNonce, hsent.readNonce]
      rw [hsent.broken] at hbroken
      exact (h.sound.exhausted hbroken).imp_left Nat.le_succ_of_le

theorem Joined.write (hS : S.Lawful) (hE : EncryptsBelow S) (h : Joined L S x y)
    (deadline : Option Oops) (b : Bytes) : Joined L S (x.write L custom S deadline b) y := by
  obtain ⟨queue, hsending⟩ := h.sending
  obtain ⟨_, d, _, hd, _⟩ := hsending.ends
  obtain ⟨slm, hslm, -⟩ := hd.chain
  have hnothing : Joined L S { x with written := x.written ++ b.take 0 } y := by
    rwa [List.take_zero, List.append_nil]
  unfold End.write
  cases hbroken : x.conn.broken with
  | true => grind [write_of_broken]
  | false =>
    rw [write_of_framed hbroken hslm, writeFramed]
    split_ifs with hsmall
    · exact hnothing
    have hsize := getMaxFrameSize_le x.conn
    have hframe : ∀ (i : ℕ) (chunk written : Bytes) (nc : NTCP2Conn κ),
        chunk.length ≤ x.conn.getMaxFrameSize - poly1305Overhead →
        Joined L S { x with conn := nc, written := x.written ++ written } y →
        match nc.writeSingleFrame L custom S ((fun _ => none : ℕ → Option (ℕ × Option Oops)) i)
          chunk with
        | ((n, none), nc') => n = chunk.length ∧
            Joined L S { x with conn := nc', written := x.written ++ (written ++ chunk) } y
        | ((n, some _), nc') => n = 0 ∧
            Joined L S { x with conn := nc', written := x.written ++ written } y := by
      intro i chunk written nc hchunk hnc
      have hnext := hnc.writeSingleFrame custom hS hE (by omega : chunk.length + _ ≤ _)
      generalize nc.writeSingleFrame L custom S none chunk = result at hnext
      obtain ⟨⟨n, _ | e⟩, nc'⟩ := result
      · rwa [List.append_assoc] at hnext
      · exact hnext
    have hstart : Joined L S { x with conn := x.conn, written := x.written ++ [] } y := by
      rwa [List.append_nil]
    have hend := writeFrames_written
      (I := fun written nc => Joined L S { x with conn := nc, written := x.written ++ written } y)
      hframe b.length 0 (.inl (Nat.le_refl b.length)) 0 hstart
    generalize writeFrames L custom S (fun _ => none)
      (x.conn.getMaxFrameSize - poly1305Overhead) b.length 0 b 0 x.conn = result at hend
    obtain ⟨_ | ⟨n, err⟩, nc'⟩ := result
    · have hsame := hend.2
      rwa [List.append_nil] at hsame
    · grind

theorem Joined.receive (h : Joined L S x y) (n : ℕ) :
    Joined L S (x.receive ((flight y x).take n)) y := by
  obtain ⟨queue, hsending⟩ := h.sending
  obtain ⟨queue', hreceiving⟩ := h.receiving
  exact ⟨⟨h.sound.plain, h.sound.counter, h.sound.exhausted⟩,
    ⟨queue, hsending.writer (fun _ hd => ⟨hd.cipher, hd.chain, hd.hidden⟩) rfl rfl⟩,
    ⟨queue', hreceiving.receive n⟩⟩

theorem Joined.read (h : Joined L S x y) (deadline : Option Oops) (junk : Option UInt16) (k : ℕ) :
    Joined L S (x.read L custom S deadline junk k) y := by
  obtain ⟨queue, hsending⟩ := h.sending
  obtain ⟨queue', hreceiving⟩ := h.receiving
  obtain ⟨d, d', hd, hd', hpath, hstream⟩ := hreceiving.ends
  obtain ⟨slm, hslm, -⟩ := hd.chain
  unfold End.read
  cases hbroken : x.conn.broken with
  | true =>
    rw [read_of_broken hbroken]
    exact h
  | false =>
    by_cases hbuffer : x.conn.readBuffer = []
    · have hreceives := receivesFrame custom hd h.sound.plain hslm hbuffer hpath hstream junk k
      rw [read_of_empty hbroken hslm hbuffer]
      generalize x.conn.readFramed L custom S junk slm k = result at hreceives
      cases hreceives with
      | exhausted e limit => exact h.exhausted (.inr limit)
      | waits nc' short => exact h
      | frame b c queue'' nc' first received stream =>
        subst first
        obtain ⟨d₁, hcarries, hrest⟩ := path_cons.mp hpath
        obtain rfl := hcarries.next
        obtain ⟨_, ds, _, hds, _⟩ := hsending.ends
        refine ⟨⟨received.plain, fun cs hcs => ?_, fun hbreaks => ?_⟩,
          ⟨queue, hsending.writer received.sends received.sent rfl⟩,
          ⟨queue'', ⟨_, d', received.receives, hd', hrest, stream⟩, hreceiving.delivered_le, ?_⟩⟩
        · cases hcs.symm.trans (received.sends ds hds).cipher
          rw [received.writeNonce]
          exact h.sound.counter _ hds.cipher
        · rw [received.broken, hbroken] at hbreaks
          cases hbreaks
        · have hconserved := hreceiving.conserved
          rw [hbuffer, List.append_nil, List.flatMap_cons] at hconserved
          rw [received.buffer, List.append_assoc x.returned, List.take_append_drop,
            List.append_assoc]
          exact hconserved
    · rw [read_of_buffer hbroken hslm hbuffer]
      refine ⟨⟨h.sound.plain, h.sound.counter, h.sound.exhausted⟩,
        ⟨queue, hsending.writer (fun _ hd => ⟨hd.cipher, hd.chain, hd.hidden⟩) rfl rfl⟩,
        ⟨queue', hreceiving.reader (fun _ hd => ⟨hd.cipher, hd.chain, hd.hidden⟩) rfl rfl ?_⟩⟩
      rw [List.append_assoc x.returned, List.take_append_drop]

/-! ## Runs -/

variable (L S) in
/-- Both ends. -/
def Linked (p : Pair κ) : Prop := ∀ side, Joined L S (p side) (p !side)

theorem linked_update (h : Linked L S p) {side : Bool} {x' : End κ}
    (hx : Joined L S x' (p !side)) : Linked L S (Function.update p side x') := by
  intro j
  rcases Bool.eq_or_eq_not j side with rfl | rfl
  · rwa [Function.update_self, Function.update_of_ne (by simp)]
  · rw [Bool.not_not, Function.update_self, Function.update_of_ne (by simp)]
    exact ⟨(h !side).sound, hx.receiving, hx.sending⟩

theorem linked_step (hS : S.Lawful) (hE : EncryptsBelow S) (h : Linked L S p)
    (event : Event) : Linked L S (step L custom S p event) := by
  cases event with
  | write side deadline b => exact linked_update h ((h side).write hS hE deadline b)
  | deliver side n => exact linked_update h ((h side).receive n)
  | read side deadline junk k => exact linked_update h ((h side).read deadline junk k)

/-- Two connections after the handshake, with mirrored keys and nothing on its way. Their modifiers
are AES obfuscations and SipHash modifiers. -/
structure Established (p : Pair κ) : Prop where
  state : ∀ side, (p side).conn.noiseConn.state = .established
  cipherStates : ∀ side, ∃ cs, (p !side).conn.noiseConn.sendCipherState = some cs ∧
    (p side).conn.noiseConn.recvCipherState = some cs ∧ cs.n = (p !side).conn.writeNonce
  lengthObfuscators : ∀ side, ∃ slm slm', (p !side).conn.lengthObfuscator = some slm ∧
    (p side).conn.lengthObfuscator = some slm' ∧
    (slm.outboundKeys, slm.outboundIV) = (slm'.inboundKeys, slm'.inboundIV)
  modifiers : ∀ side, outboundChains (p !side).conn.noiseConn.modifiers =
    inboundChains (p side).conn.noiseConn.modifiers
  plain : ∀ side, ∀ m ∈ (p side).conn.noiseConn.modifiers, Plain m
  arrivals : ∀ side, (p side).conn.noiseConn.underlying.arrivals = []
  delivered : ∀ side, (p side).delivered = (p !side).conn.noiseConn.underlying.sent.length
  readBuffer : ∀ side, (p side).conn.readBuffer = []
  broken : ∀ side, (p side).conn.broken = false
  written : ∀ side, (p side).written = []
  returned : ∀ side, (p side).returned = []

theorem linked_of_established (h : Established p) : Linked L S p := by
  have hlink : ∀ side, Link L S (p !side) (p side) [] := by
    intro side
    obtain ⟨cs, hsend, hrecv, -⟩ := h.cipherStates side
    obtain ⟨slm, slm', hslm, hslm', hchain⟩ := h.lengthObfuscators side
    refine ⟨⟨⟨cs, _, _⟩, _,
      ⟨validateReadState_eq_ok.mpr ⟨h.state _, hrecv⟩, ⟨slm', hslm', rfl⟩, rfl⟩,
      ⟨validateWriteState_eq_ok.mpr ⟨h.state _, hsend⟩, ⟨slm, hslm, hchain⟩, h.modifiers side⟩,
      .nil _, ?_⟩, (h.delivered side).le, ?_⟩
    · rw [h.arrivals, flight, h.delivered, List.drop_length]
      rfl
    · rw [h.returned, h.readBuffer, h.written]
      rfl
  intro side
  refine ⟨⟨h.plain side, fun cs hcs => ?_, fun hbroken => ?_⟩, ⟨[], ?_⟩, ⟨[], hlink side⟩⟩
  · obtain ⟨cs', hsend, -, hn⟩ := h.cipherStates !side
    rw [Bool.not_not] at hsend hn
    cases (validateWriteState_eq_ok.mp hcs).2.symm.trans hsend
    exact hn
  · rw [h.broken] at hbroken
    cases hbroken
  · have hother := hlink !side
    rwa [Bool.not_not] at hother

variable (L custom S) in
/-- Of what `w` has written, `r` has lost, repeated and reordered nothing. -/
structure Faithful (w r : End κ) : Prop where
  returned_prefix : r.returned <+: w.written
  /-- everything has arrived, and a `Read` waits: there is nothing left to return -/
  complete : r.delivered = w.conn.noiseConn.underlying.sent.length → ∀ deadline junk k,
    (r.conn.read L custom S deadline junk k).1 = .waiting → r.returned = w.written
  /-- a `Read` fails only when the counters are exhausted -/
  never_fails : r.conn.readNonce < maxNonce → r.conn.writeNonce < maxNonce →
    ∀ deadline junk k e, (r.conn.read L custom S deadline junk k).1 ≠ .error e
  /-- a `Write` writes all of the data if there are counters for its frames -/
  accepts : w.conn.readNonce < maxNonce → poly1305Overhead < w.conn.getMaxFrameSize →
    ∀ deadline b, b ≠ [] → w.conn.writeNonce + b.length ≤ maxNonce →
    (w.conn.write L custom S deadline (fun _ => none) b.length b).1 = some (b.length, none)

/-- A connection that can send writes all of the data. -/
theorem write_accepts (hS : S.Lawful) (hE : EncryptsBelow S) {d : Direction} (hd : Sends nc d)
    (hplain : ∀ m ∈ nc.noiseConn.modifiers, Plain m) (hcounter : d.cipher.n = nc.writeNonce)
    (hbroken : nc.broken = false) (hsize : poly1305Overhead < nc.getMaxFrameSize)
    (deadline : Option Oops) {b : Bytes} (hnonce : nc.writeNonce + b.length ≤ maxNonce) :
    (nc.write L custom S deadline (fun _ => none) b.length b).1 = some (b.length, none) := by
  obtain ⟨slm, hslm, -⟩ := hd.chain
  have hmax := getMaxFrameSize_le nc
  rw [write_of_framed hbroken hslm, writeFramed, if_neg (by omega)]
  refine (writeFrames_accepts (I := fun nc => (∀ m ∈ nc.noiseConn.modifiers, Plain m) ∧
    ∃ d, Sends nc d ∧ d.cipher.n = nc.writeNonce) ?_ (by omega) b.length 0 le_rfl 0 hnonce
    ⟨hplain, d, hd, hcounter⟩).trans (by rw [Nat.zero_add])
  rintro i chunk nc' hchunk ⟨hplain', d', hd', hcounter'⟩ hlimit
  obtain ⟨e, -, hexhausted⟩ | ⟨c, nc'', hwrite, -, hsent⟩ :=
    sent_writeSingleFrame custom hS hE hd' hplain' hcounter'
      (by omega : chunk.length + poly1305Overhead ≤ specMaxFrameSize)
  · omega
  · refine ⟨nc'', hwrite, ⟨hsent.plain, _, hsent.sends, ?_⟩, hsent.writeNonce⟩
    rw [hsent.writeNonce, ← hcounter']
    rfl

theorem Sound.not_broken (h : Sound nc) (hread : nc.readNonce < maxNonce)
    (hwrite : nc.writeNonce < maxNonce) : nc.broken = false := by
  cases hbroken : nc.broken with
  | false => rfl
  | true =>
    have := h.exhausted hbroken
    omega

theorem faithful_of_linked (hS : S.Lawful) (hE : EncryptsBelow S) (h : Linked L S p)
    (side : Bool) : Faithful L custom S (p !side) (p side) := by
  obtain ⟨queue, hlink⟩ := (h side).receiving
  obtain ⟨d, d', hd, hd', hpath, hstream⟩ := hlink.ends
  obtain ⟨slm, hslm, -⟩ := hd.chain
  have hplain := (h side).sound.plain
  refine ⟨⟨_, (List.append_assoc ..).symm.trans hlink.conserved⟩, ?_, ?_, ?_⟩
  · intro hdelivered deadline junk k hwaits
    cases hbroken : (p side).conn.broken with
    | true => grind [read_of_broken]
    | false =>
      by_cases hbuffer : (p side).conn.readBuffer = []
      · have hreceives := receivesFrame custom hd hplain hslm hbuffer hpath hstream junk k
        rw [read_of_empty hbroken hslm hbuffer] at hwaits
        generalize (p side).conn.readFramed L custom S junk slm k = result at hreceives hwaits
        cases hreceives with
        | exhausted => cases hwaits
        | frame => cases hwaits
        | waits nc' short =>
          rcases short with hflight | rfl
          · exact absurd (List.drop_of_length_le hdelivered.ge) hflight
          · rw [← hlink.conserved, hbuffer, List.append_nil]
            exact (List.append_nil _).symm
      · rw [read_of_buffer hbroken hslm hbuffer] at hwaits
        cases hwaits
  · intro hread hwrite deadline junk k e
    have hbroken := (h side).sound.not_broken hread hwrite
    by_cases hbuffer : (p side).conn.readBuffer = []
    · have hreceives := receivesFrame custom hd hplain hslm hbuffer hpath hstream junk k
      rw [read_of_empty hbroken hslm hbuffer]
      generalize (p side).conn.readFramed L custom S junk slm k = result at hreceives
      cases hreceives with
      | exhausted e' limit => omega
      | frame => nofun
      | waits => nofun
    · rw [read_of_buffer hbroken hslm hbuffer]
      nofun
  · intro hread hsize deadline b hb hnonce
    have hlength := List.length_pos_of_ne_nil hb
    have hsound := (h !side).sound
    exact write_accepts hS hE hd' hsound.plain (hsound.counter _ hd'.cipher)
      (hsound.not_broken hread (by omega)) hsize deadline hnonce

/-- **The framed stream is faithful**, whatever is written, however the stream is cut and whatever
buffers are read into. -/
theorem faithful_framed_exec (hS : S.Lawful) (hE : EncryptsBelow S) {p : Pair κ}
    (hp : Established p) (events : List Event) (side : Bool) :
    Faithful L custom S (exec (step L custom S) p events !side)
      (exec (step L custom S) p events side) := by
  have hevents : Always (step L custom S) (fun _ _ => True) p events :=
    always_iff.mpr fun _ _ _ _ => trivial
  have hstep : ∀ s (event : Event), Linked L S s → True → Linked L S (step L custom S s event) :=
    fun _ event hs _ => linked_step hS hE hs event
  exact faithful_of_linked hS hE (exec_induct hstep (linked_of_established hp) hevents) side

end

theorem encryptsBelow_numberedSuite : EncryptsBelow numberedSuite := fun _ _ _ _ => ⟨_, rfl⟩

/-- Two connections whose modifiers mask data of two bytes. -/
def maskingPair : Pair Empty := fun _ =>
  ⟨framedConn [.sipHash (newLengthModifier "ntcp2-siphash" (1, 2) 0)] none, 0, [], []⟩

/-- Two writes, one of two bytes, in pieces. -/
def inPieces : List Event :=
  [.write true none [1, 2, 3], .write true none [4, 5], .deliver false 3, .read false none none 2,
    .deliver false 99, .read false none none 2, .read false none none 9, .read false none none 9]

theorem faithful_framed_exec_inPieces :
    Faithful testLibrary noCustom numberedSuite
        (exec (step testLibrary noCustom numberedSuite) maskingPair inPieces true)
        (exec (step testLibrary noCustom numberedSuite) maskingPair inPieces false) ∧
      (exec (step testLibrary noCustom numberedSuite) maskingPair inPieces false).returned =
        [1, 2, 3, 4, 5] := by
  refine ⟨faithful_framed_exec lawful_numberedSuite encryptsBelow_numberedSuite ⟨fun _ => rfl,
    fun _ => ⟨_, rfl, rfl, rfl⟩, fun _ => ⟨_, _, rfl, rfl, rfl⟩, fun _ => rfl, ?_, fun _ => rfl,
    fun _ => rfl, fun _ => rfl, fun _ => rfl, fun _ => rfl, fun _ => rfl⟩ inPieces false, ?_⟩
  · intro _ m hm
    rw [List.mem_singleton.mp hm]
    trivial
  · decide +kernel

end GoNoise.NTCP2.FramedStream
