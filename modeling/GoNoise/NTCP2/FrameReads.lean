import GoNoise.Library.MaskedFrames
import GoNoise.NTCP2.Framing

/-!
# `ntcp2/conn_framing.go`: the reader and the borders of the frames

A `Read` that fails leaves the connection broken, or it has taken whole frames from the stream and
the chain of masks has moved on once a frame. There is one exception: the stream fails after the
first of the two bytes of a length.
-/

namespace GoNoise.NTCP2.FrameReads

open BigEndian ByteStream Conn Handshake MaskedFrames Noise Trace NTCP2Conn

variable {κ : Type} (L : ModifierLibrary) (custom : HandshakeModifier κ) (S : Suite Oops)
  (junk : Option UInt16) (k : ℕ)

inductive ReadsFrame (slm : LengthModifier) (nc : NTCP2Conn κ) :
    Outcome Oops Bytes × NTCP2Conn κ → Prop
  | waits (nc' : NTCP2Conn κ) : ReadsFrame slm nc (.waiting, nc')
  | breaks (e : Oops) (nc' : NTCP2Conn κ) (broken : nc'.broken = true) :
      ReadsFrame slm nc (.error e, nc')
  | lengthFailed (l : Bytes) (e e' : Oops) (t : Transport) (length : l.length < 2)
      (split : items nc.noiseConn.underlying.arrivals = l.map .ok ++ .error e :: items t.arrivals)
      (consumed : t.consumed = nc.noiseConn.underlying.consumed ++ l) :
      ReadsFrame slm nc (.error e', nc.setUnderlying t)
  | frame (body : Bytes) (outcome : Outcome Oops Bytes) (nc' : NTCP2Conn κ)
      (consumed : nc'.noiseConn.underlying.consumed = nc.noiseConn.underlying.consumed ++
        frame (slm.nextInboundMask L.sipHash).1 body)
      (chain : nc'.lengthObfuscator = some (slm.nextInboundMask L.sipHash).2) :
      ReadsFrame slm nc (outcome, nc')

/-- The modifiers and the buffer take nothing from the stream. -/
theorem deliverPlaintext_keeps (plaintext : Bytes) (nc : NTCP2Conn κ) :
    (deliverPlaintext L custom k plaintext nc).2.noiseConn.underlying =
        nc.noiseConn.underlying ∧
      (deliverPlaintext L custom k plaintext nc).2.lengthObfuscator =
        nc.lengthObfuscator := by
  dsimp only [deliverPlaintext, NoiseConn.applyInbound]
  generalize ModifierChain.modifyInbound (ntcp2Modifiers L custom) .data plaintext
    nc.noiseConn.modifiers = result
  obtain ⟨e | plaintext, ms⟩ := result
  · exact ⟨rfl, rfl⟩
  · dsimp only [bufferPlaintext]
    split_ifs <;> exact ⟨rfl, rfl⟩

theorem decrypt_underlying {μ : Type} (encrypted : Bytes) (nc : NoiseConn μ) :
    (nc.decrypt S encrypted).2.underlying = nc.underlying := by
  unfold NoiseConn.decrypt NoiseConn.decryptData
  split
  · rfl
  · split <;> rfl

theorem broken_handleAEADError (nc : NTCP2Conn κ) :
    (nc.handleAEADError junk).broken = true := rfl

theorem readAndDecryptFrame_cases (frameLen : UInt16) (nc : NTCP2Conn κ) :
    (∃ nc', nc.readAndDecryptFrame S junk frameLen = (.waiting, nc')) ∨
    (∃ e nc', nc.readAndDecryptFrame S junk frameLen = (.error e, nc') ∧ nc'.broken = true) ∨
    ∃ body plaintext nc', nc.readAndDecryptFrame S junk frameLen = (.ok plaintext, nc') ∧
      body.length = frameLen.toNat ∧
      nc'.noiseConn.underlying.consumed = nc.noiseConn.underlying.consumed ++ body ∧
      nc'.lengthObfuscator = nc.lengthObfuscator := by
  have hreads := Transport.readsFull frameLen.toNat nc.noiseConn.underlying
  unfold readAndDecryptFrame
  generalize nc.noiseConn.underlying.readFull frameLen.toNat = result at hreads
  cases hreads with
  | waits l t _ _ => exact .inl ⟨_, rfl⟩
  | failed l e t _ _ _ _ => exact .inr (.inl ⟨_, _, rfl, rfl⟩)
  | full body t length split consumed sent =>
    dsimp only
    have hkeeps := decrypt_underlying S body (nc.setUnderlying t).noiseConn
    generalize (nc.setUnderlying t).noiseConn.decrypt S body = result at hkeeps
    obtain ⟨e | plaintext, noiseConn⟩ := result
    · exact .inr (.inl ⟨_, _, rfl, broken_handleAEADError ..⟩)
    · refine .inr (.inr ⟨body, plaintext, _, rfl, length, ?_, rfl⟩)
      exact (congrArg Transport.consumed hkeeps).trans consumed

theorem readsFrame (slm : LengthModifier) (nc : NTCP2Conn κ) :
    ReadsFrame L slm nc (nc.readFramed L custom S junk slm k) := by
  unfold readFramed
  cases nc.guardReadNonce with
  | some e => exact .breaks _ _ rfl
  | none =>
    have hlength := Transport.readsFull frameLengthFieldSize nc.noiseConn.underlying
    generalize hread : nc.noiseConn.underlying.readFull frameLengthFieldSize = result at hlength
    cases hlength with
    | waits l t _ _ =>
      have hcall : nc.readObfuscatedFrameLength L junk slm = (.waiting, nc.setUnderlying t) := by
        simp only [readObfuscatedFrameLength, hread]
      rw [Call.bind_apply_waiting hcall]
      exact .waits _
    | failed l e t length split consumed sent =>
      rw [Call.bind_apply_error (by simp only [readObfuscatedFrameLength, hread]; rfl)]
      exact .lengthFailed l e _ t length split consumed
    | full header t length split consumed sent =>
      by_cases hsmall : (uint16 header ^^^ (slm.nextInboundMask L.sipHash).1).toNat <
          minDataPhaseFrameSize
      · rw [Call.bind_apply_error (by
          simp only [readObfuscatedFrameLength, hread, if_pos hsmall]; rfl)]
        exact .breaks _ _ (broken_handleAEADError ..)
      rw [Call.bind_apply_ok (by
        simp only [readObfuscatedFrameLength, hread, if_neg hsmall]; rfl)]
      obtain ⟨nc', hbody⟩ | ⟨e, nc', hbody, hbroken⟩ | ⟨body, plaintext, nc', hbody, hlen, htaken,
        hchain⟩ := readAndDecryptFrame_cases S junk
          (uint16 header ^^^ (slm.nextInboundMask L.sipHash).1)
          { nc.setUnderlying t with lengthObfuscator := some (slm.nextInboundMask L.sipHash).2 }
      · rw [Call.bind_apply_waiting hbody]
        exact .waits _
      · rw [Call.bind_apply_error hbody]
        exact .breaks _ _ hbroken
      · rw [Call.bind_apply_ok hbody]
        obtain ⟨hstream, hobfuscator⟩ := deliverPlaintext_keeps L custom k plaintext nc'
        refine .frame body _ _ ?_ (hobfuscator.trans hchain)
        refine (congrArg Transport.consumed hstream).trans ?_
        rw [htaken, ← append_eq_frame length hlen, ← List.append_assoc, ← consumed]
        rfl

/-! ## Runs -/

/-- What happens at the reader. -/
inductive Event
  /-- a piece of the stream arrives, or the stream fails -/
  | deliver (a : Arrival Oops)
  | read (deadline : Option Oops) (junk : Option UInt16) (k : ℕ)

/-- One step. A `Read` that waits is made again when more has arrived. -/
def step (nc : NTCP2Conn κ) : Event → NTCP2Conn κ
  | .deliver a => nc.setUnderlying { nc.noiseConn.underlying with
      arrivals := nc.noiseConn.underlying.arrivals ++ [a] }
  | .read deadline junk k =>
    match nc.read L custom S deadline junk k with
    | (.waiting, _) => nc
    | (_, nc') => nc'

/-- Since the chain stood at `start` and `consumed` had been taken from the stream, whole frames
were taken, and the chain has moved on once a frame. -/
def Aligned (start : LengthModifier) (consumed : Bytes) (nc : NTCP2Conn κ) : Prop :=
  ∃ bodies : List Bytes,
    nc.noiseConn.underlying.consumed =
        consumed ++ wire (nextMask L.sipHash start.inboundKeys) start.inboundIV bodies ∧
      nc.lengthObfuscator = some { start with
        inboundIV := advance (nextMask L.sipHash start.inboundKeys) start.inboundIV bodies.length }

/-- The stream fails after one byte. -/
def CutsLength : List (Except Oops UInt8) → Prop
  | .ok _ :: .error _ :: _ => True
  | _ => False

instance : DecidablePred CutsLength
  | .ok _ :: .error _ :: _ => inferInstanceAs (Decidable True)
  | [] => inferInstanceAs (Decidable False)
  | [.ok _] => inferInstanceAs (Decidable False)
  | .error _ :: _ => inferInstanceAs (Decidable False)
  | .ok _ :: .ok _ :: _ => inferInstanceAs (Decidable False)

/-- When a `Read` begins with a length, the stream does not fail between its two bytes. -/
def WholeLength (nc : NTCP2Conn κ) : Event → Prop
  | .deliver _ => True
  | .read .. => nc.broken = false → nc.readBuffer = [] →
      ¬ CutsLength (items nc.noiseConn.underlying.arrivals)

instance (nc : NTCP2Conn κ) : DecidablePred (WholeLength nc)
  | .deliver _ => inferInstanceAs (Decidable True)
  | .read .. => inferInstanceAs (Decidable (nc.broken = false → nc.readBuffer = [] →
      ¬ CutsLength (items nc.noiseConn.underlying.arrivals)))

section
variable {L} {start : LengthModifier} {consumed : Bytes} {nc : NTCP2Conn κ} {nc' : NTCP2Conn κ}

/-- The chain and what was taken from the stream have not changed. -/
theorem Aligned.of_eq (h : Aligned L start consumed nc)
    (hconsumed : nc'.noiseConn.underlying.consumed = nc.noiseConn.underlying.consumed)
    (hchain : nc'.lengthObfuscator = nc.lengthObfuscator) : Aligned L start consumed nc' := by
  obtain ⟨bodies, htaken, hstart⟩ := h
  exact ⟨bodies, hconsumed.trans htaken, hchain.trans hstart⟩

theorem Aligned.frame (h : Aligned L start consumed nc) {slm : LengthModifier}
    (hslm : nc.lengthObfuscator = some slm) {body : Bytes}
    (hconsumed : nc'.noiseConn.underlying.consumed = nc.noiseConn.underlying.consumed ++
      MaskedFrames.frame (slm.nextInboundMask L.sipHash).1 body)
    (hchain : nc'.lengthObfuscator = some (slm.nextInboundMask L.sipHash).2) :
    Aligned L start consumed nc' := by
  obtain ⟨bodies, htaken, hstart⟩ := h
  cases hslm.symm.trans hstart
  refine ⟨bodies ++ [body], ?_, ?_⟩
  · rw [hconsumed, htaken, wire_concat, List.append_assoc]
    rfl
  · rw [hchain, List.length_append, List.length_singleton, advance_succ']
    rfl

theorem eq_nil_of_lengthFailed {as : List (Arrival Oops)} {l : Bytes} {e : Oops}
    {tail : List (Except Oops UInt8)} (hlength : l.length < 2)
    (hsplit : items as = l.map .ok ++ .error e :: tail) (hwhole : ¬ CutsLength (items as)) :
    l = [] := by
  rw [hsplit] at hwhole
  match l with
  | [] => rfl
  | [b] => exact absurd trivial hwhole
  | _ :: _ :: _ => exact absurd hlength (by simp)

theorem aligned_read (h : nc.broken = false → Aligned L start consumed nc)
    {deadline : Option Oops} {junk : Option UInt16} {k : ℕ}
    (hwhole : WholeLength nc (.read deadline junk k)) :
    (step L custom S nc (.read deadline junk k)).broken = false →
      Aligned L start consumed (step L custom S nc (.read deadline junk k)) := by
  dsimp only [step]
  cases hbroken : nc.broken with
  | true =>
    rw [read_of_broken hbroken]
    exact fun hnot => absurd (hbroken.symm.trans hnot) (by decide)
  | false =>
    have haligned := h hbroken
    obtain ⟨slm, hslm⟩ : ∃ slm, nc.lengthObfuscator = some slm :=
      haligned.elim fun _ h => ⟨_, h.2⟩
    by_cases hbuffer : nc.readBuffer = []
    · have hreads := readsFrame L custom S junk k slm nc
      rw [read_of_empty hbroken hslm hbuffer]
      generalize nc.readFramed L custom S junk slm k = result at hreads
      cases hreads with
      | waits nc' => exact fun _ => haligned
      | breaks e nc' hbreaks => exact fun hnot => absurd (hbreaks.symm.trans hnot) (by decide)
      | lengthFailed l e e' t length split taken =>
        obtain rfl := eq_nil_of_lengthFailed length split (hwhole hbroken hbuffer)
        exact fun _ => haligned.of_eq (taken.trans (List.append_nil _)) rfl
      | frame body outcome nc' taken chain =>
        have hnext := haligned.frame hslm taken chain
        cases outcome with
        | ok l => exact fun _ => hnext
        | error e => exact fun _ => hnext
        | waiting => exact fun _ => haligned
    · rw [read_of_buffer hbroken hslm hbuffer]
      exact fun _ => haligned.of_eq rfl rfl

/-- **The reader stays aligned**, as long as the stream does not fail between the two bytes of a
length. -/
theorem aligned_exec (hstart : nc.lengthObfuscator = some start) {es : List Event}
    (hwhole : Always (step L custom S) WholeLength nc es)
    (hbroken : (exec (step L custom S) nc es).broken = false) :
    Aligned L start nc.noiseConn.underlying.consumed (exec (step L custom S) nc es) := by
  have hstep : ∀ s (event : Event),
      (s.broken = false → Aligned L start nc.noiseConn.underlying.consumed s) →
      WholeLength s event → (step L custom S s event).broken = false →
        Aligned L start nc.noiseConn.underlying.consumed (step L custom S s event) := by
    intro s event hs hevent
    cases event with
    | deliver a => exact fun hnot => (hs hnot).of_eq rfl rfl
    | read deadline junk k => exact aligned_read custom S hs hevent
  exact exec_induct hstep (fun _ => ⟨[], (List.append_nil _).symm, hstart⟩) hwhole hbroken

end

/-- A frame is read, and a `Read` times out before the length of the next one. -/
theorem aligned_exec_timeout :
    let nc := exec (step testLibrary noCustom numberedSuite) (framedConn [] none)
      [.deliver (.bytes ([0, 22, 1, 2, 3] ++ List.replicate 16 0)), .read none none 4,
        .deliver (.failure (.errorf "i/o timeout")), .read none none 4]
    nc.noiseConn.underlying.consumed.length = 21 ∧
      Aligned testLibrary (newLengthModifier "ntcp2-siphash" (5, 6) 7) [] nc :=
  ⟨by decide, aligned_exec noCustom numberedSuite rfl (by decide) (by decide)⟩

/-- A `Read` times out between the two bytes of a length. It returns an error, the connection is
not broken, and one byte of the frame is gone. -/
theorem not_aligned_cutLength :
    let nc := exec (step testLibrary noCustom numberedSuite) (framedConn [] none)
      [.deliver (.bytes [0]), .deliver (.failure (.errorf "i/o timeout")), .read none none 4]
    nc.broken = false ∧
      ¬ Aligned testLibrary (newLengthModifier "ntcp2-siphash" (5, 6) 7) [] nc := by
  intro nc
  refine ⟨by decide, ?_⟩
  rintro ⟨bodies, hconsumed, -⟩
  have hlength : 1 = (wire (nextMask testLibrary.sipHash (5, 6)) 7 bodies).length :=
    congrArg List.length hconsumed
  cases bodies with
  | nil => cases hlength
  | cons body bodies =>
    rw [wire, List.length_append, length_frame] at hlength
    omega

end GoNoise.NTCP2.FrameReads
