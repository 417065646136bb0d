import GoNoise.Conn.NoiseConn
import GoNoise.Handshake.BasicModifiers
import GoNoise.Library.Traces

/-!
# `conn`: what is written is read

Two established connections face each other. Each seals what it writes, with a length in front, and
the other opens it. Its cipher state moves on by one for each message, and what a `Read` has no room
for waits for the next one.
-/

namespace GoNoise.Conn

open BigEndian ByteStream Handshake Noise Trace NoiseConn Call ModifierChain

/-! ## Streams without failures -/

/-- Reading from a stream that does not fail. `flight` is what has not arrived yet. -/
theorem Transport.readFull_of_stream {t : Transport} {data flight : Bytes}
    (hstream : items t.arrivals ++ flight.map .ok = data.map .ok) (k : ℕ) :
    (∃ t', t.readFull k = (.waiting, t') ∧ data.length < k + flight.length) ∨
    (k ≤ data.length ∧ ∃ t', t.readFull k = (.ok (data.take k), t') ∧
      items t'.arrivals ++ flight.map .ok = (data.drop k).map .ok ∧ t'.sent = t.sent) := by
  have hreads := readsFull k t
  generalize t.readFull k = result at hreads
  cases hreads with
  | full l t' length split consumed sent =>
    rw [split, List.append_assoc] at hstream
    have hk : k ≤ data.length := by grind [List.length_append, List.length_map]
    rw [← List.take_append_drop k data, List.map_append] at hstream
    obtain ⟨hl, hrest⟩ := List.append_inj hstream (by simp [length, hk])
    obtain rfl : l = data.take k := List.map_injective_iff.mpr (fun _ _ h => by injection h) hl
    exact .inr ⟨hk, t', rfl, hrest, sent⟩
  | failed l e t' length split consumed sent =>
    -- there is no failure among the items
    have hmem : Except.error e ∈ data.map (Except.ok : UInt8 → Except Oops UInt8) := by grind
    simp at hmem
  | waits l t' length split =>
    refine .inl ⟨t', rfl, ?_⟩
    have hlength := congrArg List.length hstream
    rw [split] at hlength
    simp only [List.length_append, List.length_map] at hlength
    omega

/-! ## Messages -/

/-- A message as `writeFramedMessage` sends it. -/
def framed (ciphertext : Bytes) : Bytes :=
  putUint16 (UInt16.ofNat ciphertext.length) ++ ciphertext

section
variable {μ : Type} {cs : CipherState} {growth : ℕ} {ms : List μ} {nc : NoiseConn μ}
  {queue : List (Bytes × Bytes)} {ready : List μ → Prop}

/-- A message is read, or it is not there yet. -/
theorem readFramedMessage_of_stream {ciphertext rest flight : Bytes} (hpos : 0 < ciphertext.length)
    (hmax : ciphertext.length ≤ maxNoiseMessageSize)
    (hstream : items nc.underlying.arrivals ++ flight.map .ok =
      (framed ciphertext ++ rest).map .ok) :
    (∃ nc', NoiseConn.readFramedMessage nc = (.waiting, nc') ∧ flight ≠ []) ∨
    ∃ t, NoiseConn.readFramedMessage nc = (.ok ciphertext, { nc with underlying := t }) ∧
      items t.arrivals ++ flight.map .ok = rest.map .ok ∧ t.sent = nc.underlying.sent := by
  have hlong : lengthFieldSize = (putUint16 (UInt16.ofNat ciphertext.length)).length := by
    rw [length_putUint16, lengthFieldSize]
  have hlen : (uint16 (putUint16 (UInt16.ofNat ciphertext.length))).toNat = ciphertext.length := by
    rw [uint16_putUint16, UInt16.toNat_ofNat', Nat.mod_eq_of_lt]
    rw [maxNoiseMessageSize] at hmax
    omega
  unfold NoiseConn.readFramedMessage
  rw [framed, List.append_assoc] at hstream
  obtain ⟨t, hread, hwait⟩ | ⟨_, t, hread, hstream', hsent⟩ :=
    Transport.readFull_of_stream hstream lengthFieldSize
  · refine .inl ⟨{ nc with underlying := t }, Call.bind_apply_waiting ?_, ?_⟩
    · simp only [NoiseConn.readFull, hread]
    · grind
  rw [hlong, List.take_left, ← hlong] at hread
  rw [hlong, List.drop_left] at hstream'
  have hheader : NoiseConn.readFull lengthFieldSize (fun _ e =>
      (e.wrapf "failed to read message length prefix").wrap "READ_LENGTH_FAILED" "noise" []) nc =
      (.ok (putUint16 (UInt16.ofNat ciphertext.length)), { nc with underlying := t }) := by
    simp only [NoiseConn.readFull, hread]
  rw [Call.bind_apply_ok hheader, hlen, if_neg hpos.ne']
  obtain ⟨t', hread', hwait⟩ | ⟨_, t', hread', hstream'', hsent'⟩ :=
    Transport.readFull_of_stream hstream' ciphertext.length
  · grind [NoiseConn.readFull, List.length_append]
  · grind [List.take_left, NoiseConn.readFull, List.drop_left]

theorem readFramedMessage_of_empty (hempty : items nc.underlying.arrivals = []) :
    ∃ nc', NoiseConn.readFramedMessage nc = (.waiting, nc') := by
  have hstream : items nc.underlying.arrivals ++ ([] : Bytes).map .ok = ([] : Bytes).map .ok := by
    rw [hempty]
    rfl
  obtain ⟨t, hread, -⟩ | ⟨hle, -⟩ := Transport.readFull_of_stream hstream lengthFieldSize
  · refine ⟨{ nc with underlying := t }, Call.bind_apply_waiting ?_⟩
    simp only [NoiseConn.readFull, hread]
  · exact absurd hle (by decide)

/-- The modifiers of the two ends match. A chain that is `ready` stays ready; what it makes of data
that is sent has at most `growth` bytes more, and a ready chain at the other end makes the data of
it again, as long as it fits into one message. -/
structure Matched (M : HandshakeModifier μ) (growth : ℕ) (ready : List μ → Prop) : Prop where
  outbound : ∀ ms, ready ms → ∀ b, ready (ModifierChain.modifyOutbound M .data b ms).2
  length_le : ∀ ms, ready ms → ∀ b out,
    (ModifierChain.modifyOutbound M .data b ms).1 = .ok out → out.length ≤ b.length + growth
  inbound : ∀ ms, ready ms → ∀ rs, ready rs → ∀ b out,
    b.length + growth + tagSize ≤ maxNoiseMessageSize →
    (ModifierChain.modifyOutbound M .data b ms).1 = .ok out →
    ∃ rs', ModifierChain.modifyInbound M .data out rs = (.ok b, rs') ∧ ready rs'

theorem matched_nil (M : HandshakeModifier μ) : Matched M 0 (· = []) where
  outbound _ hms _ := by rw [hms]; rfl
  length_le _ hms b out h := by
    rw [hms] at h
    cases h
    exact Nat.le_refl _
  inbound _ hms _ hrs b out _ h := by
    rw [hms] at h
    cases h
    exact ⟨[], by rw [hrs]; rfl, rfl⟩

variable (S : Suite Oops) (M : HandshakeModifier μ)

/-! ## `Write` -/

/-- What the underlying connection makes of a message: it takes all of it, or it refuses it before
the first byte. -/
def transportOutcomes : Option Oops → Option (ℕ × Option Oops) × Option (ℕ × Option Oops)
  | none => (none, none)
  | some e => (some (0, some e), none)

/-- What a `Write` does, with the cipher state `cs`. -/
inductive Writes (transport : Option Oops) (b : Bytes) (w : NoiseConn μ) (cs : CipherState) :
    (ℕ × Option Oops) × NoiseConn μ → Prop
  | refused (e : Oops) (ms : List μ)
      (modifiers : ms = w.modifiers ∨
        ms = (ModifierChain.modifyOutbound M .data b w.modifiers).2) :
      Writes transport b w cs ((0, some e), { w with modifiers := ms })
  | sent (out c : Bytes)
      (modified : (ModifierChain.modifyOutbound M .data b w.modifiers).1 = .ok out)
      (sealed : S.encrypt cs.k cs.n [] out = .ok c) (fits : c.length ≤ maxNoiseMessageSize) :
      Writes transport b w cs ((b.length, none), { w with
        modifiers := (ModifierChain.modifyOutbound M .data b w.modifiers).2
        sendCipherState := some { cs with n := cs.n + 1 }
        encryptions := w.encryptions ++ [(out, c)]
        underlying := { w.underlying with sent := w.underlying.sent ++ framed c } })
  | lost (e : Oops) (out c : Bytes)
      (modified : (ModifierChain.modifyOutbound M .data b w.modifiers).1 = .ok out)
      (sealed : S.encrypt cs.k cs.n [] out = .ok c)
      (reason : maxNoiseMessageSize < c.length ∨ transport.isSome) :
      Writes transport b w cs ((0, some e), { w with
        modifiers := (ModifierChain.modifyOutbound M .data b w.modifiers).2
        sendCipherState := some { cs with n := cs.n + 1 }
        encryptions := w.encryptions ++ [(out, c)] })

theorem writes {w : NoiseConn μ} (hcs : w.validateWriteState = .ok cs)
    (deadline transport : Option Oops) (b : Bytes) :
    Writes S M transport b w cs (w.write S M deadline (transportOutcomes transport) b) := by
  unfold write
  rw [hcs]
  generalize (if 0 < w.config.writeTimeout then deadline else none) = deadline
  cases deadline with
  | some e => exact .refused _ w.modifiers (.inl rfl)
  | none =>
    dsimp only [applyOutbound]
    generalize hchain : modifyOutbound M .data b w.modifiers = result
    obtain ⟨e | out, ms⟩ := result
    · exact .refused _ ms (.inr (by rw [hchain]))
    dsimp only [encryptData, CipherState.encrypt]
    cases hsealed : S.encrypt cs.k cs.n [] out with
    | error e => exact .refused _ ms (.inr (by rw [hchain]))
    | ok c =>
      have hmodified : (modifyOutbound M .data b w.modifiers).1 = .ok out := by
        rw [hchain]
      have hms : ms = (modifyOutbound M .data b w.modifiers).2 := by rw [hchain]
      subst hms
      dsimp only [writeFramedMessage]
      split_ifs with hlarge
      · exact .lost _ out c hmodified hsealed (.inl hlarge)
      cases transport with
      | some e =>
        dsimp only [transportOutcomes]
        rw [Transport.write, Nat.zero_min, List.take_zero, List.append_nil]
        exact .lost _ out c hmodified hsealed (.inr rfl)
      | none =>
        dsimp only [transportOutcomes, Transport.write]
        rw [List.append_assoc, ← framed]
        exact .sent out c hmodified hsealed (Nat.le_of_not_lt hlarge)

/-! ## `Read` -/

/-- A message on its way: the data that was written, and the ciphertext. It takes a reader from one
cipher state to the next. -/
structure Opens (ready : List μ → Prop) (cs : CipherState) (m : Bytes × Bytes) (cs' : CipherState) :
    Prop where
  pos : 0 < m.2.length
  le_max : m.2.length ≤ maxNoiseMessageSize
  opened : ∃ out, cs.decrypt S m.2 = (.ok out, cs') ∧
    ∀ rs, ready rs → ∃ rs', ModifierChain.modifyInbound M .data out rs = (.ok m.1, rs') ∧ ready rs'

variable {S M} in
theorem Opens.unique {cs₁ cs₂ : CipherState} {m : Bytes × Bytes} (h₁ : Opens S M ready cs m cs₁)
    (h₂ : Opens S M ready cs m cs₂) : cs₁ = cs₂ := by
  obtain ⟨out₁, hdecrypt₁, -⟩ := h₁.opened
  obtain ⟨out₂, hdecrypt₂, -⟩ := h₂.opened
  rw [hdecrypt₁] at hdecrypt₂
  exact congrArg Prod.snd hdecrypt₂

/-- The messages of a queue as they are sent. -/
def wireOf (queue : List (Bytes × Bytes)) : Bytes := queue.flatMap fun m => framed m.2

/-- What a `Read` does, with the cipher state `cs`, if the messages of `queue` are on their way and
`flight` has not arrived yet. -/
inductive Receives (ready : List μ → Prop) (deadline : Option Oops) (k : ℕ) (r : NoiseConn μ)
    (cs : CipherState) (queue : List (Bytes × Bytes)) (flight : Bytes) :
    Outcome Oops Bytes × NoiseConn μ → Prop
  | refused (e : Oops) (expired : deadline.isSome) :
      Receives ready deadline k r cs queue flight (.error e, r)
  | pending (kept : r.pendingPlaintext ≠ []) :
      Receives ready deadline k r cs queue flight (.ok (r.pendingPlaintext.take k),
        { r with pendingPlaintext := r.pendingPlaintext.drop k })
  | waits (r' : NoiseConn μ) (drained : r.pendingPlaintext = [])
      (short : flight ≠ [] ∨ queue = []) :
      Receives ready deadline k r cs queue flight (.waiting, r')
  | message (b c : Bytes) (queue' : List (Bytes × Bytes)) (cs' : CipherState) (rs : List μ)
      (t : Transport) (drained : r.pendingPlaintext = []) (first : queue = (b, c) :: queue')
      (opens : Opens S M ready cs (b, c) cs') (modifiers : ready rs)
      (stream : items t.arrivals ++ flight.map .ok = (wireOf queue').map .ok)
      (sent : t.sent = r.underlying.sent) :
      Receives ready deadline k r cs queue flight (.ok (b.take k), { r with
        underlying := t
        recvCipherState := some cs'
        modifiers := rs
        pendingPlaintext := b.drop k })

variable {S M}

theorem receives {r : NoiseConn μ} {sendCs : CipherState} {flight : Bytes}
    (hcs : r.validateReadState = .ok cs) (hready : ready r.modifiers)
    (hpath : Path (Opens S M ready) cs queue sendCs)
    (hstream : items r.underlying.arrivals ++ flight.map .ok = (wireOf queue).map .ok)
    (deadline : Option Oops) (k : ℕ) :
    Receives S M ready deadline k r cs queue flight (r.read S M deadline k) := by
  unfold NoiseConn.read
  rw [Call.bind_apply_ok (Call.get_apply r), hcs]
  have hstart : Call.ofExcept (.ok cs) r = ((.ok cs : Outcome Oops CipherState), r) := rfl
  rw [Call.bind_apply_ok hstart]
  generalize hdeadline : (if 0 < r.config.readTimeout then deadline else none) = expired
  cases expired with
  | some e =>
    refine .refused _ ?_
    split_ifs at hdeadline
    rw [hdeadline]
    rfl
  | none =>
    dsimp only
    by_cases hpending : r.pendingPlaintext ≠ []
    · rw [if_pos hpending]
      exact .pending hpending
    rw [if_neg hpending]
    rw [not_not] at hpending
    cases queue with
    | nil =>
      have hempty : items r.underlying.arrivals = [] := (List.append_eq_nil_iff.mp hstream).1
      obtain ⟨r', hread⟩ := readFramedMessage_of_empty hempty
      rw [Call.bind_apply_waiting hread]
      exact .waits r' hpending (.inr rfl)
    | cons m queue =>
      obtain ⟨cs', hopens, -⟩ := path_cons.mp hpath
      rw [wireOf, List.flatMap_cons, ← wireOf] at hstream
      obtain ⟨r', hread, hflight⟩ | ⟨t, hread, hrest, hsent⟩ :=
        readFramedMessage_of_stream hopens.pos hopens.le_max hstream
      · rw [Call.bind_apply_waiting hread]
        exact .waits r' hpending (.inl hflight)
      · rw [Call.bind_apply_ok hread]
        obtain ⟨out, hdecrypt, hundo⟩ := hopens.opened
        obtain ⟨rs, hinbound, hrs⟩ := hundo r.modifiers hready
        have hopened : Call.ofState (NoiseConn.decryptData S cs m.2) { r with underlying := t } =
            (.ok out, { r with underlying := t, recvCipherState := some cs' }) := by
          rw [Call.ofState, NoiseConn.decryptData, hdecrypt]
          rfl
        have hundone : Call.ofState (NoiseConn.applyInbound M .data out)
            { r with underlying := t, recvCipherState := some cs' } =
            (.ok m.1, { r with underlying := t, recvCipherState := some cs', modifiers :=
              rs }) := by
          rw [Call.ofState, NoiseConn.applyInbound, hinbound]
          rfl
        rw [Call.bind_apply_ok hopened, Call.bind_apply_ok hundone]
        exact .message m.1 m.2 queue cs' rs t hpending rfl hopens hrs hrest hsent

theorem validateWriteState_eq_ok :
    nc.validateWriteState = .ok cs ↔ nc.state = .established ∧ nc.sendCipherState = some cs := by
  unfold validateWriteState
  cases nc.state <;> cases nc.sendCipherState <;> simp

theorem validateReadState_eq_ok :
    nc.validateReadState = .ok cs ↔ nc.state = .established ∧ nc.recvCipherState = some cs := by
  unfold validateReadState
  cases nc.state <;> cases nc.recvCipherState <;> simp

theorem wireOf_append (queue queue' : List (Bytes × Bytes)) :
    wireOf (queue ++ queue') = wireOf queue ++ wireOf queue' := List.flatMap_append

theorem opens_of_sent (hS : S.Lawful) (hM : Matched M growth ready) (hready : ready ms)
    {b out c : Bytes} (hfits : b.length + growth + tagSize ≤ maxNoiseMessageSize)
    (hmodified : (modifyOutbound M .data b ms).1 = .ok out)
    (hsealed : S.encrypt cs.k cs.n [] out = .ok c) :
    Opens S M ready cs (b, c) { cs with n := cs.n + 1 } where
  pos := by
    rw [hS.length_encrypt hsealed, tagSize]
    omega
  le_max := by
    have hout := hM.length_le ms hready b out hmodified
    rw [hS.length_encrypt hsealed]
    omega
  opened := ⟨out, CipherState.decrypt_of_encrypt hS hsealed, fun rs hrs =>
    hM.inbound ms hready rs hrs b out hfits hmodified⟩

theorem length_le_of_sealed (hS : S.Lawful) (hM : Matched M growth ready) (hready : ready ms)
    {b out c : Bytes} (hfits : b.length + growth + tagSize ≤ maxNoiseMessageSize)
    (hmodified : (modifyOutbound M .data b ms).1 = .ok out)
    (hsealed : S.encrypt cs.k cs.n [] out = .ok c) : c.length ≤ maxNoiseMessageSize :=
  (opens_of_sent hS hM hready hfits hmodified hsealed).le_max

/-! ## Two connections -/

/-- One end of the stream, with its history. -/
structure End (μ : Type) where
  conn : NoiseConn μ
  /-- how many of the bytes that the other end has sent have arrived here -/
  delivered : ℕ
  /-- what the writes that succeeded were given -/
  written : Bytes
  returned : Bytes

abbrev Pair (μ : Type) := Bool → End μ

/-- What happens at one of the ends. -/
inductive Event
  | write (side : Bool) (deadline : Option Oops) (b : Bytes)
  /-- at most `n` bytes of what the other end has sent arrive, in one piece -/
  | deliver (side : Bool) (n : ℕ)
  | read (side : Bool) (deadline : Option Oops) (k : ℕ)

section
variable (S M)

/-- `Write`, on a transport that does not fail. -/
def End.write (deadline : Option Oops) (b : Bytes) (x : End μ) : End μ :=
  let ((_, err), conn) := x.conn.write S M deadline (transportOutcomes none) b
  { x with conn := conn, written := if err.isNone then x.written ++ b else x.written }

/-- A piece of the stream arrives. -/
def End.receive (piece : Bytes) (x : End μ) : End μ :=
  { x with
    conn := { x.conn with underlying := { x.conn.underlying with
      arrivals := x.conn.underlying.arrivals ++ [.bytes piece] } }
    delivered := x.delivered + piece.length }

/-- `Read`. A call that waits is made again when more has arrived. -/
def End.read (deadline : Option Oops) (k : ℕ) (x : End μ) : End μ :=
  match x.conn.read S M deadline k with
  | (.ok l, conn) => { x with conn := conn, returned := x.returned ++ l }
  | (.error _, conn) => { x with conn := conn }
  | (.waiting, _) => x

/-- What `w` has sent and `r` has not received. -/
def flight (w r : End μ) : Bytes := w.conn.underlying.sent.drop r.delivered

def step (p : Pair μ) : Event → Pair μ
  | .write side deadline b => Function.update p side ((p side).write S M deadline b)
  | .deliver side n =>
    Function.update p side ((p side).receive ((flight (p !side) (p side)).take n))
  | .read side deadline k => Function.update p side ((p side).read S M deadline k)

end

variable (S M) in
/-- One direction. `queue` is the messages that `w` has sent and `r` has not read. -/
structure Link (ready : List μ → Prop) (w r : End μ) (queue : List (Bytes × Bytes)) : Prop where
  ready_writer : ready w.conn.modifiers
  ready_reader : ready r.conn.modifiers
  path : ∃ cs sendCs, r.conn.validateReadState = .ok cs ∧ w.conn.validateWriteState = .ok sendCs ∧
    Path (Opens S M ready) cs queue sendCs
  stream : items r.conn.underlying.arrivals ++ (flight w r).map .ok = (wireOf queue).map .ok
  delivered_le : r.delivered ≤ w.conn.underlying.sent.length
  conserved : r.returned ++ r.conn.pendingPlaintext ++ queue.flatMap Prod.fst = w.written

namespace Link

variable {growth : ℕ} {ready : List μ → Prop} {w r : End μ} {queue : List (Bytes × Bytes)}

theorem write (hS : S.Lawful) (hM : Matched M growth ready) (h : Link S M ready w r queue)
    (deadline : Option Oops) {b : Bytes}
    (hfits : b.length + growth + tagSize ≤ maxNoiseMessageSize) :
    ∃ queue', Link S M ready (w.write S M deadline b) r queue' := by
  obtain ⟨cs, sendCs, hread, hsend, hpath⟩ := h.path
  have hstate := (validateWriteState_eq_ok.mp hsend).1
  have hwrites := writes S M hsend deadline none b
  unfold End.write
  generalize w.conn.write S M deadline (transportOutcomes none) b = result at hwrites
  cases hwrites with
  | refused e ms modifiers =>
    refine ⟨queue, ⟨?_, h.ready_reader, ⟨cs, sendCs, hread, hsend, hpath⟩, h.stream, h.delivered_le,
      h.conserved⟩⟩
    rcases modifiers with rfl | rfl
    · exact h.ready_writer
    · exact hM.outbound _ h.ready_writer b
  | sent out c modified sealed fits =>
    have hopens := opens_of_sent hS hM h.ready_writer hfits modified sealed
    refine ⟨queue ++ [(b, c)], ⟨hM.outbound _ h.ready_writer b, h.ready_reader,
      ⟨cs, _, hread, validateWriteState_eq_ok.mpr ⟨hstate, rfl⟩, hpath.concat hopens⟩, ?_, ?_, ?_⟩⟩
    · rw [flight, List.drop_append_of_le_length h.delivered_le, List.map_append,
        ← List.append_assoc,
        ← flight, h.stream, ← List.map_append, wireOf_append]
      rw [wireOf, wireOf, List.flatMap_singleton]
    · exact h.delivered_le.trans (by rw [List.length_append]; omega)
    · rw [List.flatMap_append, List.flatMap_singleton, ← List.append_assoc, h.conserved]
      rfl
  | lost e out c modified sealed reason =>
    have hle := length_le_of_sealed hS hM h.ready_writer hfits modified sealed
    exact absurd reason (by simp [hle])

theorem write_reader (hM : Matched M growth ready) (h : Link S M ready w r queue)
    {sendCs : CipherState} (hsend : r.conn.validateWriteState = .ok sendCs)
    (deadline : Option Oops) (b : Bytes) : Link S M ready w (r.write S M deadline b) queue := by
  obtain ⟨cs, sendCs', hread, hsend', hpath⟩ := h.path
  have hready : ready (modifyOutbound M .data b r.conn.modifiers).2 :=
    hM.outbound _ h.ready_reader b
  have hwrites := writes S M hsend deadline none b
  unfold End.write
  generalize r.conn.write S M deadline (transportOutcomes none) b = result at hwrites
  cases hwrites with
  | refused e ms modifiers =>
    refine ⟨h.ready_writer, ?_, ⟨cs, sendCs', hread, hsend', hpath⟩, h.stream, h.delivered_le,
      h.conserved⟩
    rcases modifiers with rfl | rfl
    · exact h.ready_reader
    · exact hready
  | sent =>
    exact ⟨h.ready_writer, hready, ⟨cs, sendCs', hread, hsend', hpath⟩, h.stream, h.delivered_le,
      h.conserved⟩
  | lost =>
    exact ⟨h.ready_writer, hready, ⟨cs, sendCs', hread, hsend', hpath⟩, h.stream, h.delivered_le,
      h.conserved⟩

section
variable (h : Link S M ready w r queue)
include h

theorem receive (n : ℕ) : Link S M ready w (r.receive ((flight w r).take n)) queue := by
  refine ⟨h.ready_writer, h.ready_reader, h.path, ?_, ?_, h.conserved⟩
  · have hflight : flight w (r.receive ((flight w r).take n)) = (flight w r).drop n := by
      rw [flight, End.receive, ← List.drop_drop, ← flight]
      exact List.drop_eq_drop_iff.mpr (by simp)
    rw [hflight, End.receive, items_append, items, items, List.append_nil, List.append_assoc,
      ← List.map_append, List.take_append_drop, h.stream]
  · have hle := h.delivered_le
    have hlen : (flight w r).length = w.conn.underlying.sent.length - r.delivered :=
      List.length_drop
    dsimp only [End.receive]
    rw [List.length_take, hlen]
    omega

theorem receive_writer (piece : Bytes) : Link S M ready (w.receive piece) r queue :=
  { h with }

theorem read (deadline : Option Oops) (k : ℕ) :
    ∃ queue', Link S M ready w (r.read S M deadline k) queue' := by
  obtain ⟨cs, sendCs, hread, hsend, hpath⟩ := h.path
  have hstate := (validateReadState_eq_ok.mp hread).1
  have hreceives := receives hread h.ready_reader hpath h.stream deadline k
  unfold End.read
  generalize r.conn.read S M deadline k = result at hreceives
  cases hreceives with
  | refused e expired => exact ⟨queue, h⟩
  | pending =>
    refine ⟨queue, ⟨h.ready_writer, h.ready_reader, ⟨cs, sendCs, hread, hsend, hpath⟩, h.stream,
      h.delivered_le, ?_⟩⟩
    rw [List.append_assoc r.returned, List.take_append_drop, h.conserved]
  | waits r' drained short => exact ⟨queue, h⟩
  | message b c queue' cs' rs t drained first opens modifiers stream sent =>
    subst first
    obtain ⟨cs'', hopens, hrest⟩ := path_cons.mp hpath
    obtain rfl : cs' = cs'' := opens.unique hopens
    refine ⟨queue', ⟨h.ready_writer, modifiers,
      ⟨cs', sendCs, validateReadState_eq_ok.mpr ⟨hstate, rfl⟩, hsend, hrest⟩, stream,
      h.delivered_le, ?_⟩⟩
    rw [← h.conserved, drained, List.append_nil, List.flatMap_cons]
    rw [List.append_assoc r.returned, List.take_append_drop, List.append_assoc]

theorem read_writer {queue' : List (Bytes × Bytes)} (h' : Link S M ready r w queue')
    (deadline : Option Oops) (k : ℕ) : Link S M ready (w.read S M deadline k) r queue := by
  obtain ⟨cs, sendCs, hread, hsend, hpath⟩ := h.path
  obtain ⟨cs', sendCs', hread', hsend', hpath'⟩ := h'.path
  have hreceives := receives hread' h'.ready_reader hpath' h'.stream deadline k
  unfold End.read
  generalize w.conn.read S M deadline k = result at hreceives
  cases hreceives with
  | refused e expired => exact h
  | pending =>
    exact ⟨h.ready_writer, h.ready_reader, ⟨cs, sendCs, hread, hsend, hpath⟩, h.stream,
      h.delivered_le, h.conserved⟩
  | waits w' drained short => exact h
  | message b c rest cs'' rs t drained first opens modifiers stream sent =>
    refine ⟨modifiers, h.ready_reader, ⟨cs, sendCs, hread, hsend, hpath⟩, ?_, ?_, h.conserved⟩
    · rw [flight, sent, ← flight, h.stream]
    · rw [sent]
      exact h.delivered_le

end

end Link

/-! ## Runs -/

variable (S M) in
/-- Both directions. -/
def Linked (ready : List μ → Prop) (p : Pair μ) : Prop :=
  ∀ side, ∃ queue, Link S M ready (p !side) (p side) queue

/-- One end has changed: it is the reader of one direction and the writer of the other. -/
theorem linked_update {p : Pair μ} {side : Bool} {x : End μ}
    (hreader : ∃ queue, Link S M ready (p !side) x queue)
    (hwriter : ∃ queue, Link S M ready x (p !side) queue) :
    Linked S M ready (Function.update p side x) := by
  intro j
  rcases Bool.eq_or_eq_not j side with rfl | rfl
  · rwa [Function.update_self, Function.update_of_ne (by simp)]
  · rwa [Bool.not_not, Function.update_self, Function.update_of_ne (by simp)]

/-- What is written fits into one message. -/
def Event.Fits (growth : ℕ) : Event → Prop
  | .write _ _ b => b.length + growth + tagSize ≤ maxNoiseMessageSize
  | _ => True

theorem linked_step (hS : S.Lawful) (hM : Matched M growth ready) {p : Pair μ}
    (h : Linked S M ready p) {e : Event}
    (hfits : e.Fits growth) : Linked S M ready (step S M p e) := by
  cases e with
  | write side deadline b =>
    obtain ⟨queue, hin⟩ := h side
    obtain ⟨queue', hout⟩ := h !side
    rw [Bool.not_not] at hout
    obtain ⟨_, _, _, hsend, _⟩ := hout.path
    exact linked_update ⟨queue, hin.write_reader hM hsend deadline b⟩
      (hout.write hS hM deadline hfits)
  | deliver side n =>
    obtain ⟨queue, hin⟩ := h side
    obtain ⟨queue', hout⟩ := h !side
    rw [Bool.not_not] at hout
    exact linked_update ⟨queue, hin.receive n⟩ ⟨queue', hout.receive_writer _⟩
  | read side deadline k =>
    obtain ⟨queue, hin⟩ := h side
    obtain ⟨queue', hout⟩ := h !side
    rw [Bool.not_not] at hout
    exact linked_update (hin.read deadline k) ⟨queue', hout.read_writer hin deadline k⟩

/-- Two connections after the handshake: each sends with the cipher state that the other receives
with, and nothing is on its way. -/
structure Established (p : Pair μ) : Prop where
  state : ∀ side, (p side).conn.state = .established
  cipherStates : ∀ side, ∃ cs, (p !side).conn.sendCipherState = some cs ∧
    (p side).conn.recvCipherState = some cs
  arrivals : ∀ side, (p side).conn.underlying.arrivals = []
  delivered : ∀ side, (p side).delivered = (p !side).conn.underlying.sent.length
  pendingPlaintext : ∀ side, (p side).conn.pendingPlaintext = []
  written : ∀ side, (p side).written = []
  returned : ∀ side, (p side).returned = []

theorem linked_of_established {p : Pair μ} (h : Established p)
    (hready : ∀ side, ready (p side).conn.modifiers) : Linked S M ready p := by
  intro side
  obtain ⟨cs, hsend, hrecv⟩ := h.cipherStates side
  refine ⟨[], hready _, hready _, ⟨cs, cs, validateReadState_eq_ok.mpr ⟨h.state _, hrecv⟩,
    validateWriteState_eq_ok.mpr ⟨h.state _, hsend⟩, .nil cs⟩, ?_, (h.delivered side).le, ?_⟩
  · rw [h.arrivals, flight, h.delivered, List.drop_length]
    rfl
  · rw [h.returned, h.pendingPlaintext, h.written]
    rfl

variable (S M) in
/-- Of what `w` has written, `r` has lost, repeated and reordered nothing. -/
structure Faithful (w r : End μ) : Prop where
  returned_prefix : r.returned <+: w.written
  never_fails : ∀ k e, (r.conn.read S M none k).1 ≠ .error e
  /-- everything has arrived, and a `Read` waits: there is nothing left to return -/
  complete : r.delivered = w.conn.underlying.sent.length →
    ∀ k, (r.conn.read S M none k).1 = .waiting → r.returned = w.written

theorem Link.faithful {w r : End μ} (h : Link S M ready w r queue) : Faithful S M w r := by
  obtain ⟨cs, sendCs, hread, hsend, hpath⟩ := h.path
  have hreceives := receives hread h.ready_reader hpath h.stream none
  refine ⟨⟨_, (List.append_assoc ..).symm.trans h.conserved⟩, fun k e => ?_,
    fun hdelivered k hwaits => ?_⟩
  · have hk := hreceives k
    generalize r.conn.read S M none k = result at hk
    cases hk with
    | refused e expired => cases expired
    | pending => nofun
    | waits => nofun
    | message => nofun
  · have hk := hreceives k
    generalize r.conn.read S M none k = result at hk hwaits
    cases hk with
    | refused => cases hwaits
    | pending => cases hwaits
    | message => cases hwaits
    | waits r' drained short =>
      rcases short with hflight | rfl
      · exact absurd (List.drop_of_length_le hdelivered.ge) hflight
      · rw [← h.conserved, drained, List.append_nil]
        exact (List.append_nil _).symm

/-- What holds of established connections holds after a run whose messages fit. -/
theorem linked_exec (hS : S.Lawful) {growth : ℕ} (hM : Matched M growth ready) {p : Pair μ}
    (hp : Established p) (hready : ∀ side, ready (p side).conn.modifiers) {es : List Event}
    (hfits : Always (step S M) (fun _ e => e.Fits growth) p es) :
    Linked S M ready (exec (step S M) p es) :=
  exec_induct (fun _ _ h hfit => linked_step hS hM h hfit) (linked_of_established hp hready) hfits

theorem Linked.faithful {p : Pair μ} (h : Linked S M ready p) (side : Bool) :
    Faithful S M (p !side) (p side) := by
  obtain ⟨queue, hlink⟩ := h side
  exact hlink.faithful

/-- **The stream is faithful**, whatever is written, however the stream is cut and whatever buffers
are read into. -/
theorem faithful_exec (hS : S.Lawful) {p : Pair μ} (hp : Established p)
    (hmodifiers : ∀ side, (p side).conn.modifiers = []) (es : List Event)
    (hsize : ∀ side deadline b, Event.write side deadline b ∈ es → b.length ≤ 65519) (side : Bool) :
    Faithful S M (exec (step S M) p es !side) (exec (step S M) p es side) := by
  have hfits : Always (step S M) (fun _ e => e.Fits 0) p es := by
    rw [always_iff]
    rintro pre e post rfl
    cases e with
    | write side deadline b => grind [Event.Fits, tagSize, maxNoiseMessageSize]
    | deliver => trivial
    | read => trivial
  exact (linked_exec hS (matched_nil M) hp hmodifiers hfits).faithful side

end

def establishedConn (modifiers : List Modifier) : NoiseConn Modifier where
  underlying := ⟨[], [], []⟩
  config := ⟨"XX", true, [], [], 0, 0, 0, 0, 0, [], []⟩
  modifiers := modifiers
  privateStaticKey := []
  sendCipherState := some ⟨FixedBytes.ofNat 32 7, 0⟩
  recvCipherState := some ⟨FixedBytes.ofNat 32 7, 0⟩
  handshakeState := ⟨⟨[], []⟩, []⟩
  state := .established
  pendingPlaintext := []
  encryptions := []

theorem faithful_exec_inPieces :
    Faithful numberedSuite modifiers
        (exec (step numberedSuite modifiers) (fun _ => ⟨establishedConn [], 0, [], []⟩)
          [.write true none [1, 2, 3], .deliver false 4, .read false none 2, .deliver false 99,
            .read false none 2] true)
        (exec (step numberedSuite modifiers) (fun _ => ⟨establishedConn [], 0, [], []⟩)
          [.write true none [1, 2, 3], .deliver false 4, .read false none 2, .deliver false 99,
            .read false none 2] false) :=
  faithful_exec lawful_numberedSuite
    ⟨fun _ => rfl, fun _ => ⟨_, rfl, rfl⟩, fun _ => rfl, fun _ => rfl, fun _ => rfl, fun _ => rfl,
      fun _ => rfl⟩
    (fun _ => rfl) _ (by simp) false

end GoNoise.Conn
