import GoNoise.Conn.Stream

/-!
# `conn`: writes that are rejected

A `Write` may return an error before anything is sent. If the message was sealed by then, as for one
that is too large or that the transport does not take, the writer's cipher state has moved on and
the reader's has not. The next message that is sent cannot be opened.
-/

namespace GoNoise.Conn

open BigEndian ByteStream Handshake Noise Trace ModifierChain

/-- A call of `Write`, with what `SetWriteDeadline` returns and how the transport refuses the
message, if it does. -/
structure Attempt where
  deadline : Option Oops
  transport : Option Oops
  b : Bytes

section
variable {μ : Type} (S : Suite Oops) (M : HandshakeModifier μ)

/-- A connection and what its successful writes were given. -/
structure Sender (μ : Type) where
  conn : NoiseConn μ
  accepted : List Bytes

/-- One write. -/
def attempt (s : Sender μ) (a : Attempt) : Sender μ :=
  let ((_, err), conn) := s.conn.write S M a.deadline (transportOutcomes a.transport) a.b
  ⟨conn, if err.isNone then s.accepted ++ [a.b] else s.accepted⟩

/-- The first `n` messages, read into a buffer that has room for any. -/
def readMessages : ℕ → NoiseConn μ → List (Outcome Oops Bytes)
  | 0, _ => []
  | n + 1, r =>
    let (outcome, r') := r.read S M none maxNoiseMessageSize
    outcome :: readMessages n r'

/-- The write is refused before the message is sealed, or the message fits and the transport takes
it. `growth` bounds what the modifiers add. -/
def Attempt.Harmless (growth : ℕ) (s : Sender μ) (a : Attempt) : Prop :=
  (0 < s.conn.config.writeTimeout ∧ a.deadline.isSome) ∨
    (a.transport = none ∧ a.b.length + growth + tagSize ≤ maxNoiseMessageSize)

/-- The invariant. `cs` is the reader's cipher state and `before` what was sent before the
run. -/
structure SentTo (ready : List μ → Prop) (cs : CipherState) (before : Bytes) (s : Sender μ)
    (queue : List (Bytes × Bytes)) : Prop where
  accepted : queue.map Prod.fst = s.accepted
  room : ∀ m ∈ queue, m.1.length ≤ maxNoiseMessageSize
  path : ∃ sendCs, s.conn.validateWriteState = .ok sendCs ∧ Path (Opens S M ready) cs queue sendCs
  ready : ready s.conn.modifiers
  sent : s.conn.underlying.sent = before ++ wireOf queue

variable {S M} {growth : ℕ} {ready : List μ → Prop} {cs : CipherState} {before : Bytes}
  {b c : Bytes} {queue : List (Bytes × Bytes)} {sendCs : CipherState} {w : NoiseConn μ}

theorem SentTo.attempt (hS : S.Lawful) (hM : Matched M growth ready) {s : Sender μ}
    (h : SentTo S M ready cs before s queue) {a : Attempt} (hharmless : a.Harmless growth s) :
    ∃ queue', SentTo S M ready cs before (attempt S M s a) queue' := by
  obtain ⟨sendCs, hsend, hpath⟩ := h.path
  have hstate := (validateWriteState_eq_ok.mp hsend).1
  unfold Conn.attempt
  rcases hharmless with ⟨htimeout, hdeadline⟩ | ⟨htransport, hfits⟩
  · -- a write whose deadline cannot be set does nothing
    obtain ⟨e, he⟩ := Option.isSome_iff_exists.mp hdeadline
    rw [NoiseConn.write, hsend, he]
    dsimp only
    rw [if_pos htimeout]
    exact ⟨queue, h⟩
  have hwrites := writes S M hsend a.deadline a.transport a.b
  generalize s.conn.write S M a.deadline (transportOutcomes a.transport) a.b = result at hwrites
  cases hwrites with
  | refused e ms modifiers =>
    refine ⟨queue, ⟨h.accepted, h.room, ⟨sendCs, hsend, hpath⟩, ?_, h.sent⟩⟩
    rcases modifiers with rfl | rfl
    · exact h.ready
    · exact hM.outbound _ h.ready a.b
  | sent out c modified sealed fits =>
    have hopens := opens_of_sent hS hM h.ready hfits modified sealed
    refine ⟨queue ++ [(a.b, c)], ⟨?_, ?_, ⟨_, validateWriteState_eq_ok.mpr ⟨hstate, rfl⟩,
      hpath.concat hopens⟩, hM.outbound _ h.ready a.b, ?_⟩⟩
    · rw [List.map_append, h.accepted]
      rfl
    · intro m hm
      rcases List.mem_append.mp hm with hm | hm
      · exact h.room m hm
      · rw [List.mem_singleton.mp hm]
        dsimp only
        omega
    · rw [wireOf_append, ← List.append_assoc, ← h.sent]
      rw [wireOf, List.flatMap_singleton]
  | lost e out c modified sealed reason =>
    have hle := length_le_of_sealed hS hM h.ready hfits modified sealed
    exact absurd reason (by simp [hle, htransport])

/-- The reader gets the messages of the queue, one with each `Read`. -/
theorem readMessages_of_queue (hpath : Path (Opens S M ready) cs queue sendCs)
    (hroom : ∀ m ∈ queue, m.1.length ≤ maxNoiseMessageSize) {r : NoiseConn μ}
    (hr : r.validateReadState = .ok cs) (hready : ready r.modifiers)
    (hpending : r.pendingPlaintext = [])
    (hstream : items r.underlying.arrivals = (wireOf queue).map .ok) :
    readMessages S M queue.length r = queue.map fun m => .ok m.1 := by
  induction queue generalizing cs r with
  | nil => rfl
  | cons m queue ih =>
    obtain ⟨cs', hopens, hrest⟩ := path_cons.mp hpath
    rw [List.forall_mem_cons] at hroom
    have hall : items r.underlying.arrivals ++ ([] : Bytes).map .ok =
        (wireOf (m :: queue)).map .ok := by
      rw [hstream, List.map_nil, List.append_nil]
    have hreceives := receives hr hready hpath hall none maxNoiseMessageSize
    rw [List.length_cons, readMessages]
    generalize r.read S M none maxNoiseMessageSize = result at hreceives
    cases hreceives with
    | refused e expired => cases expired
    | pending kept => exact absurd hpending kept
    | waits r' drained short => simp at short
    | message b c queue' cs'' rs t drained first opens modifiers stream sent =>
      injection first with hm hqueue
      subst hm hqueue
      obtain rfl : cs' = cs'' := hopens.unique opens
      rw [List.map_nil, List.append_nil] at stream
      have hstate := (validateReadState_eq_ok.mp hr).1
      have hnext := ih (r := { r with
          underlying := t
          recvCipherState := some cs'
          modifiers := rs
          pendingPlaintext := b.drop maxNoiseMessageSize }) hrest hroom.2
        (validateReadState_eq_ok.mpr ⟨hstate, rfl⟩) modifiers (List.drop_of_length_le hroom.1)
          stream
      dsimp only
      rw [List.take_of_length_le hroom.1, List.map_cons, hnext]

/-- **Harmless writes.** After any run of writes that are all harmless, the peer that reads what was
sent, in whatever pieces it arrives, gets what the successful writes were given. -/
theorem accepted_readMessages (hS : S.Lawful) (hM : Matched M growth ready) {w r : NoiseConn μ}
    (hw : w.validateWriteState = .ok cs) (hr : r.validateReadState = .ok cs)
    (hwriter : ready w.modifiers) (hreader : ready r.modifiers)
    (hpending : r.pendingPlaintext = []) (as : List Attempt)
    (hharmless : Always (attempt S M) (Attempt.Harmless growth) ⟨w, []⟩ as)
    {arrivals : List (Arrival Oops)}
    (harrivals : items arrivals = ((exec (attempt S M) ⟨w, []⟩ as).conn.underlying.sent.drop
      w.underlying.sent.length).map .ok) :
    readMessages S M (exec (attempt S M) ⟨w, []⟩ as).accepted.length
        { r with underlying := { r.underlying with arrivals := arrivals } } =
      (exec (attempt S M) ⟨w, []⟩ as).accepted.map .ok := by
  have hstart : ∃ queue, SentTo S M ready cs w.underlying.sent ⟨w, []⟩ queue :=
    ⟨[], rfl, nofun, ⟨cs, hw, .nil cs⟩, hwriter, (List.append_nil _).symm⟩
  obtain ⟨queue, hsent⟩ := exec_induct (I := fun s => ∃ queue, SentTo S M ready cs
    w.underlying.sent s queue) (fun s a ⟨_, h⟩ hstep => h.attempt hS hM hstep) hstart hharmless
  obtain ⟨sendCs, -, hpath⟩ := hsent.path
  rw [hsent.sent, List.drop_left] at harrivals
  rw [← hsent.accepted, List.length_map, List.map_map]
  exact readMessages_of_queue hpath hsent.room hr hreader hpending harrivals

/-- A message that is too large is sealed before it is rejected. -/
theorem write_tooLarge (hsend : w.validateWriteState = .ok sendCs) (hmodifiers : w.modifiers = [])
    (hsealed : S.encrypt sendCs.k sendCs.n [] b = .ok c) (hlarge : maxNoiseMessageSize < c.length) :
    ∃ e, w.write S M none (transportOutcomes none) b = ((0, some e),
      { w with
        sendCipherState := some { sendCs with n := sendCs.n + 1 }
        encryptions := w.encryptions ++ [(b, c)] }) := by
  have hchain : w.applyOutbound M .data b = (.ok b, w) := by
    rw [NoiseConn.applyOutbound, hmodifiers, modifyOutbound,
      outboundFrom, ← hmodifiers]
  unfold NoiseConn.write
  rw [hsend, ite_self]
  rw [hchain]
  dsimp only [NoiseConn.encryptData, CipherState.encrypt]
  rw [hsealed]
  dsimp only [NoiseConn.writeFramedMessage]
  rw [if_pos hlarge]
  exact ⟨_, rfl⟩

end

theorem matched_xor {xm : XORModifier} (hopen : xm.closed = false) :
    Matched modifiers 0 (· = [.xor xm]) := by
  have hchain : ∀ b, modifyOutbound modifiers .data b [.xor xm] =
      (.ok (b.mapIdx fun i c => c ^^^ xm.keyByte i), [.xor xm]) := by
    intro b
    rw [modifyOutbound, outboundFrom, modifiers_modifyOutbound,
      Modifier.modifyOutbound, xm.modifyOutbound_of_open hopen]
    rfl
  refine ⟨?_, ?_, ?_⟩
  · rintro ms rfl b
    rw [hchain]
  · rintro ms rfl b out h
    rw [hchain] at h
    cases h
    rw [List.length_mapIdx]
    exact Nat.le_refl _
  · rintro ms rfl rs rfl b out - h
    rw [hchain] at h
    cases h
    refine ⟨[.xor xm], ?_, rfl⟩
    rw [modifyInbound, inboundFrom, inboundFrom]
    simp only [modifiers_modifyInbound, Modifier.modifyInbound, XORModifier.modifyInbound,
      xm.modifyOutbound_of_open hopen, xm.mapIdx_keyByte_twice]

def xorConn : NoiseConn Modifier := establishedConn [.xor ⟨"xor", [0x55], false, nofun⟩]

theorem accepted_readMessages_xor :
    readMessages numberedSuite modifiers
        (exec (attempt numberedSuite modifiers) ⟨xorConn, []⟩
          [⟨none, none, [1, 2, 3]⟩, ⟨none, none, [9]⟩]).accepted.length
        { xorConn with underlying := { xorConn.underlying with
          arrivals := [.bytes (exec (attempt numberedSuite modifiers) ⟨xorConn, []⟩
            [⟨none, none, [1, 2, 3]⟩, ⟨none, none, [9]⟩]).conn.underlying.sent] } } =
      (exec (attempt numberedSuite modifiers) ⟨xorConn, []⟩
        [⟨none, none, [1, 2, 3]⟩, ⟨none, none, [9]⟩]).accepted.map .ok :=
  accepted_readMessages lawful_numberedSuite (matched_xor rfl) (w := xorConn) rfl rfl rfl rfl rfl
    [⟨none, none, [1, 2, 3]⟩, ⟨none, none, [9]⟩]
    ⟨.inr ⟨rfl, by decide⟩, .inr ⟨rfl, by decide⟩, trivial⟩
    (by rw [items, items, List.append_nil]; rfl)

/-- **The stream is faithful under modifiers** that match, as long as what they add leaves room for
the tag in one message. -/
theorem faithful_exec_of_matched {μ : Type} {S : Suite Oops} {M : HandshakeModifier μ} {growth : ℕ}
    {ready : List μ → Prop} (hS : S.Lawful) (hM : Matched M growth ready) {p : Pair μ}
    (hp : Established p) (hready : ∀ side, ready (p side).conn.modifiers) {es : List Event}
    (hfits : Always (step S M) (fun _ e => e.Fits growth) p es) (side : Bool) :
    Faithful S M (exec (step S M) p es !side) (exec (step S M) p es side) :=
  (linked_exec hS hM hp hready hfits).faithful side

/-- Both ends hide what they send with the same key. -/
theorem faithful_exec_of_matched_xor :
    let p := exec (step numberedSuite modifiers) (fun _ => ⟨xorConn, 0, [], []⟩)
      [.write true none [1, 2, 3], .deliver false 4, .deliver false 99, .read false none 2]
    (p false).returned = [1, 2] ∧ Faithful numberedSuite modifiers (p true) (p false) :=
  ⟨by decide +kernel, faithful_exec_of_matched lawful_numberedSuite (matched_xor rfl)
    ⟨fun _ => rfl, fun _ => ⟨_, rfl, rfl⟩, fun _ => rfl, fun _ => rfl, fun _ => rfl, fun _ => rfl,
      fun _ => rfl⟩ (fun _ => rfl)
    (by simp [Always, Event.Fits]; decide) false⟩

def aheadConn (history : List (Bytes × Bytes)) : NoiseConn Modifier :=
  { establishedConn [] with
    sendCipherState := some ⟨FixedBytes.ofNat 32 7, 1⟩
    encryptions := history }

/-- A write of 65520 bytes is rejected, and the reader cannot open the next message. -/
theorem accepted_not_readMessages :
    ∃ s : Sender Modifier,
      s = exec (attempt numberedSuite modifiers) ⟨establishedConn [], []⟩
        [⟨none, none, List.replicate 65520 0⟩, ⟨none, none, [1, 2, 3]⟩] ∧
      s.accepted = [[1, 2, 3]] ∧
      readMessages numberedSuite modifiers 1 { establishedConn [] with
          underlying := ⟨[.bytes s.conn.underlying.sent], [], []⟩ } =
        [.error <| ((Oops.errorf "chacha20poly1305: message authentication failed").wrapf
          "failed to decrypt received data").wrap "DECRYPT_FAILED" "noise"
            [("encrypted_len", 19)]] := by
  generalize hbig : List.replicate 65520 (0 : UInt8) = big
  obtain ⟨c, hsealed⟩ : ∃ c, numberedSuite.encrypt (FixedBytes.ofNat 32 7) 0 [] big = .ok c :=
    ⟨_, rfl⟩
  have hlarge : maxNoiseMessageSize < c.length := by
    rw [lawful_numberedSuite.length_encrypt hsealed, ← hbig, List.length_replicate]
    decide
  have hsend : (establishedConn []).validateWriteState = .ok ⟨FixedBytes.ofNat 32 7, 0⟩ := rfl
  have hfirst : attempt numberedSuite modifiers ⟨establishedConn [], []⟩ ⟨none, none, big⟩ =
      ⟨aheadConn [(big, c)], []⟩ := by
    obtain ⟨e, hwrite⟩ := write_tooLarge (M := modifiers) hsend rfl hsealed hlarge
    rw [attempt, hwrite]
    rfl
  have hnext : ∀ history, (attempt numberedSuite modifiers ⟨aheadConn history, []⟩
      ⟨none, none, [1, 2, 3]⟩).conn.underlying.sent =
      [0, 19, 1, 2, 3] ++ List.replicate 15 0 ++ [1] := fun _ => rfl
  refine ⟨_, rfl, ?_⟩
  rw [exec_cons, exec_cons, exec_nil, hfirst, hnext]
  exact ⟨rfl, rfl⟩

end GoNoise.Conn
