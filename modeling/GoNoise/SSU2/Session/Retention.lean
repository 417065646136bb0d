import Mathlib.Data.Finset.Range
import GoNoise.Library.Custody
import GoNoise.SSU2.Session.EndpointInvariant

/-!
# What becomes of a payload

The send side of an endpoint, seen as a sender with items in custody. The payloads are the items;
they are kept in `pendingPackets` under the number of the packet that carried them last. A step of
the endpoint is a move of the items, and it loses one in four ways only: the packet cannot be
written, it has the number 0 and is not tracked, a packet of the same number takes its entry, or the
send queue is full when it is due again.

The number of retries plays no part. It is stored in the entry, and `retransmitExpired` deletes the
entry and tracks the payload anew.
-/

namespace GoNoise.SSU2.Endpoint

open Trace Custody

/-! ## Steps are moves -/

/-- Where the payloads are. -/
def custody (s : Endpoint) : Custody ℕ UInt32 where
  made := Finset.range s.payloads.length
  waiting := bag Job.tag s.writing
  queued := bag Job.tag s.sendQueue.items
  inHand := bag Job.tag s.sending + bag (fun job : EncryptedJob => job.tag) s.encrypted
  written := bag (fun job : EncryptedJob => job.tag) s.sent
  kept pn := (s.conn.pendingPackets.lookup pn).map fun _ => s.tagOf pn
  accepted := s.accepted
  acked := s.acked
  renewed := s.expired
  wired := (s.emissions.filterMap Emission.tag : List ℕ)

def Loses (ctx : HeaderContext) (s : Endpoint) (t : ℕ) : Event → Prop
  /- `Serialize`, header protection or `WriteTo` fails -/
  | .emit env i => ∃ job, s.encrypted[i]? = some job ∧ job.tag = t ∧
      ¬ ∃ packet, SSU2Conn.putOnWire (ctx.dataEnv env) job.packet = .ok packet
  /- packet 0 is not tracked, and an entry of the same number is overwritten -/
  | .track _ i => ∃ job, s.sent[i]? = some job ∧
      (job.tag = t ∧ job.packet.packetNumber = 0 ∨
        job.tag ≠ t ∧ job.packet.packetNumber ∈ s.conn.pendingPackets ∧
          s.tagOf job.packet.packetNumber = t)
  /- the send queue is full -/
  | .retransmit now pn => s.tagOf pn = t ∧ ¬ s.sendQueue.HasRoom ∧
      ∃ pp, s.conn.pendingPackets.lookup pn = some pp ∧ ¬ now < pp.nextRetry
  | _ => False

/-- The step takes payload `t` from the pending packets, to send it again. -/
def Renews (s : Endpoint) (t : ℕ) : Event → Prop
  | .retransmit now pn => s.tagOf pn = t ∧
      ∃ pp, s.conn.pendingPackets.lookup pn = some pp ∧ ¬ now < pp.nextRetry
  | _ => False

section custody
variable {s : Endpoint} (i : ℕ)

theorem custody_conn {h : SSU2Conn} (hsteady : SSU2Conn.Steady s.conn h) :
    ({ s with conn := h } : Endpoint).custody = s.custody := by
  simp only [custody, hsteady.pendingPackets]

theorem range_length_concat (payloads : List Bytes) (p : Bytes) :
    Finset.range (payloads ++ [p]).length =
      insert payloads.length (Finset.range payloads.length) := by
  rw [List.length_append, List.length_singleton, Finset.range_add_one]

theorem length_notMem_made : s.payloads.length ∉ s.custody.made := Finset.notMem_range_self

theorem move_writeBlock (block : SSU2Block) :
    Move s.custody .other (s.writeBlock block).custody := by
  have hsteady := SSU2Conn.Steady.writeBlock s.conn block
  rw [Endpoint.writeBlock]
  generalize s.conn.writeBlock .enqueued block = result at hsteady ⊢
  obtain ⟨e | packet, spawned, h⟩ := result
  · rw [← custody_conn hsteady]
    exact .quiet
  · rw [← custody_conn hsteady]
    refine (Move.offer length_notMem_made).of_eq (Custody.ext ?_ ?_ rfl rfl rfl rfl rfl rfl rfl rfl)
    · exact range_length_concat _ _
    · exact bag_concat _ _ _

theorem move_direct {r : Option SSU2Packet × List Spawn × SSU2Conn}
    (hsteady : SSU2Conn.Steady s.conn r.2.2) : Move s.custody .other (s.direct r).custody := by
  obtain ⟨_ | packet, spawned, h⟩ := r
  · rw [← custody_conn hsteady]
    exact .quiet
  · rw [← custody_conn hsteady]
    refine (Move.hand length_notMem_made).of_eq (Custody.ext ?_ rfl rfl ?_ rfl rfl rfl rfl rfl rfl)
    · exact range_length_concat _ _
    · show bag Job.tag (s.sending ++ [_]) + _ = _
      rw [bag_concat, Multiset.cons_add]
      rfl

theorem move_enqueue : Move s.custody .other (s.enqueue i).custody := by
  rw [Endpoint.enqueue]
  cases hjob : s.writing[i]? with
  | none => exact .quiet
  | some job =>
    dsimp only
    cases hqueue : s.sendQueue.trySend job with
    | none => exact .quiet
    | some queue =>
      refine (Move.accept (bag_eq_cons_eraseIdx _ hjob)).of_eq
        (Custody.ext rfl rfl ?_ rfl rfl rfl ?_ rfl rfl rfl)
      · show bag Job.tag queue.items = _
        rw [Chan.items_of_trySend hqueue, bag_concat]
        rfl
      · exact (Multiset.coe_eq_coe.mpr (List.perm_append_singleton _ _))

theorem move_abandon :
    Move s.custody .other ({ s with writing := s.writing.eraseIdx i } : Endpoint).custody := by
  cases hjob : s.writing[i]? with
  | none =>
    rw [List.eraseIdx_of_length_le (List.getElem?_eq_none_iff.mp hjob)]
    exact .quiet
  | some job => exact .withdraw (bag_eq_cons_eraseIdx _ hjob)

theorem move_take : Move s.custody .other s.take.custody := by
  unfold Endpoint.take
  cases hrecv : s.sendQueue.tryRecv with
  | none => exact .quiet
  | some received =>
    have hitems : s.custody.queued = received.1.tag ::ₘ bag Job.tag received.2.items := by
      rw [← bag_cons, ← Chan.items_of_tryRecv hrecv]
      rfl
    refine (Move.take hitems).of_eq (Custody.ext rfl rfl rfl ?_ rfl rfl rfl rfl rfl rfl)
    show bag Job.tag (s.sending ++ [_]) + _ = _
    rw [bag_concat, Multiset.cons_add]
    rfl

end custody

section move
variable {aead : Aead} {ctx : HeaderContext} {h₀ : SSU2Conn} {s : Endpoint} (env : SendEnv)

theorem move_encrypt (hw : WellFormed aead ctx h₀ s) (i : ℕ) :
    Move s.custody .other (s.encrypt aead i).custody := by
  rcases hw.encrypt_cases i with heq | ⟨job, cipher, hjob, -, -, heq⟩
  · rw [heq]
    exact .quiet
  · rw [heq]
    refine Move.quiet.of_eq (Custody.ext rfl rfl rfl ?_ rfl rfl rfl rfl rfl rfl)
    show bag Job.tag (s.sending.eraseIdx i) + bag _ (s.encrypted ++ [_]) =
      bag Job.tag s.sending + bag _ s.encrypted
    rw [bag_concat, bag_eq_cons_eraseIdx Job.tag hjob, Multiset.add_cons, Multiset.cons_add]
    rfl

theorem move_emit (i : ℕ) :
    ∃ l, Move s.custody l (s.emit ctx env i).custody ∧
      (∀ t, l.Loses s.custody t → s.Loses ctx t (.emit env i)) ∧ ∀ t, ¬ l.Renews t := by
  have hinHand : ∀ job, s.encrypted[i]? = some job → s.custody.inHand = job.tag ::ₘ
      (bag Job.tag s.sending +
        bag (fun job : EncryptedJob => job.tag) (s.encrypted.eraseIdx i)) := by
    intro job hjob
    rw [← Multiset.add_cons, ← bag_eq_cons_eraseIdx (fun job : EncryptedJob => job.tag) hjob]
    rfl
  rcases emit_cases ctx env s i with heq | ⟨job, hjob, hfail, heq⟩ |
    ⟨job, packet, data, h, hjob, -, -, hconn, heq⟩
  · rw [heq]
    exact ⟨.other, .quiet, fun t ht => ht.elim, fun t => id⟩
  · rw [heq]
    exact ⟨.drop job.tag, .drop (hinHand job hjob), fun t ht => ⟨job, hjob, ht, hfail⟩, fun t => id⟩
  · have hpending : h.pendingPackets = s.conn.pendingPackets := by rw [hconn]
    rw [heq]
    refine ⟨.other, (Move.write (hinHand job hjob)).of_eq
      (Custody.ext rfl rfl rfl rfl ?_ ?_ rfl rfl rfl ?_), fun t ht => ht.elim, fun t => id⟩
    · exact bag_concat _ _ _
    · funext pn
      show (h.pendingPackets.lookup pn).map _ = (s.conn.pendingPackets.lookup pn).map _
      rw [hpending]
    · show (((s.emissions ++ [_]).filterMap Emission.tag : List ℕ) : Multiset ℕ) = _
      rw [List.filterMap_append]
      exact Multiset.coe_eq_coe.mpr (List.perm_append_singleton _ _)

theorem move_track (hw : WellFormed aead ctx h₀ s) (env : SendEnv) (i : ℕ) :
    ∃ l, Move s.custody l (s.track env i).custody ∧
      (∀ t, l.Loses s.custody t → s.Loses ctx t (.track env i)) ∧ ∀ t, ¬ l.Renews t := by
  rw [Endpoint.track]
  cases hjob : s.sent[i]? with
  | none => exact ⟨.other, .quiet, fun t ht => ht.elim, fun t => id⟩
  | some job =>
    have hwritten : s.custody.written = job.tag ::ₘ
        bag (fun job : EncryptedJob => job.tag) (s.sent.eraseIdx i) :=
      bag_eq_cons_eraseIdx (fun job : EncryptedJob => job.tag) hjob
    have htype := (hw.sent job (List.mem_of_getElem? hjob)).messageType
    dsimp only
    rw [SSU2Conn.trackPendingPacket]
    split_ifs with hskip
    · refine ⟨.forget job.tag, .forget hwritten, fun t ht => ⟨job, hjob, Or.inl ⟨ht, ?_⟩⟩,
        fun t => id⟩
      exact hskip.resolve_left (not_not.mpr htype)
    · refine ⟨.keep job.packet.packetNumber job.tag, (Move.keep _ hwritten).of_eq
        (Custody.ext rfl rfl rfl rfl rfl ?_ rfl rfl rfl rfl), ?_, fun t => id⟩
      · funext pn
        show ((s.conn.pendingPackets.insert _ _).lookup pn).map (fun _ =>
          Function.update s.tagOf job.packet.packetNumber job.tag pn) =
            Function.update s.custody.kept job.packet.packetNumber (some job.tag) pn
        by_cases hpn : pn = job.packet.packetNumber
        · rw [hpn, AList.lookup_insert, Function.update_self, Function.update_self]
          rfl
        · rw [AList.lookup_insert_ne hpn, Function.update_of_ne hpn, Function.update_of_ne hpn]
          rfl
      · rintro t ⟨hne, hkept⟩
        obtain ⟨pp, hlook, htag⟩ := Option.map_eq_some_iff.mp hkept
        exact ⟨job, hjob, Or.inr ⟨hne, AList.lookup_isSome.mp (by rw [hlook]; rfl), htag⟩⟩

theorem move_retransmit (hw : WellFormed aead ctx h₀ s) (now : Time) (pn : UInt32) :
    ∃ l, Move s.custody l (s.retransmit now pn).custody ∧
      (∀ t, l.Loses s.custody t → s.Loses ctx t (.retransmit now pn)) ∧
      ∀ t, l.Renews t → s.Renews t (.retransmit now pn) := by
  rcases hw.retransmit_cases now pn with heq | ⟨pp, hlook, hdue, heq⟩
  · rw [heq]
    exact ⟨.other, .quiet, fun t ht => ht.elim, fun t ht => ht.elim⟩
  · have hkept : s.custody.kept pn = some (s.tagOf pn) :=
      Option.map_eq_some_iff.mpr ⟨pp, hlook, rfl⟩
    have herase : (fun k => ((s.conn.pendingPackets.erase pn).lookup k).map fun _ => s.tagOf k) =
        Function.update s.custody.kept pn none := by
      funext k
      by_cases hk : k = pn
      · rw [hk, AList.lookup_erase, Function.update_self]
        rfl
      · rw [AList.lookup_erase_ne hk, Function.update_of_ne hk]
        rfl
    have hexpired : ((s.expired ++ [s.tagOf pn] : List ℕ) : Multiset ℕ) =
        s.tagOf pn ::ₘ s.custody.renewed :=
      Multiset.coe_eq_coe.mpr (List.perm_append_singleton _ _)
    rw [heq]
    cases hqueue : s.sendQueue.trySend
        ⟨s.conn.dataPacket s.conn.sendSequence pp.plaintextPayload, s.tagOf pn⟩ with
    | none =>
      refine ⟨.renewLost (s.tagOf pn), (Move.renewLost hkept).of_eq
        (Custody.ext rfl rfl rfl rfl rfl herase rfl rfl hexpired rfl),
        fun t ht => ⟨ht, ?_, pp, hlook, hdue⟩, fun t ht => ⟨ht, pp, hlook, hdue⟩⟩
      intro hroom
      obtain ⟨queue, hsome, -⟩ := Chan.trySend_of_hasRoom hroom
        ⟨s.conn.dataPacket s.conn.sendSequence pp.plaintextPayload, s.tagOf pn⟩
      rw [hqueue] at hsome
      cases hsome
    | some queue =>
      refine ⟨.renew (s.tagOf pn), (Move.renew hkept).of_eq
        (Custody.ext rfl rfl ?_ rfl rfl herase rfl rfl hexpired rfl), fun t ht => ht.elim,
        fun t ht => ⟨ht, pp, hlook, hdue⟩⟩
      show bag Job.tag queue.items = _
      rw [Chan.items_of_trySend hqueue, bag_concat]
      rfl

theorem move_sendToAddress (block : SSU2Block) :
    Move s.custody .other (s.sendToAddress env block).custody := by
  have hsteady := SSU2Conn.Steady.sendToAddress env s.conn block
  rw [Endpoint.sendToAddress]
  generalize s.conn.sendToAddress env block = result at hsteady ⊢
  rw [← custody_conn hsteady]
  refine Move.quiet.of_eq (Custody.ext rfl rfl rfl rfl rfl rfl rfl rfl rfl ?_)
  show (((s.emissions ++ _).filterMap Emission.tag : List ℕ) : Multiset ℕ) =
    (s.emissions.filterMap Emission.tag : List ℕ)
  rw [List.filterMap_append]
  split
  · rw [List.filterMap_cons_none rfl, List.filterMap_nil, List.append_nil]
  · rw [List.filterMap_nil, List.append_nil]

theorem move_rekeySend (hw : WellFormed aead ctx h₀ s) (env : SendEnv) :
    Move s.custody .other (s.rekeySend aead ctx env).custody := by
  rcases hw.rekeySend_cases env with ⟨h, rekey, hsteady, -, -, -, -, heq⟩ |
    ⟨cipher, newKey, data, -, hcipher, -, -, heq⟩
  · rw [heq, ← custody_conn hsteady]
    exact .quiet
  · rw [heq, ← custody_conn
      (SSU2Conn.Steady.sendNextNonceInline aead.toCrypto (ctx.dataEnv env) hcipher)]
    refine Move.quiet.of_eq (Custody.ext rfl rfl rfl rfl rfl rfl rfl rfl rfl ?_)
    show (((s.emissions ++ [_]).filterMap Emission.tag : List ℕ) : Multiset ℕ) =
      (s.emissions.filterMap Emission.tag : List ℕ)
    rw [List.filterMap_append, List.filterMap_cons_none rfl, List.filterMap_nil, List.append_nil]

theorem move_receive (env : RecvEnv) (data : Bytes) (addr : Option UDPAddr)
    (source : Option ℕ) :
    Move s.custody .other (s.receive aead ctx env data addr source).custody := by
  rcases receive_cases aead ctx env s data addr source with ⟨h, hkeeps, heq⟩ |
    ⟨packet, h, hkeeps, -, -, -, heq⟩
  all_goals
    rw [heq, ← custody_conn hkeeps.steady]
    exact .quiet

/-- The pending packets that the ACK blocks retire are acknowledged. -/
theorem move_process (now : Time) : Move s.custody .other (s.process aead now).custody := by
  rcases WellFormed.process_cases aead s now with heq | ⟨inbound, n, -, -, heq⟩
  · rw [heq]
    exact .quiet
  · have hsteady := SSU2Conn.KeepsSend.handled aead now s.conn inbound.packet
    rcases heq with heq | ⟨blocks, -, heq⟩
    · rw [heq, ← custody_conn hsteady.steady]
      exact .quiet
    · rw [heq]
      set h := blocks.foldl SSU2Conn.retireACK (handled aead now s.conn inbound.packet) with hh
      set retired := (s.conn.pendingPackets.keys.filter fun pn => pn ∉ h.pendingPackets).map s.tagOf
      have hsettle : Move s.custody .other { s.custody with
          kept := fun pn => (h.pendingPackets.lookup pn).map fun _ => s.tagOf pn
          acked := s.custody.acked + (retired : Multiset ℕ) } := by
        refine .settle (fun pn t hkept => ?_) fun pn t hkept => ?_
        · obtain ⟨pp, hlook, rfl⟩ := Option.map_eq_some_iff.mp hkept
          by_cases hmem : pn ∈ h.pendingPackets
          · left
            obtain ⟨pp', hlook'⟩ := Option.isSome_iff_exists.mp (AList.lookup_isSome.mpr hmem)
            rw [hlook']
            rfl
          · right
            refine Multiset.mem_coe.mpr (List.mem_map.mpr ⟨pn, List.mem_filter.mpr ⟨?_, ?_⟩, rfl⟩)
            · exact AList.mem_keys.mp (AList.lookup_isSome.mp (by rw [hlook]; rfl))
            · exact decide_eq_true hmem
        · obtain ⟨pp, hlook, rfl⟩ := Option.map_eq_some_iff.mp hkept
          have hold := (SSU2Conn.foldl_retireACK_spec blocks
            (handled aead now s.conn inbound.packet)).2 pn pp hlook
          rw [hsteady.pendingPackets] at hold
          exact Option.map_eq_some_iff.mpr ⟨pp, hold, rfl⟩
      exact hsettle.of_eq
        (Custody.ext rfl rfl rfl rfl rfl rfl rfl (Multiset.coe_add _ _).symm rfl rfl)

/-- Every step is a move of the items. It loses or renews an item only in the ways above. -/
theorem WellFormed.move (hw : WellFormed aead ctx h₀ s) (e : Event) :
    ∃ l, Move s.custody l (s.step aead ctx e).custody ∧
      (∀ t, l.Loses s.custody t → s.Loses ctx t e) ∧ ∀ t, l.Renews t → s.Renews t e := by
  have hother : ∀ {s' : Endpoint}, Move s.custody .other s'.custody →
      ∃ l, Move s.custody l s'.custody ∧
        (∀ t, l.Loses s.custody t → s.Loses ctx t e) ∧ ∀ t, l.Renews t → s.Renews t e :=
    fun hmove => ⟨.other, hmove, fun _ h => h.elim, fun _ h => h.elim⟩
  have hsteady : ∀ {h : SSU2Conn}, SSU2Conn.Steady s.conn h →
      Move s.custody .other ({ s with conn := h } : Endpoint).custody := fun h =>
    Move.quiet.of_eq (custody_conn h)
  cases e with
  | writeBlock block => exact hother (move_writeBlock block)
  | enqueue i => exact hother (move_enqueue i)
  | abandon i => exact hother (move_abandon i)
  | take => exact hother move_take
  | immediateACK now =>
    exact hother (move_direct (s.conn.immediateACKPacket_spec hw.maxACKDataSize now).1)
  | terminate reason additionalData =>
    exact hother (move_direct (s.conn.terminationPacket_spec reason additionalData).1)
  | encrypt i => exact hother (move_encrypt hw i)
  | emit env i =>
    obtain ⟨l, hmove, hloses, hrenews⟩ : ∃ l, Move s.custody l (s.emit ctx env i).custody ∧
        (∀ t, l.Loses s.custody t → s.Loses ctx t (.emit env i)) ∧ ∀ t, ¬ l.Renews t :=
      move_emit env i
    exact ⟨l, hmove, hloses, fun t ht => (hrenews t ht).elim⟩
  | track env i =>
    obtain ⟨l, hmove, hloses, hrenews⟩ := move_track hw env i
    exact ⟨l, hmove, hloses, fun t ht => (hrenews t ht).elim⟩
  | retransmit now pn => exact move_retransmit hw now pn
  | sendToAddress env block => exact hother (move_sendToAddress env block)
  | rekeySend env => exact hother (move_rekeySend hw env)
  | rekeySwitch =>
    refine hother ?_
    show Move s.custody .other s.rekeySwitch.custody
    unfold Endpoint.rekeySwitch
    split <;> exact .quiet
  | receive env data addr source => exact hother (move_receive env data addr source)
  | process now => exact hother (move_process now)
  | read =>
    refine hother ?_
    show Move s.custody .other s.read.custody
    rw [Endpoint.read]
    split
    · exact .quiet
    · exact hsteady ⟨rfl, rfl, rfl, rfl⟩
  | cleanup now => exact hother (hsteady ⟨rfl, rfl, rfl, rfl⟩)

end move

/-! ## Retention -/

/-- How often payload `t` was written to the socket. -/
def transmissions (s : Endpoint) (t : ℕ) : ℕ := (s.emissions.filterMap Emission.tag).count t

variable (s : Endpoint) (t : ℕ)

theorem count_wired : s.custody.wired.count t = s.transmissions t :=
  Multiset.coe_count _ _

theorem count_tags : (s.emissions.map Emission.tag).count (some t) = s.transmissions t := by
  unfold transmissions
  induction s.emissions with
  | nil => rfl
  | cons e emissions ih =>
    rw [List.map_cons, List.count_cons, ih, List.filterMap_cons]
    cases e.tag with
    | none => rfl
    | some u => simp [List.count_cons]

theorem count_renewed : s.custody.renewed.count t = s.expired.count t :=
  Multiset.coe_count _ _

/-- The bytes of payload `t` are in the send queue, being sent or pending; or the payload is
acknowledged, or it was sent and then sent again as often as the limit says. -/
def Retained (s : Endpoint) (t : ℕ) : Prop :=
  (∃ payload, s.payloads[t]? = some payload ∧
    ((∃ job ∈ s.sendQueue.items ++ s.sending, job.tag = t ∧ job.packet.payload = payload) ∨
      (∃ job ∈ s.encrypted ++ s.sent, job.tag = t ∧ job.plaintext = payload) ∨
      ∃ pn pp, s.conn.pendingPackets.lookup pn = some pp ∧ s.tagOf pn = t ∧
        pp.plaintextPayload = payload)) ∨
    t ∈ s.acked ∨ 1 + maxPacketRetries ≤ s.transmissions t

section results
variable {aead : Aead} {ctx : HeaderContext} {h₀ : SSU2Conn}

/-- What is in custody carries the payload of its tag. -/
theorem WellFormed.retained {s : Endpoint} {t : ℕ} (hw : WellFormed aead ctx h₀ s)
    (h : s.custody.Held t) : s.Retained t := by
  obtain hq | hh | hs | ⟨pn, hk⟩ | ha := h
  · obtain ⟨job, hjob, rfl⟩ := (mem_bag Job.tag).mp hq
    exact Or.inl ⟨_, (hw.queued job hjob).payload,
      Or.inl ⟨job, List.mem_append_left _ hjob, rfl, rfl⟩⟩
  · rcases Multiset.mem_add.mp hh with hh | hh
    · obtain ⟨job, hjob, rfl⟩ := (mem_bag Job.tag).mp hh
      exact Or.inl ⟨_, (hw.sending job hjob).payload,
        Or.inl ⟨job, List.mem_append_right _ hjob, rfl, rfl⟩⟩
    · obtain ⟨job, hjob, rfl⟩ := (mem_bag fun job : EncryptedJob => job.tag).mp hh
      exact Or.inl ⟨_, (hw.encrypted job hjob).payload,
        Or.inr (Or.inl ⟨job, List.mem_append_left _ hjob, rfl, rfl⟩)⟩
  · obtain ⟨job, hjob, rfl⟩ := (mem_bag fun job : EncryptedJob => job.tag).mp hs
    exact Or.inl ⟨_, (hw.sent job hjob).payload,
      Or.inr (Or.inl ⟨job, List.mem_append_right _ hjob, rfl, rfl⟩)⟩
  · obtain ⟨pp, hlook, rfl⟩ := Option.map_eq_some_iff.mp hk
    exact Or.inl ⟨_, (hw.pending pn pp hlook).payload, Or.inr (Or.inr ⟨pn, pp, hlook, rfl, rfl⟩)⟩
  · exact Or.inr (Or.inl ha)

/-- **What was accepted is retained**, in every run in which no step loses the payload before it was
sent and sent again as often as the limit says. -/
theorem accepted_retained (aead : Aead) (hready : Ready h₀) {es : List Event} {t : ℕ}
    (hes : Always (step aead ctx)
      (fun s e => s.Loses ctx t e → 1 + maxPacketRetries ≤ s.transmissions t) (start h₀) es)
    (ht : t ∈ (exec (step aead ctx) (start h₀) es).accepted) :
    (exec (step aead ctx) (start h₀) es).Retained t := by
  have hinv : WellFormed aead ctx h₀ (exec (step aead ctx) (start h₀) es) ∧
      (t ∈ (exec (step aead ctx) (start h₀) es).custody.accepted →
        (exec (step aead ctx) (start h₀) es).custody.Held t ∨
          1 + maxPacketRetries ≤ (exec (step aead ctx) (start h₀) es).transmissions t) := by
    refine exec_induct (I := fun s => WellFormed aead ctx h₀ s ∧
      (t ∈ s.custody.accepted → s.custody.Held t ∨ 1 + maxPacketRetries ≤ s.transmissions t))
      ?_ ⟨.start hready, fun h => by cases h⟩ hes
    rintro s e ⟨hw, hheld⟩ hloses
    refine ⟨hw.step e, fun hacc => ?_⟩
    obtain ⟨l, hmove, hl, -⟩ := hw.move e
    by_cases hdone : 1 + maxPacketRetries ≤ s.transmissions t
    · have hle := Multiset.count_le_of_le t hmove.wired_le
      rw [count_wired, count_wired] at hle
      exact Or.inr (hdone.trans hle)
    · refine Or.inl (hmove.held (fun hlost => hdone (hloses (hl t hlost))) (fun hold => ?_) hacc)
      exact (hheld hold).resolve_right hdone
  rcases hinv.2 ht with hheld | hdone
  · exact hinv.1.retained hheld
  · exact Or.inr (Or.inr hdone)

def sendFirst (env : SendEnv) : List Event := [.take, .encrypt 0, .emit env 0, .track env 0]

/-- Two blocks are written and sent. The packets have the numbers 0 and 1. -/
def sendTwo : List Event :=
  [.writeBlock ⟨blockTypePadding, [0]⟩, .enqueue 0, .writeBlock ⟨blockTypePadding, [0]⟩,
    .enqueue 0] ++
    sendFirst { SendEnv.openSocket with rto := 1 } ++
    sendFirst { SendEnv.openSocket with rto := 1 }

theorem accepted_retained_second :
    Always (step .zeroTag .zeroKeys)
        (fun s e => s.Loses .zeroKeys 1 e → 1 + maxPacketRetries ≤ s.transmissions 1)
        (start .demo) sendTwo ∧
      1 ∈ (exec (step .zeroTag .zeroKeys) (start .demo) sendTwo).accepted ∧
      (exec (step .zeroTag .zeroKeys) (start .demo) sendTwo).Retained 1 := by
  have hes : Always (step .zeroTag .zeroKeys)
      (fun s e => s.Loses .zeroKeys 1 e → 1 + maxPacketRetries ≤ s.transmissions 1)
      (start .demo) sendTwo := by
    refine ⟨False.elim, False.elim, False.elim, False.elim, False.elim, False.elim, ?_, ?_,
      False.elim, False.elim, ?_, ?_, trivial⟩
    · rintro ⟨job, hjob, htag, -⟩
      cases hjob
      cases htag
    · rintro ⟨job, hjob, ⟨htag, -⟩ | ⟨-, hmem, -⟩⟩
      · cases hjob
        cases htag
      · cases hjob
        exact absurd hmem (by decide)
    · rintro ⟨job, hjob, -, hfail⟩
      cases hjob
      exact absurd ⟨_, rfl⟩ hfail
    · rintro ⟨job, hjob, ⟨-, hnum⟩ | ⟨htag, -⟩⟩
      · cases hjob
        exact absurd hnum (by decide)
      · cases hjob
        exact absurd rfl htag
  have hacc : 1 ∈ (exec (step .zeroTag .zeroKeys) (start .demo) sendTwo).accepted := by decide
  exact ⟨hes, hacc, accepted_retained .zeroTag (ready_establish _ _ _ _ _) hes hacc⟩

/-- The first packet has the number 0, which is not tracked. -/
theorem first_not_retained :
    0 ∈ (exec (step .zeroTag .zeroKeys) (start .demo) sendTwo).accepted ∧
      ¬ (exec (step .zeroTag .zeroKeys) (start .demo) sendTwo).Retained 0 := by
  refine ⟨by decide, ?_⟩
  rintro (⟨payload, -, ⟨job, hjob, -⟩ | ⟨job, hjob, -⟩ | ⟨pn, pp, hlook, htag, -⟩⟩ | hacked | hdone)
  · cases hjob
  · cases hjob
  · have hkeys : (exec (step .zeroTag .zeroKeys) (start .demo) sendTwo).conn.pendingPackets.keys =
        [1] := by decide
    have hmem : pn ∈ (exec (step .zeroTag .zeroKeys) (start .demo) sendTwo).conn.pendingPackets :=
      AList.lookup_isSome.mp (by rw [hlook]; rfl)
    rw [AList.mem_keys, hkeys, List.mem_singleton] at hmem
    subst hmem
    exact absurd htag (by decide)
  · cases hacked
  · exact absurd hdone (by decide)

end results

end GoNoise.SSU2.Endpoint
