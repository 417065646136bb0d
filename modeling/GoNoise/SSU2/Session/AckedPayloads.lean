import GoNoise.SSU2.Session.ConnReader
import GoNoise.SSU2.Session.Retention

/-!
# Payloads that were acknowledged

`sendPacketDirect` writes the datagram first and tracks the packet afterwards, and
`processDataPacket` deletes the acknowledged numbers from the pending packets as they are at that
moment. An ACK that arrives between the two finds no entry. The entry is made after it and is
due after its timeout, and the payload is sent again.

When nothing of the payload is under way, and all numbers it is pending under are acknowledged at
once, the ACK takes the last trace of it and no later step can renew it.
-/

namespace GoNoise.SSU2.Endpoint

open Trace Custody

/-- The numbers in the ACK blocks of the packet that is being processed. -/
def ackedBy (s : Endpoint) (now : Time) : List UInt32 :=
  match s.receiving with
  | none => []
  | some inbound =>
    match (s.conn.dataHandler.processDataPacket now inbound.packet).1 with
    | .error _ => []
    | .ok blocks => (blocks.filter (·.type = blockTypeACK)).flatMap SSU2Block.ackedNums

/-- A datagram with the number `n` has carried payload `t`. -/
def SentUnder (s : Endpoint) (n : UInt32) (t : ℕ) : Prop :=
  ∃ d ∈ s.emissions, d.packetNumber = n ∧ d.tag = some t

instance (s : Endpoint) (n : UInt32) (t : ℕ) : Decidable (s.SentUnder n t) :=
  inferInstanceAs (Decidable (∃ d ∈ s.emissions, d.packetNumber = n ∧ d.tag = some t))

/-- No packet with payload `t` is under way, and the numbers it is pending under are all
acknowledged by the packet that is being processed. -/
structure Settled (s : Endpoint) (now : Time) (t : ℕ) : Prop where
  jobs : ∀ job ∈ s.writing ++ s.sendQueue.items ++ s.sending, job.tag ≠ t
  encrypted : ∀ job ∈ s.encrypted ++ s.sent, job.tag ≠ t
  pending : ∀ pn ∈ s.conn.pendingPackets, s.tagOf pn = t → pn ∈ s.ackedBy now

/-- The step does not acknowledge a payload that is still under way or pending elsewhere. -/
def AcksSettle (s : Endpoint) : Event → Prop
  | .process now => ∀ n ∈ s.ackedBy now, ∀ t, s.SentUnder n t → s.Settled now t
  | _ => True

section results
variable {aead : Aead} {ctx : HeaderContext} {h₀ : SSU2Conn} {s : Endpoint} {now : Time}
    {n : UInt32}
  {t : ℕ}

/-- The numbers in the ACK blocks are not pending after the packet is processed, and no other
place of the send side changes. -/
theorem process_of_acked (aead : Aead) (hn : n ∈ s.ackedBy now) :
    ∃ h delivered acked, s.process aead now =
        { s with conn := h, receiving := none, delivered := delivered, acked := acked } ∧
      (∀ pn pp, h.pendingPackets.lookup pn = some pp →
        s.conn.pendingPackets.lookup pn = some pp) ∧
      ∀ pn ∈ s.ackedBy now, pn ∉ h.pendingPackets := by
  unfold ackedBy at hn ⊢
  unfold Endpoint.process
  generalize s.receiving = receiving at hn ⊢
  cases receiving with
  | none => cases hn
  | some inbound =>
    dsimp only at hn ⊢
    generalize (s.conn.dataHandler.processDataPacket now inbound.packet).1 = result at hn ⊢
    cases result with
    | error e => cases hn
    | ok blocks =>
      refine ⟨_, _, _, rfl, fun pn pp hlook => ?_, fun pn hpn => ?_⟩
      · rw [← (SSU2Conn.KeepsSend.handled aead now s.conn inbound.packet).pendingPackets]
        exact (SSU2Conn.foldl_retireACK_spec blocks _).2 pn pp hlook
      · obtain ⟨block, hblock, hnum⟩ := List.mem_flatMap.mp hpn
        obtain ⟨hmem, htype⟩ := List.mem_filter.mp hblock
        exact SSU2Conn.foldl_retireACK_acked hmem (of_decide_eq_true htype) hnum _

theorem WellFormed.mem_made (hw : WellFormed aead ctx h₀ s) (hsent : s.SentUnder n t) :
    t ∈ s.custody.made := by
  obtain ⟨d, hd, -, htag⟩ := hsent
  rcases hw.emissions d hd with ⟨-, hpayload⟩ | ⟨-, hnone⟩
  · obtain ⟨hlt, -⟩ := List.getElem?_eq_some_iff.mp (hpayload t htag)
    exact Finset.mem_range.mpr hlt
  · rw [hnone] at htag
    cases htag

theorem Settled.gone_process (hset : s.Settled now t) (hmade : t ∈ s.custody.made)
    (hn : n ∈ s.ackedBy now) : (s.process aead now).custody.Gone t := by
  obtain ⟨h, delivered, acked, heq, hsub, hacked⟩ := process_of_acked aead hn
  obtain ⟨hjobs, hencrypted, hpending⟩ := hset
  simp only [List.mem_append, or_imp, forall_and] at hjobs hencrypted
  obtain ⟨⟨hwriting, hqueued⟩, hsending⟩ := hjobs
  rw [heq]
  refine ⟨hmade, ?_, ?_, ?_, ?_, fun pn hk => ?_⟩
  · rintro hmem
    obtain ⟨job, hjob, htag⟩ := (mem_bag Job.tag).mp hmem
    exact hwriting job hjob htag
  · rintro hmem
    obtain ⟨job, hjob, htag⟩ := (mem_bag Job.tag).mp hmem
    exact hqueued job hjob htag
  · rintro hmem
    rcases Multiset.mem_add.mp hmem with hmem | hmem
    · obtain ⟨job, hjob, htag⟩ := (mem_bag Job.tag).mp hmem
      exact hsending job hjob htag
    · obtain ⟨job, hjob, htag⟩ := (mem_bag fun job : EncryptedJob => job.tag).mp hmem
      exact hencrypted.1 job hjob htag
  · rintro hmem
    obtain ⟨job, hjob, htag⟩ := (mem_bag fun job : EncryptedJob => job.tag).mp hmem
    exact hencrypted.2 job hjob htag
  · obtain ⟨pp, hlook, htag⟩ := Option.map_eq_some_iff.mp hk
    have hold : pn ∈ s.conn.pendingPackets :=
      AList.lookup_isSome.mp (by rw [hsub pn pp hlook]; rfl)
    exact hacked pn (hpending pn hold htag) (AList.lookup_isSome.mp (by rw [hlook]; rfl))

/-- What is gone stays gone, and is not taken from the pending packets again. -/
theorem count_expired_of_gone (hw : WellFormed aead ctx h₀ s) (hg : s.custody.Gone t)
    (es : List Event) : (exec (step aead ctx) s es).expired.count t = s.expired.count t := by
  induction es generalizing s with
  | nil => rfl
  | cons e es ih =>
    obtain ⟨l, hmove, -, -⟩ := hw.move e
    obtain ⟨hg', hcount⟩ := hmove.gone hg
    rw [exec_cons, ih (hw.step e) hg', ← count_renewed, hcount, count_renewed]

/-- **An acknowledged packet is not retransmitted**, in every run in which no ACK falls while its
payload is under way, or pending under a number that it does not acknowledge. -/
theorem acked_not_retransmitted (aead : Aead) (hready : Ready h₀) {before after : List Event}
    (hes : Always (step aead ctx) AcksSettle (start h₀) (before ++ .process now :: after))
    (hn : n ∈ (exec (step aead ctx) (start h₀) before).ackedBy now)
    (hsent : (exec (step aead ctx) (start h₀) before).SentUnder n t) :
    (exec (step aead ctx) (start h₀) (before ++ .process now :: after)).expired.count t =
      (exec (step aead ctx) (start h₀) before).expired.count t := by
  obtain ⟨-, hsettle, -⟩ := always_append.mp hes
  have hw : WellFormed aead ctx h₀ (exec (step aead ctx) (start h₀) before) := .exec hready before
  rw [exec_append, exec_cons]
  set s := exec (step aead ctx) (start h₀) before
  have hgone : (s.process aead now).custody.Gone t :=
    (hsettle n hn t hsent).gone_process (hw.mem_made hsent) hn
  rw [count_expired_of_gone (hw.step (.process now)) hgone]
  obtain ⟨h, delivered, acked, heq, -, -⟩ := process_of_acked aead hn
  show (s.process aead now).expired.count t = _
  rw [heq]

/-- The datagram in which the other side acknowledges packet 1. -/
def ackDatagram : Bytes :=
  (exec (step .zeroTag .zeroKeys) (start .demo)
    ([.writeBlock ⟨blockTypeACK, [0, 0, 0, 1, 0]⟩, .enqueue 0] ++
      sendFirst .openSocket)).emissions.flatMap Emission.data

theorem acked_not_retransmitted_second :
    Always (step .zeroTag .zeroKeys) AcksSettle (start .demo)
        (sendTwo ++ [.receive ⟨0, none⟩ ackDatagram (some ⟨[], 0⟩) none] ++
          .process 0 :: [.retransmit 1 1]) ∧
      (exec (step .zeroTag .zeroKeys) (start .demo)
        (sendTwo ++ [.receive ⟨0, none⟩ ackDatagram (some ⟨[], 0⟩) none] ++
          .process 0 :: [.retransmit 1 1])).expired.count 1 = 0 := by
  set s := exec (step .zeroTag .zeroKeys) (start .demo)
    (sendTwo ++ [.receive ⟨0, none⟩ ackDatagram (some ⟨[], 0⟩) none]) with hs
  have hacked : 1 ∈ s.ackedBy 0 := by decide +kernel
  have hkeys : s.conn.pendingPackets.keys = [1] := by decide +kernel
  have hes : Always (step .zeroTag .zeroKeys) AcksSettle (start .demo)
      (sendTwo ++ [.receive ⟨0, none⟩ ackDatagram (some ⟨[], 0⟩) none] ++
        .process 0 :: [.retransmit 1 1]) := by
    refine always_append.mpr ⟨?_, fun n _ t _ => ⟨?_, ?_, fun pn hpn _ => ?_⟩, trivial, trivial⟩
    · exact ⟨trivial, trivial, trivial, trivial, trivial, trivial, trivial, trivial, trivial,
        trivial, trivial, trivial, trivial, trivial⟩
    · have hnil : s.writing ++ s.sendQueue.items ++ s.sending = [] :=
        List.eq_nil_of_length_eq_zero (by decide +kernel)
      rw [← hs, hnil]
      exact fun job hjob => absurd hjob List.not_mem_nil
    · have hnil : s.encrypted ++ s.sent = [] :=
        List.eq_nil_of_length_eq_zero (by decide +kernel)
      rw [← hs, hnil]
      exact fun job hjob => absurd hjob List.not_mem_nil
    · rw [← hs, AList.mem_keys, hkeys, List.mem_singleton] at hpn
      rwa [hpn]
  exact ⟨hes, (acked_not_retransmitted .zeroTag (ready_establish _ _ _ _ _) hes hacked
    (by decide +kernel)).trans (by decide +kernel)⟩

/-- The last step of `sendTwo` tracks packet 1. When the ACK of packet 1 comes before that step,
its payload is sent again. -/
theorem acked_retransmitted :
    let s := exec (step .zeroTag .zeroKeys) (start .demo)
      (sendTwo.dropLast ++ [.receive ⟨0, none⟩ ackDatagram (some ⟨[], 0⟩) none])
    1 ∈ s.ackedBy 0 ∧ s.SentUnder 1 1 ∧ s.expired.count 1 = 0 ∧
      (exec (step .zeroTag .zeroKeys) s [.process 0, .track { SendEnv.openSocket with rto := 1 } 0,
        .retransmit 1 1]).expired.count 1 = 1 :=
  ⟨by decide +kernel, by decide +kernel, by decide +kernel, by decide +kernel⟩

end results

end GoNoise.SSU2.Endpoint
