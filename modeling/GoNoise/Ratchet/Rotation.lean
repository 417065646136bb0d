import GoNoise.Ratchet.Reception

/-!
# One side sends, the other receives

Two managers share a session. One encrypts, the other decrypts each message at once and hands the
Next Key blocks that it finds to `ProcessReceivedNextKey`. The fiftieth message of the sender starts
a new chain and carries the key for it, but it is itself a message of the new chain, so the receiver
does not know its tag.
-/

namespace GoNoise.Ratchet

open SessionManager

variable {δ σ τ : Type} {P : Primitives δ σ τ} {c : SendChain P}

/-! ## The sender -/

/-- The AEAD seals every payload of the chain. -/
def SendChain.Seals (c : SendChain P) : Prop :=
  ∀ n payload, ∃ ciphertext tag,
    encryptWithSessionKey P (c.key n) payload (c.tag n) (UInt32.ofNat n) = .ok (ciphertext, tag)

/-- A session without a DH ratchet step due and without control blocks in its queues. -/
structure Session.Steady (s : Session δ σ τ) : Prop where
  rotation : s.dhRatchetCounter + 1 < dhRatchetInterval
  nextKeys : s.pendingNextKeys = []
  acks : s.pendingAcks = []

theorem encryptExistingSession_error_of_speaks {s s' : Session δ σ τ} {now : Time}
    {plaintext : Bytes} {e : Oops} (hs : s.Speaks c) (hseals : c.Seals) (hsteady : s.Steady)
    (h : s.encryptExistingSession P now plaintext = (.error e, s')) : s' = s := by
  unfold Session.encryptExistingSession at h
  split_ifs at h
  · cases h
    rfl
  · cases h
    rfl
  by_cases hnum : s.messageCounter < maxMessageNumber
  · obtain ⟨ciphertext, tag, hsealed⟩ := hseals s.messageCounter.toNat plaintext
    rw [UInt32.ofNat_toNat] at hsealed
    rw [advanceRatchets_of_speaks hs hsteady.rotation hnum] at h
    unfold Session.prependPendingNextKeys at h
    simp only [hsteady.nextKeys, hsteady.acks, List.append_nil, List.length_nil, if_true,
      hsealed] at h
    cases h
  · unfold Session.advanceRatchets at h
    rw [if_pos (UInt32.not_lt.mp hnum)] at h
    cases h
    rfl

/-! ## The pair -/

structure SendPair (δ σ τ : Type) where
  a : SessionManager δ σ τ
  b : SessionManager δ σ τ

namespace SendPair

/-- A plaintext for the peer, and the clocks of both sides. -/
structure Message where
  sent : Time
  arrived : Time
  plaintext : Bytes

variable (P) (H G : Handshakes δ σ τ) (destinationHash destinationPubKey : Key)

/-- What the sender makes of a plaintext. -/
def encrypt (w : SendPair δ σ τ) (m : Message) : Except Oops Bytes × SessionManager δ σ τ :=
  w.a.encryptGarlicMessage P H m.sent destinationHash destinationPubKey m.plaintext

/-- One message: it is encrypted, delivered and decrypted, and its Next Key blocks are applied. -/
def step (w : SendPair δ σ τ) (m : Message) : SendPair δ σ τ :=
  match encrypt P H destinationHash destinationPubKey w m with
  | (.error _, a) => { w with a := a }
  | (.ok msg, a) =>
    match w.b.decryptGarlicMessage P G m.arrived msg with
    | (.error _, b) => ⟨a, b⟩
    | (.ok (plaintext, sessionTag, _), b) => ⟨a, b.applyNextKeys P sessionTag plaintext⟩

/-- The message that is produced, if any, is decrypted to the plaintext. -/
def Delivered (w : SendPair δ σ τ) (m : Message) : Prop :=
  ∀ msg, (encrypt P H destinationHash destinationPubKey w m).1 = .ok msg →
    ∃ sessionTag sessionHash, (w.b.decryptGarlicMessage P G m.arrived msg).1 =
      .ok (m.plaintext, sessionTag, sessionHash)

variable {P}

/-- The sender's session speaks the chain, and the receiver's session at `p` has received all that
was sent on it. -/
def InStep (c : SendChain P) (p : ℕ) (w : SendPair δ σ τ) : Prop :=
  ∃ q s, w.a.sessions.lookup destinationHash = some q ∧ w.a.heap.lookup q = some s ∧ s.Speaks c ∧
    Reception.Intact c p ⟨w.b, Finset.Ico 1 s.messageCounter.toNat⟩

/-- No DH ratchet step is due and no control block is queued at the sender, the session of the
receiver has not timed out, and the plaintext does not end it. -/
structure NoRotation (p : ℕ) (w : SendPair δ σ τ) (m : Message) : Prop where
  steady : ∀ q s, w.a.sessions.lookup destinationHash = some q → w.a.heap.lookup q = some s →
    s.Steady
  valid : ∀ s, w.b.heap.lookup p = some s → w.b.isSessionValid m.arrived s
  live : SessionManager.terminates m.plaintext = false

variable {H G destinationHash destinationPubKey} {p q n : ℕ} {w : SendPair δ σ τ} {m : Message}
  {s s' : Session δ σ τ} {msg : Bytes}

theorem receive_next (hc : c.Authentic) (hu : c.UniqueTags)
    (h : Reception.Intact c p ⟨w.b, Finset.Ico 1 n⟩) (hm : NoRotation destinationHash p w m)
    (he : c.Emits n m.plaintext msg) :
    ∃ b, w.b.decryptGarlicMessage P G m.arrived msg = (.ok (m.plaintext, c.tag n, none), b) ∧
      Reception.Intact c p ⟨b, Finset.Ico 1 (n + 1)⟩ ∧ b.tagIndex.lookup (c.tag n) = none := by
  have hinsert : insert n (Finset.Ico 1 n) = Finset.Ico 1 (n + 1) := by
    have hpos := he.pos
    ext k
    rw [Finset.mem_insert, Finset.mem_Ico, Finset.mem_Ico]
    omega
  have hmissing : Missing.missing (insert 0 (Finset.Ico 1 n)) = n := by
    have hpos := he.pos
    refine Missing.missing_eq ?_ fun k hk => ?_
    · rw [Finset.mem_insert, Finset.mem_Ico]
      omega
    · rw [Finset.mem_insert, Finset.mem_Ico]
      omega
  obtain ⟨hopened, hreceived, hintact, -⟩ := Reception.intact_deliver (H := G) hc hu h
    (⟨he, Finset.right_notMem_Ico, hm.valid, hm.live⟩ : Reception.Arrives c p
      ⟨w.b, Finset.Ico 1 n⟩ m.arrived n m.plaintext msg)
    (show n ≤ (Finset.Ico 1 n).card + tagReplenishThreshold by
      rw [Nat.card_Ico, show tagReplenishThreshold = 12 from rfl]
      omega)
    (show n < Missing.missing (insert 0 (Finset.Ico 1 n)) + recvWindowSize.toNat by
      rw [hmissing, show recvWindowSize.toNat = 128 from rfl]
      omega)
  have hstep : Reception.step P G ⟨w.b, Finset.Ico 1 n⟩ (.deliver m.arrived n m.plaintext msg) =
      ⟨(w.b.decryptGarlicMessage P G m.arrived msg).2, Finset.Ico 1 (n + 1)⟩ := by
    rw [← hinsert, ← hreceived]
    rfl
  rw [hstep] at hintact
  refine ⟨_, Prod.ext hopened rfl, hintact, ?_⟩
  obtain ⟨s, -, -, ht⟩ := hintact
  refine (ht.expects.lookup n he.pos (Nat.lt_trans he.lt (by decide))).trans (if_neg ?_)
  rw [Finset.mem_sdiff, Finset.mem_Ico, Finset.mem_Ico]
  omega

/-- One message without a rotation is decrypted, and the pair stays in step. -/
theorem inStep_step (hc : c.Authentic) (hu : c.UniqueTags) (hseals : c.Seals)
    (h : InStep destinationHash c p w) (hm : NoRotation destinationHash p w m) :
    InStep destinationHash c p (step P H G destinationHash destinationPubKey w m) ∧
      Delivered P H G destinationHash destinationPubKey w m := by
  obtain ⟨q, s, hq, hs, hspeaks, hintact⟩ := h
  have hsteady := hm.steady q s hq hs
  by_cases hne : m.plaintext.length = 0
  · have hempty : ∃ e, encrypt P H destinationHash destinationPubKey w m = (.error e, w.a) := by
      unfold encrypt encryptGarlicMessage
      rw [if_pos hne]
      exact ⟨_, rfl⟩
    obtain ⟨e, hempty⟩ := hempty
    unfold step Delivered
    rw [hempty]
    exact ⟨⟨q, s, hq, hs, hspeaks, hintact⟩, fun msg hmsg => by cases hmsg⟩
  have hencrypt : encrypt P H destinationHash destinationPubKey w m =
      ((s.encryptExistingSession P m.sent m.plaintext).1, { w.a with
        heap := w.a.heap.insert q (s.encryptExistingSession P m.sent m.plaintext).2 }) := by
    unfold encrypt encryptGarlicMessage
    rw [if_neg hne, hq]
    dsimp only
    rw [hs]
  rcases henc : s.encryptExistingSession P m.sent m.plaintext with ⟨e | msg, s'⟩
  · obtain rfl := encryptExistingSession_error_of_speaks hspeaks hseals hsteady henc
    rw [henc] at hencrypt
    unfold step Delivered
    rw [hencrypt]
    refine ⟨⟨q, s', hq, AList.lookup_insert _, hspeaks, hintact⟩, fun msg hmsg => ?_⟩
    cases hmsg
  · obtain ⟨hemits, hs'⟩ := encryptExistingSession_of_speaks hspeaks hsteady.rotation
      hsteady.nextKeys hsteady.acks henc
    obtain ⟨b, hdecrypt, hintact', hunknown⟩ := receive_next (G := G) hc hu hintact hm hemits
    have hcounter : s'.messageCounter.toNat = s.messageCounter.toNat + 1 := by
      have hlt := hemits.lt
      have hmax : maxMessageNumber.toNat = 65535 := rfl
      rw [hs']
      rw [UInt32.toNat_add, UInt32.toNat_one, Nat.mod_eq_of_lt (by omega)]
    have hspeaks' : s'.Speaks c := by
      refine ⟨by omega, ?_, ?_⟩
      · rw [hcounter, hs']
      · rw [hcounter, hs']
    rw [henc] at hencrypt
    unfold step Delivered
    rw [hencrypt]
    dsimp only
    rw [hdecrypt]
    dsimp only
    rw [applyNextKeys_of_unknown hunknown]
    refine ⟨⟨q, s', hq, AList.lookup_insert _, hspeaks', ?_⟩, fun msg' hmsg' => ?_⟩
    · rwa [hcounter]
    · cases hmsg'
      exact ⟨c.tag s.messageCounter.toNat, none, by rw [hdecrypt]⟩

/-- **Delivery without rotation.** In every run in which no DH ratchet step is due at any message,
every message is decrypted to its plaintext. -/
theorem delivered_without_rotation {ms : List Message} (hc : c.Authentic) (hu : c.UniqueTags)
    (hseals : c.Seals) (h : InStep destinationHash c p w)
    (hrun : Trace.Always (step P H G destinationHash destinationPubKey)
      (NoRotation destinationHash p) w ms) :
    Trace.Always (step P H G destinationHash destinationPubKey)
      (Delivered P H G destinationHash destinationPubKey) w ms :=
  Trace.always_of_invariant (I := InStep destinationHash c p)
    (fun _ _ h hm => inStep_step hc hu hseals h hm) h hrun

/-! ## The pair that counts -/

/-- Both sides after the handshake. -/
def countingPair : SendPair ℕ (ℕ × ℕ) (ℕ × ℕ) :=
  ⟨counting true, counting false⟩

def clove : Message := ⟨0, 0, [11, 0, 1, 42]⟩

/-- One message from the initiator to the responder. -/
def countingStep : SendPair ℕ (ℕ × ℕ) (ℕ × ℕ) → Message → SendPair ℕ (ℕ × ℕ) (ℕ × ℕ) :=
  step countingPrimitives noHandshakes noHandshakes (.ofNat 32 7)
    (.ofNat 32 9)

theorem speaks_counting :
    ∃ s, (counting true).sessions.lookup (.ofNat 32 7) = some 0 ∧
      (counting true).heap.lookup 0 = some s ∧ s.Speaks forwardChain ∧ s.messageCounter = 1 := by
  have hsome : ((counting true).heap.lookup 0).isSome := by decide +kernel
  refine ⟨_, by decide +kernel, (Option.some_get hsome).symm, ⟨?_, ?_, ?_⟩, ?_⟩
  all_goals decide +kernel +revert

theorem inStep_countingPair : InStep (.ofNat 32 7) forwardChain 0 countingPair := by
  obtain ⟨s, hq, hs, hspeaks, hcounter⟩ := speaks_counting
  obtain ⟨s', hs', hk, ht, -⟩ := windows_counting
  refine ⟨0, s, hq, hs, hspeaks, ?_⟩
  rw [hcounter]
  exact ⟨s', hs', hk, ht⟩

theorem noRotation_cloves : Trace.Always countingStep (NoRotation (.ofNat 32 7) 0) countingPair
    (List.replicate 3 clove) := by
  have hsteady : ∀ n : Fin 3,
      let w := Trace.exec countingStep countingPair (List.replicate n clove)
      (∀ q ∈ w.a.sessions.lookup (.ofNat 32 7), ∀ s ∈ w.a.heap.lookup q,
        s.dhRatchetCounter + 1 < dhRatchetInterval ∧ s.pendingNextKeys = [] ∧
          s.pendingAcks = []) ∧
      ∀ s ∈ w.b.heap.lookup 0, w.b.isSessionValid 0 s := by decide +kernel
  rw [Trace.always_iff]
  intro pre m post hms
  obtain ⟨hlength, hpre, hrest⟩ := List.append_eq_replicate_iff.mp hms.symm
  obtain rfl : m = clove := List.eq_of_mem_replicate (hrest ▸ List.mem_cons_self)
  rw [hpre]
  have hn := hsteady ⟨pre.length, by rw [← hlength, List.length_cons]; omega⟩
  refine ⟨fun q s hq hs => ?_, hn.2, by decide⟩
  obtain ⟨hrotation, hnextKeys, hacks⟩ := hn.1 q hq s hs
  exact ⟨hrotation, hnextKeys, hacks⟩

/-- Three messages, one after the other. -/
theorem delivered_without_rotation_cloves :
    Trace.Always countingStep (Delivered countingPrimitives SessionManager.noHandshakes
      SessionManager.noHandshakes (.ofNat 32 7) (.ofNat 32 9)) countingPair
      (List.replicate 3 clove) :=
  delivered_without_rotation authentic_forwardChain uniqueTags_forwardChain
    (fun _ _ => ⟨_, _, rfl⟩) inStep_countingPair noRotation_cloves

/-- The pair after 49 messages. -/
def beforeRotation : SendPair ℕ (ℕ × ℕ) (ℕ × ℕ) :=
  Trace.exec countingStep countingPair (List.replicate 49 clove)

/-- The fiftieth message of the initiator is produced, but the responder does not decrypt it. -/
theorem rotation_not_delivered :
    (encrypt countingPrimitives SessionManager.noHandshakes (.ofNat 32 7) (.ofNat 32 9)
        beforeRotation clove).1.toOption.map (fun msg =>
      (beforeRotation.b.decryptGarlicMessage countingPrimitives SessionManager.noHandshakes 0
        msg).1.isOk) = some false := by
  decide +kernel

end SendPair
end GoNoise.Ratchet
