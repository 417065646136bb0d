import GoNoise.Ratchet.PayloadCodec
import GoNoise.Ratchet.Reception
import GoNoise.Ratchet.Rejection

/-!
# Runs of one session
-/

namespace GoNoise.Ratchet

open Trace

variable {δ σ τ : Type} {P : Primitives δ σ τ}

namespace Session

variable {s s' : Session δ σ τ}

/-! ## The hint -/

section
variable {ciphertext : Bytes} {tag : FixedBytes 16} {sessionTag : Tag}

/-- At most one cached key opens the ciphertext. -/
def OpensOnce (P : Primitives δ σ τ) (ciphertext : Bytes) (tag : FixedBytes 16) (sessionTag : Tag)
    (s : Session δ σ τ) : Prop :=
  ∀ k k', s.openAt P ciphertext tag sessionTag k ≠ none →
    s.openAt P ciphertext tag sessionTag k' ≠ none → k = k'

theorem tryCounterHintDecrypt_or_scan (counterHint : Option UInt32) (windowEnd : UInt32)
    (honce : s.OpensOnce P ciphertext tag sessionTag) :
    (s.tryCounterHintDecrypt P counterHint ciphertext tag sessionTag windowEnd).or
        (s.scanWindowDecrypt P ciphertext tag sessionTag windowEnd) =
      s.scanWindowDecrypt P ciphertext tag sessionTag windowEnd := by
  rcases hhint : s.tryCounterHintDecrypt P counterHint ciphertext tag sessionTag windowEnd with
    _ | found
  · rfl
  unfold tryCounterHintDecrypt at hhint
  split at hhint
  · cases hhint
  next c =>
    split_ifs at hhint with hrange
    rw [not_or, UInt32.not_lt, UInt32.not_le, UInt32.le_iff_toNat_le, UInt32.lt_iff_toNat_lt]
      at hrange
    -- the scan comes to the hinted counter, if it has found nothing before
    have hscan : s.scanWindowDecrypt P ciphertext tag sessionTag windowEnd ≠ none :=
      scanFrom_ne_none hrange.1 (by omega) hhint
    obtain ⟨found', hfound⟩ := Option.ne_none_iff_exists'.mp hscan
    obtain ⟨k, hk⟩ := openAt_of_scanFrom hfound
    obtain rfl : c = k := honce c k (by rw [hhint]; exact nofun) (by rw [hk]; exact nofun)
    rw [hfound, ← hk, hhint]
    rfl

/-- **The hint is an optimisation**: if at most one cached key opens a message, the result and the
session after it are those of a scan. -/
theorem hint_only_optimises (s : Session δ σ τ) (now : Time) (msg : Bytes) (sessionTag : Tag)
    (counterHint : Option UInt32)
    (honce : ∀ ciphertext tag, parseExistingSessionMessage msg = .ok (ciphertext, tag) →
      (s.fillRecvKeyCache P s.windowEnd).2.OpensOnce P ciphertext tag sessionTag) :
    s.decryptExistingSession P now msg sessionTag counterHint =
      s.decryptExistingSession P now msg sessionTag none := by
  unfold decryptExistingSession
  rcases hparse : parseExistingSessionMessage msg with e | ⟨ciphertext, tag⟩
  · rfl
  have honce := honce ciphertext tag hparse
  dsimp only
  rcases hfill : s.fillRecvKeyCache P s.windowEnd with ⟨_ | _, s₁⟩
  · rfl
  rw [hfill] at honce
  dsimp only
  rw [tryCounterHintDecrypt_or_scan counterHint _ honce,
    tryCounterHintDecrypt_or_scan none _ honce]

/-- A message with the hint of another one is decrypted as without a hint. -/
theorem hint_only_optimises_wrong :
    ∃ s, (SessionManager.counting false).heap.lookup 0 = some s ∧
      s.decryptExistingSession countingPrimitives 0 ((forwardMessage 3 [42]).drop 8)
          (forwardChain.tag 3) (some 5) =
        s.decryptExistingSession countingPrimitives 0 ((forwardMessage 3 [42]).drop 8)
          (forwardChain.tag 3) none := by
  obtain ⟨s, hs, hkeys, -⟩ := windows_counting
  obtain ⟨s₁, hfill, hkeys₁, -⟩ := hkeys.fill
  obtain ⟨-, hmax, ciphertext, tag, hsealed, hmessage⟩ :=
    emits_forwardMessage (n := 3) [42] (by decide) (by decide)
  refine ⟨s, hs, s.hint_only_optimises 0 _ _ _ fun ciphertext' tag' hparse => ?_⟩
  rw [hmessage, parseExistingSessionMessage_build] at hparse
  obtain ⟨rfl, rfl⟩ := Prod.mk.inj (Except.ok.inj hparse)
  rw [hfill]
  have honly : ∀ k, s₁.openAt countingPrimitives ciphertext tag (forwardChain.tag 3) k ≠ none →
      k = UInt32.ofNat 3 := by
    intro k hk
    obtain ⟨found, hfound⟩ := Option.ne_none_iff_exists'.mp hk
    exact (hkeys₁.of_openAt authentic_forwardChain (by decide) hsealed hfound).1
  exact fun k k' hk hk' => (honly k hk).trans (honly k' hk').symm

end

/-! ## The queue of Next Key blocks -/

/-- The queued Next Key blocks and the number of the next one. -/
def queue (s : Session δ σ τ) : List PayloadBlock × UInt16 := (s.pendingNextKeys, s.sendKeyID)

/-- At most one Next Key block is queued, and none once the numbers are used up. -/
def Queues (s s' : Session δ σ τ) : Prop :=
  s'.queue = s.queue ∨ s.sendKeyID < maxKeyID ∧ ∃ pub reverse requestReverse,
    s'.queue = (s.pendingNextKeys ++ [newNextKeyBlock s.sendKeyID (some pub) reverse
      requestReverse],
      s.sendKeyID + 1)

theorem queue_applyRatchetKeys (send : Bool) (s : Session δ σ τ) :
    (s.applyRatchetKeys P send).2.queue = s.queue := by
  fun_cases applyRatchetKeys <;> rfl

theorem queues_performDHRatchetStep (s : Session δ σ τ) :
    s.Queues (s.performDHRatchetStep P).2 := by
  fun_cases performDHRatchetStep with
  | case1 | case2 => exact .inl rfl
  | case3 _ newPubKey dhRatchet _ _ s₁ happlied =>
    exact .inl (by grind [queue, queue_applyRatchetKeys])
  | case4 hmax newPubKey dhRatchet _ s₁ happlied =>
    refine .inr ⟨UInt16.not_le.mp hmax, newPubKey, false, true, ?_⟩
    grind [queue, queue_applyRatchetKeys]

theorem queues_advanceRatchets (s : Session δ σ τ) : s.Queues (s.advanceRatchets P).2 := by
  have hattempt : s.Queues (s.attemptDHRatchetRotation P).2 := by
    have hstep := queues_performDHRatchetStep (P := P)
      { s with dhRatchetCounter := s.dhRatchetCounter + 1 }
    fun_cases attemptDHRatchetRotation <;> grind [Queues, queue]
  fun_cases advanceRatchets <;>
    grind [Queues, queue, deriveMessageKey, generateAndTrackSessionTag]

theorem queue_applyIncomingDHKey (remotePubKey : Key) (s : Session δ σ τ) :
    (s.applyIncomingDHKey P remotePubKey).2.queue = s.queue := by
  fun_cases applyIncomingDHKey <;> grind [queue, queue_applyRatchetKeys]

theorem queues_generateReverseNextKey (s : Session δ σ τ) :
    s.Queues (s.generateReverseNextKey P).2 := by
  fun_cases generateReverseNextKey with
  | case1 | case2 => exact .inl rfl
  | case3 hmax newPubKey => exact .inr ⟨UInt16.not_le.mp hmax, newPubKey, true, false, rfl⟩

theorem queues_processNextKey (info : NextKeyInfo) (s : Session δ σ τ) :
    s.Queues (s.processNextKey P info).2 := by
  have happly := queue_applyIncomingDHKey (P := P) (s := s)
  unfold processNextKey
  split_ifs
  · fun_cases processReverseNextKey <;> grind [Queues, queue]
  · fun_cases processForwardNextKey <;> grind [Queues, queue, queues_generateReverseNextKey]
  · fun_cases processNextKeyAck <;> grind [Queues, queue]

/-! ## Next Key blocks of a run -/

/-- What can queue or send a Next Key block. -/
inductive KeyEvent
  | encrypt (now : Time) (plaintextGarlic : Bytes)
  | nextKey (info : NextKeyInfo)
  | incomingDHKey (remotePubKey : Key)

/-- A session with the Next Key blocks it has sent. -/
structure KeyRun (δ σ τ : Type) where
  session : Session δ σ τ
  sent : List PayloadBlock

def KeyRun.step (P : Primitives δ σ τ) (run : KeyRun δ σ τ) : KeyEvent → KeyRun δ σ τ
  | .encrypt now plaintextGarlic =>
    let encrypted := run.session.encryptExistingSession P now plaintextGarlic
    ⟨encrypted.2, run.sent ++
      if encrypted.1.isOk then (run.session.advanceRatchets P).2.pendingNextKeys else []⟩
  | .nextKey info => { run with session := (run.session.processNextKey P info).2 }
  | .incomingDHKey remotePubKey =>
    { run with session := (run.session.applyIncomingDHKey P remotePubKey).2 }

theorem nextKey_newNextKeyBlock (keyID : UInt16) (pub : Key) (reverse requestReverse : Bool) :
    ∃ info, (newNextKeyBlock keyID (some pub) reverse requestReverse).nextKey = .ok info ∧
      info.keyPresent = true ∧ info.keyID = keyID := by
  obtain ⟨pub, hpub⟩ := pub
  cases reverse <;> cases requestReverse <;>
    simp +decide [newNextKeyBlock, PayloadBlock.nextKey, hpub]

/-- The Next Key blocks have numbers of their own, below the next one. -/
structure Numbered (blocks : List PayloadBlock) (sendKeyID : UInt16) : Prop where
  distinct : blocks.Pairwise fun b b' => ∀ info info', b.nextKey = .ok info →
    b'.nextKey = .ok info' → info.keyID ≠ info'.keyID
  below : ∀ b ∈ blocks, ∃ info, b.nextKey = .ok info ∧ info.keyPresent = true ∧
    info.keyID < sendKeyID
  le_max : sendKeyID ≤ maxKeyID

namespace Numbered
variable {blocks blocks' : List PayloadBlock} {sendKeyID : UInt16}

theorem sublist (h : Numbered blocks sendKeyID) (hsub : blocks'.Sublist blocks) :
    Numbered blocks' sendKeyID :=
  ⟨h.distinct.sublist hsub, fun b hb => h.below b (hsub.subset hb), h.le_max⟩

theorem snoc (h : Numbered blocks sendKeyID) (hid : sendKeyID < maxKeyID) (pub : Key)
    (reverse requestReverse : Bool) :
    Numbered (blocks ++ [newNextKeyBlock sendKeyID (some pub) reverse requestReverse])
      (sendKeyID + 1) := by
  obtain ⟨new, hnew, hpresent, hnumber⟩ := nextKey_newNextKeyBlock sendKeyID pub reverse
    requestReverse
  rw [UInt16.lt_iff_toNat_lt] at hid
  have hnext : (sendKeyID + 1).toNat = sendKeyID.toNat + 1 := by
    have : maxKeyID.toNat = 32767 := rfl
    rw [UInt16.toNat_add, UInt16.toNat_one, Nat.mod_eq_of_lt (by omega)]
  obtain ⟨hdistinct, hbelow, -⟩ := h
  refine ⟨List.pairwise_append.mpr ⟨hdistinct, List.pairwise_singleton _ _, ?_⟩, ?_, ?_⟩
  · grind
  · simp only [List.mem_append, List.mem_singleton, UInt16.lt_iff_toNat_lt, hnext]
    rintro b (hb | rfl)
    · obtain ⟨info, hinfo, hkey, hlt⟩ := hbelow b hb
      exact ⟨info, hinfo, hkey, Nat.lt_succ_of_lt hlt⟩
    · exact ⟨new, hnew, hpresent, hnumber ▸ Nat.lt_succ_self _⟩
  · rwa [UInt16.le_iff_toNat_le, hnext]

theorem queues {sent : List PayloadBlock}
    (h : Numbered (sent ++ s.queue.1) s.queue.2) (hqueues : s.Queues s') :
    Numbered (sent ++ s'.queue.1) s'.queue.2 := by
  rcases hqueues with heq | ⟨hid, pub, reverse, requestReverse, heq⟩
  · rwa [heq]
  · rw [heq, ← List.append_assoc]
    exact h.snoc hid pub reverse requestReverse

end Numbered

theorem queue_encryptExistingSession (now : Time) (plaintextGarlic : Bytes) (s : Session δ σ τ) :
    let encrypted := s.encryptExistingSession P now plaintextGarlic
    let advanced := (s.advanceRatchets P).2
    encrypted.1.isOk = false ∧ (encrypted.2.queue = s.queue ∨ encrypted.2.queue = advanced.queue) ∨
      encrypted.2.queue = ([], advanced.sendKeyID) := by
  fun_cases encryptExistingSession <;>
    grind [queue, Except.toBool, prependPendingNextKeys]

/-- The blocks sent and those that wait. -/
def KeyRun.Numbers (run : KeyRun δ σ τ) : Prop :=
  Numbered (run.sent ++ run.session.queue.1) run.session.queue.2

/-- A message that is encrypted takes the queue with it; one that is not may lose it. -/
theorem KeyRun.Numbers.step {run : KeyRun δ σ τ} (h : run.Numbers) (event : KeyEvent) :
    (run.step P event).Numbers := by
  cases event with
  | encrypt now plaintextGarlic =>
    have hadvance := h.queues (queues_advanceRatchets (P := P) run.session)
    unfold KeyRun.step Numbers
    dsimp only
    rcases queue_encryptExistingSession (P := P) now plaintextGarlic run.session with
      ⟨herror, heq | heq⟩ | heq
    · rwa [herror, heq, if_neg Bool.false_ne_true, List.append_nil]
    · rwa [herror, heq, if_neg Bool.false_ne_true, List.append_nil]
    · rw [heq, List.append_nil]
      refine hadvance.sublist (List.Sublist.append_left ?_ _)
      split_ifs
      · exact .refl _
      · exact List.nil_sublist _
  | nextKey info => exact h.queues (queues_processNextKey info run.session)
  | incomingDHKey remotePubKey =>
    exact h.queues (.inl (queue_applyIncomingDHKey remotePubKey run.session))

/-- **Next Key numbers.** In every run of a session that has not rotated yet, the Next Key blocks it
sends carry a key each and numbers of their own, at most 32767; once they are used up, a rotation is
refused. -/
theorem nextKey_ids_distinct (s : Session δ σ τ) (events : List KeyEvent) :
    let run := exec (KeyRun.step P) ⟨{ s with sendKeyID := 0, pendingNextKeys := [] }, []⟩ events
    (run.sent.Pairwise fun b b' => ∀ info info', b.nextKey = .ok info →
        b'.nextKey = .ok info' → info.keyID ≠ info'.keyID) ∧
      (∀ b ∈ run.sent, ∃ info, b.nextKey = .ok info ∧ info.keyPresent = true ∧
        info.keyID ≤ 32767) ∧
      (run.session.sendKeyID = maxKeyID →
        (∃ e, run.session.performDHRatchetStep P = (.error e, run.session)) ∧
        ∃ e, run.session.generateReverseNextKey P = (.error e, run.session)) := by
  intro run
  have hstart : Numbered [] 0 := ⟨.nil, nofun, by decide⟩
  have hrun : run.Numbers :=
    exec_induct (P := fun _ _ => True) (fun _ event h _ => KeyRun.Numbers.step h event) hstart
      (always_iff.mpr fun _ _ _ _ => trivial)
  have hsent := Numbered.sublist hrun (List.sublist_append_left run.sent run.session.queue.1)
  refine ⟨hsent.distinct, fun b hb => ?_, fun hmax => ⟨⟨_, if_pos (hmax ▸ UInt16.le_refl _)⟩, _,
    if_pos (hmax ▸ UInt16.le_refl _)⟩⟩
  obtain ⟨info, hinfo, hkey, hlt⟩ := hsent.below b hb
  exact ⟨info, hinfo, hkey, UInt16.le_of_lt (UInt16.lt_of_lt_of_le hlt hsent.le_max)⟩

/-! ## Sending until the numbers are used up -/

/-- DH ratchet steps succeed, and so does what else a session needs of the library to send. -/
structure Sends (P : Primitives δ σ τ) : Prop where
  step : ∀ s : Session δ σ τ, s.sendKeyID < maxKeyID → ∃ s', s.performDHRatchetStep P = (.ok (), s')
  messageKey : ∀ n r, ∃ key r', P.deriveMessageKeyAndAdvance n r = (.ok key, r')
  tag : ∀ r, ∃ tag r', P.generateNextTag r = (.ok tag, r')
  aead : ∀ key payload tag n, ∃ ciphertext mac,
    encryptWithSessionKey P key payload tag n = .ok (ciphertext, mac)

/-- The handshake is over, the control blocks in the queues can be written, and the next DH ratchet
step is less than an interval away. -/
structure Established (s : Session δ σ τ) : Prop where
  initiator : s.stage.isInitiator = true → s.stage.pending = false
  responder : s.stage.isInitiator = false → s.stage.awaitingFirstES = false
  fits : ∀ b ∈ s.pendingNextKeys ++ s.pendingAcks, b.data.length ≤ maxBlockDataSize
  rotation : s.dhRatchetCounter < dhRatchetInterval

/-- The session after it was asked to send a message at some time. -/
def send (P : Primitives δ σ τ) (s : Session δ σ τ) (message : Time × Bytes) : Session δ σ τ :=
  (s.encryptExistingSession P message.1 message.2).2

/-- The message is encrypted. -/
def Encrypts (P : Primitives δ σ τ) (s : Session δ σ τ) (message : Time × Bytes) : Prop :=
  ∃ msg, (s.encryptExistingSession P message.1 message.2).1 = .ok msg

/-- The number of the next message, of the next Next Key block, and of the messages since the last
DH ratchet step. -/
def counters (s : Session δ σ τ) : ℕ × ℕ × ℕ :=
  (s.messageCounter.toNat, s.sendKeyID.toNat, s.dhRatchetCounter.toNat)

theorem fits_of_queues (h : ∀ b ∈ s.pendingNextKeys ++ s.pendingAcks, b.data.length ≤
    maxBlockDataSize)
    (hqueues : s.Queues s') (hkept : s'.kept = s.kept) :
    ∀ b ∈ s'.pendingNextKeys ++ s'.pendingAcks, b.data.length ≤ maxBlockDataSize := by
  have hacks : s'.pendingAcks = s.pendingAcks := congrArg (fun kept => kept.2.2.2) hkept
  rw [hacks]
  rcases hqueues with heq | ⟨-, pub, reverse, requestReverse, heq⟩
  · rwa [(Prod.mk.inj heq).1]
  · have hnew : (newNextKeyBlock s.sendKeyID (some pub) reverse requestReverse).data.length =
      35 := by
      simp [newNextKeyBlock, pub.2]
    rw [(Prod.mk.inj heq).1]
    simp only [List.mem_append, List.mem_singleton] at h ⊢
    rintro b ((hb | rfl) | hb)
    · exact h b (.inl hb)
    · rw [hnew]
      decide
    · exact h b (.inr hb)

theorem performDHRatchetStep_ok (h : s.performDHRatchetStep P = (.ok (), s')) :
    s'.sendKeyID = s.sendKeyID + 1 := by
  have hqueue := queue_applyRatchetKeys (P := P) true
  unfold performDHRatchetStep at h
  grind [queue]

/-- The DH ratchet counts the messages, and after an interval the Next Key blocks. -/
theorem advanceRatchets_ok (hP : Sends P) (hs : s.Established) (hid : s.sendKeyID < maxKeyID)
    (hnumber : s.messageCounter < maxMessageNumber) :
    ∃ messageKey sessionTag s', s.advanceRatchets P = (.ok (messageKey, sessionTag), s') ∧
      s'.sendKeyID.toNat = s.sendKeyID.toNat + (s.dhRatchetCounter.toNat + 1) / 50 ∧
      s'.dhRatchetCounter.toNat = (s.dhRatchetCounter.toNat + 1) % 50 := by
  obtain ⟨s₁, hattempt, hrotated⟩ : ∃ s₁, s.attemptDHRatchetRotation P = (.ok (), s₁) ∧
      s₁.sendKeyID.toNat = s.sendKeyID.toNat + (s.dhRatchetCounter.toNat + 1) / 50 ∧
      s₁.dhRatchetCounter.toNat = (s.dhRatchetCounter.toNat + 1) % 50 := by
    obtain ⟨s₁, hstep⟩ := hP.step { s with dhRatchetCounter := s.dhRatchetCounter + 1 } hid
    have hrotation : s.dhRatchetCounter.toNat < 50 := UInt32.lt_iff_toNat_lt.mp hs.rotation
    have hid : s.sendKeyID.toNat < 32767 := UInt16.lt_iff_toNat_lt.mp hid
    have hcount : (s.dhRatchetCounter + 1).toNat = s.dhRatchetCounter.toNat + 1 := by
      rw [UInt32.toNat_add, UInt32.toNat_one, Nat.mod_eq_of_lt (by omega)]
    have hnext : (s.sendKeyID + 1).toNat = s.sendKeyID.toNat + 1 := by
      rw [UInt16.toNat_add, UInt16.toNat_one, Nat.mod_eq_of_lt (by omega)]
    unfold attemptDHRatchetRotation
    dsimp only
    split_ifs with hless
    · have hless : (s.dhRatchetCounter + 1).toNat < 50 := UInt32.lt_iff_toNat_lt.mp hless
      exact ⟨_, rfl, by dsimp only; omega, by dsimp only; omega⟩
    · have hmore : 50 ≤ (s.dhRatchetCounter + 1).toNat :=
        UInt32.le_iff_toNat_le.mp (UInt32.not_lt.mp hless)
      rw [hstep]
      refine ⟨_, rfl, ?_, ?_⟩
      · dsimp only
        rw [performDHRatchetStep_ok hstep]
        dsimp only
        omega
      · show 0 = _
        omega
  obtain ⟨messageKey, r, hkey⟩ := hP.messageKey s₁.messageCounter s₁.symmetricRatchet
  obtain ⟨sessionTag, r', htag⟩ := hP.tag s₁.tagRatchet
  unfold advanceRatchets deriveMessageKey generateAndTrackSessionTag
  rw [if_neg (UInt32.not_le.mpr hnumber), hattempt]
  simp only [hkey, htag]
  exact ⟨messageKey, sessionTag, _, rfl, hrotated⟩

/-- **One message.** If there is a number for it, it is encrypted and counted. -/
theorem Established.send (hs : s.Established) (hP : Sends P) (hid : s.sendKeyID < maxKeyID)
    (hnumber : s.messageCounter < maxMessageNumber) (message : Time × Bytes) :
    s.Encrypts P message ∧ (s.send P message).Established ∧ (s.send P message).counters =
      (s.messageCounter.toNat + 1, s.sendKeyID.toNat + (s.dhRatchetCounter.toNat + 1) / 50,
        (s.dhRatchetCounter.toNat + 1) % 50) := by
  have hinitiator : ¬(s.isInitiator ∧ s.handshakeState.isSome) := fun h =>
    Bool.eq_false_iff.mp (hs.initiator h.1) h.2
  have hresponder : ¬(¬s.isInitiator ∧ s.awaitingFirstES) := fun h =>
    Bool.eq_false_iff.mp (hs.responder (Bool.eq_false_iff.mpr h.1)) h.2
  obtain ⟨messageKey, sessionTag, s₁, hadvance, hkeyID, hcount⟩ := advanceRatchets_ok hP hs hid
    hnumber
  have hkept := kept_advanceRatchets (P := P) s
  have hfits := fits_of_queues hs.fits (queues_advanceRatchets (P := P) s) hkept
  rw [hadvance] at hfits hkept
  have hprepend := (prependPendingNextKeys_eq_ok_iff s₁ message.2 _).mpr ⟨rfl, hfits⟩
  have hcounter : s₁.messageCounter = s.messageCounter := congrArg (fun kept => kept.2.2.1) hkept
  have hnumber : s.messageCounter.toNat < 65535 := UInt32.lt_iff_toNat_lt.mp hnumber
  have hqueues : (s₁.prependPendingNextKeys message.2).2 =
      { s₁ with pendingNextKeys := [], pendingAcks := [] } := by
    fun_cases prependPendingNextKeys <;> rfl
  obtain ⟨ciphertext, mac, hsealed⟩ := hP.aead messageKey
    (wireAll (s₁.pendingNextKeys ++ s₁.pendingAcks) ++ message.2) sessionTag s₁.messageCounter
  have hresult : s.encryptExistingSession P message.1 message.2 =
      (.ok (buildExistingSessionMessage sessionTag ciphertext mac), { s₁ with
        pendingNextKeys := []
        pendingAcks := []
        lastUsed := message.1
        messageCounter := s₁.messageCounter + 1 }) := by
    unfold encryptExistingSession
    rw [if_neg hinitiator, if_neg hresponder, hadvance]
    dsimp only
    rw [← Prod.mk.eta (p := s₁.prependPendingNextKeys message.2), hprepend, hqueues]
    simp only [hsealed]
  have hnext : (s₁.messageCounter + 1).toNat = s.messageCounter.toNat + 1 := by
    rw [hcounter, UInt32.toNat_add, UInt32.toNat_one, Nat.mod_eq_of_lt (by omega)]
  have hstage : s₁.stage = s.stage := stage_of_kept hkept
  unfold Encrypts Session.send
  rw [hresult]
  refine ⟨⟨_, rfl⟩, ⟨hstage ▸ hs.initiator, hstage ▸ hs.responder, nofun, ?_⟩, ?_⟩
  · rw [UInt32.lt_iff_toNat_lt, hcount]
    exact Nat.mod_lt _ (by decide)
  · exact Prod.ext hnext (Prod.ext hkeyID hcount)

theorem not_encrypts (hfull : maxMessageNumber ≤ s.messageCounter) (message : Time × Bytes) :
    ¬s.Encrypts P message := by
  rintro ⟨msg, hmsg⟩
  unfold encryptExistingSession at hmsg
  split_ifs at hmsg
  rw [advanceRatchets, if_pos hfull] at hmsg
  cases hmsg

/-- A session without numbers for Next Key blocks stays so. -/
theorem keyID_send (hid : maxKeyID ≤ s.sendKeyID) (message : Time × Bytes) :
    maxKeyID ≤ (s.send P message).sendKeyID := by
  have hqueue := queue_encryptExistingSession (P := P) message.1 message.2 s
  have hadvance := queues_advanceRatchets (P := P) s
  unfold send
  grind [queue, Queues]

/-- **Sending.** While there are numbers for Next Key blocks, an established session sends every
message exactly if none of them reaches the last number: no DH ratchet step sets it back. -/
theorem always_encrypts_iff (hP : Sends P) (hs : s.Established) (messages : List (Time × Bytes)) :
    Always (send P) (fun s message => s.sendKeyID < maxKeyID → s.Encrypts P message) s messages ↔
      ∀ j < messages.length, s.sendKeyID.toNat + (s.dhRatchetCounter.toNat + j) / 50 < 32767 →
        s.messageCounter.toNat + j < 65535 := by
  induction messages generalizing s with
  | nil => exact iff_of_true trivial nofun
  | cons message messages ih =>
    have hrotation : s.dhRatchetCounter.toNat < 50 := UInt32.lt_iff_toNat_lt.mp hs.rotation
    by_cases hid : s.sendKeyID < maxKeyID
    · have hid' : s.sendKeyID.toNat < 32767 := UInt16.lt_iff_toNat_lt.mp hid
      by_cases hnumber : s.messageCounter < maxMessageNumber
      · have hnumber' : s.messageCounter.toNat < 65535 := UInt32.lt_iff_toNat_lt.mp hnumber
        obtain ⟨hencrypts, hnext, hcounters⟩ := hs.send hP hid hnumber message
        obtain ⟨hcounter, hkeyID, hcount⟩ : _ ∧ _ ∧ _ := by
          simpa only [counters, Prod.mk.injEq] using hcounters
        rw [Always, ih hnext, hcounter, hkeyID, hcount]
        constructor
        · rintro ⟨-, hrest⟩ (_ | j) hj hleft
          · exact hnumber'
          · have := hrest j (Nat.lt_of_succ_lt_succ hj) (by omega)
            omega
        · refine fun hall => ⟨fun _ => hencrypts, fun j hj hleft => ?_⟩
          have := hall (j + 1) (Nat.succ_lt_succ hj) (by omega)
          omega
      · have hfull : 65535 ≤ s.messageCounter.toNat :=
          UInt32.le_iff_toNat_le.mp (UInt32.not_lt.mp hnumber)
        refine iff_of_false (fun hall => ?_) fun hall => ?_
        · exact not_encrypts (UInt32.not_lt.mp hnumber) message (hall.1 hid)
        · have := hall 0 (Nat.succ_pos _) (by omega)
          omega
    · rw [UInt16.not_lt] at hid
      have hid' : 32767 ≤ s.sendKeyID.toNat := UInt16.le_iff_toNat_le.mp hid
      refine iff_of_true (always_iff.mpr fun pre message' post _ hless => ?_) fun j _ hleft => ?_
      · have hstays : maxKeyID ≤ (exec (send P) s pre).sendKeyID :=
          exec_induct (P := fun _ _ => True) (I := fun s : Session δ σ τ => maxKeyID ≤ s.sendKeyID)
            (fun _ message h _ => keyID_send h message) hid (always_iff.mpr fun _ _ _ _ => trivial)
        exact absurd hless (UInt16.not_lt.mpr hstays)
      · omega

/-- **Sending.** The messages that an established session is to send while there are numbers for
Next Key blocks are all encrypted exactly if they fit below the largest message number, which no DH
ratchet step sets back. -/
theorem sends_iff (hP : Sends P) (hs : s.Established) (messages : List (Time × Bytes)) :
    Always (send P) (fun s message => s.sendKeyID < maxKeyID → s.Encrypts P message) s messages ↔
      let n := min messages.length
        (50 * (maxKeyID.toNat - s.sendKeyID.toNat) - s.dhRatchetCounter.toNat)
      n = 0 ∨ s.messageCounter.toNat + n ≤ maxMessageNumber.toNat := by
  have hrotation : s.dhRatchetCounter.toNat < 50 := UInt32.lt_iff_toNat_lt.mp hs.rotation
  have hmax : maxKeyID.toNat = 32767 := rfl
  have hmax' : maxMessageNumber.toNat = 65535 := rfl
  rw [always_encrypts_iff hP hs]
  dsimp only
  constructor
  · intro hall
    by_contra hmore
    have := hall (min messages.length
      (50 * (maxKeyID.toNat - s.sendKeyID.toNat) - s.dhRatchetCounter.toNat) - 1) (by omega)
        (by omega)
    omega
  · intro hfits j hj hleft
    omega

theorem sends_countingPrimitives : Sends countingPrimitives where
  step _ hid := ⟨_, if_neg (UInt16.not_le.mpr hid)⟩
  messageKey _ _ := ⟨_, _, rfl⟩
  tag _ := ⟨_, _, rfl⟩
  aead _ _ _ _ := ⟨_, _, rfl⟩

theorem established_counting :
    ∃ s, createSession countingPrimitives 0 (.ofNat 32 9) ⟨.ofNat 32 1, .ofNat 32 2⟩ (.ofNat 32 8)
      false = .ok s ∧ s.Established ∧ s.counters = (1, 0, 0) := by
  refine ⟨_, rfl, ⟨fun _ => rfl, fun _ => rfl, ?_, by decide⟩, rfl⟩
  exact nofun

/-- A responder's session sends 120 messages, over two DH ratchet steps. -/
theorem sends_iff_counting :
    ∃ s, createSession countingPrimitives 0 (.ofNat 32 9) ⟨.ofNat 32 1, .ofNat 32 2⟩ (.ofNat 32 8)
        false = .ok s ∧
      Always (send countingPrimitives) (fun s message => s.sendKeyID < maxKeyID →
        s.Encrypts countingPrimitives message) s (List.replicate 120 (0, [1])) := by
  obtain ⟨s, hs, hestablished, hcounters⟩ := established_counting
  obtain ⟨hcounter, hkeyID, hcount⟩ : _ ∧ _ ∧ _ := by
    simpa only [counters, Prod.mk.injEq] using hcounters
  refine ⟨s, hs, (sends_iff sends_countingPrimitives hestablished _).mpr (.inr ?_)⟩
  rw [List.length_replicate, hcounter, hkeyID, hcount]
  decide

/-- **Out of numbers.** Of 65535 messages a responder's session does not send all. -/
theorem sends_stop :
    ∃ s, createSession countingPrimitives 0 (.ofNat 32 9) ⟨.ofNat 32 1, .ofNat 32 2⟩ (.ofNat 32 8)
        false = .ok s ∧ s.Established ∧
      ¬Always (send countingPrimitives) (fun s message => s.sendKeyID < maxKeyID →
        s.Encrypts countingPrimitives message) s (List.replicate 65535 (0, [1])) := by
  obtain ⟨s, hs, hestablished, hcounters⟩ := established_counting
  obtain ⟨hcounter, hkeyID, hcount⟩ : _ ∧ _ ∧ _ := by
    simpa only [counters, Prod.mk.injEq] using hcounters
  refine ⟨s, hs, hestablished, fun hall => ?_⟩
  have hlast := (always_encrypts_iff sends_countingPrimitives hestablished _).mp hall 65534
  rw [List.length_replicate, hcounter, hkeyID, hcount] at hlast
  exact absurd (hlast (by decide) (by decide)) (by decide)

end Session
end GoNoise.Ratchet
