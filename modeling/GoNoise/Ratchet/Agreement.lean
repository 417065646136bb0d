import GoNoise.Ratchet.NewSession
import GoNoise.Ratchet.Rotation

/-!
# What the two sides agree on

After a New Session message the responder knows what the initiator knows, and after the New Session
Reply each side receives with the ratchets that the other one sends with.
-/

namespace GoNoise.Ratchet

open Noise SessionManager

variable {δ σ τ : Type}

/-- A tag ratchet after some tags. -/
inductive Primitives.Draws (P : Primitives δ σ τ) : τ → τ → Prop
  | refl (r : τ) : Draws P r r
  | draw {r r' r'' : τ} {tag : Tag} : P.generateNextTag r = (.ok tag, r') → Draws P r' r'' →
      Draws P r r''

/-- What the first session sends, the second expects: they have the same chain of message keys, from
its first message on, and the tags of the second are drawn ahead from those of the first. -/
structure SendsTo (P : Primitives δ σ τ) (s s' : Session δ σ τ) : Prop where
  sym : s'.recvSymmetricRatchet = some s.symmetricRatchet
  counter : s.messageCounter = 1 ∧ s'.recvWindowBase = 1
  tags : ∃ r, s'.recvTagRatchet = some r ∧ P.Draws s.tagRatchet r

variable {P : Primitives δ σ τ} {turns p : ℕ} {nsrKeys : NSRSessionKeys}
  {w w' : Session δ σ τ × SessionManager δ σ τ}

/-- The ratchet of a tag window that was generated without an error. -/
theorem draws_generateTagWindow {r : τ} (hr : w.1.recvTagRatchet = some r)
    (h : generateTagWindow P p turns w = some (.ok (), w')) :
    ∃ r', w'.1.recvTagRatchet = some r' ∧ P.Draws r r' := by
  induction turns generalizing w r with
  | zero => cases h
  | succ turns ih =>
    rw [generateTagWindow, hr] at h
    dsimp only at h
    split_ifs at h
    · cases h
      exact ⟨r, hr, .refl r⟩
    · split at h
      · cases h
      next tag r₁ hgen =>
        obtain ⟨r', hr', hdraws⟩ : ∃ r', w'.1.recvTagRatchet = some r' ∧ P.Draws r₁ r' := by
          split_ifs at h
          · exact ih rfl h
          · exact ih rfl h
        exact ⟨r', hr', .draw hgen hdraws⟩

theorem ratchets_applyNSRKeys {isInitiator : Bool}
    (h : applyNSRKeysToSessionWhileLocked P turns p nsrKeys isInitiator w =
      some (.ok (), w')) :
    ∃ sendTagKey sendSymKey recvTagKey recvSymKey,
      deriveTagAndSymKeysFromChainKey P (if isInitiator then nsrKeys.keyAB else nsrKeys.keyBA) =
        .ok (sendTagKey, sendSymKey) ∧
      deriveTagAndSymKeysFromChainKey P (if isInitiator then nsrKeys.keyBA else nsrKeys.keyAB) =
        .ok (recvTagKey, recvSymKey) ∧
      w'.1.symmetricRatchet = P.newSymmetricRatchet sendSymKey ∧
      w'.1.tagRatchet = P.newTagRatchet sendTagKey ∧
      w'.1.recvSymmetricRatchet = some (P.newSymmetricRatchet recvSymKey) ∧
      (∃ r, w'.1.recvTagRatchet = some r ∧ P.Draws (P.newTagRatchet recvTagKey) r) ∧
      w'.1.messageCounter = 1 ∧ w'.1.recvWindowBase = 1 := by
  unfold applyNSRKeysToSessionWhileLocked at h
  dsimp only at h
  split at h
  · cases h
  next sendTagKey sendSymKey hsend =>
    split at h
    · cases h
    next recvTagKey recvSymKey hrecv =>
      have honly := (only_generateTagWindow h).1
      have hdraws := draws_generateTagWindow rfl h
      refine ⟨_, _, _, _, hsend, hrecv, ?_, ?_, ?_, hdraws, ?_, ?_⟩ <;>
        · rw [honly]
          rfl

/-- Mirrored keys. The keys of one reply, applied by the initiator and by the responder. -/
theorem sendsTo_applyNSRKeys {turns' p' : ℕ} {a a' b b' : Session δ σ τ × SessionManager δ σ τ}
    (ha : applyNSRKeysToSessionWhileLocked P turns p nsrKeys true a =
      some (.ok (), a'))
    (hb : applyNSRKeysToSessionWhileLocked P turns' p' nsrKeys false b =
      some (.ok (), b')) : SendsTo P a'.1 b'.1 ∧ SendsTo P b'.1 a'.1 := by
  obtain ⟨_, _, _, _, hAB, hBA, hsym, htag, hrsym, hrtag, hcounter, hbase⟩ :=
    ratchets_applyNSRKeys ha
  obtain ⟨_, _, _, _, hBA', hAB', hsym', htag', hrsym', hrtag', hcounter', hbase'⟩ :=
    ratchets_applyNSRKeys hb
  cases hAB.symm.trans hAB'
  cases hBA.symm.trans hBA'
  exact ⟨⟨by rw [hrsym', hsym], ⟨hcounter, hbase'⟩, by rw [htag]; exact hrtag'⟩,
    ⟨by rw [hrsym, hsym'], ⟨hcounter', hbase⟩, by rw [htag']; exact hrtag⟩⟩

variable {N : NoiseLibrary}

theorem nsrTagOf_eq_ok {chainKey : Bytes} {e₁ e₂ e₁' e₂' : String} {tag : Tag}
    (h : nsrTagOf N P chainKey e₁ e₂ = .ok tag) : nsrTagOf N P chainKey e₁' e₂' = .ok tag := by
  simp only [nsrTagOf, Fallible.bind_eq_ok, Fallible.mapError_eq_ok] at h ⊢
  exact h

/-- **New Session and New Session Reply.** The responder reads the payload of a bound message, the
static key of the initiator, and the chaining key and hash of the initiator. The initiator then
reads the payload of the reply; the tag of the reply is the one that it registered, and the keys
that both sides apply give both directions. Of an unbound message, the responder reads the payload,
no static key, and is in the state of the writer. -/
theorem newSession_agreement (hN : N.Lawful) (hP : P.OpensSealed) (aPriv bPriv : Key)
    (aEph bEph payload reply : Bytes) :
    (∀ msg keys hs, ¬isAllZeros (N.publicKey aPriv.val).val →
      writeNoiseIKMessage1 N (.ok (N.publicKey aEph, aEph)) aPriv (N.publicKey aPriv.val)
        (N.publicKey bPriv.val) payload = .ok (msg, keys, hs) →
      ∃ hs', readNoiseIKMessage1 N bPriv (N.publicKey bPriv.val) msg =
          .ok ⟨payload, N.publicKey aPriv.val, keys, some hs', false⟩ ∧
        hs'.ck = hs.ck ∧ hs'.h = hs.h ∧
        ∀ tag wireMsg nsrKeys,
          writeNoiseIKMessage2 N P (.ok (N.publicKey bEph, bEph)) hs' reply =
            .ok (tag, wireMsg, nsrKeys) →
          readNoiseIKMessage2 N P hs aPriv wireMsg = .ok (reply, nsrKeys) ∧
          FixedBytes.copyFrom 8 (wireMsg.take 8) = tag ∧
          (∀ p (s : Session δ σ τ) sm, ∃ s' sm',
            SessionManager.registerNSRTagLocked N P p hs (s, sm) = (.ok (), s', sm') ∧
              s'.nsrTag = some tag ∧ sm'.nsrTagIndex.lookup tag = some p) ∧
          ∀ turns turns' p p' (a a' b b' : Session δ σ τ × SessionManager δ σ τ),
            SessionManager.applyNSRKeysToSessionWhileLocked P turns p nsrKeys true a =
              some (.ok (), a') →
            SessionManager.applyNSRKeysToSessionWhileLocked P turns' p' nsrKeys false b =
              some (.ok (), b') → SendsTo P a'.1 b'.1 ∧ SendsTo P b'.1 a'.1) ∧
    ∀ msg keys,
      writeNoiseIKMessage1Unbound N (.ok (N.publicKey aEph, aEph)) (N.publicKey bPriv.val) payload =
        .ok (msg, keys) →
      readNoiseIKMessage1 N bPriv (N.publicKey bPriv.val) msg =
          .ok ⟨payload, .copyFrom 32 [], keys, none, true⟩ ∧
        ∃ ns ns₁ : SymmetricState,
          sealUnbound N (.ok (N.publicKey aEph, aEph)) (N.publicKey bPriv.val) payload =
            .ok (msg, ns) ∧
          openStatic N bPriv (N.publicKey bPriv.val) msg =
            .ok (N.publicKey aEph, List.replicate 32 0, ns₁) ∧
          openUnbound N (encryptedPayloadOf msg) ns₁ = .ok (payload, ns) := by
  refine ⟨fun msg keys hs hbound hwrite => ?_, fun msg keys hwrite => ?_⟩
  · obtain ⟨heph, hread⟩ := readNoiseIKMessage1_of_write hN hbound hwrite
    refine ⟨_, hread, rfl, rfl, fun tag wireMsg nsrKeys hreply => ?_⟩
    obtain ⟨htag, hnsr, hread₂⟩ := readNoiseIKMessage2_of_write hN hP ⟨rfl, rfl, heph⟩ hreply
    refine ⟨hread₂, htag, fun p s sm => ?_, fun turns turns' p p' a a' b b' ha hb => ?_⟩
    · unfold registerNSRTagLocked
      rw [nsrTagOf_eq_ok hnsr]
      exact ⟨_, _, rfl, rfl, AList.lookup_insert _⟩
    · exact sendsTo_applyNSRKeys ha hb
  · obtain ⟨hstate, hread⟩ := readNoiseIKMessage1_of_writeUnbound hN hwrite
    exact ⟨hread, hstate⟩

theorem opensSealed_countingPrimitives : countingPrimitives.OpensSealed := by
  rintro key aead plaintext ad nonce ciphertext tag ⟨⟩ ⟨⟩
  simp

/-- Both messages, with the library that counts. -/
theorem newSession_agreement_counting :
    ∃ msg keys hs hs',
      writeNoiseIKMessage1 countingNoise (.ok (countingNoise.publicKey [7], [7])) (.ofNat 32 3)
        (countingNoise.publicKey (FixedBytes.ofNat 32 3).val)
        (countingNoise.publicKey (FixedBytes.ofNat 32 5).val) [1, 2] = .ok (msg, keys, hs) ∧
      readNoiseIKMessage1 countingNoise (.ofNat 32 5)
        (countingNoise.publicKey (FixedBytes.ofNat 32 5).val) msg =
          .ok ⟨[1, 2], countingNoise.publicKey (FixedBytes.ofNat 32 3).val, keys, some hs', false⟩ ∧
      ∃ tag wireMsg nsrKeys,
        writeNoiseIKMessage2 countingNoise countingPrimitives
          (.ok (countingNoise.publicKey [9], [9])) hs' [4] = .ok (tag, wireMsg, nsrKeys) ∧
        readNoiseIKMessage2 countingNoise countingPrimitives hs (.ofNat 32 3) wireMsg =
          .ok ([4], nsrKeys) := by
  obtain ⟨hbound, -⟩ := newSession_agreement lawful_countingNoise opensSealed_countingPrimitives
    (.ofNat 32 3) (.ofNat 32 5) [7] [9] [1, 2] [4]
  obtain ⟨msg, keys, hs, hwrite⟩ : ∃ msg keys hs,
      writeNoiseIKMessage1 countingNoise (.ok (countingNoise.publicKey [7], [7])) (.ofNat 32 3)
        (countingNoise.publicKey (FixedBytes.ofNat 32 3).val)
        (countingNoise.publicKey (FixedBytes.ofNat 32 5).val) [1, 2] = .ok (msg, keys, hs) :=
    ⟨_, _, _, rfl⟩
  obtain ⟨hs', hread, -, -, hreply⟩ := hbound msg keys hs (by decide) hwrite
  obtain ⟨tag, wireMsg, nsrKeys, hwrite₂⟩ : ∃ tag wireMsg nsrKeys,
      writeNoiseIKMessage2 countingNoise countingPrimitives
        (.ok (countingNoise.publicKey [9], [9])) hs' [4] = .ok (tag, wireMsg, nsrKeys) :=
    ⟨_, _, _, rfl⟩
  exact ⟨msg, keys, hs, hs', hwrite, hread, tag, wireMsg, nsrKeys, hwrite₂,
    (hreply tag wireMsg nsrKeys hwrite₂).1⟩

/-! ## The messages that follow -/

open SendPair Session Trace

end GoNoise.Ratchet
