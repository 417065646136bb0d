import GoNoise.Ratchet.Session

/-!
# One direction of a session

Between two DH ratchet steps the two ratchets of one direction go through fixed sequences: message
`n` has the `n`-th key and the `n`-th tag. `SendChain` is such a pair of sequences; the sender walks
along it and the receiver walks ahead of what it has received.
-/

namespace GoNoise.Ratchet

variable {δ σ τ : Type} {P : Primitives δ σ τ}

/-- The states, keys and tags that the ratchets of one direction go through. The first message has
number 1. -/
structure SendChain (P : Primitives δ σ τ) where
  sym : ℕ → σ
  key : ℕ → Key
  tags : ℕ → τ
  tag : ℕ → Tag
  derive : ∀ n, 0 < n →
    P.deriveMessageKeyAndAdvance (UInt32.ofNat n) (sym n) = (.ok (key n), sym (n + 1))
  next : ∀ n, 0 < n → P.generateNextTag (tags n) = (.ok (tag n), tags (n + 1))

namespace SendChain

variable (c : SendChain P)

/-- Message `n` of the chain with a payload. `advanceRatchets` refuses greater numbers. -/
structure Emits (n : ℕ) (payload msg : Bytes) : Prop where
  pos : 0 < n
  lt : n < maxMessageNumber.toNat
  sealed : ∃ ciphertext tag,
    encryptWithSessionKey P (c.key n) payload (c.tag n) (UInt32.ofNat n) = .ok (ciphertext, tag) ∧
      msg = buildExistingSessionMessage (c.tag n) ciphertext tag

/-- The AEAD opens what it sealed, and a ciphertext of the chain opens under no other key and number
of the chain. -/
structure Authentic : Prop where
  opens : ∀ {n payload ciphertext tag},
    encryptWithSessionKey P (c.key n) payload (c.tag n) (UInt32.ofNat n) = .ok (ciphertext, tag) →
      decryptWithSessionTag P (c.key n) ciphertext tag (c.tag n) (UInt32.ofNat n) = .ok payload
  only : ∀ {m n payload ciphertext tag plaintext},
    encryptWithSessionKey P (c.key n) payload (c.tag n) (UInt32.ofNat n) = .ok (ciphertext, tag) →
      m < 2 ^ 32 → n < 2 ^ 32 →
        decryptWithSessionTag P (c.key m) ciphertext tag (c.tag n) (UInt32.ofNat m) =
          .ok plaintext → m = n

/-- The tags of the chain do not repeat while counters last. -/
def UniqueTags : Prop := ∀ m n, m < 2 ^ 32 → n < 2 ^ 32 → 0 < m → 0 < n → c.tag m = c.tag n → m = n

end SendChain

/-! ## The sender -/

/-- The sending ratchets stand at the message counter. -/
structure Session.Speaks (s : Session δ σ τ) (c : SendChain P) : Prop where
  pos : 0 < s.messageCounter.toNat
  sym : s.symmetricRatchet = c.sym s.messageCounter.toNat
  tags : s.tagRatchet = c.tags s.messageCounter.toNat

section
variable {c : SendChain P} {s s' : Session δ σ τ} {now : Time} {plaintext msg : Bytes}

/-- Key and tag of the next message, while no DH ratchet step is due. -/
theorem advanceRatchets_of_speaks (hs : s.Speaks c)
    (hrot : s.dhRatchetCounter + 1 < dhRatchetInterval)
    (hnum : s.messageCounter < maxMessageNumber) :
    s.advanceRatchets P =
      (.ok (c.key s.messageCounter.toNat, c.tag s.messageCounter.toNat),
        { s with
          dhRatchetCounter := s.dhRatchetCounter + 1
          symmetricRatchet := c.sym (s.messageCounter.toNat + 1)
          tagRatchet := c.tags (s.messageCounter.toNat + 1) }) := by
  have hkey := c.derive _ hs.pos
  rw [UInt32.ofNat_toNat, ← hs.sym] at hkey
  have htag := c.next _ hs.pos
  rw [← hs.tags] at htag
  have hrotation : s.attemptDHRatchetRotation P =
      (.ok (), { s with dhRatchetCounter := s.dhRatchetCounter + 1 }) := by
    unfold Session.attemptDHRatchetRotation
    rw [if_pos hrot]
  unfold Session.advanceRatchets
  rw [if_neg (UInt32.not_le.mpr hnum), hrotation]
  unfold Session.deriveMessageKey Session.generateAndTrackSessionTag
  dsimp only
  rw [hkey]
  dsimp only
  rw [htag]

/-- A session emits the next message of its chain while no DH ratchet step is due and no control
block is queued. -/
theorem encryptExistingSession_of_speaks (hs : s.Speaks c)
    (hrot : s.dhRatchetCounter + 1 < dhRatchetInterval) (hkeys : s.pendingNextKeys = [])
    (hacks : s.pendingAcks = [])
    (h : s.encryptExistingSession P now plaintext = (.ok msg, s')) :
    c.Emits s.messageCounter.toNat plaintext msg ∧
      s' = { s with
        dhRatchetCounter := s.dhRatchetCounter + 1
        symmetricRatchet := c.sym (s.messageCounter.toNat + 1)
        tagRatchet := c.tags (s.messageCounter.toNat + 1)
        lastUsed := now
        messageCounter := s.messageCounter + 1 } := by
  unfold Session.encryptExistingSession at h
  split_ifs at h
  · cases h
  · cases h
  by_cases hnum : s.messageCounter < maxMessageNumber
  · rw [advanceRatchets_of_speaks hs hrot hnum] at h
    unfold Session.prependPendingNextKeys at h
    simp only [hkeys, hacks, List.append_nil, List.length_nil, if_true] at h
    split at h
    · cases h
    next ciphertext tag hsealed =>
      obtain ⟨rfl, rfl⟩ := h
      refine ⟨⟨hs.pos, UInt32.lt_iff_toNat_lt.mp hnum, ciphertext, tag, ?_, rfl⟩, ?_⟩
      · rwa [UInt32.ofNat_toNat]
      · rw [hkeys, hacks]
  · unfold Session.advanceRatchets at h
    rw [if_pos (UInt32.not_lt.mp hnum)] at h
    cases h

end

/-! ## A library that counts -/

/-- Ratchets that count, and an AEAD that writes the number and a part of the key into the
authentication tag. -/
def countingPrimitives : Primitives ℕ (ℕ × ℕ) (ℕ × ℕ) where
  newDHRatchet _ _ _ := 0
  generateNewKeyPair d := (.ok (.ofNat 32 (d + 1)), d + 1)
  updateKeys _ d := (.ok (), d + 1)
  performRatchet d := (.ok (.ofNat 32 (1000 + d), .ofNat 32 (2000 + d)), d)
  newSymmetricRatchet k := (BigEndian.beNat k.val, 0)
  deriveMessageKeyAndAdvance _ r := (.ok (.ofNat 32 (r.1 * 2 ^ 32 + r.2)), (r.1, r.2 + 1))
  newTagRatchet k := (BigEndian.beNat k.val % 2 ^ 32, 0)
  generateNextTag r := (.ok (.ofNatLE 8 (r.1 * 2 ^ 32 + r.2)), (r.1, r.2 + 1))
  deriveKeys k _ :=
    .ok (.ofNat 32 (2 * BigEndian.beNat k.val), .ofNat 32 (2 * BigEndian.beNat k.val + 1))
  newAEAD k := .ok {
    encrypt := fun plaintext _ nonce =>
      .ok (plaintext, .copyFrom 16 (nonce.drop 4 ++ k.val.drop 24))
    decrypt := fun ciphertext tag _ nonce =>
      if tag = (FixedBytes.copyFrom 16 (nonce.drop 4 ++ k.val.drop 24)).val then .ok ciphertext
      else .error (.errorf "message authentication failed") }

def countingChain (symRoot tagRoot : ℕ) : SendChain countingPrimitives where
  sym n := (symRoot, n - 1)
  key n := .ofNat 32 (symRoot * 2 ^ 32 + (n - 1))
  tags n := (tagRoot, n - 1)
  tag n := .ofNatLE 8 (tagRoot * 2 ^ 32 + (n - 1))
  derive n hn := by
    have hsucc : n - 1 + 1 = n + 1 - 1 := by omega
    simp only [countingPrimitives, hsucc]
  next n hn := by
    have hsucc : n - 1 + 1 = n + 1 - 1 := by omega
    simp only [countingPrimitives, hsucc]

theorem authentic_countingChain (symRoot tagRoot : ℕ) :
    (countingChain symRoot tagRoot).Authentic where
  opens := by
    rintro n payload ciphertext tag ⟨⟩
    simp [decryptWithSessionTag, countingPrimitives]
  only := by
    rintro m n payload ciphertext tag plaintext ⟨⟩ hm hn hopen
    -- the authentication tag starts with the number
    have hnonce : ∀ k : ℕ, (buildNonce (UInt32.ofNat k).toUInt64).drop 4 =
        (BigEndian.putUint64 (UInt32.ofNat k).toUInt64).reverse := fun k => rfl
    simp only [decryptWithSessionTag, countingPrimitives, hnonce] at hopen
    split at hopen
    · cases hopen
    next heq =>
      split_ifs at heq with htag
      have hhead := congrArg (List.take 8) htag
      simp only [FixedBytes.copyFrom, List.take_take, List.append_assoc] at hhead
      rw [List.take_left' (by simp), List.take_left' (by simp), List.reverse_inj] at hhead
      have hnum := congrArg (fun b => (BigEndian.uint64 b).toNat) hhead
      have hmod : m % 2 ^ 32 = n % 2 ^ 32 := by simpa [eq_comm] using hnum
      rwa [Nat.mod_eq_of_lt hm, Nat.mod_eq_of_lt hn] at hmod

theorem uniqueTags_countingChain {symRoot tagRoot : ℕ} (h : tagRoot < 2 ^ 32) :
    (countingChain symRoot tagRoot).UniqueTags := by
  intro m n hm hn hm₀ hn₀ htag
  have hfit : ∀ k, k < 2 ^ 32 → tagRoot * 2 ^ 32 + (k - 1) < 256 ^ 8 := by
    intro k hk
    norm_num at h hk ⊢
    omega
  have hnum := (FixedBytes.ofNatLE_inj (hfit m hm) (hfit n hn)).mp htag
  omega

end GoNoise.Ratchet
