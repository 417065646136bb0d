import GoNoise.Ratchet.TagIndex
import Mathlib.Data.Finset.SDiff
import Mathlib.Order.Interval.Finset.Nat

/-!
# The window of tags

A session draws tags ahead of the messages, a window of 24 at first, and draws again when a message
leaves it less than 12. A tag that is drawn stays until its message arrives.
-/

namespace GoNoise.Ratchet

open SessionManager

variable {δ σ τ : Type} {P : Primitives δ σ τ} {c : SendChain P} {p n : ℕ}
  {tagIndex : GoMap Tag ℕ} {pendingTags : List Tag} {expected : Finset ℕ}

/-! ## Expected messages -/

/-- The tags of these messages are pending and registered for the session at `p`, and no other tag
of the chain is registered. -/
structure Expects (c : SendChain P) (p : ℕ) (tagIndex : GoMap Tag ℕ) (pendingTags : List Tag)
    (expected : Finset ℕ) : Prop where
  pending : (pendingTags : Multiset Tag) = expected.val.map c.tag
  lookup : ∀ n, 0 < n → n < 2 ^ 32 →
    tagIndex.lookup (c.tag n) = if n ∈ expected then some p else none

namespace Expects

section
variable (h : Expects c p tagIndex pendingTags expected)
include h

theorem length_eq : pendingTags.length = expected.card := by
  rw [← Multiset.coe_card, h.pending, Multiset.card_map, Finset.card_val]

theorem use (hc : c.UniqueTags) (hn : n ∈ expected) (hpos : 0 < n) (hlt : n < 2 ^ 32) :
    Expects c p (tagIndex.erase (c.tag n)) (removeTagFromPendingList (c.tag n) pendingTags)
      (expected.erase n) where
  pending := by
    have hmem : c.tag n ∈ pendingTags := by
      rw [← Multiset.mem_coe, h.pending]
      exact Multiset.mem_map_of_mem c.tag hn
    have hcons := Multiset.coe_eq_coe.mpr (perm_cons_removeTagFromPendingList hmem)
    rw [h.pending, ← Finset.insert_erase hn,
      Finset.insert_val_of_notMem (Finset.notMem_erase n expected), Multiset.map_cons,
      ← Multiset.cons_coe] at hcons
    exact (Multiset.cons_inj_right _).mp hcons
  lookup m hm hm' := by
    by_cases hmn : m = n
    · rw [hmn, AList.lookup_erase, if_neg (Finset.notMem_erase n expected)]
    · have htag : c.tag m ≠ c.tag n := fun he => hmn (hc m n hm' hlt hm hpos he)
      rw [AList.lookup_erase_ne htag, h.lookup m hm hm']
      refine if_congr ?_ rfl rfl
      rw [Finset.mem_erase, and_iff_right hmn]

theorem register (hc : c.UniqueTags) (hn : n ∉ expected) (hpos : 0 < n) (hlt : n < 2 ^ 32) :
    Expects c p (tagIndex.insert (c.tag n) p) (pendingTags ++ [c.tag n]) (insert n expected) where
  pending := by
    rw [← Multiset.coe_add, h.pending, Finset.insert_val_of_notMem hn, Multiset.map_cons,
      Multiset.coe_singleton, Multiset.add_comm, Multiset.singleton_add]
  lookup m hm hm' := by
    by_cases hmn : m = n
    · rw [hmn, AList.lookup_insert, if_pos (Finset.mem_insert_self n expected)]
    · have htag : c.tag m ≠ c.tag n := fun he => hmn (hc m n hm' hlt hm hpos he)
      rw [AList.lookup_insert_ne htag, h.lookup m hm hm']
      refine if_congr ?_ rfl rfl
      rw [Finset.mem_insert, or_iff_right hmn]

end

theorem not_collides {sm : SessionManager δ σ τ}
    (h : Expects c p sm.tagIndex pendingTags expected) (hpos : 0 < n) (hlt : n < 2 ^ 32) :
    sm.collides p (c.tag n) = false := by
  unfold collides
  rw [h.lookup n hpos hlt]
  split_ifs <;> simp

end Expects

/-! ## Drawing tags -/

theorem drawTags_of_chain (i turns : ℕ) {s : Session δ σ τ} (hn : s.nextRecvTagCounter.toNat = n)
    (hpos : 0 < n) (hratchet : s.recvTagRatchet = some (c.tags n)) (hlt : n + turns < 2 ^ 32) :
    s.drawTags P i turns (c.tags n) =
      (.ok ((List.range' n turns).map fun k => (c.tag k, UInt32.ofNat k)),
        { s with
          recvTagRatchet := some (c.tags (n + turns))
          nextRecvTagCounter := UInt32.ofNat (n + turns) }) := by
  induction turns generalizing i n s with
  | zero =>
    rw [Session.drawTags, Nat.add_zero, ← hratchet, ← hn, UInt32.ofNat_toNat]
    rfl
  | succ turns ih =>
    have hnext : (s.nextRecvTagCounter + 1).toNat = n + 1 := by
      rw [UInt32.toNat_add, UInt32.toNat_one, hn, Nat.mod_eq_of_lt (by omega)]
    have hrest := ih (i + 1) (s := { s with
      recvTagRatchet := some (c.tags (n + 1)), nextRecvTagCounter := s.nextRecvTagCounter + 1 })
      hnext (Nat.succ_pos n) rfl (by omega)
    rw [Session.drawTags, c.next n hpos]
    dsimp only
    rw [hrest, List.range'_succ, List.map_cons, ← hn, UInt32.ofNat_toNat, Nat.add_right_comm,
      Nat.add_assoc]

namespace SessionManager

variable {w : Session δ σ τ × SessionManager δ σ τ}

/-- A batch of new tags is registered as a whole while there is room. -/
theorem install_of_chain (hc : c.UniqueTags) {numbers : List ℕ} (hnodup : numbers.Nodup)
    (hnew : ∀ k ∈ numbers, k ∉ expected ∧ 0 < k ∧ k < 2 ^ 32)
    (h : Expects c p w.2.tagIndex w.1.pendingTags expected)
    (hroom : expected.card + numbers.length ≤ tagWindowSize) :
    ∃ w', installGeneratedTagsLocked p (numbers.map fun k => (c.tag k, UInt32.ofNat k)) w = w' ∧
      Expects c p w'.2.tagIndex w'.1.pendingTags (expected ∪ numbers.toFinset) := by
  refine ⟨_, rfl, ?_⟩
  induction numbers generalizing w expected with
  | nil => simpa [installGeneratedTagsLocked] using h
  | cons k numbers ih =>
    obtain ⟨hk, hnodup⟩ := List.nodup_cons.mp hnodup
    obtain ⟨⟨hkexp, hkpos, hklt⟩, hnew⟩ := List.forall_mem_cons.mp hnew
    rw [List.length_cons] at hroom
    have hlen : ¬tagWindowSize ≤ w.1.pendingTags.length := by rw [h.length_eq]; omega
    have hregistered := h.register hc hkexp hkpos hklt
    rw [List.map_cons, installGeneratedTagsLocked, if_neg hlen,
      if_neg (by rw [h.not_collides hkpos hklt]; exact Bool.false_ne_true)]
    have hrest := ih (w := registerTag p (c.tag k) (UInt32.ofNat k) w) hnodup (fun m hm => ?_)
      hregistered (by rw [Finset.card_insert_of_notMem hkexp]; omega)
    · rwa [Finset.insert_union, ← Finset.union_insert, ← List.toFinset_cons] at hrest
    · grind

end SessionManager

/-! ## The window -/

namespace Session

variable {s : Session δ σ τ} {sm : SessionManager δ σ τ} {received : Finset ℕ} {s' : Session δ σ τ}

/-- All messages below the next tag of the ratchet are expected or were received. -/
structure Drawn (c : SendChain P) (p : ℕ) (tagIndex : GoMap Tag ℕ) (s : Session δ σ τ)
    (received : Finset ℕ) : Prop where
  pos : 0 < s.nextRecvTagCounter.toNat
  ratchet : s.recvTagRatchet = some (c.tags s.nextRecvTagCounter.toNat)
  subset : received ⊆ Finset.Ico 1 s.nextRecvTagCounter.toNat
  lt_max : ∀ n ∈ received, n < maxMessageNumber.toNat
  expects : Expects c p tagIndex s.pendingTags
    (Finset.Ico 1 s.nextRecvTagCounter.toNat \ received)
  le_size : s.pendingTags.length ≤ tagWindowSize

/-- The window between messages: the tags were replenished where they had to be. -/
structure TagWindow (c : SendChain P) (p : ℕ) (tagIndex : GoMap Tag ℕ) (s : Session δ σ τ)
    (received : Finset ℕ) : Prop extends Drawn c p tagIndex s received where
  stocked : tagReplenishThreshold ≤ s.pendingTags.length

namespace Drawn

section
variable (h : s.Drawn c p tagIndex received)
include h

theorem length_add : s.pendingTags.length + received.card + 1 = s.nextRecvTagCounter.toNat := by
  have hle := Finset.card_le_card h.subset
  have hpos := h.pos
  rw [h.expects.length_eq, Finset.card_sdiff_of_subset h.subset]
  rw [Nat.card_Ico] at hle ⊢
  omega

theorem next_le : s.nextRecvTagCounter.toNat ≤ tagWindowSize + maxMessageNumber.toNat := by
  have hsub : received ⊆ Finset.Ico 1 maxMessageNumber.toNat := fun n hn =>
    Finset.mem_Ico.mpr ⟨(Finset.mem_Ico.mp (h.subset hn)).1, h.lt_max n hn⟩
  have hcard := Finset.card_le_card hsub
  rw [Nat.card_Ico] at hcard
  have hmax : maxMessageNumber.toNat = 65535 := rfl
  have hlen := h.length_add
  have hsize := h.le_size
  omega

theorem use (hc : c.UniqueTags) (hn : n ∈ Finset.Ico 1 s.nextRecvTagCounter.toNat \ received)
    (hmax : n < maxMessageNumber.toNat) :
    (s.useTag (c.tag n)).Drawn c p (tagIndex.erase (c.tag n)) (insert n received) := by
  obtain ⟨hrange, hnew⟩ := Finset.mem_sdiff.mp hn
  have hpos : 0 < n := (Finset.mem_Ico.mp hrange).1
  have hused := h.expects.use hc hn hpos (Nat.lt_trans hmax (by decide))
  rw [← Finset.sdiff_insert] at hused
  refine ⟨h.pos, h.ratchet, ?_, ?_, hused, ?_⟩
  · exact Finset.insert_subset hrange h.subset
  · exact Finset.forall_mem_insert _ _ _ |>.mpr ⟨hmax, h.lt_max⟩
  · have hle := h.le_size
    rw [h.expects.length_eq] at hle
    refine hused.length_eq.trans_le ?_
    rw [Finset.sdiff_insert]
    exact Finset.card_erase_le.trans hle

end

/-- The session after the tags of that many messages were drawn. -/
def draw (c : SendChain P) (turns : ℕ) (s : Session δ σ τ) : Session δ σ τ :=
  { s with
    recvTagRatchet := some (c.tags (s.nextRecvTagCounter.toNat + turns))
    nextRecvTagCounter := UInt32.ofNat (s.nextRecvTagCounter.toNat + turns) }

section
variable (h : s.Drawn c p sm.tagIndex received)
include h

/-- Tags that were drawn are registered while there is room. -/
theorem install (hc : c.UniqueTags) (turns : ℕ)
    (hroom : s.pendingTags.length + turns ≤ tagWindowSize) :
    ∃ s' sm', installGeneratedTagsLocked p
        ((List.range' s.nextRecvTagCounter.toNat turns).map fun k => (c.tag k, UInt32.ofNat k))
        (draw c turns s, sm) = (s', sm') ∧
      s'.Drawn c p sm'.tagIndex received ∧
      s'.pendingTags.length = s.pendingTags.length + turns := by
  have hnext := h.next_le
  have hlen := h.length_add
  have hmax : maxMessageNumber.toNat = 65535 := rfl
  have hwindow : tagWindowSize = 24 := rfl
  have hcard := h.expects.length_eq
  have hsubset := h.subset
  have hG : (UInt32.ofNat (s.nextRecvTagCounter.toNat + turns)).toNat =
      s.nextRecvTagCounter.toNat + turns :=
    UInt32.toNat_ofNat_of_lt' (show _ < 2 ^ 32 by omega)
  obtain ⟨⟨s', sm'⟩, hinstall, hexpects⟩ := install_of_chain
    (w := (draw c turns s, sm)) hc (List.nodup_range' (s := s.nextRecvTagCounter.toNat)
    (n := turns))
    (fun k hk => by
      rw [List.mem_range'_1] at hk
      rw [Finset.mem_sdiff, Finset.mem_Ico]
      omega) h.expects (by rw [List.length_range']; omega)
  have hsession : s' = { draw c turns s with pendingTags := s'.pendingTags } := by
    rw [show s' = (s', sm').1 from rfl, ← hinstall]
    exact session_install
  -- old and new messages together
  have hunion : Finset.Ico 1 s.nextRecvTagCounter.toNat \ received ∪
      (List.range' s.nextRecvTagCounter.toNat turns).toFinset =
        Finset.Ico 1 (s.nextRecvTagCounter.toNat + turns) \ received := by
    grind [List.mem_toFinset]
  rw [hunion] at hexpects
  have hnext' : s'.nextRecvTagCounter.toNat = s.nextRecvTagCounter.toNat + turns := by
    rw [hsession, ← hG]
    rfl
  have hratchet' : s'.recvTagRatchet = some (c.tags (s.nextRecvTagCounter.toNat + turns)) := by
    rw [hsession]
    rfl
  have hsubset' : received ⊆ Finset.Ico 1 (s.nextRecvTagCounter.toNat + turns) :=
    hsubset.trans (Finset.Ico_subset_Ico_right (Nat.le_add_right _ _))
  have hlen' : s'.pendingTags.length = s.pendingTags.length + turns := by
    rw [hexpects.length_eq, Finset.card_sdiff_of_subset hsubset', Nat.card_Ico]
    omega
  refine ⟨s', sm', hinstall, ⟨?_, ?_, ?_, h.lt_max, ?_, ?_⟩, hlen'⟩
  · omega
  · rw [hnext', hratchet']
  · rwa [hnext']
  · rwa [hnext']
  · omega

/-- Replenishing fills the window in one attempt. -/
theorem replenish (hc : c.UniqueTags) :
    ∃ s' sm', replenishTagWindowOutsideLock P p (s, sm) = (s', sm') ∧
      s'.Drawn c p sm'.tagIndex received ∧ s'.pendingTags.length = tagWindowSize := by
  have hsize := h.le_size
  have hnext := h.next_le
  have hmax : maxMessageNumber.toNat = 65535 := rfl
  have hwindow : tagWindowSize = 24 := rfl
  unfold replenishTagWindowOutsideLock maxReplenishAttempts
  rw [replenishLoop]
  split_ifs with hfull
  · exact ⟨s, sm, rfl, h, Nat.le_antisymm hsize hfull⟩
  obtain ⟨s', sm', hinstall, hdrawn, hlen⟩ := h.install hc
    (tagWindowSize - s.pendingTags.length) (by omega)
  refine ⟨s', sm', ?_, hdrawn, by omega⟩
  unfold Session.generateTagsOutsideLock
  rw [h.ratchet]
  dsimp only
  rw [drawTags_of_chain 0 _ rfl h.pos h.ratchet (by omega)]
  dsimp only
  rw [if_neg (by rw [List.length_map, List.length_range']; omega)]
  unfold draw at hinstall
  rw [hinstall, if_pos (show tagWindowSize ≤ s'.pendingTags.length by omega)]

/-- The first window is drawn one tag after the other. -/
theorem generate (hc : c.UniqueTags) (turns : ℕ)
    (hturns : tagWindowSize < s.pendingTags.length + turns) :
    ∃ s' sm', generateTagWindow P p turns (s, sm) = some (.ok (), s', sm') ∧
      s'.Drawn c p sm'.tagIndex received ∧ s'.pendingTags.length = tagWindowSize := by
  induction turns generalizing s sm with
  | zero => exact absurd h.le_size (by omega)
  | succ turns ih =>
    rw [generateTagWindow, h.ratchet]
    dsimp only
    split_ifs with hfull
    · exact ⟨s, sm, rfl, h, Nat.le_antisymm h.le_size hfull⟩
    have hnext := h.next_le
    have hmax : maxMessageNumber.toNat = 65535 := rfl
    have hwindow : tagWindowSize = 24 := rfl
    obtain ⟨s', sm', hinstall, hdrawn, hlen⟩ := h.install hc 1 (by omega)
    -- a batch of one tag
    have hdraw : draw c 1 s = { s with
        recvTagRatchet := some (c.tags (s.nextRecvTagCounter.toNat + 1))
        nextRecvTagCounter := s.nextRecvTagCounter + 1 } := by
      unfold draw
      rw [UInt32.ofNat_add, UInt32.ofNat_toNat]
      rfl
    have hfree : sm.collides p (c.tag s.nextRecvTagCounter.toNat) = false :=
      h.expects.not_collides h.pos (by omega)
    rw [hdraw, List.range'_one, List.map_singleton, UInt32.ofNat_toNat,
      installGeneratedTagsLocked, if_neg hfull, hfree] at hinstall
    rw [c.next _ h.pos]
    dsimp only
    rw [hfree]
    obtain ⟨rfl, rfl⟩ := Prod.mk.inj hinstall
    exact ih hdrawn (by omega)

end

end Drawn

/-! ## Other fields -/

theorem KeyWindow.onlyTags (h : s.KeyWindow c received)
    (htags : s.OnlyTags s') : s'.KeyWindow c received := by
  rw [htags]
  exact { h with }

theorem Drawn.sameTags (h : s.Drawn c p tagIndex received)
    (htags : s.SameTags s') : s'.Drawn c p tagIndex received := by
  obtain ⟨h₁, h₂, h₃⟩ := htags
  refine ⟨?_, ?_, ?_, h.lt_max, ?_, ?_⟩
  · rw [h₃]
    exact h.pos
  · rw [h₁, h₃]
    exact h.ratchet
  · rw [h₃]
    exact h.subset
  · rw [h₂, h₃]
    exact h.expects
  · rw [h₂]
    exact h.le_size

section
variable (h : s.TagWindow c p tagIndex received)
include h

theorem TagWindow.sameTags (htags : s.SameTags s') : s'.TagWindow c p tagIndex received :=
  ⟨h.toDrawn.sameTags htags, by rw [htags.pendingTags]; exact h.stocked⟩

theorem TagWindow.sameIndex {tagIndex' : GoMap Tag ℕ}
    (hindex : ∀ n, tagIndex'.lookup (c.tag n) = tagIndex.lookup (c.tag n)) :
    s.TagWindow c p tagIndex' received := by
  refine { h with expects := ⟨h.expects.pending, fun n hn hlt => ?_⟩ }
  rw [hindex]
  exact h.expects.lookup n hn hlt

/-- The tags of the next messages that are missing are stocked and registered. -/
theorem TagWindow.registered {n : ℕ} (hpos : 0 < n) (hnew : n ∉ received)
    (hle : n ≤ received.card + tagReplenishThreshold) :
    n ∈ Finset.Ico 1 s.nextRecvTagCounter.toNat \ received ∧
      tagIndex.lookup (c.tag n) = some p := by
  have hlen := h.length_add
  have hstocked := h.stocked
  have hnext := h.next_le
  have hmax : maxMessageNumber.toNat = 65535 := rfl
  have hwindow : tagWindowSize = 24 := rfl
  have hmem : n ∈ Finset.Ico 1 s.nextRecvTagCounter.toNat \ received := by
    rw [Finset.mem_sdiff, Finset.mem_Ico]
    exact ⟨by omega, hnew⟩
  rw [h.expects.lookup n hpos (by omega), if_pos hmem]
  exact ⟨hmem, rfl⟩

/-- As long as less than 12 messages are missing, the message after the highest one is
expected. -/
theorem TagWindow.registered_next {top : ℕ} (htop : ∀ n ∈ received, n ≤ top)
    (hmissing : top < received.card + tagReplenishThreshold) :
    tagIndex.lookup (c.tag (top + 1)) = some p :=
  (h.registered (Nat.succ_pos top) (fun hmem => absurd (htop _ hmem) (by omega)) hmissing).2

end

/-! ## One message -/

theorem heap_received (P : Primitives δ σ τ) (now : Time) (tag : Tag) (msg : Bytes) (p : ℕ)
    (s : Session δ σ τ) (sm : SessionManager δ σ τ) :
    ∃ s', (SessionManager.received P now tag msg p s sm).2.heap.lookup p = some s' ∧
      ((s.useTag tag).decryptExistingSession P now (msg.drop 8) tag
        (sm.tagCounterIndex.lookup tag)).2.OnlyTags s' := by
  refine ⟨_, AList.lookup_insert _, ?_⟩
  split_ifs
  · exact onlyTags_replenishLoop _ _
  · rfl

/-- A message takes its tag out of the window, and the tags are replenished if less than 12 are
left. -/
theorem TagWindow.receive (h : s.TagWindow c p sm.tagIndex received) (hc : c.UniqueTags)
    (hn : n ∈ Finset.Ico 1 s.nextRecvTagCounter.toNat \ received)
    (hmax : n < maxMessageNumber.toNat) {now : Time} {msg : Bytes}
    (hs' : (SessionManager.received P now (c.tag n) msg p s sm).2.heap.lookup p = some s') :
    s'.TagWindow c p (SessionManager.received P now (c.tag n) msg p s sm).2.tagIndex
      (insert n received) := by
  have hdrawn : Drawn c p (sm.deleteTags [c.tag n]).tagIndex
      ((s.useTag (c.tag n)).decryptExistingSession P now (msg.drop 8) (c.tag n)
        (sm.tagCounterIndex.lookup (c.tag n))).2 (insert n received) :=
    (h.toDrawn.use hc hn hmax).sameTags (sameTags_decryptExistingSession P _ _ _ _ _)
  have hsame := sameTags_decryptExistingSession P now (msg.drop 8) (c.tag n)
    (sm.tagCounterIndex.lookup (c.tag n)) (s.useTag (c.tag n))
  unfold SessionManager.received SessionManager.receiveExisting at hs' ⊢
  dsimp only at hs' ⊢
  rw [AList.lookup_insert, Option.some.injEq] at hs'
  subst hs'
  split_ifs with hlow
  · obtain ⟨s₁, sm₁, hreplenish, hdrawn₁, hfull⟩ := hdrawn.replenish hc
    rw [hreplenish]
    exact ⟨hdrawn₁, by rw [hfull]; decide⟩
  · exact ⟨hdrawn, by rw [hsame.pendingTags]; exact Nat.le_of_not_lt hlow⟩

/-! ## After the handshake -/

theorem drawn_empty (hratchet : s.recvTagRatchet = some (c.tags 1))
    (hnext : s.nextRecvTagCounter = 1) (hpending : s.pendingTags = [])
    (hfree : ∀ n, 0 < n → n < 2 ^ 32 → tagIndex.lookup (c.tag n) = none) :
    s.Drawn c p tagIndex ∅ := by
  refine ⟨?_, ?_, Finset.empty_subset _, fun n hn => absurd hn (Finset.notMem_empty n), ?_, ?_⟩
  · rw [hnext]
    decide
  · rw [hratchet, hnext]
    rfl
  · rw [hnext, hpending]
    exact ⟨rfl, fun n hn hlt => by rw [hfree n hn hlt]; rfl⟩
  · rw [hpending]
    exact Nat.zero_le _

/-- The keys of a New Session Reply open both windows of the receiving chain. -/
theorem windows_applyNSRKeys (turns p : ℕ) (nsrKeys : NSRSessionKeys) (isInitiator : Bool)
    (s : Session δ σ τ) (sm : SessionManager δ σ τ)
    {sendTagKey sendSymKey recvTagKey recvSymKey : Key} (hc : c.UniqueTags)
    (hsend : deriveTagAndSymKeysFromChainKey P
      (if isInitiator then nsrKeys.keyAB else nsrKeys.keyBA) = .ok (sendTagKey, sendSymKey))
    (hrecv : deriveTagAndSymKeysFromChainKey P
      (if isInitiator then nsrKeys.keyBA else nsrKeys.keyAB) = .ok (recvTagKey, recvSymKey))
    (hsym : c.sym 1 = P.newSymmetricRatchet recvSymKey)
    (htags : c.tags 1 = P.newTagRatchet recvTagKey)
    (hfree : ∀ n, 0 < n → n < 2 ^ 32 →
      (sm.deleteTags s.pendingTags).tagIndex.lookup (c.tag n) = none)
    (hturns : tagWindowSize < turns) :
    ∃ s' sm', applyNSRKeysToSessionWhileLocked P turns p nsrKeys isInitiator (s, sm) =
        some (.ok (), s', sm') ∧
      s'.KeyWindow c ∅ ∧ s'.TagWindow c p sm'.tagIndex ∅ ∧
      { s with
        symmetricRatchet := P.newSymmetricRatchet sendSymKey
        tagRatchet := P.newTagRatchet sendTagKey
        recvSymmetricRatchet := some (P.newSymmetricRatchet recvSymKey)
        messageCounter := 1
        recvWindowBase := 1
        recvFillMark := 1
        recvKeyCache := ∅ : Session δ σ τ }.OnlyTags s' := by
  have hdrawn := drawn_empty (s := ({ s with
    pendingTags := []
    symmetricRatchet := P.newSymmetricRatchet sendSymKey
    tagRatchet := P.newTagRatchet sendTagKey
    recvSymmetricRatchet := some (P.newSymmetricRatchet recvSymKey)
    recvTagRatchet := some (P.newTagRatchet recvTagKey)
    messageCounter := 1 } : Session δ σ τ).resetRecvWindow) (p := p) (congrArg some htags.symm) rfl
    rfl hfree
  obtain ⟨s', sm', hgenerate, hdrawn', hfull⟩ := hdrawn.generate hc turns (by
    omega)
  have honly := (only_generateTagWindow hgenerate).1
  have hkeys := keyWindow_empty (c := c) (congrArg some hsym.symm) rfl rfl rfl |>.onlyTags honly
  refine ⟨s', sm', ?_, hkeys, ⟨hdrawn', ?_⟩, honly⟩
  · unfold applyNSRKeysToSessionWhileLocked
    dsimp only
    rw [hsend, hrecv]
    exact hgenerate
  · rw [hfull]
    decide

end Session
end GoNoise.Ratchet
