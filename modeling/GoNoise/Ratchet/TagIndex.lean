import GoNoise.Ratchet.Frames
import Mathlib.Data.List.Perm.Basic

/-!
# What the tag index can hold

A tag leaves the index when a message with it arrives, before the message is decrypted, and only new
tags come in. So the tag that `DecryptGarlicMessage` returns is one that the index has just lost.
-/

namespace GoNoise.Ratchet

/-! ## One tag less -/

theorem perm_set_getLastD_dropLast {α : Type} {l : List α} {i : ℕ} (hi : i < l.length) (d : α) :
    (l.set i (l.getLastD d)).dropLast.Perm (l.eraseIdx i) := by
  rcases List.eq_nil_or_concat l with rfl | ⟨init, last, rfl⟩
  · simp at hi
  · simp only [List.concat_eq_append, List.length_append, List.length_singleton] at hi ⊢
    rw [List.getLastD_concat]
    by_cases hlt : i < init.length
    · rw [List.set_append_left _ _ hlt, List.dropLast_concat,
        List.eraseIdx_append_of_lt_length hlt]
      exact (List.set_perm_cons_eraseIdx hlt last).trans (List.perm_append_singleton _ _).symm
    · obtain rfl : i = init.length := by omega
      rw [List.set_append_right _ _ (Nat.le_refl _), Nat.sub_self, List.set_cons_zero,
        List.dropLast_concat, List.eraseIdx_append_of_length_le (Nat.le_refl _), Nat.sub_self,
        List.eraseIdx_cons_zero, List.append_nil]

theorem perm_cons_removeTagFromPendingList {tag : Tag} {pendingTags : List Tag}
    (h : tag ∈ pendingTags) : (tag :: removeTagFromPendingList tag pendingTags).Perm
      pendingTags := by
  have hi : pendingTags.idxOf tag < pendingTags.length := List.idxOf_lt_length_iff.mpr h
  have hperm := (perm_set_getLastD_dropLast hi tag).cons pendingTags[pendingTags.idxOf tag]
  rw [List.getElem_idxOf] at hperm
  unfold removeTagFromPendingList
  rw [if_pos h]
  refine hperm.trans ?_
  have htake := List.getElem_cons_eraseIdx_perm hi
  rwa [List.getElem_idxOf] at htake

/-! ## New tags -/

variable {δ σ τ : Type}

/-- The tags that a tag ratchet gives out next, at most that many. -/
def Primitives.nextTags (P : Primitives δ σ τ) : ℕ → τ → List Tag
  | 0, _ => []
  | n + 1, r =>
    match P.generateNextTag r with
    | (.error _, _) => []
    | (.ok tag, r) => tag :: P.nextTags n r

variable {P : Primitives δ σ τ}

theorem nextTags_subset {n m : ℕ} (h : n ≤ m) (r : τ) : P.nextTags n r ⊆ P.nextTags m r := by
  induction n generalizing m r with
  | zero => exact List.nil_subset _
  | succ n ih =>
    obtain ⟨m, rfl⟩ : ∃ k, m = k + 1 := ⟨m - 1, by omega⟩
    unfold Primitives.nextTags
    split
    · exact List.nil_subset _
    · exact List.cons_subset_cons _ (ih (by omega) _)

/-- A drawn batch comes first in the tags of the ratchet. -/
theorem nextTags_of_drawTags {i turns : ℕ} {r : τ} {s s' : Session δ σ τ}
    {newTags : List (Tag × UInt32)} (hr : s.recvTagRatchet = some r)
    (h : s.drawTags P i turns r = (.ok newTags, s')) :
    ∃ r', s'.recvTagRatchet = some r' ∧
      ∀ k, P.nextTags (turns + k) r = newTags.map Prod.fst ++ P.nextTags k r' := by
  induction turns generalizing i r s newTags with
  | zero =>
    cases h
    exact ⟨r, hr, fun k => by rw [Nat.zero_add]; rfl⟩
  | succ turns ih =>
    rw [Session.drawTags] at h
    split at h
    · cases h
    next tag r₁ hgen =>
      split at h
      · cases h
      next rest s₁ hdraw =>
        obtain ⟨rfl, rfl⟩ := h
        obtain ⟨r', hr', hnext⟩ := ih rfl hdraw
        refine ⟨r', hr', fun k => ?_⟩
        rw [Nat.add_right_comm, Primitives.nextTags, hgen, List.map_cons, List.cons_append]
        exact congrArg _ (hnext k)

namespace SessionManager

variable {p q : ℕ} {tag : Tag} {w : Session δ σ τ × SessionManager δ σ τ}

def SameEntry (tag : Tag) (sm sm' : SessionManager δ σ τ) : Prop :=
  sm'.tagIndex.lookup tag = sm.tagIndex.lookup tag ∧
    sm'.tagCounterIndex.lookup tag = sm.tagCounterIndex.lookup tag

theorem SameEntry.refl (tag : Tag) (sm : SessionManager δ σ τ) : SameEntry tag sm sm := ⟨rfl, rfl⟩

theorem SameEntry.trans {sm₁ sm₂ sm₃ : SessionManager δ σ τ} (h : SameEntry tag sm₁ sm₂)
    (h' : SameEntry tag sm₂ sm₃) : SameEntry tag sm₁ sm₃ :=
  ⟨h'.1.trans h.1, h'.2.trans h.2⟩

theorem sameEntry_install {newTags : List (Tag × UInt32)} (h : tag ∉ newTags.map Prod.fst) :
    SameEntry tag w.2 (installGeneratedTagsLocked p newTags w).2 := by
  induction newTags generalizing w with
  | nil => exact .refl tag w.2
  | cons new newTags ih =>
    rw [List.map_cons, List.mem_cons, not_or] at h
    rw [installGeneratedTagsLocked]
    split_ifs
    · exact .refl tag w.2
    · exact ih h.2
    · have hregister : SameEntry tag w.2 (registerTag p new.1 new.2 w).2 :=
        ⟨AList.lookup_insert_ne h.1, AList.lookup_insert_ne h.1⟩
      exact hregister.trans (ih h.2)

/-- Replenishing gives out at most a window of tags per attempt. -/
theorem sameEntry_replenishLoop {attempts : ℕ}
    (h : ∀ r ∈ w.1.recvTagRatchet, tag ∉ P.nextTags (attempts * tagWindowSize) r) :
    SameEntry tag w.2 (replenishLoop P p attempts w).2 := by
  induction attempts generalizing w with
  | zero => exact .refl tag w.2
  | succ attempts ih =>
    obtain ⟨s, sm⟩ := w
    rw [replenishLoop]
    unfold Session.generateTagsOutsideLock
    rcases hr : s.recvTagRatchet with _ | r
    · split_ifs <;> exact .refl tag sm
    · dsimp only
      split_ifs with hfull
      · exact .refl tag sm
      split
      · exact .refl tag sm
      next newTags s₁ hdraw =>
        obtain ⟨r', hr', hnext⟩ := nextTags_of_drawTags hr hdraw
        -- what this batch and the later ones draw, in the tags of the ratchet
        have hbatch : newTags.map Prod.fst ++ P.nextTags (attempts * tagWindowSize) r' ⊆
            P.nextTags ((attempts + 1) * tagWindowSize) r := by
          rw [← hnext]
          refine nextTags_subset ?_ r
          rw [Nat.succ_mul]
          omega
        have hnew : tag ∉ newTags.map Prod.fst ++ P.nextTags (attempts * tagWindowSize) r' :=
          fun hmem => h r hr (hbatch hmem)
        rw [List.mem_append, not_or] at hnew
        have hinstall : SameEntry tag sm (installGeneratedTagsLocked p newTags (s₁, sm)).2 :=
          sameEntry_install hnew.1
        split_ifs
        · exact .refl tag sm
        · exact hinstall
        · refine hinstall.trans (ih fun r₁ hr₁ => ?_)
          rw [session_install, hr', Option.mem_some_iff] at hr₁
          exact hr₁ ▸ hnew.2

/-! ## One message -/

variable {sm sm' : SessionManager δ σ τ} {s : Session δ σ τ} {now : Time} {msg plaintext : Bytes}

theorem lookup_of_processBlocks {blocks : List PayloadBlock}
    (h : (sm.processBlocks p blocks).tagIndex.lookup tag = some q) :
    sm.tagIndex.lookup tag = some q := by
  induction blocks generalizing sm with
  | nil => exact h
  | cons block blocks ih =>
    rw [processBlocks] at h
    split_ifs at h
    · unfold removeSessionByPointer at h
      split at h
      · exact GoMap.lookup_of_lookup_foldl_erase h
      · exact h
    · split at h
      · exact h
      next s' _ =>
        have hold := ih h
        exact hold

theorem lookup_of_processDecryptedESBlocks
    (h : (sm.processDecryptedESBlocks p plaintext).tagIndex.lookup tag = some q) :
    sm.tagIndex.lookup tag = some q := by
  unfold processDecryptedESBlocks at h
  split at h
  · exact h
  · exact lookup_of_processBlocks h

/-- The tag of a message is found after it only if the tag ratchet of the session has given it
out again. -/
theorem lookup_of_received (h : (received P now tag msg p s sm).2.tagIndex.lookup tag = some q) :
    ∃ r ∈ s.recvTagRatchet, tag ∈ P.nextTags (maxReplenishAttempts * tagWindowSize) r := by
  have hmiss : ¬(sm.deleteTags [tag]).tagIndex.lookup tag = some q := by
    intro hold
    exact (GoMap.lookup_of_lookup_erase hold).1 rfl
  unfold received receiveExisting at h
  dsimp only at h
  have hsame := Session.sameTags_decryptExistingSession P now (msg.drop 8) tag
    (sm.tagCounterIndex.lookup tag) (s.useTag tag)
  split_ifs at h
  · by_contra hnone
    refine hmiss ((sameEntry_replenishLoop fun r hr hnext => hnone ⟨r, ?_, hnext⟩).1.symm.trans h)
    rwa [hsame.recvTagRatchet] at hr
  · exact absurd h hmiss

def upcomingTags (P : Primitives δ σ τ) (tag : Tag) (sm : SessionManager δ σ τ) : List Tag :=
  match ((sm.tagIndex.lookup tag).bind sm.heap.lookup).bind Session.recvTagRatchet with
  | none => []
  | some r => P.nextTags (maxReplenishAttempts * tagWindowSize) r

theorem lookup_of_tryDecryptExisting {result : Except Oops (Bytes × Tag)}
    (h : sm.tryDecryptExisting P now tag msg = (some result, sm'))
    (hq : sm'.tagIndex.lookup tag = some q) : tag ∈ sm.upcomingTags P tag := by
  obtain ⟨p, s, hp, hs, hvalid⟩ := existing_of_isSome (by rw [h]; rfl)
  have hnext : ∃ r ∈ s.recvTagRatchet,
      tag ∈ P.nextTags (maxReplenishAttempts * tagWindowSize) r := by
    rcases hres : (received P now tag msg p s sm).1 with e | ⟨plaintext, sessionTag⟩
    · rw [tryDecryptExisting_of_error hp hs hvalid hres] at h
      cases h
      exact lookup_of_received hq
    · rw [tryDecryptExisting_of_ok hp hs hvalid hres] at h
      cases h
      exact lookup_of_received (lookup_of_processDecryptedESBlocks hq)
  obtain ⟨r, hr, hmem⟩ := hnext
  unfold upcomingTags
  rw [hp, Option.bind_some, hs, Option.bind_some, hr]
  exact hmem

theorem tag_of_tryDecryptExisting {sessionTag : Tag}
    (h : sm.tryDecryptExisting P now tag msg = (some (.ok (plaintext, sessionTag)), sm')) :
    sessionTag = tag := by
  obtain ⟨p, s, hp, hs, hvalid⟩ := existing_of_isSome (by rw [h]; rfl)
  rcases hres : (received P now tag msg p s sm).1 with e | ⟨plaintext₁, sessionTag₁⟩
  · rw [tryDecryptExisting_of_error hp hs hvalid hres] at h
    cases h
  · rw [tryDecryptExisting_of_ok hp hs hvalid hres] at h
    cases h
    exact (Session.of_decryptExistingSession hres).1

/-- **The returned tag identifies no session.** After an Existing Session message was decrypted,
`ProcessReceivedNextKey` and `ProcessIncomingDHRatchet` reject the tag that was returned and change
nothing, unless the tag ratchet repeats it among its next tags. -/
theorem returned_tag_unknown {H : Handshakes δ σ τ} {sessionTag : Tag} {sessionHash : Option Key}
    (hexisting : (sm.tryDecryptExisting P now (.copyFrom 8 (msg.take 8)) msg).1.isSome)
    (h : sm.decryptGarlicMessage P H now msg = (.ok (plaintext, sessionTag, sessionHash), sm'))
    (hfresh : sessionTag ∉ sm.upcomingTags P sessionTag) :
    (∀ info, sm'.processReceivedNextKey P sessionTag info =
      (.error (.errorf s!"no session found for tag {hex sessionTag.val}"), sm')) ∧
    ∀ newRemotePubKey, sm'.processIncomingDHRatchet P sessionTag newRemotePubKey =
      (.error (.errorf s!"no session found for tag {hex sessionTag.val}"), sm') := by
  have hes := existing_of_decryptGarlicMessage hexisting h
  have htag := tag_of_tryDecryptExisting hes
  rw [← htag] at hes
  have hnone : sm'.tagIndex.lookup sessionTag = none := by
    rw [Option.eq_none_iff_forall_ne_some]
    intro q hq
    exact hfresh (lookup_of_tryDecryptExisting hes hq)
  have hlookup : sm'.lookupLockedSession sessionTag =
      .error (.errorf s!"no session found for tag {hex sessionTag.val}") := by
    unfold lookupLockedSession
    rw [hnone]
  constructor
  · intro info
    unfold processReceivedNextKey
    rw [hlookup]
  · intro newRemotePubKey
    unfold processIncomingDHRatchet
    rw [hlookup]

/-- The first tag of the initiator, a forward Next Key block, and the message that carries it. -/
def nextKeyTag : Tag := .copyFrom 8 [0, 0, 0, 0, 6, 0, 0, 0]

def nextKeyPayload : Bytes := [7, 0, 35, 1, 0, 0] ++ List.replicate 32 5

def nextKeyMessage : Bytes :=
  nextKeyTag.val ++ nextKeyPayload ++ [1, 0, 0, 0, 0, 0, 0, 0, 0, 0, 0, 7, 0, 0, 0, 0]

theorem nextKeyMessage_received :
    ((counting false).tryDecryptExisting countingPrimitives 0
        (.copyFrom 8 (nextKeyMessage.take 8)) nextKeyMessage).1.isSome ∧
      (countingReceive nextKeyMessage (counting false)).1 =
        .ok (nextKeyPayload, nextKeyTag, none) ∧
      nextKeyTag ∉ (counting false).upcomingTags countingPrimitives nextKeyTag ∧
      ((countingReceive nextKeyMessage (counting false)).2.processReceivedNextKey
          countingPrimitives nextKeyTag
          ⟨true, false, false, 0, .copyFrom 32 (List.replicate 32 5)⟩).1 =
        .error (.errorf "no session found for tag 0000000006000000") := by
  decide +kernel

theorem returned_tag_unknown_nextKeyMessage :
    (countingReceive nextKeyMessage (counting false)).1 = .ok (nextKeyPayload, nextKeyTag, none) ∧
    ∀ info, (countingReceive nextKeyMessage (counting false)).2.processReceivedNextKey
        countingPrimitives nextKeyTag info =
      (.error (.errorf s!"no session found for tag {hex nextKeyTag.val}"),
        (countingReceive nextKeyMessage (counting false)).2) := by
  obtain ⟨hexisting, hreturned, hfresh, -⟩ := nextKeyMessage_received
  have h : (counting false).decryptGarlicMessage countingPrimitives noHandshakes 0 nextKeyMessage =
      (.ok (nextKeyPayload, nextKeyTag, none),
        (countingReceive nextKeyMessage (counting false)).2) := by
    rw [← hreturned]
    exact Prod.mk.eta.symm
  exact ⟨hreturned, (returned_tag_unknown hexisting h hfresh).1⟩

/-- The responder decrypts a Next Key block that its caller cannot apply. -/
theorem nextKey_not_applied :
    (countingSend nextKeyPayload (counting true)).1 = .ok nextKeyMessage ∧
      (countingReceive nextKeyMessage (counting false)).1 =
        .ok (nextKeyPayload, nextKeyTag, none) ∧
      ((countingReceive nextKeyMessage (counting false)).2.processReceivedNextKey
          countingPrimitives nextKeyTag
          ⟨true, false, false, 0, .copyFrom 32 (List.replicate 32 5)⟩).1 =
        .error (.errorf "no session found for tag 0000000006000000") := by
  obtain ⟨-, hreturned, -, hunknown⟩ := nextKeyMessage_received
  exact ⟨by decide +kernel, hreturned, hunknown⟩

end SessionManager
end GoNoise.Ratchet
