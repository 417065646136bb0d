import GoNoise.Ratchet.Garlic

/-!
# What the functions leave alone
-/

namespace GoNoise.Ratchet

open SessionManager

variable {δ σ τ : Type} {P : Primitives δ σ τ} {p : ℕ}

/-! ## Sessions -/

namespace SessionManager

variable {w : Session δ σ τ × SessionManager δ σ τ} {newTags : List (Tag × UInt32)}

theorem session_install :
    (installGeneratedTagsLocked p newTags w).1 =
      { w.1 with pendingTags := (installGeneratedTagsLocked p newTags w).1.pendingTags } := by
  fun_induction installGeneratedTagsLocked p newTags w with
  | case1 | case2 => rfl
  | case3 _ _ _ _ _ _ ih | case4 _ _ _ _ _ _ ih => exact ih

theorem manager_install :
    (installGeneratedTagsLocked p newTags w).2 =
      { w.2 with
        tagIndex := (installGeneratedTagsLocked p newTags w).2.tagIndex
        tagCounterIndex := (installGeneratedTagsLocked p newTags w).2.tagCounterIndex } := by
  fun_induction installGeneratedTagsLocked p newTags w with
  | case1 | case2 => rfl
  | case3 _ _ _ _ _ _ ih | case4 _ _ _ _ _ _ ih => exact ih

end SessionManager

namespace Session

/-- Only the fields for tags differ. -/
def OnlyTags (s s' : Session δ σ τ) : Prop :=
  s' = { s with
    recvTagRatchet := s'.recvTagRatchet
    nextRecvTagCounter := s'.nextRecvTagCounter
    pendingTags := s'.pendingTags }

theorem OnlyTags.trans {s₁ s₂ s₃ : Session δ σ τ} (h : s₁.OnlyTags s₂) (h' : s₂.OnlyTags s₃) :
    s₁.OnlyTags s₃ := by
  calc s₃ = { s₂ with
        recvTagRatchet := s₃.recvTagRatchet
        nextRecvTagCounter := s₃.nextRecvTagCounter
        pendingTags := s₃.pendingTags } := h'
    _ = { s₁ with
        recvTagRatchet := s₃.recvTagRatchet
        nextRecvTagCounter := s₃.nextRecvTagCounter
        pendingTags := s₃.pendingTags } := by rw [h]

theorem onlyTags_drawTags (i turns : ℕ) (r : τ) (s : Session δ σ τ) :
    s.OnlyTags (s.drawTags P i turns r).2 := by
  induction turns generalizing i r s with
  | zero => rfl
  | succ turns ih =>
    rw [drawTags]
    split
    · rfl
    next tag r₁ hgen =>
      have hrest := ih (i + 1) r₁ { s with
        recvTagRatchet := some r₁, nextRecvTagCounter := s.nextRecvTagCounter + 1 }
      split <;> next hdraw => rw [hdraw] at hrest; exact hrest

theorem onlyTags_generateTagsOutsideLock (s : Session δ σ τ) :
    s.OnlyTags (s.generateTagsOutsideLock P).2 := by
  fun_cases generateTagsOutsideLock
  · rfl
  · exact onlyTags_drawTags _ _ _ s

theorem onlyTags_install (newTags : List (Tag × UInt32))
    (w : Session δ σ τ × SessionManager δ σ τ) :
    w.1.OnlyTags (installGeneratedTagsLocked p newTags w).1 := by
  unfold OnlyTags
  rw [session_install]

/-- Replenishing leaves the other fields alone, whatever the tags are. -/
theorem onlyTags_replenishLoop (attempts : ℕ) (w : Session δ σ τ × SessionManager δ σ τ) :
    w.1.OnlyTags (replenishLoop P p attempts w).1 := by
  fun_induction replenishLoop P p attempts w with
  | case1 | case2 => rfl
  | case3 _ s _ _ _ _ hdraw | case4 _ s _ _ _ _ hdraw =>
    exact (hdraw ▸ onlyTags_generateTagsOutsideLock s :)
  | case5 _ s _ _ _ _ hdraw =>
    exact (hdraw ▸ onlyTags_generateTagsOutsideLock (P := P) s).trans (onlyTags_install _ _)
  | case6 _ s _ _ _ _ hdraw _ _ _ ih =>
    exact ((hdraw ▸ onlyTags_generateTagsOutsideLock (P := P) s).trans (onlyTags_install _ _)).trans
      ih

/-- Only what control blocks are about differs. -/
def OnlyControl (s s' : Session δ σ τ) : Prop :=
  s' = { s with
    recvKeyCache := s'.recvKeyCache
    pendingAcks := s'.pendingAcks
    lastAckedEntries := s'.lastAckedEntries }

theorem onlyControl_processControlBlock (block : PayloadBlock) (s : Session δ σ τ) :
    s.OnlyControl (processControlBlock block s) := by
  fun_cases processControlBlock
  case case4 => fun_cases processAck <;> rfl
  all_goals rfl

end Session

/-! ## Managers -/

namespace SessionManager

variable {sm sm₁ sm₂ sm₃ : SessionManager δ σ τ}

/-- Only the tag indexes differ. -/
def OnlyIndexes (sm sm' : SessionManager δ σ τ) : Prop :=
  sm' = { sm with tagIndex := sm'.tagIndex, tagCounterIndex := sm'.tagCounterIndex }

def OnlyTables (sm sm' : SessionManager δ σ τ) : Prop :=
  sm' = { sm with
    heap := sm'.heap
    sessions := sm'.sessions
    tagIndex := sm'.tagIndex
    nsrTagIndex := sm'.nsrTagIndex
    tagCounterIndex := sm'.tagCounterIndex
    oneTimeKeys := sm'.oneTimeKeys }

theorem OnlyIndexes.trans (h : sm₁.OnlyIndexes sm₂) (h' : sm₂.OnlyIndexes sm₃) :
    sm₁.OnlyIndexes sm₃ := by
  calc sm₃ = { sm₂ with tagIndex := sm₃.tagIndex, tagCounterIndex := sm₃.tagCounterIndex } := h'
    _ = { sm₁ with tagIndex := sm₃.tagIndex, tagCounterIndex := sm₃.tagCounterIndex } := by rw [h]

theorem OnlyTables.trans (h : sm₁.OnlyTables sm₂) (h' : sm₂.OnlyTables sm₃) :
    sm₁.OnlyTables sm₃ := by
  unfold OnlyTables at h h' ⊢
  rw [h', h]

theorem OnlyIndexes.onlyTables (h : sm₁.OnlyIndexes sm₂) : sm₁.OnlyTables sm₂ := by
  unfold OnlyTables
  rw [h]

theorem onlyTables_heap (heap : GoMap ℕ (Session δ σ τ)) : sm.OnlyTables { sm with heap := heap } :=
  rfl

theorem onlyIndexes_replenishLoop (attempts : ℕ) (w : Session δ σ τ × SessionManager δ σ τ) :
    w.2.OnlyIndexes (replenishLoop P p attempts w).2 := by
  fun_induction replenishLoop P p attempts w with
  | case1 | case2 | case3 | case4 => rfl
  | case5 => exact manager_install
  | case6 =>
    next ih =>
      refine OnlyIndexes.trans ?_ ih
      exact manager_install

theorem only_generateTagWindow {turns : ℕ} {w w' : Session δ σ τ × SessionManager δ σ τ}
    {result : Except Oops Unit} (h : generateTagWindow P p turns w = some (result, w')) :
    w.1.OnlyTags w'.1 ∧ w.2.OnlyIndexes w'.2 := by
  fun_induction generateTagWindow P p turns w with
  | case1 => cases h
  | case2 | case3 | case4 =>
    cases h
    exact ⟨rfl, rfl⟩
  | case5 | case6 => next ih => exact (ih h :)

theorem onlyTables_removeSessionByPointer : sm.OnlyTables (sm.removeSessionByPointer p) := by
  fun_cases removeSessionByPointer <;> rfl

theorem onlyTables_processDecryptedESBlocks (plaintext : Bytes) :
    sm.OnlyTables (sm.processDecryptedESBlocks p plaintext) := by
  have hblocks : ∀ (blocks : List PayloadBlock) (sm : SessionManager δ σ τ),
      sm.OnlyTables (sm.processBlocks p blocks) := by
    intro blocks sm
    fun_induction processBlocks p blocks sm with
    | case1 | case3 => rfl
    | case2 => exact onlyTables_removeSessionByPointer
    | case4 _ _ _ _ _ _ ih => exact ih
  fun_cases processDecryptedESBlocks
  · rfl
  · exact hblocks _ sm

end SessionManager
end GoNoise.Ratchet
