import GoNoise.Ratchet.HandshakeOrder
import GoNoise.Ratchet.TagIndex

/-!
# What a rejected message leaves behind

A message that fails authentication is rejected, but not before its tag, the state of a handshake or
a one-time key is gone and keys were derived ahead.
-/

namespace GoNoise.Ratchet

open Session

variable {δ σ τ : Type} {N : NoiseLibrary} {P : Primitives δ σ τ}

/-! ## Keys of a session -/

namespace Session

variable {s s' s₁ : Session δ σ τ} {now : Time} {msg : Bytes} {tag : Tag} {hint : Option UInt32}
  {upTo : UInt32}

namespace SameKeys

theorem trans {s₂ s₃ : Session δ σ τ} (h : SameKeys s₁ s₂) (h' : SameKeys s₂ s₃) :
    SameKeys s₁ s₃ :=
  ⟨h'.recvSymmetricRatchet.trans h.recvSymmetricRatchet,
    h'.recvWindowBase.trans h.recvWindowBase, h'.recvFillMark.trans h.recvFillMark,
    h'.recvKeyCache.trans h.recvKeyCache⟩

theorem windowEnd (h : SameKeys s s') : s'.windowEnd = s.windowEnd := by
  unfold Session.windowEnd
  rw [h.recvWindowBase, h.recvFillMark]

theorem fillLoop (h : SameKeys s s') (turns : ℕ) (r : σ) :
    (s'.fillLoop P turns r).1 = (s.fillLoop P turns r).1 ∧
      SameKeys (s.fillLoop P turns r).2 (s'.fillLoop P turns r).2 := by
  induction turns generalizing s s' r with
  | zero => exact ⟨rfl, h⟩
  | succ turns ih =>
    rw [fillLoop, fillLoop, h.recvFillMark]
    split
    · exact ⟨rfl, rfl, h.recvWindowBase, rfl, h.recvKeyCache⟩
    next key r₁ hkey =>
      refine ih ?_ r₁
      exact ⟨rfl, h.recvWindowBase, rfl, congrArg (AList.insert s.recvFillMark key) h.recvKeyCache⟩

theorem fillRecvKeyCache (h : SameKeys s s') (upTo : UInt32) :
    (s'.fillRecvKeyCache P upTo).1 = (s.fillRecvKeyCache P upTo).1 ∧
      SameKeys (s.fillRecvKeyCache P upTo).2 (s'.fillRecvKeyCache P upTo).2 := by
  unfold Session.fillRecvKeyCache
  rw [h.recvSymmetricRatchet, h.recvFillMark]
  split
  · exact ⟨rfl, h⟩
  · exact h.fillLoop _ _

section
variable {ciphertext : Bytes} {mac : FixedBytes 16} {windowEnd : UInt32}

theorem openAt (h : SameKeys s s') (counter : UInt32) :
    s'.openAt P ciphertext mac tag counter = s.openAt P ciphertext mac tag counter := by
  unfold Session.openAt
  rw [h.recvKeyCache]

theorem scanFrom (h : SameKeys s s') (turns : ℕ) (counter : UInt32) :
    s'.scanFrom P ciphertext mac tag turns counter =
      s.scanFrom P ciphertext mac tag turns counter := by
  induction turns generalizing counter with
  | zero => rfl
  | succ turns ih => rw [Session.scanFrom, Session.scanFrom, h.openAt, ih]

theorem opens (h : SameKeys s s') :
    (s'.tryCounterHintDecrypt P hint ciphertext mac tag windowEnd).or
        (s'.scanWindowDecrypt P ciphertext mac tag windowEnd) =
      (s.tryCounterHintDecrypt P hint ciphertext mac tag windowEnd).or
        (s.scanWindowDecrypt P ciphertext mac tag windowEnd) := by
  unfold scanWindowDecrypt tryCounterHintDecrypt
  rw [h.scanFrom, h.recvWindowBase]
  simp only [h.openAt]

end

theorem decrypt (h : SameKeys s s') :
    (s'.decryptExistingSession P now msg tag hint).1 =
      (s.decryptExistingSession P now msg tag hint).1 := by
  have hfill := h.fillRecvKeyCache (P := P) s.windowEnd
  unfold decryptExistingSession
  split
  · rfl
  next ciphertext mac _ =>
    rw [h.windowEnd]
    dsimp only
    generalize s.fillRecvKeyCache P s.windowEnd = filled at hfill ⊢
    generalize s'.fillRecvKeyCache P s.windowEnd = filled' at hfill ⊢
    obtain ⟨answer, s₁⟩ := filled
    obtain ⟨answer', s₁'⟩ := filled'
    obtain ⟨rfl, hkeys⟩ := hfill
    cases answer' with
    | error e => rfl
    | ok =>
      dsimp only
      rw [hkeys.opens, hkeys.recvWindowBase]
      cases (s₁.tryCounterHintDecrypt P hint ciphertext mac tag s.windowEnd).or
        (s₁.scanWindowDecrypt P ciphertext mac tag s.windowEnd) <;> rfl

end SameKeys

/-! ### Keys derived ahead -/

/-- Only what is derived ahead differs. -/
def OnlyKeys (s s' : Session δ σ τ) : Prop :=
  s' = { s with
    recvSymmetricRatchet := s'.recvSymmetricRatchet
    recvFillMark := s'.recvFillMark
    recvKeyCache := s'.recvKeyCache }

theorem onlyKeys_fillLoop (turns : ℕ) (r : σ) (s : Session δ σ τ) :
    s.OnlyKeys (s.fillLoop P turns r).2 := by
  fun_induction fillLoop P turns r s with
  | case1 | case2 => rfl
  | case3 => next ih => exact ih

theorem onlyKeys_fillRecvKeyCache (upTo : UInt32) (s : Session δ σ τ) :
    s.OnlyKeys (s.fillRecvKeyCache P upTo).2 := by
  fun_cases fillRecvKeyCache
  · rfl
  · exact onlyKeys_fillLoop _ _ s

theorem OnlyKeys.base (h : s.OnlyKeys s') : s'.recvWindowBase = s.recvWindowBase := by
  rw [h]

theorem fillLoop_ok {turns : ℕ} {r : σ} (hr : s.recvSymmetricRatchet = some r)
    (hlt : s.recvFillMark.toNat + turns < 2 ^ 32) (h : s.fillLoop P turns r = (.ok (), s₁)) :
    s₁.recvSymmetricRatchet.isSome ∧ s₁.recvFillMark.toNat = s.recvFillMark.toNat + turns := by
  induction turns generalizing r s with
  | zero =>
    cases h
    exact ⟨by rw [hr]; rfl, rfl⟩
  | succ turns ih => grind [fillLoop, UInt32.toNat_add, UInt32.toNat_one, Nat.mod_eq_of_lt]

theorem fillRecvKeyCache_ok (h : s.fillRecvKeyCache P upTo = (.ok (), s₁)) :
    s₁.recvSymmetricRatchet.isSome ∧
      s₁.recvFillMark.toNat = max s.recvFillMark.toNat upTo.toNat := by
  unfold fillRecvKeyCache at h
  split at h
  · cases h
  next r hr =>
    have hupTo := upTo.toNat_lt
    have hmark := s.recvFillMark.toNat_lt
    obtain ⟨hsome, hfill⟩ := fillLoop_ok hr (by omega) h
    exact ⟨hsome, by omega⟩

theorem fillRecvKeyCache_of_le (hr : s.recvSymmetricRatchet.isSome)
    (hle : upTo.toNat ≤ s.recvFillMark.toNat) : s.fillRecvKeyCache P upTo = (.ok (), s) := by
  obtain ⟨r, hr⟩ := Option.isSome_iff_exists.mp hr
  unfold fillRecvKeyCache
  rw [hr, Nat.sub_eq_zero_of_le hle]
  rfl

/-- `recvWindowBase + recvWindowSize` does not fit in 32 bits. -/
def Overflows (s : Session δ σ τ) : Prop := s.recvWindowBase + recvWindowSize < s.recvWindowBase

instance (s : Session δ σ τ) : Decidable s.Overflows :=
  inferInstanceAs (Decidable (s.recvWindowBase + recvWindowSize < s.recvWindowBase))

/-- Keys derived ahead change nothing: messages are answered as before. -/
theorem decryptExistingSession_of_filled (hover : ¬s.Overflows)
    (hfill : s.fillRecvKeyCache P s.windowEnd = (.ok (), s₁)) :
    (s₁.decryptExistingSession P now msg tag hint).1 =
      (s.decryptExistingSession P now msg tag hint).1 := by
  obtain ⟨hsome, hmark⟩ := fillRecvKeyCache_ok hfill
  have honly : s.OnlyKeys s₁ := by
    have hfilled := onlyKeys_fillRecvKeyCache (P := P) s.windowEnd s
    rwa [hfill] at hfilled
  have hend : s₁.windowEnd = s.windowEnd := by
    unfold Overflows at hover
    unfold windowEnd
    rw [honly.base, if_neg hover, if_neg hover]
  have hagain : s₁.fillRecvKeyCache P s.windowEnd = (.ok (), s₁) :=
    fillRecvKeyCache_of_le hsome (by rw [hmark]; exact Nat.le_max_right _ _)
  unfold decryptExistingSession
  split
  · rfl
  · dsimp only
    rw [hend, hagain, hfill]

theorem error_of_windowEnd_le (h : s.windowEnd ≤ s.recvWindowBase) :
    ∃ e, (s.decryptExistingSession P now msg tag hint).1 = .error e := by
  have honly := onlyKeys_fillRecvKeyCache (P := P) s.windowEnd s
  unfold decryptExistingSession
  split
  · exact ⟨_, rfl⟩
  next ciphertext mac _ =>
    dsimp only
    split
    · exact ⟨_, rfl⟩
    next s₁ hfill =>
      rw [hfill] at honly
      have hbase := honly.base
      have hhint : s₁.tryCounterHintDecrypt P hint ciphertext mac tag s.windowEnd = none := by
        unfold tryCounterHintDecrypt
        split
        · rfl
        next c => grind
      have hscan : s₁.scanWindowDecrypt P ciphertext mac tag s.windowEnd = none := by
        unfold scanWindowDecrypt
        rw [hbase, Nat.sub_eq_zero_of_le (UInt32.le_iff_toNat_le.mp h)]
        rfl
      rw [hhint, hscan]
      exact ⟨_, rfl⟩

theorem error_of_overflows {opened : Bytes × Tag} (hover : s.Overflows)
    (hok : (s.decryptExistingSession P now msg tag hint).1 = .ok opened)
    (hfill : s.fillRecvKeyCache P s.windowEnd = (.ok (), s₁)) :
    ∃ e, (s₁.decryptExistingSession P now msg tag hint).1 = .error e := by
  obtain ⟨-, hmark⟩ := fillRecvKeyCache_ok hfill
  have honly : s.OnlyKeys s₁ := by
    have hfilled := onlyKeys_fillRecvKeyCache (P := P) s.windowEnd s
    rwa [hfill] at hfilled
  have hlt : s.recvWindowBase < s.windowEnd := by
    by_contra hle
    obtain ⟨e, he⟩ := error_of_windowEnd_le (P := P) (UInt32.not_lt.mp hle)
    rw [he] at hok
    cases hok
  refine error_of_windowEnd_le ?_
  unfold Overflows at hover
  unfold windowEnd at hmark hlt ⊢
  rw [if_pos hover] at hmark hlt
  rw [honly.base, if_pos hover]
  have hsize : recvWindowSize.toNat = 128 := rfl
  have hwrap := UInt32.toNat_add s₁.recvFillMark recvWindowSize
  rw [UInt32.lt_iff_toNat_lt, UInt32.toNat_add] at hover hlt
  rw [UInt32.toNat_add] at hmark
  rw [UInt32.le_iff_toNat_le, hwrap]
  have hold := s.recvFillMark.toNat_lt
  omega

theorem session_of_error {e : Oops}
    (h : (s.decryptExistingSession P now msg tag hint).1 = .error e) :
    (s.decryptExistingSession P now msg tag hint).2 =
      if msg.length < 16 then s else (s.fillRecvKeyCache P s.windowEnd).2 := by
  revert h
  unfold decryptExistingSession parseExistingSessionMessage
  split_ifs
  · intro _
    rfl
  · grind

end Session

/-! ## Tables -/

namespace SessionManager

variable {sm sm' sm₁ : SessionManager δ σ τ} {now : Time} {env : Env} {msg : Bytes} {tag : Tag}
  {e : Oops} {p : ℕ} {s : Session δ σ τ} {tag' : Tag}

abbrev msgTag (msg : Bytes) : Tag := .copyFrom 8 (msg.take 8)

def existingAt (now : Time) (tag : Tag) (sm : SessionManager δ σ τ) : Option ℕ :=
  (sm.tagIndex.lookup tag).filter fun p => (sm.heap.lookup p).any fun s => sm.isSessionValid now s

theorem existingAt_eq_some : sm.existingAt now tag = some p ↔
    sm.tagIndex.lookup tag = some p ∧ ∃ s, sm.heap.lookup p = some s ∧ sm.isSessionValid now s := by
  rw [existingAt, Option.filter_eq_some_iff, Option.any_eq_true]

/-- The reader that a message is for authenticates it. -/
def authentic (N : NoiseLibrary) (P : Primitives δ σ τ) (env : Env) (msg : Bytes)
    (sm : SessionManager δ σ τ) : Bool :=
  8 ≤ msg.length &&
    match sm.tryDecryptExisting P env.now (msgTag msg) msg with
    | (some answer, _) => answer.isOk
    | (none, sm) =>
      match sm.nsrTagIndex.lookup (msgTag msg) with
      | some p => ((sm.heap.lookup p).bind handshakeState).any fun hs =>
        (readNoiseIKMessage2 N P hs sm.ourPrivateKey msg).isOk
      | none =>
        match (sm.tryDecryptOneTimeKey P (msgTag msg) msg).1 with
        | some answer => answer.isOk
        | none => (readNoiseIKMessage1 N sm.ourPrivateKey sm.ourPublicKey msg).isOk

/-- What a rejected message leaves of a session `s` at `p`. -/
structure Left (P : Primitives δ σ τ) (env : Env) (msg : Bytes) (sm : SessionManager δ σ τ) (p : ℕ)
    (s s' : Session δ σ τ) : Prop where
  lastUsed : s'.lastUsed = s.lastUsed
  keys : Session.SameKeys (if 24 ≤ msg.length ∧ sm.existingAt env.now (msgTag msg) = some p then
    (s.fillRecvKeyCache P s.windowEnd).2 else s) s'
  handshakeState : s'.handshakeState =
    if 8 ≤ msg.length ∧ sm.existingAt env.now (msgTag msg) = none ∧
      sm.nsrTagIndex.lookup (msgTag msg) = some p then none else s.handshakeState
  pendingTags : ∀ tag ∈ s.pendingTags, (8 ≤ msg.length → tag ≠ msgTag msg) → tag ∈ s'.pendingTags

/-- What a rejected message does to the tables. -/
structure Aftermath (P : Primitives δ σ τ) (env : Env) (msg : Bytes)
    (sm sm' : SessionManager δ σ τ) : Prop where
  tables : sm.OnlyTables sm'
  entry : ∀ tag ∉ sm.upcomingTags P (msgTag msg), (8 ≤ msg.length → tag ≠ msgTag msg) →
    SameEntry tag sm sm'
  used : 8 ≤ msg.length → msgTag msg ∉ sm.upcomingTags P (msgTag msg) →
    sm'.tagIndex.lookup (msgTag msg) = none
  sessions : ∀ p s, sm.heap.lookup p = some s →
    ∃ s', sm'.heap.lookup p = some s' ∧ Left P env msg sm p s s'
  absent : ∀ p, sm.heap.lookup p = none → sm'.heap.lookup p = none
  replies : ∀ tag, sm'.nsrTagIndex.lookup tag =
    if 8 ≤ msg.length ∧ sm.existingAt env.now (msgTag msg) = none ∧ tag = msgTag msg then none
    else sm.nsrTagIndex.lookup tag

/-- What a message for no session does. -/
structure Spent (now : Time) (tag : Tag) (sm sm₁ : SessionManager δ σ τ) : Prop where
  indexes : sm.OnlyIndexes sm₁
  entry : ∀ tag', tag' ≠ tag → SameEntry tag' sm sm₁
  used : sm₁.tagIndex.lookup tag = none
  existingAt : sm.existingAt now tag = none

theorem tables_of_tryDecryptExisting (h : sm.tryDecryptExisting P now tag msg = (none, sm₁)) :
    sm.tagIndex.lookup tag = none ∧ sm₁ = sm ∨ sm₁ = sm.deleteTags [tag] := by
  revert h
  unfold tryDecryptExisting lookupSessionByTag
  cases sm.tagIndex.lookup tag with
  | none => grind
  | some p => grind

theorem existingAt_of_tryDecryptExisting (h : sm.tryDecryptExisting P now tag msg = (none, sm₁)) :
    sm.existingAt now tag = none := by
  by_contra hsome
  obtain ⟨p, hp⟩ := Option.ne_none_iff_exists'.mp hsome
  obtain ⟨hp, s, hs, hvalid⟩ := existingAt_eq_some.mp hp
  rcases hres : (received P now tag msg p s sm).1 with e | ⟨plaintext, sessionTag⟩
  · rw [tryDecryptExisting_of_error hp hs hvalid hres] at h
    cases h
  · rw [tryDecryptExisting_of_ok hp hs hvalid hres] at h
    cases h

theorem Spent.nsrTagIndex_eq (h : Spent now tag sm sm₁) : sm₁.nsrTagIndex = sm.nsrTagIndex := by
  have hindexes := h.indexes
  rw [hindexes]

theorem Spent.heap_eq (h : Spent now tag sm sm₁) : sm₁.heap = sm.heap := by
  have hindexes := h.indexes
  rw [hindexes]

theorem sameEntry_deleteTags (h : tag' ≠ tag) : SameEntry tag' sm (sm.deleteTags [tag]) :=
  ⟨AList.lookup_erase_ne h, AList.lookup_erase_ne h⟩

theorem spent_of_tryDecryptExisting (h : sm.tryDecryptExisting P now tag msg = (none, sm₁)) :
    Spent now tag sm sm₁ := by
  have hnone := existingAt_of_tryDecryptExisting h
  rcases tables_of_tryDecryptExisting h with ⟨hlook, rfl⟩ | rfl
  · exact ⟨rfl, fun tag' _ => .refl tag' _, hlook, hnone⟩
  · exact ⟨rfl, fun _ => sameEntry_deleteTags, AList.lookup_erase _ _, hnone⟩

/-! ### A message for a session -/

theorem mem_useTag (h : tag' ∈ s.pendingTags) (hne : tag' ≠ tag) :
    tag' ∈ (s.useTag tag).pendingTags := by
  by_cases hmem : tag ∈ s.pendingTags
  · exact ((List.mem_cons.mp ((perm_cons_removeTagFromPendingList hmem).mem_iff.mpr h)).resolve_left
      hne)
  · have hsame : (s.useTag tag).pendingTags = s.pendingTags := if_neg hmem
    rwa [hsame]

theorem pendingTags_install (newTags : List (Tag × UInt32))
    (w : Session δ σ τ × SessionManager δ σ τ) :
    w.1.pendingTags ⊆ (installGeneratedTagsLocked p newTags w).1.pendingTags := by
  fun_induction installGeneratedTagsLocked p newTags w with
  | case1 | case2 => exact List.Subset.refl _
  | case3 => assumption
  | case4 => next ih => exact List.Subset.trans (List.subset_append_left _ _) ih

theorem pendingTags_drawTags (i turns : ℕ) (r : τ) (s : Session δ σ τ) :
    (s.drawTags P i turns r).2.pendingTags = s.pendingTags := by
  induction turns generalizing i r s with
  | zero => rfl
  | succ turns ih => grind [drawTags]

theorem pendingTags_replenishLoop {attempts : ℕ} {w : Session δ σ τ × SessionManager δ σ τ} :
    w.1.pendingTags ⊆ (replenishLoop P p attempts w).1.pendingTags := by
  induction attempts generalizing w with
  | zero => exact List.Subset.refl _
  | succ attempts ih =>
    obtain ⟨s, sm⟩ := w
    have hdraw : (s.generateTagsOutsideLock P).2.pendingTags = s.pendingTags := by
      unfold generateTagsOutsideLock
      split
      · rfl
      · exact pendingTags_drawTags _ _ _ s
    rw [replenishLoop]
    split_ifs
    · exact List.Subset.refl _
    · split
      next heq => grind
      next newTags s₁ heq =>
        rw [heq] at hdraw
        have hinstall : s₁.pendingTags ⊆
            (installGeneratedTagsLocked p newTags (s₁, sm)).1.pendingTags :=
          pendingTags_install newTags (s₁, sm)
        rw [hdraw] at hinstall
        dsimp only
        split_ifs
        · exact hdraw ▸ List.Subset.refl _
        · exact hinstall
        · exact List.Subset.trans hinstall ih

/-- What drawing new tags, if any, does to a session and the tables. -/
structure Replenished (P : Primitives δ σ τ) (w w' : Session δ σ τ × SessionManager δ σ τ) :
    Prop where
  session : w.1.OnlyTags w'.1
  indexes : w.2.OnlyIndexes w'.2
  pendingTags : w.1.pendingTags ⊆ w'.1.pendingTags
  entry : ∀ tag, (∀ r ∈ w.1.recvTagRatchet,
    tag ∉ P.nextTags (maxReplenishAttempts * tagWindowSize) r) → SameEntry tag w.2 w'.2

theorem replenished (p : ℕ) (needsReplenish : Prop) [Decidable needsReplenish]
    (w : Session δ σ τ × SessionManager δ σ τ) :
    Replenished P w (if needsReplenish then replenishTagWindowOutsideLock P p w else w) := by
  split_ifs
  · exact ⟨onlyTags_replenishLoop _ w, onlyIndexes_replenishLoop _ w,
      pendingTags_replenishLoop, fun _ => sameEntry_replenishLoop⟩
  · exact ⟨rfl, rfl, List.Subset.refl _, fun tag _ => .refl tag w.2⟩

theorem Left.same (hexisting : sm.existingAt env.now (msgTag msg) ≠ some p)
    (hreply : ¬(8 ≤ msg.length ∧ sm.existingAt env.now (msgTag msg) = none ∧
      sm.nsrTagIndex.lookup (msgTag msg) = some p)) : Left P env msg sm p s s where
  lastUsed := rfl
  keys := by
    rw [if_neg fun h => hexisting h.2]
    exact ⟨rfl, rfl, rfl, rfl⟩
  handshakeState := (if_neg hreply).symm
  pendingTags _ htag _ := htag

/-- The session of an Existing Session message that is rejected. -/
theorem left_of_error {s' : Session δ σ τ} {hint : Option UInt32} (h8 : 8 ≤ msg.length)
    (hexisting : sm.existingAt env.now (msgTag msg) = some p)
    (h : ((s.useTag (msgTag msg)).decryptExistingSession P env.now (msg.drop 8) (msgTag msg)
      hint).1 = .error e)
    (hs' : ((s.useTag (msgTag msg)).decryptExistingSession P env.now (msg.drop 8) (msgTag msg)
      hint).2.OnlyTags s')
    (hpending : ((s.useTag (msgTag msg)).decryptExistingSession P env.now (msg.drop 8) (msgTag msg)
      hint).2.pendingTags ⊆ s'.pendingTags) : Left P env msg sm p s s' := by
  have hsame := sameTags_decryptExistingSession P env.now (msg.drop 8) (msgTag msg) hint
    (s.useTag (msgTag msg))
  rw [hsame.pendingTags] at hpending
  have huse : s.SameKeys (s.useTag (msgTag msg)) := ⟨rfl, rfl, rfl, rfl⟩
  rw [session_of_error h, huse.windowEnd, List.length_drop] at hs'
  by_cases hlen : 24 ≤ msg.length
  · rw [if_neg (by omega)] at hs'
    have honly := onlyKeys_fillRecvKeyCache (P := P) s.windowEnd (s.useTag (msgTag msg))
    have hkeys := (huse.fillRecvKeyCache (P := P) s.windowEnd).2
    generalize (s.useTag (msgTag msg)).fillRecvKeyCache P s.windowEnd = filled at hs' honly hkeys
    refine ⟨?_, ?_, ?_, fun tag htag hne => hpending (mem_useTag htag (hne h8))⟩
    · rw [hs', honly]
      rfl
    · rw [if_pos ⟨hlen, hexisting⟩]
      refine hkeys.trans ?_
      rw [hs']
      exact ⟨rfl, rfl, rfl, rfl⟩
    · rw [if_neg (by rw [hexisting]; simp), hs', honly]
      rfl
  · rw [if_pos (by omega)] at hs'
    refine ⟨?_, ?_, ?_, fun tag htag hne => hpending (mem_useTag htag (hne h8))⟩
    · rw [hs']
      rfl
    · rw [if_neg fun h => hlen h.1, hs']
      exact ⟨rfl, rfl, rfl, rfl⟩
    · rw [if_neg (by rw [hexisting]; simp), hs']
      rfl

theorem aftermath_received (hlen : 8 ≤ msg.length) (hp : sm.tagIndex.lookup (msgTag msg) = some p)
    (hs : sm.heap.lookup p = some s) (hvalid : sm.isSessionValid env.now s)
    (h : (received P env.now (msgTag msg) msg p s sm).1 = .error e) :
    Aftermath P env msg sm (received P env.now (msgTag msg) msg p s sm).2 := by
  have hexisting : sm.existingAt env.now (msgTag msg) = some p :=
    existingAt_eq_some.mpr ⟨hp, s, hs, hvalid⟩
  have hdelete : sm.OnlyTables (sm.deleteTags [msgTag msg]) := rfl
  have htables : sm.OnlyTables (received P env.now (msgTag msg) msg p s sm).2 :=
    hdelete.trans onlyTables_receiveExisting
  obtain ⟨w, hw, hreceived⟩ : ∃ w, Replenished P _ w ∧ received P env.now (msgTag msg) msg p s sm =
      (_, { w.2 with heap := w.2.heap.insert p w.1 }) := ⟨_, replenished p _ _, rfl⟩
  rw [hreceived] at h htables ⊢
  have hentry : ∀ tag ∉ sm.upcomingTags P (msgTag msg),
      SameEntry tag (sm.deleteTags [msgTag msg]) w.2 := by
    intro tag htag
    refine hw.entry tag fun r hr => ?_
    rw [(sameTags_decryptExistingSession ..).recvTagRatchet] at hr
    unfold upcomingTags at htag
    rwa [hp, Option.bind_some, hs, Option.bind_some, show s.recvTagRatchet = some r from hr] at htag
  have hindexes := hw.indexes
  refine ⟨htables, fun tag htag hne => (sameEntry_deleteTags (hne hlen)).trans (hentry tag htag),
    fun _ htag => (hentry _ htag).1.trans (AList.lookup_erase _ _), fun q t ht => ?_,
    fun q hq => ?_, fun tag => ?_⟩
  · by_cases hqp : q = p
    · subst hqp
      cases hs.symm.trans ht
      exact ⟨w.1, AList.lookup_insert _, left_of_error hlen hexisting h hw.session hw.pendingTags⟩
    · refine ⟨t, ?_, Left.same ?_ ?_⟩
      · rw [AList.lookup_insert_ne hqp, hindexes]
        exact ht
      · rw [hexisting]
        exact fun he => hqp (Option.some.inj he).symm
      · rw [hexisting]
        simp
  · rw [AList.lookup_insert_ne, hindexes]
    · exact hq
    · grind
  · rw [if_neg (by rw [hexisting]; simp), hindexes]
    rfl

/-! ### A message for no session -/

theorem tryDecryptNSR_spec (H : Handshakes δ σ τ) (hp : sm.nsrTagIndex.lookup tag = some p)
    (msg : Bytes) :
    ∃ heap : GoMap ℕ (Session δ σ τ),
      (∀ q, q ≠ p → heap.lookup q = sm.heap.lookup q) ∧
      (sm.heap.lookup p = none → heap.lookup p = none) ∧
      (∀ s, sm.heap.lookup p = some s →
        ∃ nsrTag, heap.lookup p = some { s with nsrTag := nsrTag }) ∧
      sm.tryDecryptNSR H tag msg =
        (some (H.decryptIncomingNSR p msg
          { sm with heap := heap, nsrTagIndex := sm.nsrTagIndex.erase tag }).1,
        (H.decryptIncomingNSR p msg
          { sm with heap := heap, nsrTagIndex := sm.nsrTagIndex.erase tag }).2) := by
  unfold tryDecryptNSR
  rw [hp]
  dsimp only
  cases hs : sm.heap.lookup p with
  | none => grind
  | some s =>
    dsimp only
    split_ifs
    · refine ⟨_, fun q hq => AList.lookup_insert_ne hq, nofun, fun s' hs' => ⟨none, ?_⟩, rfl⟩
      rw [AList.lookup_insert, Option.some.inj hs']
    · refine ⟨sm.heap, fun _ _ => rfl, nofun, fun s' hs' => ⟨s.nsrTag, ?_⟩, rfl⟩
      obtain rfl := Option.some.inj hs'
      exact hs

/-- What a forged reply does: its tag and the state of the handshake are gone. -/
structure Forfeited (p : ℕ) (tag : Tag) (sm sm' : SessionManager δ σ τ) : Prop where
  replies : sm' = { sm with heap := sm'.heap, nsrTagIndex := sm.nsrTagIndex.erase tag }
  others : ∀ q, q ≠ p → sm'.heap.lookup q = sm.heap.lookup q
  absent : sm.heap.lookup p = none → sm'.heap.lookup p = none
  session : ∀ s, sm.heap.lookup p = some s → ∃ nsrTag, sm'.heap.lookup p =
    some { s with nsrTag := nsrTag, handshakeState := none }

theorem forfeited_of_tryDecryptNSR (env : Env) (hp : sm.nsrTagIndex.lookup tag = some p)
    (h : (((sm.heap.lookup p).bind handshakeState).any fun hs =>
      (readNoiseIKMessage2 N P hs sm.ourPrivateKey msg).isOk) = false) :
    Forfeited p tag sm (sm.tryDecryptNSR (handshakes N P env) tag msg).2 := by
  obtain ⟨heap, hothers, habsent, hsession, htry⟩ := tryDecryptNSR_spec (handshakes N P env) hp msg
  rw [htry]
  show Forfeited p tag sm (decryptIncomingNSR N P env p msg _).2
  unfold decryptIncomingNSR
  cases hs : sm.heap.lookup p with
  | none =>
    rw [habsent hs]
    exact ⟨rfl, hothers, habsent, fun s hs' => by rw [hs] at hs'; cases hs'⟩
  | some s =>
    obtain ⟨nsrTag, hs₁⟩ := hsession s hs
    rw [hs₁]
    have hsame : ∀ s', sm.heap.lookup p = some s' → s' = s := fun s' hs' =>
      Option.some.inj (hs'.symm.trans hs)
    have hsome : ∀ {Q : Prop}, sm.heap.lookup p = none → Q := fun hnone =>
      absurd (hnone.symm.trans hs) nofun
    cases hstate : s.handshakeState with
    | none =>
      refine ⟨rfl, hothers, hsome, fun s' hs' => ?_⟩
      rw [hsame s' hs']
      refine ⟨nsrTag, hs₁.trans ?_⟩
      rw [hstate]
    | some hs₂ =>
      rw [hs, Option.bind_some, hstate, Option.any_some] at h
      rcases hanswer : readNoiseIKMessage2 N P hs₂ sm.ourPrivateKey msg with e | opened
      · dsimp only
        rw [hanswer]
        refine ⟨rfl, fun q hq => ?_, hsome, fun s' hs' => ⟨nsrTag, ?_⟩⟩
        · exact (AList.lookup_insert_ne hq).trans (hothers q hq)
        · rw [hsame s' hs']
          exact AList.lookup_insert _
      · rw [hanswer] at h
        cases h

/-- A message that goes on to the readers of one-time keys and New Session messages. -/
theorem Spent.aftermath (h : Spent env.now (msgTag msg) sm sm₁) (hlen : 8 ≤ msg.length)
    (hreply : sm.nsrTagIndex.lookup (msgTag msg) = none) (keys : GoMap Tag Key) :
    Aftermath P env msg sm { sm₁ with oneTimeKeys := keys } := by
  have hheap := h.heap_eq
  refine ⟨?_, fun tag _ hne => h.entry tag (hne hlen), fun _ _ => h.used,
    fun p s hs => ⟨s, ?_, Left.same ?_ ?_⟩, fun p hp => ?_, fun tag => ?_⟩
  · have htables := h.indexes.onlyTables
    exact htables.trans rfl
  · exact hheap ▸ hs
  · rw [h.existingAt]
    nofun
  · rw [hreply]
    simp
  · exact hheap ▸ hp
  · rw [h.nsrTagIndex_eq]
    split_ifs with htag
    · rw [htag.2.2, hreply]
    · rfl

theorem Spent.aftermath_of_forfeited (h : Spent env.now (msgTag msg) sm sm₁) (hlen : 8 ≤ msg.length)
    (hp : sm.nsrTagIndex.lookup (msgTag msg) = some p)
    (hreply : Forfeited p (msgTag msg) sm₁ sm') : Aftermath P env msg sm sm' := by
  have hheap := h.heap_eq
  have hreplies := hreply.replies
  have hentry : ∀ tag, SameEntry tag sm₁ sm' := fun tag => by
    rw [hreplies]
    exact ⟨rfl, rfl⟩
  refine ⟨?_, fun tag _ hne => (h.entry tag (hne hlen)).trans (hentry tag),
    fun _ _ => (hentry _).1.trans h.used, fun q s hs => ?_, fun q hq => ?_, fun tag => ?_⟩
  · rw [hreplies]
    have htables := h.indexes.onlyTables
    exact htables.trans rfl
  · rw [← hheap] at hs
    by_cases hqp : q = p
    · subst hqp
      obtain ⟨nsrTag, hs'⟩ := hreply.session s hs
      refine ⟨_, hs', rfl, ?_, ?_, fun _ htag _ => htag⟩
      · rw [if_neg (by rw [h.existingAt]; simp)]
        exact ⟨rfl, rfl, rfl, rfl⟩
      · rw [if_pos ⟨hlen, h.existingAt, hp⟩]
    · refine ⟨s, (hreply.others q hqp).trans hs, Left.same ?_ ?_⟩
      · rw [h.existingAt]
        nofun
      · rw [hp]
        exact fun hq => hqp (Option.some.inj hq.2.2).symm
  · rw [← hheap] at hq
    by_cases hqp : q = p
    · exact hqp ▸ hreply.absent (hqp ▸ hq)
    · exact (hreply.others q hqp).trans hq
  · rw [hreplies]
    rw [h.nsrTagIndex_eq]
    split_ifs with htag
    · rw [htag.2.2]
      exact AList.lookup_erase _ _
    · exact AList.lookup_erase_ne fun he => htag ⟨hlen, h.existingAt, he⟩

theorem oneTimeKeys_of_tryDecryptOneTimeKey (P : Primitives δ σ τ) (tag : Tag) (msg : Bytes)
    (sm : SessionManager δ σ τ) :
    ∃ keys, (sm.tryDecryptOneTimeKey P tag msg).2 = { sm with oneTimeKeys := keys } := by
  fun_cases tryDecryptOneTimeKey
  · exact ⟨sm.oneTimeKeys, rfl⟩
  all_goals exact ⟨sm.oneTimeKeys.erase tag, rfl⟩

/-- What is left after a message that fails authentication. -/
theorem aftermath (h : sm.authentic N P env msg = false) :
    Aftermath P env msg sm (sm.decrypt N P env msg).2 := by
  unfold authentic at h
  have hspec := decrypts (N := N) (P := P) env msg sm
  generalize sm.decrypt N P env msg = result at hspec ⊢
  cases hspec with
  | short e hlen =>
    refine ⟨rfl, fun tag _ _ => .refl tag sm, fun hle => absurd hlen (Nat.not_lt.mpr hle),
      fun p s hs => ⟨s, hs, rfl, ?_, ?_, fun _ htag _ => htag⟩, fun _ hp => hp, fun tag => ?_⟩
    · rw [if_neg (by omega)]
      exact ⟨rfl, rfl, rfl, rfl⟩
    · rw [if_neg (by omega)]
    · rw [if_neg (by omega)]
  | @existing answer sm' hlen hexisting =>
    rw [decide_eq_true hlen, Bool.true_and, hexisting] at h
    obtain ⟨p, s, hp, hs, hvalid⟩ := existing_of_isSome (by rw [hexisting]; rfl)
    rcases hres : (received P env.now (msgTag msg) msg p s sm).1 with e | ⟨plaintext, sessionTag⟩
    · have herror := tryDecryptExisting_of_error hp hs hvalid hres
      obtain ⟨-, rfl⟩ := Prod.mk.inj (hexisting.symm.trans herror)
      exact aftermath_received hlen hp hs hvalid hres
    · rw [tryDecryptExisting_of_ok hp hs hvalid hres] at hexisting
      cases hexisting
      cases h
  | @reply answer sm₁ sm' hlen hexisting hreply =>
    have hspent := spent_of_tryDecryptExisting hexisting
    rw [decide_eq_true hlen, Bool.true_and, hexisting] at h
    rcases hp : sm₁.nsrTagIndex.lookup (msgTag msg) with _ | p
    · unfold tryDecryptNSR at hreply
      rw [hp] at hreply
      cases hreply
    · dsimp only at h
      rw [hp] at h
      have hforfeited := forfeited_of_tryDecryptNSR env hp h
      rw [hreply] at hforfeited
      rw [hspent.nsrTagIndex_eq] at hp
      exact hspent.aftermath_of_forfeited hlen hp hforfeited
  | @oneTime answer sm₁ sm' hlen hexisting hreply honeTime =>
    have hspent := spent_of_tryDecryptExisting hexisting
    rw [hspent.nsrTagIndex_eq] at hreply
    obtain ⟨keys, hkeys⟩ := oneTimeKeys_of_tryDecryptOneTimeKey P (msgTag msg) msg sm₁
    rw [honeTime] at hkeys
    obtain rfl : sm' = { sm₁ with oneTimeKeys := keys } := hkeys
    exact hspent.aftermath hlen hreply keys
  | @newSession answer sm₁ sm' hlen hexisting hreply honeTime hnew =>
    have hspent := spent_of_tryDecryptExisting hexisting
    rw [decide_eq_true hlen, Bool.true_and, hexisting] at h
    dsimp only at h
    have hone : (sm₁.tryDecryptOneTimeKey P (msgTag msg) msg).1 = none := by
      unfold tryDecryptOneTimeKey
      rw [honeTime]
    rw [hreply] at h
    rw [hone] at h
    rw [hspent.nsrTagIndex_eq] at hreply
    have hsame : sm' = sm₁ := by
      unfold decryptNewSession at hnew
      rcases hread : readNoiseIKMessage1 N sm₁.ourPrivateKey sm₁.ourPublicKey msg with e | m
      · rw [hread] at hnew
        exact (Prod.mk.inj hnew).2.symm
      · rw [hread] at h
        cases h
    rw [hsame]
    exact hspent.aftermath hlen hreply sm₁.oneTimeKeys

end SessionManager
end GoNoise.Ratchet
