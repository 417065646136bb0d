import GoNoise.Ratchet.ManagerRuns

/-!
# Where a session stands in its handshake

Three fields of a session say how far its handshake has come, and `encryptExistingSession` reads no
others before it sends. Messages, tags and Next Key blocks leave them alone, and this is followed
through the functions of the manager.
-/

namespace GoNoise.Ratchet

variable {δ σ τ : Type}

/-- Where a session stands in its handshake. -/
structure Stage where
  isInitiator : Bool
  /-- the handshake has begun, and there was no attempt to end it -/
  pending : Bool
  awaitingFirstES : Bool
  deriving DecidableEq

/-! ## One session -/

namespace Session

variable {P : Primitives δ σ τ} {s s' : Session δ σ τ} {now : Time}

def stage (s : Session δ σ τ) : Stage := ⟨s.isInitiator, s.handshakeState.isSome, s.awaitingFirstES⟩

def window (s : Session δ σ τ) : UInt32 × UInt32 × GoMap UInt32 Key :=
  (s.recvWindowBase, s.recvFillMark, s.recvKeyCache)

/-- What DH ratchet steps and Next Key blocks leave alone. -/
def kept (s : Session δ σ τ) :
    Stage × (UInt32 × UInt32 × GoMap UInt32 Key) × UInt32 × List PayloadBlock :=
  (s.stage, s.window, s.messageCounter, s.pendingAcks)

theorem stage_of_kept (h : s'.kept = s.kept) : s'.stage = s.stage := congrArg Prod.fst h

theorem OnlyTags.stage_eq (h : s.OnlyTags s') : s'.stage = s.stage := by
  rw [h]
  rfl

theorem OnlyControl.stage_eq (h : s.OnlyControl s') : s'.stage = s.stage := by
  rw [h]
  rfl

theorem stage_fillLoop (turns : ℕ) (r : σ) (s : Session δ σ τ) :
    (fillLoop P turns r s).2.stage = s.stage := by
  fun_induction fillLoop P turns r s with
  | case1 | case2 => rfl
  | case3 _ _ _ _ _ _ ih => exact ih

theorem stage_fillRecvKeyCache (upTo : UInt32) (s : Session δ σ τ) :
    (s.fillRecvKeyCache P upTo).2.stage = s.stage := by
  fun_cases fillRecvKeyCache
  · rfl
  · exact stage_fillLoop _ _ s

/-- An Existing Session message that is opened ends the wait of a responder; one that is not leaves
the stage alone. -/
theorem stage_decryptExistingSession (now : Time) (msg : Bytes) (tag : Tag)
    (counterHint : Option UInt32) (s : Session δ σ τ) :
    let decrypted := s.decryptExistingSession P now msg tag counterHint
    decrypted.2.stage = s.stage ∨
      (∃ opened, decrypted.1 = .ok opened) ∧ s.isInitiator = false ∧
        decrypted.2.stage = { s.stage with awaitingFirstES := false } := by
  intro decrypted
  unfold decrypted decryptExistingSession
  split
  · exact .inl rfl
  · dsimp only
    have hfill := stage_fillRecvKeyCache (P := P) s.windowEnd s
    split
    next heq => exact .inl (by rw [heq] at hfill; exact hfill)
    next s₁ heq =>
      rw [heq] at hfill
      split
      · exact .inl hfill
      next plaintext usedCounter _ =>
        split_ifs with hawaiting
        · refine .inr ⟨⟨_, rfl⟩, ?_, ?_⟩
          · have hinit : s₁.isInitiator = s.isInitiator := congrArg Stage.isInitiator hfill
            rw [← hinit]
            exact Bool.eq_false_iff.mpr hawaiting.1
          · rw [← hfill]
            rfl
        · exact .inl hfill

theorem kept_applyRatchetKeys (send : Bool) (s : Session δ σ τ) :
    (s.applyRatchetKeys P send).2.kept = s.kept := by
  fun_cases applyRatchetKeys <;> rfl

theorem kept_performDHRatchetStep (s : Session δ σ τ) :
    (s.performDHRatchetStep P).2.kept = s.kept := by
  fun_cases performDHRatchetStep <;> grind [kept, window, stage, kept_applyRatchetKeys]

theorem kept_attemptDHRatchetRotation (s : Session δ σ τ) :
    (s.attemptDHRatchetRotation P).2.kept = s.kept := by
  fun_cases attemptDHRatchetRotation <;> grind [kept, window, stage, kept_performDHRatchetStep]

theorem kept_deriveMessageKey (s : Session δ σ τ) : (s.deriveMessageKey P).2.kept = s.kept := by
  fun_cases deriveMessageKey <;> rfl

theorem kept_generateAndTrackSessionTag (s : Session δ σ τ) :
    (s.generateAndTrackSessionTag P).2.kept = s.kept := by
  fun_cases generateAndTrackSessionTag <;> rfl

theorem kept_advanceRatchets (s : Session δ σ τ) : (s.advanceRatchets P).2.kept = s.kept := by
  fun_cases advanceRatchets <;> grind [kept_attemptDHRatchetRotation, kept_deriveMessageKey,
    kept_generateAndTrackSessionTag]

theorem kept_encryptExistingSession (plaintext : Bytes) (s : Session δ σ τ) :
    let encrypted := s.encryptExistingSession P now plaintext
    encrypted.2.stage = s.stage ∧ encrypted.2.window = s.window := by
  fun_cases encryptExistingSession <;>
    grind [kept, window, stage, kept_advanceRatchets, prependPendingNextKeys]

theorem of_encryptExistingSession {plaintext msg : Bytes}
    (h : (s.encryptExistingSession P now plaintext).1 = .ok msg) :
    (s.isInitiator = true → s.handshakeState = none) ∧
      (s.isInitiator = false → s.awaitingFirstES = false) := by
  unfold encryptExistingSession at h
  split_ifs at h with hpending hawaiting
  rw [not_and] at hpending hawaiting
  refine ⟨fun hinit => ?_, fun hinit => ?_⟩
  · exact Option.not_isSome_iff_eq_none.mp (hpending hinit)
  · exact Bool.eq_false_iff.mpr (hawaiting (Bool.eq_false_iff.mp hinit))

theorem kept_applyIncomingDHKey (remotePubKey : Key) (s : Session δ σ τ) :
    (s.applyIncomingDHKey P remotePubKey).2.kept = s.kept := by
  fun_cases applyIncomingDHKey <;> grind [kept, window, stage, kept_applyRatchetKeys]

theorem kept_generateReverseNextKey (s : Session δ σ τ) :
    (s.generateReverseNextKey P).2.kept = s.kept := by
  fun_cases generateReverseNextKey <;> rfl

theorem kept_processNextKey (info : NextKeyInfo) (s : Session δ σ τ) :
    (s.processNextKey P info).2.kept = s.kept := by
  unfold processNextKey
  split_ifs
  · fun_cases processReverseNextKey <;> grind [kept, window, stage, kept_applyIncomingDHKey]
  · fun_cases processForwardNextKey <;>
      grind [kept, window, stage, kept_applyIncomingDHKey, kept_generateReverseNextKey]
  · fun_cases processNextKeyAck <;> grind [kept, window, stage, kept_applyIncomingDHKey]

end Session

/-! ## All sessions of a manager -/

namespace SessionManager

variable {N : NoiseLibrary} {P : Primitives δ σ τ} {env : Env} {sm sm' : SessionManager δ σ τ}
    {p : ℕ}
  {s : Session δ σ τ} {hash pub : Key} {tag : Tag} {msg : Bytes} {now : Time} {priv : Key}
  {sm₁ sm₂ sm₃ : SessionManager δ σ τ}

def stages (sm : SessionManager δ σ τ) (p : ℕ) : Option Stage := (sm.heap.lookup p).map
    Session.stage

def FewerReplies (sm sm' : SessionManager δ σ τ) : Prop :=
  ∀ tag p, sm'.nsrTagIndex.lookup tag = some p → sm.nsrTagIndex.lookup tag = some p

theorem FewerReplies.trans (h : sm₁.FewerReplies sm₂)
    (h' : sm₂.FewerReplies sm₃) : sm₁.FewerReplies sm₃ :=
  fun tag p hlook => h tag p (h' tag p hlook)

theorem stages_of_lookup (h : sm.heap.lookup p = some s) : sm.stages p = some s.stage := by
  rw [stages, h]
  rfl

theorem stages_insert : ({ sm with heap := sm.heap.insert p s } : SessionManager δ σ τ).stages =
    Function.update sm.stages p (some s.stage) := by
  funext q
  by_cases hq : q = p
  · rw [hq, Function.update_self, stages, AList.lookup_insert]
    rfl
  · rw [Function.update_of_ne hq, stages, AList.lookup_insert_ne hq]
    rfl

/-- Nothing about the handshakes changes. -/
structure SameStages (sm sm' : SessionManager δ σ τ) : Prop where
  stages_eq : sm'.stages = sm.stages
  fewer : sm.FewerReplies sm'

theorem SameStages.refl (sm : SessionManager δ σ τ) : sm.SameStages sm := ⟨rfl, fun _ _ h => h⟩

theorem SameStages.trans (h : sm₁.SameStages sm₂) (h' : sm₂.SameStages sm₃) : sm₁.SameStages sm₃ :=
  ⟨h'.stages_eq.trans h.stages_eq, h.fewer.trans h'.fewer⟩

/-- The heap is the same, and the tags of awaited replies. -/
theorem SameStages.of_eq (heap : sm'.heap = sm.heap) (hreplies : sm'.nsrTagIndex = sm.nsrTagIndex) :
    sm.SameStages sm' :=
  ⟨by funext p; rw [stages, heap]; rfl, fun tag p h => by rw [← hreplies]; exact h⟩

theorem sameStages_insert (h : sm.stages p = some s.stage) :
    sm.SameStages { sm with heap := sm.heap.insert p s } where
  stages_eq := by rw [stages_insert, ← h, Function.update_eq_self]
  fewer _ _ h := h

theorem OnlyIndexes.sameStages (h : sm.OnlyIndexes sm') : sm.SameStages sm' := by
  exact .of_eq (by rw [h]) (by rw [h])

/-! ### The session table -/

theorem fewerReplies_erase (nsrTag : Option Tag) {m : GoMap Tag ℕ} {q : ℕ}
    (h : (nsrTag.elim m m.erase).lookup tag = some q) : m.lookup tag = some q := by
  cases nsrTag with
  | none => exact h
  | some used => exact (GoMap.lookup_of_lookup_erase h).2

theorem sameStages_dropSession : sm.SameStages (sm.dropSession hash) := by
  fun_cases dropSession
  · exact .refl sm
  · exact ⟨rfl, fun tag p h => fewerReplies_erase _ h⟩

theorem sameStages_makeRoom (order : List Key) : sm.SameStages (sm.makeRoom order pub) :=
  makeRoom_induct (fun _ _ h => h.trans sameStages_dropSession) order (.refl sm)

theorem sameStages_cleanupExpiredSessions : sm.SameStages (sm.cleanupExpiredSessions now) :=
  cleanupExpiredSessions_induct (fun _ _ h => h.trans sameStages_dropSession) now (.refl sm)

theorem sameStages_replenish {attempts : ℕ} (hs : sm.stages p = some s.stage) :
    let w := replenishLoop P p attempts (s, sm)
    sm.SameStages { w.2 with heap := w.2.heap.insert p w.1 } := by
  intro w
  have hindexes : sm.OnlyIndexes w.2 := onlyIndexes_replenishLoop attempts (s, sm)
  have htags : s.OnlyTags w.1 := Session.onlyTags_replenishLoop attempts (s, sm)
  have hsame := hindexes.sameStages
  refine hsame.trans (sameStages_insert ?_)
  rw [hsame.stages_eq, htags.stage_eq, hs]

theorem sameStages_findSessionByTag : sm.SameStages (sm.findSessionByTag P now tag).2 := by
  unfold findSessionByTag lookupSessionByTag
  cases sm.tagIndex.lookup tag with
  | none => exact .refl sm
  | some p =>
    have hdelete : sm.SameStages (sm.deleteTags [tag]) := .of_eq rfl rfl
    dsimp only
    split
    · exact hdelete
    next s hs =>
      have hstage : (sm.deleteTags [tag]).stages p = some (s.useTag tag).stage :=
        (stages_of_lookup hs).trans rfl
      split_ifs
      · exact hdelete.trans (sameStages_replenish hstage)
      · exact hdelete.trans (sameStages_insert hstage)
      · exact hdelete

theorem lookup_of_lookupLockedSession (h : sm.lookupLockedSession tag = .ok (p, s)) :
    sm.heap.lookup p = some s := by
  unfold lookupLockedSession at h
  split at h
  · cases h
  · grind

theorem sameStages_processReceivedNextKey {info : NextKeyInfo} :
    sm.SameStages (sm.processReceivedNextKey P tag info).2 := by
  fun_cases processReceivedNextKey with
  | case1 => exact .refl sm
  | case2 p s hs =>
    refine sameStages_insert ?_
    rw [Session.stage_of_kept (Session.kept_processNextKey _ _),
      stages_of_lookup (lookup_of_lookupLockedSession hs)]

theorem sameStages_processIncomingDHRatchet :
    sm.SameStages (sm.processIncomingDHRatchet P tag pub).2 := by
  fun_cases processIncomingDHRatchet with
  | case1 => exact .refl sm
  | case2 p s hs =>
    refine sameStages_insert ?_
    rw [Session.stage_of_kept (Session.kept_applyIncomingDHKey _ _),
      stages_of_lookup (lookup_of_lookupLockedSession hs)]

theorem sameStages_processDecryptedESBlocks (p : ℕ) (plaintext : Bytes)
    (sm : SessionManager δ σ τ) :
    sm.SameStages (sm.processDecryptedESBlocks p plaintext) := by
  have hremove : ∀ sm : SessionManager δ σ τ, sm.SameStages (sm.removeSessionByPointer p) := by
    intro sm
    fun_cases removeSessionByPointer
    · exact ⟨rfl, fun tag p h => fewerReplies_erase _ h⟩
    · exact .refl sm
  have hblocks : ∀ (blocks : List PayloadBlock) (sm : SessionManager δ σ τ),
      sm.SameStages (sm.processBlocks p blocks) := by
    intro blocks sm
    fun_induction processBlocks p blocks sm with
    | case1 | case3 => exact .refl _
    | case2 => exact hremove _
    | case4 block _ _ _ s hs ih =>
      refine SameStages.trans (sameStages_insert ?_) ih
      rw [(Session.onlyControl_processControlBlock block s).stage_eq, stages_of_lookup hs]
  fun_cases processDecryptedESBlocks
  · exact .refl sm
  · exact hblocks _ sm

/-! ### New sessions -/

theorem stages_newAddress (sm : SessionManager δ σ τ) : sm.stages sm.newAddress = none := by
  have hbelow : ∀ (l : List ℕ), ∀ p ∈ l, p < l.foldr (fun p q => max (p + 1) q) 0 := by
    intro l
    induction l with
    | nil => rintro p ⟨⟩
    | cons q l ih => grind
  have hnot : sm.newAddress ∉ sm.heap := fun hmem =>
    Nat.lt_irrefl _ (hbelow sm.heap.keys sm.newAddress (AList.mem_keys.mp hmem))
  rw [stages, AList.lookup_eq_none.mpr hnot]
  rfl

theorem stage_createSession {keys : SessionKeys} {isInitiator : Bool}
    (h : createSession P now pub keys priv isInitiator = .ok s) : s.awaitingFirstES = false := by
  revert h
  fun_cases createSession <;> rintro ⟨⟩
  rfl

theorem stages_openWindow {message : String} {result : Except Oops Unit}
    (h : openWindow P env p message s sm = some (result, sm')) :
    sm'.stages = Function.update sm.stages p (some s.stage) ∧ sm'.nsrTagIndex = sm.nsrTagIndex := by
  have hinsert : ∀ {result : Except Oops Unit} {s' sm₁},
      generateTagWindow P p env.turns (s, sm) = some (result, s', sm₁) →
      ({ sm₁ with heap := sm₁.heap.insert p s' } : SessionManager δ σ τ).stages =
        Function.update sm.stages p (some s.stage) ∧ sm₁.nsrTagIndex = sm.nsrTagIndex := by
    intro result s' sm₁ hwindow
    obtain ⟨htags, hindexes⟩ := only_generateTagWindow hwindow
    dsimp only at htags hindexes
    rw [stages_insert, hindexes.sameStages.stages_eq, htags.stage_eq]
    exact ⟨rfl, by rw [hindexes]⟩
  unfold openWindow at h
  split at h
  · cases h
  all_goals
    next hwindow => grind

/-- A session is made, and it has a pending handshake. -/
structure NewStage (isInitiator : Bool) (sm sm' : SessionManager δ σ τ) : Prop where
  stages_eq : sm'.stages = Function.update sm.stages sm.newAddress (some ⟨isInitiator, true, false⟩)
  replies : ∀ tag p, sm'.nsrTagIndex.lookup tag = some p →
    sm.nsrTagIndex.lookup tag = some p ∨ isInitiator = true ∧ p = sm.newAddress

theorem stages_encryptNewSession {plaintext : Bytes} :
    sm.SameStages (sm.encryptNewSession N P env hash pub plaintext).2 ∨
      NewStage true sm (sm.encryptNewSession N P env hash pub plaintext).2 := by
  have hroom : sm.SameStages (sm.makeRoom env.sessionOrder pub) := sameStages_makeRoom _
  have hstored : ∀ {keys : SessionKeys} {hs : NoiseHandshakeState} {result sm'},
      storeNewSessionState N P env hash pub keys (some hs) true sm = some (result, sm') →
      sm.SameStages sm' ∨ NewStage true sm sm' := by
    intro keys hs result sm' h
    unfold storeNewSessionState at h
    split at h
    · cases h
      exact .inl (.refl sm)
    next s hcreate =>
      dsimp only [registerInitiator, registerNSRTagLocked] at h
      split at h
      next heq => grind
      next heq =>
        split at heq
        · cases heq
        · cases heq
          obtain ⟨hstages, hreplies⟩ := stages_openWindow h
          refine .inr ⟨?_, fun tag p hlook => ?_⟩
          · rw [hstages]
            have hbefore := hroom.stages_eq
            have hawaiting := stage_createSession hcreate
            change Function.update (sm.makeRoom env.sessionOrder pub).stages sm.newAddress
              (some ⟨true, true, s.awaitingFirstES⟩) = _
            rw [hbefore, hawaiting]
          · rw [hreplies] at hlook
            rcases GoMap.lookup_of_lookup_insert hlook with ⟨rfl, rfl⟩ | hlook
            · exact .inr ⟨rfl, rfl⟩
            · exact .inl (hroom.fewer _ _ hlook)
  fun_cases encryptNewSession
  case case4 | case5 => next h => exact hstored h
  all_goals exact .inl (.refl sm)

theorem isSome_hs_of_readNoiseIKMessage1 {m : Message1}
    (h : readNoiseIKMessage1 N priv pub msg = .ok m) (hbound : m.isUnbound = false) :
    m.hs.isSome := by
  unfold readNoiseIKMessage1 at h
  split_ifs at h
  rw [Fallible.bind_eq_ok] at h
  obtain ⟨⟨eph, staticBytes, ns⟩, -, h⟩ := h
  dsimp only at h
  split_ifs at h
  · simp only [readUnboundPayload, Fallible.bind_eq_ok, Fallible.mapError_eq_ok,
      Fallible.pure_eq_ok] at h
    obtain ⟨_, _, _, _, rfl⟩ := h
    cases hbound
  · simp only [readBoundPayload, Fallible.bind_eq_ok, Fallible.mapError_eq_ok,
      Fallible.pure_eq_ok] at h
    obtain ⟨_, _, _, _, _, _, rfl⟩ := h
    rfl

theorem stages_decryptNewSession :
    sm.SameStages (sm.decryptNewSession N P env msg).2 ∨
      NewStage false sm (sm.decryptNewSession N P env msg).2 := by
  have hinit : ∀ {cache} {keys : SessionKeys} {hs : Option NoiseHandshakeState} {pub result sm'},
      hs.isSome → initializeInboundRatchetState N P env pub keys hs
        { sm with nsReplayCache := cache } = some (result, sm') →
      sm.SameStages sm' ∨ NewStage false sm sm' := by
    intro cache keys hs pub result sm' hsome h
    have hcache : sm.SameStages { sm with nsReplayCache := cache } := .of_eq rfl rfl
    have hroom : sm.SameStages
        (makeRoom env.sessionOrder pub { sm with nsReplayCache := cache }) :=
      hcache.trans (sameStages_makeRoom _)
    unfold initializeInboundRatchetState at h
    split at h
    · cases h
      exact .inl (.of_eq rfl rfl)
    next s hcreate =>
      obtain ⟨hstages, hreplies⟩ := stages_openWindow h
      refine .inr ⟨?_, fun tag p hlook => ?_⟩
      · rw [hstages]
        have hbefore := hroom.stages_eq
        have hawaiting := stage_createSession hcreate
        change Function.update (makeRoom env.sessionOrder pub
          { sm with nsReplayCache := cache }).stages sm.newAddress
          (some ⟨false, hs.isSome, s.awaitingFirstES⟩) = _
        rw [hbefore, hawaiting, hsome]
      · rw [hreplies] at hlook
        exact .inl (hroom.fewer _ _ hlook)
  fun_cases decryptNewSession with
  | case1 | case2 | case3 | case5 => exact .inl (.refl sm)
  | case4 => exact .inl (.of_eq rfl rfl)
  | case6 m hread hunbound _ _ _ _ _ _ h | case7 m hread hunbound _ _ _ _ _ h =>
    exact hinit (isSome_hs_of_readNoiseIKMessage1 hread (Bool.eq_false_iff.mpr hunbound)) h

end SessionManager

/-! ### Replies -/

/-- Key derivation and the tag ratchets of the library do not fail. -/
structure Primitives.Total (P : Primitives δ σ τ) : Prop where
  deriveKeys : ∀ key info, ∃ keys, P.deriveKeys key info = .ok keys
  generateNextTag : ∀ r, ∃ tag r', P.generateNextTag r = (.ok tag, r')

namespace SessionManager

variable {N : NoiseLibrary} {P : Primitives δ σ τ} {env : Env} {sm sm' : SessionManager δ σ τ}
    {p : ℕ}
  {s : Session δ σ τ} {hash pub : Key} {tag : Tag} {msg : Bytes} {now : Time} {isInitiator : Bool}
  {nsrKeys : NSRSessionKeys} {result : Except Oops Unit} {turns : ℕ}
  {w w' : Session δ σ τ × SessionManager δ σ τ}

section
variable (hP : P.Total)
include hP

theorem generateTagWindow_ok (hratchet : w.1.recvTagRatchet.isSome)
    (h : generateTagWindow P p turns w = some (result, w')) : result = .ok () := by
  induction turns generalizing w with
  | zero => cases h
  | succ turns ih =>
    rw [generateTagWindow] at h
    split at h
    next hnone => grind
    next r hr =>
      obtain ⟨tag, r', hgenerate⟩ := hP.generateNextTag r
      rw [hgenerate] at h
      dsimp only at h
      split_ifs at h
      · cases h
        rfl
      · refine ih ?_ h
        rfl
      · refine ih ?_ h
        rfl

/-- The keys of the handshake give the session new ratchets, and leave its stage alone. -/
theorem stage_applyNSRKeys
    (h : applyNSRKeysToSessionWhileLocked P turns p nsrKeys isInitiator w = some (result, w')) :
    result = .ok () ∧ w'.1.stage = w.1.stage ∧ w.2.SameStages w'.2 := by
  have hderive : ∀ key, ∃ keys, deriveTagAndSymKeysFromChainKey P key = .ok keys := by
    intro key
    obtain ⟨keys, hkeys⟩ := hP.deriveKeys key hkdfInfoTagAndKeyGenKeys
    exact ⟨keys, by rw [deriveTagAndSymKeysFromChainKey, hkeys]⟩
  unfold applyNSRKeysToSessionWhileLocked at h
  dsimp only at h
  obtain ⟨sendKeys, hsend⟩ := hderive (if isInitiator then nsrKeys.keyAB else nsrKeys.keyBA)
  obtain ⟨recvKeys, hrecv⟩ := hderive (if isInitiator then nsrKeys.keyBA else nsrKeys.keyAB)
  rw [hsend] at h
  rw [hrecv] at h
  obtain ⟨htags, hindexes⟩ := only_generateTagWindow h
  have hdelete : w.2.SameStages (w.2.deleteTags w.1.pendingTags) := .of_eq rfl rfl
  refine ⟨generateTagWindow_ok hP ?_ h, ?_, hdelete.trans hindexes.sameStages⟩
  · rfl
  · exact htags.stage_eq

theorem stages_finishHandshake {message : String} {finish : Session δ σ τ → Session δ σ τ}
    {stage : Stage}
    (h : finishHandshake P env p nsrKeys isInitiator message finish s sm = some (result, sm'))
    (hfinish : ∀ s', s'.stage = s.stage → (finish s').stage = stage) :
    result = .ok () ∧ sm'.stages = Function.update sm.stages p (some stage) ∧
      sm.FewerReplies sm' := by
  unfold finishHandshake at h
  split at h
  · cases h
  next happlied =>
    cases (stage_applyNSRKeys hP happlied).1
  next s' sm₁ happlied =>
    cases h
    obtain ⟨-, hstage, hsame⟩ := stage_applyNSRKeys hP happlied
    refine ⟨rfl, ?_, fun tag q hlook => hsame.fewer tag q hlook⟩
    rw [stages_insert, hsame.stages_eq, hfinish s' hstage]

theorem stages_decryptIncomingNSR (N : NoiseLibrary) (env : Env) (p : ℕ) (msg : Bytes)
    (sm : SessionManager δ σ τ) :
    sm.SameStages (sm.decryptIncomingNSR N P env p msg).2 ∨
    ∃ s hs, sm.heap.lookup p = some s ∧ s.handshakeState = some hs ∧
      (sm.decryptIncomingNSR N P env p msg).2.stages =
        Function.update sm.stages p (some { s.stage with pending := false }) ∧
      sm.FewerReplies (sm.decryptIncomingNSR N P env p msg).2 ∧
      ((∃ plaintext, (sm.decryptIncomingNSR N P env p msg).1 = .ok plaintext) ∨
        ∃ e, readNoiseIKMessage2 N P hs sm.ourPrivateKey msg = .error e) := by
  fun_cases decryptIncomingNSR with
  | case1 | case2 | case4 => exact .inl (.refl sm)
  | case3 s hs state hstate _ _ e hread =>
    exact .inr ⟨s, state, hs, hstate, stages_insert, fun _ _ h => h, .inr ⟨e, hread⟩⟩
  | case5 _ _ _ _ _ _ _ _ _ _ _ hfinished =>
    cases (stages_finishHandshake hP hfinished fun s' h => h).1
  | case6 s hs state hstate _ _ _ _ _ _ hfinished =>
    obtain ⟨-, hstages, hfewer⟩ := stages_finishHandshake hP hfinished fun s' h => h
    refine .inr ⟨s, state, hs, hstate, ?_, fun tag q h => hfewer tag q h, .inl ⟨_, rfl⟩⟩
    rw [hstages, stages_insert, Function.update_idem]
    rfl

theorem stages_tryDecryptNSR (N : NoiseLibrary) (env : Env) (msg : Bytes)
    (hp : sm.nsrTagIndex.lookup tag = some p) :
    let r := sm.tryDecryptNSR (handshakes N P env) tag msg
    sm.SameStages r.2 ∨
    ∃ s hs, sm.heap.lookup p = some s ∧ s.handshakeState = some hs ∧
      r.2.stages = Function.update sm.stages p (some { s.stage with pending := false }) ∧
      sm.FewerReplies r.2 ∧
      ((∃ plaintext, r.1 = some (.ok plaintext)) ∨
        ∃ e, readNoiseIKMessage2 N P hs sm.ourPrivateKey msg = .error e) := by
  intro r
  -- the tag is used up first
  obtain ⟨sm₁, hr, hsame, hsession, hkey⟩ : ∃ sm₁ : SessionManager δ σ τ,
      r = (some (sm₁.decryptIncomingNSR N P env p msg).1,
        (sm₁.decryptIncomingNSR N P env p msg).2) ∧ sm.SameStages sm₁ ∧
      (∀ s₁, sm₁.heap.lookup p = some s₁ → ∃ s, sm.heap.lookup p = some s ∧
        s.handshakeState = s₁.handshakeState ∧ s.stage = s₁.stage) ∧
      sm₁.ourPrivateKey = sm.ourPrivateKey := by
    have herase : sm.SameStages { sm with nsrTagIndex := sm.nsrTagIndex.erase tag } :=
      ⟨rfl, fun _ _ h => (GoMap.lookup_of_lookup_erase h).2⟩
    unfold r tryDecryptNSR
    rw [hp]
    dsimp only
    split
    next hnone =>
      refine ⟨_, rfl, herase, fun s₁ h => ?_, rfl⟩
      rw [hnone] at h
      cases h
    next s hs =>
      split_ifs
      · refine ⟨_, rfl, herase.trans (sameStages_insert ((stages_of_lookup hs).trans rfl)),
          fun s₁ h => ?_, rfl⟩
        rw [AList.lookup_insert] at h
        cases h
        exact ⟨s, hs, rfl, rfl⟩
      · exact ⟨_, rfl, herase, fun s₁ h => ⟨s₁, h, rfl, rfl⟩, rfl⟩
  rw [hr]
  rcases stages_decryptIncomingNSR hP N env p msg sm₁ with
    hsame₁ | ⟨s₁, hs, hs₁, hstate, hstages, hfewer, hresult⟩
  · exact .inl (hsame.trans hsame₁)
  · obtain ⟨s, hlook, hstate', hstage⟩ := hsession s₁ hs₁
    refine .inr ⟨s, hs, hlook, hstate'.trans hstate, ?_, hsame.fewer.trans hfewer, ?_⟩
    · rw [hstages, hsame.stages_eq, hstage]
    · rw [hkey] at hresult
      exact hresult.imp_left fun ⟨plaintext, hok⟩ => ⟨plaintext, by rw [hok]⟩

theorem stages_encryptNewSessionReply (N : NoiseLibrary) (env : Env) (hash : Key) (payload : Bytes)
    (sm : SessionManager δ σ τ) :
    let r := sm.encryptNewSessionReply N P env hash payload
    sm.SameStages r.2 ∨
    ∃ p s hs, sm.sessions.lookup hash = some p ∧ sm.heap.lookup p = some s ∧
      s.handshakeState = some hs ∧ s.isInitiator = false ∧ sm.FewerReplies r.2 ∧
      ((∃ msg, r.1 = .ok msg) ∧ r.2.stages = Function.update sm.stages p
          (some { s.stage with pending := false, awaitingFirstES := true }) ∨
        r.2.stages = Function.update sm.stages p (some { s.stage with pending := false }) ∧
          ∃ e, writeNoiseIKMessage2 N P env.eph hs payload = .error e) := by
  intro r
  have hfinish : ∀ s s' : Session δ σ τ,
      s'.stage = ({ s with handshakeState := none } : Session δ σ τ).stage →
      ({ s' with awaitingFirstES := true, lastUsed := env.now } : Session δ σ τ).stage =
        { s.stage with pending := false, awaitingFirstES := true } :=
    fun s s' h => congrArg (fun stage : Stage => { stage with awaitingFirstES := true }) h
  unfold r
  fun_cases encryptNewSessionReply with
  | case5 p hp s hs state hstate hinit _ _ e hwrite =>
    exact .inr ⟨p, s, state, hp, hs, hstate, Bool.eq_false_iff.mpr hinit, fun _ _ h => h,
      .inr ⟨stages_insert, e, hwrite⟩⟩
  | case7 _ _ s _ _ _ _ _ _ _ _ _ _ _ _ hfinished =>
    cases (stages_finishHandshake hP hfinished (hfinish s)).1
  | case8 p hp s hs state hstate hinit _ _ _ _ _ _ _ hfinished =>
    obtain ⟨-, hstages, hfewer⟩ := stages_finishHandshake hP hfinished (hfinish s)
    refine .inr ⟨p, s, state, hp, hs, hstate, Bool.eq_false_iff.mpr hinit,
      fun tag q h => hfewer tag q h, .inl ⟨⟨_, rfl⟩, ?_⟩⟩
    rw [hstages, stages_insert, Function.update_idem]
  | _ => exact .inl (.refl sm)

end

theorem stages_receiveExisting (now : Time) (tag : Tag) (msg : Bytes) (counterHint : Option UInt32)
    (hs : sm.heap.lookup p = some s) :
    let r := receiveExisting P now tag msg counterHint p s sm
    sm.SameStages r.2 ∨
    (∃ opened, r.1 = .ok opened) ∧ s.isInitiator = false ∧ sm.FewerReplies r.2 ∧
      r.2.stages = Function.update sm.stages p
        (some { s.stage with awaitingFirstES := false }) := by
  intro r
  have hstages : r.2.stages = Function.update sm.stages p
    (some ((s.useTag tag).decryptExistingSession
      P now (msg.drop 8) tag counterHint).2.stage) ∧ sm.FewerReplies r.2 := by
    unfold r receiveExisting
    dsimp only
    split_ifs
    · have hindexes := (onlyIndexes_replenishLoop (P := P) (p := p) maxReplenishAttempts
        (((s.useTag tag).decryptExistingSession P now (msg.drop 8) tag counterHint).2,
          sm)).sameStages
      have htags := Session.onlyTags_replenishLoop (P := P) (p := p) maxReplenishAttempts
        (((s.useTag tag).decryptExistingSession P now (msg.drop 8) tag counterHint).2, sm)
      refine ⟨?_, fun tag q h => hindexes.fewer tag q h⟩
      rw [stages_insert]
      exact congrArg₂ (Function.update · p ·) hindexes.stages_eq (congrArg some htags.stage_eq)
    · exact ⟨stages_insert, fun _ _ h => h⟩
  obtain ⟨hstages, hfewer⟩ := hstages
  rcases Session.stage_decryptExistingSession (P := P) now (msg.drop 8) tag counterHint
    (s.useTag tag) with hsame | ⟨hopened, hinit, hstage⟩
  · refine .inl ⟨?_, hfewer⟩
    have hbefore : sm.stages p = some (s.useTag tag).stage := (stages_of_lookup hs).trans rfl
    rw [hstages, hsame, ← hbefore, Function.update_eq_self]
  · refine .inr ⟨hopened, hinit, hfewer, ?_⟩
    rw [hstages, hstage]
    rfl

theorem stages_tryDecryptExisting (now : Time) (tag : Tag) (msg : Bytes)
    (sm : SessionManager δ σ τ) :
    let r := sm.tryDecryptExisting P now tag msg
    sm.SameStages r.2 ∨
    ∃ p s opened, sm.tagIndex.lookup tag = some p ∧ sm.heap.lookup p = some s ∧
      s.isInitiator = false ∧ r.1 = some (.ok opened) ∧ sm.FewerReplies r.2 ∧
      r.2.stages = Function.update sm.stages p
        (some { s.stage with awaitingFirstES := false }) := by
  intro r
  rcases hp : sm.tagIndex.lookup tag with _ | p
  · have hr : r = (none, sm) := tryDecryptExisting_of_unknown hp
    rw [hr]
    exact .inl (.refl sm)
  have hdelete : sm.SameStages (sm.deleteTags [tag]) := .of_eq rfl rfl
  unfold r tryDecryptExisting lookupSessionByTag
  rw [hp]
  dsimp only
  split
  · exact .inl hdelete
  next s hs =>
    split_ifs
    · rcases stages_receiveExisting (P := P) now tag msg (sm.tagCounterIndex.lookup tag) hs with
        hsame | ⟨⟨opened, hopened⟩, hinit, hfewer, hstages⟩
      · refine .inl (hdelete.trans (hsame.trans ?_))
        split
        · exact .refl _
        · exact sameStages_processDecryptedESBlocks p _ _
      · rw [hopened]
        have hblocks := sameStages_processDecryptedESBlocks p opened.1
          (receiveExisting P now tag msg
          (sm.tagCounterIndex.lookup tag) p s (sm.deleteTags [tag])).2
        refine .inr ⟨p, s, opened, rfl, hs, hinit, rfl, hdelete.fewer.trans
          (hfewer.trans hblocks.fewer), ?_⟩
        rw [hblocks.stages_eq, hstages]
        rfl
    · exact .inl hdelete

theorem sameStages_tryDecryptOneTimeKey :
    sm.SameStages (sm.tryDecryptOneTimeKey P tag msg).2 := by
  fun_cases tryDecryptOneTimeKey <;> exact .of_eq rfl rfl

theorem stages_encrypt (N : NoiseLibrary) (env : Env) (hash pub : Key) (plaintext : Bytes)
    (sm : SessionManager δ σ τ) :
    sm.SameStages (sm.encrypt N P env hash pub plaintext).2 ∨
      NewStage true sm (sm.encrypt N P env hash pub plaintext).2 := by
  unfold encrypt
  fun_cases encryptGarlicMessage with
  | case1 => exact .inl (.refl sm)
  | case2 | case3 => exact stages_encryptNewSession
  | case4 _ p _ s hs =>
    refine .inl (sameStages_insert ?_)
    rw [(Session.kept_encryptExistingSession _ _).1, stages_of_lookup hs]

end SessionManager

end GoNoise.Ratchet
