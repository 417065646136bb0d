import GoNoise.Ratchet.Stages

/-!
# Existing Session messages after the handshake

An initiator may send Existing Session messages once it has the reply of its peer, a responder once
it has replied and has received one. The code reads this off fields of the session that failed
attempts change as well.
-/

namespace GoNoise.Ratchet

open Trace SessionManager

variable {δ σ τ : Type}

/-! ## Calls -/

/-- What a call achieves for the session at an address. -/
inductive Progress where
  /-- a New Session Reply was opened -/
  | gotReply (p : ℕ)
  /-- a New Session Reply was written -/
  | sentReply (p : ℕ)
  /-- an Existing Session message was opened -/
  | gotES (p : ℕ)
  deriving DecidableEq

/-- What a call achieves. -/
def Op.progress (N : NoiseLibrary) (P : Primitives δ σ τ) (sm : SessionManager δ σ τ) :
    Op → Option Progress
  | .decryptGarlicMessage env msg =>
    match (sm.decrypt N P env msg).1 with
    | .error _ => none
    | .ok _ =>
      let tag : Tag := .copyFrom 8 (msg.take 8)
      match (sm.tryDecryptExisting P env.now tag msg).1 with
      | some _ => (sm.tagIndex.lookup tag).map .gotES
      | none => (sm.nsrTagIndex.lookup tag).map .gotReply
  | .encryptNewSessionReply env hash payload =>
    match (sm.encryptNewSessionReply N P env hash payload).1 with
    | .error _ => none
    | .ok _ => (sm.sessions.lookup hash).map .sentReply
  | _ => none

/-- A call that ends a handshake succeeds: a message with the tag of an awaited reply is authentic,
and a reply can be written. -/
def Op.EndsHandshake (N : NoiseLibrary) (P : Primitives δ σ τ) (sm : SessionManager δ σ τ) :
    Op → Prop
  | .decryptGarlicMessage _ msg =>
    ∀ p ∈ sm.nsrTagIndex.lookup (.copyFrom 8 (msg.take 8)), ∀ s ∈ sm.heap.lookup p,
      ∀ hs ∈ s.handshakeState, (readNoiseIKMessage2 N P hs sm.ourPrivateKey msg).isOk
  | .encryptNewSessionReply env hash payload =>
    ∀ p ∈ sm.sessions.lookup hash, ∀ s ∈ sm.heap.lookup p, ∀ hs ∈ s.handshakeState,
      s.isInitiator = false → (writeNoiseIKMessage2 N P env.eph hs payload).isOk
  | _ => True

namespace SessionManager

/-- What a call that ends no handshake in vain does to the stages. -/
inductive StageStep (progress : Option Progress) (sm sm' : SessionManager δ σ τ) : Prop where
  | same (h : sm.SameStages sm')
  | begin (isInitiator : Bool) (h : NewStage isInitiator sm sm')
  | gotES (p : ℕ) (s : Session δ σ τ) (hs : sm.heap.lookup p = some s)
      (hinit : s.isInitiator = false) (hprogress : progress = some (.gotES p))
      (hfewer : sm.FewerReplies sm') (hstages : sm'.stages =
        Function.update sm.stages p (some { s.stage with awaitingFirstES := false }))
  | gotReply (p : ℕ) (s : Session δ σ τ) (hs : sm.heap.lookup p = some s) (tag : Tag)
      (htag : sm.nsrTagIndex.lookup tag = some p) (hprogress : progress = some (.gotReply p))
      (hfewer : sm.FewerReplies sm') (hstages : sm'.stages =
        Function.update sm.stages p (some { s.stage with pending := false }))
  | sentReply (p : ℕ) (s : Session δ σ τ) (hs : sm.heap.lookup p = some s)
      (hinit : s.isInitiator = false) (hprogress : progress = some (.sentReply p))
      (hfewer : sm.FewerReplies sm') (hstages : sm'.stages = Function.update sm.stages p
        (some { s.stage with pending := false, awaitingFirstES := true }))

variable {N : NoiseLibrary} {P : Primitives δ σ τ} {sm sm' : SessionManager δ σ τ}

/-- A message for no session may lose its tag, and no more happens. -/
theorem onlyIndexes_of_tryDecryptExisting {now : Time} {tag : Tag} {msg : Bytes}
    (h : sm.tryDecryptExisting P now tag msg = (none, sm')) : sm.OnlyIndexes sm' := by
  revert h
  unfold tryDecryptExisting lookupSessionByTag
  cases sm.tagIndex.lookup tag with
  | none =>
    rintro ⟨⟩
    rfl
  | some p =>
    dsimp only
    split
    · rintro ⟨⟩
      rfl
    · split_ifs
      · split <;> rintro ⟨⟩
      · rintro ⟨⟩
        rfl

theorem stageStep_decrypt (hP : P.Total) (env : Env) (msg : Bytes)
    (hends : Op.EndsHandshake N P sm (.decryptGarlicMessage env msg)) :
    StageStep (Op.progress N P sm (.decryptGarlicMessage env msg)) sm
      (sm.decrypt N P env msg).2 := by
  have hsame : ∀ {sm₁}, sm.tryDecryptExisting P env.now (.copyFrom 8 (msg.take 8)) msg =
    (none, sm₁) →
      sm.SameStages sm₁ := fun h => (onlyIndexes_of_tryDecryptExisting h).sameStages
  have h := decrypts (N := N) (P := P) env msg sm
  generalize hresult : sm.decrypt N P env msg = result at h ⊢
  cases h with
  | short e hlen => exact .same (.refl sm)
  | @existing answer sm' hlen hexisting =>
    have hstages := stages_tryDecryptExisting (P := P) env.now (.copyFrom 8 (msg.take 8)) msg sm
    rw [hexisting] at hstages
    rcases hstages with hsame | ⟨p, s, opened, hp, hs, hinit, hopened, hfewer, hstages⟩
    · exact .same hsame
    · cases hopened
      refine .gotES p s hs hinit ?_ hfewer hstages
      unfold Op.progress
      dsimp only
      rw [hresult, hexisting]
      rw [hp]
      rfl
  | @reply answer sm₁ sm' hlen hexisting hreply =>
    have hindexes := onlyIndexes_of_tryDecryptExisting hexisting
    rcases hp : sm₁.nsrTagIndex.lookup (.copyFrom 8 (msg.take 8)) with _ | p
    · unfold tryDecryptNSR at hreply
      rw [hp] at hreply
      cases hreply
    have hstages := stages_tryDecryptNSR hP N env msg hp
    rw [hreply] at hstages
    rcases hstages with hsame₁ | ⟨s, hs, hlook, hstate, hstages, hfewer, hanswer⟩
    · exact .same ((hsame hexisting).trans hsame₁)
    · unfold OnlyIndexes at hindexes
      have hp' : sm.nsrTagIndex.lookup (.copyFrom 8 (msg.take 8)) = some p := by grind
      have hlook' : sm.heap.lookup p = some s := by grind
      rcases hanswer with ⟨plaintext, hok⟩ | ⟨e, hread⟩
      · cases hok
        refine .gotReply p s hlook' _ hp' ?_ ((hsame hexisting).fewer.trans hfewer) ?_
        · unfold Op.progress
          dsimp only
          rw [hresult, hexisting]
          rw [hp']
          rfl
        · rw [hstages, (hsame hexisting).stages_eq]
      · have hok := hends p hp' s hlook' hs hstate
        have hkey : sm₁.ourPrivateKey = sm.ourPrivateKey := by rw [hindexes]
        rw [hkey] at hread
        rw [hread] at hok
        cases hok
  | @oneTime answer sm₁ sm' hlen hexisting hreply honeTime =>
    have hframe : sm₁.SameStages (sm₁.tryDecryptOneTimeKey P (.copyFrom 8 (msg.take 8)) msg).2 :=
      sameStages_tryDecryptOneTimeKey
    rw [honeTime] at hframe
    exact .same ((hsame hexisting).trans hframe)
  | @newSession answer sm₁ sm' hlen hexisting hreply honeTime hnew =>
    have hframe : sm₁.SameStages (sm₁.decryptNewSession N P env msg).2 ∨
        NewStage false sm₁ (sm₁.decryptNewSession N P env msg).2 := stages_decryptNewSession
    rw [hnew] at hframe
    have hindexes := onlyIndexes_of_tryDecryptExisting hexisting
    rcases hframe with hframe | hbegin
    · exact .same ((hsame hexisting).trans hframe)
    · have hfirst := hsame hexisting
      have haddress : sm₁.newAddress = sm.newAddress := by
        rw [hindexes]
        rfl
      refine .begin false ⟨?_, fun tag p hlook => ?_⟩
      · rw [hbegin.stages_eq, haddress, hfirst.stages_eq]
      · rcases hbegin.replies tag p hlook with hlook | ⟨⟨⟩, -⟩
        exact .inl (hfirst.fewer tag p hlook)

/-- Every call that ends no handshake in vain is a step of the stages. -/
theorem stageStep_apply (hP : P.Total) (op : Op) (hends : op.EndsHandshake N P sm) :
    StageStep (op.progress N P sm) sm (op.apply N P sm) := by
  cases op with
  | encryptGarlicMessage env hash pub plaintext =>
    rcases stages_encrypt (P := P) N env hash pub plaintext sm with hsame | hbegin
    · exact .same hsame
    · exact .begin true hbegin
  | encryptNewSessionReply env hash payload =>
    rcases stages_encryptNewSessionReply hP N env hash payload sm with
      hsame | ⟨p, s, hs, hp, hlook, hstate, hinit, hfewer, ⟨⟨msg, hok⟩, hstages⟩ | ⟨-, e, hwrite⟩⟩
    · exact .same hsame
    · refine .sentReply p s hlook hinit ?_ hfewer hstages
      unfold Op.progress
      dsimp only
      rw [hok]
      rw [hp]
      rfl
    · have hok := hends p hp s hlook hs hstate hinit
      rw [hwrite] at hok
      cases hok
  | decryptGarlicMessage env msg => exact stageStep_decrypt hP env msg hends
  | processReceivedNextKey tag info => exact .same sameStages_processReceivedNextKey
  | processIncomingDHRatchet tag key => exact .same sameStages_processIncomingDHRatchet
  | registerOneTimeKey tag key => exact .same (.of_eq rfl rfl)
  | findSessionByTag now tag => exact .same sameStages_findSessionByTag
  | cleanupExpiredSessions now => exact .same sameStages_cleanupExpiredSessions
  | evictExpired now => exact .same (.of_eq rfl rfl)

end SessionManager

/-! ## Runs -/

/-- The session that a call makes send an Existing Session message. -/
def Op.emitter (N : NoiseLibrary) (P : Primitives δ σ τ) (sm : SessionManager δ σ τ) :
    Op → Option (ℕ × Session δ σ τ)
  | .encryptGarlicMessage env hash pub plaintext =>
    match sm.sessions.lookup hash with
    | none => none
    | some p =>
      match sm.heap.lookup p, (sm.encrypt N P env hash pub plaintext).1 with
      | some s, .ok _ => some (p, s)
      | _, _ => none
  | _ => none

/-- A responder is made to send only after its handshake has ended. -/
def Op.AfterReply (sm : SessionManager δ σ τ) : Op → Prop
  | .encryptGarlicMessage _ hash _ _ =>
    ∀ p ∈ sm.sessions.lookup hash, ∀ s ∈ sm.heap.lookup p,
      s.isInitiator = false → s.handshakeState.isNone
  | _ => True

instance (N : NoiseLibrary) (P : Primitives δ σ τ) (sm : SessionManager δ σ τ) :
    (op : Op) → Decidable (op.EndsHandshake N P sm)
  | .decryptGarlicMessage _ _ =>
    inferInstanceAs (Decidable (∀ p ∈ _, ∀ s ∈ _, ∀ hs ∈ _, Except.isOk _ = true))
  | .encryptNewSessionReply _ _ _ =>
    inferInstanceAs (Decidable (∀ p ∈ _, ∀ s ∈ _, ∀ hs ∈ _, _ → Except.isOk _ = true))
  | .encryptGarlicMessage .. => .isTrue trivial
  | .processReceivedNextKey .. => .isTrue trivial
  | .processIncomingDHRatchet .. => .isTrue trivial
  | .registerOneTimeKey .. => .isTrue trivial
  | .findSessionByTag .. => .isTrue trivial
  | .cleanupExpiredSessions .. => .isTrue trivial
  | .evictExpired .. => .isTrue trivial

instance (sm : SessionManager δ σ τ) : (op : Op) → Decidable (op.AfterReply sm)
  | .encryptGarlicMessage .. => inferInstanceAs (Decidable (∀ p ∈ _, ∀ s ∈ _, _ → _))
  | .encryptNewSessionReply .. => .isTrue trivial
  | .decryptGarlicMessage .. => .isTrue trivial
  | .processReceivedNextKey .. => .isTrue trivial
  | .processIncomingDHRatchet .. => .isTrue trivial
  | .registerOneTimeKey .. => .isTrue trivial
  | .findSessionByTag .. => .isTrue trivial
  | .cleanupExpiredSessions .. => .isTrue trivial
  | .evictExpired .. => .isTrue trivial

/-- What must have been achieved before a session sends Existing Session messages. -/
def Permitted (history : List Progress) (emitter : ℕ × Session δ σ τ) : Prop :=
  if emitter.2.isInitiator then .gotReply emitter.1 ∈ history
  else .sentReply emitter.1 ∈ history ∧ .gotES emitter.1 ∈ history

instance (history : List Progress) (emitter : ℕ × Session δ σ τ) :
    Decidable (Permitted history emitter) :=
  inferInstanceAs (Decidable (if emitter.2.isInitiator then Progress.gotReply emitter.1 ∈ history
    else Progress.sentReply emitter.1 ∈ history ∧ Progress.gotES emitter.1 ∈ history))

/-- A manager and what was achieved so far. -/
structure HandshakeRun (δ σ τ : Type) where
  sm : SessionManager δ σ τ
  history : List Progress

namespace HandshakeRun

/-- A new manager. -/
def start (privateKey publicKey : Key) (nsMaxPastAge nsMaxFutureAge : Duration) :
    HandshakeRun δ σ τ :=
  ⟨newSessionManager privateKey publicKey nsMaxPastAge nsMaxFutureAge, []⟩

/-- One call. -/
def step (N : NoiseLibrary) (P : Primitives δ σ τ) (r : HandshakeRun δ σ τ) (op : Op) :
    HandshakeRun δ σ τ :=
  ⟨op.apply N P r.sm, (op.progress N P r.sm).toList ++ r.history⟩

/-- What the history says of a session that stands at a stage. -/
def Earned (history : List Progress) (p : ℕ) (stage : Stage) : Prop :=
  stage.pending = false →
    (stage.isInitiator = true → .gotReply p ∈ history) ∧
    (stage.isInitiator = false →
      .sentReply p ∈ history ∧ (stage.awaitingFirstES = false → .gotES p ∈ history))

/-- Every session has earned its stage, and only initiators await replies. -/
structure InOrder (r : HandshakeRun δ σ τ) : Prop where
  earned : ∀ p stage, r.sm.stages p = some stage → Earned r.history p stage
  replies : ∀ tag p, r.sm.nsrTagIndex.lookup tag = some p →
    ∃ stage, r.sm.stages p = some stage ∧ stage.isInitiator = true

variable {op : Op} {stage : Stage}

theorem Earned.mono {history history' : List Progress} {p : ℕ} (h : Earned history p stage)
    (hsub : history ⊆ history') : Earned history' p stage := by
  intro hpending
  obtain ⟨hreply, hresponder⟩ := h hpending
  refine ⟨fun hinit => hsub (hreply hinit), fun hinit => ?_⟩
  obtain ⟨hsent, hopened⟩ := hresponder hinit
  exact ⟨hsub hsent, fun hawaiting => hsub (hopened hawaiting)⟩

variable {N : NoiseLibrary} {P : Primitives δ σ τ} {r : HandshakeRun δ σ τ} {p : ℕ}
  {s : Session δ σ τ}

/-- The stage of one session changes, but not its side. -/
theorem InOrder.update (h : r.InOrder) {sm' : SessionManager δ σ τ} {progress : Option Progress}
    (hs : r.sm.heap.lookup p = some s) (hside : stage.isInitiator = s.isInitiator)
    (hfewer : r.sm.FewerReplies sm')
    (hstages : sm'.stages = Function.update r.sm.stages p (some stage))
    (hearned : Earned (progress.toList ++ r.history) p stage) :
    InOrder ⟨sm', progress.toList ++ r.history⟩ where
  earned q stage' hq := by
    rw [hstages] at hq
    by_cases hqp : q = p
    · grind
    · rw [Function.update_of_ne hqp] at hq
      exact (h.earned q stage' hq).mono (List.subset_append_right _ _)
  replies tag q hq := by
    obtain ⟨stage', hstage', hinit⟩ := h.replies tag q (hfewer tag q hq)
    rw [hstages]
    by_cases hqp : q = p
    · rw [hqp, stages_of_lookup hs] at hstage'
      cases hstage'
      exact ⟨stage, by rw [hqp, Function.update_self], hside.trans hinit⟩
    · exact ⟨stage', by rw [Function.update_of_ne hqp]; exact hstage', hinit⟩

theorem inOrder_step (hP : P.Total) (h : r.InOrder) (hends : op.EndsHandshake N P r.sm) :
    (r.step N P op).InOrder := by
  have hmono : ∀ {p stage}, Earned r.history p stage →
      Earned ((op.progress N P r.sm).toList ++ r.history) p stage :=
    fun hearned => hearned.mono (List.subset_append_right _ _)
  have hnow : ∀ {progress}, op.progress N P r.sm = some progress →
      progress ∈ (op.progress N P r.sm).toList ++ r.history := by grind
  cases stageStep_apply hP op hends with
  | same hsame =>
    refine ⟨fun p stage hp => hmono (h.earned p stage ?_), fun tag p hp => ?_⟩
    · rw [← hsame.stages_eq]
      exact hp
    · obtain ⟨stage, hstage, hinit⟩ := h.replies tag p (hsame.fewer tag p hp)
      exact ⟨stage, (congrFun hsame.stages_eq p).trans hstage, hinit⟩
  | begin isInitiator hbegin =>
    have hfresh := stages_newAddress r.sm
    have hother : ∀ {q}, q ≠ r.sm.newAddress → (op.apply N P r.sm).stages q = r.sm.stages q := by
      intro q hq
      rw [hbegin.stages_eq, Function.update_of_ne hq]
    have hnew : (op.apply N P r.sm).stages r.sm.newAddress = some ⟨isInitiator, true, false⟩ := by
      rw [hbegin.stages_eq, Function.update_self]
    refine ⟨fun p stage hp => ?_, fun tag p hp => ?_⟩
    · by_cases hpn : p = r.sm.newAddress
      · rw [hpn] at hp
        cases hnew.symm.trans hp
        rintro ⟨⟩
      · exact hmono (h.earned p stage ((hother hpn).symm.trans hp))
    · rcases hbegin.replies tag p hp with hold | ⟨rfl, rfl⟩
      · obtain ⟨stage, hstage, hinit⟩ := h.replies tag p hold
        have hpn : p ≠ r.sm.newAddress := by grind
        exact ⟨stage, (hother hpn).trans hstage, hinit⟩
      · exact ⟨_, hnew, rfl⟩
  | gotES p s hs hinit hprogress hfewer hstages =>
    refine h.update hs rfl hfewer hstages fun hpending => ?_
    obtain ⟨-, hresponder⟩ := h.earned p s.stage (stages_of_lookup hs) hpending
    refine ⟨fun hinit' => ?_, fun _ => ⟨?_, fun _ => hnow hprogress⟩⟩
    · cases hinit.symm.trans hinit'
    · exact List.mem_append_right _ (hresponder hinit).1
  | gotReply p s hs tag htag hprogress hfewer hstages =>
    obtain ⟨stage, hstage, hinit⟩ := h.replies tag p htag
    cases hstage.symm.trans (stages_of_lookup hs)
    refine h.update hs rfl hfewer hstages fun _ => ⟨fun _ => hnow hprogress, fun hinit' => ?_⟩
    cases hinit.symm.trans hinit'
  | sentReply p s hs hinit hprogress hfewer hstages =>
    refine h.update hs rfl hfewer hstages fun _ => ⟨fun hinit' => ?_, fun _ => ⟨hnow hprogress, ?_⟩⟩
    · cases hinit.symm.trans hinit'
    · rintro ⟨⟩

theorem InOrder.permitted (h : r.InOrder) (hafter : op.AfterReply r.sm)
    {emitter : ℕ × Session δ σ τ} (hemit : op.emitter N P r.sm = some emitter) :
    Permitted r.history emitter := by
  cases op with
  | encryptGarlicMessage env hash pub plaintext =>
    unfold Op.emitter at hemit
    dsimp only at hemit
    split at hemit
    · cases hemit
    next p hp =>
      split at hemit
      next s msg hs hok =>
        cases hemit
        have hsent : (s.encryptExistingSession P env.now plaintext).1 = .ok msg := by
          unfold encrypt encryptGarlicMessage at hok
          split_ifs at hok
          rw [hp] at hok
          dsimp only at hok
          rwa [hs] at hok
        obtain ⟨hinitiator, hresponder⟩ := Session.of_encryptExistingSession hsent
        have hearned := h.earned p s.stage (stages_of_lookup hs)
        unfold Permitted
        split_ifs with hinit
        · have hended : s.stage.pending = false := by
            unfold Session.stage
            rw [hinitiator hinit]
            rfl
          exact (hearned hended).1 hinit
        · have hinit' : s.isInitiator = false := Bool.eq_false_iff.mpr hinit
          have hended : s.stage.pending = false := by
            unfold Session.stage
            rw [Option.isNone_iff_eq_none.mp (hafter p hp s hs hinit')]
            rfl
          obtain ⟨hreplied, hopened⟩ := (hearned hended).2 hinit'
          exact ⟨hreplied, hopened (hresponder hinit')⟩
      · cases hemit
  | _ => cases hemit

/-- **Existing Session messages after the handshake.** In every run in which no handshake ends in
vain and no responder is made to send before its reply, an initiator sends Existing Session messages
only after it has opened a New Session Reply, and a responder only after it has written one and
opened an Existing Session message. -/
theorem existing_after_handshake (N : NoiseLibrary) (hP : P.Total) (privateKey publicKey : Key)
    (past future : Duration) (ops : List Op)
    (h : Always (step N P) (fun r op => op.EndsHandshake N P r.sm ∧ op.AfterReply r.sm)
      (start privateKey publicKey past future) ops) :
    Always (step N P) (fun r op => ∀ emitter ∈ op.emitter N P r.sm, Permitted r.history emitter)
      (start privateKey publicKey past future) ops := by
  refine always_of_invariant (fun r op hr hop => ?_) (I := InOrder) ?_ h
  · exact ⟨inOrder_step hP hr hop.1, fun emitter hemit => hr.permitted hop.2 hemit⟩
  · refine ⟨fun p stage hp => ?_, fun tag p hp => ?_⟩
    · cases hp
    · cases hp

open SessionManager (countingEnv countingManager countingMessage countingPayload)

/-- The manager with private key 3 writes to the one with private key 5. -/
def countingEncrypt : Op :=
  .encryptGarlicMessage (countingEnv 7 second second) (.ofNat 32 5)
    (countingNoise.publicKey (FixedBytes.ofNat 32 5).val) countingPayload

/-- A message with the tag of the reply that this manager awaits then, and nothing in it. -/
def forgedReply : Bytes :=
  let sm := countingEncrypt.apply countingNoise countingPrimitives
    (countingManager 3 (5 * minute) (2 * minute))
  (sm.nsrTagIndex.keys.headD zeroTag).val ++ List.replicate 64 0

/-- The manager with private key 5 writes to the sender of a New Session message. -/
def countingAnswer : Op :=
  .encryptGarlicMessage (countingEnv 9 second second) (.ofNat 32 (BigEndian.beNat
    (countingNoise.publicKey (FixedBytes.ofNat 32 3).val).val))
    (countingNoise.publicKey (FixedBytes.ofNat 32 3).val) countingPayload

theorem total_countingPrimitives : countingPrimitives.Total where
  deriveKeys _ _ := ⟨_, rfl⟩
  generateNextTag _ := ⟨_, _, rfl⟩

/-- The reply of the manager with private key 5 to the New Session message. -/
def countingReply : Bytes :=
  let sm := ((countingManager 5 (5 * minute) (2 * minute)).decrypt countingNoise countingPrimitives
    (countingEnv 0 second second) countingMessage).2
  (sm.encryptNewSessionReply countingNoise countingPrimitives (countingEnv 9 second second)
    (countingNoise.suite.hash (countingNoise.publicKey (FixedBytes.ofNat 32 3).val).val)
    countingPayload).1.toOption.getD []

/-- An initiator sends after the reply of its peer. -/
theorem existing_after_handshake_counting :
    let start := start (.ofNat 32 3) (countingNoise.publicKey (FixedBytes.ofNat 32 3).val)
      (5 * minute)
      (2 * minute)
    let reply : Op := .decryptGarlicMessage (countingEnv 0 second second) countingReply
    let step := step countingNoise countingPrimitives
    (countingEncrypt.emitter countingNoise countingPrimitives
        (exec step start [countingEncrypt, reply]).sm).isSome ∧
      Always step (fun r op => ∀ emitter ∈ op.emitter countingNoise countingPrimitives r.sm,
        Permitted r.history emitter) start [countingEncrypt, reply, countingEncrypt] := by
  intro start reply step
  refine ⟨by decide +kernel, existing_after_handshake countingNoise total_countingPrimitives _ _
    (5 * minute) (2 * minute) [countingEncrypt, reply, countingEncrypt] ?_⟩
  decide +kernel

/-- An initiator sends after a forged reply, and a responder before it has replied. -/
theorem existing_before_handshake :
    let step := step countingNoise countingPrimitives
    let permitted := fun (r : HandshakeRun ℕ (ℕ × ℕ) (ℕ × ℕ)) (op : Op) =>
      ∀ emitter ∈ op.emitter countingNoise countingPrimitives r.sm, Permitted r.history emitter
    ¬Always step permitted ⟨countingManager 3 (5 * minute) (2 * minute), []⟩
        [countingEncrypt, .decryptGarlicMessage (countingEnv 0 second second) forgedReply,
          countingEncrypt] ∧
      ¬Always step permitted ⟨countingManager 5 (5 * minute) (2 * minute), []⟩
        [.decryptGarlicMessage (countingEnv 0 second second) countingMessage, countingAnswer] := by
  decide +kernel

end HandshakeRun
end GoNoise.Ratchet
