import GoNoise.Ratchet.Frames
import GoNoise.Ratchet.NewSession

/-!
# Runs of a session manager

The calls that the exported methods of the manager allow, in any order, and the sweeps of its replay
cache. `Close` ends a run and is not among them.
-/

namespace GoNoise.Ratchet

variable {δ σ τ : Type}

/-- A call, with what it takes from outside. -/
inductive Op where
  | encryptGarlicMessage (env : Env) (destinationHash destinationPubKey : Key)
      (plaintextGarlic : Bytes)
  | encryptNewSessionReply (env : Env) (sessionHash : Key) (payload : Bytes)
  | decryptGarlicMessage (env : Env) (encryptedGarlic : Bytes)
  | processReceivedNextKey (sessionTag : Tag) (info : NextKeyInfo)
  | processIncomingDHRatchet (sessionTag : Tag) (newRemotePubKey : Key)
  | registerOneTimeKey (tag : Tag) (key : Key)
  | findSessionByTag (now : Time) (tag : Tag)
  | cleanupExpiredSessions (now : Time)
  /-- the background loop of the replay cache -/
  | evictExpired (now : Time)

variable (N : NoiseLibrary) (P : Primitives δ σ τ)

namespace SessionManager

def encrypt (env : Env) (destinationHash destinationPubKey : Key) (plaintextGarlic : Bytes)
    (sm : SessionManager δ σ τ) : Except Oops Bytes × SessionManager δ σ τ :=
  sm.encryptGarlicMessage P (handshakes N P env) env.now destinationHash destinationPubKey
    plaintextGarlic

def decrypt (env : Env) (encryptedGarlic : Bytes) (sm : SessionManager δ σ τ) :
    Except Oops (Bytes × Tag × Option Key) × SessionManager δ σ τ :=
  sm.decryptGarlicMessage P (handshakes N P env) env.now encryptedGarlic

end SessionManager

/-- The manager after a call. -/
def Op.apply (sm : SessionManager δ σ τ) : Op → SessionManager δ σ τ
  | .encryptGarlicMessage env hash pub plaintext => (sm.encrypt N P env hash pub plaintext).2
  | .encryptNewSessionReply env hash payload => (sm.encryptNewSessionReply N P env hash payload).2
  | .decryptGarlicMessage env msg => (sm.decrypt N P env msg).2
  | .processReceivedNextKey tag info => (sm.processReceivedNextKey P tag info).2
  | .processIncomingDHRatchet tag key => (sm.processIncomingDHRatchet P tag key).2
  | .registerOneTimeKey tag key => sm.registerOneTimeKey tag key
  | .findSessionByTag now tag => (sm.findSessionByTag P now tag).2
  | .cleanupExpiredSessions now => sm.cleanupExpiredSessions now
  | .evictExpired now => { sm with nsReplayCache := sm.nsReplayCache.evictExpired now }

namespace SessionManager

variable {N P} {sm sm' : SessionManager δ σ τ} {p : ℕ} {pub : Key} {tag : Tag} {msg : Bytes}
  {now : Time} {I : SessionManager δ σ τ → Prop} {s : Session δ σ τ}

/-! ## The session table -/

theorem makeRoom_induct (hdrop : ∀ sm hash, I sm → I (sm.dropSession hash)) (order : List Key)
    (h : I sm) : I (sm.makeRoom order pub) := by
  have hevict : I sm.evictLRUSessionLocked := by
    fun_cases evictLRUSessionLocked
    · exact h
    · exact hdrop _ _ h
  have hquota : ∀ sm, I sm → I (sm.enforcePerPeerQuotaLocked order pub) := by
    intro sm h
    fun_cases enforcePerPeerQuotaLocked
    · exact h
    · exact h
    all_goals exact hdrop _ _ h
  unfold makeRoom
  split_ifs
  · exact hquota _ hevict
  · exact hquota sm h

theorem cleanupExpiredSessions_induct (hdrop : ∀ sm hash, I sm → I (sm.dropSession hash))
    (now : Time) (h : I sm) : I (sm.cleanupExpiredSessions now) := by
  refine List.foldlRecOn _ _ h fun sm h hash _ => ?_
  split
  · exact h
  · split_ifs
    · exact h
    · exact hdrop sm hash h

/-! ## Messages that are received -/

theorem onlyTables_receiveExisting {counterHint : Option UInt32} :
    sm.OnlyTables (receiveExisting P now tag msg counterHint p s sm).2 := by
  unfold receiveExisting
  dsimp only
  split_ifs
  · exact (onlyIndexes_replenishLoop maxReplenishAttempts _).onlyTables.trans (onlyTables_heap _)
  · rfl

/-- What a decryption can return, by the reader that answers the message. -/
inductive Decrypts (N : NoiseLibrary) (P : Primitives δ σ τ) (env : Env) (msg : Bytes)
    (sm : SessionManager δ σ τ) :
    Except Oops (Bytes × Tag × Option Key) × SessionManager δ σ τ → Prop where
  | short (e : Oops) (hlen : msg.length < 8) : Decrypts N P env msg sm (.error e, sm)
  | existing {answer : Except Oops (Bytes × Tag)} {sm' : SessionManager δ σ τ}
      (hlen : 8 ≤ msg.length)
      (hexisting : sm.tryDecryptExisting P env.now (.copyFrom 8 (msg.take 8)) msg =
        (some answer, sm')) :
      Decrypts N P env msg sm (answer.map fun opened => (opened.1, opened.2, none), sm')
  | reply {answer : Except Oops Bytes} {sm₁ sm' : SessionManager δ σ τ} (hlen : 8 ≤ msg.length)
      (hexisting : sm.tryDecryptExisting P env.now (.copyFrom 8 (msg.take 8)) msg = (none, sm₁))
      (hreply : sm₁.tryDecryptNSR (handshakes N P env) (.copyFrom 8 (msg.take 8)) msg =
        (some answer, sm')) :
      Decrypts N P env msg sm (answer.map fun plaintext => (plaintext, zeroTag, none), sm')
  | oneTime {answer : Except Oops Bytes} {sm₁ sm' : SessionManager δ σ τ} (hlen : 8 ≤ msg.length)
      (hexisting : sm.tryDecryptExisting P env.now (.copyFrom 8 (msg.take 8)) msg = (none, sm₁))
      (hreply : sm₁.nsrTagIndex.lookup (.copyFrom 8 (msg.take 8)) = none)
      (honeTime : sm₁.tryDecryptOneTimeKey P (.copyFrom 8 (msg.take 8)) msg = (some answer, sm')) :
      Decrypts N P env msg sm (answer.map fun plaintext => (plaintext, zeroTag, none), sm')
  | newSession {answer : Except Oops (Bytes × Option Key)} {sm₁ sm' : SessionManager δ σ τ}
      (hlen : 8 ≤ msg.length)
      (hexisting : sm.tryDecryptExisting P env.now (.copyFrom 8 (msg.take 8)) msg = (none, sm₁))
      (hreply : sm₁.nsrTagIndex.lookup (.copyFrom 8 (msg.take 8)) = none)
      (honeTime : sm₁.oneTimeKeys.lookup (.copyFrom 8 (msg.take 8)) = none)
      (hnew : sm₁.decryptNewSession N P env msg = (answer, sm')) :
      Decrypts N P env msg sm ((answer.mapError fun e =>
        e.wrapf "failed to decrypt garlic message").map
          fun opened => (opened.1, zeroTag, opened.2), sm')

theorem lookup_of_tryDecryptNSR {H : Handshakes δ σ τ}
    (h : sm.tryDecryptNSR H tag msg = (none, sm')) :
    sm.nsrTagIndex.lookup tag = none ∧ sm' = sm := by
  revert h
  fun_cases tryDecryptNSR
  next hlook =>
    rintro ⟨⟩
    exact ⟨hlook, rfl⟩
  · rintro ⟨⟩

theorem lookup_of_tryDecryptOneTimeKey (h : sm.tryDecryptOneTimeKey P tag msg = (none, sm')) :
    sm.oneTimeKeys.lookup tag = none ∧ sm' = sm := by
  revert h
  fun_cases tryDecryptOneTimeKey
  next hlook =>
    rintro ⟨⟩
    exact ⟨hlook, rfl⟩
  all_goals rintro ⟨⟩

theorem decrypts (env : Env) (msg : Bytes) (sm : SessionManager δ σ τ) :
    Decrypts N P env msg sm (sm.decrypt N P env msg) := by
  unfold decrypt decryptGarlicMessage
  split_ifs with hlen
  · exact .short _ hlen
  have hlen : 8 ≤ msg.length := Nat.not_lt.mp hlen
  dsimp only
  split
  next hexisting => exact .existing hlen hexisting
  next hexisting => exact .existing hlen hexisting
  next sm₁ hexisting =>
    split
    next hreply => exact .reply hlen hexisting hreply
    next hreply => exact .reply hlen hexisting hreply
    next hreply =>
      obtain ⟨hreply, rfl⟩ := lookup_of_tryDecryptNSR hreply
      split
      next honeTime => exact .oneTime hlen hexisting hreply honeTime
      next honeTime => exact .oneTime hlen hexisting hreply honeTime
      next honeTime =>
        obtain ⟨honeTime, rfl⟩ := lookup_of_tryDecryptOneTimeKey honeTime
        split
        next hnew => exact .newSession hlen hexisting hreply honeTime hnew
        next hnew => exact .newSession hlen hexisting hreply honeTime hnew

/-! ## Managers to run -/

/-- The surroundings of a call, with a private key for the ephemeral key pair. -/
def countingEnv (eph : UInt8) (checked asked : Time) : Env where
  now := checked
  checked := checked
  asked := asked
  eph := .ok (countingNoise.publicKey [eph], [eph])
  sessionOrder := []
  cacheOrder := []
  -- enough to pass by the tags of another session with the same keys
  turns := 2 * tagWindowSize + 1

def countingManager (privateKey : ℕ) (nsMaxPastAge nsMaxFutureAge : Duration) :
    SessionManager ℕ (ℕ × ℕ) (ℕ × ℕ) :=
  newSessionManager (.ofNat 32 privateKey)
    (countingNoise.publicKey (FixedBytes.ofNat 32 privateKey).val) nsMaxPastAge nsMaxFutureAge

def countingPayload : Bytes := [blockDateTime, 0, 4, 0, 0, 0, 1]

/-- The New Session message of a manager with private key 3 to one with private key 5. -/
def countingMessage : Bytes :=
  ((writeNoiseIKMessage1 countingNoise (countingEnv 7 0 0).eph (.ofNat 32 3)
    (countingNoise.publicKey (FixedBytes.ofNat 32 3).val)
    (countingNoise.publicKey (FixedBytes.ofNat 32 5).val)
    countingPayload).toOption.map Prod.fst).getD []

end SessionManager
end GoNoise.Ratchet
