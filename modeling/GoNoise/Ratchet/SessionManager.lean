import GoNoise.ReplayCache
import GoNoise.Ratchet.ReceiveKeys

/-!
# `ratchet/session_manager.go`, `ratchet/session_table.go`: sessions and their tags

The manager finds the session of an Existing Session message by its tag. Each session has a window
of tags that it expects, and the manager an index from these tags to sessions and message counters.
Pointers to sessions are addresses in a heap; a function that holds a session takes it as a value
and hands it back.
-/

namespace GoNoise.Ratchet

/-- `SessionManager`. A session is given by its address. -/
structure SessionManager (δ σ τ : Type) where
  heap : GoMap ℕ (Session δ σ τ)
  sessions : GoMap Key ℕ
  tagIndex : GoMap Tag ℕ
  /-- the expected tags of New Session Replies -/
  nsrTagIndex : GoMap Tag ℕ
  tagCounterIndex : GoMap Tag UInt32
  oneTimeKeys : GoMap Tag Key
  ourPrivateKey : Key
  ourPublicKey : Key
  sessionTimeout : Duration
  /-- how old a New Session message may be -/
  nsMaxPastAge : Duration
  /-- how far in the future it may be dated -/
  nsMaxFutureAge : Duration
  /-- the ephemeral keys of New Session messages -/
  nsReplayCache : ReplayCache.TTLCache

def minute : Duration := 60 * second

/-- `nsReplayCacheTTL`. A `time.Duration` has 64 bits. -/
def nsReplayCacheTTL (pastAge futureAge : Duration) : Duration :=
  (pastAge + futureAge + minute).bmod (2 ^ 64)

def nsReplayCacheMaxSize : ℤ := 50000

/-- `NewSessionManager`, for a key pair and the limits that the options leave. -/
def newSessionManager {δ σ τ : Type} (privateKey publicKey : Key)
    (nsMaxPastAge nsMaxFutureAge : Duration) : SessionManager δ σ τ where
  heap := ∅
  sessions := ∅
  tagIndex := ∅
  nsrTagIndex := ∅
  tagCounterIndex := ∅
  oneTimeKeys := ∅
  ourPrivateKey := privateKey
  ourPublicKey := publicKey
  sessionTimeout := 10 * minute
  nsMaxPastAge := nsMaxPastAge
  nsMaxFutureAge := nsMaxFutureAge
  nsReplayCache := .new (nsReplayCacheTTL nsMaxPastAge nsMaxFutureAge) nsReplayCacheMaxSize

def tagReplenishThreshold : ℕ := tagWindowSize / 2

def maxReplenishAttempts : ℕ := 3

/-- `removeTagFromPendingList`: the last tag takes the place of the first match. -/
def removeTagFromPendingList (tag : Tag) (pendingTags : List Tag) : List Tag :=
  if tag ∈ pendingTags then
    (pendingTags.set (pendingTags.idxOf tag) (pendingTags.getLastD tag)).dropLast
  else pendingTags

variable {δ σ τ : Type} (P : Primitives δ σ τ)

def Session.useTag (tag : Tag) (s : Session δ σ τ) : Session δ σ τ :=
  { s with pendingTags := removeTagFromPendingList tag s.pendingTags }

/-- The loop of `generateTagsOutsideLock` from index `i` on, that many turns: the tags with their
counters. -/
def Session.drawTags (i : ℕ) : ℕ → τ → Session δ σ τ →
    Except Oops (List (Tag × UInt32)) × Session δ σ τ
  | 0, _, s => (.ok [], s)
  | turns + 1, r, s =>
    match P.generateNextTag r with
    | (.error e, r) =>
      (.error (e.wrapf s!"failed to generate session tag at index {i}"),
        { s with recvTagRatchet := some r })
    | (.ok tag, r) =>
      let counter := s.nextRecvTagCounter
      match drawTags (i + 1) turns r { s with
          recvTagRatchet := some r, nextRecvTagCounter := s.nextRecvTagCounter + 1 } with
      | (.error e, s) => (.error e, s)
      | (.ok newTags, s) => (.ok ((tag, counter) :: newTags), s)

def Session.generateTagsOutsideLock (s : Session δ σ τ) :
    Except Oops (List (Tag × UInt32)) × Session δ σ τ :=
  match s.recvTagRatchet with
  | none =>
    (.error (.errorf "RecvTagRatchet is nil for session — cannot replenish incoming tag window"), s)
  | some r => s.drawTags P 0 (tagWindowSize - s.pendingTags.length) r

namespace SessionManager

/-! ## Tags -/

def collides (p : ℕ) (tag : Tag) (sm : SessionManager δ σ τ) : Bool :=
  match sm.tagIndex.lookup tag with
  | none => false
  | some existing => existing ≠ p

def registerTag (p : ℕ) (tag : Tag) (counter : UInt32)
    (w : Session δ σ τ × SessionManager δ σ τ) : Session δ σ τ × SessionManager δ σ τ :=
  ({ w.1 with pendingTags := w.1.pendingTags ++ [tag] },
    { w.2 with
      tagIndex := w.2.tagIndex.insert tag p
      tagCounterIndex := w.2.tagCounterIndex.insert tag counter })

/-- `installGeneratedTagsLocked`, for the session at `p`. -/
def installGeneratedTagsLocked (p : ℕ) : List (Tag × UInt32) →
    Session δ σ τ × SessionManager δ σ τ → Session δ σ τ × SessionManager δ σ τ
  | [], w => w
  | (tag, counter) :: newTags, w =>
    if tagWindowSize ≤ w.1.pendingTags.length then w
    else if w.2.collides p tag then installGeneratedTagsLocked p newTags w
    else installGeneratedTagsLocked p newTags (registerTag p tag counter w)

/-- The loop of `replenishTagWindowOutsideLock`, that many attempts. -/
def replenishLoop (p : ℕ) : ℕ → Session δ σ τ × SessionManager δ σ τ →
    Session δ σ τ × SessionManager δ σ τ
  | 0, w => w
  | attempts + 1, (s, sm) =>
    if tagWindowSize ≤ s.pendingTags.length then (s, sm)
    else
      match s.generateTagsOutsideLock P with
      | (.error _, s) => (s, sm)
      | (.ok newTags, s) =>
        if newTags.length = 0 then (s, sm)
        else
          let w := installGeneratedTagsLocked p newTags (s, sm)
          if tagWindowSize ≤ w.1.pendingTags.length then w else replenishLoop p attempts w

/-- `replenishTagWindowOutsideLock`, for the session at `p`. -/
def replenishTagWindowOutsideLock (p : ℕ) (w : Session δ σ τ × SessionManager δ σ τ) :
    Session δ σ τ × SessionManager δ σ τ := replenishLoop P p maxReplenishAttempts w

/-- `generateTagWindow`, for the session at `p`: `none` if it has not returned after that many
turns. Tags of other sessions are skipped, so Go sets no bound. -/
def generateTagWindow (p : ℕ) : ℕ → Session δ σ τ × SessionManager δ σ τ →
    Option (Except Oops Unit × Session δ σ τ × SessionManager δ σ τ)
  | 0, _ => none
  | turns + 1, (s, sm) =>
    match s.recvTagRatchet with
    | none =>
      some (.error (.errorf
        "RecvTagRatchet is nil for session — cannot populate incoming tag index"), s, sm)
    | some r =>
      if tagWindowSize ≤ s.pendingTags.length then some (.ok (), s, sm)
      else
        match P.generateNextTag r with
        | (.error e, r) =>
          some (.error (e.wrapf "failed to generate session tag"),
            { s with recvTagRatchet := some r }, sm)
        | (.ok tag, r) =>
          let counter := s.nextRecvTagCounter
          let s := { s with
            recvTagRatchet := some r, nextRecvTagCounter := s.nextRecvTagCounter + 1 }
          if sm.collides p tag then generateTagWindow p turns (s, sm)
          else generateTagWindow p turns (registerTag p tag counter (s, sm))

def deleteTags (tags : List Tag) (sm : SessionManager δ σ τ) : SessionManager δ σ τ :=
  { sm with
    tagIndex := tags.foldl (fun m tag => m.erase tag) sm.tagIndex
    tagCounterIndex := tags.foldl (fun m tag => m.erase tag) sm.tagCounterIndex }

/-- `lookupSessionByTag`: the session, the counter of the tag, and the tables without it. -/
def lookupSessionByTag (tag : Tag) (sm : SessionManager δ σ τ) :
    Option (ℕ × Option UInt32) × SessionManager δ σ τ :=
  match sm.tagIndex.lookup tag with
  | none => (none, sm)
  | some p => (some (p, sm.tagCounterIndex.lookup tag), sm.deleteTags [tag])

def isSessionValid (now : Time) (s : Session δ σ τ) (sm : SessionManager δ σ τ) : Bool :=
  now - s.lastUsed ≤ sm.sessionTimeout

def removeSessionByPointer (p : ℕ) (sm : SessionManager δ σ τ) : SessionManager δ σ τ :=
  match sm.sessions.entries.find? (fun entry => entry.2 = p), sm.heap.lookup p with
  | some entry, some s =>
    let sm := sm.deleteTags s.pendingTags
    { sm with
      nsrTagIndex := s.nsrTag.elim sm.nsrTagIndex sm.nsrTagIndex.erase
      sessions := sm.sessions.erase entry.1 }
  | _, _ => sm

/-! ## Existing Session messages -/

def processAckRequest (s : Session δ σ τ) : Session δ σ τ :=
  let highestConsumed : UInt16 :=
    if 1 < s.recvWindowBase then
      let base := s.recvWindowBase - 1
      (if maxMessageNumber < base then maxMessageNumber else base).toUInt16
    else 0
  { s with pendingAcks := s.pendingAcks ++ [newAckBlock [⟨s.recvKeyID, highestConsumed⟩]] }

def processAck (block : PayloadBlock) (s : Session δ σ τ) : Session δ σ τ :=
  match block.acks with
  | .error _ => s
  | .ok acks => { s with lastAckedEntries := acks }

/-- The case of `processDecryptedESBlocks` for a block that leaves the tables alone. -/
def processControlBlock (block : PayloadBlock) (s : Session δ σ τ) : Session δ σ τ :=
  if block.type = blockMessageNumber then
    match block.messageNumber with
    | .error _ => s
    | .ok pn => s.trimRecvWindowByPN pn
  else if block.type = blockAckRequest then processAckRequest s
  else if block.type = blockAck then processAck block s
  else s

def processBlocks (p : ℕ) : List PayloadBlock → SessionManager δ σ τ → SessionManager δ σ τ
  | [], sm => sm
  | block :: blocks, sm =>
    if block.type = blockTermination then sm.removeSessionByPointer p
    else
      match sm.heap.lookup p with
      | none => sm
      | some s =>
        processBlocks p blocks { sm with heap := sm.heap.insert p (processControlBlock block s) }

/-- `processDecryptedESBlocks`, for the session at `p`. -/
def processDecryptedESBlocks (p : ℕ) (plaintext : Bytes) (sm : SessionManager δ σ τ) :
    SessionManager δ σ τ :=
  match parsePayload plaintext with
  | .error _ => sm
  | .ok blocks => sm.processBlocks p blocks

/-- What `tryDecryptExisting` does with a session that is valid: its tag is used, the message is
decrypted, the tags are replenished. The result and the session at `p` after it. -/
def receiveExisting (now : Time) (msgTag : Tag) (encryptedGarlic : Bytes)
    (counterHint : Option UInt32) (p : ℕ) (s : Session δ σ τ) (sm : SessionManager δ σ τ) :
    Except Oops (Bytes × Tag) × SessionManager δ σ τ :=
  let s := s.useTag msgTag
  let needsReplenish := s.pendingTags.length < tagReplenishThreshold
  let decrypted := s.decryptExistingSession P now (encryptedGarlic.drop 8) msgTag counterHint
  let w := if needsReplenish then replenishTagWindowOutsideLock P p (decrypted.2, sm)
    else (decrypted.2, sm)
  (decrypted.1, { w.2 with heap := w.2.heap.insert p w.1 })

/-- `tryDecryptExisting`, with the clock: `none` if the message is for no session. -/
def tryDecryptExisting (now : Time) (msgTag : Tag) (encryptedGarlic : Bytes)
    (sm : SessionManager δ σ τ) : Option (Except Oops (Bytes × Tag)) × SessionManager δ σ τ :=
  match sm.lookupSessionByTag msgTag with
  | (none, sm) => (none, sm)
  | (some (p, counterHint), sm) =>
    match sm.heap.lookup p with
    | none => (none, sm)
    | some s =>
      if sm.isSessionValid now s then
        let received := receiveExisting P now msgTag encryptedGarlic counterHint p s sm
        match received.1 with
        | .error e => (some (.error e), received.2)
        | .ok (plaintext, sessionTag) =>
          (some (.ok (plaintext, sessionTag)), received.2.processDecryptedESBlocks p plaintext)
      else (none, sm)

/-! ## After the handshake -/

/-- `applyNSRKeysToSessionWhileLocked`, for the session at `p`: `none` if `generateTagWindow` has
not returned after that many turns. -/
def applyNSRKeysToSessionWhileLocked (turns p : ℕ) (nsrKeys : NSRSessionKeys) (isInitiator : Bool)
    (w : Session δ σ τ × SessionManager δ σ τ) :
    Option (Except Oops Unit × Session δ σ τ × SessionManager δ σ τ) :=
  let (s, sm) := w
  let sendKey := if isInitiator then nsrKeys.keyAB else nsrKeys.keyBA
  let recvKey := if isInitiator then nsrKeys.keyBA else nsrKeys.keyAB
  match deriveTagAndSymKeysFromChainKey P sendKey with
  | .error e => some (.error (e.wrapf "failed to derive NSR send-direction ratchet keys"), w)
  | .ok (sendTagKey, sendSymKey) =>
    match deriveTagAndSymKeysFromChainKey P recvKey with
    | .error e => some (.error (e.wrapf "failed to derive NSR recv-direction ratchet keys"), w)
    | .ok (recvTagKey, recvSymKey) =>
      let sm := sm.deleteTags s.pendingTags
      let s := { s with
        pendingTags := []
        symmetricRatchet := P.newSymmetricRatchet sendSymKey
        tagRatchet := P.newTagRatchet sendTagKey
        recvSymmetricRatchet := some (P.newSymmetricRatchet recvSymKey)
        recvTagRatchet := some (P.newTagRatchet recvTagKey)
        messageCounter := 1 }
      generateTagWindow P p turns (s.resetRecvWindow, sm)

/-! ## How a message finds its session -/

section
variable {P} {sm : SessionManager δ σ τ} {p : ℕ} {s : Session δ σ τ} {now : Time} {tag : Tag}
  {msg : Bytes}

/-- A message whose tag is not in the index is for no session. -/
theorem tryDecryptExisting_of_unknown (h : sm.tagIndex.lookup tag = none) :
    sm.tryDecryptExisting P now tag msg = (none, sm) := by
  unfold tryDecryptExisting lookupSessionByTag
  rw [h]

/-- What the session at `p` makes of a message with one of its tags. -/
def received (P : Primitives δ σ τ) (now : Time) (tag : Tag) (msg : Bytes) (p : ℕ)
    (s : Session δ σ τ) (sm : SessionManager δ σ τ) :
    Except Oops (Bytes × Tag) × SessionManager δ σ τ :=
  receiveExisting P now tag msg (sm.tagCounterIndex.lookup tag) p s (sm.deleteTags [tag])

section
variable (hp : sm.tagIndex.lookup tag = some p)
include hp

theorem tryDecryptExisting_of_tag : sm.tryDecryptExisting P now tag msg =
    match sm.heap.lookup p with
    | none => (none, sm.deleteTags [tag])
    | some s =>
      if sm.isSessionValid now s then
        match (received P now tag msg p s sm).1 with
        | .error e => (some (.error e), (received P now tag msg p s sm).2)
        | .ok (plaintext, sessionTag) => (some (.ok (plaintext, sessionTag)),
            (received P now tag msg p s sm).2.processDecryptedESBlocks p plaintext)
      else (none, sm.deleteTags [tag]) := by
  unfold tryDecryptExisting lookupSessionByTag
  rw [hp]
  rfl

theorem tryDecryptExisting_of_error (hs : sm.heap.lookup p = some s)
    (hvalid : sm.isSessionValid now s) {e : Oops}
    (h : (received P now tag msg p s sm).1 = .error e) :
    sm.tryDecryptExisting P now tag msg = (some (.error e), (received P now tag msg p s sm).2) := by
  rw [tryDecryptExisting_of_tag hp, hs]
  dsimp only
  rw [if_pos hvalid, h]

theorem tryDecryptExisting_of_ok (hs : sm.heap.lookup p = some s)
    (hvalid : sm.isSessionValid now s) {plaintext : Bytes} {sessionTag : Tag}
    (h : (received P now tag msg p s sm).1 = .ok (plaintext, sessionTag)) :
    sm.tryDecryptExisting P now tag msg = (some (.ok (plaintext, sessionTag)),
      (received P now tag msg p s sm).2.processDecryptedESBlocks p plaintext) := by
  rw [tryDecryptExisting_of_tag hp, hs]
  dsimp only
  rw [if_pos hvalid, h]

end

theorem existing_of_isSome (h : (sm.tryDecryptExisting P now tag msg).1.isSome) :
    ∃ p s, sm.tagIndex.lookup tag = some p ∧ sm.heap.lookup p = some s ∧
      sm.isSessionValid now s := by
  rcases hp : sm.tagIndex.lookup tag with _ | p
  · rw [tryDecryptExisting_of_unknown hp] at h
    cases h
  rw [tryDecryptExisting_of_tag hp] at h
  rcases hs : sm.heap.lookup p with _ | s
  · rw [hs] at h
    cases h
  by_cases hvalid : sm.isSessionValid now s
  · exact ⟨p, s, rfl, hs, hvalid⟩
  · rw [hs] at h
    dsimp only at h
    rw [if_neg hvalid] at h
    cases h

end

end SessionManager
end GoNoise.Ratchet
