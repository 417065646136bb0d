import GoNoise.Ratchet.Garlic
import GoNoise.Ratchet.NoiseIK

/-!
# `ratchet/session_encrypt.go`, `ratchet/session_decrypt.go`: messages that begin a session

A New Session message makes a session on both sides, and the New Session Reply gives it the keys of
the finished handshake.
-/

namespace GoNoise.Ratchet

/-- What a call takes from outside. -/
structure Env where
  now : Time
  /-- `nowFunc`, when the age of a New Session message is checked -/
  checked : Time
  /-- `nowFunc`, when the replay cache is asked -/
  asked : Time
  /-- `elligator2.GenerateKeyPair`: public and private key -/
  eph : Except Oops (Key × Bytes)
  /-- the order in which Go visits the table of sessions -/
  sessionOrder : List Key
  /-- the order in which Go visits the replay cache -/
  cacheOrder : List Key
  /-- how many turns of `generateTagWindow` are waited for -/
  turns : ℕ

/-! ## The table of sessions -/

def maxGarlicSessions : ℕ := 5000

def maxSessionsPerPeer : ℕ := 32

def bytesLess : Bytes → Bytes → Bool
  | [], b => 0 < b.length
  | _ :: _, [] => false
  | x :: a, y :: b => if x < y then true else if y < x then false else bytesLess a b

variable {δ σ τ : Type}

namespace SessionManager

def sessionAt (hash : Key) (sm : SessionManager δ σ τ) : Option (Session δ σ τ) :=
  (sm.sessions.lookup hash).bind fun p => sm.heap.lookup p

/-- A session leaves the table, with its tags. -/
def dropSession (hash : Key) (sm : SessionManager δ σ τ) : SessionManager δ σ τ :=
  match sm.sessionAt hash with
  | none => sm
  | some s =>
    let sm := sm.deleteTags s.pendingTags
    { sm with
      nsrTagIndex := s.nsrTag.elim sm.nsrTagIndex sm.nsrTagIndex.erase
      sessions := sm.sessions.erase hash }

/-- The loop of `evictLRUSessionLocked`. -/
def leastRecentlyUsed (sm : SessionManager δ σ τ) :
    Option (Key × Time) → List Key → Option (Key × Time)
  | oldest, [] => oldest
  | oldest, hash :: rest =>
    match sm.sessionAt hash with
    | none => sm.leastRecentlyUsed oldest rest
    | some s =>
      match oldest with
      | none => sm.leastRecentlyUsed (some (hash, s.lastUsed)) rest
      | some (oldestHash, oldestTime) =>
        if s.lastUsed < oldestTime ∨
            s.lastUsed = oldestTime ∧ bytesLess hash.val oldestHash.val then
          sm.leastRecentlyUsed (some (hash, s.lastUsed)) rest
        else sm.leastRecentlyUsed (some (oldestHash, oldestTime)) rest

/-- `evictLRUSessionLocked`. The order of the loop does not matter. -/
def evictLRUSessionLocked (sm : SessionManager δ σ τ) : SessionManager δ σ τ :=
  match sm.leastRecentlyUsed none sm.sessions.keys with
  | none => sm
  | some (oldestHash, _) => sm.dropSession oldestHash

/-- `enforcePerPeerQuotaLocked`; `order` is the order in which Go visits the table. -/
def enforcePerPeerQuotaLocked (order : List Key) (remotePubKey : Key) (sm : SessionManager δ σ τ) :
    SessionManager δ σ τ :=
  let lastUsedAt (p : ℕ) : Time := ((sm.heap.lookup p).map Session.lastUsed).getD 0
  let ofPeer := (sm.sessions.inOrder order).filter fun hash =>
    (sm.sessionAt hash).any fun s => s.remotePublicKey = remotePubKey
  let established := ofPeer.filter fun hash =>
    (sm.sessionAt hash).any fun s => s.nsrTag.isNone ∧ s.handshakeState.isNone
  if ofPeer.length < maxSessionsPerPeer then sm
  else
    match sm.sessions.oldest lastUsedAt none ofPeer with
    | none => sm
    | some (oldestHash, _) =>
      match sm.sessions.oldest lastUsedAt none established with
      | none => sm.dropSession oldestHash
      | some (oldestEstablishedHash, _) => sm.dropSession oldestEstablishedHash

def makeRoom (order : List Key) (remotePubKey : Key) (sm : SessionManager δ σ τ) :
    SessionManager δ σ τ :=
  let sm := if maxGarlicSessions ≤ sm.sessions.size then sm.evictLRUSessionLocked else sm
  sm.enforcePerPeerQuotaLocked order remotePubKey

def cleanupExpiredSessions (now : Time) (sm : SessionManager δ σ τ) : SessionManager δ σ τ :=
  sm.sessions.keys.foldl (fun sm hash =>
    match sm.sessionAt hash with
    | none => sm
    | some s => if sm.isSessionValid now s then sm else sm.dropSession hash) sm

def newAddress (sm : SessionManager δ σ τ) : ℕ :=
  sm.heap.keys.foldr (fun p q => max (p + 1) q) 0

def registerOneTimeKey (tag : Tag) (key : Key) (sm : SessionManager δ σ τ) : SessionManager δ σ τ :=
  { sm with oneTimeKeys := sm.oneTimeKeys.insert tag key }

variable (N : NoiseLibrary) (P : Primitives δ σ τ) (env : Env)

def findSessionByTag (now : Time) (tag : Tag) (sm : SessionManager δ σ τ) :
    Bool × SessionManager δ σ τ :=
  match sm.lookupSessionByTag tag with
  | (none, sm) => (false, sm)
  | (some (p, _), sm) =>
    match sm.heap.lookup p with
    | none => (false, sm)
    | some s =>
      if sm.isSessionValid now s then
        let s := s.useTag tag
        let w := if s.pendingTags.length < tagReplenishThreshold then
          replenishTagWindowOutsideLock P p (s, sm) else (s, sm)
        (true, { w.2 with heap := w.2.heap.insert p w.1 })
      else (false, sm)

/-- The error of a call that is still waiting for `generateTagWindow`. It is taken to have changed
nothing: it holds the lock of the manager. -/
def noReturn : Oops := .errorf "generateTagWindow has not returned"

/-- The tag window of a new session at `p`, which is put in its place; `none` if there is no
return. -/
def openWindow (p : ℕ) (message : String) (s : Session δ σ τ) (sm : SessionManager δ σ τ) :
    Option (Except Oops Unit × SessionManager δ σ τ) :=
  match generateTagWindow P p env.turns (s, sm) with
  | none => none
  | some (.error e, s, sm) =>
    some (.error (e.wrapf message), { sm with heap := sm.heap.insert p s })
  | some (.ok (), s, sm) => some (.ok (), { sm with heap := sm.heap.insert p s })

/-! ## New Session, sent -/

def registerNSRTagLocked (p : ℕ) (hs : NoiseHandshakeState)
    (w : Session δ σ τ × SessionManager δ σ τ) :
    Except Oops Unit × Session δ σ τ × SessionManager δ σ τ :=
  match nsrTagOf N P hs.ck "failed to derive NSR tag ratchet for initiator registration"
    "failed to generate NSR tag for initiator registration" with
  | .error e => (.error e, w)
  | .ok tag =>
    (.ok (), { w.1 with nsrTag := some tag },
      { w.2 with nsrTagIndex := w.2.nsrTagIndex.insert tag p })

/-- The case of `storeNewSessionState` for an initiator: it awaits a reply. -/
def registerInitiator (p : ℕ) (hs : Option NoiseHandshakeState) (isInitiator : Bool)
    (w : Session δ σ τ × SessionManager δ σ τ) :
    Except Oops Unit × Session δ σ τ × SessionManager δ σ τ :=
  match isInitiator, hs with
  | true, some hs => registerNSRTagLocked N P p hs w
  | _, _ => (.ok (), w)

/-- `storeNewSessionState`; `none` if there is no return. -/
def storeNewSessionState (destinationHash destinationPubKey : Key) (keys : SessionKeys)
    (hs : Option NoiseHandshakeState) (isInitiator : Bool) (sm : SessionManager δ σ τ) :
    Option (Except Oops Unit × SessionManager δ σ τ) :=
  match createSession P env.now destinationPubKey keys sm.ourPrivateKey isInitiator with
  | .error e => some (.error (e.wrapf "failed to create outbound session"), sm)
  | .ok s =>
    let s := { s with handshakeState := hs, isInitiator := isInitiator }
    let p := sm.newAddress
    let sm := sm.makeRoom env.sessionOrder destinationPubKey
    match registerInitiator N P p hs isInitiator (s, sm) with
    | (.error e, _, sm) =>
      some (.error (e.wrapf "failed to register NSR tag for initiator session"), sm)
    | (.ok (), s, sm) =>
      openWindow P env p "failed to generate tag window" s
        { sm with sessions := sm.sessions.insert destinationHash p }

def encryptNewSession (destinationHash destinationPubKey : Key) (plaintextGarlic : Bytes)
    (sm : SessionManager δ σ τ) : Except Oops Bytes × SessionManager δ σ τ :=
  match validateNewSessionPayload plaintextGarlic with
  | .error e => (.error (e.wrapf "new session payload rejected"), sm)
  | .ok () =>
    match writeNoiseIKMessage1 N env.eph sm.ourPrivateKey sm.ourPublicKey destinationPubKey
      plaintextGarlic with
    | .error e =>
      (.error (e.wrapf "failed to construct Noise IK New Session message"), sm)
    | .ok (msg, keys, hs) =>
      match storeNewSessionState N P env destinationHash destinationPubKey keys (some hs) true
        sm with
      | none => (.error noReturn, sm)
      | some (.error e, sm) => (.error e, sm)
      | some (.ok (), sm) => (.ok msg, sm)

/-! ## New Session, received -/

def validateNSDateTimeFreshness (now : Time) (payload : Bytes) (sm : SessionManager δ σ τ) :
    Except Oops Unit :=
  match parsePayload payload with
  | .error e => .error (e.wrapf "NS payload parse failed during freshness check")
  | .ok blocks =>
    match blocks with
    | [] => .error (.errorf "NS payload is missing required DateTime block at position 0")
    | block :: _ =>
      if block.type ≠ blockDateTime then
        .error (.errorf "NS payload is missing required DateTime block at position 0")
      else
        match block.dateTime with
        | .error e => .error (e.wrapf "NS DateTime block is malformed")
        | .ok msgTime =>
          let elapsed := timeSub now msgTime
          if sm.nsMaxPastAge < elapsed then
            .error (.errorf (s!"NS DateTime block fails freshness check: message is " ++
              s!"{durationString elapsed} old, max past age is " ++
              s!"{durationString sm.nsMaxPastAge} (stale or replay)"))
          else if elapsed < -sm.nsMaxFutureAge then
            .error (.errorf (s!"NS DateTime block fails freshness check: message is " ++
              s!"{durationString (-elapsed)} in the future, max future skew is " ++
              s!"{durationString sm.nsMaxFutureAge}"))
          else .ok ()

/-- `initializeInboundRatchetState`; `none` if there is no return. -/
def initializeInboundRatchetState (remotePubKey : Key) (keys : SessionKeys)
    (hs : Option NoiseHandshakeState) (sm : SessionManager δ σ τ) :
    Option (Except Oops Unit × SessionManager δ σ τ) :=
  match createSession P env.now remotePubKey keys sm.ourPrivateKey false with
  | .error e => some (.error (e.wrapf "failed to create inbound session"), sm)
  | .ok s =>
    let s := { s with handshakeState := hs, isInitiator := false }
    let sessionHash := N.suite.hash remotePubKey.val
    let p := sm.newAddress
    let sm := sm.makeRoom env.sessionOrder remotePubKey
    openWindow P env p "failed to generate inbound tag window" s
      { sm with sessions := sm.sessions.insert sessionHash p }

def decryptNewSession (msg : Bytes) (sm : SessionManager δ σ τ) :
    Except Oops (Bytes × Option Key) × SessionManager δ σ τ :=
  match readNoiseIKMessage1 N sm.ourPrivateKey sm.ourPublicKey msg with
  | .error e => (.error (e.wrapf "failed to process Noise IK New Session message"), sm)
  | .ok m =>
    if m.isUnbound then (.ok (m.payload, none), sm)
    else
      match sm.validateNSDateTimeFreshness env.checked m.payload with
      | .error e => (.error (e.wrapf "New Session message rejected"), sm)
      | .ok () =>
        -- the length was checked by `readNoiseIKMessage1`
        let ephKey : Key := .copyFrom 32 (msg.take 32)
        let checked := sm.nsReplayCache.checkAndAdd env.asked env.cacheOrder ephKey
        if checked.1 then
          (.error (.errorf (s!"NS replay detected: ephemeral key {hex (ephKey.val.take 8)} has " ++
            "been seen within the freshness window")), { sm with nsReplayCache := checked.2 })
        else
          match initializeInboundRatchetState N P env m.initiatorStaticPub m.keys m.hs
            { sm with nsReplayCache := checked.2 } with
          | none => (.error noReturn, sm)
          | some (.error e, sm) => (.error e, sm)
          | some (.ok (), sm) =>
            (.ok (m.payload, some (N.suite.hash m.initiatorStaticPub.val)), sm)

/-! ## New Session Reply -/

/-- The keys of the finished handshake, for the session at `p`; `finish` is what is done to the
session after it, and `none` that there is no return. -/
def finishHandshake (p : ℕ) (nsrKeys : NSRSessionKeys) (isInitiator : Bool) (message : String)
    (finish : Session δ σ τ → Session δ σ τ) (s : Session δ σ τ) (sm : SessionManager δ σ τ) :
    Option (Except Oops Unit × SessionManager δ σ τ) :=
  match applyNSRKeysToSessionWhileLocked P env.turns p nsrKeys isInitiator (s, sm) with
  | none => none
  | some (.error e, s, sm) =>
    some (.error (e.wrapf message), { sm with heap := sm.heap.insert p s })
  | some (.ok (), s, sm) => some (.ok (), { sm with heap := sm.heap.insert p (finish s) })

def decryptIncomingNSR (p : ℕ) (message : Bytes) (sm : SessionManager δ σ τ) :
    Except Oops Bytes × SessionManager δ σ τ :=
  match sm.heap.lookup p with
  | none => (.error (.errorf
      "no pending handshake state for NSR: session may have already processed NSR"), sm)
  | some s =>
    match s.handshakeState with
    | none => (.error (.errorf
        "no pending handshake state for NSR: session may have already processed NSR"), sm)
    | some hs =>
      let s := { s with handshakeState := none }
      let consumed := { sm with heap := sm.heap.insert p s }
      match readNoiseIKMessage2 N P hs sm.ourPrivateKey message with
      | .error e => (.error (e.wrapf "failed to process New Session Reply"), consumed)
      | .ok (plaintext, nsrKeys) =>
        match finishHandshake P env p nsrKeys true
          "failed to apply NSR keys to initiator session ratchets"
          (fun s => { s with lastUsed := env.now }) s consumed with
        | none => (.error noReturn, sm)
        | some (.error e, sm) => (.error e, sm)
        | some (.ok (), sm) => (.ok plaintext, sm)

def encryptNewSessionReply (sessionHash : Key) (payload : Bytes) (sm : SessionManager δ σ τ) :
    Except Oops Bytes × SessionManager δ σ τ :=
  let notFound := Oops.errorf s!"no session found for hash {hex (sessionHash.val.take 8)}"
  match sm.sessions.lookup sessionHash with
  | none => (.error notFound, sm)
  | some p =>
    match sm.heap.lookup p with
    | none => (.error notFound, sm)
    | some s =>
      match s.handshakeState with
      | none => (.error (.errorf "session has no pending handshake state for NSR"), sm)
      | some hs =>
        if s.isInitiator then
          (.error (.errorf "only the responder can send a New Session Reply"), sm)
        else
          let s := { s with handshakeState := none }
          let consumed := { sm with heap := sm.heap.insert p s }
          match writeNoiseIKMessage2 N P env.eph hs payload with
          | .error e => (.error (e.wrapf "failed to construct New Session Reply"), consumed)
          | .ok (_, wireMsg, nsrKeys) =>
            match finishHandshake P env p nsrKeys false
              "failed to apply NSR keys to responder session ratchets"
              (fun s => { s with awaitingFirstES := true, lastUsed := env.now }) s consumed with
            | none => (.error noReturn, sm)
            | some (.error e, sm) => (.error e, sm)
            | some (.ok (), sm) => (.ok wireMsg, sm)

end SessionManager

/-- The messages that begin a session, by the Noise pattern IK. -/
def handshakes (N : NoiseLibrary) (P : Primitives δ σ τ) (env : Env) : Handshakes δ σ τ where
  encryptNewSession := SessionManager.encryptNewSession N P env
  decryptIncomingNSR := SessionManager.decryptIncomingNSR N P env
  decryptNewSession := SessionManager.decryptNewSession N P env

end GoNoise.Ratchet
