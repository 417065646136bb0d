import GoNoise.Ratchet.SessionManager

/-!
# `ratchet/session_encrypt.go`, `ratchet/session_decrypt.go`: garlic messages

`EncryptGarlicMessage` uses the session of a destination if there is one. `DecryptGarlicMessage`
tries what a message can be in turn: a tag of a session, a tag of a New Session Reply, a tag of a
one-time key, and last a New Session message. The messages that begin a session are a parameter
here (`Handshakes`).
-/

namespace GoNoise.Ratchet

variable {δ σ τ : Type}

/-- The messages that begin a session. -/
structure Handshakes (δ σ τ : Type) where
  /-- `encryptNewSession`: destination hash, public key and plaintext -/
  encryptNewSession : Key → Key → Bytes → SessionManager δ σ τ →
    Except Oops Bytes × SessionManager δ σ τ
  decryptIncomingNSR : ℕ → Bytes → SessionManager δ σ τ →
    Except Oops Bytes × SessionManager δ σ τ
  /-- `decryptNewSession`: plaintext and session hash -/
  decryptNewSession : Bytes → SessionManager δ σ τ →
    Except Oops (Bytes × Option Key) × SessionManager δ σ τ

namespace SessionManager

variable (P : Primitives δ σ τ) (H : Handshakes δ σ τ)

/-! ## Sending -/

def encryptGarlicMessage (now : Time) (destinationHash destinationPubKey : Key)
    (plaintextGarlic : Bytes) (sm : SessionManager δ σ τ) :
    Except Oops Bytes × SessionManager δ σ τ :=
  if plaintextGarlic.length = 0 then
    (.error (.errorf
      "plaintext must be non-empty: garlic messages require at least one payload block"), sm)
  else
    match sm.sessions.lookup destinationHash with
    | none => H.encryptNewSession destinationHash destinationPubKey plaintextGarlic sm
    | some p =>
      match sm.heap.lookup p with
      | none => H.encryptNewSession destinationHash destinationPubKey plaintextGarlic sm
      | some s =>
        let encrypted := s.encryptExistingSession P now plaintextGarlic
        (encrypted.1, { sm with heap := sm.heap.insert p encrypted.2 })

/-! ## Receiving -/

/-- `tryDecryptNSR`: `none` if the tag is not that of a reply. -/
def tryDecryptNSR (msgTag : Tag) (encryptedGarlic : Bytes) (sm : SessionManager δ σ τ) :
    Option (Except Oops Bytes) × SessionManager δ σ τ :=
  match sm.nsrTagIndex.lookup msgTag with
  | none => (none, sm)
  | some p =>
    let sm := { sm with nsrTagIndex := sm.nsrTagIndex.erase msgTag }
    let sm :=
      match sm.heap.lookup p with
      | none => sm
      | some s =>
        if s.nsrTag = some msgTag then
          { sm with heap := sm.heap.insert p { s with nsrTag := none } }
        else sm
    let decrypted := H.decryptIncomingNSR p encryptedGarlic sm
    (some decrypted.1, decrypted.2)

/-- `tryDecryptOneTimeKey`: `none` if the tag is not that of a one-time key. -/
def tryDecryptOneTimeKey (msgTag : Tag) (msg : Bytes) (sm : SessionManager δ σ τ) :
    Option (Except Oops Bytes) × SessionManager δ σ τ :=
  match sm.oneTimeKeys.lookup msgTag with
  | none => (none, sm)
  | some key =>
    let sm := { sm with oneTimeKeys := sm.oneTimeKeys.erase msgTag }
    let body := msg.drop 8
    if body.length < 16 then
      (some (.error (.errorf
        s!"one-time garlic message body too short: {body.length} bytes")), sm)
    else
      match P.newAEAD key with
      | .error e => (some (.error (e.wrapf "failed to create one-time key AEAD")), sm)
      | .ok aead =>
        match aead.decrypt (body.take (body.length - 16)) (body.drop (body.length - 16))
          (msg.take 8) (List.replicate 12 0) with
        | .error e => (some (.error (e.wrapf "one-time garlic decryption failed")), sm)
        | .ok plaintext => (some (.ok plaintext), sm)

/-- `[8]byte{}` -/
def zeroTag : Tag := .copyFrom 8 []

/-- `DecryptGarlicMessage`, with the clock: plaintext, session tag and session hash. -/
def decryptGarlicMessage (now : Time) (encryptedGarlic : Bytes) (sm : SessionManager δ σ τ) :
    Except Oops (Bytes × Tag × Option Key) × SessionManager δ σ τ :=
  if encryptedGarlic.length < 8 then
    (.error (.errorf s!"encrypted garlic message too short: {encryptedGarlic.length} bytes"), sm)
  else
    let msgTag : Tag := .copyFrom 8 (encryptedGarlic.take 8)
    match sm.tryDecryptExisting P now msgTag encryptedGarlic with
    | (some (.error e), sm) => (.error e, sm)
    | (some (.ok (plaintext, sessionTag)), sm) => (.ok (plaintext, sessionTag, none), sm)
    | (none, sm) =>
      match sm.tryDecryptNSR H msgTag encryptedGarlic with
      | (some (.error e), sm) => (.error e, sm)
      | (some (.ok plaintext), sm) => (.ok (plaintext, zeroTag, none), sm)
      | (none, sm) =>
        match sm.tryDecryptOneTimeKey P msgTag encryptedGarlic with
        | (some (.error e), sm) => (.error e, sm)
        | (some (.ok plaintext), sm) => (.ok (plaintext, zeroTag, none), sm)
        | (none, sm) =>
          match H.decryptNewSession encryptedGarlic sm with
          | (.error e, sm) => (.error (e.wrapf "failed to decrypt garlic message"), sm)
          | (.ok (plaintext, sessionHash), sm) => (.ok (plaintext, zeroTag, sessionHash), sm)

/-! ## Next Key blocks of the peer -/

def lookupLockedSession (sessionTag : Tag) (sm : SessionManager δ σ τ) :
    Except Oops (ℕ × Session δ σ τ) :=
  match sm.tagIndex.lookup sessionTag with
  | none => .error (.errorf s!"no session found for tag {hex sessionTag.val}")
  | some p =>
    match sm.heap.lookup p with
    | none => .error (.errorf s!"no session found for tag {hex sessionTag.val}")
    | some s => .ok (p, s)

def processReceivedNextKey (sessionTag : Tag) (info : NextKeyInfo) (sm : SessionManager δ σ τ) :
    Except Oops Unit × SessionManager δ σ τ :=
  match sm.lookupLockedSession sessionTag with
  | .error e => (.error e, sm)
  | .ok (p, s) =>
    let processed := s.processNextKey P info
    (processed.1, { sm with heap := sm.heap.insert p processed.2 })

def processIncomingDHRatchet (sessionTag : Tag) (newRemotePubKey : Key)
    (sm : SessionManager δ σ τ) : Except Oops Unit × SessionManager δ σ τ :=
  match sm.lookupLockedSession sessionTag with
  | .error e => (.error e, sm)
  | .ok (p, s) =>
    let processed := s.applyIncomingDHKey P newRemotePubKey
    (processed.1, { sm with heap := sm.heap.insert p processed.2 })

/-- The caller of `DecryptGarlicMessage` hands the Next Key blocks of a plaintext on; it can do no
more than log an error. -/
def applyNextKeys (sessionTag : Tag) (plaintext : Bytes) (sm : SessionManager δ σ τ) :
    SessionManager δ σ τ :=
  match parsePayload plaintext with
  | .error _ => sm
  | .ok blocks =>
    blocks.foldl (fun sm block =>
      match block.nextKey with
      | .error _ => sm
      | .ok info => (sm.processReceivedNextKey P sessionTag info).2) sm

variable {P H} {sm sm' : SessionManager δ σ τ} {now : Time} {msg plaintext : Bytes}
  {sessionTag : Tag} {e : Oops}

theorem existing_of_decryptGarlicMessage {sessionHash : Option Key}
    (hexisting : (sm.tryDecryptExisting P now (.copyFrom 8 (msg.take 8)) msg).1.isSome)
    (h : sm.decryptGarlicMessage P H now msg = (.ok (plaintext, sessionTag, sessionHash), sm')) :
    sm.tryDecryptExisting P now (.copyFrom 8 (msg.take 8)) msg =
      (some (.ok (plaintext, sessionTag)), sm') := by
  unfold decryptGarlicMessage at h
  split_ifs at h
  · cases h
  dsimp only at h
  split at h
  · cases h
  next heq =>
    cases h
    exact heq
  next heq =>
    rw [heq] at hexisting
    cases hexisting

theorem applyNextKeys_of_unknown (h : sm.tagIndex.lookup sessionTag = none) :
    sm.applyNextKeys P sessionTag plaintext = sm := by
  have hblock : ∀ info, (sm.processReceivedNextKey P sessionTag info).2 = sm := by
    intro info
    unfold processReceivedNextKey lookupLockedSession
    rw [h]
  unfold applyNextKeys
  split
  · rfl
  · refine List.foldl_fixed' (fun block => ?_) _
    split
    · rfl
    · exact hblock _

/-! ## A pair to run -/

/-- The manager of one side after the handshake: one session, at address 0, with the keys of a New
Session Reply. -/
def counting (isInitiator : Bool) : SessionManager ℕ (ℕ × ℕ) (ℕ × ℕ) :=
  let empty := newSessionManager (.ofNat 32 8) (.ofNat 32 9) (5 * minute) (2 * minute)
  let keys : SessionKeys := ⟨.ofNat 32 1, .ofNat 32 2⟩
  match createSession countingPrimitives 0 (.ofNat 32 9) keys (.ofNat 32 8) isInitiator with
  | .error _ => empty
  | .ok s =>
    match applyNSRKeysToSessionWhileLocked countingPrimitives (tagWindowSize + 1) 0
      ⟨.ofNat 32 3, .ofNat 32 5⟩ isInitiator (s, empty) with
    | some (.ok (), s, sm) =>
      { sm with heap := sm.heap.insert 0 s, sessions := sm.sessions.insert (.ofNat 32 7) 0 }
    | _ => empty

/-- No message begins a session. -/
def noHandshakes : Handshakes δ σ τ where
  encryptNewSession _ _ _ sm := (.error (.errorf "no new sessions"), sm)
  decryptIncomingNSR _ _ sm := (.error (.errorf "no new sessions"), sm)
  decryptNewSession _ sm := (.error (.errorf "no new sessions"), sm)

def countingSend (plaintext : Bytes) (sm : SessionManager ℕ (ℕ × ℕ) (ℕ × ℕ)) :
    Except Oops Bytes × SessionManager ℕ (ℕ × ℕ) (ℕ × ℕ) :=
  sm.encryptGarlicMessage countingPrimitives noHandshakes 0 (.ofNat 32 7) (.ofNat 32 9) plaintext

def countingReceive (msg : Bytes) (sm : SessionManager ℕ (ℕ × ℕ) (ℕ × ℕ)) :
    Except Oops (Bytes × Tag × Option Key) × SessionManager ℕ (ℕ × ℕ) (ℕ × ℕ) :=
  sm.decryptGarlicMessage countingPrimitives noHandshakes 0 msg

end SessionManager
end GoNoise.Ratchet
