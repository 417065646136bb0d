import GoNoise.SSU2.Session.ConnParse

/-!
# Header keys of the two sides

The sender chooses the header keys by the type of the message. The receiver cannot read the type
before the header is decrypted, so it chooses by the state of the connection.
-/

namespace GoNoise.SSU2

namespace HeaderProtectorManager

/-! ## Mirrored managers -/

/-- Two managers of one handshake: the intro keys are crossed, and so are the directions of the data
phase. -/
structure Mirrored (a b : HeaderProtectorManager) : Prop where
  isInitiator : b.isInitiator = !a.isInitiator
  length_introKey : a.introKey.length = headerKeySize
  length_remoteIntroKey : a.remoteIntroKey.length = headerKeySize
  introKey : b.introKey = a.remoteIntroKey
  remoteIntroKey : b.remoteIntroKey = a.introKey
  sendDataHeader2 : b.sendDataHeader2 = a.recvDataHeader2
  recvDataHeader2 : b.recvDataHeader2 = a.sendDataHeader2
  sessCreateHeader2 : b.sessCreateHeader2 = a.sessCreateHeader2
  sessionConfirmedHeader2 : b.sessionConfirmedHeader2 = a.sessionConfirmedHeader2

variable {a b : HeaderProtectorManager} {hp : HeaderProtector} {t : HeaderType}

theorem Mirrored.symm (h : Mirrored a b) : Mirrored b a where
  isInitiator := by rw [h.isInitiator, Bool.not_not]
  length_introKey := by rw [h.introKey, h.length_remoteIntroKey]
  length_remoteIntroKey := by rw [h.remoteIntroKey, h.length_introKey]
  introKey := h.remoteIntroKey.symm
  remoteIntroKey := h.introKey.symm
  sendDataHeader2 := h.recvDataHeader2.symm
  recvDataHeader2 := h.sendDataHeader2.symm
  sessCreateHeader2 := h.sessCreateHeader2.symm
  sessionConfirmedHeader2 := h.sessionConfirmedHeader2.symm

/-! ## Equal keys for one type -/

/-- The types other than Data and HolePunch have the same keys on both sides. -/
theorem Mirrored.keysForType (h : Mirrored a b) (hdata : t ≠ .data)
    (hpunch : t ≠ .holePunch) : b.keysForType t = a.keysForType t := by
  have ha : ∀ code message, requireKey code message a.introKey = .ok a.introKey :=
    fun _ _ => requireKey_eq h.length_introKey
  have hb : ∀ code message, requireKey code message a.remoteIntroKey = .ok a.remoteIntroKey :=
    fun _ _ => requireKey_eq h.length_remoteIntroKey
  -- each table has a branch for the initiator, which takes the remote key, and one for the
  -- responder, which takes its own
  cases hrole : a.isInitiator <;> cases t <;>
    simp_all [HeaderProtectorManager.keysForType, keysForIntroProtected,
      keysForSessionCreatedRetry, keysForKDFProtected, h.isInitiator, h.introKey, h.remoteIntroKey,
      h.sessCreateHeader2, h.sessionConfirmedHeader2]

theorem Mirrored.getDataInboundKeys (h : Mirrored a b) {keys : Bytes × Bytes}
    (hkeys : a.keysForType .data = .ok keys) : b.getDataInboundKeys = .ok keys := by
  have hb : ∀ code message, requireKey code message a.remoteIntroKey = .ok a.remoteIntroKey :=
    fun _ _ => requireKey_eq h.length_remoteIntroKey
  rw [HeaderProtectorManager.getDataInboundKeys, h.introKey, h.recvDataHeader2]
  simp only [HeaderProtectorManager.keysForType, keysForKDFProtected, reduceCtorEq, if_false, hb]
    at hkeys ⊢
  by_cases hlen : a.sendDataHeader2.length = headerKeySize
  · rwa [requireKey_eq hlen] at hkeys ⊢
  · rw [requireKey, if_pos hlen] at hkeys
    cases hkeys

theorem Mirrored.keysForType_holePunch_iff (h : Mirrored a b) :
    b.keysForType .holePunch = a.keysForType .holePunch ↔ a.introKey = b.introKey := by
  rw [HeaderProtectorManager.keysForType, HeaderProtectorManager.keysForType, keysForHolePunch,
    keysForHolePunch, requireKey_eq h.length_remoteIntroKey,
    requireKey_eq h.symm.length_remoteIntroKey, h.remoteIntroKey, ← h.introKey]
  constructor
  · intro heq
    exact congrArg Prod.fst (Except.ok.inj heq)
  · intro heq
    rw [heq]

theorem getProtectorForType_eq_ok_iff :
    a.getProtectorForType t = .ok hp ↔
      ∃ keys, a.keysForType t = .ok keys ∧
        HeaderProtector.newHeaderProtector keys.1 keys.2 t = .ok hp := by
  rw [getProtectorForType]
  cases a.keysForType t with
  | error e =>
    refine ⟨(fun h => by cases h), ?_⟩
    rintro ⟨keys, ⟨⟩, -⟩
  | ok keys =>
    refine ⟨fun h => ⟨keys, rfl, h⟩, ?_⟩
    rintro ⟨keys, ⟨⟩, h⟩
    exact h

theorem headerType_of_inboundProtector (h : b.inboundProtector t = .ok hp) : hp.headerType = t := by
  rw [inboundProtector] at h
  split_ifs at h with htype
  · cases hkeys : b.getDataInboundKeys with
    | error e =>
      rw [hkeys] at h
      cases h
    | ok keys =>
      rw [hkeys] at h
      exact HeaderProtector.headerType_of_newHeaderProtector h
  · exact b.headerType_of_getProtectorForType h

theorem Mirrored.inboundProtector (h : Mirrored a b) (hpunch : t ≠ .holePunch)
    (ha : a.getProtectorForType t = .ok hp) : b.inboundProtector t = .ok hp := by
  rw [HeaderProtectorManager.inboundProtector]
  split_ifs with htype
  · subst htype
    obtain ⟨keys, hkeys, hnew⟩ := getProtectorForType_eq_ok_iff.mp ha
    rw [h.getDataInboundKeys hkeys]
    exact hnew
  · rwa [getProtectorForType, h.keysForType htype hpunch]

end HeaderProtectorManager

/-! ## The choice of the receiver -/

namespace HeaderContext

open HeaderProtectorManager

/-- The contexts of the two sides of one handshake. -/
structure Peers (sender receiver : HeaderContext) (a b : HeaderProtectorManager) : Prop where
  outbound : sender.headerProtector = some a
  inbound : receiver.headerProtector = some b
  initiator : receiver.initiator = b.isInitiator
  chacha20 : receiver.chacha20 = sender.chacha20
  mirrored : Mirrored a b

/-- The receiver, in its state, has the type and the keys of the sender. A HolePunch packet is not
for a connection, so there the question is about the keys only. -/
def Agree (receiver : HeaderContext) (a b : HeaderProtectorManager) (state : ConnState)
    (t : HeaderType) : Prop :=
  match t with
  | .holePunch => b.keysForType .holePunch = a.keysForType .holePunch
  | t => b.inboundProtector (receiver.expectedInboundHeaderType state) = a.getProtectorForType t

/-- The messages that the receiver is ready for: one type for each role before the connection is
established, and Data after that. -/
def Expects (a b : HeaderProtectorManager) (state : ConnState) : HeaderType → Prop
  | .sessionRequest => a.isInitiator = true ∧ state ≠ .established
  | .sessionCreated => a.isInitiator = false ∧ state ≠ .established
  | .data => state = .established
  | .holePunch => a.introKey = b.introKey
  | .retry | .tokenRequest | .sessionConfirmed | .peerTest => False

variable {sender receiver : HeaderContext} {a b : HeaderProtectorManager} {state : ConnState}

/-- A connection expects the type that the tables above say. -/
theorem Peers.expectedInboundHeaderType_iff (hp : Peers sender receiver a b) {t : HeaderType}
    (hpunch : t ≠ .holePunch) :
    receiver.expectedInboundHeaderType state = t ↔ Expects a b state t := by
  have hinitiator : receiver.initiator = !a.isInitiator := by
    rw [hp.initiator, hp.mirrored.isInitiator]
  rw [expectedInboundHeaderType, hinitiator]
  cases hrole : a.isInitiator <;> cases t <;> by_cases hstate : state = .established <;>
    simp_all [Expects]

theorem Peers.getProtectorForType (hp : Peers sender receiver a b) {messageType : UInt8}
    {packet encrypted : Bytes}
    (hsent : sender.applyOutboundHeaderProtection messageType packet = .ok encrypted) :
    ∃ protector, a.getProtectorForType (messageTypeToHeaderType messageType) = .ok protector ∧
      protector.encryptHeader sender.chacha20 packet = .ok encrypted := by
  rw [applyOutboundHeaderProtection, hp.outbound] at hsent
  dsimp only at hsent
  rw [encryptOutboundHeader] at hsent
  cases hget : a.getProtectorForType (messageTypeToHeaderType messageType) with
  | error e =>
    rw [hget] at hsent
    cases hsent
  | ok protector =>
    rw [hget] at hsent
    refine ⟨protector, rfl, ?_⟩
    dsimp only [bind, Except.bind] at hsent
    cases hencrypt : protector.encryptHeader sender.chacha20 packet with
    | error e =>
      rw [hencrypt] at hsent
      cases hsent
    | ok data =>
      rw [hencrypt] at hsent
      exact hsent

/-- The managers of the two sides after the handshake, with intro keys of ones and twos. -/
def demoManager (isInitiator : Bool) : HeaderProtectorManager where
  introKey := List.replicate 32 (if isInitiator then 1 else 2)
  remoteIntroKey := List.replicate 32 (if isInitiator then 2 else 1)
  sendDataHeader2 := List.replicate 32 (if isInitiator then 3 else 4)
  recvDataHeader2 := List.replicate 32 (if isInitiator then 4 else 3)
  sessCreateHeader2 := List.replicate 32 5
  sessionConfirmedHeader2 := List.replicate 32 6
  isInitiator := isInitiator

def demoSide (isInitiator : Bool) : HeaderContext :=
  { zeroKeys with headerProtector := some (demoManager isInitiator), initiator := isInitiator }

theorem peers_demo (isInitiator : Bool) :
    Peers (demoSide isInitiator) (demoSide !isInitiator) (demoManager isInitiator)
      (demoManager !isInitiator) where
  outbound := rfl
  inbound := rfl
  initiator := rfl
  chacha20 := rfl
  mirrored := by cases isInitiator <;> exact ⟨rfl, rfl, rfl, rfl, rfl, rfl, rfl, rfl, rfl⟩

/-- **Header key agreement.** For every message that the sender protects, the receiver has its
header type and its keys exactly if it is ready for that message. -/
theorem header_keys_agree_iff (hp : Peers sender receiver a b) {messageType : UInt8}
    {packet encrypted : Bytes}
    (hsent : sender.applyOutboundHeaderProtection messageType packet = .ok encrypted)
    (state : ConnState) :
    receiver.Agree a b state (messageTypeToHeaderType messageType) ↔
      Expects a b state (messageTypeToHeaderType messageType) := by
  obtain ⟨protector, hget, -⟩ := hp.getProtectorForType hsent
  generalize messageTypeToHeaderType messageType = t at hget
  by_cases hpunch : t = .holePunch
  · subst hpunch
    exact hp.mirrored.keysForType_holePunch_iff
  have hagree : receiver.Agree a b state t ↔
      b.inboundProtector (receiver.expectedInboundHeaderType state) = .ok protector := by
    rw [← hget]
    cases t <;> first | rfl | exact absurd rfl hpunch
  rw [hagree, ← hp.expectedInboundHeaderType_iff hpunch]
  constructor
  · intro heq
    rw [← headerType_of_inboundProtector heq, a.headerType_of_getProtectorForType hget]
  · rintro rfl
    exact hp.mirrored.inboundProtector hpunch hget

/-- SessionCreated, to an initiator that waits for it. -/
theorem header_keys_agree_sessionCreated :
    (demoSide false).applyOutboundHeaderProtection messageTypeSessionCreated
        (List.replicate 64 7) = .ok (List.replicate 64 7) ∧
      (demoSide true).Agree (demoManager false) (demoManager true) .handshaking
        (messageTypeToHeaderType messageTypeSessionCreated) := by
  have hsent : (demoSide false).applyOutboundHeaderProtection messageTypeSessionCreated
      (List.replicate 64 7) = .ok (List.replicate 64 7) := by decide
  refine ⟨hsent, (header_keys_agree_iff (peers_demo false) hsent .handshaking).mpr ?_⟩
  exact ⟨rfl, by decide⟩

/-- Retry, SessionConfirmed and HolePunch are protected, and the receiver, in its handshake, has
other keys. -/
theorem header_keys_disagree :
    (∃ encrypted, (demoSide false).applyOutboundHeaderProtection messageTypeRetry
        (List.replicate 64 7) = .ok encrypted) ∧
      ¬ (demoSide true).Agree (demoManager false) (demoManager true) .handshaking
        (messageTypeToHeaderType messageTypeRetry) ∧
      (∃ encrypted, (demoSide true).applyOutboundHeaderProtection messageTypeSessionConfirmed
        (List.replicate 64 7) = .ok encrypted) ∧
      ¬ (demoSide false).Agree (demoManager true) (demoManager false) .handshaking
        (messageTypeToHeaderType messageTypeSessionConfirmed) ∧
      (∃ encrypted, (demoSide true).applyOutboundHeaderProtection messageTypeHolePunch
        (List.replicate 64 7) = .ok encrypted) ∧
      ¬ (demoSide false).Agree (demoManager true) (demoManager false) .handshaking
        (messageTypeToHeaderType messageTypeHolePunch) := by
  refine ⟨⟨List.replicate 64 7, by decide⟩, fun hretry => ?_, ⟨List.replicate 64 7, by decide⟩,
    fun hconfirmed => ?_, ⟨List.replicate 64 7, by decide⟩, fun hpunch => ?_⟩
  · have hkey := congrArg (Except.map HeaderProtector.kHeader2) hretry
    exact absurd hkey (by decide)
  · have hkey := congrArg (Except.map HeaderProtector.kHeader2) hconfirmed
    exact absurd hkey (by decide)
  · change (demoManager false).keysForType .holePunch = (demoManager true).keysForType .holePunch
      at hpunch
    exact absurd hpunch (by decide)

end HeaderContext
end GoNoise.SSU2
