import GoNoise.Conn.Handshake

/-!
# What the operations of a core connection do to its modifiers

Connections can share their modifiers. An operation uses them through the modifier chain, and
`Close` closes them.
-/

namespace GoNoise.Conn

open ByteStream Handshake Noise

structure ClosedUnderUse {μ : Type} (M : HandshakeModifier μ) (Q : List μ → Prop) : Prop where
  outbound : ∀ phase data ms, Q ms → Q (ModifierChain.modifyOutbound M phase data ms).2
  inbound : ∀ phase data ms, Q ms → Q (ModifierChain.modifyInbound M phase data ms).2

namespace NoiseConn

/-- `Close`. `closeModifier` is `Close` of the modifiers, `zeroKey` is `ZeroKey` of the cipher
states, and `err` is what `Close` of the underlying connection returns. -/
def close {μ : Type} (closeModifier : μ → μ) (zeroKey : CipherState → CipherState)
    (err : Option Oops) (nc : NoiseConn μ) : Option Oops × NoiseConn μ :=
  if nc.state = .closed then (none, nc)
  else
    let zeroed := nc.privateStaticKey.map fun _ => 0
    (err.map fun e => (e.wrapf "failed to close underlying connection").wrap
        "UNDERLYING_CLOSE_FAILED" "noise" [],
      { nc with
        state := .closed
        sendCipherState := nc.sendCipherState.map zeroKey
        recvCipherState := nc.recvCipherState.map zeroKey
        modifiers := nc.modifiers.map closeModifier
        privateStaticKey := zeroed
        -- the handshake state holds the same slice
        handshakeState := { nc.handshakeState with
          s := { nc.handshakeState.s with
            privateKey := nc.handshakeState.s.privateKey.map fun _ => 0 } } })

def KeepsModifiers {μ α : Type} (Q : List μ → Prop) (x : Call (NoiseConn μ) Oops α) : Prop :=
  ∀ nc, Q nc.modifiers → Q (x nc).2.modifiers

section
variable {μ α β : Type} {Q : List μ → Prop} (S : Suite Oops) (cs : CipherState) (data : Bytes)
  (nc : NoiseConn μ)

theorem keepsModifiers_bind {x : Call (NoiseConn μ) Oops α} {f : α → Call (NoiseConn μ) Oops β}
    (hx : KeepsModifiers Q x) (hf : ∀ a, KeepsModifiers Q (f a)) : KeepsModifiers Q (x >>= f) := by
  intro nc hQ
  have hnext := hx nc hQ
  rcases hresult : x nc with ⟨a | e | _, nc'⟩
  · rw [hresult] at hnext
    rw [Call.bind_apply_ok hresult]
    exact hf a nc' hnext
  · rw [hresult] at hnext
    rw [Call.bind_apply_error hresult]
    exact hnext
  · rw [hresult] at hnext
    rw [Call.bind_apply_waiting hresult]
    exact hnext

theorem keepsModifiers_ofExcept (x : Except Oops α) :
    KeepsModifiers Q (Call.ofExcept x : Call (NoiseConn μ) Oops α) := by
  intro nc hQ
  cases x <;> exact hQ

theorem keepsModifiers_ofState {f : NoiseConn μ → Except Oops α × NoiseConn μ}
    (h : ∀ nc, Q nc.modifiers → Q (f nc).2.modifiers) : KeepsModifiers Q (Call.ofState f) :=
  fun nc hQ => keepsModifiers_ofExcept _ _ (h nc hQ)

theorem keepsModifiers_readFramedMessage :
    KeepsModifiers Q (readFramedMessage : Call (NoiseConn μ) Oops Bytes) := by
  intro nc hQ
  obtain ⟨t, ht⟩ := readFramedMessage_underlying nc
  rw [ht]
  exact hQ

theorem writeFramedMessage_modifiers
    (outcomes : Option (ℕ × Option Oops) × Option (ℕ × Option Oops)) (data : Bytes)
    (nc : NoiseConn μ) : (nc.writeFramedMessage outcomes data).2.modifiers = nc.modifiers := by
  obtain ⟨t, ht⟩ := writeFramedMessage_underlying outcomes data nc
  rw [ht]

theorem updateCipherStates_modifiers (cs : Option (CipherState × CipherState)) (nc : NoiseConn μ) :
    (nc.updateCipherStates cs).modifiers = nc.modifiers := by
  obtain ⟨send, recv, h⟩ := updateCipherStates_eq cs nc
  rw [h]

theorem resetHandshakeState_modifiers (P : Primitives) (nc : NoiseConn μ) :
    (nc.resetHandshakeState P).modifiers = nc.modifiers := by
  unfold resetHandshakeState
  split <;> rfl

theorem encryptData_modifiers : (nc.encryptData S cs data).2.modifiers = nc.modifiers := by
  unfold encryptData
  split <;> rfl

theorem encrypt_modifiers : (nc.encrypt S data).2.modifiers = nc.modifiers := by
  unfold encrypt
  split
  · rfl
  · exact encryptData_modifiers ..

theorem decryptData_modifiers : (nc.decryptData S cs data).2.modifiers = nc.modifiers := by
  unfold decryptData
  split <;> rfl

theorem decrypt_modifiers : (nc.decrypt S data).2.modifiers = nc.modifiers := by
  unfold decrypt
  split
  · rfl
  · exact decryptData_modifiers ..

end

section
variable {μ : Type} {Q : List μ → Prop} {P : Primitives} {M : HandshakeModifier μ}
  {env : HandshakeEnv} {S : Suite Oops} {nc : NoiseConn μ}

section
variable (hQ : ClosedUnderUse M Q) (phase : HandshakePhase) (data : Bytes) (label : String)
include hQ

theorem applyOutbound_modifiers
    (hnc : Q nc.modifiers) : Q (nc.applyOutbound M phase data).2.modifiers :=
  hQ.outbound phase data nc.modifiers hnc

theorem applyInbound_modifiers
    (hnc : Q nc.modifiers) : Q (nc.applyInbound M phase data).2.modifiers :=
  hQ.inbound phase data nc.modifiers hnc

theorem keepsModifiers_sendNoiseHandshakeMsg (i : ℕ) (phase : HandshakePhase) (label : String) :
    KeepsModifiers Q (sendNoiseHandshakeMsg P M env i phase label) := by
  intro nc hnc
  unfold sendNoiseHandshakeMsg
  split
  · exact hnc
  next msg cs hs hwrite =>
    have hout := applyOutbound_modifiers hQ phase msg
      (show Q ({ nc with handshakeState := hs } : NoiseConn μ).modifiers from hnc)
    generalize ({ nc with handshakeState := hs } : NoiseConn μ).applyOutbound M phase msg = result
      at hout
    obtain ⟨_ | out, nc'⟩ := result
    · exact hout
    · dsimp only at hout ⊢
      rw [← writeFramedMessage_modifiers (env.outcomes i) out nc'] at hout
      generalize writeFramedMessage (env.outcomes i) out nc' = result at hout
      obtain ⟨_ | _, nc''⟩ := result
      · exact hout
      · rw [updateCipherStates_modifiers]
        exact hout

theorem processNoiseHandshakeMsg_modifiers (buffer : Bytes) (hnc : Q nc.modifiers) :
    Q (processNoiseHandshakeMsg P M phase label buffer nc).2.modifiers := by
  have hin := applyInbound_modifiers hQ phase buffer hnc
  unfold processNoiseHandshakeMsg
  generalize nc.applyInbound M phase buffer = result at hin
  obtain ⟨_ | data, nc'⟩ := result
  · exact hin
  · dsimp only
    split
    · exact hin
    · rw [updateCipherStates_modifiers]
      exact hin

theorem keepsModifiers_receiveNoiseHandshakeMsg
    : KeepsModifiers Q (receiveNoiseHandshakeMsg P M phase label) := by
  intro nc hnc
  have hread := keepsModifiers_readFramedMessage nc hnc
  unfold receiveNoiseHandshakeMsg
  generalize readFramedMessage nc = result at hread
  obtain ⟨buffer | e | _, nc'⟩ := result
  · exact keepsModifiers_ofState
      (fun _ h => processNoiseHandshakeMsg_modifiers hQ phase label buffer h) nc' hread
  · exact hread
  · exact hread

theorem keepsModifiers_exchange (sends : Bool) (i : ℕ) (phase : HandshakePhase) (label : String) :
    KeepsModifiers Q (exchange P M env sends i phase label) := by
  unfold exchange
  split_ifs
  · exact keepsModifiers_sendNoiseHandshakeMsg hQ i phase label
  · exact keepsModifiers_receiveNoiseHandshakeMsg hQ phase label

theorem keepsModifiers_handlers {name : String} {handler : Call (NoiseConn μ) Oops Unit}
    (h : initiatorHandlers P M env name = some handler ∨
      responderHandlers P M env name = some handler) : KeepsModifiers Q handler :=
  handlers_induct (keepsModifiers_exchange hQ)
    (fun _ _ hx hy => keepsModifiers_bind hx fun _ => hy) h

end

theorem keepsModifiers_performWith {handlers : String → Option (Call (NoiseConn μ) Oops Unit)}
    (h : ∀ name handler, handlers name = some handler → KeepsModifiers Q handler)
    (f : Oops → Oops) : KeepsModifiers Q (mapError f (performWith handlers)) := by
  intro nc hnc
  have hperform : Q (performWith handlers nc).2.modifiers := by
    unfold performWith
    split
    next handler hhandler => exact h _ handler hhandler nc hnc
    · exact hnc
  unfold mapError
  generalize performWith handlers nc = result at hperform
  obtain ⟨_ | _ | _, nc'⟩ := result <;> exact hperform

section
variable (hQ : ClosedUnderUse M Q) (deadline : Option Oops)
include hQ

variable (P env) in
theorem keepsModifiers_executeRoleBasedHandshake :
    KeepsModifiers Q (executeRoleBasedHandshake P M env) := by
  intro nc hnc
  unfold executeRoleBasedHandshake
  cases env.deadline with
  | some e => exact hnc
  | none =>
    split_ifs
    · exact keepsModifiers_performWith (fun _ _ h => keepsModifiers_handlers hQ (.inl h)) _ nc hnc
    · exact keepsModifiers_performWith (fun _ _ h => keepsModifiers_handlers hQ (.inr h)) _ nc hnc

/-- Handshakes. The hook does not end the property either. -/
theorem keepsModifiers_handshake {hook : Option (NoiseConn μ → Option Oops × List μ)}
    (hhook : ∀ run, hook = some run → ∀ nc, Q nc.modifiers → Q (run nc).2) :
    KeepsModifiers Q (handshake P M env hook) := by
  intro nc hnc
  have hexecute := keepsModifiers_executeRoleBasedHandshake P env hQ
    { nc with state := .handshaking } hnc
  unfold handshake
  split_ifs
  · exact hnc
  generalize executeRoleBasedHandshake P M env { nc with state := .handshaking } = result
    at hexecute
  obtain ⟨_ | e | _, nc'⟩ := result
  · cases hook with
    | none => exact hexecute
    | some run =>
      have hrun := hhook run rfl nc' hexecute
      dsimp only
      generalize run nc' = result at hrun
      obtain ⟨_ | _, ms⟩ := result <;> exact hrun
  · rw [resetHandshakeState_modifiers]
    exact hexecute
  · exact hexecute

theorem write_modifiers (outcomes : Option (ℕ × Option Oops) × Option (ℕ × Option Oops)) (b : Bytes)
    (hnc : Q nc.modifiers) : Q (nc.write S M deadline outcomes b).2.modifiers := by
  unfold write
  split
  · exact hnc
  · exact hnc
  next cs hvalid hdeadline =>
    have hout := applyOutbound_modifiers hQ .data b hnc
    generalize nc.applyOutbound M .data b = result at hout
    obtain ⟨_ | out, nc'⟩ := result
    · exact hout
    · dsimp only at hout ⊢
      rw [← encryptData_modifiers S cs out nc'] at hout
      generalize encryptData S cs out nc' = result at hout
      obtain ⟨_ | encrypted, nc'⟩ := result
      · exact hout
      · dsimp only at hout ⊢
        rw [← writeFramedMessage_modifiers outcomes encrypted nc'] at hout
        generalize writeFramedMessage outcomes encrypted nc' = result at hout
        obtain ⟨_ | _, nc'⟩ := result <;> exact hout

theorem keepsModifiers_read (k : ℕ) : KeepsModifiers Q (read S M deadline k) := by
  refine keepsModifiers_bind (fun nc hnc => hnc) fun nc => ?_
  refine keepsModifiers_bind (keepsModifiers_ofExcept _) fun cs => ?_
  split
  · exact fun nc hnc => hnc
  split_ifs
  · exact keepsModifiers_bind (fun nc hnc => hnc) fun _ nc hnc => hnc
  refine keepsModifiers_bind keepsModifiers_readFramedMessage fun encrypted => ?_
  refine keepsModifiers_bind (keepsModifiers_ofState fun nc hnc => ?_) fun decrypted => ?_
  · rw [decryptData_modifiers]
    exact hnc
  refine keepsModifiers_bind
    (keepsModifiers_ofState fun nc hnc => applyInbound_modifiers hQ .data decrypted hnc) fun _ => ?_
  exact keepsModifiers_bind (fun nc hnc => hnc) fun _ nc hnc => hnc

theorem writeHandshakeMsgToBytes_modifiers (ephemeral : Bytes) (phase : HandshakePhase)
    (payload : Bytes) (hnc : Q nc.modifiers) :
    Q (nc.writeHandshakeMsgToBytes P M ephemeral phase payload).2.modifiers := by
  unfold writeHandshakeMsgToBytes
  split
  · exact hnc
  next msg cs hs hwrite =>
    have hout := hQ.outbound phase msg nc.modifiers hnc
    dsimp only [applyOutbound]
    generalize ModifierChain.modifyOutbound M phase msg nc.modifiers = result at hout
    obtain ⟨_ | out, ms⟩ := result
    · exact hout
    · rw [updateCipherStates_modifiers]
      exact hout

theorem readHandshakeMsgFromBytes_modifiers (phase : HandshakePhase) (wireData : Bytes)
    (hnc : Q nc.modifiers) : Q (nc.readHandshakeMsgFromBytes P M phase wireData).2.modifiers := by
  have hin := applyInbound_modifiers hQ phase wireData hnc
  unfold readHandshakeMsgFromBytes
  generalize nc.applyInbound M phase wireData = result at hin
  obtain ⟨_ | data, nc'⟩ := result
  · exact hin
  · dsimp only
    split
    · exact hin
    · rw [updateCipherStates_modifiers]
      exact hin

end

end
end NoiseConn
end GoNoise.Conn
