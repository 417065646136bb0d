import GoNoise.SSU2.Session.EndpointFrames

/-!
# What leaves an endpoint in the clear

Everything that goes through `sendPacketDirect` or `sendNextNonceInline` is sealed, and with keys
for Data packets its header is protected. `SendToAddress` does neither: the block goes to the socket
as it is.
-/

namespace GoNoise.SSU2

open Trace

structure HeaderContext.DataProtector (ctx : HeaderContext) (hp : HeaderProtector) : Prop where
  headerType : hp.headerType = .data
  keys : ∃ hpm, ctx.headerProtector = some hpm ∧ hp.kHeader1 = hpm.remoteIntroKey ∧
    hp.kHeader2 = hpm.sendDataHeader2

def HeaderContext.HasDataKeys (ctx : HeaderContext) : Prop := ∃ hp, ctx.DataProtector hp

variable {ctx : HeaderContext} {hp : HeaderProtector}

/-- The header of a packet that is large enough is masked. -/
theorem HeaderContext.DataProtector.protectOr (h : ctx.DataProtector hp) {data : Bytes}
    (hmin : minPacketSize ≤ data.length) : ctx.protectOr data = hp.masked ctx.chacha20 data := by
  obtain ⟨htype, hpm, hctx, hkey₁, hkey₂⟩ := h
  obtain ⟨k₁, k₂, headerType, hlen₁, hlen₂⟩ := hp
  subst htype hkey₁ hkey₂
  set hp : HeaderProtector := ⟨hpm.remoteIntroKey, hpm.sendDataHeader2, .data, hlen₁, hlen₂⟩
  have hsize : hp.minSize ≤ data.length := hmin
  have hext : hp.extended ctx.chacha20 data = data := rfl
  have henc := hp.encryptHeader_eq ctx.chacha20 hsize
  have htype : messageTypeToHeaderType messageTypeData = .data := rfl
  rw [hext] at henc
  rw [HeaderContext.protectOr, applyOutboundHeaderProtection, hctx]
  dsimp only
  rw [htype, HeaderProtectorManager.encryptOutboundHeader_data ctx.chacha20 hlen₁ hlen₂, henc]
  rfl

/-- The payload is sealed with one call of the AEAD, with the packet number as nonce, and the header
of the datagram is masked. -/
def Emission.Secure (aead : Aead) (ctx : HeaderContext) (h₀ : SSU2Conn) (e : Emission) : Prop :=
  e.payload ≠ [] ∧ ∃ key x hp, ctx.DataProtector hp ∧
    e.encryptions = [⟨key, packetNonce e.packetNumber⟩] ∧
    e.data = hp.masked ctx.chacha20 (h₀.plainDatagram e.packetNumber x
      (h₀.sealedPayload aead key e.packetNumber e.payload))

theorem Emission.Sealed.secure {aead : Aead} {h₀ : SSU2Conn} {e : Emission}
    (h : e.Sealed aead ctx h₀) (hctx : ctx.DataProtector hp) : e.Secure aead ctx h₀ := by
  obtain ⟨key, x, hencryptions, hdata⟩ := h.data
  refine ⟨h.payload, key, x, hp, hctx, hencryptions, ?_⟩
  rw [hdata]
  exact hctx.protectOr
    (SSU2Conn.minPacketSize_le_sealed aead h₀ key e.packetNumber x h.payload)

namespace Endpoint

def Event.IsSendToAddress : Event → Prop
  | .sendToAddress .. => True
  | _ => False

/-- What was written so far is encrypted. -/
def AllEncrypted (s : Endpoint) : Prop := ∀ e ∈ s.emissions, e.encryptions ≠ []

section
variable {aead : Aead} {ctx : HeaderContext} {h₀ : SSU2Conn} {s : Endpoint}

theorem AllEncrypted.append {es : List Emission} (h : s.AllEncrypted)
    (hes : ∀ e ∈ es, e.encryptions ≠ []) : ∀ e ∈ s.emissions ++ es, e.encryptions ≠ [] :=
  fun e he => (List.mem_append.mp he).elim (h e) (hes e)

/-- Only `SendToAddress` writes something that is not encrypted. -/
theorem AllEncrypted.step (h : s.AllEncrypted) (hw : WellFormed aead ctx h₀ s) {e : Event}
    (he : ¬ e.IsSendToAddress) : (s.step aead ctx e).AllEncrypted := by
  cases e with
  | sendToAddress env block => exact absurd trivial he
  | emit env i =>
    show (s.emit ctx env i).AllEncrypted
    rcases emit_cases ctx env s i with heq | ⟨job, -, -, heq⟩ |
      ⟨job, packet, data, conn, hjob, -, -, -, heq⟩
    · rw [heq]
      exact h
    · rw [heq]
      exact h
    · obtain ⟨key, number, hencryptions, -⟩ := (hw.encrypted job (List.mem_of_getElem? hjob)).packet
      rw [heq]
      refine h.append (List.forall_mem_singleton.mpr ?_)
      rw [hencryptions]
      exact List.cons_ne_nil _ _
  | rekeySend env =>
    show (s.rekeySend aead ctx env).AllEncrypted
    rcases hw.rekeySend_cases env with ⟨conn, rekey, -, -, -, -, -, heq⟩ |
      ⟨cipher, newKey, data, -, -, -, -, heq⟩
    · rw [heq]
      exact h
    · rw [heq]
      exact h.append (List.forall_mem_singleton.mpr (List.cons_ne_nil _ _))
  | writeBlock | enqueue | abandon | take | immediateACK | terminate | encrypt | track | retransmit
  | rekeySwitch | receive | process | read | cleanup =>
    rw [AllEncrypted, (hw.frame _).emissions id]
    exact h

end

/-- **Everything is sealed and protected, but for `SendToAddress`.** In every run of a connection
that has its send cipher and its header keys, in which `SendToAddress` is not called, every Data
packet on the wire has its payload sealed and its header protected. -/
theorem emissions_secure (aead : Aead) {ctx : HeaderContext} {h₀ : SSU2Conn} (hready : Ready h₀)
    (hkeys : ctx.HasDataKeys) {es : List Event} (hes : ∀ e ∈ es, ¬ e.IsSendToAddress) :
    ∀ e ∈ (exec (step aead ctx) (start h₀) es).emissions, e.Secure aead ctx h₀ := by
  obtain ⟨hp, hctx⟩ := hkeys
  have hinv : WellFormed aead ctx h₀ (exec (step aead ctx) (start h₀) es) ∧
      (exec (step aead ctx) (start h₀) es).AllEncrypted := by
    refine exec_induct (P := fun _ e => ¬ e.IsSendToAddress)
      (I := fun s => WellFormed aead ctx h₀ s ∧ s.AllEncrypted)
      (fun s e hs he => ⟨hs.1.step e, hs.2.step hs.1 he⟩) ⟨.start hready, ?_⟩ ?_
    · intro e he
      cases he
    · exact always_iff.mpr fun pre e post hsplit =>
        hes e (hsplit ▸ List.mem_append_right _ List.mem_cons_self)
  intro e he
  rcases hinv.1.emissions e he with ⟨hsealed, -⟩ | ⟨hclear, -⟩
  · exact hsealed.secure hctx
  · exact absurd hclear (hinv.2 e he)

/-- A block is written, queued, encrypted and sent. -/
def sendOne : List Event :=
  [.writeBlock ⟨blockTypePadding, [0]⟩, .enqueue 0, .take, .encrypt 0, .emit .openSocket 0]

theorem ready_demo : Ready .demo := ready_establish _ _ _ _ _

theorem hasDataKeys_zeroKeys : HeaderContext.zeroKeys.HasDataKeys :=
  ⟨⟨List.replicate 32 0, List.replicate 32 0, .data, rfl, rfl⟩, rfl, _, rfl, rfl, rfl⟩

theorem emissions_secure_sendOne :
    (exec (step .zeroTag .zeroKeys) (start .demo) sendOne).emissions.length = 1 ∧
      ∀ e ∈ (exec (step .zeroTag .zeroKeys) (start .demo) sendOne).emissions,
        e.Secure .zeroTag .zeroKeys .demo := by
  refine ⟨by decide, emissions_secure .zeroTag ready_demo hasDataKeys_zeroKeys fun e he => ?_⟩
  simp only [sendOne, List.mem_cons, List.not_mem_nil, or_false] at he
  rcases he with rfl | rfl | rfl | rfl | rfl <;> exact id

/-- `SendToAddress` writes the block as it is, behind a header that is not protected either. -/
theorem sendToAddress_in_clear :
    ∃ e ∈ (exec (step .zeroTag .zeroKeys) (start .demo)
        [.sendToAddress .openSocket ⟨blockTypePadding, [1, 2, 3]⟩]).emissions,
      e.encryptions = [] ∧
        e.data = SSU2Conn.demo.sealedHeader 0 ++ [blockTypePadding, 0, 3, 1, 2, 3] ++
          List.replicate macSize 0 ∧
        ¬ e.Secure .zeroTag .zeroKeys .demo := by
  refine ⟨_, List.mem_cons_self, rfl, by decide, ?_⟩
  rintro ⟨-, key, x, hp, -, hencryptions, -⟩
  cases hencryptions

end Endpoint
end GoNoise.SSU2
