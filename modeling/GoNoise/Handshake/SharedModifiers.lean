import GoNoise.Handshake.BasicModifiers

/-!
# Modifiers that several connections use
-/

namespace GoNoise

namespace Handshake.Modifier

mutual

def xors : Modifier → List XORModifier
  | .xor xm => [xm]
  | .padding _ _ => []
  | .chain _ ms => xorsAll ms

def xorsAll : List Modifier → List XORModifier
  | [] => []
  | m :: ms => xors m ++ xorsAll ms

end

mutual

/-- The padding gets what the random source gives, by its place in the chains. -/
def supply (draws : List ℕ → ℕ → PaddingDraw) (path : List ℕ) : Modifier → Modifier
  | .xor xm => .xor xm
  | .padding pm _ => .padding pm (draws path)
  | .chain name ms => .chain name (supplyAll draws path 0 ms)

def supplyAll (draws : List ℕ → ℕ → PaddingDraw) (path : List ℕ) : ℕ → List Modifier → List Modifier
  | _, [] => []
  | i, m :: ms => supply draws (i :: path) m :: supplyAll draws path (i + 1) ms

end

section
variable (draws draws' : List ℕ → ℕ → PaddingDraw)

mutual

theorem supply_supply (path : List ℕ) : ∀ m : Modifier,
    supply draws path (supply draws' path m) = supply draws path m
  | .xor xm => by rw [supply, supply]
  | .padding pm d => by rw [supply, supply, supply]
  | .chain name ms => by rw [supply, supply, supply, supplyAll_supplyAll]

theorem supplyAll_supplyAll (path : List ℕ) (i : ℕ) : ∀ ms : List Modifier,
    supplyAll draws path i (supplyAll draws' path i ms) = supplyAll draws path i ms
  | [] => by rw [supplyAll, supplyAll]
  | m :: ms => by rw [supplyAll, supplyAll, supplyAll, supply_supply, supplyAll_supplyAll]

end

mutual

/-- A use changes nothing but what the random source has still to give. -/
theorem supply_modifyOutbound (path : List ℕ) (phase : HandshakePhase) (data : Bytes) :
    ∀ m : Modifier, supply draws path (modifyOutbound phase data m).2 = supply draws path m
  | .xor xm => by rw [modifyOutbound]
  | .padding pm d => by rw [modifyOutbound, supply, supply]
  | .chain name ms => by
    rw [modifyOutbound, supply]
    change supply draws path (.chain name (outboundFrom phase 0 ms data).2) = _
    rw [supply, supplyAll_outboundFrom]

theorem supplyAll_outboundFrom (path : List ℕ) (i j : ℕ) (phase : HandshakePhase) :
    ∀ (ms : List Modifier) (data : Bytes),
      supplyAll draws path i (outboundFrom phase j ms data).2 = supplyAll draws path i ms
  | [], data => by rw [outboundFrom]
  | m :: ms, data => by
    have hm := supply_modifyOutbound (i :: path) phase data m
    rw [outboundFrom]
    generalize modifyOutbound phase data m = result at hm
    obtain ⟨_ | sent, m'⟩ := result
    · rw [supplyAll, supplyAll, hm]
    · rw [supplyAll, supplyAll, hm, supplyAll_outboundFrom]

end

mutual

theorem supply_modifyInbound (path : List ℕ) (phase : HandshakePhase) (data : Bytes) :
    ∀ m : Modifier, supply draws path (modifyInbound phase data m).2 = supply draws path m
  | .xor xm => by rw [modifyInbound]
  | .padding pm d => by rw [modifyInbound]
  | .chain name ms => by
    rw [modifyInbound, supply]
    change supply draws path (.chain name (inboundFrom phase 0 ms data).2) = _
    rw [supply, supplyAll_inboundFrom]

theorem supplyAll_inboundFrom (path : List ℕ) (i j : ℕ) (phase : HandshakePhase) :
    ∀ (ms : List Modifier) (data : Bytes),
      supplyAll draws path i (inboundFrom phase j ms data).2 = supplyAll draws path i ms
  | [], data => by rw [inboundFrom]
  | m :: ms, data => by
    have hms := supplyAll_inboundFrom path (i + 1) (j + 1) phase ms data
    rw [inboundFrom]
    generalize inboundFrom phase (j + 1) ms data = result at hms
    obtain ⟨_ | received, ms'⟩ := result
    · rw [supplyAll, supplyAll, hms]
    · have hm := supply_modifyInbound (i :: path) phase received m
      dsimp only at hms ⊢
      generalize modifyInbound phase received m = result at hm
      obtain ⟨_ | _, m'⟩ := result <;> dsimp only at hm ⊢ <;> rw [supplyAll, supplyAll, hm, hms]

end

mutual

theorem xors_supply (path : List ℕ) : ∀ m : Modifier, xors (supply draws path m) = xors m
  | .xor xm => by rw [supply]
  | .padding pm d => by rw [supply, xors, xors]
  | .chain name ms => by rw [supply, xors, xors, xorsAll_supplyAll]

theorem xorsAll_supplyAll (path : List ℕ) (i : ℕ) : ∀ ms : List Modifier,
    xorsAll (supplyAll draws path i ms) = xorsAll ms
  | [] => by rw [supplyAll]
  | m :: ms => by rw [supplyAll, xorsAll, xorsAll, xors_supply, xorsAll_supplyAll]

end
end

/-! ## Closing -/

mutual

theorem xors_close : ∀ m : Modifier, xors (close m) = (xors m).map XORModifier.close
  | .xor xm => by rw [close, xors, xors, List.map_singleton]
  | .padding pm d => by rw [close, xors, List.map_nil]
  | .chain name ms => by rw [close, xors, xors, xorsAll_closeAll]

theorem xorsAll_closeAll : ∀ ms : List Modifier,
    xorsAll (closeAll ms) = (xorsAll ms).map XORModifier.close
  | [] => by rw [closeAll, xorsAll, List.map_nil]
  | m :: ms => by rw [closeAll, xorsAll, xorsAll, List.map_append, xors_close, xorsAll_closeAll]

end

mutual

theorem close_of_xors : ∀ m : Modifier, xors m = [] → close m = m
  | .xor xm, h => by
    rw [xors] at h
    cases h
  | .padding pm d, _ => by rw [close]
  | .chain name ms, h => by
    rw [xors] at h
    rw [close, closeAll_of_xors ms h]

theorem closeAll_of_xors : ∀ ms : List Modifier, xorsAll ms = [] → closeAll ms = ms
  | [], _ => by rw [closeAll]
  | m :: ms, h => by
    rw [xorsAll, List.append_eq_nil_iff] at h
    rw [closeAll, close_of_xors m h.1, closeAll_of_xors ms h.2]

end

theorem closeAll_eq (ms : List Modifier) : closeAll ms = ms.map close := by
  induction ms with
  | nil => rw [closeAll, List.map_nil]
  | cons m ms ih => rw [closeAll, List.map_cons, ih]

/-! ## The data phase -/

mutual

theorem modifyInbound_data_of_open (data : Bytes) : ∀ m : Modifier,
    (∀ xm ∈ m.xors, xm.closed = false) → ∃ out, (modifyInbound .data data m).1 = .ok out
  | .xor xm, h => by
    rw [xors, List.forall_mem_singleton] at h
    rw [modifyInbound]
    exact ⟨_, xm.modifyOutbound_of_open h .data data⟩
  | .padding pm d, _ => by
    refine ⟨data, ?_⟩
    rw [modifyInbound, PaddingModifier.modifyInbound, if_pos (.inl (by decide))]
  | .chain name ms, h => by
    rw [xors] at h
    rw [modifyInbound]
    exact inboundFrom_data_of_open data 0 ms h

theorem inboundFrom_data_of_open (data : Bytes) (i : ℕ) : ∀ ms : List Modifier,
    (∀ xm ∈ xorsAll ms, xm.closed = false) → ∃ out, (inboundFrom .data i ms data).1 = .ok out
  | [], _ => by
    rw [inboundFrom]
    exact ⟨data, rfl⟩
  | m :: ms, h => by
    rw [xorsAll, List.forall_mem_append] at h
    obtain ⟨received, hms⟩ := inboundFrom_data_of_open data (i + 1) ms h.2
    obtain ⟨out, hm⟩ := modifyInbound_data_of_open received m h.1
    rw [inboundFrom]
    generalize inboundFrom .data (i + 1) ms data = result at hms
    obtain ⟨_, ms'⟩ := result
    obtain rfl := hms
    dsimp only
    generalize modifyInbound .data received m = result at hm
    obtain ⟨_, m'⟩ := result
    obtain rfl := hm
    exact ⟨out, rfl⟩

end

def ChainError (result : Except Oops Bytes) : Prop :=
  ∃ e, result = .error e ∧ ∃ text, e.message = "modifier chain inbound processing failed: " ++ text

mutual

theorem modifyInbound_data_of_closed (data : Bytes) : ∀ m : Modifier, m.xors ≠ [] →
    (∀ xm ∈ m.xors, xm.closed = true) → ∃ e, (modifyInbound .data data m).1 = .error e
  | .xor xm, _, h => by
    rw [xors, List.forall_mem_singleton] at h
    rw [modifyInbound, XORModifier.modifyInbound, XORModifier.modifyOutbound, if_pos h]
    exact ⟨_, rfl⟩
  | .padding pm d, hne, _ => by
    rw [xors] at hne
    exact absurd rfl hne
  | .chain name ms, hne, h => by
    rw [xors] at hne h
    obtain ⟨e, he, -⟩ := inboundFrom_data_of_closed data 0 ms hne h
    rw [modifyInbound]
    exact ⟨e, he⟩

theorem inboundFrom_data_of_closed (data : Bytes) (i : ℕ) : ∀ ms : List Modifier, xorsAll ms ≠ [] →
    (∀ xm ∈ xorsAll ms, xm.closed = true) → ChainError (inboundFrom .data i ms data).1
  | [], hne, _ => by
    rw [xorsAll] at hne
    exact absurd rfl hne
  | m :: ms, hne, h => by
    rw [xorsAll, List.forall_mem_append] at h
    rw [inboundFrom]
    by_cases hms : xorsAll ms = []
    · -- the modifiers after `m` are padding
      obtain ⟨received, hreceived⟩ := inboundFrom_data_of_open data (i + 1) ms (by rw [hms]; nofun)
      have hm : m.xors ≠ [] := fun hm => hne (by rw [xorsAll, hm, hms, List.nil_append])
      obtain ⟨e, he⟩ := modifyInbound_data_of_closed received m hm h.1
      generalize inboundFrom .data (i + 1) ms data = result at hreceived
      obtain ⟨_, ms'⟩ := result
      obtain rfl := hreceived
      dsimp only
      generalize modifyInbound .data received m = result at he
      obtain ⟨_, m'⟩ := result
      obtain rfl := he
      exact ⟨_, rfl, e.message, rfl⟩
    · obtain ⟨e, he, htext⟩ := inboundFrom_data_of_closed data (i + 1) ms hms h.2
      generalize inboundFrom .data (i + 1) ms data = result at he
      obtain ⟨_, ms'⟩ := result
      obtain rfl := he
      exact ⟨e, rfl, htext⟩

end

end Handshake.Modifier
end GoNoise
