import GoNoise.Handshake.Modifiers

/-!
# `handshake/xor_modifier.go`, `handshake/padding_modifier.go`: XOR, padding and nested chains

A chain is a modifier too, so chains can stand in chains.
-/

namespace GoNoise.Handshake

open BigEndian

/-! ## XOR -/

/-- `XORModifier`. There is a key. -/
structure XORModifier where
  name : String
  xorKey : Bytes
  closed : Bool
  nonempty : xorKey ≠ []

/-- `NewXORModifier`. `random` is what the random source gives for a key that was left out. -/
def newXORModifier (name : String) (xorKey : Bytes) (random : Except Oops (FixedBytes 32)) :
    XORModifier :=
  if h : xorKey ≠ [] then ⟨name, xorKey, false, h⟩
  else
    match random with
    | .ok randomKey =>
      ⟨name, randomKey.val, false, fun h => absurd randomKey.property (by rw [h]; decide)⟩
    | .error _ => ⟨name, [0x01], false, List.cons_ne_nil _ _⟩

namespace XORModifier

def keyByte (xm : XORModifier) (i : ℕ) : UInt8 :=
  xm.xorKey.get ⟨i % xm.xorKey.length, Nat.mod_lt i (List.length_pos_of_ne_nil xm.nonempty)⟩

def modifyOutbound (xm : XORModifier) (_phase : HandshakePhase) (data : Bytes) :
    Except Oops Bytes :=
  if xm.closed then .error ⟨"MODIFIER_CLOSED", "handshake", [], "XORModifier has been closed"⟩
  else if data.length = 0 then .ok data
  else .ok (data.mapIdx fun i b => b ^^^ xm.keyByte i)

def modifyInbound (xm : XORModifier) (phase : HandshakePhase) (data : Bytes) : Except Oops Bytes :=
  xm.modifyOutbound phase data

/-- `Close`: the key is zeroed. -/
def close (xm : XORModifier) : XORModifier where
  name := xm.name
  xorKey := xm.xorKey.map fun _ => 0
  closed := true
  nonempty := fun h => xm.nonempty (List.map_eq_nil_iff.mp h)

theorem modifyOutbound_of_open {xm : XORModifier} (hopen : xm.closed = false)
    (phase : HandshakePhase) (data : Bytes) :
    xm.modifyOutbound phase data = .ok (data.mapIdx fun i b => b ^^^ xm.keyByte i) := by
  rw [modifyOutbound, hopen, if_neg Bool.false_ne_true]
  split_ifs with hempty
  · rw [List.length_eq_zero_iff.mp hempty]
    rfl
  · rfl

theorem mapIdx_keyByte_twice (xm : XORModifier) (data : Bytes) :
    ((data.mapIdx fun i b => b ^^^ xm.keyByte i).mapIdx fun i b => b ^^^ xm.keyByte i) = data := by
  apply List.ext_getElem
  · simp
  · intro i h₁ h₂
    rw [List.getElem_mapIdx, List.getElem_mapIdx, UInt8.xor_assoc, UInt8.xor_self, UInt8.xor_zero]

end XORModifier

/-! ## Padding -/

/-- What the random source gives one call of `ModifyOutbound`. -/
structure PaddingDraw where
  /-- `rand.ReadBigInt`, for the size -/
  size : Except Oops ℕ
  /-- `rand.Read`, for the content -/
  content : Except Oops (ℕ → UInt8)

structure PaddingModifier where
  name : String
  minPadding : ℤ
  maxPadding : ℤ
  nonneg : 0 ≤ minPadding
  le : minPadding ≤ maxPadding

def maxUint32 : ℕ := 4294967295

namespace PaddingModifier

/-- In these phases, and with these bounds, the data is passed on. -/
def Passes (pm : PaddingModifier) (phase : HandshakePhase) : Prop :=
  .final < phase ∨ pm.minPadding = 0 ∧ pm.maxPadding = 0

instance (pm : PaddingModifier) (phase : HandshakePhase) : Decidable (pm.Passes phase) :=
  inferInstanceAs (Decidable (_ ∨ _))

def paddingSize (pm : PaddingModifier) (draw : PaddingDraw) : Except Oops ℕ :=
  if pm.minPadding < pm.maxPadding then
    match draw.size with
    | .error e => .error ((e.wrapf "failed to generate random padding size").wrap
        "PADDING_RANDOM_ERROR" "handshake" [])
    | .ok n => .ok (pm.minPadding.toNat + n)
  else .ok pm.minPadding.toNat

def paddingContent (draw : PaddingDraw) (paddingSize : ℕ) : Except Oops Bytes :=
  if 0 < paddingSize then
    match draw.content with
    | .error e => .error ((e.wrapf "failed to generate random padding content").wrap
        "PADDING_RANDOM_ERROR" "handshake" [])
    | .ok content => .ok ((List.range paddingSize).map content)
  else .ok []

def modifyOutbound (pm : PaddingModifier) (draw : PaddingDraw) (phase : HandshakePhase)
    (data : Bytes) : Except Oops Bytes :=
  if pm.Passes phase then .ok data
  else if maxUint32 < data.length then
    .error ⟨"DATA_TOO_LARGE", "handshake",
      [("data_length", data.length), ("max_length", maxUint32)],
      "data exceeds 4-byte length prefix capacity"⟩
  else do
    let paddingSize ← pm.paddingSize draw
    let content ← paddingContent draw paddingSize
    return putUint32 (UInt32.ofNat data.length) ++ data ++ content

def modifyInbound (pm : PaddingModifier) (phase : HandshakePhase) (data : Bytes) :
    Except Oops Bytes :=
  if pm.Passes phase then .ok data
  else if data.length < 4 then
    .error ⟨"INVALID_PADDED_DATA", "handshake", [("data_length", data.length)],
      "padded data too short, missing length prefix"⟩
  else
    let rawLen := uint32 (data.take 4)
    let available := UInt32.ofNat (data.length - 4)
    if available < rawLen then
      .error ⟨"INVALID_PADDED_DATA", "handshake",
        [("original_length", rawLen.toNat), ("data_length", data.length)],
        "invalid original length in padded data"⟩
    else .ok ((data.drop 4).take rawLen.toNat)

/-- The bytes that are added to the data, if the random source works. -/
def added (pm : PaddingModifier) (draw : PaddingDraw) (phase : HandshakePhase) : ℕ :=
  if pm.Passes phase then 0
  else
    match pm.paddingSize draw with
    | .error _ => 0
    | .ok n => 4 + n

/-- The padding comes off, if the length of the padded data fits in four bytes. -/
theorem modifyInbound_padded {pm : PaddingModifier} {phase : HandshakePhase}
    (hpads : ¬ pm.Passes phase) {data content : Bytes}
    (hlen : 4 + data.length + content.length < 2 ^ 32) :
    pm.modifyInbound phase (putUint32 (UInt32.ofNat data.length) ++ data ++ content) =
      .ok data := by
  have hdata : (UInt32.ofNat data.length).toNat = data.length := by
    rw [UInt32.toNat_ofNat', Nat.mod_eq_of_lt (by omega)]
  have hfull : (putUint32 (UInt32.ofNat data.length) ++ data ++ content).length =
      4 + (data.length + content.length) := by
    rw [List.length_append, List.length_append, length_putUint32, Nat.add_assoc]
  have havailable : ¬ UInt32.ofNat (data.length + content.length) < UInt32.ofNat data.length := by
    rw [UInt32.lt_iff_toNat_lt, hdata, UInt32.toNat_ofNat', Nat.mod_eq_of_lt (by omega)]
    omega
  rw [modifyInbound, if_neg hpads, if_neg (by rw [hfull]; omega), hfull, Nat.add_sub_cancel_left,
    List.append_assoc, take_putUint32_append, drop_putUint32_append, uint32_putUint32]
  rw [if_neg havailable, hdata, List.take_left]

end PaddingModifier

/-! ## Chains -/

section
variable {μ : Type} (M : HandshakeModifier μ)

/-- The modifier adds a number of bytes to what is sent and takes them back, as long as the result
is shorter than `2 ^ 32`. -/
def Undone (phase : HandshakePhase) (added : ℕ) (m : μ) : Prop :=
  ∀ data : Bytes, data.length + added < 2 ^ 32 →
    ∃ out m', M.modifyOutbound phase data m = (.ok out, m') ∧ out.length = data.length + added ∧
      (M.modifyInbound phase out m').1 = .ok data

variable {M}

/-- A chain is undone in reverse order. The indices only stand in errors. -/
theorem undone_chain {phase : HandshakePhase} {added : μ → ℕ} {ms : List μ}
    (h : ∀ m ∈ ms, Undone M phase (added m) m) {data : Bytes}
    (hlen : data.length + (ms.map added).sum < 2 ^ 32) (i j : ℕ) :
    ∃ out ms', ModifierChain.outboundFrom M phase i ms data = (.ok out, ms') ∧
      out.length = data.length + (ms.map added).sum ∧
      (ModifierChain.inboundFrom M phase j ms' out).1 = .ok data := by
  induction ms generalizing data i j with
  | nil => exact ⟨data, [], rfl, rfl, rfl⟩
  | cons m ms ih =>
    rw [List.forall_mem_cons] at h
    rw [List.map_cons, List.sum_cons] at hlen ⊢
    obtain ⟨sent, m', hout, hsent, hin⟩ := h.1 data (by omega)
    have hroom : sent.length + (ms.map added).sum < 2 ^ 32 := by omega
    obtain ⟨out, ms', houts, hlength, hins⟩ := ih h.2 hroom (i + 1) (j + 1)
    refine ⟨out, m' :: ms', ?_, by omega, ?_⟩
    · rw [ModifierChain.outboundFrom, hout]
      simp only [houts]
    · grind [ModifierChain.inboundFrom]

end

/-! ## Nested chains -/

/-- XOR, padding, and chains of modifiers. The padding comes with what the random source will give
it. -/
inductive Modifier
  | xor (xm : XORModifier)
  | padding (pm : PaddingModifier) (draws : ℕ → PaddingDraw)
  | chain (name : String) (modifiers : List Modifier)

namespace Modifier

def name : Modifier → String
  | .xor xm => xm.name
  | .padding pm _ => pm.name
  | .chain name _ => name

mutual

def modifyOutbound (phase : HandshakePhase) (data : Bytes) :
    Modifier → Except Oops Bytes × Modifier
  | .xor xm => (xm.modifyOutbound phase data, .xor xm)
  | .padding pm draws =>
    (pm.modifyOutbound (draws 0) phase data, .padding pm fun i => draws (i + 1))
  | .chain name ms => (outboundFrom phase 0 ms data).map id (.chain name)

/-- The loop of a chain, with the modifiers in it. -/
def outboundFrom (phase : HandshakePhase) :
    ℕ → List Modifier → Bytes → Except Oops Bytes × List Modifier
  | _, [], data => (.ok data, [])
  | i, m :: ms, data =>
    match modifyOutbound phase data m with
    | (.error e, m) => (.error ((e.wrapf "modifier chain outbound processing failed").wrap
        "MODIFIER_CHAIN_ERROR" "handshake" [("modifier_index", i)]), m :: ms)
    | (.ok data, m) =>
      let (result, ms) := outboundFrom phase (i + 1) ms data
      (result, m :: ms)

end

mutual

def modifyInbound (phase : HandshakePhase) (data : Bytes) :
    Modifier → Except Oops Bytes × Modifier
  | .xor xm => (xm.modifyInbound phase data, .xor xm)
  | .padding pm draws => (pm.modifyInbound phase data, .padding pm draws)
  | .chain name ms => (inboundFrom phase 0 ms data).map id (.chain name)

/-- The loop of a chain, with the modifiers in it. -/
def inboundFrom (phase : HandshakePhase) :
    ℕ → List Modifier → Bytes → Except Oops Bytes × List Modifier
  | _, [], data => (.ok data, [])
  | i, m :: ms, data =>
    match inboundFrom phase (i + 1) ms data with
    | (.error e, ms) => (.error e, m :: ms)
    | (.ok data, ms) =>
      match modifyInbound phase data m with
      | (.error e, m) => (.error ((e.wrapf "modifier chain inbound processing failed").wrap
          "MODIFIER_CHAIN_ERROR" "handshake" [("modifier_index", i)]), m :: ms)
      | (.ok data, m) => (.ok data, m :: ms)

end

mutual

def close : Modifier → Modifier
  | .xor xm => .xor xm.close
  | .padding pm draws => .padding pm draws
  | .chain name ms => .chain name (closeAll ms)

/-- `Close` of every modifier of a chain. -/
def closeAll : List Modifier → List Modifier
  | [] => []
  | m :: ms => close m :: closeAll ms

end

end Modifier

def modifiers : HandshakeModifier Modifier where
  name := Modifier.name
  modifyOutbound := Modifier.modifyOutbound
  modifyInbound := Modifier.modifyInbound

theorem modifiers_modifyOutbound : modifiers.modifyOutbound = Modifier.modifyOutbound := rfl

theorem modifiers_modifyInbound : modifiers.modifyInbound = Modifier.modifyInbound := rfl

namespace Modifier

variable (phase : HandshakePhase) (i : ℕ) (ms : List Modifier) (data : Bytes)

/-- The chain in a modifier is the chain of the package. -/
theorem outboundFrom_eq :
    outboundFrom phase i ms data = ModifierChain.outboundFrom modifiers phase i ms data := by
  induction ms generalizing i data with
  | nil => rw [outboundFrom, ModifierChain.outboundFrom]
  | cons m ms ih =>
    rw [outboundFrom, ModifierChain.outboundFrom, modifiers_modifyOutbound]
    rcases modifyOutbound phase data m with ⟨_ | sent, m'⟩
    · rfl
    · simp only [ih]

theorem inboundFrom_eq :
    inboundFrom phase i ms data = ModifierChain.inboundFrom modifiers phase i ms data := by
  induction ms generalizing i with
  | nil => rw [inboundFrom, ModifierChain.inboundFrom]
  | cons m ms ih =>
    rw [inboundFrom, ModifierChain.inboundFrom, ih]
    rcases ModifierChain.inboundFrom modifiers phase (i + 1) ms data with ⟨_ | received, ms'⟩
    · rfl
    · simp only [modifiers_modifyInbound]
      rcases modifyInbound phase received m with ⟨_ | _, m'⟩ <;> rfl

mutual

def added (phase : HandshakePhase) : Modifier → ℕ
  | .xor _ => 0
  | .padding pm draws => pm.added (draws 0) phase
  | .chain _ ms => addedAll phase ms

def addedAll (phase : HandshakePhase) : List Modifier → ℕ
  | [] => 0
  | m :: ms => added phase m + addedAll phase ms

end

mutual

/-- No XOR modifier is closed, and the random source does not fail. -/
def Ready : Modifier → Prop
  | .xor xm => xm.closed = false
  | .padding _ draws => (∃ n, (draws 0).size = .ok n) ∧ ∃ content, (draws 0).content = .ok content
  | .chain _ ms => ReadyAll ms

def ReadyAll : List Modifier → Prop
  | [] => True
  | m :: ms => Ready m ∧ ReadyAll ms

end

theorem addedAll_eq (phase : HandshakePhase) (ms : List Modifier) :
    addedAll phase ms = (ms.map (added phase)).sum := by
  induction ms with
  | nil => rw [addedAll, List.map_nil, List.sum_nil]
  | cons m ms ih => rw [addedAll, List.map_cons, List.sum_cons, ih]

theorem undone_xor {xm : XORModifier} (hopen : xm.closed = false) (phase : HandshakePhase) :
    Undone modifiers phase 0 (.xor xm) := by
  intro data _
  refine ⟨data.mapIdx fun i b => b ^^^ xm.keyByte i, .xor xm, ?_, List.length_mapIdx, ?_⟩
  · rw [modifiers_modifyOutbound, modifyOutbound, xm.modifyOutbound_of_open hopen]
  · rw [modifiers_modifyInbound, modifyInbound, XORModifier.modifyInbound,
      xm.modifyOutbound_of_open hopen, xm.mapIdx_keyByte_twice]

theorem undone_padding {pm : PaddingModifier} {draws : ℕ → PaddingDraw}
    (hready : Ready (.padding pm draws)) (phase : HandshakePhase) :
    Undone modifiers phase (pm.added (draws 0) phase) (.padding pm draws) := by
  intro data hlen
  rw [Ready] at hready
  obtain ⟨⟨drawn, hsize⟩, content, hcontent⟩ := hready
  by_cases hpasses : pm.Passes phase
  · refine ⟨data, .padding pm fun i => draws (i + 1), ?_, ?_, ?_⟩
    · rw [modifiers_modifyOutbound, modifyOutbound, PaddingModifier.modifyOutbound, if_pos hpasses]
    · rw [PaddingModifier.added, if_pos hpasses, Nat.add_zero]
    · rw [modifiers_modifyInbound, modifyInbound, PaddingModifier.modifyInbound, if_pos hpasses]
  · obtain ⟨n, hn⟩ : ∃ n, pm.paddingSize (draws 0) = .ok n := by
      unfold PaddingModifier.paddingSize
      split_ifs
      · rw [hsize]
        exact ⟨_, rfl⟩
      · exact ⟨_, rfl⟩
    obtain ⟨padding, hpadding, hlength⟩ :
        ∃ l, PaddingModifier.paddingContent (draws 0) n = .ok l ∧ l.length = n := by
      unfold PaddingModifier.paddingContent
      split_ifs with hpos
      · rw [hcontent]
        exact ⟨_, rfl, by rw [List.length_map, List.length_range]⟩
      · exact ⟨_, rfl, (Nat.eq_zero_of_not_pos hpos).symm⟩
    have hadded : pm.added (draws 0) phase = 4 + n := by
      rw [PaddingModifier.added, if_neg hpasses, hn]
    rw [hadded] at hlen
    refine ⟨putUint32 (UInt32.ofNat data.length) ++ data ++ padding,
      .padding pm fun i => draws (i + 1), ?_, ?_, ?_⟩
    · rw [modifiers_modifyOutbound, modifyOutbound, PaddingModifier.modifyOutbound, if_neg hpasses,
        if_neg (by unfold maxUint32; omega), hn]
      simp only [bind, Except.bind, hpadding]
      rfl
    · rw [List.length_append, List.length_append, length_putUint32, hlength, hadded]
      omega
    · rw [modifiers_modifyInbound, modifyInbound,
        PaddingModifier.modifyInbound_padded hpasses (by omega)]

mutual

/-- Modifiers that are ready take back what they send. The induction is on the nesting. -/
theorem undone (phase : HandshakePhase) :
    ∀ m : Modifier, m.Ready → Undone modifiers phase (m.added phase) m
  | .xor xm, h => by
    rw [Ready] at h
    rw [added]
    exact undone_xor h phase
  | .padding pm draws, h => by
    rw [added]
    exact undone_padding h phase
  | .chain name ms, h => by
    rw [Ready] at h
    intro data hlen
    rw [added, addedAll_eq] at hlen ⊢
    obtain ⟨out, ms', hout, hlength, hin⟩ := undone_chain (undoneAll phase ms h) hlen 0 0
    refine ⟨out, .chain name ms', ?_, hlength, ?_⟩
    · rw [modifiers_modifyOutbound, modifyOutbound, outboundFrom_eq, hout]
      rfl
    · rw [modifiers_modifyInbound, modifyInbound, inboundFrom_eq]
      exact hin

theorem undoneAll (phase : HandshakePhase) :
    ∀ ms : List Modifier, ReadyAll ms → ∀ m ∈ ms, Undone modifiers phase (m.added phase) m
  | [], _ => List.forall_mem_nil _
  | m :: ms, h => by
    rw [ReadyAll] at h
    exact List.forall_mem_cons.mpr ⟨undone phase m h.1, undoneAll phase ms h.2⟩

end

/-- **Modifiers invert.** Open modifiers, chains of chains among them, take back what they send, in
every phase, as long as what is sent is shorter than `2 ^ 32`. -/
theorem modifyInbound_modifyOutbound (phase : HandshakePhase) (m : Modifier) (hready : m.Ready)
    (data : Bytes) (hlen : data.length + m.added phase < 2 ^ 32) :
    ∃ out m', m.modifyOutbound phase data = (.ok out, m') ∧
      out.length = data.length + m.added phase ∧ (m'.modifyInbound phase out).1 = .ok data :=
  undone phase m hready data hlen

/-- A chain in a chain, with padding of two to five bytes. -/
def nestedChain : Modifier :=
  .chain "outer" [.xor (newXORModifier "xor" [0x5a, 0xa5] (.error (.errorf "no entropy"))),
    .chain "inner" [
      .padding ⟨"padding", 2, 5, by decide, by decide⟩ fun _ => ⟨.ok 1, .ok fun _ => 7⟩,
      .xor (newXORModifier "inner xor" [0x33] (.error (.errorf "no entropy")))]]

theorem modifyInbound_modifyOutbound_nestedChain :
    ∃ out m', nestedChain.modifyOutbound .exchange [1, 2, 3] = (.ok out, m') ∧
      out.length = [(1 : UInt8), 2, 3].length + nestedChain.added .exchange ∧
      (m'.modifyInbound .exchange out).1 = .ok [1, 2, 3] :=
  modifyInbound_modifyOutbound .exchange nestedChain
    (by simp [nestedChain, Ready, ReadyAll, newXORModifier]) [1, 2, 3]
    (by simp [nestedChain, added, addedAll, PaddingModifier.added, PaddingModifier.paddingSize]
        split_ifs <;> decide)

end Modifier
end GoNoise.Handshake
