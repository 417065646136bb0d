import GoNoise.SSU2.Wire.Block
import Mathlib.Data.List.Perm.Basic

/-!
# `ssu2/wire/block.go`: the order of the blocks of a payload

`SerializeBlocks` moves the Termination and the Padding block to the end. The pass keeps one
variable for each of them, so of several Termination blocks only the last is written, and so for
Padding.
-/

namespace GoNoise.SSU2

open SSU2Block BigEndian

/-- The place of a block in a payload: the other blocks, then Termination, then Padding. -/
def SSU2Block.place (b : SSU2Block) : ℕ :=
  if b.type = blockTypeTermination then 1 else if b.type = blockTypePadding then 2 else 0

def atPlace (place : ℕ) (blocks : List SSU2Block) : List SSU2Block :=
  blocks.filter fun b => b.place = place

variable {b : SSU2Block} {blocks : List SSU2Block} {place : ℕ} {α : Type}

theorem place_of_mem_atPlace (h : b ∈ atPlace place blocks) : b.place = place :=
  of_decide_eq_true (List.mem_filter.mp h).2

theorem SSU2Block.place_eq_one_iff : b.place = 1 ↔ b.type = blockTypeTermination := by
  unfold place
  split_ifs with hterm hpad <;> simp [hterm]

theorem SSU2Block.place_eq_two_iff : b.place = 2 ↔ b.type = blockTypePadding := by
  unfold place
  split_ifs with hterm hpad
  · simp [hterm, blockTypeTermination, blockTypePadding]
  · simp [hpad]
  · simp [hpad]

theorem SSU2Block.place_eq_zero_iff :
    b.place = 0 ↔ b.type ≠ blockTypeTermination ∧ b.type ≠ blockTypePadding := by
  unfold place
  split_ifs with hterm hpad <;> simp [*]

/-- The pass keeps the last block of the two places at the end. -/
theorem enforceBlockOrder_eq (blocks : List SSU2Block) :
    enforceBlockOrder blocks = atPlace 0 blocks ++ (atPlace 1 blocks).getLast?.toList ++
      (atPlace 2 blocks).getLast?.toList := by
  unfold enforceBlockOrder atPlace
  simp only [place_eq_zero_iff, place_eq_one_iff, place_eq_two_iff]

theorem getLast?_toList_sublist (l : List α) : l.getLast?.toList.Sublist l := by
  rcases List.eq_nil_or_concat l with rfl | ⟨l, a, rfl⟩
  · exact .slnil
  · simp

theorem mem_of_mem_enforceBlockOrder (h : b ∈ enforceBlockOrder blocks) : b ∈ blocks := by
  rw [enforceBlockOrder_eq, List.mem_append, List.mem_append] at h
  rcases h with (h | h) | h
  · exact List.mem_of_mem_filter h
  · exact List.mem_of_mem_filter ((getLast?_toList_sublist _).mem h)
  · exact List.mem_of_mem_filter ((getLast?_toList_sublist _).mem h)

/-- Valid blocks are written and read back in the new order. -/
theorem serializeBlocks_deserializeBlocks (h : ∀ b ∈ blocks, b.Valid) :
    ∃ payload, serializeBlocks blocks = .ok payload ∧
      deserializeBlocks payload = .ok (enforceBlockOrder blocks) := by
  have hvalid : ∀ b ∈ enforceBlockOrder blocks, b.Valid := fun b hb =>
    h b (mem_of_mem_enforceBlockOrder hb)
  refine ⟨_, ?_, deserializeBlocks_flatten hvalid⟩
  rw [serializeBlocks]
  split_ifs with hempty
  · rw [List.isEmpty_iff.mp hempty]
    rfl
  · exact serializeFrom_of_valid hvalid 0

/-! ## What the reader gets -/

/-- `out` has the blocks of `blocks`, in the order that a payload must have. -/
structure Rearranged (blocks out : List SSU2Block) : Prop where
  /-- nothing is lost or repeated -/
  perm : out.Perm blocks
  /-- the blocks that are neither Termination nor Padding keep their order -/
  others : atPlace 0 out = atPlace 0 blocks
  /-- Termination comes after them, Padding at the end -/
  places : out.Pairwise fun b b' => b.place ≤ b'.place

theorem atPlace_eq_self (h : ∀ b ∈ blocks, b.place = place) : atPlace place blocks = blocks :=
  List.filter_eq_self.mpr fun b hb => decide_eq_true (h b hb)

theorem atPlace_eq_nil {place' : ℕ} (h : ∀ b ∈ blocks, b.place = place')
    (hne : place' ≠ place) : atPlace place blocks = [] :=
  List.filter_eq_nil_iff.mpr fun b hb => by
    rw [decide_eq_true_eq, h b hb]
    exact hne

theorem place_of_mem_getLast? (blocks : List SSU2Block) (place : ℕ) :
    ∀ b ∈ (atPlace place blocks).getLast?.toList, b.place = place :=
  fun _ hb => place_of_mem_atPlace ((getLast?_toList_sublist _).mem hb)

theorem atPlace_enforceBlockOrder (blocks : List SSU2Block) :
    atPlace 0 (enforceBlockOrder blocks) = atPlace 0 blocks ∧
      atPlace 1 (enforceBlockOrder blocks) = (atPlace 1 blocks).getLast?.toList ∧
      atPlace 2 (enforceBlockOrder blocks) = (atPlace 2 blocks).getLast?.toList := by
  have h0 : ∀ b ∈ atPlace 0 blocks, b.place = 0 := fun b => place_of_mem_atPlace
  have hlast := place_of_mem_getLast? blocks
  have hsplit : ∀ place, atPlace place (enforceBlockOrder blocks) =
      atPlace place (atPlace 0 blocks) ++ atPlace place (atPlace 1 blocks).getLast?.toList ++
        atPlace place (atPlace 2 blocks).getLast?.toList := fun place => by
    rw [enforceBlockOrder_eq, atPlace, List.filter_append, List.filter_append]
    rfl
  refine ⟨?_, ?_, ?_⟩
  · rw [hsplit, atPlace_eq_self h0, atPlace_eq_nil (hlast 1) (by decide),
      atPlace_eq_nil (hlast 2) (by decide), List.append_nil, List.append_nil]
  · rw [hsplit, atPlace_eq_nil h0 (by decide), atPlace_eq_self (hlast 1),
      atPlace_eq_nil (hlast 2) (by decide), List.append_nil, List.nil_append]
  · rw [hsplit, atPlace_eq_nil h0 (by decide), atPlace_eq_nil (hlast 1) (by decide),
      atPlace_eq_self (hlast 2), List.nil_append, List.nil_append]

theorem atPlace_append_perm (blocks : List SSU2Block) :
    (atPlace 0 blocks ++ atPlace 1 blocks ++ atPlace 2 blocks).Perm blocks := by
  induction blocks with
  | nil => exact .nil
  | cons b blocks ih =>
    have hcons : ∀ place, atPlace place (b :: blocks) =
        if b.place = place then b :: atPlace place blocks else atPlace place blocks := by
      intro place
      simp [atPlace, List.filter_cons]
    have hplace : b.place = 0 ∨ b.place = 1 ∨ b.place = 2 := by
      unfold place
      split_ifs <;> simp
    -- the block stands in front of the others at its place
    rcases hplace with h | h | h
    · simp only [hcons, h, reduceIte, Nat.zero_ne_one, OfNat.zero_ne_ofNat]
      exact ih.cons b
    · simp only [hcons, h, reduceIte, Nat.one_ne_zero, OfNat.one_ne_ofNat]
      rw [List.append_assoc, List.cons_append]
      refine List.perm_middle.trans (.cons b ?_)
      rwa [← List.append_assoc]
    · simp only [hcons, h, reduceIte, OfNat.ofNat_ne_zero, OfNat.ofNat_ne_one]
      exact List.perm_middle.trans (ih.cons b)

theorem pairwise_enforceBlockOrder (blocks : List SSU2Block) :
    (enforceBlockOrder blocks).Pairwise fun b b' => b.place ≤ b'.place := by
  have hsame : ∀ place, ∀ l : List SSU2Block, (∀ b ∈ l, b.place = place) →
      l.Pairwise fun b b' => b.place ≤ b'.place := fun place l hl =>
    List.pairwise_of_forall_mem_list fun b hb b' hb' => by rw [hl b hb, hl b' hb']
  have h0 : ∀ b ∈ atPlace 0 blocks, b.place = 0 := fun b => place_of_mem_atPlace
  have hlast := place_of_mem_getLast? blocks
  rw [enforceBlockOrder_eq, List.pairwise_append, List.pairwise_append]
  refine ⟨⟨hsame 0 _ h0, hsame 1 _ (hlast 1), fun b hb b' hb' => ?_⟩, hsame 2 _ (hlast 2),
    fun b hb b' hb' => ?_⟩
  · rw [h0 b hb]
    exact Nat.zero_le _
  · rw [hlast 2 b' hb']
    rcases List.mem_append.mp hb with hb | hb
    · rw [h0 b hb]
      exact Nat.zero_le _
    · rw [hlast 1 b hb]
      decide

theorem getLast?_toList_eq_self_iff {l : List α} : l.getLast?.toList = l ↔ l.length ≤ 1 := by
  match l with
  | [] => simp
  | [a] => simp
  | a :: a' :: l => simp [List.getLast?_eq_some_getLast]

/-- Nothing is lost exactly if there are no two blocks of either kind. -/
theorem rearranged_enforceBlockOrder_iff (blocks : List SSU2Block) :
    Rearranged blocks (enforceBlockOrder blocks) ↔
      (atPlace 1 blocks).length ≤ 1 ∧ (atPlace 2 blocks).length ≤ 1 := by
  obtain ⟨h0, h1, h2⟩ := atPlace_enforceBlockOrder blocks
  constructor
  · intro h
    have hterm := (h.perm.filter fun b => b.place = 1).length_eq
    have hpad := (h.perm.filter fun b => b.place = 2).length_eq
    change (atPlace 1 _).length = (atPlace 1 _).length at hterm
    change (atPlace 2 _).length = (atPlace 2 _).length at hpad
    rw [← hterm, ← hpad, h1, h2]
    exact ⟨Option.length_toList_le, Option.length_toList_le⟩
  · rintro ⟨hterm, hpad⟩
    refine ⟨?_, h0, pairwise_enforceBlockOrder blocks⟩
    rw [enforceBlockOrder_eq, getLast?_toList_eq_self_iff.mpr hterm,
      getLast?_toList_eq_self_iff.mpr hpad]
    exact atPlace_append_perm blocks

/-- **The block codec.** What is read back has the written blocks, in the order a payload must
have, exactly if there are no two Termination and no two Padding blocks. -/
theorem serializeBlocks_rearranged_iff {blocks : List SSU2Block} (h : ∀ b ∈ blocks, b.Valid) :
    (∃ payload out, serializeBlocks blocks = .ok payload ∧ deserializeBlocks payload = .ok out ∧
        Rearranged blocks out) ↔
      (blocks.filter fun b => b.type = blockTypeTermination).length ≤ 1 ∧
        (blocks.filter fun b => b.type = blockTypePadding).length ≤ 1 := by
  have hterm : (blocks.filter fun b => b.type = blockTypeTermination) = atPlace 1 blocks := by
    simp only [atPlace, place_eq_one_iff]
  have hpad : (blocks.filter fun b => b.type = blockTypePadding) = atPlace 2 blocks := by
    simp only [atPlace, place_eq_two_iff]
  obtain ⟨payload, hwrite, hread⟩ := serializeBlocks_deserializeBlocks h
  rw [hterm, hpad, ← rearranged_enforceBlockOrder_iff]
  constructor
  · rintro ⟨payload', out, hwrite', hread', hout⟩
    obtain rfl : payload = payload' := Except.ok.inj (hwrite.symm.trans hwrite')
    rwa [Except.ok.inj (hread.symm.trans hread')]
  · exact fun hout => ⟨payload, _, hwrite, hread, hout⟩

/-- A payload with all three kinds of blocks, written in the wrong order. -/
theorem serializeBlocks_rearranged_iff_mixed :
    ∃ payload out, serializeBlocks [⟨blockTypePadding, [0]⟩,
        ⟨blockTypeTermination, List.replicate 9 1⟩, ⟨blockTypeI2NPMessage, [2, 3]⟩] = .ok payload ∧
      deserializeBlocks payload = .ok out ∧
      Rearranged [⟨blockTypePadding, [0]⟩, ⟨blockTypeTermination, List.replicate 9 1⟩,
        ⟨blockTypeI2NPMessage, [2, 3]⟩] out :=
  (serializeBlocks_rearranged_iff (by simp [← validate_eq_ok_iff]; decide)).mpr
    (by decide)

/-- Of two Padding blocks the first is lost. -/
theorem serializeBlocks_drops_padding :
    ∃ payload, serializeBlocks [⟨blockTypePadding, [1]⟩, ⟨blockTypePadding, [2]⟩] = .ok payload ∧
      deserializeBlocks payload = .ok [⟨blockTypePadding, [2]⟩] ∧
      ¬ ∃ out, deserializeBlocks payload = .ok out ∧
        Rearranged [⟨blockTypePadding, [1]⟩, ⟨blockTypePadding, [2]⟩] out := by
  have hread : deserializeBlocks [254, 0, 1, 2] = .ok [⟨blockTypePadding, [2]⟩] := by decide
  refine ⟨[254, 0, 1, 2], by decide, hread, ?_⟩
  rintro ⟨out, hread', hout⟩
  obtain rfl := Except.ok.inj (hread.symm.trans hread')
  exact absurd hout.perm.length_eq (by decide)

/-! ## What the reader accepts -/

/-- The block that is read stands at the head of the bytes. -/
theorem SSU2Block.deserialize_ok {data : Bytes} {n : ℕ} (h : deserialize data = .ok (b, n)) :
    b.Valid ∧ n = b.size ∧ b.wire ++ data.drop n = data := by
  unfold deserialize at h
  split_ifs at h with hshort
  obtain ⟨t, l₁, l₂, rest, rfl⟩ : ∃ t l₁ l₂ rest, data = t :: l₁ :: l₂ :: rest := by
    match data, hshort with
    | t :: l₁ :: l₂ :: rest, _ => exact ⟨t, l₁, l₂, rest, rfl⟩
    | [], h | [_], h | [_, _], h => exact absurd (by simp [minBlockHeaderSize]) h
  dsimp only at h
  split_ifs at h with hlong
  split at h
  · cases h
  next hvalid =>
    obtain ⟨rfl, rfl⟩ := Prod.mk.inj (Except.ok.inj h)
    have hlen : (rest.take (uint16 [l₁, l₂]).toNat).length = (uint16 [l₁, l₂]).toNat :=
      List.length_take_of_le (by simp [minBlockHeaderSize] at hlong; omega)
    refine ⟨(validate_eq_ok_iff _).mp hvalid, congrArg (minBlockHeaderSize + ·) hlen.symm, ?_⟩
    show t :: (putUint16 (UInt16.ofNat (rest.take (uint16 [l₁, l₂]).toNat).length) ++ _ ++ _) = _
    rw [hlen, UInt16.ofNat_toNat, putUint16_uint16 rfl, Nat.add_comm]
    exact congrArg (fun l => t :: l₁ :: l₂ :: l) (List.take_append_drop _ rest)

theorem deserializeFrom_ok {fuel offset : ℕ} {data : Bytes} (hfuel : data.length ≤ fuel)
    (h : deserializeFrom fuel offset data = .ok blocks) :
    (∀ b ∈ blocks, b.Valid) ∧ (blocks.map wire).flatten = data := by
  induction fuel generalizing offset data blocks with
  | zero =>
    cases h
    exact ⟨nofun, (List.eq_nil_of_length_eq_zero (Nat.le_zero.mp hfuel)).symm⟩
  | succ fuel ih =>
    rw [deserializeFrom] at h
    split_ifs at h with hempty
    · cases h
      exact ⟨nofun, (List.isEmpty_iff.mp hempty).symm⟩
    split at h
    · cases h
    next block consumed hblock =>
      obtain ⟨hvalid, rfl, hdata⟩ := deserialize_ok hblock
      split at h
      · cases h
      next blocks hrest =>
        cases h
        have hsize : 0 < block.size := Nat.lt_of_lt_of_le (by decide) (Nat.le_add_right 3 _)
        obtain ⟨hall, hflat⟩ := ih (by rw [List.length_drop]; omega) hrest
        refine ⟨List.forall_mem_cons.mpr ⟨hvalid, hall⟩, ?_⟩
        rw [List.map_cons, List.flatten_cons, hflat, hdata]

/-- **The language of `DeserializeBlocks`.** It accepts the concatenations of valid blocks, and the
blocks it returns are serialized, one after the other, to the bytes they were read from. -/
theorem deserializeBlocks_accepts (data : Bytes) :
    ((∃ blocks, deserializeBlocks data = .ok blocks) ↔
      ∃ blocks : List SSU2Block, (∀ b ∈ blocks, b.Valid) ∧ (blocks.map wire).flatten = data) ∧
    ∀ blocks, deserializeBlocks data = .ok blocks → serializeFrom 0 blocks = .ok data := by
  refine ⟨⟨?_, ?_⟩, fun blocks hread => ?_⟩
  · rintro ⟨blocks, hread⟩
    exact ⟨blocks, deserializeFrom_ok le_rfl hread⟩
  · rintro ⟨blocks, hvalid, rfl⟩
    exact ⟨blocks, deserializeBlocks_flatten hvalid⟩
  · obtain ⟨hvalid, rfl⟩ := deserializeFrom_ok le_rfl hread
    exact serializeFrom_of_valid hvalid 0

/-! ## The check of the receiver -/

/-- The loop of `validateBlockOrdering` over `n` blocks, from position `i` on. -/
def checkOrderFrom (n : ℕ) : ℕ → List SSU2Block → Except Oops Unit
  | _, [] => .ok ()
  | i, block :: rest =>
    if block.type = blockTypePadding ∧ (i : ℤ) ≠ n - 1 then
      .error (.errorf s!"Padding block at position {i} but must be last (total {n} blocks)")
    else
      let after := if block.type = blockTypeTermination ∧ (i : ℤ) < n - 1 then
        rest.find? fun after => after.type ≠ blockTypePadding else none
      match after with
      | some after => .error (.errorf (s!"Termination block at position {i} followed by " ++
          s!"non-Padding block type {after.type}"))
      | none => checkOrderFrom n (i + 1) rest

def validateBlockOrdering (blocks : List SSU2Block) : Except Oops Unit :=
  checkOrderFrom blocks.length 0 blocks

/-- `b'` may come after `b`. -/
def MayFollow (b b' : SSU2Block) : Prop :=
  b.type ≠ blockTypePadding ∧ (b.type = blockTypeTermination → b'.type = blockTypePadding)

theorem checkOrderFrom_eq_ok_iff {n i : ℕ} (hn : i + blocks.length = n) :
    checkOrderFrom n i blocks = .ok () ↔ blocks.Pairwise MayFollow := by
  induction blocks generalizing i with
  | nil => exact iff_of_true rfl .nil
  | cons block rest ih =>
    rw [List.length_cons] at hn
    rw [List.pairwise_cons, ← ih (i := i + 1) (by omega), checkOrderFrom]
    cases rest with
    | nil =>
      rw [List.length_nil] at hn
      rw [if_neg fun h => h.2 (by omega), if_neg fun h => by omega]
      simp
    | cons next rest =>
      rw [List.length_cons] at hn
      by_cases hpad : block.type = blockTypePadding
      · rw [if_pos ⟨hpad, by omega⟩]
        exact iff_of_false nofun fun h => (h.1 next List.mem_cons_self).1 hpad
      · rw [if_neg fun h => hpad h.1]
        by_cases hterm : block.type = blockTypeTermination
        · rw [if_pos ⟨hterm, by omega⟩]
          cases hfind : (next :: rest).find? fun after => after.type ≠ blockTypePadding with
          | some after =>
            refine iff_of_false nofun fun h => ?_
            have hne := List.find?_some hfind
            exact of_decide_eq_true hne ((h.1 after (List.mem_of_find?_eq_some hfind)).2 hterm)
          | none =>
            refine ⟨fun h => ⟨fun b' hb' => ⟨hpad, fun _ => ?_⟩, h⟩, And.right⟩
            simpa using List.find?_eq_none.mp hfind b' hb'
        · rw [if_neg fun h => hterm h.1]
          exact ⟨fun h => ⟨fun b' _ => ⟨hpad, fun h => absurd h hterm⟩, h⟩, And.right⟩

/-- **The two rules agree.** The receiver accepts a list of blocks exactly if nothing comes after
Padding and only Padding after Termination, and it accepts what the sender's pass makes of any
list. -/
theorem validateBlockOrdering_agrees (blocks : List SSU2Block) :
    (validateBlockOrdering blocks = .ok () ↔
      (blocks.Pairwise fun b _ => b.type ≠ blockTypePadding) ∧
        blocks.Pairwise fun b b' => b.type = blockTypeTermination → b'.type = blockTypePadding) ∧
    validateBlockOrdering (enforceBlockOrder blocks) = .ok () := by
  refine ⟨(checkOrderFrom_eq_ok_iff (Nat.zero_add _)).trans List.pairwise_and_iff, ?_⟩
  refine (checkOrderFrom_eq_ok_iff (Nat.zero_add _)).mpr ?_
  have h0 : ∀ b ∈ atPlace 0 blocks, ∀ b', MayFollow b b' := fun b hb b' =>
    have hb := place_eq_zero_iff.mp (place_of_mem_atPlace hb)
    ⟨hb.2, fun h => absurd h hb.1⟩
  have hone : ∀ o : Option SSU2Block, o.toList.Pairwise MayFollow := fun o => by
    cases o <;> simp
  rw [enforceBlockOrder_eq, List.append_assoc, List.pairwise_append, List.pairwise_append]
  refine ⟨List.pairwise_of_forall_mem_list fun b hb b' _ => h0 b hb b', ⟨hone _, hone _, ?_⟩,
    fun b hb b' _ => h0 b hb b'⟩
  intro b hb b' hb'
  have hb := place_of_mem_atPlace ((getLast?_toList_sublist _).mem hb)
  have hb' := place_of_mem_atPlace ((getLast?_toList_sublist _).mem hb')
  rw [place_eq_one_iff] at hb
  refine ⟨fun h => absurd (hb.symm.trans h) (by decide), fun _ => place_eq_two_iff.mp hb'⟩

end GoNoise.SSU2
