import GoNoise.Library.Calls
import GoNoise.SSU2.Wire.Packet
import Mathlib.Data.List.Sort

/-!
# SessionConfirmed in fragments

`session_confirmed.go` cuts the last message of the handshake into packets; `conn_handshake.go`
collects them in any order, sorts them by their index and puts them together again. The last 16
bytes of the last packet travel as its tag. A last packet with fewer bytes than that gets a tag of
zeros, and the receiver takes the zeros for a part of the message.
-/

namespace GoNoise.SSU2

open BigEndian

/-! ## `session_confirmed.go` -/

def sessionConfirmedMaxPerPacket : ℕ := 1216

def sessionConfirmedMaxFragments : ℕ := 15

def computeFragmentCount (ciphertextSize : ℕ) : Except Oops ℕ :=
  let totalFrags :=
    (ciphertextSize + sessionConfirmedMaxPerPacket - 1) / sessionConfirmedMaxPerPacket
  let totalFrags := if totalFrags < 1 then 1 else totalFrags
  if sessionConfirmedMaxFragments < totalFrags then
    .error <| .errorf <| s!"SessionConfirmed requires {totalFrags} fragments, " ++
      s!"max {sessionConfirmedMaxFragments}"
  else .ok totalFrags

def buildSessionConfirmedHeader (connID : UInt64) (packetNumber : UInt32) (fragNum totalFrags : ℕ) :
    Bytes :=
  putUint64 connID ++ putUint32 packetNumber ++
    [messageTypeSessionConfirmed, UInt8.ofNat (fragNum <<< 4) ||| UInt8.ofNat totalFrags, 0, 0]

section
variable (connID : UInt64) (packetNumber : UInt32) (totalFrags : ℕ)

/-- The packet number `i`, with its part of the message. -/
def fragmentPacket (i : ℕ) (chunk : Bytes) : SSU2Packet where
  header := buildSessionConfirmedHeader connID packetNumber i totalFrags
  ephemeralKey := []
  payload := if i + 1 = totalFrags ∧ macSize ≤ chunk.length then chunk.take (chunk.length - macSize)
    else chunk
  mac := if i + 1 = totalFrags ∧ macSize ≤ chunk.length then chunk.drop (chunk.length - macSize)
    else List.replicate macSize 0
  messageType := messageTypeSessionConfirmed
  packetNumber := packetNumber
  timestamp := 0

/-- The loop of `buildFragmentPackets`: `n` more packets from number `i` on. -/
def fragmentsFrom : ℕ → ℕ → Bytes → List SSU2Packet
  | 0, _, _ => []
  | n + 1, i, rest =>
    fragmentPacket connID packetNumber totalFrags i (rest.take sessionConfirmedMaxPerPacket) ::
      fragmentsFrom n (i + 1) (rest.drop sessionConfirmedMaxPerPacket)

def buildFragmentPackets (ciphertext : Bytes) : List SSU2Packet :=
  fragmentsFrom connID packetNumber totalFrags totalFrags 0 ciphertext

end

def fragmentIndex (p : SSU2Packet) : ℕ := ((p.header.getD 13 0 >>> 4) &&& 0x0F).toNat

def fragmentTotal (p : SSU2Packet) : ℕ := (p.header.getD 13 0 &&& 0x0F).toNat

/-- The loop of `validateFragmentOrdering` from number `i` on. -/
def validateFragmentsFrom : ℕ → List SSU2Packet → Except Oops Unit
  | _, [] => .ok ()
  | i, p :: packets =>
    if p.messageType ≠ messageTypeSessionConfirmed then
      .error <| .errorf <| s!"fragment {i}: expected SessionConfirmed (type 2), " ++
        s!"got type {p.messageType}"
    else if fragmentIndex p ≠ i then
      .error <| .errorf s!"fragment {i}: unexpected fragment number {fragmentIndex p}"
    else validateFragmentsFrom (i + 1) packets

/-- `validateFragmentOrdering`, of at least one packet. -/
def validateFragmentOrdering (packets : List SSU2Packet) : Except Oops Unit :=
  let totalFrags := (packets.head?.map fragmentTotal).getD 0
  let totalFrags := if totalFrags < 1 then 1 else totalFrags
  if packets.length ≠ totalFrags then
    .error <| .errorf s!"expected {totalFrags} fragments, got {packets.length}"
  else validateFragmentsFrom 0 packets

def reassembleFragments (packets : List SSU2Packet) : Bytes :=
  packets.flatMap (·.payload) ++ (packets.getLast?.map (·.mac)).getD []

/-! ## `conn_handshake.go` -/

def validateConfirmedFragment (frag : SSU2Packet) (expectedTotal : ℕ) : Except Oops Unit :=
  if frag.messageType ≠ messageTypeSessionConfirmed then
    .error <| .errorf s!"expected SessionConfirmed fragment, got type {frag.messageType}"
  else if frag.header.length < 14 then
    .error <| .errorf "SessionConfirmed fragment has truncated header"
  else if fragmentTotal frag ≠ expectedTotal then
    .error <| .errorf <| s!"SessionConfirmed fragment total mismatch: first={expectedTotal}, " ++
      s!"got={fragmentTotal frag}"
  else .ok ()

/-- `sortFragmentsByIndex`: each fragment in turn moves down past those before it with a larger
index. The part that is sorted is kept in reverse. -/
def sortFragmentsByIndex (fragments : List SSU2Packet) : List SSU2Packet :=
  (fragments.foldl
    (fun sorted frag => sorted.orderedInsert (fun f p => ¬ fragmentIndex f < fragmentIndex p) frag)
    []).reverse

/-- The loop of `collectConfirmedFragments`. `received` is what `receivePacketWithTimeout` will
return; the call waits when there is no more. -/
def collectFrom (totalFrags : ℕ) : List ℕ → List SSU2Packet → List (Except Oops SSU2Packet) →
    Outcome Oops (List SSU2Packet) × List (Except Oops SSU2Packet)
  | seen, fragments, [] =>
    if seen.length < totalFrags then (.waiting, []) else (.ok fragments, [])
  | seen, fragments, next :: received =>
    if seen.length < totalFrags then
      match next with
      | .error e => (.error (e.wrapf <| s!"failed to receive SessionConfirmed fragment " ++
          s!"({seen.length} of {totalFrags} received)"), received)
      | .ok frag =>
        match validateConfirmedFragment frag totalFrags with
        | .error e => (.error e, received)
        | .ok () =>
          if fragmentIndex frag ∈ seen then collectFrom totalFrags seen fragments received
          else collectFrom totalFrags (fragmentIndex frag :: seen) (fragments ++ [frag]) received
    else (.ok fragments, next :: received)

def collectConfirmedFragments (first : SSU2Packet) (received : List (Except Oops SSU2Packet)) :
    Outcome Oops (List SSU2Packet) × List (Except Oops SSU2Packet) :=
  if first.header.length < 14 then (.ok [first], received)
  else
    let totalFrags := fragmentTotal first
    if totalFrags < 1 ∨ 15 < totalFrags then
      (.error <| .errorf <| s!"invalid SessionConfirmed total fragment count: {totalFrags} " ++
        "(must be 1-15)", received)
    else if totalFrags = 1 then (.ok [first], received)
    else
      match collectFrom totalFrags [fragmentIndex first] [first] received with
      | (.ok fragments, received) => (.ok (sortFragmentsByIndex fragments), received)
      | result => result

/-! ## In order -/

variable {copies fragments packets received : List SSU2Packet} {i totalFrags : ℕ} {p q : SSU2Packet}
  {seen : List ℕ} (connID : UInt64) (packetNumber : UInt32)

theorem reassembleFragments_cons (p : SSU2Packet) (hne : packets ≠ []) :
    reassembleFragments (p :: packets) = p.payload ++ reassembleFragments packets := by
  rw [reassembleFragments, reassembleFragments, List.flatMap_cons, List.getLast?_cons,
    List.getLast?_eq_some_getLast hne, List.append_assoc]
  rfl

section
variable {connID : UInt64} {packetNumber : UInt32} {totalFrags : ℕ}

theorem length_fragmentsFrom (n i : ℕ) (rest : Bytes) :
    (fragmentsFrom connID packetNumber totalFrags n i rest).length = n := by
  induction n generalizing i rest with
  | zero => rfl
  | succ n ih => rw [fragmentsFrom, List.length_cons, ih]

/-- In order. The message comes back, and zeros behind it if the last packet is too short to
have a tag of its own. -/
theorem reassembleFragments_fragmentsFrom {n i : ℕ} {rest : Bytes}
    (hlast : i + (n + 1) = totalFrags)
    (hlong : n * sessionConfirmedMaxPerPacket < rest.length)
    (hshort : rest.length ≤ (n + 1) * sessionConfirmedMaxPerPacket) :
    reassembleFragments (fragmentsFrom connID packetNumber totalFrags (n + 1) i rest) =
      rest ++ if macSize ≤ rest.length - n * sessionConfirmedMaxPerPacket then []
        else List.replicate macSize 0 := by
  induction n generalizing i rest with
  | zero =>
    have hchunk : rest.take sessionConfirmedMaxPerPacket = rest :=
      List.take_of_length_le (by omega)
    rw [fragmentsFrom, fragmentsFrom, hchunk, reassembleFragments, List.flatMap_singleton,
      List.getLast?_singleton, Nat.zero_mul, Nat.sub_zero]
    dsimp only [Option.map_some, Option.getD_some, fragmentPacket]
    split_ifs with hpart hmac hmac
    · rw [List.take_append_drop, List.append_nil]
    · exact absurd hpart.2 hmac
    · exact absurd ⟨by omega, hmac⟩ hpart
    · rfl
  | succ n ih =>
    rw [Nat.succ_mul] at hlong
    rw [Nat.succ_mul, Nat.succ_mul] at hshort
    have hne : fragmentsFrom connID packetNumber totalFrags (n + 1) (i + 1)
        (rest.drop sessionConfirmedMaxPerPacket) ≠ [] :=
      List.ne_nil_of_length_pos (by rw [length_fragmentsFrom]; exact Nat.succ_pos n)
    have hpayload : (fragmentPacket connID packetNumber totalFrags i
        (rest.take sessionConfirmedMaxPerPacket)).payload =
        rest.take sessionConfirmedMaxPerPacket := if_neg fun h => by omega
    have hdrop := List.length_drop (i := sessionConfirmedMaxPerPacket) (l := rest)
    have hrest := @ih (i + 1) (rest.drop sessionConfirmedMaxPerPacket) (by omega) (by omega)
      (by rw [Nat.succ_mul]; omega)
    rw [fragmentsFrom, reassembleFragments_cons _ hne, hpayload, hrest, ← List.append_assoc,
      List.take_append_drop, hdrop, Nat.succ_mul, Nat.sub_sub, Nat.add_comm]

theorem getElem_fragmentsFrom {n i j : ℕ} {rest : Bytes}
    (hj : j < (fragmentsFrom connID packetNumber totalFrags n i rest).length) :
    ∃ chunk, (fragmentsFrom connID packetNumber totalFrags n i rest)[j] =
      fragmentPacket connID packetNumber totalFrags (i + j) chunk := by
  induction n generalizing i j rest with
  | zero => exact absurd hj (Nat.not_lt_zero j)
  | succ n ih =>
    cases j with
    | zero => exact ⟨_, rfl⟩
    | succ j =>
      obtain ⟨chunk, hchunk⟩ := @ih (i + 1) j (rest.drop sessionConfirmedMaxPerPacket)
        (by simpa [fragmentsFrom] using hj)
      refine ⟨chunk, ?_⟩
      simp only [fragmentsFrom, List.getElem_cons_succ, hchunk]
      congr 1
      omega

end

/-! ## Numbers -/

theorem fragment_numbers (hi : i < totalFrags) (htotal : totalFrags ≤ 15) :
    (((UInt8.ofNat (i <<< 4) ||| UInt8.ofNat totalFrags) >>> 4) &&& 0x0F).toNat = i ∧
      ((UInt8.ofNat (i <<< 4) ||| UInt8.ofNat totalFrags) &&& 0x0F).toNat = totalFrags := by
  have hall : ∀ i : Fin 15, ∀ n : Fin 16,
      (((UInt8.ofNat (i.val <<< 4) ||| UInt8.ofNat n.val) >>> 4) &&& 0x0F).toNat = i.val ∧
        ((UInt8.ofNat (i.val <<< 4) ||| UInt8.ofNat n.val) &&& 0x0F).toNat = n.val := by
    decide +kernel
  exact hall ⟨i, by omega⟩ ⟨totalFrags, by omega⟩

/-- Packets that say of themselves which fragments they are. -/
structure Numbered (packets : List SSU2Packet) : Prop where
  index : ∀ i (hi : i < packets.length), fragmentIndex packets[i] = i
  total : ∀ p ∈ packets, fragmentTotal p = packets.length
  header : ∀ p ∈ packets, 14 ≤ p.header.length
  messageType : ∀ p ∈ packets, p.messageType = messageTypeSessionConfirmed

theorem getD_buildSessionConfirmedHeader (fragNum totalFrags : ℕ) :
    (buildSessionConfirmedHeader connID packetNumber fragNum totalFrags).getD 13 0 =
      UInt8.ofNat (fragNum <<< 4) ||| UInt8.ofNat totalFrags := by
  rw [buildSessionConfirmedHeader, List.getD_append_right _ _ _ _ (by simp)]
  simp

theorem numbered_buildFragmentPackets (htotal : totalFrags ≤ 15) (ciphertext : Bytes) :
    Numbered (buildFragmentPackets connID packetNumber totalFrags ciphertext) := by
  have hlength : (buildFragmentPackets connID packetNumber totalFrags ciphertext).length =
      totalFrags := length_fragmentsFrom _ _ _
  have hget : ∀ i
      (hi : i < (buildFragmentPackets connID packetNumber totalFrags ciphertext).length),
      ∃ chunk, (buildFragmentPackets connID packetNumber totalFrags ciphertext)[i] =
        fragmentPacket connID packetNumber totalFrags i chunk := fun i hi => by
    obtain ⟨chunk, hchunk⟩ := getElem_fragmentsFrom hi
    exact ⟨chunk, by rw [Nat.zero_add] at hchunk; exact hchunk⟩
  have hmem : ∀ p ∈ buildFragmentPackets connID packetNumber totalFrags ciphertext,
      ∃ i chunk, i < totalFrags ∧ p = fragmentPacket connID packetNumber totalFrags i chunk :=
    fun p hp => by
      obtain ⟨i, hi, rfl⟩ := List.getElem_of_mem hp
      obtain ⟨chunk, hchunk⟩ := hget i hi
      exact ⟨i, chunk, hlength ▸ hi, hchunk⟩
  refine ⟨fun i hi => ?_, fun p hp => ?_, fun p hp => ?_, fun p hp => ?_⟩
  · obtain ⟨chunk, hchunk⟩ := hget i hi
    rw [hchunk, fragmentIndex, fragmentPacket, getD_buildSessionConfirmedHeader]
    exact (fragment_numbers (hlength ▸ hi) htotal).1
  · obtain ⟨i, chunk, hi, rfl⟩ := hmem p hp
    rw [hlength, fragmentTotal, fragmentPacket, getD_buildSessionConfirmedHeader]
    exact (fragment_numbers hi htotal).2
  · obtain ⟨i, chunk, hi, rfl⟩ := hmem p hp
    simp [fragmentPacket, buildSessionConfirmedHeader]
  · obtain ⟨i, chunk, hi, rfl⟩ := hmem p hp
    rfl

/-! ## In any order -/

/-- `p` is `q` as it was received, at some time. -/
def IsCopy (q p : SSU2Packet) : Prop := ∃ t, p = { q with timestamp := t }

theorem IsCopy.fragmentIndex_eq (h : IsCopy q p) : fragmentIndex p = fragmentIndex q := by
  obtain ⟨t, rfl⟩ := h
  rfl

/-- A copy of a numbered packet is that of its index. -/
theorem Numbered.getElem_of_copy (h : Numbered packets) (hq : q ∈ packets) (hcopy : IsCopy q p) :
    ∃ hi : fragmentIndex p < packets.length, IsCopy packets[fragmentIndex p] p := by
  obtain ⟨i, hi, rfl⟩ := List.getElem_of_mem hq
  have hindex : fragmentIndex p = i := hcopy.fragmentIndex_eq.trans (h.index i hi)
  subst hindex
  exact ⟨hi, hcopy⟩

theorem Numbered.validateConfirmedFragment (h : Numbered packets) (hq : q ∈ packets)
    (hcopy : IsCopy q p) : validateConfirmedFragment p packets.length = .ok () := by
  obtain ⟨t, rfl⟩ := hcopy
  have htotal : fragmentTotal { q with timestamp := t } = packets.length := h.total q hq
  rw [SSU2.validateConfirmedFragment, if_neg (not_not.mpr (h.messageType q hq)),
    if_neg (Nat.not_lt.mpr (h.header q hq)), if_neg (not_not.mpr htotal)]

/-- What the loop has when it knows the indices in `seen`. -/
structure Collected (packets : List SSU2Packet) (seen : List ℕ) (fragments : List SSU2Packet) :
    Prop where
  seen_perm : seen.Perm (fragments.map fragmentIndex)
  nodup : seen.Nodup
  copies : ∀ p ∈ fragments, ∃ q ∈ packets, IsCopy q p

theorem Collected.lt_of_mem (h : Collected packets seen fragments) (hnum : Numbered packets)
    (hi : i ∈ seen) : i < packets.length := by
  obtain ⟨p, hp, rfl⟩ := List.mem_map.mp (h.seen_perm.mem_iff.mp hi)
  obtain ⟨q, hq, hcopy⟩ := h.copies p hp
  exact (hnum.getElem_of_copy hq hcopy).1

theorem Collected.length_le (h : Collected packets seen fragments) (hnum : Numbered packets) :
    seen.length ≤ packets.length := by
  have hsub : seen ⊆ List.range packets.length := fun i hi =>
    List.mem_range.mpr (h.lt_of_mem hnum hi)
  have hle := (h.nodup.subperm hsub).length_le
  rwa [List.length_range] at hle

/-- The loop collects one copy of each packet. The induction is on what is received. -/
theorem collectFrom_copies (hnum : Numbered packets)
    (hreceived : ∀ p ∈ received, ∃ q ∈ packets, IsCopy q p) (h : Collected packets seen fragments)
    (hall : ∀ i < packets.length, i ∈ seen ∨ i ∈ received.map fragmentIndex) :
    ∃ seen' fragments' left, collectFrom packets.length seen fragments (received.map .ok) =
        (.ok fragments', left) ∧ Collected packets seen' fragments' ∧
      seen'.length = packets.length := by
  induction received generalizing seen fragments with
  | nil =>
    have hge : packets.length ≤ seen.length := by
      have hsub : List.range packets.length ⊆ seen := fun i hi =>
        (hall i (List.mem_range.mp hi)).resolve_right (List.not_mem_nil)
      have hle := (List.nodup_range.subperm hsub).length_le
      rwa [List.length_range] at hle
    refine ⟨seen, fragments, [], ?_, h, le_antisymm (h.length_le hnum) hge⟩
    rw [List.map_nil, collectFrom, if_neg (Nat.not_lt.mpr hge)]
  | cons p received ih =>
    rw [List.forall_mem_cons] at hreceived
    obtain ⟨⟨q, hq, hcopy⟩, hreceived⟩ := hreceived
    rw [List.map_cons, collectFrom]
    by_cases hmore : seen.length < packets.length
    · rw [if_pos hmore, hnum.validateConfirmedFragment hq hcopy]
      by_cases hseen : fragmentIndex p ∈ seen
      · grind
      · rw [if_neg hseen]
        have hnext : Collected packets (fragmentIndex p :: seen) (fragments ++ [p]) := by
          refine ⟨?_, List.nodup_cons.mpr ⟨hseen, h.nodup⟩, fun p' hp' => ?_⟩
          · rw [List.map_append, List.map_singleton]
            exact (h.seen_perm.cons _).trans (List.perm_append_singleton _ _).symm
          · rcases List.mem_append.mp hp' with hp' | hp'
            · exact h.copies p' hp'
            · exact List.mem_singleton.mp hp' ▸ ⟨q, hq, hcopy⟩
        refine ih hreceived hnext fun i hi => ?_
        rcases hall i hi with hi | hi
        · exact Or.inl (List.mem_cons_of_mem _ hi)
        · grind
    · exact ⟨seen, fragments, _, if_neg hmore, h,
        le_antisymm (h.length_le hnum) (Nat.not_lt.mp hmore)⟩

/-! ## Sorting -/

instance : Std.Total fun f p : SSU2Packet => ¬ fragmentIndex f < fragmentIndex p :=
  ⟨fun f p => by omega⟩

instance : IsTrans SSU2Packet fun f p => ¬ fragmentIndex f < fragmentIndex p :=
  ⟨fun f p q hfp hpq => by omega⟩

theorem sortFragmentsByIndex_eq (fragments : List SSU2Packet) :
    sortFragmentsByIndex fragments = (fragments.reverse.insertionSort
      fun f p => ¬ fragmentIndex f < fragmentIndex p).reverse := by
  rw [sortFragmentsByIndex, List.insertionSort, List.foldr_reverse]

theorem perm_sortFragmentsByIndex (fragments : List SSU2Packet) :
    (sortFragmentsByIndex fragments).Perm fragments := by
  rw [sortFragmentsByIndex_eq]
  exact (List.reverse_perm _).trans
    ((List.perm_insertionSort _ _).trans (List.reverse_perm fragments))

theorem pairwise_sortFragmentsByIndex (fragments : List SSU2Packet) :
    (sortFragmentsByIndex fragments).Pairwise fun p p' => fragmentIndex p ≤ fragmentIndex p' := by
  rw [sortFragmentsByIndex_eq, List.pairwise_reverse]
  exact (List.pairwise_insertionSort _ _).imp fun h => Nat.not_lt.mp h

theorem Collected.sort (h : Collected packets seen fragments) (hnum : Numbered packets)
    (hfull : seen.length = packets.length) :
    List.Forall₂ IsCopy packets (sortFragmentsByIndex fragments) := by
  have hperm := perm_sortFragmentsByIndex fragments
  have hlength : (sortFragmentsByIndex fragments).length = packets.length := by
    rw [hperm.length_eq, ← hfull, h.seen_perm.length_eq, List.length_map]
  -- the indices are 0, 1, … in order
  have hrange : (sortFragmentsByIndex fragments).map fragmentIndex = List.range packets.length := by
    have hall : seen.Perm (List.range packets.length) :=
      (h.nodup.subperm fun i hi => List.mem_range.mpr (h.lt_of_mem hnum hi)).perm_of_length_le
        (by rw [List.length_range, hfull])
    refine List.Perm.eq_of_pairwise (fun _ _ _ _ => le_antisymm) ?_ List.pairwise_le_range
      ((hperm.map _).trans (h.seen_perm.symm.trans hall))
    exact List.pairwise_map.mpr (pairwise_sortFragmentsByIndex fragments)
  refine List.forall₂_iff_get.mpr ⟨hlength.symm, fun i hi hi' => ?_⟩
  have hmem : (sortFragmentsByIndex fragments)[i] ∈ fragments :=
    hperm.mem_iff.mp (List.getElem_mem hi')
  obtain ⟨q, hq, hcopy⟩ := h.copies _ hmem
  obtain ⟨_, hcopy'⟩ := hnum.getElem_of_copy hq hcopy
  have hindex : fragmentIndex (sortFragmentsByIndex fragments)[i] = i := by
    have hget := congrArg (·[i]?) hrange
    simpa [hi', hi] using hget
  simpa only [hindex, List.get_eq_getElem] using hcopy'

/-! ## The round trip -/

theorem validateFragmentsFrom_eq_ok
    (hindex : ∀ j (hj : j < packets.length), fragmentIndex packets[j] = i + j)
    (htype : ∀ p ∈ packets, p.messageType = messageTypeSessionConfirmed) :
    validateFragmentsFrom i packets = .ok () := by
  induction packets generalizing i with
  | nil => rfl
  | cons p packets ih =>
    rw [List.forall_mem_cons] at htype
    have hp : fragmentIndex p = i := hindex 0 (Nat.succ_pos _)
    rw [validateFragmentsFrom, if_neg (not_not.mpr htype.1), if_neg (not_not.mpr hp)]
    refine ih (fun j hj => ?_) htype.2
    have hnext := hindex (j + 1) (Nat.succ_lt_succ hj)
    rw [List.getElem_cons_succ] at hnext
    omega

theorem validateFragmentOrdering_copies (hnum : Numbered packets) (hne : packets ≠ [])
    (h : List.Forall₂ IsCopy packets copies) : validateFragmentOrdering copies = .ok () := by
  have hlength := h.length_eq
  have hmem : ∀ p ∈ copies, ∃ q ∈ packets, IsCopy q p := fun p hp => by
    obtain ⟨i, hi, rfl⟩ := List.getElem_of_mem hp
    exact ⟨packets[i], List.getElem_mem _, (List.forall₂_iff_get.mp h).2 i (hlength ▸ hi) hi⟩
  have htype : ∀ p ∈ copies, p.messageType = messageTypeSessionConfirmed := fun p hp => by
    obtain ⟨q, hq, t, rfl⟩ := hmem p hp
    exact hnum.messageType q hq
  have htotal : (copies.head?.map fragmentTotal).getD 0 = packets.length := by
    cases h with
    | nil => exact absurd rfl hne
    | @cons q _ _ _ hcopy _ =>
      obtain ⟨t, rfl⟩ := hcopy
      exact hnum.total q List.mem_cons_self
  have hpos : ¬ packets.length < 1 := Nat.not_lt.mpr (List.length_pos_of_ne_nil hne)
  rw [validateFragmentOrdering, htotal, if_neg hpos, if_neg (not_not.mpr hlength.symm)]
  refine validateFragmentsFrom_eq_ok (fun j hj => ?_) htype
  have hcopy : IsCopy packets[j] copies[j] := (List.forall₂_iff_get.mp h).2 j (hlength ▸ hj) hj
  rw [hcopy.fragmentIndex_eq, hnum.index, Nat.zero_add]

theorem reassembleFragments_copies (h : List.Forall₂ IsCopy packets copies) :
    reassembleFragments copies = reassembleFragments packets := by
  have hparts : copies.map (·.payload) = packets.map (·.payload) ∧
      copies.map (·.mac) = packets.map (·.mac) := by
    induction h with
    | nil => exact ⟨rfl, rfl⟩
    | @cons q _ _ _ hcopy _ ih =>
      obtain ⟨t, rfl⟩ := hcopy
      exact ⟨congrArg (q.payload :: ·) ih.1, congrArg (q.mac :: ·) ih.2⟩
  rw [reassembleFragments, reassembleFragments, List.flatMap_def, List.flatMap_def,
    ← List.getLast?_map, ← List.getLast?_map, hparts.1, hparts.2]

/-- What arrives are copies of the packets, each at least once. -/
structure Arrives (packets arrivals : List SSU2Packet) : Prop where
  copies : ∀ p ∈ arrivals, ∃ q ∈ packets, IsCopy q p
  all : ∀ q ∈ packets, ∃ p ∈ arrivals, IsCopy q p

theorem arrives_self (packets : List SSU2Packet) : Arrives packets packets :=
  ⟨fun p hp => ⟨p, hp, p.timestamp, rfl⟩, fun q hq => ⟨q, hq, q.timestamp, rfl⟩⟩

/-- Whatever the order. Copies of numbered packets are collected to a copy of the packets in
their order. -/
theorem collect_copies (hnum : Numbered packets) (hmax : packets.length ≤ 15) {first : SSU2Packet}
    (harrives : Arrives packets (first :: received)) :
    ∃ fragments left, collectConfirmedFragments first (received.map .ok) = (.ok fragments, left) ∧
      List.Forall₂ IsCopy packets fragments := by
  obtain ⟨⟨q, hq, hcopy⟩, hreceived⟩ := List.forall_mem_cons.mp harrives.copies
  have htotal : fragmentTotal first = packets.length := by
    obtain ⟨t, rfl⟩ := hcopy
    exact hnum.total q hq
  have hheader : ¬ first.header.length < 14 := by
    obtain ⟨t, rfl⟩ := hcopy
    exact Nat.not_lt.mpr (hnum.header q hq)
  have hpos : 0 < packets.length := List.length_pos_of_mem hq
  rw [collectConfirmedFragments, if_neg hheader, htotal]
  rw [if_neg (by omega)]
  by_cases hone : packets.length = 1
  · obtain ⟨q', rfl⟩ := List.length_eq_one_iff.mp hone
    obtain rfl := List.mem_singleton.mp hq
    exact ⟨[first], _, if_pos hone, .cons hcopy .nil⟩
  · rw [if_neg hone]
    have hstart : Collected packets [fragmentIndex first] [first] :=
      ⟨.refl _, List.nodup_singleton _, fun p hp => List.mem_singleton.mp hp ▸ ⟨q, hq, hcopy⟩⟩
    obtain ⟨seen, fragments, left, hcollect, hcollected, hfull⟩ :=
      collectFrom_copies hnum hreceived hstart fun i hi => by
        obtain ⟨p, hp, hcopy⟩ := harrives.all packets[i] (List.getElem_mem hi)
        have hindex : fragmentIndex p = i := hcopy.fragmentIndex_eq.trans (hnum.index i hi)
        rcases List.mem_cons.mp hp with rfl | hp
        · exact Or.inl (List.mem_singleton.mpr hindex.symm)
        · exact Or.inr (List.mem_map.mpr ⟨p, hp, hindex⟩)
    rw [hcollect]
    exact ⟨_, left, rfl, hcollected.sort hnum hfull⟩

theorem computeFragmentCount_eq_ok {size : ℕ} (hsize : 0 < size)
    (h : computeFragmentCount size = .ok totalFrags) :
    totalFrags ≤ 15 ∧ ∃ n, totalFrags = n + 1 ∧ n * sessionConfirmedMaxPerPacket < size ∧
      size ≤ (n + 1) * sessionConfirmedMaxPerPacket := by
  unfold computeFragmentCount at h
  unfold sessionConfirmedMaxPerPacket sessionConfirmedMaxFragments at *
  dsimp only at h
  split_ifs at h with hfew htoo htoo
  all_goals obtain rfl := Except.ok.inj h
  · omega
  · exact ⟨by omega, (size + 1216 - 1) / 1216 - 1, by omega, by omega, by omega⟩

/-- **SessionConfirmed in fragments.** Whatever the order of arrival and the duplicates, the
receiver puts the message together again, exactly if the last packet has at least 16 bytes of it. -/
theorem fragments_roundTrip_iff (connID : UInt64) (packetNumber : UInt32) {ciphertext : Bytes}
    (hlen : 64 ≤ ciphertext.length) {totalFrags : ℕ}
    (hcount : computeFragmentCount ciphertext.length = .ok totalFrags) :
    (∀ first received,
        Arrives (buildFragmentPackets connID packetNumber totalFrags ciphertext)
          (first :: received) →
        ∃ fragments left,
          collectConfirmedFragments first (received.map .ok) = (.ok fragments, left) ∧
          validateFragmentOrdering fragments = .ok () ∧
          reassembleFragments fragments = ciphertext) ↔
      ¬ (0 < ciphertext.length % 1216 ∧ ciphertext.length % 1216 < 16) := by
  obtain ⟨hmax, n, rfl, hlong, hshort⟩ := computeFragmentCount_eq_ok (by omega) hcount
  have hnum := numbered_buildFragmentPackets connID packetNumber hmax ciphertext
  have hlength : (buildFragmentPackets connID packetNumber (n + 1) ciphertext).length = n + 1 :=
    length_fragmentsFrom _ _ _
  have hne : buildFragmentPackets connID packetNumber (n + 1) ciphertext ≠ [] :=
    List.ne_nil_of_length_pos (by omega)
  have hback : reassembleFragments (buildFragmentPackets connID packetNumber (n + 1) ciphertext) =
      ciphertext ↔ macSize ≤ ciphertext.length - n * sessionConfirmedMaxPerPacket := by
    rw [buildFragmentPackets, reassembleFragments_fragmentsFrom (Nat.zero_add _) hlong hshort]
    split_ifs with hmac
    · simpa using hmac
    · exact iff_of_false (fun h => absurd (List.append_right_eq_self.mp h) (by decide)) hmac
  have hlast : macSize ≤ ciphertext.length - n * sessionConfirmedMaxPerPacket ↔
      ¬ (0 < ciphertext.length % 1216 ∧ ciphertext.length % 1216 < 16) := by
    unfold macSize sessionConfirmedMaxPerPacket at *
    omega
  rw [← hlast, ← hback]
  constructor
  · intro h
    obtain ⟨first, received, hpackets⟩ := List.exists_cons_of_ne_nil hne
    have harrives := arrives_self (buildFragmentPackets connID packetNumber (n + 1) ciphertext)
    nth_rewrite 2 [hpackets] at harrives
    obtain ⟨fragments, left, hcollect, -, hwhole⟩ := h first received harrives
    obtain ⟨fragments', left', hcollect', hcopies⟩ := collect_copies hnum (by omega) harrives
    rw [hcollect] at hcollect'
    cases hcollect'
    rw [← reassembleFragments_copies hcopies, hwhole]
  · intro hwhole first received harrives
    obtain ⟨fragments, left, hcollect, hcopies⟩ := collect_copies hnum (by omega) harrives
    exact ⟨fragments, left, hcollect, validateFragmentOrdering_copies hnum hne hcopies,
      (reassembleFragments_copies hcopies).trans hwhole⟩

theorem fragments_roundTrip_iff_two :
    (buildFragmentPackets 7 0 2 (List.replicate 1300 9)).length = 2 ∧ ∀ first received,
      Arrives (buildFragmentPackets 7 0 2 (List.replicate 1300 9)) (first :: received) →
      ∃ fragments left,
        collectConfirmedFragments first (received.map .ok) = (.ok fragments, left) ∧
        validateFragmentOrdering fragments = .ok () ∧
        reassembleFragments fragments = List.replicate 1300 9 :=
  ⟨rfl, (fragments_roundTrip_iff 7 0 (by rw [List.length_replicate]; decide)
    (by rw [List.length_replicate]; rfl)).mpr (by rw [List.length_replicate]; decide)⟩

/-- 1217 bytes are cut into 1216 and one. What the receiver puts together has 16 zeros more. -/
theorem fragments_zeros_appended :
    ∃ first second, buildFragmentPackets 7 0 2 (List.replicate 1217 9) = [first, second] ∧
      collectConfirmedFragments first [.ok second] = (.ok [first, second], []) ∧
      validateFragmentOrdering [first, second] = .ok () ∧
      reassembleFragments [first, second] = List.replicate 1217 9 ++ List.replicate 16 0 :=
  ⟨_, _, rfl, by decide +kernel, by decide +kernel, by decide +kernel⟩

/-! ## Sizes on the wire -/

/-- `sessionConfirmedMinMTU` without the headers of IPv6 and UDP. -/
def minUDPPayload : ℕ := 1280 - 48

/-- A fragment with a tag of zeros is 32 bytes longer than its part, else 16. -/
theorem serialize_fragmentPacket (totalFrags i : ℕ) {chunk : Bytes}
    (hchunk : chunk.length ≤ sessionConfirmedMaxPerPacket) :
    ∃ data q, (fragmentPacket connID packetNumber totalFrags i chunk).serialize = .ok (data, q) ∧
      data.length = shortHeaderSize + chunk.length +
        if i + 1 = totalFrags ∧ macSize ≤ chunk.length then 0 else macSize := by
  unfold sessionConfirmedMaxPerPacket at hchunk
  have hheader : (buildSessionConfirmedHeader connID packetNumber i totalFrags).length = 16 := by
    simp [buildSessionConfirmedHeader]
  have hsizes : (fragmentPacket connID packetNumber totalFrags i chunk).payload.length +
      (fragmentPacket connID packetNumber totalFrags i chunk).mac.length = chunk.length +
        if i + 1 = totalFrags ∧ macSize ≤ chunk.length then 0 else macSize := by
    simp only [fragmentPacket]
    split_ifs <;> simp
  have hvalid : (fragmentPacket connID packetNumber totalFrags i chunk).Valid := by
    refine ⟨hheader, rfl, ?_, ?_⟩
    · grind [fragmentPacket, List.length_drop]
    · have hmac : macSize = 16 := rfl
      show (buildSessionConfirmedHeader connID packetNumber i totalFrags).length + _ + _ + 0 ≤ 1452
      split_ifs at hsizes <;> omega
  refine ⟨_, _, (SSU2Packet.serialize_eq_ok_iff _ _ _).mpr ⟨hvalid, rfl, rfl⟩, ?_⟩
  rw [Nat.add_assoc, ← hsizes, ← Nat.add_assoc, List.length_append, List.length_append,
    List.length_append, List.length_set]
  exact congrArg (· + _ + _) hheader

/-- **Fragments fit the minimum MTU** exactly if there is only one, or none because the message is
too long: every fragment but the last is 16 bytes too long. -/
theorem fragments_fit_iff (connID : UInt64) (packetNumber : UInt32) (ciphertext : Bytes) :
    (∀ totalFrags, computeFragmentCount ciphertext.length = .ok totalFrags →
        ∀ p ∈ buildFragmentPackets connID packetNumber totalFrags ciphertext,
          ∃ data q, p.serialize = .ok (data, q) ∧ data.length ≤ minUDPPayload) ↔
      ciphertext.length ≤ 1216 ∨ 15 * 1216 < ciphertext.length := by
  have hcount : ciphertext.length ≤ 15 * 1216 → computeFragmentCount ciphertext.length =
      .ok (if (ciphertext.length + 1216 - 1) / 1216 < 1 then 1
        else (ciphertext.length + 1216 - 1) / 1216) := by
    intro hlen
    unfold computeFragmentCount sessionConfirmedMaxPerPacket sessionConfirmedMaxFragments
    rw [if_neg]
    split_ifs <;> omega
  constructor
  · intro h
    by_contra! hlong
    have hfirst := h _ (hcount hlong.2)
    rw [if_neg (by omega)] at hfirst
    obtain ⟨n, hn⟩ : ∃ n, (ciphertext.length + 1216 - 1) / 1216 = n + 2 :=
      ⟨(ciphertext.length + 1216 - 1) / 1216 - 2, by omega⟩
    rw [hn] at hfirst
    obtain ⟨data, q, hserialize, hfit⟩ := hfirst _ List.mem_cons_self
    have hchunk : (ciphertext.take sessionConfirmedMaxPerPacket).length = 1216 := by
      rw [List.length_take]
      exact Nat.min_eq_left (by unfold sessionConfirmedMaxPerPacket; omega)
    obtain ⟨data', q', hserialize', hlength⟩ :=
      serialize_fragmentPacket connID packetNumber (n + 2) 0 hchunk.le
    rw [hserialize] at hserialize'
    cases hserialize'
    rw [hchunk, if_neg (by omega)] at hlength
    rw [hlength] at hfit
    exact absurd hfit (by decide)
  · rintro (hshort | hlong) totalFrags hok p hp
    · rw [hcount (by omega)] at hok
      obtain rfl : 1 = totalFrags := by grind
      have hchunk : ciphertext.take sessionConfirmedMaxPerPacket = ciphertext :=
        List.take_of_length_le hshort
      rw [buildFragmentPackets, fragmentsFrom, fragmentsFrom, List.mem_singleton, hchunk] at hp
      obtain ⟨data, q, hserialize, hlength⟩ :=
        serialize_fragmentPacket connID packetNumber 1 0
          (show ciphertext.length ≤ sessionConfirmedMaxPerPacket from hshort)
      refine ⟨data, q, hp ▸ hserialize, ?_⟩
      rw [hlength]
      unfold shortHeaderSize macSize minUDPPayload
      split_ifs <;> omega
    · unfold computeFragmentCount sessionConfirmedMaxPerPacket sessionConfirmedMaxFragments at hok
      rw [if_pos (by split_ifs <;> omega)] at hok
      cases hok

/-- Of 1217 bytes the first fragment takes 1248 on the wire. -/
theorem first_fragment_too_long :
    ∃ p ∈ buildFragmentPackets 7 0 2 (List.replicate 1217 9), ∃ data q,
      p.serialize = .ok (data, q) ∧ data.length = 1248 ∧ minUDPPayload = 1232 := by
  have hchunk : ((List.replicate 1217 9).take sessionConfirmedMaxPerPacket : Bytes).length =
    1216 := by
    rw [List.length_take, List.length_replicate]
    rfl
  obtain ⟨data, q, hserialize, hlength⟩ := serialize_fragmentPacket 7 0 2 0 hchunk.le
  refine ⟨_, List.mem_cons_self, data, q, hserialize, ?_, rfl⟩
  rw [hlength, hchunk]
  rfl

end GoNoise.SSU2
