import GoNoise.Library.Assoc
import GoNoise.Library.Serial
import GoNoise.Library.Traces
import GoNoise.SSU2.Wire.Packet

/-!
# `ssu2/reliability/receive_window.go`: the receive window

The window holds the next expected packet number and the packets that came ahead of it. `Insert` of
the expected packet releases it with the buffered packets that follow on; numbers wrap around, and
`seqBefore` compares them by half spaces.
-/

namespace GoNoise.SSU2

open Serial Trace

/-! ## The window -/

/-- `ReceiveWindow`. `NewReceiveWindow` makes the bound positive and nothing changes it. -/
structure ReceiveWindow where
  expected : UInt32
  window : GoMap UInt32 SSU2Packet
  maxSize : ℕ
  maxSize_pos : 0 < maxSize

def defaultMaxWindowSize : ℕ := 512

def seqBefore (a b : UInt32) : Bool := (a - b).toInt32 < 0

namespace ReceiveWindow

def newReceiveWindow (expected : UInt32) (maxSize : ℤ) : ReceiveWindow :=
  if h : maxSize ≤ 0 then ⟨expected, ∅, defaultMaxWindowSize, by decide⟩
  else ⟨expected, ∅, maxSize.toNat, by omega⟩

/-- The loop that releases consecutive buffered packets: what it appends to `ready`, and `expected`
and the map after it. A turn removes an entry, so the number of entries bounds the turns. -/
def releaseBuffered : ℕ → UInt32 → GoMap UInt32 SSU2Packet →
    List SSU2Packet × UInt32 × GoMap UInt32 SSU2Packet
  | 0, expected, window => ([], expected, window)
  | fuel + 1, expected, window =>
    match window.lookup expected with
    | none => ([], expected, window)
    | some buffered =>
      let (ready, rest) := releaseBuffered fuel (expected + 1) (window.erase expected)
      (buffered :: ready, rest)

/-- The error of a refused packet, with the values every refusal attaches. -/
def refusal (pktNum expected : UInt32) (more : List (String × ℤ)) (message : String) : Oops :=
  ⟨"", "", [("packetNumber", (pktNum.toNat : ℤ)), ("expected", (expected.toNat : ℤ))] ++ more,
    message⟩

/-- `Insert`; `none` is a nil packet. -/
def insert (w : ReceiveWindow) : Option SSU2Packet → Except Oops (List SSU2Packet) × ReceiveWindow
  | none => (.error <| .errorf "cannot insert nil packet", w)
  | some packet =>
    let pktNum := packet.packetNumber
    -- an old packet, or a duplicate of one already released
    if seqBefore pktNum w.expected then
      (.error <| refusal pktNum w.expected [] "packet already processed (old or duplicate)", w)
    else if pktNum = w.expected then
      if pktNum ∈ w.window then
        (.error <| refusal pktNum w.expected [] "duplicate expected packet (already buffered)", w)
      else
        let (ready, expected, window) :=
          releaseBuffered w.window.size (w.expected + 1) w.window
        (.ok (packet :: ready), { w with expected := expected, window := window })
    -- a future packet
    else if pktNum ∈ w.window then
      (.error <| refusal pktNum w.expected [] "duplicate future packet", w)
    else if w.window.size ≥ w.maxSize then
      (.error <| refusal pktNum w.expected
        [("windowSize", (w.window.size : ℤ)), ("maxSize", (w.maxSize : ℤ))]
        "receive window full", w)
    else (.ok [], { w with window := w.window.insert pktNum packet })

/-- `SetExpected`: what is buffered before the new number is discarded. -/
def setExpected (w : ReceiveWindow) (expected : UInt32) : ReceiveWindow :=
  { w with
    expected := expected
    window := (w.window.keys.filter (seqBefore · expected)).foldl (fun m k => m.erase k) w.window }

def clear (w : ReceiveWindow) (expected : UInt32) : ReceiveWindow :=
  { w with expected := expected, window := ∅ }

end ReceiveWindow

theorem seqBefore_iff (a b : UInt32) : seqBefore a b = true ↔ 2 ^ 31 ≤ ahead a b := by
  have hneg : (a - b).toInt32 < 0 ↔ 2 * 2 ^ 31 ≤ 2 * (a - b).toNat := by
    rw [Int32.lt_iff_toInt_lt]
    exact BitVec.toInt_neg_iff
  rw [seqBefore, decide_eq_true_iff, hneg, ahead]
  omega

namespace ReceiveWindow

/-! ## The release loop -/

/-- What holds of the map inside the window: packets are stored under their numbers, and no number
is more than half the space ahead. -/
structure Buffered (expected : UInt32) (window : GoMap UInt32 SSU2Packet) : Prop where
  number : ∀ k p, window.lookup k = some p → p.packetNumber = k
  near : ∀ k ∈ window, ahead k expected < 2 ^ 31

variable {e : UInt32} {fuel : ℕ} {packet : SSU2Packet} {w : GoMap UInt32 SSU2Packet}

theorem Buffered.erase (h : Buffered e w) : Buffered (e + 1) (w.erase e) := by
  refine ⟨fun k p hp => ?_, fun k hk => ?_⟩
  · by_cases hke : k = e
    · rw [hke, AList.lookup_erase] at hp
      cases hp
    · rw [AList.lookup_erase_ne hke] at hp
      exact h.number k p hp
  · obtain ⟨hne, hk⟩ := AList.mem_erase.mp hk
    have hstep := ahead_succ hne
    have hnear := h.near k hk
    omega

theorem releaseBuffered_notMem (hfuel : w.size ≤ fuel) :
    (releaseBuffered fuel e w).2.1 ∉ (releaseBuffered fuel e w).2.2 := by
  induction fuel generalizing e w with
  | zero =>
    intro hmem
    have hpos := GoMap.size_erase_of_mem hmem
    simp only [releaseBuffered] at hpos
    omega
  | succ fuel ih =>
    rw [releaseBuffered]
    cases hlook : w.lookup e with
    | none => exact AList.lookup_eq_none.mp hlook
    | some p =>
      have hmem : e ∈ w := AList.lookup_isSome.mp (by rw [hlook]; rfl)
      have hsize := GoMap.size_erase_of_mem hmem
      exact ih (by omega)

/-- The release loop. It hands out the packets numbered from the expected number on, moves the
expected number past them, keeps the others, and stops at a number that is not buffered. -/
theorem releaseBuffered_spec {e' : UInt32} {w' : GoMap UInt32 SSU2Packet} {ready : List SSU2Packet}
    (hbuf : Buffered e w) (hfuel : w.size ≤ fuel)
    (hrel : releaseBuffered fuel e w = (ready, e', w')) :
    ready.map SSU2Packet.packetNumber = seqFrom e ready.length ∧
      e' = e + UInt32.ofNat ready.length ∧ (ready ++ w'.values).Perm w.values ∧
        Buffered e' w' ∧ e' ∉ w' ∧
          ∀ k, k ∈ w' ↔ k ∈ w ∧ k ∉ ready.map SSU2Packet.packetNumber := by
  induction fuel generalizing e w ready with
  | zero =>
    cases hrel
    have hempty : ∀ k, k ∉ w' := fun k hk => by
      have hpos := GoMap.size_erase_of_mem hk
      omega
    refine ⟨rfl, (UInt32.add_zero e').symm, List.Perm.refl _, hbuf, hempty e', fun k => ?_⟩
    exact iff_of_false (hempty k) fun hk => hempty k hk.1
  | succ fuel ih =>
    rw [releaseBuffered] at hrel
    cases hlook : w.lookup e with
    | none =>
      rw [hlook] at hrel
      cases hrel
      refine ⟨rfl, (UInt32.add_zero e').symm, List.Perm.refl _, hbuf, ?_, fun k => ?_⟩
      · exact AList.lookup_eq_none.mp hlook
      · exact (and_iff_left (List.not_mem_nil)).symm
    | some p =>
      have hmem : e ∈ w := AList.lookup_isSome.mp (by rw [hlook]; rfl)
      have hsize := GoMap.size_erase_of_mem hmem
      rcases hrest : releaseBuffered fuel (e + 1) (w.erase e) with ⟨ready', e'', w''⟩
      rw [hlook] at hrel
      rw [hrest] at hrel
      cases hrel
      obtain ⟨hnum, he, hperm, hbuf', hout, hkeys⟩ := ih hbuf.erase (by omega) hrest
      have hp : p.packetNumber = e := hbuf.number e p hlook
      refine ⟨?_, ?_, ?_, hbuf', hout, fun k => ?_⟩
      · rw [List.map_cons, hp, hnum, List.length_cons, seqFrom_succ]
      · rw [he, List.length_cons, add_ofNat_succ]
      · rw [List.cons_append]
        exact (hperm.cons p).trans (GoMap.perm_cons_values_erase hlook)
      · rw [hkeys k, AList.mem_erase, List.map_cons, List.mem_cons, hp]
        tauto

/-! ## One call -/

/-- Every way a call can end. A refused packet leaves the window as it was. -/
theorem insert_cases (w : ReceiveWindow) (packet : SSU2Packet) :
    (∃ e, w.insert (some packet) = (.error e, w) ∧
        (2 ^ 31 ≤ ahead packet.packetNumber w.expected ∨ packet.packetNumber ∈ w.window ∨
          packet.packetNumber ≠ w.expected ∧ w.maxSize ≤ w.window.size)) ∨
      (packet.packetNumber = w.expected ∧ w.expected ∉ w.window ∧
        ∃ ready expected window,
          releaseBuffered w.window.size (w.expected + 1) w.window = (ready, expected, window) ∧
            w.insert (some packet) =
              (.ok (packet :: ready), { w with expected := expected, window := window })) ∨
      (packet.packetNumber ≠ w.expected ∧ packet.packetNumber ∉ w.window ∧
        ahead packet.packetNumber w.expected < 2 ^ 31 ∧ w.window.size < w.maxSize ∧
          w.insert (some packet) =
            (.ok [], { w with window := w.window.insert packet.packetNumber packet })) := by
  rw [insert]
  by_cases hbefore : seqBefore packet.packetNumber w.expected = true
  · rw [if_pos hbefore]
    exact Or.inl ⟨_, rfl, Or.inl ((seqBefore_iff _ _).mp hbefore)⟩
  rw [if_neg hbefore]
  have hnear : ahead packet.packetNumber w.expected < 2 ^ 31 :=
    Nat.not_le.mp fun h => hbefore ((seqBefore_iff _ _).mpr h)
  by_cases heq : packet.packetNumber = w.expected
  · grind
  rw [if_neg heq]
  by_cases hmem : packet.packetNumber ∈ w.window
  · rw [if_pos hmem]
    exact Or.inl ⟨_, rfl, Or.inr (Or.inl hmem)⟩
  rw [if_neg hmem]
  by_cases hfull : w.window.size ≥ w.maxSize
  · rw [if_pos hfull]
    exact Or.inl ⟨_, rfl, Or.inr (Or.inr ⟨heq, hfull⟩)⟩
  · rw [if_neg hfull]
    exact Or.inr (Or.inr ⟨heq, hmem, hnear, Nat.not_le.mp hfull, rfl⟩)

/-! ## Runs -/

/-- A window with what its calls returned and accepted so far. -/
structure Log where
  window : ReceiveWindow
  delivered : List SSU2Packet
  accepted : List SSU2Packet

/-- The log after a call: the ready list is appended, and the packet if there was no error. -/
def Log.insert (l : Log) (packet : Option SSU2Packet) : Log :=
  match l.window.insert packet with
  | (.ok ready, w) => ⟨w, l.delivered ++ ready, l.accepted ++ packet.toList⟩
  | (.error _, w) => ⟨w, l.delivered, l.accepted⟩

/-- The log after the calls `packets`, from an empty window. -/
def logOf (expected : UInt32) (maxSize : ℤ) (packets : List (Option SSU2Packet)) : Log :=
  exec Log.insert ⟨newReceiveWindow expected maxSize, [], []⟩ packets

/-- The invariant of a log that started at number `e` with room for `bound` packets. -/
structure Log.Inv (e : UInt32) (bound : ℕ) (l : Log) : Prop where
  numbers : l.delivered.map SSU2Packet.packetNumber = seqFrom e l.delivered.length
  expected : l.window.expected = e + UInt32.ofNat l.delivered.length
  accepted : l.accepted.Perm (l.delivered ++ l.window.window.values)
  buffered : Buffered l.window.expected l.window.window
  notMem : l.window.expected ∉ l.window.window
  maxSize : l.window.maxSize = bound
  size_le : l.window.window.size ≤ bound

theorem Buffered.insert (h : Buffered e w) (hnear : ahead packet.packetNumber e < 2 ^ 31) :
    Buffered e (w.insert packet.packetNumber packet) := by
  refine ⟨fun k p hp => ?_, fun k hk => ?_⟩
  · by_cases hk : k = packet.packetNumber
    · rw [hk, AList.lookup_insert] at hp
      rw [hk, ← Option.some.inj hp]
    · rw [AList.lookup_insert_ne hk] at hp
      exact h.number k p hp
  · rcases (AList.mem_insert w).mp hk with rfl | hk
    · exact hnear
    · exact h.near k hk

/-- The expected packet is in, so everything buffered is near the next number. -/
theorem Buffered.succ (h : Buffered e w) (hout : e ∉ w) : Buffered (e + 1) w := by
  refine ⟨h.number, fun k hk => ?_⟩
  have hstep := ahead_succ (k := k) (e := e) fun hke => hout (hke ▸ hk)
  have hnear := h.near k hk
  omega

theorem Log.Inv.insert {bound : ℕ} {l : Log} (h : l.Inv e bound)
    (packet : Option SSU2Packet) : (l.insert packet).Inv e bound := by
  cases packet with
  | none => exact h
  | some packet =>
    rcases l.window.insert_cases packet with ⟨err, hins, -⟩ |
      ⟨heq, hout, ready, e', w', hrel, hins⟩ | ⟨hne, hnot, hnear, hroom, hins⟩
    · rw [Log.insert, hins]
      exact h
    · rw [Log.insert, hins]
      obtain ⟨hnum, he', hperm, hbuf, hout', hkeys⟩ :=
        releaseBuffered_spec (h.buffered.succ hout) (Nat.le_refl _) hrel
      have hlen : (l.delivered ++ packet :: ready).length =
          l.delivered.length + (ready.length + 1) := by
        rw [List.length_append, List.length_cons]
      refine ⟨?_, ?_, ?_, hbuf, hout', h.maxSize, ?_⟩
      · rw [hlen, seqFrom_append, List.map_append, h.numbers, List.map_cons, heq, hnum, h.expected,
          seqFrom_succ]
      · rw [hlen, he', h.expected, UInt32.ofNat_add, ← UInt32.add_assoc, add_ofNat_succ]
      · have hmid : (l.delivered ++ l.window.window.values ++ [packet]).Perm
            (l.delivered ++ packet :: l.window.window.values) := by grind
        refine ((h.accepted.append_right [packet]).trans hmid).trans ?_
        rw [List.append_assoc, List.cons_append]
        exact ((hperm.symm).cons packet).append_left _
      · refine le_trans ?_ h.size_le
        refine (GoMap.size_le_of_keys_subset (l := l.window.window.keys) fun k hk => ?_).trans
          (Nat.le_of_eq (GoMap.length_keys _))
        exact AList.mem_keys.mp ((hkeys k).mp hk).1
    · rw [Log.insert, hins]
      refine ⟨?_, ?_, ?_, h.buffered.insert hnear, ?_, h.maxSize, ?_⟩
      · show (l.delivered ++ []).map _ = seqFrom e (l.delivered ++ []).length
        rw [List.append_nil]
        exact h.numbers
      · show l.window.expected = e + UInt32.ofNat (l.delivered ++ []).length
        rw [List.append_nil]
        exact h.expected
      · show (l.accepted ++ [packet]).Perm
          (l.delivered ++ [] ++ GoMap.values (l.window.window.insert packet.packetNumber packet))
        rw [List.append_nil, GoMap.values_insert_of_notMem packet hnot]
        refine (h.accepted.append_right [packet]).trans ?_
        rw [List.append_assoc]
        exact (List.perm_append_singleton packet _).append_left _
      · rw [AList.mem_insert]
        rintro (he | hmem)
        · exact hne he.symm
        · exact h.notMem hmem
      · rw [GoMap.size_insert_of_notMem packet hnot, ← h.maxSize]
        exact hroom

theorem newReceiveWindow_empty (e : UInt32) (maxSize : ℤ) :
    (newReceiveWindow e maxSize).window = ∅ ∧ (newReceiveWindow e maxSize).expected = e := by
  unfold newReceiveWindow
  split_ifs <;> exact ⟨rfl, rfl⟩

theorem inv_logOf (e : UInt32) (maxSize : ℤ) (packets : List (Option SSU2Packet)) :
    (logOf e maxSize packets).Inv e (newReceiveWindow e maxSize).maxSize := by
  obtain ⟨hw, he⟩ := newReceiveWindow_empty e maxSize
  have hno : ∀ k, k ∉ (newReceiveWindow e maxSize).window := fun k => by
    rw [hw]
    exact AList.notMem_empty k
  refine exec_induct (P := fun _ _ => True) (fun l packet hl _ => hl.insert packet) ?_
    (always_iff.mpr fun _ _ _ _ => trivial)
  refine ⟨rfl, ?_, ?_, ⟨fun k p hp => ?_, fun k hk => absurd hk (hno k)⟩, hno _, rfl, ?_⟩
  · rw [he]
    exact (UInt32.add_zero e).symm
  · rw [hw]
    exact List.Perm.refl _
  · rw [hw] at hp
    cases hp
  · rw [hw]
    exact Nat.zero_le _

/-- **The receive window over a run.** From an empty window that expects `e`, after any calls of
`Insert`: the packets handed out are numbered `e`, `e + 1`, … around the number space; the accepted
packets are those handed out and those buffered, each once; every buffered number is ahead of the
expected one by less than half the space; and at most `maxSize` packets are buffered. -/
theorem insert_run (e : UInt32) (maxSize : ℤ) (hmax : 1 ≤ maxSize)
    (packets : List (Option SSU2Packet)) :
    (logOf e maxSize packets).delivered.map SSU2Packet.packetNumber =
        (List.range (logOf e maxSize packets).delivered.length).map (e + UInt32.ofNat ·) ∧
      (logOf e maxSize packets).accepted.Perm
        ((logOf e maxSize packets).delivered ++ (logOf e maxSize packets).window.window.values) ∧
      (∀ k ∈ (logOf e maxSize packets).window.window,
        0 < (k - (logOf e maxSize packets).window.expected).toNat ∧
          (k - (logOf e maxSize packets).window.expected).toNat < 2 ^ 31) ∧
      ((logOf e maxSize packets).window.window.size : ℤ) ≤ maxSize := by
  have h := inv_logOf e maxSize packets
  refine ⟨h.numbers, h.accepted, fun k hk => ⟨?_, h.buffered.near k hk⟩, ?_⟩
  · refine Nat.pos_of_ne_zero fun h0 => h.notMem ?_
    rwa [← ahead_eq_zero_iff.mp h0]
  · have hle : ((logOf e maxSize packets).window.window.size : ℤ) ≤
        (newReceiveWindow e maxSize).maxSize := by exact_mod_cast h.size_le
    rwa [newReceiveWindow, dif_neg (by omega), Int.toNat_of_nonneg (by omega)] at hle

/-- Number 0 comes before the last number of the space and waits for it. -/
theorem insert_run_around :
    (logOf 0xFFFFFFFF 2 [some (.newSSU2Packet messageTypeData 0 0), none,
        some (.newSSU2Packet messageTypeData 0xFFFFFFFF 0)]).delivered.map
          SSU2Packet.packetNumber = [0xFFFFFFFF, 0] ∧
      ((logOf 0xFFFFFFFF 2 [some (.newSSU2Packet messageTypeData 0 0), none,
        some (.newSSU2Packet messageTypeData 0xFFFFFFFF 0)]).window.window.size : ℤ) ≤ 2 := by
  obtain ⟨hnum, -, -, hsize⟩ := insert_run 0xFFFFFFFF 2 (by decide)
    [some (.newSSU2Packet messageTypeData 0 0), none,
      some (.newSSU2Packet messageTypeData 0xFFFFFFFF 0)]
  exact ⟨hnum.trans (by decide), hsize⟩

/-! ## Moving the window -/

/-- The calls that change the window. -/
inductive Op
  | insert (packet : Option SSU2Packet)
  | setExpected (expected : UInt32)
  | clear (expected : UInt32)

/-- The window after a call. -/
def step (w : ReceiveWindow) : Op → ReceiveWindow
  | .insert packet => (w.insert packet).2
  | .setExpected expected => w.setExpected expected
  | .clear expected => w.clear expected

/-- `SetExpected` is given a number that is not buffered. -/
def Free (w : ReceiveWindow) (op : Op) : Prop := ∀ e, op = .setExpected e → e ∉ w.window

theorem expected_notMem_step {w : ReceiveWindow} {op : Op} (h : w.expected ∉ w.window)
    (hfree : w.Free op) : (w.step op).expected ∉ (w.step op).window := by
  cases op with
  | insert packet =>
    cases packet with
    | none => exact h
    | some packet =>
      rcases w.insert_cases packet with ⟨e, hins, -⟩ | ⟨-, -, ready, e', w', hrel, hins⟩ |
        ⟨hne, -, -, -, hins⟩
      · rwa [step, hins]
      · have hout := releaseBuffered_notMem (e := w.expected + 1) (Nat.le_refl w.window.size)
        rw [hrel] at hout
        rwa [step, hins]
      · rw [step, hins]
        exact fun hmem => (AList.mem_insert _).mp hmem |>.elim (hne ·.symm) h
  | setExpected e =>
    exact fun hmem => hfree e rfl (GoMap.mem_foldl_erase.mp hmem).1
  | clear e => exact AList.notMem_empty e

/-- The expected packet is released if it is not buffered. -/
theorem insert_expected {w : ReceiveWindow} (h : w.expected ∉ w.window)
    (hnum : packet.packetNumber = w.expected) :
    ∃ ready, (w.insert (some packet)).1 = .ok (packet :: ready) := by
  rcases w.insert_cases packet with ⟨e, -, hfar | hmem | hne⟩ | ⟨-, -, ready, e', w', -, hins⟩ |
    ⟨hne, -⟩
  · rw [hnum, ahead_eq_zero_iff.mpr rfl] at hfar
    omega
  · exact absurd (hnum ▸ hmem) h
  · exact absurd hnum hne.1
  · exact ⟨ready, by rw [hins]⟩
  · exact absurd hnum hne

/-- **The expected packet can be inserted.** In every run in which `SetExpected` is never given a
number that is buffered, the expected number is not buffered, and inserting the expected packet
succeeds and releases it. -/
theorem expected_run (e : UInt32) (maxSize : ℤ) (ops : List Op)
    (hfree : Always step Free (newReceiveWindow e maxSize) ops) :
    let w := exec step (newReceiveWindow e maxSize) ops
    w.expected ∉ w.window ∧ ∀ packet, packet.packetNumber = w.expected →
      ∃ ready, (w.insert (some packet)).1 = .ok (packet :: ready) := by
  have hnew : (newReceiveWindow e maxSize).expected ∉ (newReceiveWindow e maxSize).window := by
    rw [(newReceiveWindow_empty e maxSize).1]
    exact AList.notMem_empty _
  have h := exec_induct (I := fun w : ReceiveWindow => w.expected ∉ w.window)
    (fun w op hw hop => expected_notMem_step hw hop) hnew hfree
  exact ⟨h, fun packet hnum => insert_expected h hnum⟩

/-- Packet 2 waits, and the window is moved to number 1. -/
theorem expected_run_moved :
    let w := exec step (newReceiveWindow 0 8)
      [.insert (some (.newSSU2Packet messageTypeData 2 0)), .setExpected 1]
    w.expected = 1 ∧ ∃ ready, (w.insert (some (.newSSU2Packet messageTypeData 1 0))).1 =
      .ok (.newSSU2Packet messageTypeData 1 0 :: ready) := by
  have h := expected_run 0 8
    [.insert (some (.newSSU2Packet messageTypeData 2 0)), .setExpected 1]
    ⟨by rintro _ ⟨⟩, by rintro _ ⟨⟩; decide, trivial⟩
  exact ⟨rfl, h.2 (.newSSU2Packet messageTypeData 1 0) rfl⟩

/-- Packet 2 waits, the window is moved to it, and packet 2 is refused. -/
theorem expected_stuck :
    let w := exec step (newReceiveWindow 0 8)
      [.insert (some (.newSSU2Packet messageTypeData 2 0)), .setExpected 2]
    w.expected = 2 ∧ 2 ∈ w.window ∧
      (w.insert (some (.newSSU2Packet messageTypeData 2 0))).1.toOption = none := by
  decide

/-! ## The gap -/

def maxPacketNumber : UInt32 := 0xFFFFFFFF

def getGapInfo (w : ReceiveWindow) : UInt32 × UInt32 × ℕ :=
  if w.window.size = 0 then (0, 0, 0)
  else
    (w.window.keys.foldl (fun m pktNum => if pktNum < m then pktNum else m) maxPacketNumber,
      w.window.keys.foldl (fun m pktNum => if m < pktNum then pktNum else m) 0, w.window.size)

/-- What a loop that keeps the better of two numbers ends with. -/
theorem foldl_better {r : UInt32 → UInt32 → Prop} [DecidableRel r]
    (htrans : ∀ a b c, ¬ r b a → ¬ r c b → ¬ r c a)
    (hirrefl : ∀ a b, r a b → ¬ r b a) (l : List UInt32) (m : UInt32) :
    let best := l.foldl (fun m k => if r k m then k else m) m
    (best = m ∨ best ∈ l) ∧ ¬ r m best ∧ ∀ k ∈ l, ¬ r k best := by
  induction l generalizing m with
  | nil => exact ⟨.inl rfl, fun h => hirrefl m m h h, nofun⟩
  | cons k l ih =>
    obtain ⟨hbest, hstart, hall⟩ := ih (if r k m then k else m)
    rw [List.foldl_cons]
    split_ifs at hbest hstart hall ⊢ with hk
    · exact ⟨.inr (List.mem_cons.mpr hbest), htrans _ _ _ hstart (hirrefl k m hk),
        List.forall_mem_cons.mpr ⟨hstart, hall⟩⟩
    · exact ⟨hbest.imp_right (List.mem_cons_of_mem k), hstart,
        List.forall_mem_cons.mpr ⟨htrans _ _ _ hstart hk, hall⟩⟩

/-- What is returned is the plain minimum and maximum of the buffered numbers. -/
theorem getGapInfo_spec {w : ReceiveWindow} (h : w.window.keys ≠ []) :
    let info := w.getGapInfo
    (info.1 ∈ w.window ∧ info.2.1 ∈ w.window) ∧
      ∀ k ∈ w.window, info.1.toNat ≤ k.toNat ∧ k.toNat ≤ info.2.1.toNat := by
  have hmin := foldl_better (r := fun k m : UInt32 => k < m)
    (by simp only [UInt32.lt_iff_toNat_lt]; omega) (by simp only [UInt32.lt_iff_toNat_lt]; omega)
    w.window.keys maxPacketNumber
  have hmax := foldl_better (r := fun k m : UInt32 => m < k)
    (by simp only [UInt32.lt_iff_toNat_lt]; omega) (by simp only [UInt32.lt_iff_toNat_lt]; omega)
    w.window.keys 0
  have hsize : w.window.size ≠ 0 := fun h0 => h (List.eq_nil_of_length_eq_zero (by
    rw [← h0, GoMap.length_keys]))
  rw [getGapInfo, if_neg hsize]
  dsimp only at hmin hmax ⊢
  generalize w.window.keys.foldl _ maxPacketNumber = lo at hmin ⊢
  generalize w.window.keys.foldl _ (0 : UInt32) = hi at hmax ⊢
  obtain ⟨k₀, hk₀⟩ := List.exists_mem_of_ne_nil _ h
  simp only [UInt32.lt_iff_toNat_lt, Nat.not_lt] at hmin hmax
  have htop : maxPacketNumber.toNat = 2 ^ 32 - 1 := rfl
  refine ⟨⟨?_, ?_⟩, fun k hk => ⟨hmin.2.2 k hk, hmax.2.2 k hk⟩⟩
  · rcases hmin.1 with rfl | hmem
    · have hle := hmin.2.2 k₀ hk₀
      have hlt := k₀.toNat_lt
      rwa [show maxPacketNumber = k₀ from UInt32.toNat_inj.mp (by omega)]
    · exact hmem
  · rcases hmax.1 with rfl | hmem
    · have hle := hmax.2.2 k₀ hk₀
      rwa [show (0 : UInt32) = k₀ from UInt32.toNat_inj.mp (by
        rw [UInt32.toNat_zero] at hle ⊢; omega)]
    · exact hmem

/-- **The gap.** The numbers that `GetGapInfo` returns come first and last in the order of the
sequence exactly if the buffered numbers do not lie on both sides of the wrap. -/
theorem getGapInfo_ordered_iff (w : ReceiveWindow) :
    (w.window.keys ≠ [] →
      (w.getGapInfo.1 ∈ w.window ∧ w.getGapInfo.2.1 ∈ w.window) ∧
        ∀ k ∈ w.window, ahead w.getGapInfo.1 w.expected ≤ ahead k w.expected ∧
          ahead k w.expected ≤ ahead w.getGapInfo.2.1 w.expected) ↔
      (∀ k ∈ w.window, w.expected.toNat ≤ k.toNat) ∨
        ∀ k ∈ w.window, k.toNat < w.expected.toNat := by
  have he := w.expected.toNat_lt
  constructor
  · intro h
    by_contra! hboth
    obtain ⟨⟨low, hlow, hlt⟩, high, hhigh, hge⟩ := hboth
    have hne : w.window.keys ≠ [] := List.ne_nil_of_mem hlow
    have hle := ((getGapInfo_spec hne).2 low hlow).1
    have hfirst := ((h hne).2 high hhigh).1
    have hhigh := high.toNat_lt
    rw [ahead_eq, ahead_eq] at hfirst
    omega
  · intro hside hne
    obtain ⟨⟨hlo, hhi⟩, hall⟩ := getGapInfo_spec hne
    refine ⟨⟨hlo, hhi⟩, fun k hk => ?_⟩
    obtain ⟨hlok, hkhi⟩ := hall k hk
    have hlt := w.getGapInfo.2.1.toNat_lt
    simp only [ahead_eq]
    rcases hside with hside | hside
    · have h₁ := hside _ hlo
      omega
    · have h₁ := hside _ hhi
      omega

/-- Numbers on both sides of the wrap: 2 comes last in the sequence and is returned as the first. -/
theorem getGapInfo_wrapped :
    let w := exec step (newReceiveWindow 0xFFFFFFF0 8)
      [.insert (some (.newSSU2Packet messageTypeData 0xFFFFFFF5 0)),
        .insert (some (.newSSU2Packet messageTypeData 2 0))]
    w.getGapInfo = (2, 0xFFFFFFF5, 2) ∧ 0xFFFFFFF5 ∈ w.window ∧
      ahead 0xFFFFFFF5 w.expected < ahead 2 w.expected := by
  decide

end ReceiveWindow
end GoNoise.SSU2
