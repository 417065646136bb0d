import Mathlib.Data.List.GetD
import GoNoise.SSU2.Reliability.AckRuns

/-!
# The ACK block codec in runs and gaps

Both ends of the ACK block, over `DescRuns`.
-/

namespace GoNoise.SSU2

open BigEndian DescRuns

/-! ## The bytes of the ranges -/

def rangeBytes (l : List Seg) : Bytes :=
  l.flatMap fun s => [UInt8.ofNat s.gapPred, UInt8.ofNat s.runPred]

@[simp] theorem rangeBytes_nil : rangeBytes [] = [] := rfl

theorem rangeBytes_cons (s : Seg) (l : List Seg) :
    rangeBytes (s :: l) = UInt8.ofNat s.gapPred :: UInt8.ofNat s.runPred :: rangeBytes l := rfl

def IsByteRange (s : Seg) : Prop := s.gapPred ≤ 255 ∧ s.runPred ≤ 255

theorem isByteRange_cap (s : Seg) : IsByteRange (s.cap 255) :=
  ⟨min_le_right _ _, min_le_right _ _⟩

theorem toNat_ofNat_of_le {n : ℕ} (h : n ≤ 255) : (UInt8.ofNat n).toNat = n := by
  rw [UInt8.toNat_ofNat', Nat.mod_eq_of_lt (by omega)]

/-! ## `buildACKRanges` -/

variable {acnt : ℕ} {cursor : ℤ} {prev : UInt32} (throughPN : UInt32) (s : AckScan)

theorem consecutiveBelow_spec {l : List UInt32} (h : ((prev :: l).map num).Pairwise (· > ·)) :
    consecutiveBelow prev l = runBelow (num prev) (l.map num) ∧
      num ((prev :: l).getD (consecutiveBelow prev l) 0) = num prev - consecutiveBelow prev l := by
  induction l generalizing prev with
  | nil => simp [consecutiveBelow, runBelow]
  | cons x l ih =>
    obtain ⟨hx, hl⟩ := List.pairwise_cons.mp h
    have hlt : num prev > num x := hx _ (List.mem_cons_self ..)
    rw [consecutiveBelow, List.map_cons, runBelow]
    by_cases he : x = prev - 1
    · rw [if_pos he, if_pos ((eq_sub_one_iff hlt).mp he), List.getD_cons_succ, (ih hl).2,
        (eq_sub_one_iff hlt).mp he]
      refine ⟨by rw [(ih hl).1, (eq_sub_one_iff hlt).mp he], ?_⟩
      push_cast
      ring
    · rw [if_neg he, if_neg fun h' => he ((eq_sub_one_iff hlt).mpr h')]
      simp

theorem consecutiveBelow_le (prev : UInt32) (l : List UInt32) :
    consecutiveBelow prev l ≤ l.length := by
  induction l generalizing prev with
  | nil => exact le_rfl
  | cons x l ih => grind [consecutiveBelow, List.length_cons]

theorem cons_drop_consecutiveBelow (prev : UInt32) (l : List UInt32) :
    (prev :: l).drop (consecutiveBelow prev l) =
      (prev :: l).getD (consecutiveBelow prev l) 0 :: l.drop (consecutiveBelow prev l) := by
  have hlt : consecutiveBelow prev l < (prev :: l).length := by
    have := consecutiveBelow_le prev l
    rw [List.length_cons]
    omega
  rw [List.drop_eq_getElem_cons hlt, List.getD_eq_getElem _ _ hlt, List.drop_succ_cons]

/-- The loop of `buildACKRanges` writes the ranges that still fit, cut at 256. -/
theorem buildACKRangesLoop_eq (maxBytes : ℕ) {fuel : ℕ} {l : List UInt32} {acc : Bytes}
    {segs : List Seg} (hl : ((prev :: l).map num).Pairwise (· > ·))
    (hsegs : ofDesc (num prev) (l.map num) = (0, segs)) (hfuel : l.length ≤ fuel) :
    buildACKRangesLoop maxBytes fuel prev l acc =
      acc ++ rangeBytes ((segs.take ((maxBytes - acc.length) / 2)).map (Seg.cap 255)) := by
  induction fuel generalizing prev l acc segs with
  | zero =>
    have hnil : l = [] := List.length_eq_zero_iff.mp (Nat.le_zero.mp hfuel)
    subst hnil
    obtain rfl : [] = segs := (Prod.mk.inj hsegs).2
    simp [buildACKRangesLoop]
  | succ fuel ih =>
    cases l with
    | nil =>
      obtain rfl : [] = segs := (Prod.mk.inj hsegs).2
      simp [buildACKRangesLoop]
    | cons next rest =>
      obtain ⟨hnext, hrest⟩ := List.pairwise_cons.mp hl
      have hlt : num next < num prev := hnext _ (List.mem_cons_self ..)
      -- the run of `prev` has ended, so a range starts at `next`
      have hne : num next ≠ num prev - 1 := by
        intro he
        rw [List.map_cons, he, ofDesc_cons_pred] at hsegs
        exact absurd (Prod.mk.inj hsegs).1 (Nat.succ_ne_zero _)
      rw [List.map_cons, ofDesc_cons_of_ne hne] at hsegs
      have hsegs' := (Prod.mk.inj hsegs).2
      rw [buildACKRangesLoop]
      by_cases hfull : maxBytes < acc.length + 2
      · have hzero : (maxBytes - acc.length) / 2 = 0 := by omega
        rw [if_pos hfull, hzero, List.take_zero, List.map_nil, rangeBytes_nil, List.append_nil]
      · rw [if_neg hfull]
        have hrun : consecutiveBelow next rest = (ofDesc (num next) (rest.map num)).1 := by
          rw [(consecutiveBelow_spec hrest).1, runBelow_eq_ofDesc]
        have hdrop := cons_drop_consecutiveBelow next rest
        have htail : ((((next :: rest).getD (consecutiveBelow next rest) 0) ::
            rest.drop (consecutiveBelow next rest)).map num).Pairwise (· > ·) := by grind
        have hcode : ofDesc (num ((next :: rest).getD (consecutiveBelow next rest) 0))
            ((rest.drop (consecutiveBelow next rest)).map num) =
              (0, (ofDesc (num next) (rest.map num)).2) := by
          rw [(consecutiveBelow_spec hrest).2, (consecutiveBelow_spec hrest).1, List.map_drop]
          exact ofDesc_drop_runBelow _ _
        have hlen : (rest.drop (consecutiveBelow next rest)).length ≤ fuel := by grind
        rw [ih htail hcode hlen]
        obtain ⟨k, hk⟩ : ∃ k, (maxBytes - acc.length) / 2 = k + 1 :=
          ⟨(maxBytes - acc.length) / 2 - 1, by omega⟩
        have hk' : (maxBytes - (acc.length + 2)) / 2 = k := by omega
        have hgap : (prev - next - 1).toNat = (num prev - num next - 2).toNat + 1 := by
          have h₁ := prev.toNat_lt
          unfold num at hlt hne ⊢
          rw [UInt32.toNat_sub, UInt32.toNat_sub, UInt32.toNat_one]
          omega
        rw [← hsegs', hk, List.take_succ_cons, List.map_cons, rangeBytes_cons, List.length_append,
          List.length_cons, List.length_cons, List.length_nil, hk', hgap, hrun]
        have hbyte₁ : min (max ((num prev - num next - 2).toNat + 1) 1) 256 - 1 =
            min (num prev - num next - 2).toNat 255 := by omega
        have hbyte₂ : min (1 + (ofDesc (num next) (rest.map num)).1) 256 - 1 =
            min (ofDesc (num next) (rest.map num)).1 255 := by omega
        rw [hbyte₁, hbyte₂, List.append_assoc]
        rfl

/-! ## `GenerateACK` -/

/-- The byte that stands for the first run: its length minus one, modulo 256. -/
def firstByte (recorded : List UInt32) : ℕ := (topRun recorded - 1) % 256

/-- How many ranges fit into a block of `maxACKDataSize` bytes. -/
def maxRanges (maxACKDataSize : ℕ) : ℕ := (maxACKDataSize - 5) / 2

/-- The lower runs that `GenerateACK` writes. -/
def emittedRuns (maxACKDataSize : ℕ) (recorded : List UInt32) : List Seg :=
  (lowerRuns recorded).take (maxRanges maxACKDataSize)

/-- The data of an ACK block: the top, the byte of the first run and the ranges. -/
def ackData (throughPN : UInt32) (acnt : ℕ) (ranges : List Seg) : Bytes :=
  putUint32 throughPN ++ UInt8.ofNat acnt :: rangeBytes ranges

theorem generateACK_eq (h : ACKHandler) (now : Time) (hne : h.receivedPackets ≠ []) :
    ∃ throughPN, num throughPN = topNumber h.receivedPackets ∧
      h.generateACK now = (some ⟨blockTypeACK, ackData throughPN (firstByte h.receivedPackets)
          ((emittedRuns h.maxACKDataSize h.receivedPackets).map (Seg.cap 255))⟩,
        { h with lastACKTime := now, receivedPackets := [] }) := by
  have hmap := map_num_sortDescDedupPackets h.receivedPackets
  have hpair := pairwise_descending h.receivedPackets
  have hemp : h.receivedPackets.isEmpty = false := by grind
  cases hs : sortDescDedupPackets h.receivedPackets with
  | nil =>
    rw [hs, List.map_nil] at hmap
    exact absurd hmap.symm (descending_ne_nil hne)
  | cons x l =>
    rw [hs, List.map_cons] at hmap
    rw [← hmap] at hpair
    obtain ⟨hbelow, hlast⟩ :=
      @consecutiveBelow_spec x l (by rw [List.map_cons]; exact hpair)
    have hrun : consecutiveBelow x l = (ofDesc (num x) (l.map num)).1 := by
      rw [hbelow, runBelow_eq_ofDesc]
    have htop : topRun h.receivedPackets = consecutiveBelow x l + 1 := by
      rw [topRun, ← hmap, hrun]
    have hlow : lowerRuns h.receivedPackets = (ofDesc (num x) (l.map num)).2 := by
      rw [lowerRuns, ← hmap]
    refine ⟨x, by rw [topNumber, ← hmap]; rfl, ?_⟩
    have hcount : countConsecutiveFromTop (x :: l) - 1 = consecutiveBelow x l := by
      rw [countConsecutiveFromTop]
      omega
    have hdrop := cons_drop_consecutiveBelow x l
    have htail : ((((x :: l).getD (consecutiveBelow x l) 0) ::
        l.drop (consecutiveBelow x l)).map num).Pairwise (· > ·) := by grind [List.map_drop]
    have hcode : ofDesc (num ((x :: l).getD (consecutiveBelow x l) 0))
        ((l.drop (consecutiveBelow x l)).map num) = (0, lowerRuns h.receivedPackets) := by
      rw [hlast, hbelow, List.map_drop, hlow]
      exact ofDesc_drop_runBelow _ _
    have hranges : buildACKRanges (x :: l) (consecutiveBelow x l + 1) (h.maxACKDataSize - 5) =
        rangeBytes ((emittedRuns h.maxACKDataSize h.receivedPackets).map (Seg.cap 255)) := by
      rw [buildACKRanges, Nat.add_sub_cancel, List.drop_succ_cons,
        buildACKRangesLoop_eq _ htail hcode (by rw [List.length_drop, List.length_cons]; omega),
        List.nil_append, List.length_nil, Nat.sub_zero]
      rfl
    have hbyte : UInt8.ofNat (consecutiveBelow x l) = UInt8.ofNat
      (firstByte h.receivedPackets) := by
      rw [firstByte, htop, Nat.add_sub_cancel, ← UInt8.toNat_inj, UInt8.toNat_ofNat',
        UInt8.toNat_ofNat', Nat.mod_mod]
    rw [ACKHandler.generateACK, hemp, hs]
    simp only [Bool.false_eq_true, if_false, hcount, hranges, hbyte, List.headD_cons]
    rfl

/-! ## The block format -/

/-- The ranges that the bytes after the header spell; an odd last byte is not a range. -/
def ackRanges : Bytes → List Seg
  | nackByte :: ackByte :: rest => ⟨nackByte.toNat, ackByte.toNat⟩ :: ackRanges rest
  | _ => []

/-- The numbers an ACK block acknowledges by its format: the first run, then the runs of the
ranges. -/
def ackBlockNumbers (b : SSU2Block) : List ℤ :=
  let throughPN := num (uint32 (b.data.take 4))
  let acnt := (b.data.getD 4 0).toNat
  down throughPN (acnt + 1) ++
    expand (throughPN - (acnt + 1 : ℕ)) (ackRanges (b.data.drop 5))

theorem ackRanges_rangeBytes {l : List Seg} (h : ∀ s ∈ l, IsByteRange s) :
    ackRanges (rangeBytes l) = l := by
  induction l with
  | nil => rfl
  | cons s l ih =>
    rw [List.forall_mem_cons] at h
    rw [rangeBytes_cons, ackRanges, ih h.2, toNat_ofNat_of_le h.1.1, toNat_ofNat_of_le h.1.2]

theorem take_ackData (acnt : ℕ) (l : List Seg) :
    (ackData throughPN acnt l).take 4 = putUint32 throughPN := take_putUint32_append _ _

theorem getD_ackData (h : acnt ≤ 255) (l : List Seg) :
    ((ackData throughPN acnt l).getD 4 0).toNat = acnt := by
  rw [ackData, List.getD_append_right _ _ _ _ (by rw [length_putUint32]), length_putUint32,
    Nat.sub_self, List.getD_cons_zero, toNat_ofNat_of_le h]

theorem drop_ackData (acnt : ℕ) (l : List Seg) :
    (ackData throughPN acnt l).drop 5 = rangeBytes l := by
  have h : (ackData throughPN acnt l).drop (4 + 1) = rangeBytes l := by
    rw [← List.drop_drop, ackData, drop_putUint32_append]
    rfl
  exact h

theorem ackBlockNumbers_ackData (t : UInt8) (throughPN : UInt32) (h : acnt ≤ 255) {l : List Seg}
    (hl : ∀ s ∈ l, IsByteRange s) :
    ackBlockNumbers ⟨t, ackData throughPN acnt l⟩ =
      down (num throughPN) (acnt + 1) ++ expand (num throughPN - (acnt + 1 : ℕ)) l := by
  simp only [ackBlockNumbers, take_ackData, uint32_putUint32, getD_ackData throughPN h,
    drop_ackData, ackRanges_rangeBytes hl]

/-! ## `ProcessACK` -/

def AckScan.retireAll (s : AckScan) (l : List ℤ) : AckScan :=
  l.foldl (fun s x => s.retire (UInt32.ofNat x.toNat)) s

theorem AckScan.retireAll_append (l l' : List ℤ) :
    s.retireAll (l ++ l') = (s.retireAll l).retireAll l' := List.foldl_append

theorem AckScan.map_num_retireAll {l : List ℤ} (h : ∀ x ∈ l, 0 ≤ x ∧ x < 2 ^ 32) :
    (s.retireAll l).ackedPackets.map num = s.ackedPackets.map num ++ l := by
  induction l generalizing s with
  | nil => simp [AckScan.retireAll]
  | cons x l ih =>
    rw [List.forall_mem_cons] at h
    show ((s.retire (UInt32.ofNat x.toNat)).retireAll l).ackedPackets.map num = _
    rw [ih _ h.2, AckScan.retire, List.map_append, List.map_singleton,
      num_ofNat_toNat h.1.1 h.1.2, List.append_assoc, List.singleton_append]

theorem collectFirstRun_eq {throughPN : UInt32} (h : (acnt : ℤ) ≤ num throughPN) :
    collectFirstRun s throughPN acnt = s.retireAll (down (num throughPN) (acnt + 1)) := by
  have hsub : ∀ i ≤ acnt, throughPN - UInt32.ofNat i =
      UInt32.ofNat (num throughPN - i).toNat := by
    intro i hi
    unfold num at h ⊢
    rw [← UInt32.toNat_inj, UInt32.toNat_sub, UInt32.toNat_ofNat', UInt32.toNat_ofNat']
    omega
  have hgen : ∀ n ≤ acnt + 1, (List.range n).foldl
      (fun s i => s.retire (throughPN - UInt32.ofNat i)) s =
        s.retireAll (down (num throughPN) n) := by
    intro n
    induction n with
    | zero => exact fun _ => rfl
    | succ n ih =>
      intro hn
      rw [List.range_succ, List.foldl_append, ih (by omega), down_succ_last,
        AckScan.retireAll_append, List.foldl_cons, List.foldl_nil, hsub n (by omega)]
      rfl
  exact hgen (acnt + 1) le_rfl

theorem collectAckRun_spec (acks : ℕ) (h₀ : 0 ≤ cursor) (h : (acks : ℤ) ≤ cursor + 1)
    (s : AckScan) :
    (collectAckRun acks cursor s).2 = s.retireAll (down cursor acks) ∧
      ((acks : ℤ) ≤ cursor ∧ (collectAckRun acks cursor s).1 = .ok (cursor - acks) ∨
        cursor < acks ∧ ∃ e, (collectAckRun acks cursor s).1 = .error e) := by
  induction acks generalizing cursor s with
  | zero => exact ⟨rfl, Or.inl ⟨h₀, by simp [collectAckRun]⟩⟩
  | succ acks ih =>
    push_cast at h ⊢
    simp only [collectAckRun]
    split_ifs with hneg
    · obtain rfl : acks = 0 := by omega
      exact ⟨rfl, Or.inr ⟨by omega, _, rfl⟩⟩
    · obtain ⟨hs, hr⟩ := ih (show 0 ≤ cursor - 1 by omega) (by omega)
        (s.retire (UInt32.ofNat cursor.toNat))
      rw [show cursor - ((acks : ℤ) + 1) = cursor - 1 - acks by ring]
      refine ⟨hs, hr.imp (And.imp_left fun hle => ?_) (And.imp_left fun hlt => ?_)⟩ <;> omega

/-- The ranges that can be read below `cursor`, at most `left` of them: the gap stays above `0` and
the run ends at `0` at the lowest. -/
def readableRanges : ℕ → ℤ → List Seg → List Seg
  | left + 1, cursor, g :: l =>
    if (g.gap : ℤ) ≤ cursor ∧ (g.gap + g.run : ℤ) ≤ cursor + 1 then
      g :: readableRanges left (cursor - g.gap - g.run) l
    else []
  | _, _, _ => []

theorem readableRanges_neg (h : cursor < 0) (left : ℕ) (l : List Seg) :
    readableRanges left cursor l = [] := by
  cases left <;> cases l <;> simp only [readableRanges]
  exact if_neg fun hfit => by omega

theorem readableRanges_of_fits {left : ℕ} {l : List Seg} (hleft : l.length ≤ left)
    (h : (weight l : ℤ) ≤ cursor) : readableRanges left cursor l = l := by
  induction l generalizing left cursor with
  | nil => cases left <;> rfl
  | cons g l ih =>
    obtain ⟨left, rfl⟩ : ∃ n, left = n + 1 := ⟨left - 1, by rw [List.length_cons] at hleft; omega⟩
    rw [List.length_cons] at hleft
    rw [weight_cons] at h
    push_cast at h
    rw [readableRanges, if_pos (by omega), ih (by omega) (by omega)]

/-- The range loop: it fails exactly on ranges that are too many or go below the floor, and by
then it has retired the ranges that can be read. -/
theorem collectRanges_spec (data : Bytes) {rangeCount : ℕ} (h₀ : 0 ≤ cursor)
    (hcount : rangeCount ≤ maxNACKRangesPerACK) (s : AckScan) :
    (collectRanges rangeCount cursor s data).2 = s.retireAll (expand cursor
        (readableRanges (maxNACKRangesPerACK - rangeCount) cursor (ackRanges data))) ∧
      ((∃ e, (collectRanges rangeCount cursor s data).1 = .error e) ↔
        ¬ (rangeCount + (ackRanges data).length ≤ maxNACKRangesPerACK ∧
          (weight (ackRanges data) : ℤ) ≤ cursor)) := by
  fun_induction ackRanges data generalizing rangeCount cursor s with
  | case2 data hdata =>
    have hdone : collectRanges rangeCount cursor s data = (.ok (), s) := by
      unfold collectRanges
      split
      · exact absurd rfl (hdata _ _ _)
      · rfl
    rw [hdone]
    refine ⟨by cases maxNACKRangesPerACK - rangeCount <;> rfl, ?_⟩
    simp [hcount, h₀]
  | case1 nackByte ackByte rest ih =>
    set g : Seg := ⟨nackByte.toNat, ackByte.toNat⟩ with hg
    have hgap : (nackByte.toNat : ℤ) + 1 = g.gap := by simp [hg, Seg.gap]
    have hrun : ackByte.toNat + 1 = g.run := rfl
    rw [List.length_cons, weight_cons]
    push_cast
    simp only [collectRanges, hgap, hrun]
    by_cases hmax : maxNACKRangesPerACK < rangeCount + 1
    · rw [if_pos hmax, show maxNACKRangesPerACK - rangeCount = 0 by omega]
      exact ⟨rfl, iff_of_true ⟨_, rfl⟩ (by omega)⟩
    obtain ⟨left, hleft⟩ : ∃ n, maxNACKRangesPerACK - rangeCount = n + 1 :=
      ⟨maxNACKRangesPerACK - rangeCount - 1, by omega⟩
    rw [if_neg hmax, hleft, readableRanges]
    -- a range that does not fit below the cursor retires nothing
    by_cases hfit : (g.gap : ℤ) ≤ cursor ∧ (g.gap + g.run : ℤ) ≤ cursor + 1
    · rw [if_pos hfit, if_neg (by omega), if_neg (by omega), if_neg (by omega)]
      obtain ⟨hs, hr⟩ := collectAckRun_spec g.run (show 0 ≤ cursor - g.gap by omega)
        (by omega) s
      generalize collectAckRun g.run (cursor - g.gap) s = r at hs hr ⊢
      obtain ⟨r, s'⟩ := r
      obtain rfl : s' = _ := hs
      rw [expand_cons, AckScan.retireAll_append]
      rcases hr with ⟨hle, rfl⟩ | ⟨hlt, e, rfl⟩
      · obtain ⟨hs, hr⟩ := ih (show 0 ≤ cursor - g.gap - g.run by omega)
          (show rangeCount + 1 ≤ _ by omega) (s.retireAll (down (cursor - g.gap) g.run))
        rw [show maxNACKRangesPerACK - (rangeCount + 1) = left by omega] at hs
        refine ⟨hs, hr.trans (not_congr (and_congr ?_ ?_))⟩ <;> omega
      · rw [readableRanges_neg (by omega)]
        exact ⟨rfl, iff_of_true ⟨e, rfl⟩ (by omega)⟩
    · rw [if_neg hfit]
      have hnot : ¬ (rangeCount + ((ackRanges rest).length + 1) ≤ maxNACKRangesPerACK ∧
          (g.gap + g.run + weight (ackRanges rest) : ℤ) ≤ cursor) := by omega
      split_ifs
      · exact ⟨rfl, iff_of_true ⟨_, rfl⟩ hnot⟩
      · exact ⟨rfl, iff_of_true ⟨_, rfl⟩ hnot⟩
      · exact ⟨rfl, iff_of_true ⟨_, rfl⟩ hnot⟩
      · exact absurd hfit (by omega)

/-- Whether `ProcessACK` accepts a block of the shape of `ackData`: the first run reaches `0` and
nothing after it is read, or the ranges are few enough and stay above the floor. -/
def AcceptsRanges (throughPN : UInt32) (acnt : ℕ) (l : List Seg) : Prop :=
  l.length ≤ maxNACKRangesPerACK ∧ (weight l : ℤ) ≤ num throughPN - (acnt + 1 : ℕ)

/-- The header of an ACK block: its type, its length and a first run that does not pass `0`. -/
def HeaderACK (b : SSU2Block) : Prop :=
  b.type = blockTypeACK ∧ 5 ≤ b.data.length ∧
    ((b.data.getD 4 0).toNat : ℤ) ≤ num (uint32 (b.data.take 4))

instance (b : SSU2Block) : Decidable (HeaderACK b) := by
  unfold HeaderACK
  infer_instance

/-- A block with an ACK header whose ranges stay above the floor; none is read after a first run
that ends at `0`. -/
def WellFormedACK (b : SSU2Block) : Prop :=
  HeaderACK b ∧ (num (uint32 (b.data.take 4)) = (b.data.getD 4 0).toNat ∨
    AcceptsRanges (uint32 (b.data.take 4)) (b.data.getD 4 0).toNat (ackRanges (b.data.drop 5)))

/-- The numbers a block acknowledges before its first malformed part. -/
def readNumbers (b : SSU2Block) : List ℤ :=
  if HeaderACK b then
    let throughPN := num (uint32 (b.data.take 4))
    let acnt := (b.data.getD 4 0).toNat
    let cursor := throughPN - (acnt + 1 : ℕ)
    down throughPN (acnt + 1) ++
      expand cursor (readableRanges maxNACKRangesPerACK cursor (ackRanges (b.data.drop 5)))
  else []

section Process

variable (h : ACKHandler) {throughPN : UInt32} {acnt : ℕ} {l : List Seg} {b : SSU2Block}

/-- `ProcessACK` after the header: it retires the numbers it can read and fails exactly on a
block that is not well formed. -/
theorem processACK_of_header (hb : HeaderACK b) :
    ∃ r, h.processACK b = h.finishACK (r, AckScan.retireAll ⟨[], h.pendingACKs⟩ (readNumbers b)) ∧
      ((∃ e, r = .error e) ↔ ¬ WellFormedACK b) := by
  obtain ⟨htype, hlen, hle⟩ := id hb
  simp only [WellFormedACK, readNumbers, if_pos hb, ACKHandler.processACK]
  rw [if_neg (not_not.mpr htype), if_neg (by omega)]
  set throughPN := uint32 (b.data.take 4)
  set acnt := (b.data.getD 4 0).toNat with hacnt
  have hlt := throughPN.toNat_lt
  have hbyte : acnt < 2 ^ 8 := UInt8.toNat_lt _
  have hacnt' : (UInt32.ofNat acnt).toNat = acnt := by
    rw [UInt32.toNat_ofNat', Nat.mod_eq_of_lt (by omega)]
  have hnotlt : ¬ throughPN < UInt32.ofNat acnt := by
    rw [UInt32.lt_iff_toNat_lt, hacnt']
    unfold num at hle
    omega
  have hbase : throughPN - UInt32.ofNat acnt = 0 ↔ num throughPN = acnt := by
    rw [← UInt32.toNat_inj, UInt32.toNat_sub, hacnt', UInt32.toNat_zero]
    unfold num at hle ⊢
    omega
  rw [if_neg hnotlt, collectFirstRun_eq _ hle, AckScan.retireAll_append]
  by_cases hz : num throughPN = acnt
  · rw [if_pos (hbase.mpr hz), readableRanges_neg (by push_cast; omega), expand_nil]
    exact ⟨_, rfl, iff_of_false (by simp) (not_not.mpr ⟨hb, Or.inl hz⟩)⟩
  · have hcursor : ((throughPN - UInt32.ofNat acnt - 1).toNat : ℤ) =
        num throughPN - (acnt + 1 : ℕ) := by
      unfold num at hle hz ⊢
      rw [UInt32.toNat_sub, UInt32.toNat_sub, hacnt', UInt32.toNat_one]
      push_cast
      omega
    rw [if_neg fun hb => hz (hbase.mp hb), hcursor]
    obtain ⟨hs, hr⟩ := collectRanges_spec (b.data.drop 5)
      (show 0 ≤ num throughPN - (acnt + 1 : ℕ) by push_cast; omega)
      (Nat.zero_le _) (AckScan.retireAll ⟨[], h.pendingACKs⟩ (down (num throughPN) (acnt + 1)))
    rw [Nat.sub_zero] at hs
    refine ⟨_, by rw [← hs], hr.trans (not_congr ?_)⟩
    rw [Nat.zero_add, AcceptsRanges]
    exact ⟨fun hfit => ⟨hb, Or.inr hfit⟩, fun hwf => hwf.2.resolve_left hz⟩

theorem processACK_of_not_header (hb : ¬ HeaderACK b) :
    (∃ e, (h.processACK b).1 = .error e) ∧ (h.processACK b).2 = h := by
  unfold ACKHandler.processACK
  dsimp only
  split_ifs with htype hlen hlt
  · exact ⟨⟨_, rfl⟩, rfl⟩
  · exact ⟨⟨_, rfl⟩, rfl⟩
  · exact ⟨⟨_, rfl⟩, rfl⟩
  all_goals
    refine absurd ⟨not_not.mp htype, not_lt.mp hlen, ?_⟩ hb
    have hbyte := (b.data.getD 4 0).toNat_lt
    rw [UInt32.lt_iff_toNat_lt, UInt32.toNat_ofNat', Nat.mod_eq_of_lt (by omega)] at hlt
    unfold num
    omega

section
variable (hacnt : acnt ≤ 255)
include hacnt

theorem headerACK_ackData (hle : (acnt : ℤ) ≤ num throughPN) :
    HeaderACK ⟨blockTypeACK, ackData throughPN acnt l⟩ := by
  refine ⟨rfl, ?_, ?_⟩
  · rw [ackData, List.length_append, length_putUint32, List.length_cons]
    omega
  · rwa [take_ackData, uint32_putUint32, getD_ackData throughPN hacnt]

theorem wellFormedACK_ackData (hle : (acnt : ℤ) ≤ num throughPN) (hl : ∀ s ∈ l, IsByteRange s) :
    WellFormedACK ⟨blockTypeACK, ackData throughPN acnt l⟩ ↔
      num throughPN = acnt ∨ AcceptsRanges throughPN acnt l := by
  rw [WellFormedACK, and_iff_right (headerACK_ackData hacnt hle)]
  simp only [take_ackData, uint32_putUint32, getD_ackData throughPN hacnt, drop_ackData,
    ackRanges_rangeBytes hl]

theorem readNumbers_ackData (hle : (acnt : ℤ) ≤ num throughPN) (hl : ∀ s ∈ l, IsByteRange s)
    (hfit : l = [] ∨ AcceptsRanges throughPN acnt l) :
    readNumbers ⟨blockTypeACK, ackData throughPN acnt l⟩ =
      down (num throughPN) (acnt + 1) ++ expand (num throughPN - (acnt + 1 : ℕ)) l := by
  simp only [readNumbers, if_pos (headerACK_ackData hacnt hle), take_ackData, uint32_putUint32,
    getD_ackData throughPN hacnt, drop_ackData, ackRanges_rangeBytes hl]
  rcases hfit with rfl | ⟨hlen, hw⟩
  · rfl
  · rw [readableRanges_of_fits hlen hw]

/-- `ProcessACK` accepts: it returns the numbers of the block format. -/
theorem processACK_of_accepts (hle : (acnt : ℤ) ≤ num throughPN) (hl : ∀ s ∈ l, IsByteRange s)
    (hfit : l = [] ∨ AcceptsRanges throughPN acnt l) :
    ∃ acked, (h.processACK ⟨blockTypeACK, ackData throughPN acnt l⟩).1 = .ok acked ∧
      acked.map num =
        down (num throughPN) (acnt + 1) ++ expand (num throughPN - (acnt + 1 : ℕ)) l := by
  have hlt := num_lt throughPN
  have hwf : num throughPN = acnt ∨ AcceptsRanges throughPN acnt l := by
    rcases hfit with rfl | hfit
    · rcases eq_or_lt_of_le hle with heq | hlt
      · exact Or.inl heq.symm
      · exact Or.inr ⟨Nat.zero_le _, by rw [weight_nil]; push_cast; omega⟩
    · exact Or.inr hfit
  have hweight : (weight l : ℤ) ≤ num throughPN - acnt := by
    rcases hfit with rfl | ⟨-, hw⟩
    · grind [weight_nil]
    · push_cast at hw
      omega
  obtain ⟨r, hr, herr⟩ := processACK_of_header h (headerACK_ackData hacnt hle)
  rw [wellFormedACK_ackData hacnt hle hl] at herr
  rw [hr, readNumbers_ackData hacnt hle hl hfit]
  cases r with
  | error e => exact absurd hwf (herr.mp ⟨e, rfl⟩)
  | ok =>
    refine ⟨_, rfl, ?_⟩
    rw [AckScan.map_num_retireAll, List.map_nil, List.nil_append]
    intro x hx
    rcases List.mem_append.mp hx with hx | hx
    · have hb := mem_down.mp hx
      push_cast at hb
      omega
    · have hb := mem_expand_bounds hx
      push_cast at hb
      omega

/-- `ProcessACK` rejects every other block with ranges. -/
theorem processACK_of_not_accepts (hlt : (acnt : ℤ) < num throughPN) (hl : ∀ s ∈ l, IsByteRange s)
    (hfit : ¬ AcceptsRanges throughPN acnt l) :
    ∃ e, (h.processACK ⟨blockTypeACK, ackData throughPN acnt l⟩).1 = .error e := by
  obtain ⟨r, hr, herr⟩ := processACK_of_header h (headerACK_ackData hacnt hlt.le)
  rw [wellFormedACK_ackData hacnt hlt.le hl] at herr
  obtain ⟨e, rfl⟩ := herr.mpr fun hwf => hfit (hwf.resolve_left (by omega))
  exact ⟨e, by rw [hr]; rfl⟩

end

end Process

end GoNoise.SSU2
