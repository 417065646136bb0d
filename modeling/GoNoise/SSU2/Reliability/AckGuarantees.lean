import GoNoise.Library.Traces
import GoNoise.SSU2.Reliability.AckCodec

/-!
# What an ACK block guarantees

`GenerateACK` on one side and `ProcessACK` on the other, over every sequence of recorded packet
numbers. One byte holds each length, and the encoder narrows what does not fit: the first run is
taken modulo 256 and gaps and runs are cut at 256. A narrowed length moves every run below it up.
-/

namespace GoNoise.SSU2

open BigEndian DescRuns Trace ACKHandler

/-! ## The block of a list of recorded numbers -/

/-- `RecordReceived` for each of `recorded`, after the last `GenerateACK`. -/
def ACKHandler.recordedSince (h : ACKHandler) (last : Time) (recorded : List UInt32) : ACKHandler :=
  (h.generateACK last).2.recordAll recorded

variable (h : ACKHandler) (now last : Time)

theorem ACKHandler.receivedPackets_generateACK :
    (h.generateACK now).2.receivedPackets = [] := by grind [generateACK]

theorem ACKHandler.maxACKDataSize_generateACK :
    (h.generateACK now).2.maxACKDataSize = h.maxACKDataSize := by
  unfold generateACK
  split_ifs <;> rfl

theorem ACKHandler.receivedPackets_recordedSince
    (recorded : List UInt32) : (h.recordedSince last recorded).receivedPackets = recorded := by
  rw [recordedSince, recordAll_eq, receivedPackets_generateACK, List.nil_append]

theorem ACKHandler.maxACKDataSize_recordedSince (recorded : List UInt32) :
    (h.recordedSince last recorded).maxACKDataSize = h.maxACKDataSize := by
  rw [recordedSince, recordAll_eq, maxACKDataSize_generateACK]

theorem ACKHandler.generateACK_of_nil {h : ACKHandler} (hnil : h.receivedPackets = [])
    (now : Time) :
    h.generateACK now = (none, h) := by grind [generateACK]

theorem firstByte_le (recorded : List UInt32) : firstByte recorded ≤ 255 := by
  unfold firstByte
  omega

theorem firstByte_lt_topRun {recorded : List UInt32} (h : recorded ≠ []) :
    firstByte recorded + 1 ≤ topRun recorded := by
  have hpos := topRun_pos h
  unfold firstByte
  omega

theorem firstByte_eq_iff {recorded : List UInt32} (h : recorded ≠ []) :
    firstByte recorded + 1 = topRun recorded ↔ topRun recorded ≤ 256 := by
  have hpos := topRun_pos h
  unfold firstByte
  omega

theorem isByteRange_of_mem_map_cap {l : List Seg} :
    ∀ s ∈ l.map (Seg.cap 255), IsByteRange s := by
  intro s hs
  obtain ⟨t, -, rfl⟩ := List.mem_map.mp hs
  exact isByteRange_cap t

/-- No length of the recorded numbers is narrowed and every lower run is written. -/
structure FitsBlock (maxACKDataSize : ℕ) (recorded : List UInt32) : Prop where
  topRun_le : topRun recorded ≤ 256
  length_le : (lowerRuns recorded).length ≤ maxRanges maxACKDataSize
  fits : ∀ s ∈ lowerRuns recorded, s.Fits 255

/-- The ranges reach below the floor only when nothing was narrowed and `0` was recorded in a lower
run. -/
theorem weight_emittedRuns_le_iff {recorded : List UInt32} (hne : recorded ≠ [])
    (hlow : lowerRuns recorded ≠ []) (size : ℕ) :
    (weight ((emittedRuns size recorded).map (Seg.cap 255)) : ℤ) ≤
        topNumber recorded - (firstByte recorded + 1 : ℕ) ↔
      ¬ (0 ∈ recorded ∧ FitsBlock size recorded) := by
  obtain ⟨hle, hiff⟩ := (map_cap_take_le 255 (maxRanges size) (lowerRuns recorded)).1
  have hreach := weight_lowerRuns_le recorded
  have hzero := weight_lowerRuns_eq_iff hlow
  have hfirst := firstByte_lt_topRun hne
  have hfirst' := firstByte_eq_iff hne
  unfold emittedRuns
  constructor
  · rintro h ⟨h0, hfit⟩
    have h₁ := hiff.mpr ⟨hfit.length_le, hfit.fits⟩
    have h₂ := hzero.mpr h0
    have h₃ := hfirst'.mpr hfit.topRun_le
    omega
  · intro h
    by_contra hgt
    -- then each of the three estimates is an equality
    have h₁ := hiff.mp (by omega)
    have h₂ := hzero.mp (by omega)
    have h₃ := hfirst'.mp (by omega)
    exact h ⟨h₂, h₃, h₁.1, h₁.2⟩

section Block

variable {h : ACKHandler} (p : ACKHandler) (now : Time)

/-- The block read back by `ProcessACK`. Either it is refused, for one of two reasons, or the
numbers returned are those of the narrowed runs. -/
theorem processACK_generateACK (hne : h.receivedPackets ≠ []) :
    ∃ block, (h.generateACK now).1 = some block ∧
      ((∃ e, (p.processACK block).1 = .error e) ∧
          (maxNACKRangesPerACK < (emittedRuns h.maxACKDataSize h.receivedPackets).length ∨
            lowerRuns h.receivedPackets ≠ [] ∧ 0 ∈ h.receivedPackets ∧
              FitsBlock h.maxACKDataSize h.receivedPackets) ∨
        (∃ acked, (p.processACK block).1 = .ok acked ∧
            acked.map num = down (topNumber h.receivedPackets) (firstByte h.receivedPackets + 1) ++
              expand (topNumber h.receivedPackets - (firstByte h.receivedPackets + 1 : ℕ))
                ((emittedRuns h.maxACKDataSize h.receivedPackets).map (Seg.cap 255))) ∧
          (emittedRuns h.maxACKDataSize h.receivedPackets).length ≤ maxNACKRangesPerACK ∧
            ¬ (lowerRuns h.receivedPackets ≠ [] ∧ 0 ∈ h.receivedPackets ∧
              FitsBlock h.maxACKDataSize h.receivedPackets)) := by
  obtain ⟨throughPN, htop, hgen⟩ := generateACK_eq h now hne
  refine ⟨_, by rw [hgen], ?_⟩
  set recorded := h.receivedPackets with hrec
  set l := (emittedRuns h.maxACKDataSize recorded).map (Seg.cap 255) with hl
  have hfirst := firstByte_lt_topRun hne
  have hrange := topRun_le recorded
  have hle : (firstByte recorded : ℤ) ≤ num throughPN := by grind
  have hlen : l.length = (emittedRuns h.maxACKDataSize recorded).length := by
    rw [hl, List.length_map]
  by_cases hlow : lowerRuns recorded = []
  · -- one run: there are no ranges to refuse
    have hnil : l = [] := by rw [hl, emittedRuns, hlow, List.take_nil, List.map_nil]
    obtain ⟨acked, hok, hacked⟩ := processACK_of_accepts p (firstByte_le recorded) hle
      isByteRange_of_mem_map_cap (Or.inl hnil)
    refine Or.inr ⟨⟨acked, hok, by rw [hacked, htop]⟩, ?_, fun hx => hx.1 hlow⟩
    rw [← hlen, hnil]
    exact Nat.zero_le _
  · have hweight := weight_emittedRuns_le_iff hne hlow h.maxACKDataSize
    by_cases hacc : AcceptsRanges throughPN (firstByte recorded) l
    · obtain ⟨acked, hok, hacked⟩ := processACK_of_accepts p (firstByte_le recorded) hle
        isByteRange_of_mem_map_cap (Or.inr hacc)
      refine Or.inr ⟨⟨acked, hok, by rw [hacked, htop]⟩, by rw [← hlen]; exact hacc.1, ?_⟩
      rintro ⟨-, h0, hfit⟩
      exact hweight.mp (by rw [← htop]; exact hacc.2) ⟨h0, hfit⟩
    · have hw := weight_lowerRuns_le recorded
      obtain ⟨s, l', hs⟩ := List.exists_cons_of_ne_nil hlow
      have hlt : (firstByte recorded : ℤ) < num throughPN := by
        rw [hs, weight_cons] at hw
        have hr := s.run_pos
        push_cast at hw
        rw [htop]
        omega
      refine Or.inl ⟨processACK_of_not_accepts p (firstByte_le recorded) hlt
        isByteRange_of_mem_map_cap hacc, ?_⟩
      by_cases hmany : maxNACKRangesPerACK < (emittedRuns h.maxACKDataSize recorded).length
      · exact Or.inl hmany
      · refine Or.inr ⟨hlow, ?_⟩
        by_contra hx
        refine hacc ⟨by rw [hlen]; omega, ?_⟩
        rw [htop]
        exact hweight.mpr hx

end Block

/-! ## Soundness -/

/-- **Soundness, exactly.** Every number that `ProcessACK` returns was recorded if and only if the
receiver refuses the block for having too many ranges, or every lower run that was written, moved up
by the lengths narrowed above it, lands on recorded numbers. -/
theorem processACK_sound_iff (h p : ACKHandler) (last now : Time) (recorded : List UInt32) :
    (∀ block acked, ((h.recordedSince last recorded).generateACK now).1 = some block →
        (p.processACK block).1 = .ok acked → ∀ n ∈ acked, n ∈ recorded) ↔
      maxNACKRangesPerACK < (emittedRuns h.maxACKDataSize recorded).length ∨
        LandsIn 255 (fun x => x ∈ recorded.map num) (topNumber recorded - topRun recorded)
          (topRun recorded - (firstByte recorded + 1 : ℕ))
          (emittedRuns h.maxACKDataSize recorded) := by
  have hrec := h.receivedPackets_recordedSince last recorded
  have hsize := h.maxACKDataSize_recordedSince last recorded
  by_cases hne : recorded = []
  · subst hne
    rw [generateACK_of_nil hrec]
    refine ⟨fun _ => Or.inr ?_, fun _ block acked hb => absurd hb (by simp)⟩
    have hnil : emittedRuns h.maxACKDataSize [] = [] := List.take_nil
    rw [hnil]
    trivial
  obtain ⟨block, hblock, hcases⟩ :=
    processACK_generateACK (h := h.recordedSince last recorded) p now (by rw [hrec]; exact hne)
  rw [hrec, hsize] at hcases
  have hdesc := descending_eq recorded
  have hfirst := firstByte_lt_topRun hne
  have hpos : topNumber recorded - topRun recorded +
      (topRun recorded - (firstByte recorded + 1 : ℕ)) =
        topNumber recorded - (firstByte recorded + 1 : ℕ) := by ring
  constructor
  · intro hsound
    rcases hcases with ⟨-, hmany | ⟨-, -, hfit⟩⟩ | ⟨⟨acked, hok, hacked⟩, -, -⟩
    · exact Or.inl hmany
    · -- nothing was narrowed
      refine Or.inr ?_
      have htop := (firstByte_eq_iff hne).mpr hfit.topRun_le
      rw [htop, sub_self, emittedRuns, List.take_of_length_le hfit.length_le]
      rw [← forall_mem_expand_cap_iff, add_zero, map_cap_eq_self hfit.fits]
      intro x hx
      rw [← mem_descending, hdesc]
      exact List.mem_append_right _ hx
    · refine Or.inr ?_
      rw [← forall_mem_expand_cap_iff]
      intro x hx
      rw [hpos] at hx
      have hmem : x ∈ acked.map num := by grind
      obtain ⟨n, hn, rfl⟩ := List.mem_map.mp hmem
      exact List.mem_map_of_mem (hsound block acked hblock hok n hn)
  · intro hcond block' acked' hblock' hok' n hn
    obtain rfl : block = block' := Option.some.inj (hblock.symm.trans hblock')
    rcases hcases with ⟨⟨e, he⟩, -⟩ | ⟨⟨acked, hok, hacked⟩, hfew, -⟩
    · rw [he] at hok'
      cases hok'
    · obtain rfl : acked = acked' := Except.ok.inj (hok.symm.trans hok')
      have hlands := hcond.resolve_left (Nat.not_lt.mpr hfew)
      rw [← forall_mem_expand_cap_iff] at hlands
      rw [hpos] at hlands
      have hmem : num n ∈ acked.map num := List.mem_map_of_mem hn
      rw [hacked, List.mem_append] at hmem
      rcases hmem with hmem | hmem
      · -- the shortened first run is part of the first run
        have hb := mem_down.mp hmem
        refine num_mem_descending.mp ?_
        rw [hdesc]
        refine List.mem_append_left _ (mem_down.mpr ?_)
        push_cast at hb
        omega
      · exact (List.mem_map_of_injective num_injective).mp (hlands _ hmem)

/-- Numbers 1000 and 500: the gap of 499 is written as 256, and 743 is acknowledged. -/
theorem processACK_acks_unrecorded :
    ∃ block acked,
      ((ACKHandler.newACKHandler.recordedSince 0 [1000, 500]).generateACK 0).1 = some block ∧
        (ACKHandler.newACKHandler.processACK block).1 = .ok acked ∧ 743 ∈ acked ∧
          743 ∉ ([1000, 500] : List UInt32) :=
  ⟨⟨blockTypeACK, [0, 0, 3, 232, 0, 255, 0]⟩, [1000, 743], by decide, by decide, by decide,
    by decide⟩

/-! ## Exactness -/

/-- **Exactness.** With every number at least `1`, every run and gap at most 256, at most 200 lower
runs and room for them, the receiver accepts the block and reads back the recorded numbers, each
once and from the largest down. -/
theorem processACK_exact (h p : ACKHandler) (last now : Time) (recorded : List UInt32)
    (hpos : ∀ n ∈ recorded, 1 ≤ n) (htop : topRun recorded ≤ 256)
    (hruns : ∀ s ∈ lowerRuns recorded, s.gap ≤ 256 ∧ s.run ≤ 256)
    (hcount : (lowerRuns recorded).length ≤ 200)
    (hroom : 5 + 2 * (lowerRuns recorded).length ≤ h.maxACKDataSize) :
    if recorded = [] then ((h.recordedSince last recorded).generateACK now).1 = none
    else ∃ block acked,
      ((h.recordedSince last recorded).generateACK now).1 = some block ∧
        (p.processACK block).1 = .ok acked ∧ acked.Pairwise (· > ·) ∧
          ∀ n, n ∈ acked ↔ n ∈ recorded := by
  have hrec := h.receivedPackets_recordedSince last recorded
  have hsize := h.maxACKDataSize_recordedSince last recorded
  split_ifs with hne
  · subst hne
    rw [generateACK_of_nil hrec]
  have hfit : FitsBlock h.maxACKDataSize recorded :=
    ⟨htop, by unfold maxRanges; omega, hruns⟩
  have hemit : emittedRuns h.maxACKDataSize recorded = lowerRuns recorded :=
    List.take_of_length_le hfit.length_le
  have h0 : 0 ∉ recorded := fun hmem => absurd (hpos 0 hmem) (by decide)
  obtain ⟨block, hblock, hcases⟩ :=
    processACK_generateACK (h := h.recordedSince last recorded) p now (by rw [hrec]; exact hne)
  rw [hrec, hsize, hemit] at hcases
  rcases hcases with ⟨-, hmany | ⟨-, h0', -⟩⟩ | ⟨⟨acked, hok, hacked⟩, -, -⟩
  · unfold maxNACKRangesPerACK at hmany
    omega
  · exact absurd h0' h0
  · rw [map_cap_eq_self hfit.fits, (firstByte_eq_iff hne).mpr htop, ← descending_eq] at hacked
    refine ⟨block, acked, hblock, hok, ?_, fun n => ?_⟩
    · have hdesc := pairwise_descending recorded
      rw [← hacked, List.pairwise_map] at hdesc
      exact hdesc.imp fun hab => lt_iff_num_lt.mpr hab
    · rw [← List.mem_map_of_injective num_injective, hacked, num_mem_descending]

/-- Two runs with a gap, out of order and with a repetition. -/
theorem processACK_exact_two_runs :
    ∃ block acked,
      ((ACKHandler.newACKHandler.recordedSince 0 [7, 2, 3, 2, 8]).generateACK 0).1 = some block ∧
        (ACKHandler.newACKHandler.processACK block).1 = .ok acked ∧ acked.Pairwise (· > ·) ∧
          ∀ n, n ∈ acked ↔ n ∈ ([7, 2, 3, 2, 8] : List UInt32) := by
  have hpos : ∀ n ∈ ([7, 2, 3, 2, 8] : List UInt32), 1 ≤ n := by grind
  have h := processACK_exact newACKHandler newACKHandler 0 0 [7, 2, 3, 2, 8]
    hpos (by decide) (by decide) (by decide) (by decide)
  rwa [if_neg (by decide)] at h

/-! ## Acceptance -/

/-- **Acceptance, exactly.** With the default `maxACKDataSize`, the receiver accepts the block if
and only if there are at most 200 lower runs, and either `0` is not recorded, or there is one run
only, or some length of the block was narrowed. -/
theorem processACK_accepts_iff (h p : ACKHandler) (last now : Time) (recorded : List UInt32)
    (hdefault : h.maxACKDataSize = ACKHandler.newACKHandler.maxACKDataSize) :
    (∀ block, ((h.recordedSince last recorded).generateACK now).1 = some block →
        ∃ acked, (p.processACK block).1 = .ok acked) ↔
      (lowerRuns recorded).length ≤ 200 ∧
        (0 ∉ recorded ∨ lowerRuns recorded = [] ∨ 256 < topRun recorded ∨
          ∃ s ∈ lowerRuns recorded, 256 < s.gap ∨ 256 < s.run) := by
  have hrec := h.receivedPackets_recordedSince last recorded
  have hsize := h.maxACKDataSize_recordedSince last recorded
  by_cases hne : recorded = []
  · subst hne
    rw [generateACK_of_nil hrec]
    refine ⟨fun _ => ⟨Nat.zero_le _, Or.inl List.not_mem_nil⟩, fun _ block hb => ?_⟩
    exact absurd hb (by simp)
  have hroom : maxRanges h.maxACKDataSize = 249 := by rw [hdefault]; rfl
  have hlen : (emittedRuns h.maxACKDataSize recorded).length =
      min 249 (lowerRuns recorded).length := by
    rw [emittedRuns, hroom, List.length_take]
  obtain ⟨block, hblock, hcases⟩ :=
    processACK_generateACK (h := h.recordedSince last recorded) p now (by rw [hrec]; exact hne)
  rw [hrec, hsize, hlen] at hcases
  unfold maxNACKRangesPerACK at hcases
  constructor
  · intro hacc
    obtain ⟨acked', hok'⟩ := hacc block hblock
    rcases hcases with ⟨⟨e, he⟩, -⟩ | ⟨-, hfew, hfloor⟩
    · rw [he] at hok'
      cases hok'
    · have hfew' : (lowerRuns recorded).length ≤ 200 := by omega
      refine ⟨hfew', ?_⟩
      by_contra hcon
      push Not at hcon
      obtain ⟨h0, hlow, htop, hfit⟩ := hcon
      exact hfloor ⟨hlow, h0, htop, by rw [hroom]; omega, hfit⟩
  · rintro ⟨hfew, hcond⟩ block' hblock'
    obtain rfl : block = block' := Option.some.inj (hblock.symm.trans hblock')
    rcases hcases with ⟨-, hmany | ⟨hlow, h0, hfit⟩⟩ | ⟨⟨acked, hok, -⟩, -, -⟩
    · omega
    · rcases hcond with h0' | hlow' | htop | ⟨s, hs, hwide⟩
      · exact absurd h0 h0'
      · exact absurd hlow' hlow
      · exact absurd hfit.topRun_le (Nat.not_le.mpr htop)
      · obtain ⟨hg, hr⟩ := hfit.fits s hs
        omega
    · exact ⟨acked, hok⟩

/-- Two runs above `0`, with the default settings on both sides. -/
theorem processACK_accepts_two_runs :
    ∃ block acked, ((ACKHandler.newACKHandler.recordedSince 0 [9, 7]).generateACK 0).1 =
      some block ∧
      (ACKHandler.newACKHandler.processACK block).1 = .ok acked := by
  have h := (processACK_accepts_iff newACKHandler newACKHandler 0 0 [9, 7]
    rfl).mpr ⟨by decide, Or.inl (by decide)⟩
  obtain ⟨acked, hok⟩ := h ⟨blockTypeACK, [0, 0, 0, 9, 0, 0, 0]⟩ (by decide)
  exact ⟨_, acked, by decide, hok⟩

def oddNumbers : List UInt32 := (List.range 202).map fun i => UInt32.ofNat (403 - 2 * i)

theorem length_lowerRuns_oddNumbers : (lowerRuns oddNumbers).length = 201 := by
  have hpair : (oddNumbers.map num).Pairwise (· > ·) := by
    rw [oddNumbers, List.map_map, List.pairwise_map]
    refine List.pairwise_lt_range.imp_of_mem fun {i j} hi hj hij => ?_
    have hj' := List.mem_range.mp hj
    show num (UInt32.ofNat (403 - 2 * j)) < num (UInt32.ofNat (403 - 2 * i))
    unfold num
    rw [UInt32.toNat_ofNat', UInt32.toNat_ofNat']
    omega
  rw [lowerRuns, descending_of_pairwise hpair]
  decide +kernel

/-- The odd numbers up to 403 make 201 ranges, which the encoder writes and the receiver refuses;
the numbers 2 and 0 make one range, whose run ends at the floor. -/
theorem processACK_refuses_own_block :
    (∃ block, ((ACKHandler.newACKHandler.recordedSince 0 oddNumbers).generateACK 0).1 = some block ∧
        ∀ acked, (ACKHandler.newACKHandler.processACK block).1 ≠ .ok acked) ∧
      ∃ block, ((ACKHandler.newACKHandler.recordedSince 0 [2, 0]).generateACK 0).1 = some block ∧
        ∀ acked, (ACKHandler.newACKHandler.processACK block).1 ≠ .ok acked := by
  constructor
  · have hrec := newACKHandler.receivedPackets_recordedSince 0 oddNumbers
    have hsize := newACKHandler.maxACKDataSize_recordedSince 0 oddNumbers
    have hlen : (emittedRuns newACKHandler.maxACKDataSize oddNumbers).length = 201 := by
      rw [emittedRuns, List.length_take, length_lowerRuns_oddNumbers]
      rfl
    obtain ⟨block, hblock, hcases⟩ := processACK_generateACK
      (h := newACKHandler.recordedSince 0 oddNumbers) newACKHandler 0
      (by rw [hrec]; exact List.cons_ne_nil _ _)
    rw [hrec, hsize, hlen] at hcases
    rcases hcases with ⟨⟨e, he⟩, -⟩ | ⟨-, hfew, -⟩
    · grind
    · exact absurd hfew (by decide)
  · refine ⟨⟨blockTypeACK, [0, 0, 0, 2, 0, 0, 0]⟩, by decide, fun acked hok => ?_⟩
    have hbool : (newACKHandler.processACK
        ⟨blockTypeACK, [0, 0, 0, 2, 0, 0, 0]⟩).1.toBool = false := by decide
    rw [hok] at hbool
    cases hbool

/-! ## Nothing is forgotten -/

inductive AckCall
  | recordReceived (pn : UInt32)
  | generateACK (now : Time)
deriving DecidableEq

/-- The handler after a call. -/
def AckCall.step (h : ACKHandler) : AckCall → ACKHandler
  | .recordReceived pn => h.recordReceived pn
  | .generateACK now => (h.generateACK now).2

def AckCall.block? (h : ACKHandler) : AckCall → Option SSU2Block
  | .recordReceived _ => none
  | .generateACK now => (h.generateACK now).1

def AckCall.recorded : AckCall → List UInt32
  | .recordReceived pn => [pn]
  | .generateACK _ => []

/-- After the call, every number held before it or recorded by it is acknowledged by the block the
call returns or still held. -/
def NotForgotten (h : ACKHandler) (c : AckCall) : Prop :=
  ∀ n ∈ h.receivedPackets ++ c.recorded,
    (∃ block, c.block? h = some block ∧ num n ∈ ackBlockNumbers block) ∨
      n ∈ (c.step h).receivedPackets

/-- At a `GenerateACK` no length is narrowed and every run has room. -/
def FitsCall (h : ACKHandler) : AckCall → Prop
  | .recordReceived _ => True
  | .generateACK _ => FitsBlock h.maxACKDataSize h.receivedPackets

/-- The numbers recorded in a run. -/
def recordedIn (calls : List AckCall) : List UInt32 := calls.flatMap AckCall.recorded

/-- The blocks returned in a run. -/
def blocksIn (h : ACKHandler) : List AckCall → List SSU2Block
  | [] => []
  | c :: calls => (c.block? h).toList ++ blocksIn (c.step h) calls

theorem notForgotten_call_iff (c : AckCall) : NotForgotten h c ↔ FitsCall h c := by
  cases c with
  | recordReceived pn => exact iff_of_true (fun n hn => Or.inr hn) trivial
  | generateACK now =>
    show (∀ n ∈ h.receivedPackets ++ [], _) ↔ FitsBlock h.maxACKDataSize h.receivedPackets
    rw [List.append_nil]
    by_cases hne : h.receivedPackets = []
    · refine iff_of_true (fun n hn => ?_) ?_
      · rw [hne] at hn
        cases hn
      · rw [hne]
        exact ⟨Nat.zero_le _, Nat.zero_le _, fun s hs => by cases hs⟩
    obtain ⟨throughPN, htop, hgen⟩ := generateACK_eq h now hne
    set recorded := h.receivedPackets with hrecorded
    have hle : firstByte recorded + 1 ≤ topRun recorded := firstByte_lt_topRun hne
    have hblock := ackBlockNumbers_ackData blockTypeACK throughPN (firstByte_le recorded)
      (isByteRange_of_mem_map_cap (l := emittedRuns h.maxACKDataSize recorded))
    have hsub := subset_cap_iff (a := topNumber recorded) (n := 255)
      (k := maxRanges h.maxACKDataSize) (l := lowerRuns recorded) hle
    rw [← descending_eq, firstByte_eq_iff hne] at hsub
    constructor
    · intro hkept
      obtain ⟨ht, hl, hf⟩ := hsub.mp fun x hx => by
        obtain ⟨n, hn, rfl⟩ := List.mem_map.mp (mem_descending.mp hx)
        rcases hkept n hn with ⟨block, hb, hmem⟩ | hheld
        · obtain rfl : _ = block := Option.some.inj ((congrArg Prod.fst hgen).symm.trans hb)
          rwa [hblock, htop] at hmem
        · have hnil := h.receivedPackets_generateACK now
          change n ∈ (h.generateACK now).2.receivedPackets at hheld
          rw [hnil] at hheld
          cases hheld
      exact ⟨ht, hl, hf⟩
    · intro hfit n hn
      refine Or.inl ⟨_, congrArg Prod.fst hgen, ?_⟩
      rw [hblock, htop]
      exact hsub.mpr ⟨hfit.topRun_le, hfit.length_le, hfit.fits⟩ _ (num_mem_descending.mpr hn)

theorem held_or_acknowledged {h : ACKHandler} {calls : List AckCall}
    (hkept : Always AckCall.step NotForgotten h calls) :
    ∀ n ∈ h.receivedPackets ++ recordedIn calls,
      (∃ block ∈ blocksIn h calls, num n ∈ ackBlockNumbers block) ∨
        n ∈ (exec AckCall.step h calls).receivedPackets := by
  induction calls generalizing h with
  | nil =>
    intro n hn
    rw [recordedIn, List.flatMap_nil, List.append_nil] at hn
    exact Or.inr hn
  | cons c calls ih =>
    intro n hn
    obtain ⟨hc, hrest⟩ := hkept
    rw [recordedIn, List.flatMap_cons, ← List.append_assoc, List.mem_append] at hn
    -- what the call leaves held, or what is recorded later, is the concern of the later calls
    have hlater : n ∈ (c.step h).receivedPackets ++ recordedIn calls →
        (∃ block ∈ blocksIn h (c :: calls), num n ∈ ackBlockNumbers block) ∨
          n ∈ (exec AckCall.step h (c :: calls)).receivedPackets := by
      intro hmem
      rcases ih hrest n hmem with ⟨block, hb, hblock⟩ | hheld
      · exact Or.inl ⟨block, List.mem_append_right _ hb, hblock⟩
      · exact Or.inr hheld
    rcases hn with hn | hn
    · rcases hc n hn with ⟨block, hb, hblock⟩ | hheld
      · refine Or.inl ⟨block, List.mem_append_left _ ?_, hblock⟩
        rw [hb]
        exact List.mem_singleton_self block
      · exact hlater (List.mem_append_left _ hheld)
    · exact hlater (List.mem_append_right _ hn)

/-- **Nothing is forgotten, exactly.** Along a run of `RecordReceived` and `GenerateACK` calls,
every call leaves each number acknowledged or held if and only if, at every `GenerateACK`, the first
run, every gap and every lower run is at most 256 long and the lower runs have room. Every number
recorded in such a run is acknowledged by one of its blocks or held at its end. -/
theorem notForgotten_iff (h : ACKHandler) (calls : List AckCall) :
    (Always AckCall.step NotForgotten h calls ↔ Always AckCall.step FitsCall h calls) ∧
      (Always AckCall.step FitsCall h calls →
        ∀ n ∈ h.receivedPackets ++ recordedIn calls,
          (∃ block ∈ blocksIn h calls, num n ∈ ackBlockNumbers block) ∨
            n ∈ (exec AckCall.step h calls).receivedPackets) := by
  have hiff : Always AckCall.step NotForgotten h calls ↔ Always AckCall.step FitsCall h calls :=
    always_congr notForgotten_call_iff
  exact ⟨hiff, fun hfit => held_or_acknowledged (hiff.mpr hfit)⟩

/-- Numbers 1000 and 500 with the default settings: after `GenerateACK`, 500 is neither in the block
nor held. -/
theorem generateACK_forgets :
    ¬ Always AckCall.step NotForgotten ACKHandler.newACKHandler
      [.recordReceived 1000, .recordReceived 500, .generateACK 0] := by
  rintro ⟨-, -, hgen, -⟩
  rcases hgen 500 (by decide) with ⟨block, hb, hmem⟩ | hheld
  · obtain rfl : (⟨blockTypeACK, [0, 0, 3, 232, 0, 255, 0]⟩ : SSU2Block) = block := by
      refine Option.some.inj (Eq.trans ?_ hb)
      decide
    exact absurd hmem (by decide)
  · exact absurd hheld (by decide)

/-! ## A rejected block -/

theorem pendingACKs_retireAll (s : AckScan) (l : List ℤ) :
    (s.retireAll l).pendingACKs =
      (l.map fun x => UInt32.ofNat x.toNat).foldl (fun m pn => m.erase pn) s.pendingACKs := by
  induction l generalizing s with
  | nil => rfl
  | cons x l ih => exact ih _

/-- What `ProcessACK` leaves pending: all but the numbers it can read, on an error too. -/
theorem lookup_pendingACKs_processACK (b : SSU2Block) (pn : UInt32) :
    (h.processACK b).2.pendingACKs.lookup pn =
      if pn ∈ (readNumbers b).map fun x => UInt32.ofNat x.toNat then none
      else h.pendingACKs.lookup pn := by
  by_cases hb : HeaderACK b
  · obtain ⟨r, hr, -⟩ := processACK_of_header h hb
    rw [hr]
    show (AckScan.retireAll _ _).pendingACKs.lookup pn = _
    rw [pendingACKs_retireAll, GoMap.lookup_foldl_erase]
  · rw [readNumbers, if_neg hb]
    exact congrArg (fun h : ACKHandler => h.pendingACKs.lookup pn) (processACK_of_not_header h hb).2

/-- **A rejected block retires nothing, exactly when** it is well formed and so not rejected, or no
number it names before its first malformed part is pending. -/
theorem processACK_error_keeps_pending_iff (h : ACKHandler) (b : SSU2Block) :
    ((∃ e, (h.processACK b).1 = .error e) →
        ∀ pn, (h.processACK b).2.pendingACKs.lookup pn = h.pendingACKs.lookup pn) ↔
      WellFormedACK b ∨ ∀ x ∈ readNumbers b, UInt32.ofNat x.toNat ∉ h.pendingACKs := by
  have herr : (∃ e, (h.processACK b).1 = .error e) ↔ ¬ WellFormedACK b := by
    by_cases hb : HeaderACK b
    · obtain ⟨r, hr, herr⟩ := processACK_of_header h hb
      rw [hr, ← herr]
      cases r <;> simp [finishACK, Except.map]
    · exact iff_of_true (processACK_of_not_header h hb).1 fun hwf => hb hwf.1
  have hkept : (∀ pn, (h.processACK b).2.pendingACKs.lookup pn = h.pendingACKs.lookup pn) ↔
      ∀ x ∈ readNumbers b, UInt32.ofNat x.toNat ∉ h.pendingACKs := by
    constructor
    · intro hsame x hx
      have hx' := hsame (UInt32.ofNat x.toNat)
      rw [lookup_pendingACKs_processACK, if_pos (List.mem_map_of_mem hx)] at hx'
      exact AList.lookup_eq_none.mp hx'.symm
    · intro hfree pn
      rw [lookup_pendingACKs_processACK]
      split_ifs with hpn
      · obtain ⟨x, hx, rfl⟩ := List.mem_map.mp hpn
        exact (AList.lookup_eq_none.mpr (hfree x hx)).symm
      · rfl
  rw [herr, hkept]
  exact or_iff_not_imp_left.symm

/-- Packets 9 and 4 are pending; the block acknowledges 9 and then names a gap of ten numbers below
it. `ProcessACK` rejects the block and 9 is pending no more. -/
theorem processACK_error_retires :
    (∃ e, (((ACKHandler.newACKHandler.addPending 9 0).addPending 4 0).processACK
        ⟨blockTypeACK, [0, 0, 0, 9, 0, 9, 0]⟩).1 = .error e) ∧
      (((ACKHandler.newACKHandler.addPending 9 0).addPending 4 0).processACK
        ⟨blockTypeACK, [0, 0, 0, 9, 0, 9, 0]⟩).2.pendingACKs.keys = [4] :=
  ⟨⟨_, rfl⟩, by decide⟩

end GoNoise.SSU2
