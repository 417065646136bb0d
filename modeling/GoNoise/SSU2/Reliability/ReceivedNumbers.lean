import GoNoise.Library.Missing
import GoNoise.SSU2.Reliability.ReceiveWindow

/-!
# The receive window as a set of numbers

What the receive window is for, without the wrap around and the map: a set of numbers that have been
taken. The window expects the first missing number, keeps what waits beyond it, and takes a new
number if it is the missing one or if there is room to wait.
-/

namespace GoNoise.SSU2.Received

open Serial Missing
open ReceiveWindow (Buffered newReceiveWindow newReceiveWindow_empty releaseBuffered
  releaseBuffered_spec)

/-- There is a place for the new number `n`: it is the missing one, or fewer than `bound` wait. -/
def Fits (bound : ℕ) (s : Finset ℕ) (n : ℕ) : Prop := n = missing s ∨ (waiting s).card < bound

/-- The window has taken exactly the numbers `s`. -/
structure Represents (w : ReceiveWindow) (s : Finset ℕ) : Prop where
  lt : ∀ n ∈ s, n < 2 ^ 32
  expected : w.expected = UInt32.ofNat (missing s)
  keys : ∀ k : UInt32, k ∈ w.window ↔ k.toNat ∈ waiting s
  buffered : Buffered w.expected w.window

theorem represents_new (maxSize : ℤ) : Represents (newReceiveWindow 0 maxSize) ∅ := by
  obtain ⟨hw, he⟩ := newReceiveWindow_empty 0 maxSize
  refine ⟨fun n hn => absurd hn (Finset.notMem_empty n), ?_, fun k => ?_, fun k p hp => ?_, ?_⟩
  · rw [he, missing_empty]
    rfl
  · rw [hw, mem_waiting]
    exact iff_of_false (AList.notMem_empty k) fun h => Finset.notMem_empty _ h.1
  · rw [hw] at hp
    cases hp
  · intro k hk
    rw [hw] at hk
    exact absurd hk (AList.notMem_empty k)

namespace Represents

variable {w : ReceiveWindow} {s : Finset ℕ} {k : UInt32} {e' : UInt32} {n : ℕ} {packet : SSU2Packet}
  {ready : List SSU2Packet} {window' : GoMap UInt32 SSU2Packet}

section
variable (h : Represents w s)
include h

theorem expected_succ_add (i : ℕ) :
    w.expected + 1 + UInt32.ofNat i = UInt32.ofNat (missing s + 1 + i) := by
  rw [h.expected, UInt32.ofNat_add, UInt32.ofNat_add]
  rfl

theorem size_eq : w.window.size = (waiting s).card := by
  have hnodup : (w.window.keys.map UInt32.toNat).Nodup :=
    w.window.keys_nodup.map fun a b => UInt32.toNat_inj.mp
  have hset : (w.window.keys.map UInt32.toNat).toFinset = waiting s := by
    ext n
    rw [List.mem_toFinset, List.mem_map]
    constructor
    · rintro ⟨k, hk, rfl⟩
      exact (h.keys k).mp (AList.mem_keys.mpr hk)
    · intro hn
      have hlt : n < 2 ^ 32 := h.lt n (mem_waiting.mp hn).1
      have hk : (UInt32.ofNat n).toNat = n := UInt32.toNat_ofNat_of_lt' hlt
      exact ⟨UInt32.ofNat n, AList.mem_keys.mp ((h.keys _).mpr (hk.symm ▸ hn)), hk⟩
  rw [← hset, List.toFinset_card_of_nodup hnodup, List.length_map, GoMap.length_keys]

end

/-! ## Where a number stands -/

/-- A number not taken yet is at or beyond the missing one, and nothing wraps. -/
theorem of_notMem (h : Represents w s) (hk : k.toNat ∉ s) :
    w.expected.toNat = missing s ∧ ahead k w.expected = k.toNat - missing s ∧ k ∉ w.window ∧
      (k = w.expected ↔ k.toNat = missing s) := by
  have hle := Missing.missing_le hk
  have hlt : missing s < 2 ^ 32 := lt_of_le_of_lt hle k.toNat_lt
  have he : w.expected.toNat = missing s := by
    rw [h.expected]
    exact UInt32.toNat_ofNat_of_lt' hlt
  refine ⟨he, ?_, fun hmem => hk (mem_waiting.mp ((h.keys k).mp hmem)).1, ?_⟩
  · rw [ahead_of_le (he.symm ▸ hle), he]
  · rw [← UInt32.toNat_inj, he]

theorem of_mem (h : Represents w s) (hk : k.toNat ∈ s) (hnear : missing s ≤ k.toNat + 2 ^ 31) :
    k ∈ w.window ∨ 2 ^ 31 ≤ ahead k w.expected := by
  by_cases hlt : missing s < k.toNat
  · exact Or.inl ((h.keys k).mpr (mem_waiting.mpr ⟨hk, hlt⟩))
  · right
    have hne : k.toNat ≠ missing s := fun heq => missing_notMem s (heq ▸ hk)
    have he : w.expected.toNat = missing s % 2 ^ 32 := by
      rw [h.expected]
      exact UInt32.toNat_ofNat'
    rw [ahead_eq, he]
    omega

/-! ## One call -/

section
variable (h : Represents w s)
include h

theorem insert_error (hn : packet.packetNumber.toNat = n)
    (hrefuse : n ∈ s ∧ missing s ≤ n + 2 ^ 31 ∨ missing s + 2 ^ 31 ≤ n ∨
      n ∉ s ∧ ¬ Fits w.maxSize s n) : ∃ e, w.insert (some packet) = (.error e, w) := by
  subst hn
  set k := packet.packetNumber with hk
  -- one of the three reasons of `insert_cases` holds
  have hreason : 2 ^ 31 ≤ ahead k w.expected ∨ k ∈ w.window ∨
      k ≠ w.expected ∧ w.maxSize ≤ w.window.size := by
    by_cases hmem : k.toNat ∈ s
    · rcases hrefuse with ⟨-, hnear⟩ | hfar | ⟨hnot, -⟩
      · exact (h.of_mem hmem hnear).symm.imp_right Or.inl
      · exact (h.of_mem hmem (by omega)).symm.imp_right Or.inl
      · exact absurd hmem hnot
    · obtain ⟨-, hahead, -, heq⟩ := h.of_notMem hmem
      rcases hrefuse with ⟨hmem', -⟩ | hfar | ⟨-, hfits⟩
      · exact absurd hmem' hmem
      · exact Or.inl (by omega)
      · rw [Fits, not_or, ← heq, ← h.size_eq] at hfits
        exact Or.inr (Or.inr ⟨hfits.1, Nat.le_of_not_lt hfits.2⟩)
  rcases w.insert_cases packet with ⟨e, hins, -⟩ | ⟨heq, hout, -⟩ | ⟨hne, hnot, hnear, hroom, -⟩
  · exact ⟨e, hins⟩
  · rcases hreason with hfar | hmem | ⟨hne, -⟩
    · rw [hk, heq, ahead_self] at hfar
      omega
    · exact absurd (heq ▸ hmem) hout
    · exact absurd heq hne
  · rcases hreason with hfar | hmem | ⟨-, hfull⟩
    · exact absurd hnear (Nat.not_lt.mpr hfar)
    · exact absurd hmem hnot
    · exact absurd hroom (Nat.not_lt.mpr hfull)

theorem length_ready (hlt : missing s < 2 ^ 32)
    (hnum : ready.map SSU2Packet.packetNumber = seqFrom (w.expected + 1) ready.length)
    (he' : e' = w.expected + 1 + UInt32.ofNat ready.length)
    (hsub : ∀ p ∈ ready, p.packetNumber ∈ w.window) (hout : e' ∉ window')
    (hkeys : ∀ k, k ∈ window' ↔ k ∈ w.window ∧ k ∉ ready.map SSU2Packet.packetNumber) :
    missing s + 1 + ready.length = missing (insert (missing s) s) := by
  have hnext := missing_lt_missing_insert s
  have hle : missing (insert (missing s) s) ≤ 2 ^ 32 := by
    refine Missing.missing_le fun hmem => ?_
    rcases Finset.mem_insert.mp hmem with heq | hmem
    · omega
    · exact lt_irrefl _ (h.lt _ hmem)
  rcases Nat.lt_trichotomy (missing s + 1 + ready.length) (missing (insert (missing s) s)) with
    hshort | heq | hlong
  · -- the loop would have gone on
    have hwait := mem_of_lt_missing_insert (s := s) (n := missing s + 1 + ready.length) (by omega)
      hshort
    have hsmall : missing s + 1 + ready.length < 2 ^ 32 := by omega
    have hnat := UInt32.toNat_ofNat_of_lt' hsmall
    have hin : e' ∈ w.window := by
      rw [he', h.expected_succ_add, h.keys, hnat]
      exact hwait
    refine absurd ((hkeys e').mpr ⟨hin, fun hmem => ?_⟩) hout
    rw [hnum, seqFrom, List.mem_map] at hmem
    obtain ⟨i, hi, heq⟩ := hmem
    rw [List.mem_range] at hi
    have hsmall' : missing s + 1 + i < 2 ^ 32 := by omega
    rw [he', h.expected_succ_add, h.expected_succ_add] at heq
    have hsame := congrArg UInt32.toNat heq
    rw [hnat, UInt32.toNat_ofNat_of_lt' hsmall'] at hsame
    omega
  · exact heq
  · -- the next missing number would have been in the window
    set j := missing (insert (missing s) s) - (missing s + 1) with hj
    have hmem : w.expected + 1 + UInt32.ofNat j ∈ ready.map SSU2Packet.packetNumber := by
      rw [hnum, seqFrom]
      exact List.mem_map.mpr ⟨j, List.mem_range.mpr (by omega), rfl⟩
    obtain ⟨p, hp, hpn⟩ := List.mem_map.mp hmem
    have hin := (h.keys _).mp (hsub p hp)
    have hsum : missing s + 1 + j = missing (insert (missing s) s) := by omega
    rw [hpn, h.expected_succ_add, hsum] at hin
    obtain ⟨hins, hgt⟩ := mem_waiting.mp hin
    rw [UInt32.toNat_ofNat'] at hins hgt
    rcases Nat.lt_or_ge (missing (insert (missing s) s)) (2 ^ 32) with hsmall | hbig
    · rw [Nat.mod_eq_of_lt hsmall] at hins
      exact absurd (Finset.mem_insert_of_mem hins) (missing_notMem _)
    · omega

theorem release (hlt : missing s < 2 ^ 32) (hout : w.expected ∉ w.window)
    (hrel : releaseBuffered w.window.size (w.expected + 1) w.window = (ready, e', window')) :
    Represents { w with expected := e', window := window' } (insert (missing s) s) := by
  obtain ⟨hnum, he', hperm, hbuf, hout', hkeys⟩ :=
    releaseBuffered_spec (h.buffered.succ hout) (Nat.le_refl _) hrel
  have hsub : ∀ p ∈ ready, p.packetNumber ∈ w.window := by
    intro p hp
    obtain ⟨entry, hentry, hval⟩ :=
      List.mem_map.mp (hperm.mem_iff.mp (List.mem_append_left _ hp))
    have hlook : w.window.lookup entry.1 = some entry.2 := AList.mem_lookup_iff.mpr hentry
    rw [← hval, h.buffered.number _ _ hlook]
    exact AList.lookup_isSome.mp (by rw [hlook]; rfl)
  have hlen := h.length_ready hlt hnum he' hsub hout' hkeys
  have hexp : e' = UInt32.ofNat (missing (insert (missing s) s)) := by
    rw [he', ← hlen, h.expected_succ_add]
  refine ⟨fun n hn => ?_, hexp, fun k => ?_, hbuf⟩
  · rcases Finset.mem_insert.mp hn with rfl | hn
    · exact hlt
    · exact h.lt n hn
  · have hnext := missing_notMem (insert (missing s) s)
    rw [hkeys, h.keys, mem_waiting, mem_waiting, Finset.mem_insert, hnum, seqFrom]
    constructor
    · rintro ⟨⟨hk, hgt⟩, hnot⟩
      refine ⟨Or.inr hk, Nat.lt_of_le_of_ne (Nat.le_of_not_lt fun hless => hnot ?_) ?_⟩
      · refine List.mem_map.mpr ⟨k.toNat - (missing s + 1), List.mem_range.mpr (by omega), ?_⟩
        have hsum : missing s + 1 + (k.toNat - (missing s + 1)) = k.toNat := by omega
        rw [h.expected_succ_add, hsum, UInt32.ofNat_toNat]
      · intro heq
        exact hnext (heq ▸ Finset.mem_insert_of_mem hk)
    · rintro ⟨hk, hgt⟩
      refine ⟨⟨hk.resolve_left (by omega), by omega⟩, fun hmem => ?_⟩
      obtain ⟨i, hi, rfl⟩ := List.mem_map.mp hmem
      rw [List.mem_range] at hi
      rw [h.expected_succ_add, UInt32.toNat_ofNat'] at hgt
      omega

theorem buffer (hnot : packet.packetNumber.toNat ∉ s) (hne : packet.packetNumber.toNat ≠ missing s)
    (hnear : ahead packet.packetNumber w.expected < 2 ^ 31) :
    Represents { w with window := w.window.insert packet.packetNumber packet }
      (insert packet.packetNumber.toNat s) := by
  have hlt : missing s < packet.packetNumber.toNat :=
    lt_of_le_of_ne (Missing.missing_le hnot) (Ne.symm hne)
  refine ⟨fun n hn => ?_, ?_, fun k => ?_, h.buffered.insert hnear⟩
  · rcases Finset.mem_insert.mp hn with rfl | hn
    · exact packet.packetNumber.toNat_lt
    · exact h.lt n hn
  · rw [missing_insert_of_ne hne]
    exact h.expected
  · rw [waiting_insert_of_lt hlt, Finset.mem_insert, AList.mem_insert, h.keys, UInt32.toNat_inj]

theorem insert_ok (hn : packet.packetNumber.toNat = n) (hnot : n ∉ s)
    (hnear : n < missing s + 2 ^ 31) (hfits : Fits w.maxSize s n) :
    ∃ ready w', w.insert (some packet) = (.ok ready, w') ∧ w'.maxSize = w.maxSize ∧
      Represents w' (insert n s) := by
  subst hn
  obtain ⟨hexp, hahead, hnotmem, heq⟩ := h.of_notMem hnot
  rcases w.insert_cases packet with ⟨e, -, hreason⟩ | ⟨hk, hout, ready, e', window', hrel, hins⟩ |
    ⟨hne, -, hlt, -, hins⟩
  · exfalso
    rcases hreason with hfar | hmem | ⟨hne, hfull⟩
    · omega
    · exact hnotmem hmem
    · rw [h.size_eq] at hfull
      rcases hfits with hfits | hfits
      · exact hne (heq.mpr hfits)
      · omega
  · have hmissing : missing s < 2 ^ 32 := hexp ▸ w.expected.toNat_lt
    refine ⟨_, _, hins, rfl, ?_⟩
    rw [heq.mp hk]
    exact h.release hmissing hout hrel
  · exact ⟨_, _, hins, rfl, h.buffer hnot (fun he => hne (heq.mpr he)) hlt⟩

end

end Represents

end GoNoise.SSU2.Received
