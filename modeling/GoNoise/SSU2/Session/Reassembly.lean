import Mathlib.Data.Finset.Card
import GoNoise.Library.Traces
import GoNoise.SSU2.Session.Fragments

/-!
# Reassembly does not depend on the order of arrival

Fragments of many messages arrive in any order, interleaved and with duplicates, and the application
reads from the queue in between. The receiver should be an assembler that only remembers which
fragment numbers of which message have arrived; `Simulates` relates the handler to that.
-/

namespace GoNoise.SSU2

open Trace DataHandler

/-! ## Arrivals -/

/-- A fragment arrives, or the application takes a message from the queue. -/
inductive Arrival
  | fragment (m : Message) (i : ℕ) (now : Time)
  | read
  deriving DecidableEq

def DataHandler.onArrival (h : DataHandler) : Arrival → DataHandler
  | .fragment m i now => (h.processBlock now (m.fragment i)).2.2
  | .read =>
    match h.messageQueue.tryRecv with
    | some (_, queue) => { h with messageQueue := queue }
    | none => h

/-- What an arrival puts in the queue. -/
def DataHandler.enqueuedBy (h : DataHandler) : Arrival → List Bytes
  | .fragment m i now =>
    (h.onArrival (.fragment m i now)).messageQueue.items.drop h.messageQueue.items.length
  | .read => []

/-- Everything that a run puts in the queue, in order. -/
def DataHandler.enqueued (h : DataHandler) : List Arrival → List Bytes
  | [] => []
  | a :: as => h.enqueuedBy a ++ (h.onArrival a).enqueued as

def Arrival.number? (m : Message) : Arrival → Option ℕ
  | .fragment m' i _ => if m' = m then some i else none
  | .read => none

def arrived (as : List Arrival) (m : Message) : Finset ℕ := (as.filterMap (·.number? m)).toFinset

/-- Every fragment of `m` has arrived. -/
def Complete (as : List Arrival) (m : Message) : Prop := Holds.Complete m (arrived as m)

instance (as : List Arrival) (m : Message) : Decidable (Complete as m) :=
  inferInstanceAs (Decidable (Holds.Complete m (arrived as m)))

def InProgress (as : List Arrival) (m : Message) : Prop := arrived as m ≠ ∅ ∧ ¬ Complete as m

instance (as : List Arrival) (m : Message) : Decidable (InProgress as m) :=
  inferInstanceAs (Decidable (_ ∧ _))

def Arrival.completes (seen : List Arrival) (a : Arrival) : Option Message :=
  match a with
  | .fragment m _ _ => if Complete (seen ++ [a]) m ∧ ¬ Complete seen m then some m else none
  | .read => none

/-- The messages completed by the arrivals `as` after `seen`, in order. -/
def completedAfter (seen : List Arrival) : List Arrival → List Message
  | [] => []
  | a :: as => (a.completes seen).toList ++ completedAfter (seen ++ [a]) as

@[simp] theorem arrived_nil (m : Message) : arrived [] m = ∅ := rfl

variable {a : Arrival} {h h' : DataHandler} {m : Message} {seen : List Arrival} (as : List Arrival)

theorem mem_arrived {as : List Arrival} {i : ℕ} :
    i ∈ arrived as m ↔ ∃ now, Arrival.fragment m i now ∈ as := by
  rw [arrived, List.mem_toFinset, List.mem_filterMap]
  constructor
  · rintro ⟨a, ha, hnum⟩
    cases a with
    | fragment m' i' now =>
      rw [Arrival.number?] at hnum
      split_ifs at hnum with hm
      cases hnum
      exact ⟨now, hm ▸ ha⟩
    | read => cases hnum
  · rintro ⟨now, ha⟩
    exact ⟨_, ha, if_pos rfl⟩

theorem arrived_append_fragment (m : Message) (i : ℕ) (now : Time) :
    arrived (as ++ [.fragment m i now]) m = insert i (arrived as m) := by
  ext j
  rw [Finset.mem_insert, mem_arrived, mem_arrived]
  constructor
  · rintro ⟨t, ht⟩
    rcases List.mem_append.mp ht with ht | ht
    · exact Or.inr ⟨t, ht⟩
    · cases List.mem_singleton.mp ht
      exact Or.inl rfl
  · rintro (rfl | ⟨t, ht⟩)
    · exact ⟨now, List.mem_append_right _ (List.mem_singleton_self _)⟩
    · exact ⟨t, List.mem_append_left _ ht⟩

/-- An arrival that brings no fragment of `m` leaves its numbers as they were. -/
theorem arrived_append_of_number_eq_none
    (h : a.number? m = none) : arrived (as ++ [a]) m = arrived as m := by
  rw [arrived, List.filterMap_append, List.filterMap_cons, h]
  exact congrArg List.toFinset (List.append_nil _)

theorem arrived_append_of_ne {m' : Message} (h : m ≠ m') (i : ℕ)
    (now : Time) : arrived (as ++ [.fragment m i now]) m' = arrived as m' :=
  arrived_append_of_number_eq_none as (if_neg h)

theorem arrived_append_read (m : Message) : arrived (as ++ [.read]) m = arrived as m :=
  arrived_append_of_number_eq_none as rfl

theorem not_complete_nil (m : Message) : ¬ Complete [] m := fun h =>
  absurd (h 0 (by have := m.two_le; omega)) (Finset.notMem_empty 0)

/-! ## Completion -/

theorem complete_append {as : List Arrival} (h : Complete as m)
    (as' : List Arrival) : Complete (as ++ as') m := fun i hi => by
  obtain ⟨now, hmem⟩ := mem_arrived.mp (h i hi)
  exact mem_arrived.mpr ⟨now, List.mem_append_left _ hmem⟩

theorem completes_eq_some_iff :
    a.completes seen = some m ↔ Complete (seen ++ [a]) m ∧ ¬ Complete seen m := by
  cases a with
  | read =>
    rw [Complete, arrived_append_read seen m]
    exact iff_of_false (fun h => by cases h) fun h => h.2 h.1
  | fragment m' i now =>
    rw [Arrival.completes]
    by_cases hne : m' = m
    · subst hne
      split_ifs with h
      · exact iff_of_true rfl h
      · exact iff_of_false (fun hx => by cases hx) h
    · refine iff_of_false (fun hx => ?_) fun h => h.2 ?_
      · split_ifs at hx with h
        exact hne (Option.some.inj hx)
      · rw [Complete, ← arrived_append_of_ne seen hne i now]
        exact h.1

theorem mem_completedAfter {as : List Arrival} :
    m ∈ completedAfter seen as ↔ Complete (seen ++ as) m ∧ ¬ Complete seen m := by
  induction as generalizing seen with
  | nil =>
    rw [List.append_nil]
    exact iff_of_false List.not_mem_nil fun h => h.2 h.1
  | cons a as ih =>
    rw [completedAfter, List.mem_append, Option.mem_toList, completes_eq_some_iff, ih,
      List.append_assoc, List.singleton_append]
    constructor
    · rintro (⟨hc, hn⟩ | ⟨hc, hn⟩)
      · refine ⟨?_, hn⟩
        have hext := complete_append hc as
        rwa [List.append_assoc, List.singleton_append] at hext
      · exact ⟨hc, fun h => hn (complete_append h [a])⟩
    · rintro ⟨hc, hn⟩
      by_cases hmid : Complete (seen ++ [a]) m
      · exact Or.inl ⟨hmid, hn⟩
      · exact Or.inr ⟨hc, hmid⟩

theorem nodup_completedAfter (seen as : List Arrival) : (completedAfter seen as).Nodup := by
  induction as generalizing seen with
  | nil => exact List.nodup_nil
  | cons a as ih =>
    rw [completedAfter]
    cases hc : a.completes seen with
    | none => exact ih _
    | some m =>
      -- `m` is complete already for the arrivals after `a`
      refine List.nodup_cons.mpr ⟨fun hmem => ?_, ih _⟩
      exact (mem_completedAfter.mp hmem).2 (completes_eq_some_iff.mp hc).1

/-! ## The runs considered -/

/-- An arrival is admitted after `seen` when the handler is `h`: a fragment belongs to one of the
messages, that message is not complete yet, fewer than 512 messages are in progress and the queue
is not full. -/
def Admitted (ms : Finset Message) (seen : List Arrival) (h : DataHandler) : Arrival → Prop
  | .fragment m i _ =>
    m ∈ ms ∧ i < m.bodies.length ∧ ¬ Complete seen m ∧
      (ms.filter (InProgress seen)).card < maxFragmentsPerConn ∧ h.messageQueue.HasRoom
  | .read => True

/-- The message IDs of the family are distinct and every arrival of the run is admitted. -/
structure Admissible (ms : Finset Message) (h : DataHandler) (as : List Arrival) : Prop where
  distinct : ∀ m ∈ ms, ∀ m' ∈ ms, m.messageID = m'.messageID → m = m'
  admitted : ∀ pre a post, as = pre ++ a :: post →
    Admitted ms pre (exec DataHandler.onArrival h pre) a

/-! ## The simulation -/

/-- The handler has a set for exactly the messages in progress, and it holds what has arrived. -/
structure Simulates (ms : Finset Message) (seen : List Arrival) (h : DataHandler) : Prop where
  keys : ∀ k ∈ h.fragments, ∃ m ∈ ms, m.messageID = k ∧ InProgress seen m
  tracks : ∀ m ∈ ms, ¬ Complete seen m → Tracks m (arrived seen m) h
  removed : ∀ m ∈ ms, Complete seen m → m.messageID ∉ h.fragments

theorem Simulates.size_le {ms : Finset Message} (hsim : Simulates ms seen h) :
    h.fragments.size ≤ (ms.filter (InProgress seen)).card := by
  have hle : h.fragments.size ≤
      ((ms.filter (InProgress seen)).toList.map Message.messageID).length := by
    refine GoMap.size_le_of_keys_subset fun k hk => ?_
    obtain ⟨m, hm, hid, hprog⟩ := hsim.keys k hk
    exact List.mem_map.mpr ⟨m, Finset.mem_toList.mpr (Finset.mem_filter.mpr ⟨hm, hprog⟩), hid⟩
  rwa [List.length_map, Finset.length_toList] at hle

theorem tracks_congr {S : Finset ℕ}
    (hlook : h'.fragments.lookup m.messageID = h.fragments.lookup m.messageID)
    (htrack : Tracks m S h) : Tracks m S h' := by
  unfold Tracks at htrack ⊢
  split_ifs at htrack ⊢ with hS
  · rw [← AList.lookup_eq_none, hlook, AList.lookup_eq_none]
    exact htrack
  · rw [hlook]
    exact htrack

theorem mem_congr {k : UInt32}
    (hlook : h'.fragments.lookup k = h.fragments.lookup k) : k ∈ h'.fragments ↔
      k ∈ h.fragments := by
  rw [← AList.lookup_isSome, hlook, AList.lookup_isSome]

section Step

variable {ms : Finset Message} {seen : List Arrival} {h : DataHandler}

/-- A fragment. The effect of an admitted fragment on the numbers that have arrived. -/
theorem fragmentEffect_onArrival (hsim : Simulates ms seen h) {m : Message} {i : ℕ} {now : Time}
    (hadm : Admitted ms seen h (.fragment m i now)) :
    FragmentEffect m (arrived (seen ++ [.fragment m i now]) m) h
      (h.onArrival (.fragment m i now)) := by
  obtain ⟨hm, hi, hnot, hcard, hroom⟩ := hadm
  rw [arrived_append_fragment]
  exact processBlock_fragment (hsim.tracks m hm hnot) hnot
    (Nat.lt_of_le_of_lt hsim.size_le hcard) hroom hi now

theorem simulates_step (hdistinct : ∀ m ∈ ms, ∀ m' ∈ ms, m.messageID = m'.messageID → m = m')
    (hsim : Simulates ms seen h) {a : Arrival} (hadm : Admitted ms seen h a) :
    Simulates ms (seen ++ [a]) (h.onArrival a) := by
  cases a with
  | read =>
    have hfrag : (h.onArrival .read).fragments = h.fragments := by
      rw [onArrival]
      split <;> rfl
    have harr : ∀ m, arrived (seen ++ [.read]) m = arrived seen m := arrived_append_read seen
    refine ⟨?_, ?_, ?_⟩
    · intro k hk
      rw [hfrag] at hk
      obtain ⟨m, hm, hid, hprog⟩ := hsim.keys k hk
      refine ⟨m, hm, hid, ?_⟩
      rw [InProgress, Complete, harr]
      exact hprog
    · intro m hm hnot
      rw [Complete, harr] at hnot
      rw [harr]
      exact tracks_congr (by rw [hfrag]) (hsim.tracks m hm hnot)
    · intro m hm hc
      rw [Complete, harr] at hc
      rw [hfrag]
      exact hsim.removed m hm hc
  | fragment m i now =>
    have heff := fragmentEffect_onArrival hsim hadm
    obtain ⟨hm, hi, hnot, -, -⟩ := hadm
    have hstarted : arrived (seen ++ [.fragment m i now]) m ≠ ∅ := by
      rw [arrived_append_fragment]
      exact Finset.insert_ne_empty _ _
    -- another message of the family has another ID, so its set is left alone
    have hother : ∀ m' ∈ ms, m ≠ m' →
        (h.onArrival (.fragment m i now)).fragments.lookup m'.messageID =
          h.fragments.lookup m'.messageID := fun m' hm' hne =>
      heff.others _ fun hid => hne (hdistinct m hm m' hm' hid.symm)
    refine ⟨?_, ?_, ?_⟩
    · intro k hk
      by_cases hkm : k = m.messageID
      · refine ⟨m, hm, hkm.symm, hstarted, fun hc => ?_⟩
        rw [hkm] at hk
        exact (heff.complete hc).2 hk
      · rw [mem_congr (heff.others k hkm)] at hk
        obtain ⟨m', hm', hid, hprog⟩ := hsim.keys k hk
        have hne : m ≠ m' := fun heq => hkm (by rw [← hid, heq])
        refine ⟨m', hm', hid, ?_⟩
        rw [InProgress, Complete, arrived_append_of_ne seen hne]
        exact hprog
    · intro m' hm' hnot'
      by_cases hne : m = m'
      · subst hne
        obtain ⟨-, fs, hfs, hholds⟩ := heff.incomplete hnot'
        rw [Tracks, if_neg hstarted]
        exact ⟨fs, hfs, hholds⟩
      · rw [Complete, arrived_append_of_ne seen hne] at hnot'
        rw [arrived_append_of_ne seen hne]
        exact tracks_congr (hother m' hm' hne) (hsim.tracks m' hm' hnot')
    · intro m' hm' hc
      by_cases hne : m = m'
      · subst hne
        exact (heff.complete hc).2
      · rw [Complete, arrived_append_of_ne seen hne] at hc
        rw [mem_congr (hother m' hm' hne)]
        exact hsim.removed m' hm' hc

end Step

/-! ## Whole runs -/

section Run

variable {ms : Finset Message} {h₀ : DataHandler} {as post pre : List Arrival}

theorem simulates_nil (hempty : h₀.fragments = ∅) : Simulates ms [] h₀ := by
  have hno : ∀ k, k ∉ h₀.fragments := fun k => by
    rw [hempty]
    exact AList.notMem_empty k
  refine ⟨fun k hk => absurd hk (hno k), fun m _ _ => ?_, fun m _ hc =>
    absurd hc (not_complete_nil m)⟩
  rw [arrived_nil, Tracks, if_pos rfl]
  exact hno _

theorem simulates_run (hempty : h₀.fragments = ∅) (hrun : Admissible ms h₀ as)
    (hsplit : as = pre ++ post) : Simulates ms pre (exec onArrival h₀ pre) := by
  induction pre using List.reverseRecOn generalizing post with
  | nil => exact simulates_nil hempty
  | append_singleton pre a ih =>
    rw [List.append_assoc, List.singleton_append] at hsplit
    rw [exec_append]
    exact simulates_step hrun.distinct (ih hsplit) (hrun.admitted pre a post hsplit)

theorem enqueued_eq (hempty : h₀.fragments = ∅) (hrun : Admissible ms h₀ as)
    (hsplit : as = pre ++ post) :
    (exec onArrival h₀ pre).enqueued post =
      (completedAfter pre post).map Message.bytes := by
  induction post generalizing pre with
  | nil => rfl
  | cons a post ih =>
    have hsplit' : as = (pre ++ [a]) ++ post := by
      rw [hsplit, List.append_assoc, List.singleton_append]
    have hrest := ih hsplit'
    rw [exec_append] at hrest
    rw [enqueued, completedAfter, List.map_append]
    refine congrArg₂ _ ?_ hrest
    have hadm := hrun.admitted pre a post hsplit
    cases a with
    | read => rfl
    | fragment m i now =>
      have heff := fragmentEffect_onArrival (simulates_run hempty hrun hsplit) hadm
      rw [enqueuedBy, Arrival.completes]
      by_cases hc : Complete (pre ++ [.fragment m i now]) m
      · rw [if_pos ⟨hc, hadm.2.2.1⟩, (heff.complete hc).1, List.drop_left]
        rfl
      · rw [if_neg fun h => hc h.1, (heff.incomplete hc).1, List.drop_length]
        rfl

end Run

/-- **Reassembly does not depend on the order of arrival.** In every admissible run from a handler
without fragment sets, each fragment that is the last missing one of its message appends the
message, header and bodies in number order, to the queue and removes its set, and every other
fragment leaves the queue alone. So the messages queued over the run are those whose fragments have
all arrived, each once. -/
theorem reassembly_order_independent (ms : Finset Message) (h₀ : DataHandler)
    (hempty : h₀.fragments = ∅) (as : List Arrival) (hrun : Admissible ms h₀ as) :
    (∀ pre m i now post, as = pre ++ .fragment m i now :: post →
      if Complete (pre ++ [.fragment m i now]) m then
        (exec DataHandler.onArrival h₀ (pre ++ [.fragment m i now])).messageQueue.items =
            (exec DataHandler.onArrival h₀ pre).messageQueue.items ++
              [m.header ++ m.bodies.flatten] ∧
          m.messageID ∉ (exec DataHandler.onArrival h₀ (pre ++ [.fragment m i now])).fragments
      else
        (exec DataHandler.onArrival h₀ (pre ++ [.fragment m i now])).messageQueue =
          (exec DataHandler.onArrival h₀ pre).messageQueue) ∧
      ∃ completed : List Message,
        h₀.enqueued as = completed.map Message.bytes ∧ completed.Nodup ∧
          ∀ m, m ∈ completed ↔ Complete as m := by
  refine ⟨fun pre m i now post hsplit => ?_, completedAfter [] as, ?_, nodup_completedAfter [] as,
    fun m => ?_⟩
  · have heff := fragmentEffect_onArrival (simulates_run hempty hrun hsplit)
      (hrun.admitted pre _ post hsplit)
    rw [exec_append]
    split_ifs with hc
    · exact heff.complete hc
    · exact (heff.incomplete hc).1
  · exact enqueued_eq hempty hrun (List.nil_append as).symm
  · rw [mem_completedAfter, List.nil_append]
    exact and_iff_left (not_complete_nil m)

/-- Two messages in five arrivals: the second starts with its last fragment, which is repeated, and
is completed by its first fragment; the first message comes in order around it. -/
theorem reassembly_two_messages :
    ∃ completed : List Message,
      (DataHandler.newDataHandler 100).enqueued
          [.fragment ⟨11, 1, 60, [[1, 2], [3]], by decide, by decide⟩ 0 5,
            .fragment ⟨22, 2, 61, [[4], [5, 6]], by decide, by decide⟩ 1 6,
            .fragment ⟨22, 2, 61, [[4], [5, 6]], by decide, by decide⟩ 1 7,
            .fragment ⟨22, 2, 61, [[4], [5, 6]], by decide, by decide⟩ 0 8,
            .fragment ⟨11, 1, 60, [[1, 2], [3]], by decide, by decide⟩ 1 9] =
        completed.map Message.bytes ∧ completed.Nodup ∧ completed.length = 2 := by
  set m₁ : Message := ⟨11, 1, 60, [[1, 2], [3]], by decide, by decide⟩ with hm₁
  set m₂ : Message := ⟨22, 2, 61, [[4], [5, 6]], by decide, by decide⟩ with hm₂
  have hrun : Admissible {m₁, m₂} (newDataHandler 100)
      [.fragment m₁ 0 5, .fragment m₂ 1 6, .fragment m₂ 1 7, .fragment m₂ 0 8,
        .fragment m₁ 1 9] := by
    refine ⟨by decide, fun pre a post hsplit => ?_⟩
    rcases pre with _ | ⟨a₁, _ | ⟨a₂, _ | ⟨a₃, _ | ⟨a₄, _ | ⟨a₅, pre⟩⟩⟩⟩⟩
    on_goal 6 => cases pre <;> cases hsplit
    all_goals
      cases hsplit
      refine ⟨?_, ?_, ?_, ?_, ?_⟩ <;> decide
  obtain ⟨-, completed, henq, hnodup, hmem⟩ :=
    reassembly_order_independent {m₁, m₂} (newDataHandler 100) rfl _ hrun
  refine ⟨completed, henq, hnodup, ?_⟩
  have hlen := congrArg List.length henq
  rw [List.length_map] at hlen
  rw [← hlen]
  decide

end GoNoise.SSU2
