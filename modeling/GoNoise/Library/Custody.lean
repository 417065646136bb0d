import Mathlib.Algebra.Order.Group.Multiset
import Mathlib.Data.Finset.Basic
import Mathlib.Logic.Function.Basic

/-!
# Items in custody

A sender that is meant to keep what it was given until the other side has acknowledged it. An item
goes from hand to hand: it waits, is queued, is worked on, is written, and is kept under a key of
which the acknowledgement will speak; if none comes, it is queued again. The places are multisets of
items, since several copies of one item may be under way.

* `Move.budget`: an item is written at most once more than it was renewed.
-/

namespace GoNoise

/-! ## Lists as bags -/

section bag
variable {α ι : Type} (f : α → ι) {l : List α}

/-- What the elements of a list stand for, without the order. -/
def bag (l : List α) : Multiset ι := (l.map f : List ι)

theorem mem_bag {t : ι} : t ∈ bag f l ↔ ∃ x ∈ l, f x = t := by
  rw [bag, Multiset.mem_coe, List.mem_map]

theorem bag_concat (l : List α) (x : α) : bag f (l ++ [x]) = f x ::ₘ bag f l := by
  rw [bag, List.map_append, ← Multiset.coe_add, List.map_singleton, Multiset.coe_singleton,
    add_comm, Multiset.singleton_add, bag]

theorem bag_cons (x : α) (l : List α) : bag f (x :: l) = f x ::ₘ bag f l := rfl

theorem bag_eq_cons_eraseIdx {i : ℕ} {x : α} (h : l[i]? = some x) :
    bag f l = f x ::ₘ bag f (l.eraseIdx i) := by
  obtain ⟨hi, rfl⟩ := List.getElem?_eq_some_iff.mp h
  have hperm := (List.getElem_cons_eraseIdx_perm hi).map f
  exact (Multiset.coe_eq_coe.mpr hperm).symm

end bag

/-! ## The places -/

/-- The items of a sender and where they are. -/
@[ext]
structure Custody (ι κ : Type) where
  /-- the items that exist -/
  made : Finset ι
  /-- not accepted yet -/
  waiting : Multiset ι
  queued : Multiset ι
  /-- taken out of the queue and not written yet -/
  inHand : Multiset ι
  /-- written and not kept yet -/
  written : Multiset ι
  /-- kept until the acknowledgement comes -/
  kept : κ → Option ι
  accepted : Multiset ι
  acked : Multiset ι
  /-- taken from those that are kept, to be sent again -/
  renewed : Multiset ι
  /-- everything that was ever written -/
  wired : Multiset ι

namespace Custody

variable {ι κ : Type}

/-- The names of the moves. The moves that may lose an item carry it. -/
inductive Label (ι κ : Type)
  | other
  | drop (t : ι)
  | keep (k : κ) (t : ι)
  | forget (t : ι)
  | renew (t : ι)
  | renewLost (t : ι)

/-- What can happen to the items. -/
inductive Move [DecidableEq ι] [DecidableEq κ] (c : Custody ι κ) :
    Label ι κ → Custody ι κ → Prop
  | quiet : Move c .other c
  | offer {t : ι} (ht : t ∉ c.made) :
    Move c .other { c with made := insert t c.made, waiting := t ::ₘ c.waiting }
  | hand {t : ι} (ht : t ∉ c.made) :
    Move c .other { c with made := insert t c.made, inHand := t ::ₘ c.inHand }
  | withdraw {t : ι} {rest : Multiset ι} (ht : c.waiting = t ::ₘ rest) :
    Move c .other { c with waiting := rest }
  | accept {t : ι} {rest : Multiset ι} (ht : c.waiting = t ::ₘ rest) :
    Move c .other { c with
      waiting := rest, queued := t ::ₘ c.queued, accepted := t ::ₘ c.accepted }
  | take {t : ι} {rest : Multiset ι} (ht : c.queued = t ::ₘ rest) :
    Move c .other { c with queued := rest, inHand := t ::ₘ c.inHand }
  | drop {t : ι} {rest : Multiset ι} (ht : c.inHand = t ::ₘ rest) :
    Move c (.drop t) { c with inHand := rest }
  | write {t : ι} {rest : Multiset ι} (ht : c.inHand = t ::ₘ rest) :
    Move c .other { c with
      inHand := rest, written := t ::ₘ c.written, wired := t ::ₘ c.wired }
  | keep {t : ι} {rest : Multiset ι} (k : κ) (ht : c.written = t ::ₘ rest) :
    Move c (.keep k t) { c with written := rest, kept := Function.update c.kept k (some t) }
  | forget {t : ι} {rest : Multiset ι} (ht : c.written = t ::ₘ rest) :
    Move c (.forget t) { c with written := rest }
  | renew {t : ι} {k : κ} (ht : c.kept k = some t) :
    Move c (.renew t) { c with
      kept := Function.update c.kept k none, queued := t ::ₘ c.queued, renewed := t ::ₘ c.renewed }
  | renewLost {t : ι} {k : κ} (ht : c.kept k = some t) :
    Move c (.renewLost t) { c with
      kept := Function.update c.kept k none, renewed := t ::ₘ c.renewed }
  | settle {kept : κ → Option ι} {acked : Multiset ι}
    (h : ∀ k t, c.kept k = some t → kept k = some t ∨ t ∈ acked)
    (h' : ∀ k t, kept k = some t → c.kept k = some t) :
    Move c .other { c with kept := kept, acked := c.acked + acked }

theorem Move.of_eq [DecidableEq ι] [DecidableEq κ] {c c₁ c₂ : Custody ι κ} {l : Label ι κ}
    (h : Move c l c₁) (heq : c₂ = c₁) : Move c l c₂ := heq ▸ h

/-! ## Custody is kept -/

/-- The item is somewhere in custody, or acknowledged. -/
def Held (c : Custody ι κ) (t : ι) : Prop :=
  t ∈ c.queued ∨ t ∈ c.inHand ∨ t ∈ c.written ∨ (∃ k, c.kept k = some t) ∨ t ∈ c.acked

/-- The item was made and is in no place from which it could be sent or kept again. -/
structure Gone (c : Custody ι κ) (t : ι) : Prop where
  made : t ∈ c.made
  waiting : t ∉ c.waiting
  queued : t ∉ c.queued
  inHand : t ∉ c.inHand
  written : t ∉ c.written
  kept : ∀ k, c.kept k ≠ some t

/-- The move loses the item: it is dropped, or forgotten, or finds no place when it is renewed, or
another item takes its key. -/
def Label.Loses (c : Custody ι κ) (t : ι) : Label ι κ → Prop
  | .other | .renew _ => False
  | .drop u | .forget u | .renewLost u => u = t
  | .keep k u => u ≠ t ∧ c.kept k = some t

/-- The move takes the item from those that are kept, to send it again. -/
def Label.Renews (t : ι) : Label ι κ → Prop
  | .renew u | .renewLost u => u = t
  | .other | .drop _ | .forget _ | .keep .. => False

section
variable [DecidableEq ι] [DecidableEq κ] {c c' : Custody ι κ} {l : Label ι κ} {t : ι}

/-- A move that does not lose the item keeps it in custody. -/
theorem Move.held_of_held (h : Move c l c') (hl : ¬ l.Loses c t) (hheld : c.Held t) :
    c'.Held t := by
  have hmem : ∀ {u : ι} {rest place : Multiset ι}, place = u ::ₘ rest → t ∈ place →
      t = u ∨ t ∈ rest := fun hplace ht => Multiset.mem_cons.mp (hplace ▸ ht)
  obtain hq | hh | hw | ⟨k, hk⟩ | ha := hheld
  · -- queued
    cases h with
    | take hu =>
      rcases hmem hu hq with rfl | hrest
      · exact Or.inr (Or.inl (Multiset.mem_cons_self _ _))
      · exact Or.inl hrest
    | accept | renew => exact Or.inl (Multiset.mem_cons_of_mem hq)
    | quiet | offer | hand | withdraw | drop | write | keep | forget | renewLost | settle =>
      exact Or.inl hq
  · -- in hand
    refine Or.inr ?_
    cases h with
    | drop hu =>
      rcases hmem hu hh with rfl | hrest
      · exact absurd rfl hl
      · exact Or.inl hrest
    | write hu =>
      rcases hmem hu hh with rfl | hrest
      · exact Or.inr (Or.inl (Multiset.mem_cons_self _ _))
      · exact Or.inl hrest
    | hand | take => exact Or.inl (Multiset.mem_cons_of_mem hh)
    | quiet | offer | withdraw | accept | keep | forget | renew | renewLost | settle =>
      exact Or.inl hh
  · -- written
    refine Or.inr (Or.inr ?_)
    cases h with
    | keep k hu =>
      rcases hmem hu hw with rfl | hrest
      · exact Or.inr (Or.inl ⟨k, Function.update_self _ _ _⟩)
      · exact Or.inl hrest
    | forget hu =>
      rcases hmem hu hw with rfl | hrest
      · exact absurd rfl hl
      · exact Or.inl hrest
    | write => exact Or.inl (Multiset.mem_cons_of_mem hw)
    | quiet | offer | hand | withdraw | accept | take | drop | renew | renewLost | settle =>
      exact Or.inl hw
  · -- kept under `k`
    have hkeep : ∀ {k}, c'.kept k = some t → c'.Held t := fun hk =>
      Or.inr (Or.inr (Or.inr (Or.inl ⟨_, hk⟩)))
    cases h with
    | @keep u rest k' hu =>
      refine hkeep (k := k) ?_
      by_cases hkey : k = k'
      · subst hkey
        by_cases hut : u = t
        · exact (Function.update_self _ _ _).trans (congrArg some hut)
        · exact absurd ⟨hut, hk⟩ hl
      · exact (Function.update_of_ne hkey _ _).trans hk
    | @renew u k' hu =>
      by_cases hkey : k = k'
      · subst hkey
        cases hu.symm.trans hk
        exact Or.inl (Multiset.mem_cons_self _ _)
      · exact hkeep ((Function.update_of_ne hkey _ _).trans hk)
    | @renewLost u k' hu =>
      by_cases hkey : k = k'
      · subst hkey
        exact absurd (Option.some.inj (hu.symm.trans hk)) hl
      · exact hkeep ((Function.update_of_ne hkey _ _).trans hk)
    | settle hs _ =>
      rcases hs k t hk with hkept | hacked
      · exact hkeep hkept
      · exact Or.inr (Or.inr (Or.inr (Or.inr (Multiset.mem_add.mpr (Or.inr hacked)))))
    | quiet | offer | hand | withdraw | accept | take | drop | write | forget =>
      exact hkeep hk
  · -- acknowledged
    refine Or.inr (Or.inr (Or.inr (Or.inr ?_)))
    cases h with
    | settle => exact Multiset.mem_add.mpr (Or.inl ha)
    | quiet | offer | hand | withdraw | accept | take | drop | write | keep | forget | renew
    | renewLost => exact ha

/-- An accepted item stays in custody unless a move loses it. -/
theorem Move.held (h : Move c l c') (hl : ¬ l.Loses c t) (hheld : t ∈ c.accepted → c.Held t)
    (ht : t ∈ c'.accepted) : c'.Held t := by
  by_cases hold : t ∈ c.accepted
  · exact h.held_of_held hl (hheld hold)
  · cases h with
    | accept =>
      obtain rfl | hmem := Multiset.mem_cons.mp ht
      · exact Or.inl (Multiset.mem_cons_self _ _)
      · exact absurd hmem hold
    | quiet | offer | hand | withdraw | take | drop | write | keep | forget | renew | renewLost
    | settle => exact absurd ht hold

/-! ## How often an item is written -/

/-- The copies that were written or may still be written are one for the item itself and one for
each time it was renewed. -/
def Budget (c : Custody ι κ) (t : ι) : Prop :=
  c.wired.count t + c.inHand.count t + c.queued.count t + c.waiting.count t ≤
    (if t ∈ c.made then 1 else 0) + c.renewed.count t

theorem Move.budget (h : Move c l c') (hb : c.Budget t) : c'.Budget t := by
  have hcons : ∀ {u : ι} {rest place : Multiset ι}, place = u ::ₘ rest →
      place.count t = rest.count t + if t = u then 1 else 0 := fun hplace => by
    rw [hplace, Multiset.count_cons]
  have hmake : ∀ {u : ι}, u ∉ c.made → (if t ∈ insert u c.made then 1 else 0) =
      (if t ∈ c.made then 1 else 0) + if t = u then 1 else 0 := fun {u} hu => by
    by_cases htu : t = u
    · simp [htu, hu]
    · simp [htu]
  unfold Budget at hb ⊢
  cases h with
  | quiet | keep | forget | settle => exact hb
  | offer hu | hand hu =>
    have := hmake hu
    dsimp only
    rw [Multiset.count_cons]
    omega
  | withdraw hu | drop hu =>
    have := hcons hu
    dsimp only
    omega
  | accept hu | take hu | write hu =>
    have := hcons hu
    dsimp only
    rw [Multiset.count_cons]
    omega
  | renew =>
    dsimp only
    rw [Multiset.count_cons, Multiset.count_cons]
    omega
  | renewLost =>
    dsimp only
    rw [Multiset.count_cons]
    omega

theorem Move.wired_le (h : Move c l c') : c.wired ≤ c'.wired := by
  cases h with
  | write => exact Multiset.le_cons_self _ _
  | quiet | offer | hand | withdraw | accept | take | drop | keep | forget | renew | renewLost
  | settle => exact le_rfl

omit [DecidableEq κ] in
theorem Budget.wired_le (h : c.Budget t) : c.wired.count t ≤ 1 + c.renewed.count t := by
  unfold Budget at h
  split_ifs at h <;> omega

/-- A limit on the renewals is kept if an item at the limit is not renewed. -/
theorem Move.renewed_le {n : ℕ} (h : Move c l c')
    (hl : l.Renews t → c.renewed.count t < n)
    (hn : c.renewed.count t ≤ n) : c'.renewed.count t ≤ n := by
  have hcons : ∀ {u : ι}, (t = u → c.renewed.count t < n) → (u ::ₘ c.renewed).count t ≤ n := by
    intro u hu
    rw [Multiset.count_cons]
    split_ifs with htu
    · exact hu htu
    · exact hn
  cases h with
  | renew | renewLost => exact hcons fun htu => hl htu.symm
  | quiet | offer | hand | withdraw | accept | take | drop | write | keep | forget | settle =>
    exact hn

/-! ## Items that are gone -/

/-- An item that is gone stays so and is not renewed. -/
theorem Move.gone (h : Move c l c') (hg : c.Gone t) :
    c'.Gone t ∧ c'.renewed.count t = c.renewed.count t := by
  have hrest : ∀ {u : ι} {rest place : Multiset ι}, place = u ::ₘ rest → t ∉ place →
      t ≠ u ∧ t ∉ rest := fun hplace ht => by rwa [hplace, Multiset.mem_cons, not_or] at ht
  have hcons : ∀ {u : ι} {place : Multiset ι}, t ≠ u → t ∉ place → t ∉ u ::ₘ place :=
    fun hne ht hmem => (Multiset.mem_cons.mp hmem).elim hne ht
  obtain ⟨hmade, hwaiting, hqueued, hinHand, hwritten, hkept⟩ := hg
  have herase : ∀ k j, Function.update c.kept k none j ≠ some t := fun k j => by
    by_cases hjk : j = k
    · rw [hjk, Function.update_self]
      exact (Option.some_ne_none t).symm
    · rw [Function.update_of_ne hjk]
      exact hkept j
  cases h with
  | quiet => exact ⟨⟨hmade, hwaiting, hqueued, hinHand, hwritten, hkept⟩, rfl⟩
  | @offer u hu =>
    have hne : t ≠ u := fun heq => hu (heq ▸ hmade)
    exact ⟨⟨Finset.mem_insert_of_mem hmade, hcons hne hwaiting, hqueued, hinHand, hwritten, hkept⟩,
      rfl⟩
  | @hand u hu =>
    have hne : t ≠ u := fun heq => hu (heq ▸ hmade)
    exact ⟨⟨Finset.mem_insert_of_mem hmade, hwaiting, hqueued, hcons hne hinHand, hwritten, hkept⟩,
      rfl⟩
  | withdraw hu =>
    exact ⟨⟨hmade, (hrest hu hwaiting).2, hqueued, hinHand, hwritten, hkept⟩, rfl⟩
  | accept hu =>
    obtain ⟨hne, hwaiting⟩ := hrest hu hwaiting
    exact ⟨⟨hmade, hwaiting, hcons hne hqueued, hinHand, hwritten, hkept⟩, rfl⟩
  | take hu =>
    obtain ⟨hne, hqueued⟩ := hrest hu hqueued
    exact ⟨⟨hmade, hwaiting, hqueued, hcons hne hinHand, hwritten, hkept⟩, rfl⟩
  | drop hu => exact ⟨⟨hmade, hwaiting, hqueued, (hrest hu hinHand).2, hwritten, hkept⟩, rfl⟩
  | write hu =>
    obtain ⟨hne, hinHand⟩ := hrest hu hinHand
    exact ⟨⟨hmade, hwaiting, hqueued, hinHand, hcons hne hwritten, hkept⟩, rfl⟩
  | @keep u rest k hu =>
    obtain ⟨hne, hwritten⟩ := hrest hu hwritten
    refine ⟨⟨hmade, hwaiting, hqueued, hinHand, hwritten, fun j hj => ?_⟩, rfl⟩
    by_cases hjk : j = k
    · subst hjk
      exact hne (Option.some.inj ((Function.update_self j _ c.kept).symm.trans hj)).symm
    · exact hkept j ((Function.update_of_ne hjk _ c.kept).symm.trans hj)
  | forget hu => exact ⟨⟨hmade, hwaiting, hqueued, hinHand, (hrest hu hwritten).2, hkept⟩, rfl⟩
  | @renew u k hu =>
    have hne : t ≠ u := fun heq => hkept k (heq ▸ hu)
    exact ⟨⟨hmade, hwaiting, hcons hne hqueued, hinHand, hwritten, herase k⟩,
      Multiset.count_cons_of_ne hne _⟩
  | @renewLost u k hu =>
    have hne : t ≠ u := fun heq => hkept k (heq ▸ hu)
    exact ⟨⟨hmade, hwaiting, hqueued, hinHand, hwritten, herase k⟩, Multiset.count_cons_of_ne hne _⟩
  | settle _ h' =>
    exact ⟨⟨hmade, hwaiting, hqueued, hinHand, hwritten, fun k hk => hkept k (h' k t hk)⟩, rfl⟩

end
end Custody
end GoNoise
