import Mathlib.Data.List.InsertIdx
import Mathlib.Data.List.Nodup
import Mathlib.Logic.Relation

/-!
# Numbered tickets

A counter hands out numbers. A number is held until it is spent, under the key of that moment, or
discarded; now and then the key is renewed and the counter starts again. This is the discipline
under which a number is never spent twice under one key.

* `Inv.step`: the invariant, one move at a time.
-/

namespace GoNoise

/-- The key, the counter, the numbers held, and what was spent under which key. -/
structure Tickets (κ : Type) where
  key : κ
  next : ℕ
  held : List ℕ
  used : List (κ × ℕ)

theorem forall_mem_concat {α : Type} {p : α → Prop} {l : List α} {a : α} (hl : ∀ x ∈ l, p x)
    (ha : p a) : ∀ x ∈ l ++ [a], p x :=
  List.forall_mem_append.mpr ⟨hl, List.forall_mem_singleton.mpr ha⟩

namespace Tickets

variable {κ : Type} {t t' : Tickets κ}

/-- The moves. -/
inductive Step : Tickets κ → Tickets κ → Prop
  /-- a number is handed out -/
  | take (t : Tickets κ) : Step t { t with next := t.next + 1, held := t.held ++ [t.next] }
  /-- a held number is given up -/
  | discard (t : Tickets κ) (i : ℕ) : Step t { t with held := t.held.eraseIdx i }
  /-- a held number is spent -/
  | spend (t : Tickets κ) (i n : ℕ) (h : t.held[i]? = some n) :
    Step t { t with held := t.held.eraseIdx i, used := t.used ++ [(t.key, n)] }
  | renew (t : Tickets κ) (key : κ) (start : ℕ) (hheld : t.held = [])
    (hnew : ∀ u ∈ t.used, u.1 ≠ key) : Step t { t with key := key, next := start }

/-- Any number of moves. -/
abbrev Reaches : Tickets κ → Tickets κ → Prop := Relation.ReflTransGen Step

/-- Nothing was spent twice, what is held can still be spent, and the counter is ahead of both. -/
structure Inv (t : Tickets κ) : Prop where
  used_nodup : t.used.Nodup
  held_nodup : t.held.Nodup
  used_lt : ∀ n, (t.key, n) ∈ t.used → n < t.next
  held_lt : ∀ n ∈ t.held, n < t.next
  unspent : ∀ n ∈ t.held, (t.key, n) ∉ t.used

theorem inv_of_nil (hheld : t.held = []) (hused : t.used = []) : t.Inv := by
  obtain ⟨key, next, held, used⟩ := t
  subst hheld hused
  refine ⟨List.nodup_nil, List.nodup_nil, ?_, ?_, ?_⟩ <;>
  · intro n hn
    cases hn

theorem notMem_eraseIdx {l : List ℕ} (hl : l.Nodup) {i n : ℕ} (h : l[i]? = some n) :
    n ∉ l.eraseIdx i := by
  intro hmem
  obtain ⟨j, hne, hj⟩ := List.mem_eraseIdx_iff_getElem?.mp hmem
  have hi : i < l.length := (List.getElem?_eq_some_iff.mp h).1
  exact hne ((List.getElem?_inj hi hl).mp (h.trans hj.symm)).symm

namespace Inv

theorem take (h : t.Inv) : Inv { t with next := t.next + 1, held := t.held ++ [t.next] } := by
  have hfresh : (t.key, t.next) ∉ t.used := fun hmem => Nat.lt_irrefl _ (h.used_lt _ hmem)
  refine ⟨h.used_nodup, ?_, fun n hn => Nat.lt_succ_of_lt (h.used_lt n hn), ?_, ?_⟩
  · refine List.nodup_append.mpr ⟨h.held_nodup, List.nodup_singleton _, fun a ha b hb => ?_⟩
    have hlt := h.held_lt a ha
    rw [List.mem_singleton.mp hb]
    exact Nat.ne_of_lt hlt
  · exact forall_mem_concat (fun n hn => Nat.lt_succ_of_lt (h.held_lt n hn)) (Nat.lt_succ_self _)
  · exact forall_mem_concat h.unspent hfresh

theorem discard (h : t.Inv) (i : ℕ) : Inv { t with held := t.held.eraseIdx i } :=
  ⟨h.used_nodup, h.held_nodup.sublist (List.eraseIdx_sublist ..), h.used_lt,
    fun n hn => h.held_lt n (List.mem_of_mem_eraseIdx hn),
    fun n hn => h.unspent n (List.mem_of_mem_eraseIdx hn)⟩

theorem spend (h : t.Inv) {i n : ℕ} (hi : t.held[i]? = some n) :
    Inv { t with held := t.held.eraseIdx i, used := t.used ++ [(t.key, n)] } := by
  have hmem : n ∈ t.held := List.mem_of_getElem? hi
  have hd := h.discard i
  refine ⟨?_, hd.held_nodup, fun m hm => ?_, hd.held_lt, fun m hm hused => ?_⟩
  · refine List.nodup_append.mpr ⟨h.used_nodup, List.nodup_singleton _, fun a ha b hb => ?_⟩
    rw [List.mem_singleton.mp hb]
    rintro rfl
    exact h.unspent n hmem ha
  · rcases List.mem_append.mp hm with hm | hm
    · exact h.used_lt m hm
    · rw [(Prod.mk.inj (List.mem_singleton.mp hm)).2]
      exact h.held_lt n hmem
  · rcases List.mem_append.mp hused with hused | hused
    · exact hd.unspent m hm hused
    · rw [(Prod.mk.inj (List.mem_singleton.mp hused)).2] at hm
      exact notMem_eraseIdx h.held_nodup hi hm

theorem renew (h : t.Inv) {key : κ} (start : ℕ) (hheld : t.held = [])
    (hnew : ∀ u ∈ t.used, u.1 ≠ key) : Inv { t with key := key, next := start } := by
  refine ⟨h.used_nodup, h.held_nodup, fun n hn => absurd rfl (hnew _ hn), ?_, ?_⟩ <;>
  · intro n hn
    rw [hheld] at hn
    cases hn

theorem step (h : t.Inv) (hstep : Step t t') : t'.Inv := by
  cases hstep with
  | take => exact h.take
  | discard i => exact h.discard i
  | spend i n hi => exact h.spend hi
  | renew key start hheld hnew => exact h.renew start hheld hnew

theorem reaches (h : t.Inv) (hreach : Reaches t t') : t'.Inv := by
  induction hreach with
  | refl => exact h
  | tail _ hstep ih => exact ih.step hstep

end Inv

/-- No number is spent twice under one key. -/
theorem nodup_of_reaches (hheld : t.held = []) (hused : t.used = []) (hreach : Reaches t t') :
    t'.used.Nodup :=
  ((inv_of_nil hheld hused).reaches hreach).used_nodup

theorem eraseIdx_concat (l : List ℕ) (n : ℕ) : (l ++ [n]).eraseIdx l.length = l := by
  rw [List.eraseIdx_append_of_length_le (Nat.le_refl _), Nat.sub_self]
  exact List.append_nil l

theorem reaches_skip (t : Tickets κ) : Reaches t { t with next := t.next + 1 } := by
  have hdiscard := Step.discard { t with next := t.next + 1, held := t.held ++ [t.next] }
    t.held.length
  rw [eraseIdx_concat] at hdiscard
  exact (Relation.ReflTransGen.single (Step.take t)).tail hdiscard

theorem reaches_spend_next (t : Tickets κ) :
    Reaches t { t with next := t.next + 1, used := t.used ++ [(t.key, t.next)] } := by
  have hlast : (t.held ++ [t.next])[t.held.length]? = some t.next := List.getElem?_concat_length
  have hspend := Step.spend { t with next := t.next + 1, held := t.held ++ [t.next] }
    t.held.length t.next hlast
  rw [eraseIdx_concat] at hspend
  exact (Relation.ReflTransGen.single (Step.take t)).tail hspend

end Tickets
end GoNoise
