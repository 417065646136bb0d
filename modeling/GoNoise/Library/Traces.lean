import Mathlib.Data.List.Basic

/-!
# Runs of a state machine

A state machine is a step function on states and events; a run is a list of events. What one step
keeps, under a condition on the state and the event, a run keeps in which the condition holds at
every event.
-/

namespace GoNoise.Trace

variable {σ ε : Type} (step : σ → ε → σ)

/-- The state after a run. -/
def exec (s : σ) (es : List ε) : σ := es.foldl step s

@[simp] theorem exec_nil (s : σ) : exec step s [] = s := rfl

@[simp] theorem exec_cons (s : σ) (e : ε) (es : List ε) :
    exec step s (e :: es) = exec step (step s e) es := rfl

theorem exec_append (s : σ) (es es' : List ε) :
    exec step s (es ++ es') = exec step (exec step s es) es' := List.foldl_append

/-- `P` holds at every event of the run, of the state before the event and the event. -/
def Always (P : σ → ε → Prop) : σ → List ε → Prop
  | _, [] => True
  | s, e :: es => P s e ∧ Always P (step s e) es

instance Always.decidable (P : σ → ε → Prop) [∀ s e, Decidable (P s e)] :
    ∀ (s : σ) (es : List ε), Decidable (Always step P s es)
  | _, [] => inferInstanceAs (Decidable True)
  | s, e :: es => @instDecidableAnd _ _ _ (Always.decidable P (step s e) es)

variable {step} {H : List ε → σ → Prop} {I : σ → Prop} {P Q : σ → ε → Prop} {R : ε → ε → Prop}
  {es : List ε} {s : σ}

theorem always_append {es' : List ε} :
    Always step P s (es ++ es') ↔
      Always step P s es ∧ Always step P (exec step s es) es' := by
  induction es generalizing s with
  | nil => simp [Always]
  | cons e es ih => rw [List.cons_append, Always, Always, ih, exec_cons, and_assoc]

/-- `Always`, over the ways to split the run at an event. -/
theorem always_iff :
    Always step P s es ↔
      ∀ pre e post, es = pre ++ e :: post → P (exec step s pre) e := by
  constructor
  · rintro h pre e post rfl
    exact (always_append.mp h).2.1
  · intro h
    induction es generalizing s with
    | nil => trivial
    | cons e es ih =>
      refine ⟨h [] e es rfl, ih fun pre e' post hsplit => ?_⟩
      exact h (e :: pre) e' post (by rw [hsplit, List.cons_append])

theorem always_mono (h : ∀ s e, P s e → Q s e) (hP : Always step P s es) : Always step Q s es := by
  rw [always_iff] at hP ⊢
  exact fun pre e post hsplit => h _ e (hP pre e post hsplit)

theorem always_congr (h : ∀ s e, P s e ↔ Q s e) : Always step P s es ↔ Always step Q s es :=
  ⟨always_mono fun s e => (h s e).mp, always_mono fun s e => (h s e).mpr⟩

/-- Invariants along a run. A property that holds at the start and that every step of the run
keeps, as long as the step meets `P`, holds after the run. -/
theorem exec_induct (hstep : ∀ s e, I s → P s e → I (step s e)) (hs : I s)
    (hP : Always step P s es) : I (exec step s es) := by
  induction es generalizing s with
  | nil => exact hs
  | cons e es ih => exact ih (hstep s e hs hP.1) hP.2

theorem always_of_invariant (hstep : ∀ s e, I s → P s e → I (step s e) ∧ Q s e) (hs : I s)
    (hP : Always step P s es) : Always step Q s es := by
  induction es generalizing s with
  | nil => trivial
  | cons e es ih =>
    obtain ⟨hnext, hQ⟩ := hstep s e hs hP.1
    exact ⟨hQ, ih hnext hP.2⟩

/-- Pairwise conditions on the events, as conditions at each event. `H past s` says what the
state `s` knows of the past. -/
theorem exec_of_pairwise
    (hstep : ∀ past s e, H past s → (∀ e' ∈ past, R e' e) → H (past ++ [e]) (step s e))
    {past : List ε} (hs : H past s) (hR : (past ++ es).Pairwise R) :
    H (past ++ es) (exec step s es) := by
  induction es generalizing past s with
  | nil => simpa using hs
  | cons e es ih =>
    have hpast : ∀ e' ∈ past, R e' e := fun e' he' =>
      (List.pairwise_append.mp hR).2.2 e' he' e List.mem_cons_self
    simpa using ih (hstep past s e hs hpast) (by simpa using hR)

theorem always_of_pairwise
    (hstep : ∀ past s e, H past s → (∀ e' ∈ past, R e' e) → H (past ++ [e]) (step s e))
    (hQ : ∀ past s e, H past s → (∀ e' ∈ past, R e' e) → Q s e) (hs : H [] s)
    (hR : es.Pairwise R) : Always step Q s es := by
  rw [always_iff]
  rintro pre e post rfl
  obtain ⟨hpre, -, hcross⟩ := List.pairwise_append.mp hR
  exact hQ pre _ e (exec_of_pairwise hstep hs hpre) fun e' he' =>
    hcross e' he' e List.mem_cons_self

/-! ## Paths -/

/-- The labels lead from the first state to the second. -/
inductive Path (R : σ → ε → σ → Prop) : σ → List ε → σ → Prop
  | nil (x : σ) : Path R x [] x
  | cons {x x' y : σ} {e : ε} {es : List ε} : R x e x' → Path R x' es y → Path R x (e :: es) y

section
variable {R : σ → ε → σ → Prop} {x y : σ} {e : ε} {es : List ε} {y' : σ}

theorem path_nil : Path R x [] y ↔ x = y := by
  constructor
  · rintro ⟨⟩
    rfl
  · rintro rfl
    exact .nil x

theorem path_cons : Path R x (e :: es) y ↔ ∃ x', R x e x' ∧ Path R x' es y := by
  constructor
  · rintro (_ | ⟨hstep, hrest⟩)
    exact ⟨_, hstep, hrest⟩
  · rintro ⟨x', hstep, hrest⟩
    exact .cons hstep hrest

theorem Path.append (h : Path R x es y) {es' : List ε} (h' : Path R y es' y') :
    Path R x (es ++ es') y' := by
  induction h with
  | nil x => exact h'
  | cons hfirst _ ih => exact .cons hfirst (ih h')

theorem Path.concat (h : Path R x es y) (hstep : R y e y') : Path R x (es ++ [e]) y' :=
  h.append (.cons hstep (.nil y'))

end

end GoNoise.Trace
