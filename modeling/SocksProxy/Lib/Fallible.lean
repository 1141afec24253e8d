import Mathlib.Tactic.Common

/-!
# Pre- and postconditions for programs with state and faults

Programs over `StateT σ (Except ε)` are judged from a given initial state: `Sat p s Q E` says that
`p`, started in `s`, either ends normally in a state satisfying `Q` or stops with a fault
satisfying `E`.  The rules below are equivalences, so they rewrite a judgement about a compound
program into judgements about its parts.
-/

set_option autoImplicit false

namespace SocksProxy

variable {σ ε α β : Type}

/-- `p`, started in `s`, ends in a result satisfying `Q` or in a fault satisfying `E`. -/
def Sat (p : StateT σ (Except ε) α) (s : σ) (Q : α → σ → Prop) (E : ε → Prop) : Prop :=
  match p s with
  | .ok (a, s') => Q a s'
  | .error f => E f

variable {Q : β → σ → Prop} {E : ε → Prop} {s : σ}

theorem sat_of_ok {p : StateT σ (Except ε) β} {b : β} {s' : σ} (h : p s = .ok (b, s')) :
    Sat p s Q E ↔ Q b s' := by
  rw [Sat, h]

theorem sat_of_error {p : StateT σ (Except ε) β} {f : ε} (h : p s = .error f) :
    Sat p s Q E ↔ E f := by
  rw [Sat, h]

theorem sat_bind (p : StateT σ (Except ε) α) (f : α → StateT σ (Except ε) β) :
    Sat (p >>= f) s Q E ↔ Sat p s (fun a s' => Sat (f a) s' Q E) E := by
  show (match (p s).bind fun r => f r.1 r.2 with | .ok (a, s') => Q a s' | .error f => E f) ↔ _
  rw [Sat]
  cases p s with
  | ok r => exact Iff.rfl
  | error f => exact Iff.rfl

/-- A program whose first part is known to succeed. -/
theorem bind_of_ok {p : StateT σ (Except ε) α} {f : α → StateT σ (Except ε) β} {a : α} {s' : σ}
    (h : p s = .ok (a, s')) : (p >>= f) s = f a s' := by
  show (p s).bind (fun r => f r.1 r.2) = _
  rw [h]
  rfl

/-- A program whose first part is known to fail. -/
theorem bind_of_error {p : StateT σ (Except ε) α} {f : α → StateT σ (Except ε) β} {e : ε}
    (h : p s = .error e) : (p >>= f) s = .error e := by
  show (p s).bind (fun r => f r.1 r.2) = _
  rw [h]
  rfl

/-- Two programs that begin alike and go on alike. -/
theorem bind_congr_of_ok {p : StateT σ (Except ε) α} {f g : α → StateT σ (Except ε) β}
    (h : ∀ a s', p s = .ok (a, s') → f a s' = g a s') : (p >>= f) s = (p >>= g) s := by
  show (p s).bind (fun r => f r.1 r.2) = (p s).bind fun r => g r.1 r.2
  cases hp : p s with
  | ok r => exact h r.1 r.2 hp
  | error f => rfl

theorem sat_get {Q : σ → σ → Prop} : Sat (get : StateT σ (Except ε) σ) s Q E ↔ Q s s := Iff.rfl

theorem sat_set {Q : PUnit → σ → Prop} (s' : σ) :
    Sat (set s' : StateT σ (Except ε) PUnit) s Q E ↔ Q ⟨⟩ s' := Iff.rfl

theorem sat_modify {Q : PUnit → σ → Prop} (f : σ → σ) :
    Sat (modify f : StateT σ (Except ε) PUnit) s Q E ↔ Q ⟨⟩ (f s) := Iff.rfl

theorem Sat.mono {p : StateT σ (Except ε) β} {Q' : β → σ → Prop} {E' : ε → Prop}
    (h : Sat p s Q E) (hQ : ∀ b s', Q b s' → Q' b s') (hE : ∀ f, E f → E' f) :
    Sat p s Q' E' := by
  rw [Sat] at h ⊢
  cases hp : p s with
  | ok r => rw [hp] at h; exact hQ r.1 r.2 h
  | error f => rw [hp] at h; exact hE f h

/-- Two judgements about one program. -/
theorem Sat.and {p : StateT σ (Except ε) β} {Q' : β → σ → Prop} {E' : ε → Prop}
    (h : Sat p s Q E) (h' : Sat p s Q' E') :
    Sat p s (fun b s' => Q b s' ∧ Q' b s') fun f => E f ∧ E' f := by
  rw [Sat] at h h' ⊢
  cases hp : p s with
  | ok r => rw [hp] at h h'; exact ⟨h, h'⟩
  | error f => rw [hp] at h h'; exact ⟨h, h'⟩

/-- Any number of judgements about one program, when its faults do not matter. -/
theorem Sat.forall {ι : Sort*} {p : StateT σ (Except ε) β} {Q : ι → β → σ → Prop}
    (h : ∀ i, Sat p s (Q i) fun _ => True) : Sat p s (fun b s' => ∀ i, Q i b s') fun _ => True := by
  rw [Sat]
  cases hp : p s with
  | ok r =>
    intro i
    have := h i
    rw [Sat, hp] at this
    exact this
  | error f => trivial

/-- When a program stops with a given fault, if a condition on its initial state tells. -/
theorem Sat.error_iff {p : StateT σ (Except ε) β} {D : Prop} {f : ε}
    (h : Sat p s (fun _ _ => ¬ D) fun g => g = f ↔ D) : p s = .error f ↔ D := by
  rw [Sat] at h
  cases hp : p s with
  | ok r =>
    rw [hp] at h
    exact iff_of_false nofun h
  | error g =>
    rw [hp] at h
    rw [Except.error.injEq]
    exact h

/-! ## What a program keeps

A property of states that the parts of a program keep is kept by the program.  A fault ends the run,
so nothing is asked of it. -/

section Maintains

variable {I : σ → Prop}

/-- `p` keeps `I`, if it ends. -/
def Maintains (I : σ → Prop) (p : StateT σ (Except ε) α) : Prop :=
  ∀ s, I s → Sat p s (fun _ s' => I s') fun _ => True

theorem Maintains.pure (a : α) : Maintains I (Pure.pure a : StateT σ (Except ε) α) :=
  fun _ h => h

theorem Maintains.throw (f : ε) : Maintains I (MonadExcept.throw f : StateT σ (Except ε) α) :=
  fun _ _ => trivial

theorem Maintains.bind {p : StateT σ (Except ε) α} {f : α → StateT σ (Except ε) β}
    (hp : Maintains I p) (hf : ∀ a, Maintains I (f a)) : Maintains I (p >>= f) := by
  intro s h
  rw [sat_bind]
  exact (hp s h).mono (fun a s' h' => hf a s' h') fun _ _ => trivial

theorem Maintains.ite {c : Prop} [Decidable c] {p q : StateT σ (Except ε) α}
    (hp : Maintains I p) (hq : Maintains I q) : Maintains I (if c then p else q) := by
  split
  · exact hp
  · exact hq

theorem Maintains.look : Maintains I (get : StateT σ (Except ε) σ) := fun _ h => h

/-- A program that begins by looking at the state. -/
theorem Maintains.look_bind {f : σ → StateT σ (Except ε) β}
    (hf : ∀ s, I s → Sat (f s) s (fun _ s' => I s') fun _ => True) :
    Maintains I (get >>= f) := by
  intro s h
  rw [sat_bind, sat_get]
  exact hf s h

theorem Maintains.update {f : σ → σ} (hf : ∀ s, I s → I (f s)) :
    Maintains I (modify f : StateT σ (Except ε) PUnit) := fun s h => hf s h

/-- `p` keeps `I` and returns something that satisfies `R`, if it ends. -/
def Yields (I : σ → Prop) (R : α → Prop) (p : StateT σ (Except ε) α) : Prop :=
  ∀ s, I s → Sat p s (fun a s' => I s' ∧ R a) fun _ => True

/-- What is known about the result of a part may be used by the rest. -/
theorem Yields.bind {R : α → Prop} {p : StateT σ (Except ε) α} {f : α → StateT σ (Except ε) β}
    (hp : Yields I R p) (hf : ∀ a, R a → Maintains I (f a)) : Maintains I (p >>= f) := by
  intro s h
  rw [sat_bind]
  exact (hp s h).mono (fun a s' h' => hf a h'.2 s' h'.1) fun _ _ => trivial

end Maintains

end SocksProxy
