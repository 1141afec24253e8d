import Mathlib.Data.List.Count
import SocksProxy.Lib.Histories
import SocksProxy.Lib.Runs
import SocksProxy.Shared.Stm

/-!
# Arrivals and departures

What `stm.c` promises to the hooks of any table.  A state that has both an arrival and a departure
hook can acquire something in the one and release it in the other: the machine is inside one state at
a time, every arrival is matched by one departure, a readiness hook runs inside its own state and in
no other, and after `stm_handler_close` nothing is left entered.
-/

set_option autoImplicit false

namespace SocksProxy

namespace Stm

variable {σ φ κ : Type} {maxState : ℕ}

/-- One event of a machine whose hooks are recorded: a readiness handler is called. -/
def watchedStep (stm : StateMachine σ φ κ maxState) (abort : φ) (w : Watched σ (maxState + 1))
    (e : Hook × κ) : Except φ (Watched σ (maxState + 1)) :=
  match stm.watched.handler (Watched.memory _ abort) e.1 e.2 w with
  | .ok (_, w') => .ok w'
  | .error f => .error f

/-- Both ends of the state have a hook. -/
def StateMachine.Paired (stm : StateMachine σ φ κ maxState) (i : Fin (maxState + 1)) : Prop :=
  (stm.definition i).onArrival.isSome = true ∧ (stm.definition i).onDeparture.isSome = true

/-- The state a machine that starts in `i` is in after these calls, if each readiness hook runs in
the state the one before it asked for. -/
def follow : ℕ → List Call → Option ℕ
  | i, [] => some i
  | i, .ready _ j ret :: calls => if j = i then follow ret calls else none
  | i, .arrival _ :: calls => follow i calls
  | i, .departure _ :: calls => follow i calls

/-- How the calls stand to the state a machine is in, and to the one it is asked for. -/
structure Bracketed (stm : StateMachine σ φ κ maxState) (current : Option (Fin (maxState + 1)))
    (asked : ℕ) (calls : List Call) : Prop where
  /-- Every arrival is matched by a departure, but for the state the machine is in. -/
  entered : ∀ i, stm.Paired i → calls.count (.arrival i) =
    calls.count (.departure i) + if current = some i then 1 else 0
  /-- A readiness hook runs inside its own state, and in no other. -/
  inside : ∀ hook i ret, Preceded (· = .ready hook i ret) (fun calls =>
    ∀ j : Fin (maxState + 1), stm.Paired j → calls.count (.arrival j) =
      calls.count (.departure j) + if (j : ℕ) = i then 1 else 0) calls
  /-- The states are those the readiness hooks asked for. -/
  path : follow stm.initial calls = some asked

section Bracketed

variable {stm : StateMachine σ φ κ maxState} {i : Fin (maxState + 1)}
  {current : Option (Fin (maxState + 1))} {calls calls' : List Call}

theorem follow_append {i j : ℕ} (h : follow i calls = some j) :
    follow i (calls ++ calls') = follow j calls' := by
  induction calls generalizing i with
  | nil =>
    cases h
    rfl
  | cons c calls ih =>
    cases c with
    | arrival => exact ih h
    | departure => exact ih h
    | ready hook k ret =>
      rw [follow] at h
      rw [List.cons_append, follow]
      split
      · next hk =>
        rw [if_pos hk] at h
        exact ih h
      · next hk =>
        rw [if_neg hk] at h
        cases h

/-- The call of the arrival hook of a state, if there is one. -/
def StateMachine.arrivals (stm : StateMachine σ φ κ maxState) (i : Fin (maxState + 1)) : List Call :=
  if (stm.definition i).onArrival.isSome then [.arrival i] else []

/-- The call of the departure hook of a state, if there is one. -/
def StateMachine.departures (stm : StateMachine σ φ κ maxState) (i : Fin (maxState + 1)) :
    List Call :=
  if (stm.definition i).onDeparture.isSome then [.departure i] else []

theorem count_arrivals {j : Fin (maxState + 1)} (hj : stm.Paired j) :
    (stm.arrivals i).count (.arrival j) = if i = j then 1 else 0 := by
  by_cases hij : i = j
  · subst hij
    rw [StateMachine.arrivals, if_pos hj.1, if_pos rfl, List.count_singleton_self]
  · rw [if_neg hij, StateMachine.arrivals]
    have hne : Call.arrival i ≠ .arrival j := fun h => hij (Fin.ext (Call.arrival.inj h))
    split
    · rw [List.count_singleton, if_neg (by simpa using hne)]
    · rfl

theorem count_departures {j : Fin (maxState + 1)} (hj : stm.Paired j) :
    (stm.departures i).count (.departure j) = if i = j then 1 else 0 := by
  by_cases hij : i = j
  · subst hij
    rw [StateMachine.departures, if_pos hj.2, if_pos rfl, List.count_singleton_self]
  · rw [if_neg hij, StateMachine.departures]
    have hne : Call.departure i ≠ .departure j := fun h => hij (Fin.ext (Call.departure.inj h))
    split
    · rw [List.count_singleton, if_neg (by simpa using hne)]
    · rfl

theorem departure_notMem_arrivals (j : ℕ) : (stm.arrivals i).count (.departure j) = 0 := by
  rw [StateMachine.arrivals]
  split <;> rfl

theorem arrival_notMem_departures (j : ℕ) : (stm.departures i).count (.arrival j) = 0 := by
  rw [StateMachine.departures]
  split <;> rfl

theorem follow_arrivals {j : ℕ} : follow j (stm.arrivals i) = some j := by
  rw [StateMachine.arrivals]
  split <;> rfl

theorem follow_departures {j : ℕ} : follow j (stm.departures i) = some j := by
  rw [StateMachine.departures]
  split <;> rfl

/-- Calls of arrival and departure hooks are no calls of readiness hooks. -/
theorem Bracketed.inside_append {asked : ℕ} (h : Bracketed stm current asked calls)
    (hnew : ∀ hook i ret, .ready hook i ret ∉ calls') (hook : Hook) (i ret : ℕ) :
    Preceded (· = .ready hook i ret) (fun calls =>
      ∀ j : Fin (maxState + 1), stm.Paired j → calls.count (.arrival j) =
        calls.count (.departure j) + if (j : ℕ) = i then 1 else 0) (calls ++ calls') :=
  (h.inside hook i ret).append_of_not fun _ hc heq => hnew hook i ret (heq ▸ hc)

/-- The machine arrives in a state. -/
theorem Bracketed.arrive (h : Bracketed stm none i calls) :
    Bracketed stm (some i) i (calls ++ stm.arrivals i) where
  entered := by
    intro j hj
    have := h.entered j hj
    rw [List.count_append, List.count_append, count_arrivals hj, departure_notMem_arrivals, this]
    simp
  inside := by
    refine h.inside_append fun hook j ret hmem => ?_
    rw [StateMachine.arrivals] at hmem
    split at hmem
    · cases List.mem_singleton.1 hmem
    · cases hmem
  path := by rw [follow_append h.path, follow_arrivals]

/-- The machine leaves a state. -/
theorem Bracketed.depart {asked : ℕ} (h : Bracketed stm (some i) asked calls) :
    Bracketed stm none asked (calls ++ stm.departures i) where
  entered := by
    intro j hj
    have := h.entered j hj
    rw [List.count_append, List.count_append, count_departures hj, arrival_notMem_departures, this]
    simp
  inside := by
    refine h.inside_append fun hook j ret hmem => ?_
    rw [StateMachine.departures] at hmem
    split at hmem
    · cases List.mem_singleton.1 hmem
    · cases hmem
  path := by rw [follow_append h.path, follow_departures]

/-- A readiness hook of the state the machine is in asks for a state. -/
theorem Bracketed.ready (h : Bracketed stm (some i) i calls) (hook : Hook) (ret : ℕ) :
    Bracketed stm (some i) ret (calls ++ [.ready hook i ret]) where
  entered := by
    intro j hj
    have := h.entered j hj
    rw [List.count_append, List.count_append, this]
    simp
  inside := by
    intro hook' i' ret'
    refine (h.inside hook' i' ret').concat fun heq j hj => ?_
    cases heq
    rw [h.entered j hj]
    simp only [Option.some.injEq, Fin.ext_iff, eq_comm]
  path := by
    rw [follow_append h.path, follow, if_pos rfl]
    rfl

end Bracketed

/-! ## The engine -/

section Engine

variable {stm : StateMachine σ φ κ maxState} {abort : φ} {i : Fin (maxState + 1)}
  {w : Watched σ (maxState + 1)} {key : κ}

/-- A machine between two events. -/
def StateMachine.Resting (stm : StateMachine σ φ κ maxState) (w : Watched σ (maxState + 1)) : Prop :=
  Bracketed stm w.current (w.current.elim stm.initial (·.val)) w.calls

theorem definition_watched (i : Fin (maxState + 1)) :
    stm.watched.definition i = (stm.definition i).watched (maxState + 1) :=
  List.getElem_map ..

/-- A program that does not touch the engine. -/
theorem sat_lift {α : Type} {p : StateT σ (Except φ) α} :
    Sat (Watched.lift p) w (fun _ w' => w'.current = w.current ∧ w'.calls = w.calls)
      fun _ => True := by
  rw [Sat, Watched.lift]
  cases p w.rest with
  | ok r => exact ⟨rfl, rfl⟩
  | error f => trivial

theorem arrive_watched_of_none (h : (stm.definition i).onArrival = none) :
    stm.watched.arrive i key = pure () := by
  rw [StateMachine.arrive, definition_watched, StateDefinition.watched, h]
  rfl

/-- What is called on arrival. -/
theorem arrive_watched_of_some {hook : ℕ → κ → StateT σ (Except φ) Unit}
    (h : (stm.definition i).onArrival = some hook) : stm.watched.arrive i key = (do
      Watched.note (.arrival i)
      Watched.lift (hook i key)) := by
  rw [StateMachine.arrive, definition_watched, StateDefinition.watched, h]
  dsimp only [Option.map_some]
  rw [StateMachine.state_definition]

theorem depart_watched_of_none (h : (stm.definition i).onDeparture = none) :
    stm.watched.depart i key = pure () := by
  rw [StateMachine.depart, definition_watched, StateDefinition.watched, h]
  rfl

/-- What is called on departure. -/
theorem depart_watched_of_some {hook : ℕ → κ → StateT σ (Except φ) Unit}
    (h : (stm.definition i).onDeparture = some hook) : stm.watched.depart i key = (do
      Watched.note (.departure i)
      Watched.lift (hook i key)) := by
  rw [StateMachine.depart, definition_watched, StateDefinition.watched, h]
  dsimp only [Option.map_some]
  rw [StateMachine.state_definition]

/-- A call is recorded, and then a program runs that does not touch the engine. -/
theorem sat_note_lift {c : Call} {p : StateT σ (Except φ) Unit} :
    Sat (do
      Watched.note c
      Watched.lift p) w (fun _ w' => w'.current = w.current ∧ w'.calls = w.calls ++ [c])
      fun _ => True := by
  rw [sat_bind, Watched.note, sat_modify]
  exact sat_lift.mono (fun _ w' hw' => hw') fun _ _ => trivial

theorem sat_arrive (h : Bracketed stm none i w.calls) :
    Sat (stm.watched.arrive i key) w
      (fun _ w' => w'.current = w.current ∧ Bracketed stm (some i) i w'.calls) fun _ => True := by
  have hin := h.arrive
  rw [StateMachine.arrivals] at hin
  cases hook : (stm.definition i).onArrival with
  | none =>
    rw [hook, if_neg (by simp), List.append_nil] at hin
    rw [arrive_watched_of_none hook]
    exact ⟨rfl, hin⟩
  | some hook' =>
    rw [hook, if_pos Option.isSome_some] at hin
    rw [arrive_watched_of_some hook]
    exact sat_note_lift.mono (fun _ w' hw' => ⟨hw'.1, hw'.2 ▸ hin⟩) fun _ _ => trivial

theorem sat_depart {asked : ℕ} (h : Bracketed stm (some i) asked w.calls) :
    Sat (stm.watched.depart i key) w
      (fun _ w' => w'.current = w.current ∧ Bracketed stm none asked w'.calls) fun _ => True := by
  have hout := h.depart
  rw [StateMachine.departures] at hout
  cases hook : (stm.definition i).onDeparture with
  | none =>
    rw [hook, if_neg (by simp), List.append_nil] at hout
    rw [depart_watched_of_none hook]
    exact ⟨rfl, hout⟩
  | some hook' =>
    rw [hook, if_pos Option.isSome_some] at hout
    rw [depart_watched_of_some hook]
    exact sat_note_lift.mono (fun _ w' hw' => ⟨hw'.1, hw'.2 ▸ hout⟩) fun _ _ => trivial

theorem sat_current {Q : Option (Fin (maxState + 1)) → Watched σ (maxState + 1) → Prop}
    {E : φ → Prop} : Sat (Watched.memory (maxState + 1) abort).current w Q E ↔ Q w.current w :=
  Iff.rfl

theorem sat_enter (h : Bracketed stm none i w.calls) :
    Sat (stm.watched.enter (Watched.memory _ abort) i key) w
      (fun _ w' => w'.current = some i ∧ Bracketed stm (some i) i w'.calls) fun _ => True := by
  rw [StateMachine.enter, sat_bind]
  exact sat_arrive (w := { w with current := some i }) h

theorem sat_handleFirst (h : stm.Resting w) :
    Sat (stm.watched.handleFirst (Watched.memory _ abort) key) w
      (fun _ w' => ∃ i, w'.current = some i ∧ Bracketed stm (some i) i w'.calls)
      fun _ => True := by
  rw [StateMachine.handleFirst, sat_bind, sat_current]
  rw [StateMachine.Resting] at h
  cases hc : w.current with
  | some i =>
    rw [hc] at h
    exact ⟨i, hc, h⟩
  | none =>
    rw [hc] at h
    exact (sat_enter (i := stm.first) h).mono (fun _ w' hw' => ⟨_, hw'⟩) fun _ _ => trivial

theorem sat_jump {ret : ℕ} (hc : w.current = some i) (h : Bracketed stm (some i) ret w.calls) :
    Sat (stm.watched.jump (Watched.memory _ abort) ret key) w (fun _ w' => stm.Resting w')
      fun _ => True := by
  rw [StateMachine.jump]
  split
  · next hlt =>
    rw [sat_bind, sat_current, hc]
    dsimp only
    split
    · next heq =>
      show Bracketed stm w.current (w.current.elim stm.initial (·.val)) w.calls
      rw [hc]
      rw [heq] at h
      exact heq ▸ h
    · rw [sat_bind]
      refine (sat_depart h).mono (fun _ w' hw' => ?_) fun _ _ => trivial
      refine (sat_enter (i := ⟨ret, hlt⟩) hw'.2).mono (fun _ w'' hw'' => ?_) fun _ _ => trivial
      rw [StateMachine.Resting, hw''.1]
      exact hw''.2
  · trivial

/-- A readiness hook of a watched machine. -/
theorem ready_watched (hook : Hook) : (stm.watched.definition i).ready hook =
    ((stm.definition i).ready hook).map fun ready key => do
      let ret ← Watched.lift (ready key)
      Watched.note (.ready hook i ret)
      return ret := by
  rw [definition_watched, ← StateMachine.state_definition stm i]
  cases hook <;> rfl

theorem sat_handler (abort : φ) (hook : Hook) (key : κ) (h : stm.Resting w) :
    Sat (stm.watched.handler (Watched.memory _ abort) hook key) w (fun _ w' => stm.Resting w')
      fun _ => True := by
  rw [StateMachine.handler, sat_bind]
  refine (sat_handleFirst h).mono ?_ fun _ _ => trivial
  rintro _ w₁ ⟨i, hc, h₁⟩
  rw [sat_bind, sat_current, hc]
  dsimp only
  rw [ready_watched]
  cases (stm.definition i).ready hook with
  | none => trivial
  | some ready =>
    dsimp only [Option.map_some]
    rw [sat_bind, sat_bind]
    refine sat_lift.mono ?_ fun _ _ => trivial
    rintro ret w₂ ⟨hc₂, hcalls⟩
    rw [sat_bind]
    have h₂ : Bracketed stm (some i) ret (w₂.calls ++ [.ready hook i ret]) := by
      rw [hcalls]
      exact h₁.ready hook ret
    rw [Watched.note, sat_modify, sat_of_ok rfl, sat_bind]
    refine (sat_jump (i := i) ?_ ?_).mono (fun _ w₃ h₃ => h₃) fun _ _ => trivial
    · exact hc₂.trans hc
    · exact h₂

theorem resting_step {w' : Watched σ (maxState + 1)} {e : Hook × κ} (h : stm.Resting w)
    (hstep : watchedStep stm abort w e = .ok w') : stm.Resting w' := by
  have hsat := sat_handler abort e.1 e.2 h
  rw [watchedStep] at hstep
  rw [Sat] at hsat
  cases hp : stm.watched.handler (Watched.memory _ abort) e.1 e.2 w with
  | ok r =>
    rw [hp] at hstep hsat
    cases hstep
    exact hsat
  | error f =>
    rw [hp] at hstep
    cases hstep

/-- `stm_handler_close` leaves nothing entered. -/
theorem sat_handlerClose (abort : φ) (key : κ) (h : stm.Resting w) :
    Sat (stm.watched.handlerClose (Watched.memory _ abort) key) w
      (fun _ w' => ∀ i, stm.Paired i → w'.calls.count (.arrival i) = w'.calls.count (.departure i))
      fun _ => True := by
  have hout : ∀ {asked : ℕ} {calls : List Call}, Bracketed stm none asked calls → ∀ i,
      stm.Paired i → calls.count (.arrival i) = calls.count (.departure i) := fun hb i hi => by
    simpa using hb.entered i hi
  rw [StateMachine.handlerClose, sat_bind, sat_current]
  rw [StateMachine.Resting] at h
  cases hc : w.current with
  | none =>
    rw [hc] at h
    exact hout h
  | some i =>
    rw [hc] at h
    exact (sat_depart h).mono (fun _ w' hw' => hout hw'.2) fun _ _ => trivial

end Engine

/-- What holds of a watched machine between two events. -/
structure StateMachine.Brackets (stm : StateMachine σ φ κ maxState) (abort : φ)
    (w : Watched σ (maxState + 1)) : Prop where
  /-- The machine is inside one state at a time, and hooks run where they should. -/
  resting : stm.Resting w
  /-- When it is closed, every arrival is matched by a departure. -/
  closes : ∀ key w', stm.watched.handlerClose (Watched.memory _ abort) key w = .ok ((), w') →
    ∀ i, stm.Paired i → w'.calls.count (.arrival i) = w'.calls.count (.departure i)

/-- **Arrivals and departures are brackets**, whatever the hooks do and whatever is ready when. -/
theorem hooks_are_bracketed (stm : StateMachine σ φ κ maxState) (abort : φ) (s : σ)
    (es : List (Hook × κ)) :
    Visits (watchedStep stm abort) (stm.Brackets abort) ⟨s, none, []⟩ es := by
  refine visits_of_reaches (fun w hw => ?_) es
  have hrest : stm.Resting w := by
    refine hw.inv (I := stm.Resting) ?_ fun _ _ _ h hstep => resting_step h hstep
    exact ⟨fun _ _ => rfl, fun _ _ _ => Preceded.nil, rfl⟩
  refine ⟨hrest, fun key w' hclose => ?_⟩
  have hsat := sat_handlerClose abort key hrest
  rw [Sat, hclose] at hsat
  exact hsat

end Stm

end SocksProxy
