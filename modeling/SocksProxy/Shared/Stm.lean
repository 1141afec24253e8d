import SocksProxy.Lib.Fallible

/-!
# The state machine engine of `shared/stm.c`

A machine is a table of states, each with the hooks that run when it is entered, when it is left and
when its descriptor is ready.  The hooks are programs of the process that uses the engine, with its
own state and faults, and what they are given is the selector key; so the engine is a program of that
process too.  The pointer `current` lives in the memory of the process: `Memory` says how it is read
and written.

`stm_init` stops the process unless the table lists the states in the order of their numbers and the
initial state is not the last one.  `StateMachine` is a machine that got past it, so a state is a
number below the size of the table and looking it up cannot fail.
-/

set_option autoImplicit false

namespace SocksProxy

namespace Stm

/-- `struct state_definition`.  A hook that is NULL is `none`. -/
structure StateDefinition (σ φ κ : Type) where
  state : ℕ
  onArrival : Option (ℕ → κ → StateT σ (Except φ) Unit) := none
  onDeparture : Option (ℕ → κ → StateT σ (Except φ) Unit) := none
  onReadReady : Option (κ → StateT σ (Except φ) ℕ) := none
  onWriteReady : Option (κ → StateT σ (Except φ) ℕ) := none
  onBlockReady : Option (κ → StateT σ (Except φ) ℕ) := none

variable {σ φ κ : Type}

/-- Whether the first `maxState + 1` states of a table are numbered as they stand. -/
def Ordered (states : List (StateDefinition σ φ κ)) (maxState : ℕ) : Prop :=
  ∀ i ≤ maxState, (states[i]?).map (·.state) = some i

instance (states : List (StateDefinition σ φ κ)) (maxState : ℕ) :
    Decidable (Ordered states maxState) :=
  inferInstanceAs (Decidable (∀ i ≤ maxState, _))

/-- `struct state_machine`, past `stm_init` and without `current`. -/
structure StateMachine (σ φ κ : Type) (maxState : ℕ) where
  initial : ℕ
  states : List (StateDefinition σ φ κ)
  ordered : Ordered states maxState
  initial_lt : initial < maxState

/-- `stm_init`; none if it stops the process. -/
def stmInit (initial : ℕ) (states : List (StateDefinition σ φ κ)) (maxState : ℕ) :
    Option (StateMachine σ φ κ maxState) :=
  if h : Ordered states maxState ∧ initial < maxState then
    some ⟨initial, states, h.1, h.2⟩
  else none

/-- Where the process keeps `current`, and how it stops. -/
structure Memory (σ φ : Type) (n : ℕ) where
  current : StateT σ (Except φ) (Option (Fin n))
  setCurrent : Fin n → StateT σ (Except φ) Unit
  /-- `abort()`. -/
  abort : φ

/-- The readiness hooks. -/
inductive Hook where
  | read
  | write
  | block
  deriving DecidableEq

/-- The hook of this kind. -/
def StateDefinition.ready (d : StateDefinition σ φ κ) :
    Hook → Option (κ → StateT σ (Except φ) ℕ)
  | .read => d.onReadReady
  | .write => d.onWriteReady
  | .block => d.onBlockReady

namespace StateMachine

variable {maxState : ℕ} (stm : StateMachine σ φ κ maxState)

theorem lt_length (i : Fin (maxState + 1)) : (i : ℕ) < stm.states.length := by
  have h := stm.ordered i (Nat.le_of_lt_succ i.2)
  by_contra hge
  rw [List.getElem?_eq_none (Nat.le_of_not_lt hge)] at h
  cases h

/-- `stm->states + i`. -/
def definition (i : Fin (maxState + 1)) : StateDefinition σ φ κ :=
  stm.states.get ⟨i, stm.lt_length i⟩

/-- A state is found under its number. -/
@[simp] theorem state_definition (i : Fin (maxState + 1)) : (stm.definition i).state = i := by
  have h := stm.ordered i (Nat.le_of_lt_succ i.2)
  rw [List.getElem?_eq_getElem (stm.lt_length i)] at h
  exact Option.some.inj h

/-- The initial state. -/
def first : Fin (maxState + 1) := ⟨stm.initial, Nat.lt_succ_of_lt stm.initial_lt⟩

variable (mem : Memory σ φ (maxState + 1))

/-- `current->on_arrival(current->state, key)`, if there is a hook. -/
def arrive (i : Fin (maxState + 1)) (key : κ) : StateT σ (Except φ) Unit :=
  match (stm.definition i).onArrival with
  | some hook => hook (stm.definition i).state key
  | none => pure ()

/-- `current->on_departure(current->state, key)`, if there is a hook. -/
def depart (i : Fin (maxState + 1)) (key : κ) : StateT σ (Except φ) Unit :=
  match (stm.definition i).onDeparture with
  | some hook => hook (stm.definition i).state key
  | none => pure ()

/-- `handle_first`. -/
def handleFirst (key : κ) : StateT σ (Except φ) Unit := do
  match ← mem.current with
  | some _ => return
  | none =>
    mem.setCurrent stm.first
    stm.arrive stm.first key

/-- The end of `jump`. -/
def enter (i : Fin (maxState + 1)) (key : κ) : StateT σ (Except φ) Unit := do
  mem.setCurrent i
  stm.arrive i key

/-- `jump`. -/
def jump (next : ℕ) (key : κ) : StateT σ (Except φ) Unit :=
  if h : next < maxState + 1 then do
    match ← mem.current with
    | none => stm.enter mem ⟨next, h⟩ key
    | some i =>
      if i = ⟨next, h⟩ then return
      else
        stm.depart i key
        stm.enter mem ⟨next, h⟩ key
  else throw mem.abort

/-- `stm_handler_read`, `stm_handler_write` and `stm_handler_block`. -/
def handler (hook : Hook) (key : κ) : StateT σ (Except φ) ℕ := do
  stm.handleFirst mem key
  match ← mem.current with
  | none => throw mem.abort
  | some i =>
    match (stm.definition i).ready hook with
    | none => throw mem.abort
    | some ready =>
      let ret ← ready key
      stm.jump mem ret key
      return ret

/-- `stm_handler_read`. -/
def handlerRead (key : κ) : StateT σ (Except φ) ℕ := stm.handler mem .read key

/-- `stm_handler_write`. -/
def handlerWrite (key : κ) : StateT σ (Except φ) ℕ := stm.handler mem .write key

/-- `stm_handler_block`. -/
def handlerBlock (key : κ) : StateT σ (Except φ) ℕ := stm.handler mem .block key

/-- `stm_handler_close`. -/
def handlerClose (key : κ) : StateT σ (Except φ) Unit := do
  match ← mem.current with
  | some i => stm.depart i key
  | none => return

/-- `stm_state`. -/
def state : StateT σ (Except φ) ℕ := do
  match ← mem.current with
  | some i => return (stm.definition i).state
  | none => return stm.initial

end StateMachine

/-! ## What the engine calls -/

/-- A call of a hook. -/
inductive Call where
  | arrival (state : ℕ)
  | departure (state : ℕ)
  /-- A readiness hook of `state`, and the state it asks for. -/
  | ready (hook : Hook) (state ret : ℕ)
  deriving DecidableEq

/-- The memory of a process whose engine is watched: what the hooks work on, the pointer `current`,
and the calls so far. -/
structure Watched (σ : Type) (n : ℕ) where
  rest : σ
  current : Option (Fin n)
  calls : List Call

/-- A program that does not touch the engine. -/
def Watched.lift {n : ℕ} {α : Type} (p : StateT σ (Except φ) α) :
    StateT (Watched σ n) (Except φ) α := fun w =>
  match p w.rest with
  | .ok (a, s) => .ok (a, { w with rest := s })
  | .error f => .error f

/-- Record a call. -/
def Watched.note {n : ℕ} (c : Call) : StateT (Watched σ n) (Except φ) Unit :=
  modify fun w => { w with calls := w.calls ++ [c] }

/-- A state whose hooks record that they are called. -/
def StateDefinition.watched (n : ℕ) (d : StateDefinition σ φ κ) :
    StateDefinition (Watched σ n) φ κ where
  state := d.state
  onArrival := d.onArrival.map fun hook st key => do
    Watched.note (.arrival st)
    Watched.lift (hook st key)
  onDeparture := d.onDeparture.map fun hook st key => do
    Watched.note (.departure st)
    Watched.lift (hook st key)
  onReadReady := d.onReadReady.map fun hook key => do
    let ret ← Watched.lift (hook key)
    Watched.note (.ready .read d.state ret)
    return ret
  onWriteReady := d.onWriteReady.map fun hook key => do
    let ret ← Watched.lift (hook key)
    Watched.note (.ready .write d.state ret)
    return ret
  onBlockReady := d.onBlockReady.map fun hook key => do
    let ret ← Watched.lift (hook key)
    Watched.note (.ready .block d.state ret)
    return ret

theorem ordered_watched {states : List (StateDefinition σ φ κ)} {maxState : ℕ} (n : ℕ)
    (h : Ordered states maxState) : Ordered (states.map (·.watched n)) maxState := by
  intro i hi
  rw [List.getElem?_map, Option.map_map]
  exact h i hi

/-- A machine whose hooks record that they are called. -/
def StateMachine.watched {maxState : ℕ} (stm : StateMachine σ φ κ maxState) :
    StateMachine (Watched σ (maxState + 1)) φ κ maxState where
  initial := stm.initial
  states := stm.states.map (·.watched (maxState + 1))
  ordered := ordered_watched _ stm.ordered
  initial_lt := stm.initial_lt

/-- The pointer of a watched engine. -/
def Watched.memory (n : ℕ) (abort : φ) : Memory (Watched σ n) φ n where
  current := do return (← get).current
  setCurrent i := modify fun w => { w with current := some i }
  abort := abort

end Stm

end SocksProxy
