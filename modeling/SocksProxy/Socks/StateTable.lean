import Mathlib.Tactic.IntervalCases
import SocksProxy.Shared.Stm
import SocksProxy.Socks.Handlers

/-!
# The state table of a session

`Handlers.lean` writes `stm_handler_read`, `stm_handler_write` and `stm_handler_block` out for the
states of a SOCKS session.  Here is the table itself, as `socks.c` gives it to the engine of `stm.c`,
and the theorem that the engine run on this table is what `Handlers.lean` says.
-/

set_option autoImplicit false

namespace SocksProxy

/-- The state with this number. -/
def SocksState.ofRank : ℕ → SocksState
  | 0 => .authGreeting
  | 1 => .authUserpass
  | 2 => .request
  | 3 => .resolving
  | 4 => .originConnecting
  | 5 => .relay
  | _ => .done

theorem SocksState.ofRank_rank (st : SocksState) : SocksState.ofRank st.rank = st := by
  cases st <;> rfl

theorem SocksState.rank_lt (st : SocksState) : st.rank < SocksState.done.rank + 1 := by
  cases st <;> decide

variable [Inet]

/-- `socks_state_table`. -/
def socksStateTable : List (Stm.StateDefinition World Fault Key) :=
  [ { state := SocksState.authGreeting.rank
      onReadReady := some fun key => do return (← socksOnReadGreeting key).rank
      onWriteReady := some fun key => do return (← socksStubStay key.data).rank },
    { state := SocksState.authUserpass.rank
      onReadReady := some fun key => do return (← socksOnReadAuth key).rank
      onWriteReady := some fun key => do return (← socksStubStay key.data).rank },
    { state := SocksState.request.rank
      onReadReady := some fun key => do return (← socksOnReadRequest key).rank
      onWriteReady := some fun key => do return (← socksStubStay key.data).rank },
    { state := SocksState.resolving.rank
      onReadReady := some fun key => do return (← socksStubStay key.data).rank
      onWriteReady := some fun key => do return (← socksStubStay key.data).rank
      onBlockReady := some fun key => do return (← socksOnBlockResolving key).rank },
    { state := SocksState.originConnecting.rank
      onReadReady := some fun key => do return (← socksStubStay key.data).rank
      onWriteReady := some fun key => do return (← socksStubStay key.data).rank },
    { state := SocksState.relay.rank
      onReadReady := some fun key => do return (← socksStubStay key.data).rank
      onWriteReady := some fun key => do return (← socksStubStay key.data).rank },
    { state := SocksState.done.rank
      onReadReady := some fun key => do return (← socksStubStay key.data).rank
      onWriteReady := some fun key => do return (← socksStubStay key.data).rank } ]

theorem ordered_socksStateTable : Stm.Ordered socksStateTable SocksState.done.rank := by
  intro i hi
  have hi : i ≤ 6 := hi
  interval_cases i <;> rfl

omit [Inet] in
theorem initial_lt_socksStateTable : SocksState.authGreeting.rank < SocksState.done.rank := by decide

/-- `socks_session_stm_init`. -/
def socksStm : Stm.StateMachine World Fault Key SocksState.done.rank where
  initial := SocksState.authGreeting.rank
  states := socksStateTable
  ordered := ordered_socksStateTable
  initial_lt := initial_lt_socksStateTable

omit [Inet] in
/-- The place of a state in the table. -/
def SocksState.place (st : SocksState) : Fin (SocksState.done.rank + 1) := ⟨st.rank, st.rank_lt⟩

omit [Inet] in
/-- `session->stm`. -/
def sessionStm (sid : Sid) : Stm.Memory World Fault (SocksState.done.rank + 1) where
  current := do return (← deref sid).stm.map SocksState.place
  setCurrent i := assign sid fun s => { s with stm := some (SocksState.ofRank i) }
  abort := .abort

section Refinement

variable {w : World} {sid : Sid} {s : SocksSession} {key : Key}

/-- No state of the table has an arrival hook. -/
theorem arrive_place (st : SocksState) : socksStm.arrive st.place key = pure () := by
  cases st <;> rfl

/-- No state of the table has a departure hook. -/
theorem depart_place (st : SocksState) : socksStm.depart st.place key = pure () := by
  cases st <;> rfl

omit [Inet] in
theorem current_of_open (hs : w.sessions sid = some s) :
    (sessionStm sid).current w = .ok (s.stm.map SocksState.place, w) := by
  show (deref sid >>= _) w = _
  rw [bind_of_ok (show deref sid w = .ok (s, w) by rw [deref, hs])]
  rfl

omit [Inet] in
theorem current_of_freed (hs : w.sessions sid = none) :
    (sessionStm sid).current w = .error .useAfterFree := by
  show (deref sid >>= _) w = _
  rw [bind_of_error (show deref sid w = .error .useAfterFree by rw [deref, hs])]

omit [Inet] in
theorem setCurrent_place (st : SocksState) :
    (sessionStm sid).setCurrent st.place = assign sid fun s => { s with stm := some st } := by
  show (assign sid fun s => { s with stm := some (SocksState.ofRank st.rank) }) = _
  rw [SocksState.ofRank_rank]

omit [Inet] in
/-- Writing the state a session is in changes nothing. -/
theorem assign_same {st : SocksState} (hs : w.sessions sid = some s) (hst : s.stm = some st) :
    assign sid (fun s => { s with stm := some st }) w = .ok ((), w) := by
  have hs' : { s with stm := some st } = s := by rw [← hst]
  have hw : Function.update w.sessions sid (some s) = w.sessions := by
    rw [← hs, Function.update_eq_self]
  rw [assign, hs]
  dsimp only
  rw [hs', hw]

omit [Inet] in
theorem place_injective : Function.Injective SocksState.place := by
  intro st st' h
  have hrank : st.rank = st'.rank := congrArg Fin.val h
  rw [← SocksState.ofRank_rank st, hrank, SocksState.ofRank_rank]

/-- `handle_first` on the table. -/
theorem handleFirst_eq : socksStm.handleFirst (sessionStm key.data) key = handleFirst key.data := by
  funext w
  show ((sessionStm key.data).current >>= _) w = assign key.data _ w
  cases hs : w.sessions key.data with
  | none =>
    rw [bind_of_error (current_of_freed hs), assign, hs]
  | some s =>
    rw [bind_of_ok (current_of_open hs)]
    cases hst : s.stm with
    | some st =>
      have hsame := assign_same hs hst
      have hstate : stmState s = st := by rw [stmState, hst, Option.getD_some]
      rw [assign, hs] at hsame ⊢
      dsimp only
      rw [hstate]
      exact hsame.symm
    | none =>
      show ((sessionStm key.data).setCurrent SocksState.authGreeting.place >>= fun _ =>
        socksStm.arrive SocksState.authGreeting.place key) w = _
      have hstate : stmState s = .authGreeting := by rw [stmState, hst, Option.getD_none]
      rw [setCurrent_place, arrive_place]
      rw [bind_of_ok (show assign key.data _ w = .ok ((), _) by rw [assign, hs]), assign, hs]
      dsimp only
      rw [hstate]
      rfl

/-- `jump` on the table. -/
theorem jump_eq (next : SocksState) :
    socksStm.jump (sessionStm key.data) next.rank key = jump key.data next := by
  funext w
  have hlt : next.rank < SocksState.done.rank + 1 := next.rank_lt
  have henter : socksStm.enter (sessionStm key.data) next.place key = jump key.data next := by
    show ((sessionStm key.data).setCurrent next.place >>= fun _ =>
      socksStm.arrive next.place key) = _
    rw [setCurrent_place, arrive_place]
    exact bind_pure_unit
  have hjump : socksStm.jump (sessionStm key.data) next.rank key = _ := dif_pos hlt
  rw [hjump]
  show ((sessionStm key.data).current >>= _) w = _
  cases hs : w.sessions key.data with
  | none => rw [bind_of_error (current_of_freed hs), jump, assign, hs]
  | some s =>
    rw [bind_of_ok (current_of_open hs)]
    cases hst : s.stm with
    | none =>
      show socksStm.enter (sessionStm key.data) next.place key w = _
      rw [henter]
    | some st =>
      show (if st.place = next.place then pure () else do
        socksStm.depart st.place key
        socksStm.enter (sessionStm key.data) next.place key) w = _
      split
      · next heq =>
        rw [place_injective heq] at hst
        exact (assign_same hs hst).symm
      · rw [depart_place, henter]
        rfl

omit [Inet] in
/-- After `handle_first` the session is in a state. -/
theorem exists_of_handleFirst {w' : World} (h : handleFirst sid w = .ok ((), w')) :
    ∃ s st, w'.sessions sid = some s ∧ s.stm = some st := by
  rw [handleFirst, assign] at h
  cases hs : w.sessions sid with
  | none =>
    rw [hs] at h
    cases h
  | some s =>
    rw [hs] at h
    cases h
    exact ⟨_, _, Function.update_self .., rfl⟩

/-- A hook of the table, followed by the jump it asks for. -/
theorem handler_eq (key : Key) (hook : Stm.Hook) (f : SocksState → Option (Key → SocksM SocksState))
    (hf : ∀ st, (socksStm.definition st.place).ready hook =
      (f st).map fun p key => do return (← p key).rank) :
    (do let _ ← socksStm.handler (sessionStm key.data) hook key) = (do
      handleFirst key.data
      let s ← deref key.data
      (f (stmState s)).elim (throw .abort) fun p => do
        let ret ← p key
        jump key.data ret) := by
  funext w
  rw [Stm.StateMachine.handler, handleFirst_eq, bind_assoc]
  refine bind_congr_of_ok fun _ w' hw' => ?_
  obtain ⟨s, st, hs, hst⟩ := exists_of_handleFirst hw'
  have hstate : stmState s = st := by rw [stmState, hst, Option.getD_some]
  rw [bind_assoc, bind_of_ok (current_of_open hs), hst,
    bind_of_ok (show deref key.data w' = .ok (s, w') by rw [deref, hs]), hstate, Option.map_some]
  dsimp only
  rw [hf]
  cases f st with
  | none => rfl
  | some p =>
    rw [Option.map_some, Option.elim_some]
    dsimp only
    simp only [bind_assoc, pure_bind]
    refine bind_congr_of_ok fun ret w'' _ => ?_
    rw [jump_eq]
    exact congrFun bind_pure_unit w''

end Refinement

/-- `on_read_ready` of a state. -/
def SocksState.onRead : SocksState → Key → SocksM SocksState
  | .authGreeting => socksOnReadGreeting
  | .authUserpass => socksOnReadAuth
  | .request => socksOnReadRequest
  | _ => fun key => socksStubStay key.data

/-- `on_block_ready` of a state. -/
def SocksState.onBlock : SocksState → Option (Key → SocksM SocksState)
  | .resolving => some socksOnBlockResolving
  | _ => none

theorem handlerRead_eq (key : Key) :
    (do let _ ← socksStm.handlerRead (sessionStm key.data) key) = stmHandlerRead key := by
  have h := handler_eq key .read (fun st => some st.onRead) fun st => by
    cases st <;> rfl
  refine h.trans ?_
  rw [stmHandlerRead]
  congr 1
  funext _
  congr 1
  funext s
  cases stmState s <;> rfl

theorem handlerWrite_eq (key : Key) :
    (do let _ ← socksStm.handlerWrite (sessionStm key.data) key) = stmHandlerWrite key.data := by
  have h := handler_eq key .write (fun _ => some fun key => socksStubStay key.data)
    fun st => by cases st <;> rfl
  refine h.trans ?_
  funext w
  refine bind_congr_of_ok fun _ w' hw' => ?_
  obtain ⟨s, -, hs, -⟩ := exists_of_handleFirst hw'
  rw [bind_of_ok (show deref key.data w' = .ok (s, w') by rw [deref, hs]), Option.elim_some]

theorem handlerBlock_eq (key : Key) :
    (do let _ ← socksStm.handlerBlock (sessionStm key.data) key) = stmHandlerBlock key := by
  have h := handler_eq key .block SocksState.onBlock fun st => by cases st <;> rfl
  refine h.trans ?_
  rw [stmHandlerBlock]
  congr 1
  funext _
  congr 1
  funext s
  cases stmState s <;> rfl

/-- `stm_handler_close` on the table, for a session that is open. -/
theorem handlerClose_eq {w : World} {s : SocksSession} {key : Key}
    (hs : w.sessions key.data = some s) :
    socksStm.handlerClose (sessionStm key.data) key w = .ok ((), w) := by
  rw [Stm.StateMachine.handlerClose, bind_of_ok (current_of_open hs)]
  cases s.stm with
  | none => rfl
  | some st => exact congrFun (depart_place st) w

/-- `stm_state` on the table, for a session that is open. -/
theorem state_eq {w : World} {s : SocksSession} {sid : Sid} (hs : w.sessions sid = some s) :
    socksStm.state (sessionStm sid) w = .ok ((stmState s).rank, w) := by
  rw [Stm.StateMachine.state, bind_of_ok (current_of_open hs), stmState]
  cases s.stm with
  | none => rfl
  | some st =>
    show (pure (socksStm.definition st.place).state : SocksM ℕ) w = _
    rw [Stm.StateMachine.state_definition]
    rfl

/-- **The handlers of a session are the engine of `stm.c` run on `socks_state_table`**, which
`stm_init` accepts. -/
theorem stm_handlers_refine (key : Key) :
    Stm.stmInit SocksState.authGreeting.rank socksStateTable SocksState.done.rank = some socksStm ∧
    (do let _ ← socksStm.handlerRead (sessionStm key.data) key) = stmHandlerRead key ∧
    (do let _ ← socksStm.handlerWrite (sessionStm key.data) key) = stmHandlerWrite key.data ∧
    (do let _ ← socksStm.handlerBlock (sessionStm key.data) key) = stmHandlerBlock key ∧
    ∀ w s, w.sessions key.data = some s →
      socksStm.handlerClose (sessionStm key.data) key w = .ok ((), w) ∧
      socksStm.state (sessionStm key.data) w = .ok ((stmState s).rank, w) := by
  refine ⟨?_, handlerRead_eq key, handlerWrite_eq key, handlerBlock_eq key, fun w s hs => ?_⟩
  · rw [Stm.stmInit, dif_pos ⟨ordered_socksStateTable, initial_lt_socksStateTable⟩]
    rfl
  · exact ⟨handlerClose_eq hs, state_eq hs⟩

end SocksProxy
