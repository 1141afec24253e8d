import Mathlib.Logic.Relation
import SocksProxy.Server.Process
import SocksProxy.Socks.Foreign

/-!
# What the process can do

Every event of the process is a sequence of moves: a step of the proxy, a callback of a connection
of an administrator, a connection accepted, a listening socket closed.  `moves_of_step` says so, and
what is to be shown of all runs of the process is shown of one `ProcessMove`.
-/

set_option autoImplicit false

namespace SocksProxy

/-! ## ProcessMoves -/

section ProcessMoves

variable [Inet]

/-- A callback of a connection, with what it hands to the commands and the session it leaves. -/
inductive ConsoleCallback (s : MonitorSession) : List MonitorInput → MonitorSession → Prop where
  | read (ans : ReadAns) (wans : WriteAns) :
      ConsoleCallback s (MonitorEvent.readable ans wans).inputs (s.monitorClientRead ans wans)
  | write (wans : WriteAns) : ConsoleCallback s [] (s.monitorClientWrite wans)

omit [Inet] in
/-- A system call has been answered. -/
def Process.answered (p : Process) (env : Env) : Process :=
  { p with world := { p.world with env := env } }

omit [Inet] in
/-- An administrator has connected. -/
def Process.connected (p : Process) (fd : Fd) : Process :=
  let session := MonitorSession.init p.world.store
  let item := consoleItem session.monitorClientInterest p.nextConsole
  { p with
    world := { p.world with fds := Function.update p.world.fds fd (some item) }
    consoles := Function.update p.consoles p.nextConsole (some session)
    nextConsole := p.nextConsole + 1
    activeConsoles := p.activeConsoles + 1 }

/-- What the process can do at once. -/
inductive ProcessMove (p : Process) : Process → Prop where
  /-- An event of the proxy. -/
  | proxy {e : Event} {w : World} (ours : e.ofProxy = true) (step_eq : step p.world e = .ok w) :
      ProcessMove p { p with world := w }
  /-- The system answers. -/
  | answer (env : Env) : ProcessMove p (p.answered env)
  /-- A callback of a connection. -/
  | serve {key : Key} {i : FdInterest} {s s' : MonitorSession} {is : List MonitorInput}
      (sess : p.consoles key.data = some s)
      (item : p.world.fds key.fd = some (consoleItem i key.data))
      (callback : ConsoleCallback (s.attach p.world) is s') :
      ProcessMove p (p.left key (s.attach p.world) s' is)
  /-- The monitoring port listens, and an administrator connects. -/
  | connect {fd listenFd : Fd} {i : FdInterest} (free : p.world.fds fd = none)
      (listens : p.world.fds listenFd = some ⟨.monitor, i, 0⟩) : ProcessMove p (p.connected fd)
  /-- `socks_server_stop_accepting`. -/
  | stopSocks {fd : Fd} (listens : p.socksListenFd = some fd) :
      ProcessMove p { p.unlisten fd with socksListenFd := none }
  /-- `monitor_server_stop_accepting`. -/
  | stopMonitor {fd : Fd} (listens : p.monitorListenFd = some fd) :
      ProcessMove p { p.unlisten fd with monitorListenFd := none }

/-- What the process can do. -/
def ProcessMoves : Process → Process → Prop := Relation.ReflTransGen ProcessMove

end ProcessMoves

/-! ## Every program of the process -/

section Programs

variable [Inet] {p₀ p p' : Process} {key : Key} {fd : Fd}

omit [Inet] in
theorem sat_onWorld {α : Type} {prog : SocksM α} {Q : α → Process → Prop} {E : Fault → Prop} :
    Sat (onWorld prog) p Q E ↔ Sat prog p.world (fun a w => Q a { p with world := w }) E := by
  rw [Sat, Sat, onWorld]
  cases prog p.world with
  | ok r => exact Iff.rfl
  | error f => exact Iff.rfl

/-- A system call. -/
theorem moves_answer {α : Type} {prog : SocksM α}
    (hprog : ∀ w : World, ∃ a env, prog w = .ok (a, { w with env := env })) :
    Maintains (ProcessMoves p₀) (onWorld prog) := by
  intro p h
  obtain ⟨a, env, heq⟩ := hprog p.world
  rw [sat_onWorld, sat_of_ok heq]
  exact h.tail (.answer env)

/-- An event of the proxy. -/
theorem moves_proxy {e : Event} (he : e.ofProxy = true) :
    Maintains (ProcessMoves p₀) (onWorld e.program) := by
  intro p h
  rw [sat_onWorld, Sat]
  cases hp : e.program p.world with
  | error f => trivial
  | ok r =>
    obtain ⟨⟨⟩, w⟩ := r
    exact h.tail (.proxy he (by rw [step, hp]))

theorem moves_monitorClientRead (h : ProcessMoves p₀ p) {i : FdInterest}
    (hfd : p.world.fds key.fd = some (consoleItem i key.data)) :
    Sat (monitorClientRead key) p (fun _ p' => ProcessMoves p₀ p') fun _ => True := by
  rw [monitorClientRead, sat_bind, sat_onWorld,
    sat_of_ok (show nextRead p.world = .ok (_, _) from rfl), sat_bind, sat_onWorld,
    sat_of_ok (show nextWrite _ = .ok (_, _) from rfl), sat_bind]
  cases hs : p.consoles key.data with
  | none => exact (sat_of_error (show attached key.data _ = .error .useAfterFree by
      rw [attached]; dsimp only; rw [hs])).2 trivial
  | some s =>
    rw [sat_of_ok (show attached key.data _ = .ok (_, _) by rw [attached]; dsimp only; rw [hs]),
      leave, sat_modify]
    refine ((h.tail (.answer _)).tail (.answer _)).tail (.serve (i := i) ?_ ?_ (.read _ _))
    · exact hs
    · exact hfd

theorem moves_monitorClientWrite (h : ProcessMoves p₀ p) {i : FdInterest}
    (hfd : p.world.fds key.fd = some (consoleItem i key.data)) :
    Sat (monitorClientWrite key) p (fun _ p' => ProcessMoves p₀ p') fun _ => True := by
  rw [monitorClientWrite, sat_bind, sat_onWorld,
    sat_of_ok (show nextWrite p.world = .ok (_, _) from rfl), sat_bind]
  cases hs : p.consoles key.data with
  | none => exact (sat_of_error (show attached key.data _ = .error .useAfterFree by
      rw [attached]; dsimp only; rw [hs])).2 trivial
  | some s =>
    rw [sat_of_ok (show attached key.data _ = .ok (_, _) by rw [attached]; dsimp only; rw [hs]),
      leave, sat_modify]
    refine (h.tail (.answer _)).tail (.serve (i := i) ?_ ?_ (.write _))
    · exact hs
    · exact hfd

/-! ## Accepting -/

omit [Inet] in
/-- `selector_register` fills an entry that was free, or changes nothing. -/
theorem sat_selectorRegister {w : World} {item : Item} {E : Fault → Prop} :
    Sat (selectorRegister fd item) w (fun b w' => ∃ env,
      b = false ∧ w' = { w with env := env } ∨ b = true ∧ w.fds fd = none ∧
        w' = { w with env := env, fds := Function.update w.fds fd (some item) }) E := by
  rw [selectorRegister, sat_bind, sat_get, sat_bind, sat_set]
  split
  · exact ⟨_, .inl ⟨rfl, rfl⟩⟩
  split
  · exact ⟨_, .inl ⟨rfl, rfl⟩⟩
  split
  · exact ⟨_, .inl ⟨rfl, rfl⟩⟩
  · next hfree =>
    exact ⟨_, .inr ⟨rfl, by simpa using hfree, rfl⟩⟩

/-- The monitoring port listens. -/
def Process.Listens (p : Process) : Prop := ∃ fd i, p.world.fds fd = some ⟨.monitor, i, 0⟩

theorem moves_monitorAcceptOne :
    Maintains (fun p => ProcessMoves p₀ p ∧ p.Listens) (monitorAcceptOne fd) := by
  have hanswer : ∀ {α : Type} {prog : SocksM α},
      (∀ w : World, ∃ a env, prog w = .ok (a, { w with env := env })) →
      Maintains (fun p => ProcessMoves p₀ p ∧ p.Listens) (onWorld prog) := by
    intro α prog hprog p h
    obtain ⟨a, env, heq⟩ := hprog p.world
    rw [sat_onWorld, sat_of_ok heq]
    exact ⟨h.1.tail (.answer env), h.2⟩
  refine .bind (hanswer fun w => ⟨_, _, rfl⟩) fun _ => .ite ?_ (.pure _)
  refine .bind (hanswer fun w => ⟨_, _, rfl⟩) fun _ => .ite ?_ (.pure _)
  refine .look_bind fun p h => ?_
  rw [sat_bind, sat_onWorld]
  refine sat_selectorRegister.mono ?_ fun _ h => h
  rintro b w' ⟨env, ⟨rfl, rfl⟩ | ⟨rfl, hfree, rfl⟩⟩
  · exact ⟨h.1.tail (.answer env), h.2⟩
  · obtain ⟨hmoves, listenFd, i, hlisten⟩ := h
    rw [if_pos rfl, sat_modify]
    refine ⟨(hmoves.tail (.answer env)).tail (.connect hfree hlisten), listenFd, i, ?_⟩
    refine (Function.update_of_ne ?_ ..).trans hlisten
    rintro rfl
    rw [hfree] at hlisten
    cases hlisten

theorem moves_monitorAcceptLoop (n : ℕ) :
    Maintains (fun p => ProcessMoves p₀ p ∧ p.Listens) (monitorAcceptLoop n) := by
  induction n with
  | zero => exact .pure _
  | succ n ih =>
    refine .bind (fun p h => ?_) fun fd? => ?_
    · rw [sat_onWorld, sat_of_ok (show sysAccept p.world = .ok (_, _) from rfl)]
      exact ⟨h.1.tail (.answer _), h.2⟩
    · cases fd? with
      | none => exact .pure _
      | some fd => exact .bind moves_monitorAcceptOne fun _ => ih

/-! ## Shutting down -/

theorem moves_socksServerStopAccepting : Maintains (ProcessMoves p₀) socksServerStopAccepting := by
  refine .update fun p h => ?_
  rw [Process.withoutSocks]
  cases hfd : p.socksListenFd with
  | none => exact h
  | some fd => exact h.tail (.stopSocks hfd)

theorem moves_monitorServerStopAccepting :
    Maintains (ProcessMoves p₀) monitorServerStopAccepting := by
  refine .update fun p h => ?_
  rw [Process.withoutMonitor]
  cases hfd : p.monitorListenFd with
  | none => exact h
  | some fd => exact h.tail (.stopMonitor hfd)

/-! ## Events -/

/-- A ready descriptor. -/
theorem moves_onMonitor {env : Env} {wanted : FdInterest → Bool} {callback : ℕ → ProcessM Unit}
    {otherwise : Event} (he : otherwise.ofProxy = true)
    (hcallback : ∀ (p : Process) i d, ProcessMoves p₀ p → p.world.fds fd = some ⟨.monitor, i, d⟩ →
      Sat (callback d) p (fun _ p' => ProcessMoves p₀ p') fun _ => True) :
    Maintains (ProcessMoves p₀) (onMonitor fd env wanted callback otherwise) := by
  refine .look_bind fun p h => ?_
  split
  · next i d hfd =>
    split
    · rw [sat_bind, sat_modify]
      exact hcallback _ i d (h.tail (.answer env)) hfd
    · exact h
  · exact moves_proxy he p h

theorem moves_event (e : ProcessEvent) : Maintains (ProcessMoves p₀) e.program := by
  have hsucc : ∀ {p : Process} {fd : Fd} {i : FdInterest} {d : ℕ},
      p.world.fds fd = some ⟨.monitor, i, d⟩ → d ≠ 0 →
      p.world.fds fd = some (consoleItem i (d - 1)) := by
    intro p fd i d hfd hd
    rw [hfd, consoleItem, Nat.sub_add_cancel (Nat.one_le_iff_ne_zero.2 hd)]
  cases e with
  | readable fd env =>
    refine moves_onMonitor rfl fun p i d h hfd => ?_
    split
    · next hd =>
      refine (Maintains.bind .look (fun _ => moves_monitorAcceptLoop _) p
        ⟨h, fd, i, hd ▸ hfd⟩).mono (fun _ _ h => h.1) fun _ h => h
    · next hd => exact moves_monitorClientRead h (hsucc hfd hd)
  | writable fd env =>
    refine moves_onMonitor rfl fun p i d h hfd => ?_
    split
    · exact h
    · next hd => exact moves_monitorClientWrite h (hsucc hfd hd)
  | resolved i rc result posted => exact moves_proxy (e := .resolved i rc result posted) rfl
  | notifications env => exact moves_proxy (e := .notifications env) rfl
  | expire env => exact moves_proxy (e := .expire env) rfl
  | tick n => exact moves_proxy (e := .tick n) rfl
  | stop => exact .bind moves_socksServerStopAccepting fun _ => moves_monitorServerStopAccepting

/-- **Every step of the process is made of moves.** -/
theorem moves_of_step {e : ProcessEvent} (h : processStep p e = .ok p') : ProcessMoves p p' := by
  have hsat := moves_event e p .refl
  rw [processStep] at h
  rw [Sat] at hsat
  cases hp : e.program p with
  | error f =>
    rw [hp] at h
    cases h
  | ok r =>
    rw [hp] at h hsat
    cases h
    exact hsat

/-- What every move keeps. -/
theorem keeps_of_moves {I : Process → Prop} (hI : ∀ {p p'}, I p → ProcessMove p p' → I p')
    (h : ProcessMoves p p') (hp : I p) : I p' := by
  induction h with
  | refl => exact hp
  | tail _ hmove ih => exact hI ih hmove

theorem moves_of_reaches (h : Reaches processStep p p') : ProcessMoves p p' :=
  h.inv .refl fun _ _ _ hm hstep => hm.trans (moves_of_step hstep)

end Programs

end SocksProxy
