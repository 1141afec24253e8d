import SocksProxy.Properties.Connections
import SocksProxy.Properties.Progress
import SocksProxy.Properties.Startup
import SocksProxy.Server.Consoles

/-!
# The whole service

The proxy and the monitoring port, from the command line to the end of the loop.  In every state of
every run each entry of the selector table has its owner and each owner its entry, the counters
count, and `servers_is_empty` is true exactly when the table is empty (`service_accounted`).  Once a
signal has come nobody is let in any more, what is there can only go, and when it has gone the loop
ends with nothing left to close (`shutdown_drains`).
-/

set_option autoImplicit false

namespace SocksProxy

/-- What the rest of the properties rests on, of the proxy. -/
def World.Sound (w : World) : Prop := w.Balanced ∧ (w.Few → w.Apart)

/-- Every entry of the selector table is accounted for. -/
structure Process.Accounted (p : Process) : Prop where
  owned : p.world.Owned
  counters : p.world.CountersAgree
  tended : p.Tended p.world.foreign
  empty_iff : p.serversIsEmpty = true ↔ ∀ fd, p.world.fds fd = none

section Accounting

variable {p : Process}

/-- Nobody is registered. -/
structure Process.Bare (p : Process) : Prop where
  fds : ∀ fd, p.world.fds fd = none
  sessions : ∀ sid, p.world.sessions sid = none
  consoles : ∀ id, p.consoles id = none

theorem serversIsEmpty_iff : p.serversIsEmpty = true ↔
    (p.socksListenFd = none ∧ p.world.activeSessions = 0) ∧
      p.monitorListenFd = none ∧ p.activeConsoles = 0 := by
  simp [Process.serversIsEmpty, Process.socksServerIsEmpty, Process.monitorServerIsEmpty]

theorem World.Balanced.activeSessions_eq_zero {w : World} (h : w.Balanced) :
    w.activeSessions = 0 ↔ ∀ sid, w.sessions sid = none := by
  rw [h.clients, World.opens, List.countP_eq_zero]
  constructor
  · intro hno sid
    by_contra hs
    obtain ⟨s, hs⟩ := Option.ne_none_iff_exists'.1 hs
    have hid := ids_of_open hs
    have := hno sid (List.mem_range.2 (h.lt hid))
    rw [hid] at this
    exact this rfl
  · intro hno sid _
    rw [World.ids, hno sid]
    exact Bool.false_ne_true

theorem Process.Tended.activeConsoles_eq_zero {T : Fd → Option Item} (h : p.Tended T) :
    p.activeConsoles = 0 ↔ ∀ id, p.consoles id = none := by
  rw [h.active, List.countP_eq_zero]
  constructor
  · intro hno id
    by_contra hs
    obtain ⟨s, hs⟩ := Option.ne_none_iff_exists'.1 hs
    have := hno id (List.mem_range.2 (h.fresh id s hs))
    rw [hs] at this
    exact this rfl
  · intro hno id _
    rw [hno id]
    exact Bool.false_ne_true

/-- **The servers are empty exactly when nothing is registered.** -/
theorem Process.Good.serversIsEmpty_iff_bare (h : p.Good World.Sound) :
    p.serversIsEmpty = true ↔ p.Bare := by
  have hsound := h.kept.1
  rw [serversIsEmpty_iff, hsound.activeSessions_eq_zero, h.tended.activeConsoles_eq_zero]
  constructor
  · rintro ⟨⟨hsocks, hsessions⟩, hmonitor, hconsoles⟩
    refine ⟨fun fd => ?_, hsessions, hconsoles⟩
    by_contra hne
    obtain ⟨⟨handler, i, d⟩, hitem⟩ := Option.ne_none_iff_exists'.1 hne
    cases handler with
    | client =>
      obtain ⟨s, hs, -⟩ := h.inv.owned.client fd i d hitem
      rw [hsessions d] at hs
      cases hs
    | origin =>
      obtain ⟨s, hs, -⟩ := h.inv.owned.origin fd i d hitem
      rw [hsessions d] at hs
      cases hs
    | passive =>
      have := h.tended.passive fd i d (foreign_eq_some hitem rfl)
      rw [hsocks] at this
      cases this
    | monitor =>
      cases d with
      | zero =>
        have := h.tended.monitor fd i (foreign_eq_some hitem rfl)
        rw [hmonitor] at this
        cases this
      | succ id =>
        obtain ⟨s, hs⟩ := h.tended.console fd i id (foreign_eq_some hitem rfl)
        rw [hconsoles id] at hs
        cases hs
  · intro hbare
    have hforeign : ∀ fd, p.world.foreign fd = none := by
      intro fd
      rw [World.foreign, hbare.fds fd]
      rfl
    refine ⟨⟨?_, hbare.sessions⟩, ?_, hbare.consoles⟩
    · by_contra hne
      obtain ⟨fd, hfd⟩ := Option.ne_none_iff_exists'.1 hne
      have := h.tended.listens fd hfd
      rw [hforeign fd] at this
      cases this
    · by_contra hne
      obtain ⟨fd, hfd⟩ := Option.ne_none_iff_exists'.1 hne
      have := h.tended.monitorListens fd hfd
      rw [hforeign fd] at this
      cases this

theorem Process.Good.accounted (h : p.Good World.Sound) : p.Accounted where
  owned := h.inv.owned
  counters := h.kept.1.countersAgree h.kept.2
  tended := h.tended
  empty_iff := by
    refine h.serversIsEmpty_iff_bare.trans ⟨fun hbare => hbare.fds, fun hfds => ⟨hfds, ?_, ?_⟩⟩
    · intro sid
      by_contra hne
      obtain ⟨s, hs⟩ := Option.ne_none_iff_exists'.1 hne
      obtain ⟨i, hi⟩ := h.inv.client_item hs
      rw [hfds] at hi
      cases hi
    · intro id
      by_contra hne
      obtain ⟨s, hs⟩ := Option.ne_none_iff_exists'.1 hne
      obtain ⟨fd, hfd⟩ := h.tended.socket id s hs
      rw [World.foreign, hfds] at hfd
      cases hfd

end Accounting

/-! ## From the command line -/

section Service

variable [Inet] {argv : List Bytes} {env : StartEnv} {socksPort monitorPort : ℕ} {p p' : Process}

theorem lasting_sound : Lasting World.Sound :=
  (Lasting.of_steady tallied_balanced.steady).and (Lasting.of_steady tallied_apart.steady)

/-- The server comes up as `Process.boot`, with two sockets. -/
theorem boot_of_startup (h : startup argv env = .serving socksPort monitorPort p) :
    ∃ c socksFd monitorFd, CommandLine.Of argv c ∧ socksFd ≠ monitorFd ∧
      p = Process.boot socksFd monitorFd (c.accounts.map FlagUser.op) := by
  obtain ⟨c, socksFd, monitorFd, hof, hg, -, -, hp⟩ := of_serving h
  exact ⟨c, socksFd, monitorFd, hof, hg.apart, hp⟩

/-- What is kept beside the rest of the process holds in every state of every run of the server. -/
theorem good_of_startup {I : World → Prop} (hI : Lasting I)
    (h0 : ∀ socksFd monitorFd, I (World.boot socksFd monitorFd))
    (h : startup argv env = .serving socksPort monitorPort p) (hr : Reaches processStep p p') :
    p'.Good I := by
  obtain ⟨c, socksFd, monitorFd, -, hne, rfl⟩ := boot_of_startup h
  exact .reaches hI hne (h0 socksFd monitorFd) hr

theorem sound_of_startup (h : startup argv env = .serving socksPort monitorPort p)
    (hr : Reaches processStep p p') : p'.Good World.Sound :=
  good_of_startup lasting_sound
    (fun _ _ => ⟨reaches_balanced (.refl _), reaches_apart (.refl _)⟩) h hr

/-- **Every entry of the selector table is accounted for**, in every state of every run of the
server. -/
theorem service_accounted (h : startup argv env = .serving socksPort monitorPort p)
    (es : List ProcessEvent) : Visits processStep Process.Accounted p es :=
  visits_of_reaches (fun _ hr => (sound_of_startup h hr).accounted) es

end Service

/-! ## Shutting down -/

/-- From `p` on nobody was let in, and what was there has at most gone. -/
structure Process.Drains (p p' : Process) : Prop where
  socksListen : p'.socksListenFd = none
  monitorListen : p'.monitorListenFd = none
  nextSid : p'.world.nextSid = p.world.nextSid
  nextConsole : p'.nextConsole = p.nextConsole
  sessions : ∀ sid, p.world.sessions sid = none → p'.world.sessions sid = none
  consoles : ∀ id, p.consoles id = none → p'.consoles id = none

section Draining

variable [Inet] {p p' p'' : Process}

omit [Inet] in
theorem Process.Drains.refl (hsocks : p.socksListenFd = none)
    (hmonitor : p.monitorListenFd = none) :
    p.Drains p :=
  ⟨hsocks, hmonitor, rfl, rfl, fun _ h => h, fun _ h => h⟩

/-- **No move lets anybody in** once the listening sockets are closed. -/
theorem Process.Drains.move (h : p.Drains p') (hgood : p'.Good World.Sound)
    (hmove : ProcessMove p' p'') :
    p.Drains p'' := by
  cases hmove with
  | @proxy e w ours step_eq =>
    have hdeaf : Deaf p'.world.foreign := by
      rintro fd ⟨handler, i, d⟩ hitem rfl
      have := hgood.tended.passive fd i d hitem
      rw [h.socksListen] at this
      cases this
    have hnext : w.nextSid = p'.world.nextSid :=
      (Aside.step hgood.inv.aside ours step_eq).nextSid hdeaf
    refine ⟨h.socksListen, h.monitorListen, hnext.trans h.nextSid, h.nextConsole,
      fun sid hnone => ?_,
      h.consoles⟩
    have hnone' := h.sessions sid hnone
    by_cases hlt : sid < p'.world.nextSid
    · have hsteps := ((step_acts hgood.inv step_eq).2 sid).steps
      exact (hsteps.advances.ended (decide_eq_true hlt) hnone').1
    · have hfresh := (lasting_sound.step hgood.kept step_eq).1.fresh sid
        (hnext ▸ Nat.le_of_not_lt hlt)
      exact Option.map_eq_none_iff.1 hfresh
  | answer env =>
    exact ⟨h.socksListen, h.monitorListen, h.nextSid, h.nextConsole, h.sessions, h.consoles⟩
  | @serve key i s s' is sess =>
    refine ⟨h.socksListen, h.monitorListen, h.nextSid, h.nextConsole, h.sessions,
      fun id hnone => ?_⟩
    refine (Function.update_of_ne ?_ ..).trans (h.consoles id hnone)
    rintro rfl
    rw [h.consoles _ hnone] at sess
    cases sess
  | connect free listens =>
    have := hgood.tended.monitor _ _ (foreign_eq_some listens rfl)
    rw [h.monitorListen] at this
    cases this
  | stopSocks listens =>
    rw [h.socksListen] at listens
    cases listens
  | stopMonitor listens =>
    rw [h.monitorListen] at listens
    cases listens

theorem Process.Drains.moves (h : p.Drains p') (hgood : p'.Good World.Sound)
    (hmoves : ProcessMoves p' p'') :
    p.Drains p'' := by
  have hboth := keeps_of_moves (I := fun q => q.Good World.Sound ∧ p.Drains q)
    (fun hq hmove => ⟨hq.1.move lasting_sound hmove, hq.2.move hq.1 hmove⟩) hmoves ⟨hgood, h⟩
  exact hboth.2

omit [Inet] in
theorem socksListenFd_withoutSocks (p : Process) : p.withoutSocks.socksListenFd = none := by
  rw [Process.withoutSocks]
  cases hfd : p.socksListenFd with
  | none => exact hfd
  | some fd => rfl

omit [Inet] in
theorem withoutMonitor_silent (p : Process) : p.withoutMonitor.monitorListenFd = none ∧
    p.withoutMonitor.socksListenFd = p.socksListenFd := by
  rw [Process.withoutMonitor]
  cases hfd : p.monitorListenFd with
  | none => exact ⟨hfd, rfl⟩
  | some fd => exact ⟨rfl, rfl⟩

/-- After the stop nobody listens. -/
theorem drains_of_stop (h : processStep p .stop = .ok p') : p'.Drains p' := by
  have heq : processStep p .stop = .ok p.withoutSocks.withoutMonitor := rfl
  rw [heq] at h
  cases h
  obtain ⟨hmonitor, hsocks⟩ := withoutMonitor_silent p.withoutSocks
  exact .refl (hsocks.trans (socksListenFd_withoutSocks p)) hmonitor

end Draining

/-! ## The loop of `main` -/

/-- The process of a state of the loop. -/
def LoopState.process : LoopState → Process
  | .running _ p => p
  | .finished p => p
  | .broken p => p

/-- What is promised of the loop. -/
structure LoopState.Winds [Inet] (s : LoopState) : Prop where
  /-- A signal is not lost. -/
  heard : ∀ t s', t.shutdownRequested = true → loopStep s t = .ok s' → ∀ p, s' ≠ .running false p
  /-- Once it has been seen, nobody is let in any more. -/
  drains : ∀ p, s = .running true p → ∀ ts s', run loopStep s ts = .ok s' → p.Drains s'.process
  /-- When the last one has gone, the loop ends. -/
  ends : ∀ p t, s = .running true p → (∀ sid, p.world.sessions sid = none) →
    (∀ id, p.consoles id = none) → loopStep s t = .ok (.finished p)
  /-- Nothing is left then for `selector_destroy` to close. -/
  bare : ∀ p, s = .finished p → p.Bare

section Loop

variable [Inet] {argv : List Bytes} {env : StartEnv} {socksPort monitorPort : ℕ} {p p' : Process}
  {s s' : LoopState} {t : LoopTurn}

/-- A turn of the loop is made of events of the process. -/
theorem reaches_of_loopStep (h : loopStep s t = .ok s') :
    Reaches processStep s.process s'.process := by
  cases s with
  | finished p =>
    cases h
    exact .refl _
  | broken p =>
    cases h
    exact .refl _
  | running stop p =>
    rw [loopStep] at h
    split at h
    · cases h
      exact .refl _
    · dsimp only at h
      split at h
      · cases h
      · next p' hrun =>
        split at h
        · cases h
          exact ⟨_, hrun⟩
        · cases h
          exact ⟨_, hrun⟩

/-- What holds of the loop between two turns. -/
structure LoopState.Wound (s : LoopState) : Prop where
  good : s.process.Good World.Sound
  silent : ∀ p, s = .running true p → p.Drains p
  empty : ∀ p, s = .finished p → p.serversIsEmpty = true

theorem good_of_reaches (hgood : p.Good World.Sound) (hr : Reaches processStep p p') :
    p'.Good World.Sound :=
  keeps_of_moves (fun hp hmove => hp.move lasting_sound hmove) (moves_of_reaches hr) hgood

/-- In a turn that sees the signal the listening sockets are closed first. -/
theorem drains_of_turn (hgood : p.Good World.Sound)
    (hrun : run processStep p (t.program true) = .ok p') : p'.Drains p' := by
  rw [LoopTurn.program, if_pos rfl, List.append_assoc, List.singleton_append] at hrun
  obtain ⟨q, hstop, hrest⟩ := run_cons_ok hrun
  have hq := drains_of_stop hstop
  have hqgood := good_of_reaches hgood (.tail (.refl _) hstop)
  have hdrains := hq.moves hqgood (moves_of_reaches ⟨_, hrest⟩)
  exact .refl hdrains.socksListen hdrains.monitorListen

/-- **Every turn keeps what holds of the loop.** -/
theorem LoopState.Wound.step (h : s.Wound) (hstep : loopStep s t = .ok s') : s'.Wound := by
  have hgood := good_of_reaches h.good (reaches_of_loopStep hstep)
  refine ⟨hgood, ?_, ?_⟩
  · rintro q rfl
    cases s with
    | finished p => cases hstep
    | broken p => cases hstep
    | running stop p =>
      rw [loopStep] at hstep
      split at hstep
      · cases hstep
      · dsimp only at hstep
        split at hstep
        · cases hstep
        · next p' hrun =>
          split at hstep
          · cases hstep
          · obtain ⟨hstop, rfl⟩ : (stop || t.shutdownRequested) = true ∧ p' = q := by
              simpa using hstep
            rw [hstop] at hrun
            exact drains_of_turn h.good hrun
  · rintro q rfl
    cases s with
    | finished p =>
      cases hstep
      exact h.empty _ rfl
    | broken p => cases hstep
    | running stop p =>
      rw [loopStep] at hstep
      split at hstep
      · next hempty =>
        cases hstep
        exact hempty
      · dsimp only at hstep
        split at hstep
        · cases hstep
        · split at hstep <;> cases hstep

theorem LoopState.Wound.winds (h : s.Wound) : s.Winds where
  heard := by
    rintro t s' hsignal hstep q rfl
    cases s with
    | finished p => cases hstep
    | broken p => cases hstep
    | running stop p =>
      rw [loopStep] at hstep
      split at hstep
      · cases hstep
      · dsimp only at hstep
        split at hstep
        · cases hstep
        · split at hstep
          · cases hstep
          · rw [hsignal, Bool.or_true] at hstep
            cases hstep
  drains := by
    rintro p rfl ts s' hrun
    have hboth : s'.Wound ∧ p.Drains s'.process := by
      refine Reaches.inv (I := fun s' : LoopState => s'.Wound ∧ p.Drains s'.process) ⟨ts, hrun⟩
        ⟨h, h.silent p rfl⟩ fun s₁ t s₂ hs hstep => ⟨hs.1.step hstep, ?_⟩
      exact hs.2.moves hs.1.good (moves_of_reaches (reaches_of_loopStep hstep))
    exact hboth.2
  ends := by
    rintro p t rfl hsessions hconsoles
    have hsilent := h.silent p rfl
    refine if_pos (serversIsEmpty_iff.2 ⟨⟨hsilent.socksListen, ?_⟩, hsilent.monitorListen, ?_⟩)
    · exact h.good.kept.1.activeSessions_eq_zero.2 hsessions
    · exact h.good.tended.activeConsoles_eq_zero.2 hconsoles
  bare := by
    rintro p rfl
    exact h.good.serversIsEmpty_iff_bare.1 (h.empty p rfl)

/-- **A signal drains the server**: it is not lost, nobody is let in after it, and when the last
connection has gone the loop ends with nothing left to close. -/
theorem shutdown_drains (h : startup argv env = .serving socksPort monitorPort p)
    (ts : List LoopTurn) : Visits loopStep LoopState.Winds (.running false p) ts := by
  refine visits_of_reaches (fun s hr => ?_) ts
  have hwound : s.Wound := by
    refine hr.inv ⟨sound_of_startup h (.refl _), ?_, ?_⟩ fun _ _ _ hs hstep => hs.step hstep
    · rintro q heq
      cases heq
    · rintro q heq
      cases heq
  exact hwound.winds

end Loop

/-! ## One server -/

section Small

attribute [local instance] InetText.inet

/-- A server that is told to stop. -/
theorem service_accounted_small : Visits processStep Process.Accounted
    (Process.boot 3 4 (smallCommandLine.accounts.map FlagUser.op)) [.tick 1, .stop] :=
  service_accounted startup_small [.tick 1, .stop]

/-- A signal comes before the second turn. -/
theorem shutdown_drains_small : Visits loopStep LoopState.Winds
    (.running false (Process.boot 3 4 (smallCommandLine.accounts.map FlagUser.op)))
    [⟨false, [.tick 1], by decide, false, {}⟩, ⟨true, [], by decide, false, {}⟩] :=
  shutdown_drains startup_small _

end Small

end SocksProxy
