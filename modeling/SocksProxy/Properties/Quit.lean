import SocksProxy.Shared.InetText
import SocksProxy.Monitor.Server

/-!
# After `QUIT`

`QUIT` only raises a flag.  The rest of the chunk that brought it still goes to the commands, and so
does everything that is read before a flush has emptied `wb`; each of those lines is executed and
answered.  When the reads behind a `QUIT` bring nothing but blank lines, it is the last command of
the session.
-/

set_option autoImplicit false

namespace SocksProxy

/-- The input completes a line `QUIT` of an authenticated session. -/
def Console.Quits (c : Console) (i : MonitorInput) : Prop :=
  c.session.state = .authenticated ∧
    ∃ bs, (frame c.session.line i).2 = .line bs ∧ (splitLine bs).cmd = ascii "QUIT"

/-- The store, when only others change it. -/
def MonitorEvent.others (st : MonitorStore) (es : List MonitorEvent) : MonitorStore :=
  es.foldl (fun st e => match e with | .other st' => st' | _ => st) st

section

variable [Inet]

/-- Behind a `QUIT` a read brings nothing but blank lines. -/
def QuietAfterQuit (s : MonitorSession) (e : MonitorEvent) : Prop :=
  s.registered = true → s.console.core.QuitsLast e.inputs

instance (s : MonitorSession) (e : MonitorEvent) : Decidable (QuietAfterQuit s e) :=
  inferInstanceAs (Decidable (_ → _))

theorem Console.Quits.close {c : Console} {i : MonitorInput} (h : c.Quits i) :
    (c.core.input i).quit = true := by
  obtain ⟨hs, bs, hf, hcmd⟩ := h
  have hne (t : String) (ht : ascii "QUIT" ≠ ascii t) : ¬ (splitLine bs).cmd = ascii t := by
    rw [hcmd]
    exact ht
  have hroute : c.core.idle.route (splitLine bs) = c.core.idle.quits := by
    rw [Reply.route, if_neg (hne _ (by decide)), if_neg (hne _ (by decide)),
      if_neg (hne _ (by decide)), if_neg (hne _ (by decide)),
      if_neg (hne _ (by decide)), if_neg (hne _ (by decide)),
      if_neg (hne _ (by decide)), if_neg (hne _ (by decide)),
      if_neg (hne _ (by decide)), if_neg (hne _ (by decide)),
      if_neg (hne _ (by decide)), if_neg (hne _ (by decide)), if_pos hcmd]
  have hanswer : c.core.answer i = c.core.idle.quits.tell ".\n" := by
    rw [Core.answer, show (frame c.core.line i).2 = .line bs from hf, Reply.framed, Reply.line,
      if_neg (by rw [hcmd]; decide), Reply.command,
      show c.core.idle.state = .authenticated from hs]
    dsimp only
    rw [if_neg (hne _ (by decide)), hroute]
  rw [Core.input, hanswer]
  rfl

variable {s : MonitorSession}

/-- An event of a session that has quit. -/
structure Silent (s s' : MonitorSession) (store : MonitorStore) : Prop where
  said : s'.said = s.said
  quit : s'.console.core.quit = true
  store : s'.console.store = store

theorem silent_step (h : s.Ready) (hquit : s.console.core.quit = true) {e : MonitorEvent}
    (hq : QuietAfterQuit s e) :
    Silent s (monitorStep s e) (MonitorEvent.others s.console.store [e]) := by
  by_cases hother : ∃ st, e = .other st
  · obtain ⟨st, rfl⟩ := hother
    exact ⟨rfl, hquit, rfl⟩
  · have hne : ∀ st, e ≠ .other st := fun st he => hother ⟨st, he⟩
    have hstore : MonitorEvent.others s.console.store [e] = s.console.store := by
      cases e with
      | other st => exact absurd rfl (hne st)
      | readable ans wans => rfl
      | writable wans => rfl
    rw [hstore]
    cases hreg : s.registered with
    | false =>
      rw [MonitorSession.monitorStep_of_gone hreg hne]
      exact ⟨rfl, hquit, rfl⟩
    | true =>
      have hserved := MonitorSession.served_step h hreg hne
      obtain ⟨hrun, hout⟩ := s.console.core.run_of_blank (hq hreg [] e.inputs rfl hquit)
      refine ⟨?_, ?_, ?_⟩
      · rw [hserved.said, Console.inputs_wb, hout]
        rfl
      · rw [hserved.core, hrun]
        exact hquit
      · have := congrArg Core.store hserved.core
        rw [hrun] at this
        exact this

theorem silent_runs (h : s.Ready) (hquit : s.console.core.quit = true) {es : List MonitorEvent}
    (hq : Along monitorMachine QuietAfterQuit s es) :
    Silent s (s.runs es) (MonitorEvent.others s.console.store es) := by
  induction es generalizing s with
  | nil => exact ⟨rfl, hquit, rfl⟩
  | cons e es ih =>
    have h1 := silent_step h hquit hq.1
    have h2 := ih (h.step e) h1.quit (hq.2 _ rfl)
    refine ⟨h2.said.trans h1.said, h2.quit, h2.store.trans ?_⟩
    rw [h1.store]
    rfl

/-- The callback in which a `QUIT` line is completed. -/
theorem silent_quits (h : s.Ready) (hreg : s.registered = true) {e : MonitorEvent}
    (hq : QuietAfterQuit s e) {p q : List MonitorInput} {i : MonitorInput}
    (hinputs : e.inputs = p ++ i :: q) (hquits : (s.console.inputs p).Quits i) :
    (monitorStep s e).said = s.sent ++ (s.console.inputs (p ++ [i])).session.wb.pending ∧
      (monitorStep s e).console.core.quit = true ∧
      (monitorStep s e).console.store = (s.console.inputs (p ++ [i])).store := by
  have hne : ∀ st, e ≠ .other st := by
    rintro st rfl
    cases p <;> cases hinputs
  have hserved := MonitorSession.served_step h hreg hne
  have hsplit : e.inputs = (p ++ [i]) ++ q := by rw [hinputs, List.append_assoc]; rfl
  have hquit : (s.console.core.run (p ++ [i])).quit = true := by
    rw [Core.run_append, ← Console.inputs_core]
    exact hquits.close
  have hblank := hq hreg (p ++ [i]) q hsplit hquit
  rw [← Core.line_run] at hblank
  obtain ⟨hrun, hout⟩ := (s.console.core.run (p ++ [i])).run_of_blank hblank
  have hcore : (monitorStep s e).console.core
      = { s.console.core.run (p ++ [i]) with
          line := gather (s.console.core.run (p ++ [i])).line q } := by
    rw [hserved.core, hsplit, Core.run_append, hrun]
  refine ⟨?_, ?_, ?_⟩
  · rw [hserved.said, Console.inputs_wb, Console.inputs_wb, hsplit, Core.output_append, hout,
      List.append_nil]
  · rw [hcore]
    exact hquit
  · have hstore := congrArg Core.store hcore
    have hc := congrArg Core.store (s.console.inputs_core (p ++ [i]))
    exact hstore.trans hc.symm

end

/-- **A `QUIT` with only blank lines behind it is the last command.**  In every run of a monitoring
session in which the reads behind a `QUIT` line bring nothing but blank lines, whatever the cuts and
whatever the socket takes: from the moment a `QUIT` line is completed nothing more is ever answered,
and only other callbacks change the store. -/
theorem quit_last_along [Inet] (s : MonitorSession) (hs : s.Ready) (es : List MonitorEvent)
    (e : MonitorEvent) (es' : List MonitorEvent)
    (hquiet : Along monitorMachine QuietAfterQuit s (es ++ e :: es'))
    (hreg : (s.runs es).registered = true) (p : List MonitorInput) (i : MonitorInput)
    (q : List MonitorInput) (hinputs : e.inputs = p ++ i :: q)
    (hquits : ((s.runs es).console.inputs p).Quits i) :
    (s.runs (es ++ e :: es')).said
        = (s.runs es).sent ++ ((s.runs es).console.inputs (p ++ [i])).session.wb.pending ∧
      (s.runs (es ++ e :: es')).console.store
        = MonitorEvent.others ((s.runs es).console.inputs (p ++ [i])).store es' := by
  have halong := hquiet.of_append (MonitorSession.run_eq_runs s es)
  obtain ⟨hsaid, hquit, hstore⟩ := silent_quits (hs.runs es) hreg halong.1 hinputs hquits
  have hlater := silent_runs ((hs.runs es).step e) hquit (halong.2 _ rfl)
  rw [MonitorSession.runs_append]
  refine ⟨hlater.said.trans hsaid, hlater.store.trans ?_⟩
  rw [hstore]

section Runs

attribute [local instance] InetText.inet

/-- A client that quits and then sends an empty line, to a socket that takes nothing at first. -/
theorem quit_last_polite :
    let s := MonitorSession.loggedIn storeCreate
    let quit := MonitorEvent.readable (.data (ascii "QUIT\n")) .again
    let rest := [MonitorEvent.readable (.data (ascii "\r\n")) .again, .writable (.ok 6)]
    let c := s.console.inputs ((ascii "QUIT").map .byte ++ [.byte 10])
    (s.runs (quit :: rest)).said = s.sent ++ c.session.wb.pending ∧
      (s.runs (quit :: rest)).console.store = MonitorEvent.others c.store rest :=
  quit_last_along (.loggedIn storeCreate) (MonitorSession.ready_loggedIn _) []
    (.readable (.data (ascii "QUIT\n")) .again) _ (along_of_meets (by decide +kernel)) rfl
    ((ascii "QUIT").map .byte) (.byte 10) [] (by decide +kernel)
    ⟨by decide +kernel, ascii "QUIT", by decide +kernel, by decide +kernel⟩

/-- A client that adds a user behind its `QUIT`, in one chunk. -/
theorem quit_not_last_hasty :
    ¬ ∀ (s : MonitorSession), s.Ready → ∀ (es : List MonitorEvent) (e : MonitorEvent)
      (es' : List MonitorEvent), (s.runs es).registered = true →
      ∀ (p : List MonitorInput) (i : MonitorInput) (q : List MonitorInput), e.inputs = p ++ i :: q →
        ((s.runs es).console.inputs p).Quits i →
        (s.runs (es ++ e :: es')).said
            = (s.runs es).sent ++ ((s.runs es).console.inputs (p ++ [i])).session.wb.pending ∧
          (s.runs (es ++ e :: es')).console.store
            = MonitorEvent.others ((s.runs es).console.inputs (p ++ [i])).store es' := by
  intro h
  have hstore := (h (.loggedIn storeCreate) (MonitorSession.ready_loggedIn _) []
    (servedAtOnce (ascii "QUIT\nADD_USER eve pass\n")) [] rfl ((ascii "QUIT").map .byte) (.byte 10)
    ((ascii "ADD_USER eve pass\n").map .byte) (by decide +kernel)
    ⟨by decide +kernel, ascii "QUIT", by decide +kernel, by decide +kernel⟩).2
  have hafter : storeUserExists ((MonitorSession.loggedIn storeCreate).runs
      ([] ++ [servedAtOnce (ascii "QUIT\nADD_USER eve pass\n")])).console.store (ascii "eve") = true := by
    decide +kernel
  rw [hstore] at hafter
  exact absurd hafter (by decide +kernel)

end Runs

end SocksProxy
