import SocksProxy.Lib.Runs
import SocksProxy.Socks.World
import SocksProxy.Monitor.Lines

/-!
# The monitoring port

`monitor.c`: the callbacks of one client of the administration port.  What is read goes through `rb`
to the commands at once, and what they answer is written out at the end of the same callback as far
as the socket takes it; the rest waits for `monitor_client_write`.

`MonitorSession.sent` records what the socket took.  A session whose descriptor has been
unregistered gets no more callbacks; its `struct` is freed by `monitor_client_close`, and the model
keeps it to tell what was sent.
-/

set_option autoImplicit false

namespace SocksProxy

/-- `struct monitor_session`, with the registration of its descriptor. -/
structure MonitorSession where
  rb : Buffer
  /-- `commands`, with the store it points to. -/
  console : Console
  interest : FdInterest
  registered : Bool
  sent : Bytes
  limit_rb : rb.limit = monitorBufferSize

namespace MonitorSession

variable (s : MonitorSession)

/-- `monitor_client_interest`. -/
def monitorClientInterest : FdInterest := ⟨s.rb.canWrite, s.console.session.wb.canRead⟩

/-- `selector_set_interest_key(key, monitor_client_interest(session))`. -/
def setInterest : MonitorSession := { s with interest := s.monitorClientInterest }

/-- `monitor_unregister_session`. -/
def unregister : MonitorSession := { s with registered := false }

/-- `monitor_session_init`, and the registration in `monitor_passive_read`. -/
def init (store : MonitorStore) : MonitorSession :=
  setInterest {
    rb := Buffer.init monitorBufferSize
    console := ⟨monitorCommandsQueueGreeting .init, store, [], []⟩
    interest := opNoop
    registered := true
    sent := []
    limit_rb := Buffer.limit_init _ }

/-- A session that has authenticated, with nothing pending. -/
def loggedIn (store : MonitorStore) : MonitorSession :=
  setInterest {
    rb := Buffer.init monitorBufferSize
    console := .loggedIn store
    interest := opNoop
    registered := true
    sent := []
    limit_rb := Buffer.limit_init _ }

/-- `monitor_flush`. -/
def monitorFlush (ans : WriteAns) : MonitorSession × Bool :=
  let pending := s.console.session.wb.pending
  if pending = [] then
    if monitorCommandsShouldClose s.console.session then (s.unregister, false) else (s, true)
  else match ans with
    | .again => (s, true)
    | .error => (s.unregister, false)
    | .ok n =>
      let s := { s with
        console := { s.console with session := s.console.session.consume n }
        sent := s.sent ++ pending.take n }
      if monitorCommandsShouldClose s.console.session then (s.unregister, false) else (s, true)

/-- One round of the loop of `feed_rb_to_commands`. -/
def feedRound [Inet] : MonitorSession :=
  { s with
    console := monitorCommandsFeed s.console s.rb.pending
    rb := (s.rb.readAdv s.rb.pending.length).compact
    limit_rb := by rw [Buffer.limit_compact, Buffer.limit_readAdv, s.limit_rb] }

/-- The loop of `feed_rb_to_commands`, for at most so many rounds. -/
def feedLoop [Inet] : ℕ → MonitorSession → MonitorSession
  | 0, s => s
  | n + 1, s => if s.rb.canRead then feedLoop n s.feedRound else s

/-- `feed_rb_to_commands`; a round takes at least one byte. -/
def feedRbToCommands [Inet] : MonitorSession := feedLoop s.rb.pending.length s

/-- Bytes that `read()` has put into `rb`. -/
def received (bs : Bytes) : MonitorSession :=
  { s with rb := s.rb.append bs, limit_rb := s.limit_rb }

/-- `monitor_client_read`. -/
def monitorClientRead [Inet] (ans : ReadAns) (wans : WriteAns) : MonitorSession :=
  let available := s.rb.space
  if available = 0 then s.setInterest
  else match ans with
    | .again => s.setInterest
    | .error => s.unregister
    | .data bs =>
      if bs = [] then
        let s := s.feedRbToCommands
        let s := { s with console := monitorCommandsFlushOnEof s.console }
        let (s, alive) := s.monitorFlush wans
        if !alive then s
        else if s.console.session.wb.canRead then s.setInterest
        else s.unregister
      else
        let s := (s.received (bs.take available)).feedRbToCommands
        let (s, alive) := s.monitorFlush wans
        if !alive then s else s.setInterest

/-- `monitor_client_write`. -/
def monitorClientWrite (wans : WriteAns) : MonitorSession :=
  let (s, alive) := s.monitorFlush wans
  if !alive then s else s.setInterest

end MonitorSession

/-- What happens to a session. -/
inductive MonitorEvent where
  /-- The descriptor is readable; `read()` answers `ans`, a `write()` of the same callback
  `wans`. -/
  | readable (ans : ReadAns) (wans : WriteAns)
  /-- The descriptor is writable. -/
  | writable (wans : WriteAns)
  /-- A callback of somebody else leaves this store. -/
  | other (st : MonitorStore)

/-- A chunk is read while the socket takes everything. -/
def servedAtOnce (bs : Bytes) : MonitorEvent := .readable (.data bs) (.ok monitorBufferSize)

/-- What an event hands to the commands: `read()` is asked for as much as `rb` holds. -/
def MonitorEvent.inputs : MonitorEvent → List MonitorInput
  | .readable (.data []) _ => [.eof]
  | .readable (.data (b :: bs)) _ => ((b :: bs).take monitorBufferSize).map .byte
  | _ => []

/-- An error is answered by the system. -/
def MonitorEvent.Fails : MonitorEvent → Prop
  | .readable .error _ => True
  | .readable _ wans => wans = .error
  | .writable wans => wans = .error
  | .other _ => False

/-- An event, as the selector delivers it: only to a registered descriptor that asked for it. -/
def monitorStep [Inet] (s : MonitorSession) : MonitorEvent → MonitorSession
  | .readable ans wans =>
    if s.registered && s.interest.read then s.monitorClientRead ans wans else s
  | .writable wans => if s.registered && s.interest.write then s.monitorClientWrite wans else s
  | .other st => { s with console := { s.console with store := st } }

/-- The session as a machine; it has no fault. -/
def monitorMachine [Inet] (s : MonitorSession) (e : MonitorEvent) : Except Empty MonitorSession :=
  .ok (monitorStep s e)

/-! ## The callbacks -/

namespace MonitorSession

variable (s : MonitorSession)

/-- Everything that was answered, sent or not. -/
def said : Bytes := s.sent ++ s.console.session.wb.pending

/-- What holds between two callbacks: `rb` is drained, and the interest is what it should be. -/
structure Ready : Prop where
  rb_pending : s.rb.pending = []
  rb_read : s.rb.read = 0
  interest : s.registered = true → s.interest = s.monitorClientInterest

variable {s}

theorem Ready.space (h : s.Ready) : s.rb.space = monitorBufferSize := by
  rw [Buffer.space_of_read_eq_zero _ h.rb_read, s.limit_rb, h.rb_pending]
  rfl

/-- A session always wants to read. -/
theorem Ready.interest_read (h : s.Ready) (hreg : s.registered = true) :
    s.interest.read = true := by
  rw [h.interest hreg]
  refine (Buffer.canWrite_iff _).2 ?_
  rw [h.space]
  decide

variable (s)

/-- What a flush leaves. -/
structure Flushed (ans : WriteAns) (s' : MonitorSession) (alive : Bool) : Prop where
  rb : s'.rb = s.rb
  interest : s'.interest = s.interest
  said : s'.said = s.said
  core : s'.console.core = s.console.core
  /-- The descriptor is gone exactly when the flush says so. -/
  registered : s'.registered = (s.registered && alive)
  /-- It goes after an error, or after `QUIT` when nothing is left to send. -/
  gone : alive = false → ans = .error ∨
    s.console.session.closeAfterFlush = true ∧ s'.console.session.wb.pending = []

theorem shouldClose_iff {s : MonitorCommandsSession} :
    monitorCommandsShouldClose s = true ↔ s.closeAfterFlush = true ∧ s.wb.pending = [] := by
  rw [monitorCommandsShouldClose, Bool.and_eq_true, Bool.not_eq_true',
    Buffer.canRead_eq_false_iff]

theorem monitorFlush_spec (ans : WriteAns) :
    s.Flushed ans (s.monitorFlush ans).1 (s.monitorFlush ans).2 := by
  unfold monitorFlush
  by_cases hempty : s.console.session.wb.pending = []
  · by_cases hclose : monitorCommandsShouldClose s.console.session = true
    · simp only [hempty, hclose, if_true]
      exact ⟨rfl, rfl, rfl, rfl, (Bool.and_false _).symm, fun _ => .inr (shouldClose_iff.1 hclose)⟩
    · simp only [hempty, hclose, if_true]
      exact ⟨rfl, rfl, rfl, rfl, (Bool.and_true _).symm, fun h => by cases h⟩
  · simp only [hempty, if_false]
    cases ans with
    | again => exact ⟨rfl, rfl, rfl, rfl, (Bool.and_true _).symm, fun h => by cases h⟩
    | error => exact ⟨rfl, rfl, rfl, rfl, (Bool.and_false _).symm, fun _ => .inl rfl⟩
    | ok n =>
      have hpend : (s.console.session.consume n).wb.pending
          = s.console.session.wb.pending.drop n := by
        rw [MonitorCommandsSession.consume, Buffer.pending_compact, Buffer.pending_readAdv]
      have hsaid : s.sent ++ s.console.session.wb.pending.take n
          ++ (s.console.session.consume n).wb.pending = s.said := by
        rw [hpend, List.append_assoc, List.take_append_drop]
        rfl
      dsimp only
      by_cases hclose : monitorCommandsShouldClose (s.console.session.consume n) = true
      · simp only [hclose, if_true]
        exact ⟨rfl, rfl, hsaid, rfl, (Bool.and_false _).symm,
          fun _ => .inr (shouldClose_iff.1 hclose)⟩
      · simp only [hclose]
        exact ⟨rfl, rfl, hsaid, rfl, (Bool.and_true _).symm, fun h => by cases h⟩

variable [Inet]

/-- A round drains `rb`. -/
theorem rb_feedRound : s.feedRound.rb.pending = [] ∧ s.feedRound.rb.read = 0 := by
  constructor
  · rw [feedRound, Buffer.pending_compact, Buffer.pending_readAdv,
      List.drop_of_length_le (Nat.le_refl _)]
  · exact Buffer.read_compact _

/-- So the loop has one round at most. -/
theorem feedRbToCommands_eq :
    s.feedRbToCommands = if s.rb.pending = [] then s else s.feedRound := by
  rw [feedRbToCommands]
  by_cases h : s.rb.pending = []
  · rw [if_pos h, h]
    rfl
  · rw [if_neg h]
    obtain ⟨n, hn⟩ := Nat.exists_eq_succ_of_ne_zero (Nat.ne_of_gt (List.length_pos_iff.2 h))
    rw [hn, feedLoop, if_pos ((Buffer.canRead_iff _).2 h)]
    have hdone : s.feedRound.rb.canRead = false :=
      (Buffer.canRead_eq_false_iff _).2 s.rb_feedRound.1
    cases n with
    | zero => rfl
    | succ n => rw [feedLoop, if_neg (by rw [hdone]; exact Bool.false_ne_true)]

/-! ## One event -/

/-- An event has been served: `is` went to the commands, and what they answered was sent or is
waiting. -/
structure Served (fails : Prop) (is : List MonitorInput) (s' : MonitorSession) : Prop where
  ready : s'.Ready
  core : s'.console.core = s.console.core.run is
  said : s'.said = s.sent ++ (s.console.inputs is).session.wb.pending
  /-- Without an error the descriptor goes when everything has been sent, after `QUIT` or at the end
  of file. -/
  gone : s'.registered = false → fails ∨ s'.console.session.wb.pending = [] ∧
    (s'.console.session.closeAfterFlush = true ∨ is = [.eof])

variable {s}

/-- Nothing is handed on, and nothing sent. -/
theorem Served.same {fails : Prop} (h : s.Ready) (hreg : s.registered = true) :
    s.Served fails [] s where
  ready := h
  core := rfl
  said := rfl
  gone := fun hgone => by rw [hreg] at hgone; cases hgone

omit [Inet] in
theorem setInterest_eq (h : s.Ready) (hreg : s.registered = true) : s.setInterest = s := by
  rw [setInterest, ← h.interest hreg]

/-- The end of a callback: what the commands have answered is flushed. -/
theorem Served.flush {fails : Prop} {is : List MonitorInput} {t : MonitorSession} {ans : WriteAns}
    (hpend : t.rb.pending = []) (hread : t.rb.read = 0) (hreg : t.registered = true)
    (hsent : t.sent = s.sent) (hcon : t.console = s.console.inputs is)
    (hfails : ans = .error → fails) :
    s.Served fails is (if !(t.monitorFlush ans).2 then (t.monitorFlush ans).1
      else (t.monitorFlush ans).1.setInterest) := by
  have hf := t.monitorFlush_spec ans
  have hcore : (t.monitorFlush ans).1.console.core = s.console.core.run is := by
    rw [hf.core, hcon, Console.inputs_core]
  have hsaid :
      (t.monitorFlush ans).1.said = s.sent ++ (s.console.inputs is).session.wb.pending := by
    rw [hf.said, MonitorSession.said, hsent, hcon]
  cases halive : (t.monitorFlush ans).2 with
  | false =>
    rw [if_pos (by decide)]
    have hgone : (t.monitorFlush ans).1.registered = false := by
      rw [hf.registered, halive, Bool.and_false]
    refine ⟨⟨by rw [hf.rb, hpend], by rw [hf.rb, hread], fun h => ?_⟩, hcore, hsaid, fun _ => ?_⟩
    · rw [hgone] at h
      cases h
    · rcases hf.gone halive with herr | ⟨hclose, hnone⟩
      · exact .inl (hfails herr)
      · have hquit : (t.monitorFlush ans).1.console.session.closeAfterFlush
            = t.console.session.closeAfterFlush := congrArg Core.quit hf.core
        exact .inr ⟨hnone, .inl (hquit.trans hclose)⟩
  | true =>
    rw [if_neg (by decide)]
    refine ⟨⟨?_, ?_, fun _ => rfl⟩, hcore, hsaid, fun h => ?_⟩
    · show (t.monitorFlush ans).1.rb.pending = []
      rw [hf.rb, hpend]
    · show (t.monitorFlush ans).1.rb.read = 0
      rw [hf.rb, hread]
    · have : (t.monitorFlush ans).1.registered = false := h
      rw [hf.registered, hreg, halive] at this
      cases this

theorem served_write (h : s.Ready) (hreg : s.registered = true) (wans : WriteAns) :
    s.Served (MonitorEvent.writable wans).Fails [] (s.monitorClientWrite wans) :=
  Served.flush h.rb_pending h.rb_read hreg rfl rfl id

theorem served_read (h : s.Ready) (hreg : s.registered = true) (ans : ReadAns) (wans : WriteAns) :
    s.Served (MonitorEvent.readable ans wans).Fails (MonitorEvent.readable ans wans).inputs
      (s.monitorClientRead ans wans) := by
  have hroom : ¬ s.rb.space = 0 := by
    rw [h.space]
    decide
  unfold monitorClientRead
  simp only [hroom, if_false]
  cases ans with
  | again =>
    dsimp only
    rw [setInterest_eq h hreg]
    exact .same h hreg
  | error =>
    refine ⟨⟨h.rb_pending, h.rb_read, fun hr => ?_⟩, rfl, rfl, fun _ => .inl trivial⟩
    cases hr
  | data bs =>
    dsimp only
    cases bs with
    | nil =>
      have hfeed := s.feedRbToCommands_eq
      rw [if_pos h.rb_pending] at hfeed
      rw [if_pos rfl, hfeed]
      generalize ht : { s with console := monitorCommandsFlushOnEof s.console } = t
      have hflush : s.Served (MonitorEvent.readable (.data []) wans).Fails [.eof]
          (if !(t.monitorFlush wans).2 then (t.monitorFlush wans).1
            else (t.monitorFlush wans).1.setInterest) := by
        subst ht
        exact Served.flush h.rb_pending h.rb_read hreg rfl rfl id
      cases halive : (t.monitorFlush wans).2 with
      | false =>
        rw [halive] at hflush
        exact hflush
      | true =>
        rw [halive] at hflush
        rw [if_neg (by decide)] at hflush ⊢
        by_cases hmore : (t.monitorFlush wans).1.console.session.wb.canRead = true
        · rw [if_pos hmore]
          exact hflush
        · rw [if_neg hmore]
          have hnone := (Buffer.canRead_eq_false_iff _).1 (Bool.not_eq_true _ ▸ hmore)
          refine ⟨⟨hflush.ready.rb_pending, hflush.ready.rb_read, fun hr => ?_⟩, hflush.core,
            hflush.said, fun _ => .inr ⟨hnone, .inr rfl⟩⟩
          cases hr
    | cons b bs =>
      rw [if_neg (List.cons_ne_nil b bs)]
      have hlen : ((b :: bs).take s.rb.space).length ≤ s.rb.space := by
        rw [List.length_take]
        omega
      have hrb : (s.received ((b :: bs).take s.rb.space)).rb.pending
          = (b :: bs).take s.rb.space := by
        show (s.rb.append _).pending = _
        rw [Buffer.pending_append _ hlen, h.rb_pending]
        rfl
      have hne : (b :: bs).take s.rb.space ≠ [] := by
        rw [Ne, List.take_eq_nil_iff]
        rintro (h0 | h0)
        · exact hroom h0
        · cases h0
      have hfeed := (s.received ((b :: bs).take s.rb.space)).feedRbToCommands_eq
      rw [hrb, if_neg hne] at hfeed
      rw [hfeed]
      refine Served.flush (rb_feedRound _).1 (rb_feedRound _).2 hreg rfl ?_ id
      show monitorCommandsFeed s.console (s.received _).rb.pending = _
      rw [hrb, Console.monitorCommandsFeed_eq, h.space]
      rfl

/-- When the socket takes everything, nothing is left waiting. -/
theorem pending_servedAtOnce (h : s.Ready) (hreg : s.registered = true) {bs : Bytes}
    (hbs : bs ≠ []) :
    (monitorStep s (servedAtOnce bs)).console.session.wb.pending = [] := by
  have hall (t : MonitorSession) :
      (t.monitorFlush (.ok monitorBufferSize)).1.console.session.wb.pending = [] := by
    unfold monitorFlush
    by_cases hempty : t.console.session.wb.pending = []
    · simp only [hempty, if_true]
      split
      · exact hempty
      · exact hempty
    · have hdrop : (t.console.session.consume monitorBufferSize).wb.pending = [] := by
        rw [MonitorCommandsSession.consume, Buffer.pending_compact, Buffer.pending_readAdv,
          List.drop_of_length_le t.console.session.length_pending_le]
      simp only [hempty, if_false]
      split
      · exact hdrop
      · exact hdrop
  have hroom : ¬ s.rb.space = 0 := by
    rw [h.space]
    decide
  rw [servedAtOnce, monitorStep, hreg, h.interest_read hreg, Bool.and_self, if_pos rfl]
  unfold monitorClientRead
  simp only [hroom, hbs, if_false]
  split
  · exact hall _
  · exact hall _

/-- **One event of a registered session.** -/
theorem served_step (h : s.Ready) (hreg : s.registered = true) {e : MonitorEvent}
    (hother : ∀ st, e ≠ .other st) : s.Served e.Fails e.inputs (monitorStep s e) := by
  cases e with
  | readable ans wans =>
    rw [monitorStep, hreg, h.interest_read hreg]
    exact served_read h hreg ans wans
  | writable wans =>
    rw [monitorStep, hreg]
    cases hw : s.interest.write with
    | true => exact served_write h hreg wans
    | false => exact .same h hreg
  | other st => exact absurd rfl (hother st)

/-- Nothing but the store of a session that is gone can change. -/
theorem monitorStep_of_gone (hgone : s.registered = false) {e : MonitorEvent}
    (hother : ∀ st, e ≠ .other st) : monitorStep s e = s := by
  cases e with
  | readable ans wans => rw [monitorStep, hgone, Bool.false_and, if_neg Bool.false_ne_true]
  | writable wans => rw [monitorStep, hgone, Bool.false_and, if_neg Bool.false_ne_true]
  | other st => exact absurd rfl (hother st)

theorem Ready.step (h : s.Ready) (e : MonitorEvent) : (monitorStep s e).Ready := by
  by_cases hother : ∃ st, e = .other st
  · obtain ⟨st, rfl⟩ := hother
    exact ⟨h.rb_pending, h.rb_read, h.interest⟩
  · have hne : ∀ st, e ≠ .other st := fun st he => hother ⟨st, he⟩
    cases hreg : s.registered with
    | true => exact (served_step h hreg hne).ready
    | false => rwa [monitorStep_of_gone hreg hne]

/-! ## Runs -/

/-- The session after some events. -/
def runs (s : MonitorSession) (es : List MonitorEvent) : MonitorSession := es.foldl monitorStep s

theorem run_eq_runs (s : MonitorSession) (es : List MonitorEvent) :
    run monitorMachine s es = .ok (s.runs es) := by
  induction es generalizing s with
  | nil => rfl
  | cons e es ih => exact ih (monitorStep s e)

theorem runs_append (s : MonitorSession) (es es' : List MonitorEvent) :
    s.runs (es ++ es') = (s.runs es).runs es' := List.foldl_append

theorem Ready.runs (h : s.Ready) (es : List MonitorEvent) : (s.runs es).Ready := by
  induction es generalizing s with
  | nil => exact h
  | cons e es ih => exact ih (h.step e)

omit [Inet] in
theorem ready_init (store : MonitorStore) : (MonitorSession.init store).Ready :=
  ⟨Buffer.pending_init _, rfl, fun _ => rfl⟩

omit [Inet] in
theorem ready_loggedIn (store : MonitorStore) : (MonitorSession.loggedIn store).Ready :=
  ⟨Buffer.pending_init _, rfl, fun _ => rfl⟩

end MonitorSession

/-- After a `QUIT` only blank lines are handed on. -/
def Core.QuitsLast [Inet] (k : Core) (is : List MonitorInput) : Prop :=
  ∀ p q, is = p ++ q → (k.run p).quit = true →
    ∀ f ∈ framed (gather k.line p) q, f.blank = true

theorem Core.quitsLast_iff [Inet] (k : Core) (is : List MonitorInput) :
    (∀ n < is.length + 1, (k.run (is.take n)).quit = true →
      ∀ f ∈ framed (gather k.line (is.take n)) (is.drop n), f.blank = true) ↔ k.QuitsLast is := by
  constructor
  · intro h p q hpq hquit f hf
    refine h p.length ?_ ?_ f ?_
    · rw [hpq, List.length_append]
      omega
    · rw [hpq, List.take_left]
      exact hquit
    · rw [hpq, List.take_left, List.drop_left]
      exact hf
  · exact fun h n _ => h _ _ (List.take_append_drop n is).symm

instance [Inet] (k : Core) (is : List MonitorInput) : Decidable (k.QuitsLast is) :=
  decidable_of_iff _ (k.quitsLast_iff is)

end SocksProxy
