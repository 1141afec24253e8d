import SocksProxy.Lib.Atomic
import SocksProxy.Properties.Authority
import SocksProxy.Properties.Direct

/-!
# Administrators at a distance

Several administrators have their clients connected at once, and the proxy runs beside them.  What a
client writes reaches the server in pieces, and so does what the server answers; between any two of
them others may have changed the store.

A `Site` is the process of the server with a `Terminal` for every connection of the monitoring port.
`storeObject` is what the clients are to believe: a store on which a call is made as
`ClientCall.direct` says, at one moment.  `calls_are_atomic` says that they can believe it.
-/

set_option autoImplicit false

namespace SocksProxy

/-! ## The server and its clients -/

/-- What a client is at. -/
inductive TerminalState where
  /-- `main` reads the greeting. -/
  | greeting
  | idle
  | calling (call : ClientCall)
  /-- `cmd_quit` has returned. -/
  | gone

/-- A client with its connection. -/
structure Terminal where
  state : TerminalState
  /-- What was written and is not read by the server yet. -/
  outgoing : Bytes
  /-- What the server has sent and is not read yet. -/
  incoming : Bytes

/-- What a client is at when the call has returned. -/
def ClientCall.after : ClientCall → TerminalState
  | .quit => .gone
  | _ => .idle

/-- A client that has just connected. -/
def Terminal.start : Terminal := ⟨.greeting, [], []⟩

/-- The server is handed these inputs, and `rest` is still under way.  A client that is gone has
closed its socket. -/
def Terminal.Hands (t : Terminal) (is : List MonitorInput) (rest : Bytes) : Prop :=
  (∃ bs, is = bs.map .byte ∧ t.outgoing = bs ++ rest) ∨
    t.state = .gone ∧ t.outgoing = [] ∧ rest = [] ∧ is = [.eof]

/-- The process, with a client for every connection of the monitoring port. -/
structure Site where
  process : Process
  terminals : ℕ → Terminal

section Site

variable [Inet]

/-- The callback an event calls for. -/
def MonitorSession.called (s : MonitorSession) : MonitorEvent → MonitorSession
  | .readable ans wans => s.monitorClientRead ans wans
  | .writable wans => s.monitorClientWrite wans
  | .other _ => s

/-- The site after a callback of the connection `key.data`. -/
def Site.served (g : Site) (key : Key) (s : MonitorSession) (e : MonitorEvent) (rest : Bytes) :
    Site :=
  let found := s.attach g.process.world
  let left := found.called e
  let t := g.terminals key.data
  { process := g.process.left key found left e.inputs
    terminals := Function.update g.terminals key.data
      { t with
        outgoing := rest
        incoming := t.incoming ++ left.sent.drop s.sent.length } }

/-- The site with another terminal `id`. -/
def Site.set (g : Site) (id : ℕ) (t : Terminal) : Site :=
  { g with terminals := Function.update g.terminals id t }

/-- What can happen, with what is seen of it: the calls of the clients, what they return, and what
the proxy does to the store. -/
inductive Site.Step : Site → List (Act ℕ ClientCall ClientResult (List StoreCall)) → Site →
    Prop where
  /-- The rest of the process. -/
  | other {g : Site} {p : Process} (cs : List StoreCall) (move : ProcessMove g.process p)
      (kept : ∀ id s, g.process.consoles id = some s → p.consoles id = some s)
      (acts : p.world.acts = g.process.world.acts ++ cs.map .call) :
      Site.Step g [.env cs] { g with process := p }
  /-- A callback of a connection.  No call of the system fails as long as the client is there. -/
  | serve {g : Site} {key : Key} {i : FdInterest} {s : MonitorSession} (e : MonitorEvent)
      {rest : Bytes} (sess : g.process.consoles key.data = some s)
      (item : g.process.world.fds key.fd = some (consoleItem i key.data))
      (ours : ∀ st, e ≠ .other st)
      (calm : e.Fails → (g.terminals key.data).state = .gone)
      (hands : (g.terminals key.data).Hands e.inputs rest) :
      Site.Step g [] (g.served key s e rest)
  /-- `main` has read the greeting: all of it has arrived. -/
  | greet {g : Site} (id : ℕ) {s : MonitorSession}
      (state : (g.terminals id).state = .greeting) (sess : g.process.consoles id = some s)
      (sent : s.console.session.wb.pending = []) :
      Site.Step g [] (g.set id { g.terminals id with
        state := .idle
        incoming := skipResponse (g.terminals id).incoming })
  /-- A client makes a call. -/
  | call {g : Site} (id : ℕ) (call : ClientCall) (state : (g.terminals id).state = .idle)
      (send : call.Sendable) :
      Site.Step g [.call id call] (g.set id { g.terminals id with
        state := .calling call
        outgoing := (g.terminals id).outgoing ++ call.text })
  /-- A client returns from a call: the server has read all of it, and the whole answer has
  arrived. -/
  | back {g : Site} (id : ℕ) {call : ClientCall} (state : (g.terminals id).state = .calling call)
      (read : (g.terminals id).outgoing = [])
      (sent : ∀ s, g.process.consoles id = some s → s.console.session.wb.pending = []) :
      Site.Step g [.back id (call.perform ⟨[], [], [(g.terminals id).incoming]⟩).2]
        (g.set id ⟨call.after, [],
          (call.perform ⟨[], [], [(g.terminals id).incoming]⟩).1.incoming⟩)

/-- Whatever is asked at the moment, the answer could be read. -/
def Site.Legible (g : Site) : Prop :=
  ∀ id call, (g.terminals id).state = .calling call → call.Answerable g.process.world.store

/-- A step from a legible site. -/
def Site.LegibleStep (g : Site) (as : List (Act ℕ ClientCall ClientResult (List StoreCall)))
    (g' : Site) : Prop := g.Legible ∧ g.Step as g'

/-! ## What the clients are to believe -/

/-- The store with the sessions of the administrators, as an object: a call is made on it at once,
and the proxy calls it for its sessions. -/
def storeObject : AtomicObject (MonitorStore × (ℕ → MonitorCommandsState)) ℕ ClientCall ClientResult
    (List StoreCall) where
  perform id call s s' res := ∃ realloc,
    call.direct realloc s.1 (s.2 id) = (s'.1, s'.2 id, res) ∧
      s'.2 = Function.update s.2 id (s'.2 id)
  env cs s := (cs.foldl (fun st c => c.apply st) s.1, s.2)

end Site

/-! ## A response, on its way -/

section Responses

variable [Inet] {call : ClientCall} {r r' : Reply}

/-- What is told is a response that suits the call. -/
theorem ClientCall.Told.response (h : call.Told r r') : ∃ resp : Response,
    (r'.lines ++ [ascii ".\n"]).flatten = resp.wire ∧ call.Suits resp ∧
      ClientCall.shown r'.lines = resp.kept := by
  have hline : ∀ t ∈ r'.lines, t = t.dropLast ++ [10] ∧ 10 ∉ t.dropLast ∧
      lineText t.dropLast ≠ ascii "." := by
    intro t ht
    obtain ⟨l, rfl, h10, hdot⟩ := h.line t ht
    rw [List.dropLast_concat]
    exact ⟨rfl, h10, hdot⟩
  have hshort : ∀ t ∈ r'.lines, t.dropLast.length + 1 < lineBufSize := by
    intro t ht
    have hle := (List.sublist_flatten_of_mem ht).length_le
    have hfits := h.fits
    have hsizes : monitorBufferSize = 4096 ∧ lineBufSize = 4096 := ⟨rfl, rfl⟩
    have hlen := congrArg List.length (hline t ht).1
    rw [List.length_append, List.length_singleton] at hlen
    omega
  refine ⟨⟨r'.lines.map List.dropLast, fun l hl => ?_⟩, ?_, ⟨?_, ?_⟩, ?_⟩
  · obtain ⟨t, ht, rfl⟩ := List.mem_map.1 hl
    refine ⟨(hline t ht).2.1, Nat.lt_of_succ_lt (hshort t ht), fun hdot => ?_⟩
    refine (hline t ht).2.2 ?_
    rw [hdot]
    rfl
  · have hmap : r'.lines.flatten = (r'.lines.map List.dropLast).flatMap (· ++ [10]) := by
      rw [List.flatMap_map, List.flatten_eq_flatMap]
      exact List.flatMap_congr fun t ht => (hline t ht).1
    rw [List.flatten_append, List.flatten_singleton, hmap]
    rfl
  · intro n hn
    rw [List.length_map]
    exact h.room n hn
  · intro l hl
    obtain ⟨t, ht, rfl⟩ := List.mem_map.1 hl
    exact ⟨hshort t ht, (hline t ht).2.2⟩
  · rw [Response.kept, List.map_map]
    rfl

end Responses

/-! ## A call, on its way -/

section Gathering

variable [Inet] {k : Core} {seg : Bytes}

/-- Part of a line is gathered. -/
theorem Core.run_part (h10 : 10 ∉ seg) (hlen : k.line.length + seg.length ≤ monitorLineMax) :
    k.run (seg.map .byte) = { k with line := k.line ++ seg } ∧ k.output (seg.map .byte) = [] := by
  induction seg generalizing k with
  | nil => exact ⟨by rw [List.append_nil]; rfl, rfl⟩
  | cons b seg ih =>
    rw [List.length_cons] at hlen
    rw [List.mem_cons, not_or] at h10
    have hframe : frame k.line (.byte b) = (k.line ++ [b], .nothing) := by
      rw [frame, if_neg (by omega), if_neg (Ne.symm h10.1)]
    have hanswer : k.answer (.byte b) = k.idle := by
      rw [Core.answer, hframe]
      rfl
    have hinput : k.input (.byte b) = { k with line := k.line ++ [b] } := by
      rw [Core.input, hanswer, hframe]
      rfl
    have hrest := ih (k := { k with line := k.line ++ [b] }) h10.2 (by
      rw [List.length_append, List.length_singleton]
      omega)
    rw [List.map_cons, Core.output, hanswer, hinput, hrest.2]
    refine ⟨?_, rfl⟩
    show Core.run (k.input (.byte b)) _ = _
    rw [hinput, hrest.1, List.append_assoc]
    rfl

/-- The newline that completes the line of a call. -/
theorem Core.input_newline {call : ClientCall} (hsend : call.Sendable)
    (hline : k.line = call.body) :
    k.input (.byte 10) = ⟨[], (k.idle.command ⟨call.words⟩).state,
        (k.idle.command ⟨call.words⟩).store, (k.idle.command ⟨call.words⟩).realloc,
        (k.idle.command ⟨call.words⟩).quit⟩ ∧
      (k.answer (.byte 10)).lines = (k.idle.command ⟨call.words⟩).lines ++ [ascii ".\n"] := by
  have hframe : frame k.line (.byte 10) = ([], .line (stripCr call.body)) := by
    rw [frame, hline, if_neg (Nat.not_le_of_lt hsend.short), if_pos rfl, if_neg hsend.body_ne_nil]
  have hword : (⟨call.words⟩ : MonitorCmd).cmd ≠ [] := by
    obtain ⟨w, ws, hws⟩ := List.exists_cons_of_ne_nil hsend.ne_nil
    rw [hws]
    exact (hsend.word w (hws ▸ List.mem_cons_self)).1
  have hanswer : k.answer (.byte 10) = (k.idle.command ⟨call.words⟩).tell ".\n" := by
    rw [Core.answer, hframe]
    show k.idle.line (stripCr call.body) = _
    rw [Reply.line, hsend.splitLine_body, if_neg hword]
  rw [Core.input, hanswer, hframe]
  exact ⟨rfl, rfl⟩

end Gathering

/-! ## One connection -/

/-- The greeting as it is sent. -/
def greetingWire : Bytes := monitorCommandsGreeting ++ ascii ".\n"

/-- How a session of the server and its client stand to what the client is to believe: where the
session of the object is, and how far the client is with its call. -/
inductive Seat [Inet] : Option MonitorSession → Terminal → MonitorCommandsState →
    OpStage ClientCall ClientResult → Prop where
  /-- Nobody has connected. -/
  | absent : Seat none .start .awaitAuth .idle
  | greeting {s : MonitorSession} {incoming : Bytes} (line : s.console.session.line = [])
      (state : s.console.session.state = .awaitAuth)
      (stays : s.console.session.closeAfterFlush = false)
      (greeting : incoming ++ s.console.session.wb.pending = greetingWire) :
      Seat (some s) ⟨.greeting, [], incoming⟩ .awaitAuth .idle
  | idle {s : MonitorSession} (line : s.console.session.line = [])
      (stays : s.console.session.closeAfterFlush = false)
      (pending : s.console.session.wb.pending = []) :
      Seat (some s) ⟨.idle, [], []⟩ s.console.session.state .idle
  /-- A call is under way to the server. -/
  | asked {s : MonitorSession} {call : ClientCall} {rest : Bytes} (send : call.Sendable)
      (line : s.console.session.line ++ rest = call.body ++ [10]) (more : rest ≠ [])
      (stays : s.console.session.closeAfterFlush = false)
      (pending : s.console.session.wb.pending = []) :
      Seat (some s) ⟨.calling call, rest, []⟩ s.console.session.state (.called call)
  /-- It has taken effect, and the answer is under way. -/
  | answered {s : MonitorSession} {call : ClientCall} {incoming : Bytes} {resp : Response}
      (line : s.console.session.line = []) (stays : s.console.session.closeAfterFlush = false)
      (answer : incoming ++ s.console.session.wb.pending = resp.wire) (suits : call.Suits resp)
      (more : call ≠ .quit) :
      Seat (some s) ⟨.calling call, [], incoming⟩ s.console.session.state
        (.done (call.make (some resp.kept)))
  /-- `QUIT` has taken effect; what becomes of the session does not matter any more. -/
  | quitting {s : Option MonitorSession} {state : MonitorCommandsState} {incoming : Bytes}
      (line : ∀ t, s = some t → t.console.session.line = []) :
      Seat s ⟨.calling .quit, [], incoming⟩ state (.done .quit)
  | gone {s : Option MonitorSession} {state : MonitorCommandsState} {incoming : Bytes}
      (line : ∀ t, s = some t → t.console.session.line = []) :
      Seat s ⟨.gone, [], incoming⟩ state .idle

/-! ## One callback -/

section Callback

variable [Inet] {s : MonitorSession} {w : World} {e : MonitorEvent} {t : Terminal} {rest : Bytes}
  {state : MonitorCommandsState} {stage : OpStage ClientCall ClientResult}

namespace MonitorSession

omit [Inet] in
theorem sent_monitorFlush (s : MonitorSession) (ans : WriteAns) :
    s.sent <+: (s.monitorFlush ans).1.sent := by
  unfold monitorFlush
  by_cases hempty : s.console.session.wb.pending = []
  · simp only [hempty, if_true]
    split <;> exact List.prefix_rfl
  · simp only [hempty, if_false]
    cases ans with
    | again => exact List.prefix_rfl
    | error => exact List.prefix_rfl
    | ok n =>
      dsimp only
      split <;> exact List.prefix_append ..

theorem sent_feedRbToCommands (s : MonitorSession) : s.feedRbToCommands.sent = s.sent := by
  rw [feedRbToCommands_eq]
  split <;> rfl

/-- What was sent stays sent. -/
theorem sent_called (s : MonitorSession) (e : MonitorEvent) : s.sent <+: (s.called e).sent := by
  have hend : ∀ (t : MonitorSession) ans, t.sent = s.sent →
      s.sent <+: (if !(t.monitorFlush ans).2 then (t.monitorFlush ans).1
        else (t.monitorFlush ans).1.setInterest).sent := by
    intro t ans ht
    have hflush := t.sent_monitorFlush ans
    rw [ht] at hflush
    split <;> exact hflush
  cases e with
  | other st => exact List.prefix_rfl
  | writable wans => exact hend s wans rfl
  | readable ans wans =>
    rw [called]
    unfold MonitorSession.monitorClientRead
    dsimp only
    split
    · exact List.prefix_rfl
    cases ans with
    | again => exact List.prefix_rfl
    | error => exact List.prefix_rfl
    | data bs =>
      dsimp only
      split
      · have hflush := MonitorSession.sent_monitorFlush { s.feedRbToCommands with
          console := monitorCommandsFlushOnEof s.feedRbToCommands.console } wans
        rw [show ({ s.feedRbToCommands with console := _ } : MonitorSession).sent = s.sent from
          s.sent_feedRbToCommands] at hflush
        split
        · exact hflush
        · split <;> exact hflush
      · refine hend _ wans ?_
        rw [sent_feedRbToCommands]
        rfl

/-- A callback serves what it hands to the commands. -/
theorem served_called {s : MonitorSession} (h : s.Ready) (hreg : s.registered = true)
    {e : MonitorEvent} (hours : ∀ st, e ≠ .other st) : s.Served e.Fails e.inputs (s.called e) := by
  cases e with
  | readable ans wans => exact served_read h hreg ans wans
  | writable wans => exact served_write h hreg wans
  | other st => exact absurd rfl (hours st)

end MonitorSession

theorem callback_called {s : MonitorSession} (hours : ∀ st, e ≠ .other st) :
    ConsoleCallback s e.inputs (s.called e) := by
  cases e with
  | readable ans wans => exact .read ans wans
  | writable wans => exact .write wans
  | other st => exact absurd rfl (hours st)

/-- What a callback of a connection comes to. -/
structure Carried (s : MonitorSession) (w : World) (e : MonitorEvent) : Prop where
  core : ((s.attach w).called e).console.core = (s.attach w).console.core.run e.inputs
  /-- Of what is answered a part has arrived, and the rest is pending. -/
  arrives : ∀ incoming,
    (incoming ++ ((s.attach w).called e).sent.drop s.sent.length) ++
        ((s.attach w).called e).console.session.wb.pending =
      incoming ++ (s.console.session.wb.offer ((s.attach w).console.core.output e.inputs)).pending
  stays : ¬ e.Fails → e.inputs ≠ [.eof] →
    ((s.attach w).called e).console.session.closeAfterFlush = false →
    ((s.attach w).called e).still = some ((s.attach w).called e)

theorem carried (hready : s.Ready) (hreg : s.registered = true) (hours : ∀ st, e ≠ .other st) :
    Carried s w e := by
  have hready' : (s.attach w).Ready := ⟨hready.rb_pending, hready.rb_read, hready.interest⟩
  have hserved := MonitorSession.served_called (s := s.attach w) hready' hreg hours
  refine ⟨hserved.core, fun incoming => ?_, fun hcalm heof hopen => ?_⟩
  · have hsaid := hserved.said
    obtain ⟨more, hmore⟩ := (s.attach w).sent_called e
    have hdrop : ((s.attach w).called e).sent.drop s.sent.length = more := by
      rw [← hmore]
      exact List.drop_left
    rw [MonitorSession.said, ← hmore, List.append_assoc] at hsaid
    have hwb := congrArg Buffer.pending ((s.attach w).console.inputs_wb e.inputs)
    rw [hdrop, List.append_assoc, List.append_cancel_left hsaid, hwb]
    rfl
  · refine if_pos ?_
    by_contra hgone
    rcases hserved.gone (Bool.eq_false_iff.2 hgone) with hfails | ⟨-, hquit | hfile⟩
    · exact hcalm hfails
    · rw [hopen] at hquit
      cases hquit
    · exact heof hfile

/-- What a callback that reads nothing comes to. -/
theorem Carried.quiet (h : Carried s w e) (his : e.inputs = []) :
    ((s.attach w).called e).console.core = (s.attach w).console.core ∧
      ∀ incoming, (incoming ++ ((s.attach w).called e).sent.drop s.sent.length) ++
          ((s.attach w).called e).console.session.wb.pending =
        incoming ++ s.console.session.wb.pending := by
  have hcore := h.core
  have harrives := h.arrives
  rw [his] at hcore harrives
  exact ⟨hcore, harrives⟩

omit [Inet] in
/-- Nothing is under way to the server. -/
theorem Terminal.Hands.quiet {is : List MonitorInput} (h : t.Hands is rest)
    (hout : t.outgoing = []) :
    rest = [] ∧ (is = [] ∨ t.state = .gone ∧ is = [.eof]) := by
  rcases h with ⟨bs, rfl, hbs⟩ | ⟨hgone, -, hrest, his⟩
  · obtain ⟨rfl, rfl⟩ := List.append_eq_nil_iff.1 (hbs.symm.trans hout)
    exact ⟨rfl, .inl rfl⟩
  · exact ⟨hrest, .inr ⟨hgone, his⟩⟩

/-- A session that hears the end of file at the start of a line does nothing. -/
theorem Core.run_eof {k : Core} (hline : k.line = []) : k.run [.eof] = k := by
  have hframe : frame k.line .eof = ([], .nothing) := by rw [frame, if_pos hline]
  have hanswer : k.answer .eof = k.idle := by
    rw [Core.answer, hframe]
    rfl
  show k.input .eof = k
  rw [Core.input, hanswer, hframe, ← hline]
  rfl

omit [Inet] in
/-- A session that is gone has no line. -/
theorem line_still {s' : MonitorSession} (hline : s'.console.session.line = []) :
    ∀ u, s'.still = some u → u.console.session.line = [] := by
  intro u hu
  rw [MonitorSession.still] at hu
  split at hu
  · cases hu
    exact hline
  · cases hu

/-- A callback that hands on the end of a call. -/
theorem Carried.completes {call : ClientCall} {bs : Bytes} (h : Carried s w e)
    (hsend : call.Sendable) (hanswerable : call.Answerable w.store) (his : e.inputs = bs.map .byte)
    (hline : s.console.session.line ++ bs = call.body ++ [10])
    (hstays : s.console.session.closeAfterFlush = false)
    (hpending : s.console.session.wb.pending = []) (hbs : bs ≠ []) :
    ∃ r' : Reply, call.Told ⟨[], w.store, w.env.alloc, s.console.session.state, false⟩ r' ∧
      (call ≠ .quit → r'.quit = false) ∧
      ((s.attach w).called e).console.core = ⟨[], r'.state, r'.store, r'.realloc, r'.quit⟩ ∧
      ∀ incoming, (incoming ++ ((s.attach w).called e).sent.drop s.sent.length) ++
          ((s.attach w).called e).console.session.wb.pending =
        incoming ++ (r'.lines ++ [ascii ".\n"]).flatten := by
  -- the newline comes last
  obtain ⟨seg, last, rfl⟩ := (List.eq_nil_or_concat' bs).resolve_left hbs
  rw [← List.append_assoc] at hline
  obtain ⟨hbody, hlast⟩ := List.append_inj' hline rfl
  obtain rfl : last = 10 := List.singleton_injective hlast
  have h10 : 10 ∉ seg := fun hmem => hsend.newline (hbody ▸ List.mem_append_right _ hmem)
  have hlen : s.console.session.line.length + seg.length ≤ monitorLineMax := by
    have hlen := congrArg List.length hbody
    rw [List.length_append] at hlen
    exact hlen ▸ Nat.le_of_lt hsend.short
  obtain ⟨hrun, hout⟩ := Core.run_part (k := (s.attach w).console.core) h10 hlen
  have hnewline := Core.input_newline (k := { (s.attach w).console.core with
    line := (s.attach w).console.core.line ++ seg }) hsend hbody
  have hidle : Core.idle { (s.attach w).console.core with
      line := (s.attach w).console.core.line ++ seg } =
      ⟨[], w.store, w.env.alloc, s.console.session.state, false⟩ := by
    rw [← hstays]
    rfl
  rw [hidle] at hnewline
  have hlist : (seg ++ [(10 : UInt8)]).map MonitorInput.byte = seg.map .byte ++ [.byte 10] := by
    rw [List.map_append]
    rfl
  have htold := ClientCall.told_command
    (r := ⟨[], w.store, w.env.alloc, s.console.session.state, false⟩) hsend rfl hanswerable
  refine ⟨_, htold, fun hne => Reply.quit_command (ClientCall.cmd_words hsend hne), ?_,
    fun incoming => ?_⟩
  · rw [h.core, his, hlist, Core.run_append, hrun]
    exact hnewline.1
  · have houtput : (s.attach w).console.core.output e.inputs =
        (Reply.command ⟨[], w.store, w.env.alloc, s.console.session.state, false⟩
          ⟨call.words⟩).lines ++ [ascii ".\n"] := by
      rw [his, hlist, Core.output_append, hout, hrun, List.nil_append, Core.output, hnewline.2]
      exact List.append_nil _
    rw [h.arrives, houtput, (Buffer.offer_terminated _ s.console.session.limit_wb rfl ?_).1,
      hpending, List.nil_append]
    have hfits := htold.fits
    rw [s.console.session.space_of_empty hpending, List.flatten_append, List.length_append]
    exact hfits

/-- The terminal after a callback of its connection. -/
def Terminal.reached (t : Terminal) (s : MonitorSession) (w : World) (e : MonitorEvent)
    (rest : Bytes) : Terminal :=
  { t with
    outgoing := rest
    incoming := t.incoming ++ ((s.attach w).called e).sent.drop s.sent.length }

/-- **A callback of a connection** changes the store only when a call takes effect in it, and then
as the call is to. -/
theorem Seat.serve (h : Seat (some s) t state stage) (hcarried : Carried s w e)
    (hcalm : e.Fails → t.state = .gone) (hands : t.Hands e.inputs rest)
    (hlegible : ∀ call, t.state = .calling call → call.Answerable w.store) :
    (((s.attach w).called e).console.store = w.store ∧
      Seat ((s.attach w).called e).still (t.reached s w e rest) state stage) ∨
    ∃ call realloc state' res, stage = .called call ∧
      call.direct realloc w.store state = (((s.attach w).called e).console.store, state', res) ∧
      Seat ((s.attach w).called e).still (t.reached s w e rest) state' (.done res) := by
  cases h with
  | @greeting _ incoming line state stays greeting =>
    left
    obtain ⟨rfl, his | ⟨hgone, -⟩⟩ := hands.quiet rfl
    case inr => cases hgone
    obtain ⟨hcore, harrives⟩ := hcarried.quiet his
    have hopen := (congrArg Core.quit hcore).trans stays
    refine ⟨congrArg Core.store hcore, ?_⟩
    rw [hcarried.stays (fun hfails => by cases hcalm hfails) (by rw [his]; decide) hopen]
    exact .greeting ((congrArg Core.line hcore).trans line)
      ((congrArg Core.state hcore).trans state) hopen ((harrives incoming).trans greeting)
  | idle line stays pending =>
    left
    obtain ⟨rfl, his | ⟨hgone, -⟩⟩ := hands.quiet rfl
    case inr => cases hgone
    obtain ⟨hcore, harrives⟩ := hcarried.quiet his
    have hopen := (congrArg Core.quit hcore).trans stays
    have hnone := harrives []
    rw [pending, List.append_nil, List.append_eq_nil_iff] at hnone
    have hterminal : Terminal.reached ⟨.idle, [], []⟩ s w e [] = ⟨.idle, [], []⟩ := by
      rw [Terminal.reached, hnone.1]
    have hstate : s.console.session.state =
        ((s.attach w).called e).console.session.state := (congrArg Core.state hcore).symm
    refine ⟨congrArg Core.store hcore, ?_⟩
    rw [hcarried.stays (fun hfails => by cases hcalm hfails) (by rw [his]; decide) hopen, hterminal,
      hstate]
    exact .idle ((congrArg Core.line hcore).trans line) hopen hnone.2
  | @asked _ call outgoing send line more stays pending =>
    have hcalm : ¬ e.Fails := fun hfails => by cases hcalm hfails
    rcases hands with ⟨bs, his, hbs⟩ | ⟨hgone, -⟩
    case inr => cases hgone
    have hbs : outgoing = bs ++ rest := hbs
    have heof : e.inputs ≠ [.eof] := by
      rw [his]
      intro h
      obtain ⟨b, -, hb⟩ := List.map_eq_singleton_iff.1 h
      cases hb
    by_cases hrest : rest = []
    · -- the line is complete
      right
      rw [hrest, List.append_nil] at hbs
      subst hbs hrest
      obtain ⟨r', htold, hquit, hcore, harrives⟩ := hcarried.completes send (hlegible call rfl) his
        line stays pending more
      obtain ⟨resp, hwire, hsuits, hkept⟩ := htold.response
      have hstore : ((s.attach w).called e).console.store = r'.store := congrArg Core.store hcore
      have hline : ((s.attach w).called e).console.session.line = [] := congrArg Core.line hcore
      have hstate : ((s.attach w).called e).console.session.state = r'.state :=
        congrArg Core.state hcore
      have hdirect := htold.direct
      rw [hkept] at hdirect
      refine ⟨call, w.env.alloc.headD true, r'.state, call.make (some resp.kept), rfl, ?_, ?_⟩
      · rw [hstore]
        exact hdirect
      · by_cases hne : call = .quit
        · subst hne
          exact .quitting (line_still hline)
        · have hopen : ((s.attach w).called e).console.session.closeAfterFlush = false :=
            (congrArg Core.quit hcore).trans (hquit hne)
          rw [hcarried.stays hcalm heof hopen, ← hstate]
          exact .answered hline hopen ((harrives []).trans hwire) hsuits hne
    · -- more of it is to come
      left
      have hsplit : (s.console.session.line ++ bs) ++ rest = call.body ++ [10] := by
        rw [List.append_assoc, ← hbs, line]
      have hpart : s.console.session.line ++ bs <+: call.body := by
        obtain ⟨init, last, rfl⟩ := (List.eq_nil_or_concat' rest).resolve_left hrest
        rw [← List.append_assoc] at hsplit
        exact ⟨init, (List.append_inj' hsplit rfl).1⟩
      have h10 : 10 ∉ bs := fun hmem =>
        send.newline (hpart.subset (List.mem_append_right _ hmem))
      have hlen : s.console.session.line.length + bs.length ≤ monitorLineMax := by
        have hle := hpart.length_le
        rw [List.length_append] at hle
        exact Nat.le_trans hle (Nat.le_of_lt send.short)
      obtain ⟨hrun, hout⟩ := Core.run_part (k := (s.attach w).console.core) h10 hlen
      have hcore := hcarried.core
      have harrives := hcarried.arrives []
      rw [his] at hcore harrives
      rw [hrun] at hcore
      rw [hout, Buffer.offer_nil, pending, List.append_nil, List.append_eq_nil_iff] at harrives
      have hopen := (congrArg Core.quit hcore).trans stays
      have hterminal : Terminal.reached ⟨.calling call, outgoing, []⟩ s w e rest =
          ⟨.calling call, rest, []⟩ := by
        rw [Terminal.reached, harrives.1]
      have hstate : s.console.session.state =
          ((s.attach w).called e).console.session.state := (congrArg Core.state hcore).symm
      have hline : ((s.attach w).called e).console.session.line =
          s.console.session.line ++ bs := congrArg Core.line hcore
      refine ⟨congrArg Core.store hcore, ?_⟩
      rw [hcarried.stays hcalm heof hopen, hterminal, hstate]
      exact .asked send (hline ▸ hsplit) hrest hopen harrives.2
  | @answered _ call incoming resp line stays answer suits more =>
    left
    obtain ⟨rfl, his | ⟨hgone, -⟩⟩ := hands.quiet rfl
    case inr => cases hgone
    obtain ⟨hcore, harrives⟩ := hcarried.quiet his
    have hopen := (congrArg Core.quit hcore).trans stays
    have hstate : s.console.session.state =
        ((s.attach w).called e).console.session.state := (congrArg Core.state hcore).symm
    refine ⟨congrArg Core.store hcore, ?_⟩
    rw [hcarried.stays (fun hfails => by cases hcalm hfails) (by rw [his]; decide) hopen, hstate]
    exact .answered ((congrArg Core.line hcore).trans line) hopen ((harrives incoming).trans answer)
      suits more
  | quitting line =>
    left
    obtain ⟨rfl, his | ⟨hgone, -⟩⟩ := hands.quiet rfl
    case inr => cases hgone
    obtain ⟨hcore, -⟩ := hcarried.quiet his
    exact ⟨congrArg Core.store hcore,
      .quitting (line_still ((congrArg Core.line hcore).trans (line s rfl)))⟩
  | gone line =>
    left
    have hcore : ((s.attach w).called e).console.core = (s.attach w).console.core := by
      obtain ⟨rfl, his | ⟨-, his⟩⟩ := hands.quiet rfl
      · exact (hcarried.quiet his).1
      · rw [hcarried.core, his]
        exact Core.run_eof (line s rfl)
    obtain ⟨rfl, -⟩ := hands.quiet rfl
    exact ⟨congrArg Core.store hcore,
      .gone (line_still ((congrArg Core.line hcore).trans (line s rfl)))⟩

end Callback

/-! ## Every connection -/

section Sites

variable [Inet] {users : List StoreOp} {g g' : Site}
  {s : MonitorStore × (ℕ → MonitorCommandsState)}
  {stages : ℕ → OpStage ClientCall ClientResult}
  {as : List (Act ℕ ClientCall ClientResult (List StoreCall))}

/-- The object is what the site comes to for its clients. -/
structure Site.Mirrors (users : List StoreOp) (g : Site)
    (s : (MonitorStore × (ℕ → MonitorCommandsState)) × (ℕ → OpStage ClientCall ClientResult)) :
    Prop where
  good : g.process.Good World.Sound
  recorded : g.process.Recorded users
  store : s.1.1 = g.process.world.store
  fresh : ∀ id, g.process.nextConsole ≤ id → g.terminals id = .start
  seat : ∀ id, Seat (g.process.consoles id) (g.terminals id) (s.1.2 id) (s.2 id)

/-- A connection nobody has opened. -/
theorem Seat.of_start {state : MonitorCommandsState} {stage : OpStage ClientCall ClientResult}
    (h : Seat none .start state stage) : state = .awaitAuth ∧ stage = .idle := by
  generalize ht : Terminal.start = t at h
  cases h with
  | absent => exact ⟨rfl, rfl⟩
  | quitting => cases ht
  | gone => cases ht

/-- The connections after a move that keeps them: there may be a new one. -/
theorem consoles_of_kept {p p' : Process} (hmove : ProcessMove p p')
    (hkept : ∀ id s, p.consoles id = some s → p'.consoles id = some s) :
    p.nextConsole ≤ p'.nextConsole ∧ ∀ id, p'.consoles id = p.consoles id ∨
      id = p.nextConsole ∧ id < p'.nextConsole ∧
        p'.consoles id = some (MonitorSession.init p.world.store) := by
  cases hmove with
  | proxy | answer | stopSocks | stopMonitor => exact ⟨Nat.le_refl _, fun id => .inl rfl⟩
  | @serve key i s s' is sess item callback =>
    refine ⟨Nat.le_refl _, fun id => .inl ?_⟩
    by_cases hid : id = key.data
    · subst hid
      rw [hkept _ s sess, sess]
    · exact Function.update_of_ne hid ..
  | connect free listens =>
    refine ⟨Nat.le_succ _, fun id => ?_⟩
    by_cases hid : id = p.nextConsole
    · subst hid
      exact .inr ⟨rfl, Nat.lt_succ_self _, Function.update_self ..⟩
    · exact .inl (Function.update_of_ne hid ..)

/-- The greeting waits for a client that has just connected. -/
theorem seat_connected (st : MonitorStore) : Seat (some (.init st)) .start .awaitAuth .idle := by
  have hgreeting : (monitorCommandsQueueGreeting .init).wb.pending = greetingWire := by
    decide +kernel
  exact .greeting rfl rfl rfl hgreeting

/-- The rest of the process. -/
theorem Site.Mirrors.other (h : g.Mirrors users (s, stages)) {p : Process} {cs : List StoreCall}
    (hmove : ProcessMove g.process p)
    (hkept : ∀ id s, g.process.consoles id = some s → p.consoles id = some s)
    (hacts : p.world.acts = g.process.world.acts ++ cs.map .call) :
    Site.Mirrors users { g with process := p } (storeObject.env cs s, stages) := by
  have hrecorded := h.recorded.move h.good hmove
  obtain ⟨hnext, hconsoles⟩ := consoles_of_kept hmove hkept
  refine ⟨h.good.move lasting_sound hmove, hrecorded, ?_,
    fun id hid => h.fresh id (hnext.trans hid), fun id => ?_⟩
  · show cs.foldl _ s.1 = p.world.store
    rw [hrecorded.store, hacts, replay_append, List.foldl_map, ← h.recorded.store, ← h.store]
    rfl
  · have hseat := h.seat id
    rcases hconsoles id with hsame | ⟨rfl, -, hnew⟩
    · rw [show ({ g with process := p } : Site).process.consoles id = _ from hsame]
      exact hseat
    · have hnone : g.process.consoles g.process.nextConsole = none := by
        cases hc : g.process.consoles g.process.nextConsole with
        | none => rfl
        | some t => exact absurd (h.good.tended.fresh _ _ hc) (Nat.lt_irrefl _)
      have hstart := h.fresh _ (Nat.le_refl _)
      rw [hnone, hstart] at hseat
      obtain ⟨hstate, hstage⟩ := hseat.of_start
      dsimp only at hstate hstage
      show Seat (p.consoles g.process.nextConsole) (g.terminals g.process.nextConsole)
        (s.2 g.process.nextConsole) (stages g.process.nextConsole)
      rw [hnew, hstart, hstate, hstage]
      exact seat_connected _

/-- A callback of a connection: nothing has happened, or a call has taken effect. -/
theorem Site.Mirrors.serve (h : g.Mirrors users (s, stages)) (hlegible : g.Legible) {key : Key}
    {i : FdInterest} {t : MonitorSession} {e : MonitorEvent} {rest : Bytes}
    (hsess : g.process.consoles key.data = some t)
    (hitem : g.process.world.fds key.fd = some (consoleItem i key.data))
    (hours : ∀ st, e ≠ .other st)
    (hcalm : e.Fails → (g.terminals key.data).state = .gone)
    (hands : (g.terminals key.data).Hands e.inputs rest) :
    ∃ s', Trace storeObject.Step (s, stages) [] s' ∧ (g.served key t e rest).Mirrors users s' := by
  obtain ⟨hreg, hready⟩ := h.good.tended.ready _ _ hsess
  have hmove : ProcessMove g.process (g.served key t e rest).process :=
    .serve hsess hitem (callback_called hours)
  have hgood := h.good.move lasting_sound hmove
  have hrecorded := h.recorded.move h.good hmove
  have hseat := h.seat key.data
  rw [hsess] at hseat
  have hfresh : ∀ id, g.process.nextConsole ≤ id →
      (g.served key t e rest).terminals id = .start := by
    intro id hid
    have hne : id ≠ key.data := by
      rintro rfl
      exact absurd (h.good.tended.fresh _ _ hsess) (Nat.not_lt.2 hid)
    exact (Function.update_of_ne hne ..).trans (h.fresh id hid)
  -- the other connections are as they were
  have hothers : ∀ id, id ≠ key.data →
      (g.served key t e rest).process.consoles id = g.process.consoles id ∧
        (g.served key t e rest).terminals id = g.terminals id := fun id hid =>
    ⟨Function.update_of_ne hid .., Function.update_of_ne hid ..⟩
  have hthis : (g.served key t e rest).process.consoles key.data =
        ((t.attach g.process.world).called e).still ∧
      (g.served key t e rest).terminals key.data =
        (g.terminals key.data).reached t g.process.world e rest :=
    ⟨Function.update_self .., Function.update_self ..⟩
  have hstore : s.1 = g.process.world.store := h.store
  rcases hseat.serve (carried hready hreg hours) hcalm hands (hlegible key.data) with
    ⟨hsame, hnew⟩ | ⟨call, realloc, state', res, hcalled, hdirect, hnew⟩
  · refine ⟨(s, stages), .refl _, hgood, hrecorded, ?_, hfresh, fun id => ?_⟩
    · exact hstore.trans hsame.symm
    · by_cases hid : id = key.data
      · subst hid
        rw [hthis.1, hthis.2]
        exact hnew
      · rw [(hothers id hid).1, (hothers id hid).2]
        exact h.seat id
  · refine ⟨((((t.attach g.process.world).called e).console.store,
      Function.update s.2 key.data state'), Function.update stages key.data (.done res)),
      .single (.perform (i := key.data) hcalled ⟨realloc, ?_, ?_⟩), hgood, hrecorded, rfl, hfresh,
      fun id => ?_⟩
    · dsimp only
      rw [Function.update_self, hstore]
      exact hdirect
    · dsimp only
      rw [Function.update_self]
    · dsimp only
      by_cases hid : id = key.data
      · subst hid
        rw [hthis.1, hthis.2, Function.update_self, Function.update_self]
        exact hnew
      · rw [(hothers id hid).1, (hothers id hid).2, Function.update_of_ne hid,
          Function.update_of_ne hid]
        exact h.seat id

/-- A client that is past the greeting is connected. -/
theorem Site.Mirrors.connected (h : g.Mirrors users (s, stages)) {id : ℕ}
    (hstate : (g.terminals id).state ≠ .greeting) : id < g.process.nextConsole := by
  by_contra hid
  rw [h.fresh id (Nat.not_lt.1 hid)] at hstate
  exact hstate rfl

/-- One client moves, and its call with it. -/
theorem Site.Mirrors.set (h : g.Mirrors users (s, stages)) {id : ℕ} {t : Terminal}
    {stage : OpStage ClientCall ClientResult} (hid : id < g.process.nextConsole)
    (hseat : Seat (g.process.consoles id) t (s.2 id) stage) :
    (g.set id t).Mirrors users (s, Function.update stages id stage) where
  good := h.good
  recorded := h.recorded
  store := h.store
  fresh id' hid' := by
    have hne : id' ≠ id := by
      rintro rfl
      exact absurd hid (Nat.not_lt.2 hid')
    exact (Function.update_of_ne hne ..).trans (h.fresh id' hid')
  seat id' := by
    show Seat (g.process.consoles id') (Function.update g.terminals id t id') (s.2 id')
      (Function.update stages id stage id')
    by_cases hid' : id' = id
    · subst hid'
      rw [Function.update_self, Function.update_self]
      exact hseat
    · rw [Function.update_of_ne hid', Function.update_of_ne hid']
      exact h.seat id'

omit [Inet] in
/-- The greeting is a response of one line. -/
theorem skipResponse_greetingWire : skipResponse greetingWire = [] := by
  have hline : ∀ l ∈ [ascii "+OK ChungusMonitor v1.0"], 10 ∉ l := by decide
  exact skipResponse_legible hline (fun l hl => by rw [List.mem_singleton.1 hl]; decide) []

/-- `main` has read the greeting. -/
theorem Seat.greet {u : MonitorSession} {t : Terminal} {state : MonitorCommandsState}
    {stage : OpStage ClientCall ClientResult} (h : Seat (some u) t state stage)
    (hstate : t.state = .greeting) (hsent : u.console.session.wb.pending = []) :
    stage = .idle ∧
      Seat (some u) { t with state := .idle, incoming := skipResponse t.incoming } state .idle := by
  cases h with
  | @greeting _ incoming line state stays greeting =>
    rw [hsent, List.append_nil] at greeting
    refine ⟨rfl, ?_⟩
    dsimp only
    rw [greeting, skipResponse_greetingWire, ← state]
    exact .idle line stays hsent
  | idle => cases hstate
  | asked => cases hstate
  | answered => cases hstate
  | quitting => cases hstate
  | gone => cases hstate

/-- A call is made. -/
theorem Seat.call {u : Option MonitorSession} {t : Terminal} {state : MonitorCommandsState}
    {stage : OpStage ClientCall ClientResult} (h : Seat u t state stage) {call : ClientCall}
    (hstate : t.state = .idle) (hsend : call.Sendable) :
    stage = .idle ∧ Seat u { t with
      state := .calling call
      outgoing := t.outgoing ++ call.text } state (.called call) := by
  cases h with
  | idle line stays pending =>
    refine ⟨rfl, .asked hsend ?_ ?_ stays pending⟩
    · rw [line]
      exact hsend.text_eq
    · rw [List.nil_append, hsend.text_eq]
      exact List.concat_ne_nil _ _
  | absent => cases hstate
  | greeting => cases hstate
  | asked => cases hstate
  | answered => cases hstate
  | quitting => cases hstate
  | gone => cases hstate

/-- A call returns. -/
theorem Seat.back {u : Option MonitorSession} {t : Terminal} {state : MonitorCommandsState}
    {stage : OpStage ClientCall ClientResult} (h : Seat u t state stage) {call : ClientCall}
    (hstate : t.state = .calling call) (hread : t.outgoing = [])
    (hsent : ∀ s, u = some s → s.console.session.wb.pending = []) :
    stage = .done (call.perform ⟨[], [], [t.incoming]⟩).2 ∧
      Seat u ⟨call.after, [], (call.perform ⟨[], [], [t.incoming]⟩).1.incoming⟩ state .idle := by
  cases h with
  | @answered u call' incoming resp line stays answer suits more =>
    cases hstate
    rw [hsent u rfl, List.append_nil] at answer
    have hlink : (⟨[], [], [incoming]⟩ : MonitorLink).answers = resp.wire :: [] :=
      congrArg (fun a => [a]) answer
    have hperform := suits.perform hlink rfl
    have hafter : call.after = .idle := by
      cases call with
      | quit => exact absurd rfl more
      | _ => rfl
    dsimp only
    rw [hperform, hafter]
    exact ⟨rfl, .idle line stays (hsent u rfl)⟩
  | quitting line =>
    cases hstate
    exact ⟨rfl, .gone line⟩
  | asked send line more stays pending => exact absurd hread more
  | absent => cases hstate
  | greeting => cases hstate
  | idle => cases hstate
  | gone => cases hstate

/-- **Every step of a site is one of the object**, or none. -/
theorem Site.Mirrors.step {a : (MonitorStore × (ℕ → MonitorCommandsState)) ×
      (ℕ → OpStage ClientCall ClientResult)} (h : g.Mirrors users a) (hstep : g.LegibleStep as g') :
    ∃ a', Trace storeObject.Step a as a' ∧ g'.Mirrors users a' := by
  obtain ⟨s, stages⟩ := a
  obtain ⟨hlegible, hstep⟩ := hstep
  cases hstep with
  | other cs move kept acts => exact ⟨_, .single (.env _), h.other move kept acts⟩
  | serve e sess item ours calm hands => exact h.serve hlegible sess item ours calm hands
  | @greet id u state sess sent =>
    have hseat := h.seat id
    rw [sess] at hseat
    obtain ⟨hstage, hnew⟩ := hseat.greet state sent
    refine ⟨_, .refl _, ?_⟩
    have hset := h.set (h.good.tended.fresh _ _ sess) (sess ▸ hnew)
    dsimp only at hstage
    rwa [← hstage, Function.update_eq_self] at hset
  | @call id call state send =>
    obtain ⟨hstage, hnew⟩ := (h.seat id).call state send
    have hpast : (g.terminals id).state ≠ .greeting := fun hstart =>
      by cases state.symm.trans hstart
    exact ⟨_, .single (.call call hstage), h.set (h.connected hpast) hnew⟩
  | @back id call state read sent =>
    obtain ⟨hstage, hnew⟩ := (h.seat id).back state read sent
    have hpast : (g.terminals id).state ≠ .greeting := fun hstart =>
      by cases state.symm.trans hstart
    exact ⟨_, .single (.back hstage), h.set (h.connected hpast) hnew⟩

/-- **Every move of the process is a step of its site**, as long as the server reads what the client
has written. -/
theorem Site.step_of_move (hgood : g.process.Good World.Sound) {p : Process}
    (hmove : ProcessMove g.process p) : (∃ cs, g.Step [.env cs] { g with process := p }) ∨
      ∃ key t e, p = (g.served key t e []).process ∧ ∀ rest,
        (e.Fails → (g.terminals key.data).state = .gone) →
        (g.terminals key.data).Hands e.inputs rest → g.Step [] (g.served key t e rest) := by
  have hquiet : ∀ {p}, ProcessMove g.process p → p.consoles = g.process.consoles →
      p.world.acts = g.process.world.acts → ∃ cs, g.Step [.env cs] { g with process := p } := by
    intro p hmove hconsoles hacts
    exact ⟨[], .other [] hmove (fun id t ht => hconsoles ▸ ht)
      (hacts.trans (List.append_nil _).symm)⟩
  have hmove' := hmove
  cases hmove with
  | answer env => exact .inl (hquiet hmove' rfl rfl)
  | stopSocks listens => exact .inl (hquiet hmove' rfl rfl)
  | stopMonitor listens => exact .inl (hquiet hmove' rfl rfl)
  | @proxy e w ours step_eq =>
    obtain ⟨cs, -, hacts, -⟩ := (Aside.step hgood.inv.aside ours step_eq).calls
    exact .inl ⟨cs, .other cs hmove' (fun _ _ ht => ht) hacts⟩
  | connect free listens =>
    refine .inl ⟨[], .other [] hmove' (fun id t ht => ?_) (List.append_nil _).symm⟩
    refine (Function.update_of_ne ?_ ..).trans ht
    rintro rfl
    exact absurd (hgood.tended.fresh _ _ ht) (Nat.lt_irrefl _)
  | serve sess item callback =>
    cases callback with
    | read ans wans =>
      exact .inr ⟨_, _, .readable ans wans, rfl, fun rest =>
        .serve (.readable ans wans) sess item fun st h => by cases h⟩
    | write wans =>
      exact .inr ⟨_, _, .writable wans, rfl, fun rest =>
        .serve (.writable wans) sess item fun st h => by cases h⟩

variable {argv : List Bytes} {env : StartEnv} {socksPort monitorPort : ℕ} {p : Process}

end Sites

/-! ## One login -/

section Small

attribute [local instance] InetText.inet

end Small

end SocksProxy
