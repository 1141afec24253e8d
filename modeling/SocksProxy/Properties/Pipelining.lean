import SocksProxy.Shared.InetText
import SocksProxy.Monitor.Server

/-!
# Pipelining

The comment over `monitor_commands_feed` promises that several commands may come in one chunk.  All
of them are executed before the first byte is written out, so how the stream is cut decides how much
`wb` has to hold, and a response that does not fit is lost.  It also decides what is still read
after a `QUIT`.  Apart from these two the cuts do not matter: a run in which the responses of every
chunk fit is the run of the core, and the core sees only the stream.
-/

set_option autoImplicit false

namespace SocksProxy

/-- Nobody else is active and no call fails. -/
def MonitorEvent.Calm (e : MonitorEvent) : Prop := ¬ e.Fails ∧ ∀ st, e ≠ .other st

section

variable [Inet]

/-- The responses to the lines a chunk completes fit together into what `wb` has free. -/
def ResponsesFit (s : MonitorSession) (e : MonitorEvent) : Prop :=
  s.registered = true →
    (s.console.core.output e.inputs).flatten.length ≤ s.console.session.wb.space

instance (s : MonitorSession) (e : MonitorEvent) : Decidable (ResponsesFit s e) :=
  inferInstanceAs (Decidable (_ → _))

/-- A schedule of one stream: the events bring these bytes, cut in some way, and then the end of
file if there is one, and in the end everything has been written out. -/
structure Schedule (s : MonitorSession) (stream : Bytes) (eof : Bool) (es : List MonitorEvent) :
    Prop where
  calm : ∀ e ∈ es, e.Calm
  inputs : ∃ n, es.flatMap MonitorEvent.inputs = stream.map .byte ++ List.replicate n .eof ∧
    (0 < n ↔ eof = true)
  drained : (s.runs es).console.session.wb.pending = []

/-! ## Responses that fit -/

/-- A response ends with the terminator, if there is one. -/
theorem Core.answer_lines (k : Core) (i : MonitorInput) :
    (k.answer i).lines = [] ∨ ∃ lines, (k.answer i).lines = lines ++ [ascii ".\n"] := by
  rw [Core.answer]
  cases (frame k.line i).2 with
  | nothing => exact .inl rfl
  | tooLong => exact .inr ⟨_, rfl⟩
  | line bs =>
    by_cases hblank : (splitLine bs).cmd = []
    · rw [Reply.framed, Reply.line, if_pos hblank]
      exact .inl rfl
    · exact .inr ⟨_, Reply.lines_line _ _ hblank⟩

/-- Responses that fit together all go in. -/
theorem Buffer.offer_output (b : Buffer) (hb : b.limit = monitorBufferSize) (k : Core)
    (is : List MonitorInput) (hfit : (k.output is).flatten.length ≤ b.space) :
    (b.offer (k.output is)).pending = b.pending ++ (k.output is).flatten := by
  induction is generalizing k b with
  | nil => exact (List.append_nil _).symm
  | cons i is ih =>
    rw [Core.output, List.flatten_append, List.length_append] at hfit
    rw [Core.output, Buffer.offer_append, List.flatten_append, ← List.append_assoc]
    rcases k.answer_lines i with hnone | ⟨lines, hlines⟩
    · rw [hnone, Buffer.offer_nil, List.flatten_nil, List.append_nil]
      exact ih b hb (k.input i) (by omega)
    · rw [hlines] at hfit ⊢
      have hone : (lines ++ [ascii ".\n"]).flatten.length ≤ b.space := by omega
      obtain ⟨hpend, hspace⟩ := b.offer_terminated hb (by decide) hone
      rw [← hpend]
      exact ih _ ((b.limit_offer _).trans hb) (k.input i) (by omega)

/-! ## A run is a run of the core -/

/-- After the inputs `is` a session has come as far as `k`, or it has gone before and the rest `ks`
was never read. -/
structure Tracks (k : Core) (base : Bytes) (is : List MonitorInput) (s : MonitorSession) :
    Prop where
  ready : s.Ready
  came : ∃ js ks, is = js ++ ks ∧ s.console.core = k.run js ∧
    s.said = base ++ (k.output js).flatten ∧ (s.registered = true → ks = []) ∧
    (s.registered = false → (k.run js).quit = true ∨ .eof ∈ js)

theorem Tracks.step {k : Core} {base : Bytes} {is : List MonitorInput} {s : MonitorSession}
    (h : Tracks k base is s) {e : MonitorEvent} (hcalm : e.Calm) (hfit : ResponsesFit s e) :
    Tracks k base (is ++ e.inputs) (monitorStep s e) := by
  obtain ⟨hready, js, ks, his, hcore, hsaid, hopen, hgone⟩ := h
  refine ⟨hready.step e, ?_⟩
  cases hreg : s.registered with
  | false =>
    rw [MonitorSession.monitorStep_of_gone hreg hcalm.2]
    refine ⟨js, ks ++ e.inputs, by rw [his, List.append_assoc], hcore, hsaid, fun h => ?_,
      fun _ => hgone hreg⟩
    rw [hreg] at h
    cases h
  | true =>
    have hserved := MonitorSession.served_step hready hreg hcalm.2
    have hks := hopen hreg
    rw [hks, List.append_nil] at his
    refine ⟨is ++ e.inputs, [], (List.append_nil _).symm, ?_, ?_, fun _ => rfl, fun hg => ?_⟩
    · rw [hserved.core, hcore, his, Core.run_append]
    · -- the responses of the chunk go in behind what was waiting
      rw [hserved.said, Console.inputs_wb, Buffer.offer_output _ s.console.session.limit_wb _ _
        (hfit hreg), ← List.append_assoc, show s.sent ++ _ = s.said from rfl, hsaid, hcore, his,
        Core.output_append, List.flatten_append, List.append_assoc]
    · rcases (hserved.gone hg).resolve_left hcalm.1 with ⟨-, hquit | heof⟩
      · left
        have : (monitorStep s e).console.core.quit = true := hquit
        rw [hserved.core, hcore, ← Core.run_append] at this
        rw [his]
        exact this
      · exact .inr (List.mem_append_right _ (by rw [heof]; exact List.mem_singleton_self _))

theorem Tracks.runs {k : Core} {base : Bytes} {is : List MonitorInput} {s : MonitorSession}
    (h : Tracks k base is s) {es : List MonitorEvent} (hcalm : ∀ e ∈ es, e.Calm)
    (hfit : Along monitorMachine ResponsesFit s es) :
    Tracks k base (is ++ es.flatMap MonitorEvent.inputs) (s.runs es) := by
  induction es generalizing is s with
  | nil =>
    rw [List.flatMap_nil, List.append_nil]
    exact h
  | cons e es ih =>
    rw [List.flatMap_cons, ← List.append_assoc]
    exact ih (h.step (hcalm e (List.mem_cons_self ..)) hfit.1)
      (fun e' he => hcalm e' (List.mem_cons_of_mem _ he)) (hfit.2 _ rfl)

/-! ## The end of file -/

omit [Inet] in
theorem framed_eofs (n : ℕ) : ∀ f ∈ framed [] (List.replicate n .eof), f.blank = true := by
  induction n with
  | zero =>
    intro f hf
    cases hf
  | succ n ih =>
    intro f hf
    rcases List.mem_cons.1 hf with rfl | hf
    · rfl
    · exact ih f hf

omit [Inet] in
theorem gather_eof (line : Bytes) (n : ℕ) : gather line (List.replicate (n + 1) .eof) = [] := by
  induction n generalizing line with
  | zero => rfl
  | succ n ih => exact ih _

/-- The end of file is told any number of times. -/
theorem Core.run_eofs (k : Core) (is : List MonitorInput) (n : ℕ) :
    k.run (is ++ List.replicate (n + 1) .eof) = k.run (is ++ [.eof]) ∧
      k.output (is ++ List.replicate (n + 1) .eof) = k.output (is ++ [.eof]) := by
  have hsplit : is ++ List.replicate (n + 1) .eof = (is ++ [.eof]) ++ List.replicate n .eof := by
    rw [List.append_assoc]
    rfl
  have hline : (k.run (is ++ [.eof])).line = [] := by
    rw [Core.line_run, gather_append]
    exact gather_eof _ 0
  have hblank : ∀ f ∈ framed (k.run (is ++ [.eof])).line (List.replicate n .eof),
      f.blank = true := by
    rw [hline]
    exact framed_eofs n
  obtain ⟨hrun, hout⟩ := (k.run (is ++ [.eof])).run_of_blank hblank
  rw [hsplit, Core.run_append, Core.output_append, hrun, hout, List.append_nil]
  refine ⟨?_, rfl⟩
  have hg : gather (k.run (is ++ [.eof])).line (List.replicate n .eof) = [] := by
    rw [hline]
    cases n with
    | zero => rfl
    | succ n => exact gather_eof [] n
  rw [hg, ← hline]

omit [Inet] in
/-- A stream as the commands see it: its bytes, and the end of file if there is one. -/
def streamInputs (stream : Bytes) (eof : Bool) : List MonitorInput :=
  stream.map .byte ++ if eof then [.eof] else []

theorem Core.run_streamInputs (k : Core) (stream : Bytes) {eof : Bool} {n : ℕ}
    (hn : 0 < n ↔ eof = true) :
    k.run (stream.map .byte ++ List.replicate n .eof) = k.run (streamInputs stream eof) ∧
      k.output (stream.map .byte ++ List.replicate n .eof)
        = k.output (streamInputs stream eof) := by
  rw [streamInputs]
  cases n with
  | zero =>
    rw [if_neg fun h => Nat.lt_irrefl 0 (hn.2 h)]
    exact ⟨rfl, rfl⟩
  | succ n =>
    rw [if_pos (hn.1 (Nat.succ_pos n))]
    exact k.run_eofs _ n

/-- What remains of a stream behind a `QUIT` is blank, however often its end is told. -/
theorem Core.QuitsLast.eofs {k : Core} {stream : Bytes} {eof : Bool}
    (h : k.QuitsLast (streamInputs stream eof)) {n : ℕ} (hn : 0 < n ↔ eof = true) :
    k.QuitsLast (stream.map .byte ++ List.replicate n .eof) := by
  rw [streamInputs] at h
  cases n with
  | zero =>
    rw [if_neg fun he => Nat.lt_irrefl 0 (hn.2 he)] at h
    exact h
  | succ n =>
    rw [if_pos (hn.1 (Nat.succ_pos n))] at h
    intro p q hpq hquit f hf
    have hsplit : (stream.map .byte ++ [.eof]) ++ List.replicate n .eof = p ++ q := by
      rw [← hpq, List.append_assoc]
      rfl
    rcases List.append_eq_append_iff.1 hsplit with ⟨c, rfl, hc⟩ | ⟨c, hc, rfl⟩
    · -- the cut lies behind the first end of file
      obtain ⟨-, -, hq⟩ := List.append_eq_replicate_iff.1 hc.symm
      have hg : gather k.line ((stream.map .byte ++ [.eof]) ++ c) = [] := by
        obtain ⟨-, hcs, -⟩ := List.append_eq_replicate_iff.1 hc.symm
        rw [gather_append, gather_append, hcs]
        exact gather_eof _ c.length
      rw [hg, hq] at hf
      exact framed_eofs _ f hf
    · rw [framed_append] at hf
      rcases List.mem_append.1 hf with hf | hf
      · exact h p c hc hquit f hf
      · rw [← gather_append, ← hc, gather_append, show gather (gather k.line (stream.map .byte))
          [.eof] = [] from gather_eof _ 0] at hf
        exact framed_eofs _ f hf

/-- What a session has not read changes nothing. -/
theorem Tracks.rest_blank {k : Core} {stream : Bytes} {eof : Bool} {n : ℕ}
    {js ks : List MonitorInput} (hn : 0 < n ↔ eof = true)
    (hlast : k.QuitsLast (streamInputs stream eof))
    (his : stream.map .byte ++ List.replicate n .eof = js ++ ks)
    (hgone : (k.run js).quit = true ∨ .eof ∈ js) :
    ∀ f ∈ framed (gather k.line js) ks, f.blank = true := by
  rcases hgone with hquit | heof
  · exact hlast.eofs hn js ks his hquit
  · rcases List.append_eq_append_iff.1 his with ⟨c, rfl, hc⟩ | ⟨c, hc, -⟩
    · obtain ⟨-, hcs, hks⟩ := List.append_eq_replicate_iff.1 hc.symm
      have hpos : c.length ≠ 0 := by
        intro h0
        rw [List.length_eq_zero_iff.1 h0, List.append_nil] at heof
        obtain ⟨b, -, hb⟩ := List.mem_map.1 heof
        cases hb
      obtain ⟨m, hm⟩ := Nat.exists_eq_succ_of_ne_zero hpos
      rw [gather_append, hcs, hm, gather_eof, hks]
      exact framed_eofs _
    · have : MonitorInput.eof ∈ stream.map .byte := by
        rw [hc]
        exact List.mem_append_left _ heof
      obtain ⟨b, -, hb⟩ := List.mem_map.1 this
      cases hb

/-- A schedule whose responses fit gives what the stream calls for. -/
theorem Schedule.result {s : MonitorSession} (hs : s.Ready) (hreg : s.registered = true)
    {stream : Bytes} {eof : Bool} {es : List MonitorEvent} (h : Schedule s stream eof es)
    (hfit : Along monitorMachine ResponsesFit s es)
    (hlast : s.console.core.QuitsLast (streamInputs stream eof)) :
    (s.runs es).sent
        = s.said ++ (s.console.core.output (streamInputs stream eof)).flatten ∧
      (s.runs es).console.store = (s.console.core.run (streamInputs stream eof)).store := by
  obtain ⟨n, hinputs, hn⟩ := h.inputs
  have hstart : Tracks s.console.core s.said [] s :=
    ⟨hs, [], [], rfl, rfl, (List.append_nil _).symm, fun _ => rfl, fun hg => by
      rw [hreg] at hg
      cases hg⟩
  obtain ⟨-, js, ks, his, hcore, hsaid, hopen, hgone⟩ := hstart.runs h.calm hfit
  rw [List.nil_append, hinputs] at his
  have hblank : ∀ f ∈ framed (gather s.console.core.line js) ks, f.blank = true := by
    cases hr : (s.runs es).registered with
    | true =>
      rw [hopen hr]
      intro f hf
      cases hf
    | false => exact Tracks.rest_blank hn hlast his (hgone hr)
  rw [← Core.line_run] at hblank
  obtain ⟨hrun, hout⟩ := (s.console.core.run js).run_of_blank hblank
  obtain ⟨htotal, houtput⟩ := s.console.core.run_streamInputs stream hn
  rw [his, Core.run_append, hrun] at htotal
  rw [his, Core.output_append, hout, List.append_nil] at houtput
  constructor
  · have hsent : (s.runs es).said = (s.runs es).sent := by
      rw [MonitorSession.said, h.drained, List.append_nil]
    rw [← hsent, hsaid, houtput]
  · rw [← htotal]
    exact congrArg Core.store hcore

/-! ## Chunks that are served at once -/

section AtOnce

omit [Inet]

variable {bs : Bytes}

theorem calm_servedAtOnce : (servedAtOnce bs).Calm := by
  refine ⟨?_, fun st h => (by cases h)⟩
  intro h
  cases h

theorem inputs_servedAtOnce (hbs : bs ≠ []) (hlen : bs.length ≤ monitorBufferSize) :
    (servedAtOnce bs).inputs = bs.map .byte := by
  cases bs with
  | nil => exact absurd rfl hbs
  | cons b bs =>
    show ((b :: bs).take monitorBufferSize).map MonitorInput.byte = _
    rw [List.take_of_length_le hlen]

end AtOnce

variable {s : MonitorSession} {bs cs : Bytes}

theorem registered_servedAtOnce (hs : s.Ready) (hreg : s.registered = true) (hbs : bs ≠ [])
    (hlen : bs.length ≤ monitorBufferSize)
    (hquit : (s.console.core.run (bs.map .byte)).quit = false) :
    (monitorStep s (servedAtOnce bs)).registered = true := by
  have hserved := MonitorSession.served_step hs hreg (@calm_servedAtOnce bs).2
  rw [inputs_servedAtOnce hbs hlen] at hserved
  cases hr : (monitorStep s (servedAtOnce bs)).registered with
  | true => rfl
  | false =>
    rcases (hserved.gone hr).resolve_left calm_servedAtOnce.1 with ⟨-, hclose | heof⟩
    · have hcore := congrArg Core.quit hserved.core
      rw [hquit] at hcore
      exact absurd (hclose.symm.trans hcore) (by decide)
    · cases bs with
      | nil => exact absurd rfl hbs
      | cons b bs => cases heof

/-- One chunk. -/
theorem schedule_one (hs : s.Ready) (hreg : s.registered = true) (hbs : bs ≠ [])
    (hlen : bs.length ≤ monitorBufferSize) : Schedule s bs false [servedAtOnce bs] := by
  refine ⟨fun e he => ?_, ⟨0, ?_, by decide⟩, MonitorSession.pending_servedAtOnce hs hreg hbs⟩
  · rw [List.mem_singleton.1 he]
    exact calm_servedAtOnce
  · rw [List.flatMap_cons, List.flatMap_nil, inputs_servedAtOnce hbs hlen]
    rfl

/-- No more comes out of one chunk than `wb` holds. -/
theorem length_sent_one (hs : s.Ready) (hreg : s.registered = true) (hsent : s.sent = [])
    (hbs : bs ≠ []) : (s.runs [servedAtOnce bs]).sent.length ≤ monitorBufferSize := by
  have hserved := MonitorSession.served_step hs hreg (@calm_servedAtOnce bs).2
  have hsaid := hserved.said
  rw [MonitorSession.said, MonitorSession.pending_servedAtOnce hs hreg hbs, List.append_nil, hsent,
    List.nil_append] at hsaid
  show (monitorStep s (servedAtOnce bs)).sent.length ≤ _
  rw [hsaid]
  exact MonitorCommandsSession.length_pending_le _

/-- Two chunks. -/
theorem schedule_two (hs : s.Ready) (hreg : s.registered = true) (hbs : bs ≠ []) (hcs : cs ≠ [])
    (hlen : bs.length ≤ monitorBufferSize) (hlen' : cs.length ≤ monitorBufferSize)
    (hquit : (s.console.core.run (bs.map .byte)).quit = false) :
    Schedule s (bs ++ cs) false [servedAtOnce bs, servedAtOnce cs] := by
  refine ⟨fun e he => ?_, ⟨0, ?_, by decide⟩, MonitorSession.pending_servedAtOnce (hs.step _)
    (registered_servedAtOnce hs hreg hbs hlen hquit) hcs⟩
  · simp only [List.mem_cons, List.not_mem_nil, or_false] at he
    rcases he with rfl | rfl
    · exact calm_servedAtOnce
    · exact calm_servedAtOnce
  · rw [List.flatMap_cons, List.flatMap_cons, List.flatMap_nil, inputs_servedAtOnce hbs hlen,
      inputs_servedAtOnce hcs hlen', List.map_append, List.append_assoc]
    rfl

/-- Two chunks, each of which finds `wb` empty. -/
theorem fit_two (hs : s.Ready) (hreg : s.registered = true)
    (hempty : s.console.session.wb.pending = []) (hbs : bs ≠ []) (hcs : cs ≠ [])
    (hlen : bs.length ≤ monitorBufferSize)
    (hlen' : cs.length ≤ monitorBufferSize)
    (hfit : (s.console.core.output (bs.map .byte)).flatten.length ≤ monitorBufferSize)
    (hfit' : ((s.console.core.run (bs.map .byte)).output (cs.map .byte)).flatten.length
      ≤ monitorBufferSize) :
    Along monitorMachine ResponsesFit s [servedAtOnce bs, servedAtOnce cs] := by
  have hserved := MonitorSession.served_step hs hreg (@calm_servedAtOnce bs).2
  rw [inputs_servedAtOnce hbs hlen] at hserved
  refine ⟨fun _ => ?_, fun s' hs' => ⟨fun _ => ?_, fun _ _ => trivial⟩⟩
  · rw [MonitorCommandsSession.space_of_empty _ hempty, inputs_servedAtOnce hbs hlen]
    exact hfit
  · cases hs'
    rw [MonitorCommandsSession.space_of_empty _ (MonitorSession.pending_servedAtOnce hs hreg hbs),
      inputs_servedAtOnce hcs hlen', hserved.core]
    exact hfit'

end

/-- **Two schedules of one stream give the same bytes and the same store**, if in both of them the
responses to every chunk fit into what `wb` has free at that moment, and only blank lines follow a
`QUIT` in the stream. -/
theorem schedules_agree_along [Inet] (s : MonitorSession) (hs : s.Ready)
    (hreg : s.registered = true) (stream : Bytes) (eof : Bool) (es₁ es₂ : List MonitorEvent)
    (h₁ : Schedule s stream eof es₁) (h₂ : Schedule s stream eof es₂)
    (hfit₁ : Along monitorMachine ResponsesFit s es₁)
    (hfit₂ : Along monitorMachine ResponsesFit s es₂)
    (hlast : s.console.core.QuitsLast (streamInputs stream eof)) :
    (s.runs es₁).sent = (s.runs es₂).sent ∧
      (s.runs es₁).console.store = (s.runs es₂).console.store := by
  obtain ⟨hsent₁, hstore₁⟩ := h₁.result hs hreg hfit₁ hlast
  obtain ⟨hsent₂, hstore₂⟩ := h₂.result hs hreg hfit₂ hlast
  rw [hsent₁, hsent₂, hstore₁, hstore₂]
  exact ⟨rfl, rfl⟩

section Runs

attribute [local instance] InetText.inet

/-- Two commands in one chunk, and cut in the middle with a socket that takes a little at a time. -/
theorem schedules_agree_small :
    let s := MonitorSession.init storeCreate
    let one := [servedAtOnce (ascii "STATS\nUSERS\n")]
    let cut := [.readable (.data (ascii "STA")) .again, .readable (.data (ascii "TS\nUSERS\n")) (.ok 5),
      .writable (.ok monitorBufferSize)]
    (s.runs one).sent = (s.runs cut).sent ∧
      (s.runs one).console.store = (s.runs cut).console.store := by
  have hone : Schedule (.init storeCreate) (ascii "STATS\nUSERS\n") false
      [servedAtOnce (ascii "STATS\nUSERS\n")] := by
    refine ⟨?_, ⟨0, by decide +kernel, by decide⟩, by decide +kernel⟩
    intro e he
    rw [List.mem_singleton.1 he]
    exact ⟨fun h => (by cases h), fun st h => (by cases h)⟩
  have hcut : Schedule (.init storeCreate) (ascii "STATS\nUSERS\n") false
      [.readable (.data (ascii "STA")) .again, .readable (.data (ascii "TS\nUSERS\n")) (.ok 5),
        .writable (.ok monitorBufferSize)] := by
    refine ⟨?_, ⟨0, by decide +kernel, by decide⟩, by decide +kernel⟩
    intro e he
    simp only [List.mem_cons, List.not_mem_nil, or_false] at he
    rcases he with rfl | rfl | rfl <;> exact ⟨fun h => (by cases h), fun st h => (by cases h)⟩
  exact schedules_agree_along _ (MonitorSession.ready_init _) rfl _ false _ _ hone hcut
    (along_of_meets (by decide +kernel)) (along_of_meets (by decide +kernel)) (by decide +kernel)

/-- A store with thirty users of long names. -/
def thirty : MonitorStore :=
  { storeCreate with
    users := (List.range 30).map fun i =>
      ⟨true, List.replicate 62 97 ++ twoDigits i, ascii "pass", if i = 0 then .admin else .user⟩
    userCount := 30 }

/-- Asking twice for the users in one chunk gets less than asking twice. -/
theorem schedules_disagree_users :
    ¬ ∀ (s : MonitorSession), s.Ready → s.registered = true →
      ∀ (stream : Bytes) (eof : Bool) (es₁ es₂ : List MonitorEvent),
        Schedule s stream eof es₁ → Schedule s stream eof es₂ →
        (s.runs es₁).sent = (s.runs es₂).sent ∧
          (s.runs es₁).console.store = (s.runs es₂).console.store := by
  intro h
  have hready := MonitorSession.ready_loggedIn thirty
  have hbs : ascii "USERS\n" ≠ [] := by decide
  have hbs2 : ascii "USERS\n" ++ ascii "USERS\n" ≠ [] := by decide
  have hone := schedule_one hready rfl hbs2 (by decide)
  have htwo := schedule_two hready rfl hbs hbs (by decide) (by decide)
    (by decide +kernel)
  have hfit := fit_two hready rfl (Buffer.pending_init _) hbs hbs (by decide)
    (by decide) (by decide +kernel) (by decide +kernel)
  have hsent := (htwo.result hready rfl hfit (by decide +kernel)).1
  rw [← (h _ hready rfl _ _ _ _ hone htwo).1] at hsent
  have hshort := length_sent_one hready rfl rfl hbs2
  rw [hsent, List.length_append] at hshort
  have hlong : monitorBufferSize < (((MonitorSession.loggedIn thirty).console.core.output
      (streamInputs (ascii "USERS\n" ++ ascii "USERS\n") false)).flatten).length := by
    decide +kernel
  omega

end Runs

end SocksProxy
