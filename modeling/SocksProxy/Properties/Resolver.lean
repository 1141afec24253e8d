import SocksProxy.Properties.Lifetime

/-!
# Resolutions in flight

A resolver thread holds a pointer to the session that started it and the number of its client's
descriptor.  When it finishes it writes into the session and posts a notification that carries only
the number, and the notification is handled later, for whatever is registered under the number then.

`World.FlightsOk` says what makes this come out right: every resolution in flight belongs to a
different session, and that session, if it is still there, has the descriptor the notification will
carry and waits for it.  Three things break it.  The session can be closed while the thread runs, so
that the thread writes into freed memory; it can expire without going away, and then no longer
waits; and the number can be handed out again while a notification for it is queued.  A run in which
none of the three happens delivers every resolution to the session that started it, or to nobody
(`Event.orderly`).
-/

set_option autoImplicit false

namespace SocksProxy

/-! ## A session that expired is done -/

/-- A session that expired is in `SOCKS_ST_DONE`. -/
def Slot.TtlOk (sl : Slot) : Prop :=
  ∀ s, sl.sess = some s → s.ttlExpired = true → stmState s = .done

theorem SessionStep.ttlOk [Inet] {mode : Mode} {sl sl' : Slot} (h : SessionStep mode sl sl')
    (ht : sl.TtlOk) : sl'.TtlOk := by
  have hstay : ∀ {s s₁ : SocksSession}, sl.sess = some s → s₁.ttlExpired = s.ttlExpired →
      stmState s₁ = stmState s → ∀ s', some s₁ = some s' → s'.ttlExpired = true →
      stmState s' = .done := by
    rintro s s₁ hs he hst _ ⟨⟩ htrue
    rw [hst]
    exact ht s hs (he ▸ htrue)
  have hleave : ∀ {s s₁ : SocksSession}, sl.sess = some s → s₁.ttlExpired = s.ttlExpired →
      stmState s ≠ .done → ∀ s', some s₁ = some s' → s'.ttlExpired = true →
      stmState s' = .done := by
    rintro s s₁ hs he hst _ ⟨⟩ htrue
    exact absurd (ht s hs (he ▸ htrue)) hst
  cases h with
  | accept => rintro s ⟨⟩ ⟨⟩
  | discard | sendBlocked | forwardBlocked | armClient | armOrigin | block => exact ht
  | book sess stm_eq =>
    refine hstay sess rfl ?_
    rcases stm_eq with rfl | rfl <;> rfl
  | recv sess | greetMore sess | authMore sess | requestMore sess | send sess | forward sess
  | fetch sess | resolved sess => exact hstay sess rfl rfl
  | greetAccept sess st | authAccept sess st | lookup sess st | connected sess st =>
    exact hleave sess rfl (by simp [st])
  | dial sess deciding =>
    refine hleave sess deciding.ttlExpired_eq fun hd => ?_
    have := deciding.isPast_eq
    rw [hd] at this
    cases this
  | greetReject | authReject | refuse | expire => rintro s ⟨⟩ -; rfl
  | close => rintro s ⟨⟩

/-! ## Flights -/

/-- A resolution that is not handled yet: its session, the descriptor of its notification, and
whether the thread is still at it. -/
structure Flight where
  session : Sid
  fd : Fd
  running : Bool

/-- The resolutions in flight, when the notifications `jobs` are still to be handled. -/
def World.flights (w : World) (jobs : List BlockingJob) : List Flight :=
  w.threads.map (fun ctx => ⟨ctx.session, ctx.notifyFd, true⟩) ++
    jobs.map fun job => ⟨job.owner, job.fd, false⟩

/-- The session of a resolution, if it is still open, waits for it, unless it expired. -/
structure Aloft (w : World) (f : Flight) : Prop where
  used : (slot w f.session).used = true
  waits : ∀ s, w.sessions f.session = some s → s.clientFd = f.fd ∧
    (s.ttlExpired = true ∨ (slot w f.session).waiting = some f.running)

/-- The resolutions in flight are in order. -/
structure World.FlightsOk (w : World) (jobs : List BlockingJob) : Prop where
  nodup : ((w.flights jobs).map Flight.session).Nodup
  aloft : ∀ f ∈ w.flights jobs, Aloft w f
  registered : ∀ job ∈ jobs, ∀ item, w.fds job.fd = some item →
    item.handler = .client ∧ item.data = job.owner

section Flights

variable [Inet] {H : Set Fd} {mode : Mode} {lag stall : Bool} {w w' : World} {f : Flight}
  {jobs : List BlockingJob} {sid : Sid}

omit [Inet] in
theorem Aloft.of_slot (h : Aloft w f) (hs : slot w' f.session = slot w f.session) : Aloft w' f where
  used := hs ▸ h.used
  waits := fun s hs' => by
    have hs' : (slot w' f.session).sess = some s := hs'
    rw [hs] at hs' ⊢
    exact h.waits s hs'

/-- The session does nothing that the resolution could notice, or expires. -/
theorem Aloft.keeps (h : Aloft w f)
    (hsteps : SessionSteps mode (slot w f.session) (slot w' f.session))
    (hk : Keeps (slot w f.session) (slot w' f.session)) : Aloft w' f := by
  have hp := hsteps.persists h.used
  refine ⟨hp.used, fun s' hs' => ?_⟩
  obtain ⟨s, hs, hfd, ht⟩ := hp.sess s' hs'
  obtain ⟨hfd', hor⟩ := h.waits s hs
  refine ⟨hfd.trans hfd', ?_⟩
  rcases hk with hn | hw | ⟨s'', hs'', ht''⟩
  · rw [show (slot w' f.session).sess = some s' from hs'] at hn
    cases hn
  · exact hor.imp ht fun hrun => hw.trans hrun
  · rw [show (slot w' f.session).sess = some s' from hs'] at hs''
    cases hs''
    exact .inl ht''

omit [Inet] in
/-- A descriptor that is not handed out again does not change hands. -/
theorem registered_of_kinds (h : ∀ job ∈ jobs, ∀ item, w.fds job.fd = some item →
      item.handler = .client ∧ item.data = job.owner)
    (hk : ∀ fd, fd ∉ H → ∀ item', w'.fds fd = some item' →
      ∃ item, w.fds fd = some item ∧ item'.handler = item.handler ∧ item'.data = item.data)
    (hH : ∀ job ∈ jobs, job.fd ∉ H) : ∀ job ∈ jobs, ∀ item, w'.fds job.fd = some item →
      item.handler = .client ∧ item.data = job.owner := by
  intro job hjob item' hitem'
  obtain ⟨item, hitem, hh, hd⟩ := hk job.fd (hH job hjob) item' hitem'
  rw [hh, hd]
  exact h job hjob item hitem

/-- No resolution is started or given up. -/
theorem World.FlightsOk.undisturbed (h : w.FlightsOk jobs) (hc : Changes H mode lag stall w w')
    (hu : Undisturbed w w') (hH : ∀ job ∈ jobs, job.fd ∉ H) : w'.FlightsOk jobs := by
  have hfl : w'.flights jobs = w.flights jobs := by rw [flights, flights, hu.threads]
  refine ⟨by rw [hfl]; exact h.nodup, ?_, registered_of_kinds h.registered hc.kinds hH⟩
  rw [hfl]
  exact fun f hf => (h.aloft f hf).keeps (hc.acts f.session).steps (hu.keeps f.session)

omit [Inet] in
/-- A session that could start a resolution has none in flight. -/
theorem World.FlightsOk.not_mem (h : w.FlightsOk jobs) (ht : (slot w sid).TtlOk)
    (hs : ∃ s, (view w sid).sess = some s ∧ stmState s ≠ .resolving ∧ stmState s ≠ .done) :
    sid ∉ (w.flights jobs).map Flight.session := by
  intro hm
  obtain ⟨f, hf, rfl⟩ := List.mem_map.1 hm
  obtain ⟨s, hs, hres, hdone⟩ := hs
  rcases ((h.aloft f hf).waits s hs).2 with he | hw
  · exact hdone (ht s hs he)
  · rw [waiting_of_some (show (slot w f.session).sess = some s from hs), if_neg hres] at hw
    cases hw

/-- A resolution is started. -/
theorem World.FlightsOk.starts (h : w.FlightsOk jobs) (hok : (slot w sid).Ok)
    (ht : (slot w sid).TtlOk) (hc : Changes H mode lag stall w w')
    (hst : Starts sid (view w sid) (view w' sid))
    (hothers : ∀ sid', sid' ≠ sid → slot w' sid' = slot w sid')
    (hH : ∀ job ∈ jobs, job.fd ∉ H) : w'.FlightsOk jobs := by
  obtain ⟨hopen, fd, host, port, hth, hnew⟩ := hst
  have hnot := h.not_mem ht hopen
  have hth : w'.threads = ⟨sid, fd, host, port⟩ :: w.threads := hth
  have hfl : w'.flights jobs = ⟨sid, fd, true⟩ :: w.flights jobs := by
    rw [flights, flights, hth]
    rfl
  refine ⟨?_, ?_, registered_of_kinds h.registered hc.kinds hH⟩
  · rw [hfl]
    exact List.nodup_cons.2 ⟨hnot, h.nodup⟩
  · rw [hfl]
    intro f hf
    rcases List.mem_cons.1 hf with rfl | hf
    · obtain ⟨s, hs, -⟩ := hopen
      have hused := hok.used (by rw [show (slot w sid).sess = some s from hs]; simp)
      refine ⟨((hc.acts sid).steps.persists hused).used, fun s' hs' => ?_⟩
      exact ⟨(hnew s' hs').2, .inr (hnew s' hs').1⟩
    · refine (h.aloft f hf).of_slot (hothers _ fun heq => hnot ?_)
      exact heq ▸ List.mem_map_of_mem hf

end Flights

/-! ## A thread finishes -/

section Threads

variable {w : World} {i : ℕ} {ctx : DnsCtx} {s : SocksSession}
  {rc : GaiRc} {result : List SockAddr} {posted : Bool}

/-- The flights when the `i`-th thread is taken out of them. -/
theorem flights_of_thread (jobs : List BlockingJob) (hi : w.threads[i]? = some ctx) :
    ∃ before after,
    w.flights jobs = before ++ ⟨ctx.session, ctx.notifyFd, true⟩ :: after ∧
      ∀ s posted, (w.resolved i ctx s posted).flights jobs = before ++ after := by
  obtain ⟨hlt, hget⟩ := List.getElem?_eq_some_iff.1 hi
  refine ⟨(w.threads.take i).map fun ctx => ⟨ctx.session, ctx.notifyFd, true⟩,
    (w.threads.drop (i + 1)).map (fun ctx => ⟨ctx.session, ctx.notifyFd, true⟩) ++
      jobs.map fun job => ⟨job.owner, job.fd, false⟩, ?_, fun s posted => ?_⟩
  · have hsplit : w.threads = w.threads.take i ++ ctx :: w.threads.drop (i + 1) := by
      rw [← hget, List.getElem_cons_drop, List.take_append_drop]
    rw [World.flights]
    nth_rewrite 1 [hsplit]
    simp
  · rw [World.flights, show (w.resolved i ctx s posted).threads = w.threads.eraseIdx i from rfl,
      List.eraseIdx_eq_take_drop_succ]
    simp

/-- What the owner of a finished thread waits for. -/
theorem aloft_resolved (h : Aloft w ⟨ctx.session, ctx.notifyFd, true⟩)
    (hs : w.sessions ctx.session = some s) :
    Aloft (w.resolved i ctx (s.resolved rc result) posted) ⟨ctx.session, ctx.notifyFd, false⟩ := by
  have hslot : slot (w.resolved i ctx (s.resolved rc result) posted) ctx.session = _ :=
    slot_resolved_self hs
  refine ⟨by rw [hslot]; exact h.used, fun s' hs' => ?_⟩
  have hs' :
      (slot (w.resolved i ctx (s.resolved rc result) posted) ctx.session).sess = some s' := hs'
  rw [hslot] at hs' ⊢
  cases hs'
  obtain ⟨hfd, hor⟩ := h.waits s hs
  refine ⟨hfd, hor.imp id fun hw => ?_⟩
  rw [waiting_of_some (show (slot w ctx.session).sess = some s from hs)] at hw
  rw [waiting_of_some (show Slot.sess _ = some (s.resolved rc result) from rfl)]
  show (if stmState s = .resolving then some false else none) = some false
  split at hw
  · next hst => rw [if_pos hst]
  · cases hw

/-- The descriptor of an open session is registered as its client. -/
theorem registered_of_open (hinv : w.Inv) {sid : Sid} (hs : w.sessions sid = some s) {item : Item}
    (hitem : w.fds s.clientFd = some item) : item.handler = .client ∧ item.data = sid := by
  obtain ⟨i, hi⟩ := Option.ne_none_iff_exists'.1 ((hinv.slots sid).session s hs).client
  rw [fds_of_client hs hi] at hitem
  cases hitem
  exact ⟨rfl, rfl⟩

/-- A notification is queued for a session that waits for it. -/
theorem World.FlightsOk.post {jobs : List BlockingJob} {job : BlockingJob} (h : w.FlightsOk jobs)
    (hnot : job.owner ∉ (w.flights jobs).map Flight.session)
    (ha : Aloft w ⟨job.owner, job.fd, false⟩)
    (hr : ∀ item, w.fds job.fd = some item → item.handler = .client ∧ item.data = job.owner) :
    w.FlightsOk (job :: jobs) := by
  refine ⟨?_, fun f hf => ?_, fun job' hjob' => ?_⟩
  · have hn := h.nodup
    rw [flights, List.map_append] at hn hnot
    rw [flights, List.map_append, List.map_cons, List.map_cons, List.nodup_middle]
    exact List.nodup_cons.2 ⟨hnot, hn⟩
  · rcases List.mem_append.1 hf with hf | hf
    · exact h.aloft f (List.mem_append_left _ hf)
    · rcases List.mem_cons.1 hf with rfl | hf
      · exact ha
      · exact h.aloft f (List.mem_append_right _ hf)
  · rcases List.mem_cons.1 hjob' with rfl | hjob'
    · exact hr
    · exact h.registered job' hjob'

/-- A thread finishes while its session is open. -/
theorem World.FlightsOk.resolved (h : w.FlightsOk w.resolutionJobs) (hinv : w.Inv)
    (hi : w.threads[i]? = some ctx) (hs : w.sessions ctx.session = some s) :
    (w.resolved i ctx (s.resolved rc result) posted).FlightsOk
      (w.resolved i ctx (s.resolved rc result) posted).resolutionJobs := by
  obtain ⟨before, after, hfl, hfl'⟩ := flights_of_thread w.resolutionJobs hi
  have hn := h.nodup
  rw [hfl, List.map_append, List.map_cons, List.nodup_middle, ← List.map_append,
    List.nodup_cons] at hn
  have hthread : Aloft w ⟨ctx.session, ctx.notifyFd, true⟩ := h.aloft _ (by rw [hfl]; simp)
  have hrest : (w.resolved i ctx (s.resolved rc result) posted).FlightsOk w.resolutionJobs := by
    refine ⟨by rw [hfl']; exact hn.2, ?_, h.registered⟩
    rw [hfl']
    intro f hf
    have hmem : f ∈ w.flights w.resolutionJobs := by
      rw [hfl]
      exact List.mem_append.2 ((List.mem_append.1 hf).imp id (List.mem_cons_of_mem _))
    refine (h.aloft f hmem).of_slot (slot_resolved_of_ne fun heq => hn.1 ?_)
    exact List.mem_map.2 ⟨f, hf, heq⟩
  cases posted with
  | false => exact hrest
  | true =>
    refine hrest.post ?_ (aloft_resolved hthread hs) fun item hitem => ?_
    · rw [hfl']
      exact hn.1
    · have hfd := (hthread.waits s hs).1
      exact registered_of_open hinv hs (by rw [hfd]; exact hitem)

end Threads

/-! ## The notifications are handled -/

/-- The notification finds its own session still waiting, or nobody. -/
def Lands [Inet] (w : World) (job : BlockingJob) : Prop :=
  w.fds job.fd = none ∧ handleJob job w = .ok ((), w) ∨
    ∃ i s, w.fds job.fd = some ⟨.client, i, job.owner⟩ ∧ w.sessions job.owner = some s ∧
      stmState s = .resolving

/-- The session of a notification has not expired. -/
def Unexpired (w : World) (job : BlockingJob) : Prop :=
  ∀ s, w.sessions job.owner = some s → s.ttlExpired = false

section Jobs

variable [Inet] {H : Set Fd} {w w' : World} {job : BlockingJob} {jobs : List BlockingJob}

theorem World.FlightsOk.lands (h : w.FlightsOk (job :: jobs)) (hw : w.Wf H)
    (hun : Unexpired w job) : Lands w job := by
  cases hfd : w.fds job.fd with
  | none =>
    refine .inl ⟨hfd, ?_⟩
    have hget : (get : SocksM World) w = .ok (w, w) := rfl
    rw [handleJob, bind_of_ok hget, hfd]
    rfl
  | some item =>
    obtain ⟨hh, hd⟩ := h.registered job (List.mem_cons_self ..) item hfd
    obtain ⟨hd', i, sid⟩ := item
    obtain rfl : hd' = .client := hh
    obtain rfl : sid = job.owner := hd
    obtain ⟨s, hs, -⟩ := client_of_fds hw hfd
    refine .inr ⟨i, s, hfd, hs, ?_⟩
    have ha : Aloft w ⟨job.owner, job.fd, false⟩ := h.aloft _ (by simp [flights])
    rcases (ha.waits s hs).2 with he | hwait
    · rw [hun s hs] at he
      cases he
    · rw [waiting_of_some (show (slot w job.owner).sess = some s from hs)] at hwait
      by_contra hst
      rw [if_neg hst] at hwait
      cases hwait

omit [Inet] in
/-- The rest of the queue, once the first notification is handled. -/
theorem World.FlightsOk.tail (h : w.FlightsOk (job :: jobs)) :
    w.FlightsOk jobs ∧ ∀ f ∈ w.flights jobs, f.session ≠ job.owner := by
  have hn := h.nodup
  rw [flights, List.map_append, List.map_cons, List.map_cons, List.nodup_middle, ← List.map_append,
    List.nodup_cons] at hn
  refine ⟨⟨hn.2, fun f hf => h.aloft f ?_, fun j hj => h.registered j (List.mem_cons_of_mem _ hj)⟩,
    fun f hf heq => hn.1 (List.mem_map.2 ⟨f, hf, heq⟩)⟩
  exact List.mem_append.2 ((List.mem_append.1 hf).imp id (List.mem_cons_of_mem _))

/-- What is still to be handled is not touched by a notification. -/
theorem World.FlightsOk.deliver (h : w.FlightsOk (job :: jobs)) (hd : Delivers H w job w')
    (hH : ∀ job ∈ jobs, job.fd ∉ H) (hun : ∀ job ∈ jobs, Unexpired w job) :
    w'.FlightsOk jobs ∧ ∀ job ∈ jobs, Unexpired w' job := by
  obtain ⟨htail, hne⟩ := h.tail
  cases hd with
  | dropped _ same =>
    rw [same]
    exact ⟨htail, hun⟩
  | @delivered i sid s item sess fd frame unblocks =>
    obtain rfl : sid = job.owner := (h.registered job (List.mem_cons_self ..) _ item).2
    have hth : w'.threads = w.threads := unblocks.threads
    have hfl : w'.flights jobs = w.flights jobs := by rw [flights, flights, hth]
    refine ⟨⟨by rw [hfl]; exact htail.nodup, ?_,
      registered_of_kinds htail.registered frame.kinds hH⟩, fun j hj s' hs' => ?_⟩
    · rw [hfl]
      exact fun f hf => (htail.aloft f hf).of_slot (frame.others _ (hne f hf))
    · have hslot := frame.others j.owner
        (hne ⟨j.owner, j.fd, false⟩ (List.mem_append_right _ (List.mem_map_of_mem hj)))
      have hs' : (slot w' j.owner).sess = some s' := hs'
      rw [hslot] at hs'
      exact hun j hj s' hs'

/-- Handling the first notifications leaves the others as they were. -/
theorem sat_handleJobs_flights (rest : List BlockingJob) (hw : w.Wf H)
    (hok : ∀ sid, (slot w sid).Ok)
    (h : w.FlightsOk (jobs ++ rest)) (hH : ∀ job ∈ jobs ++ rest, job.fd ∉ H)
    (hun : ∀ job ∈ jobs ++ rest, Unexpired w job) :
    Sat (handleJobs jobs) w
      (fun _ w' => w'.Wf H ∧ w'.FlightsOk rest ∧ ∀ job ∈ rest, Unexpired w' job)
      fun f => f = .useAfterFree := by
  induction jobs generalizing w with
  | nil => exact ⟨hw, h, hun⟩
  | cons job jobs ih =>
    have hlands := World.FlightsOk.lands h hw (hun job (List.mem_cons_self ..))
    rw [handleJobs, sat_bind]
    refine (sat_handleJob hw hok).mono ?_ ?_
    · rintro _ w₁ ⟨hw₁, hd⟩
      obtain ⟨h₁, hun₁⟩ := World.FlightsOk.deliver h hd
        (fun j hj => hH j (List.mem_cons_of_mem _ hj)) fun j hj => hun j (List.mem_cons_of_mem _ hj)
      exact ih hw₁ (hd.changes.ok hok) h₁ (fun j hj => hH j (List.mem_cons_of_mem _ hj)) hun₁
    · intro f hf
      cases hf with
      | nullHandler fault registered handler =>
        exact absurd (h.registered job (List.mem_cons_self ..) _ registered).1 handler
      | block item sess fault =>
        rcases fault with ⟨-, hst⟩ | ⟨hf, -⟩
        · rcases hlands with ⟨hn, -⟩ | ⟨i', s', hitem, hs', hst'⟩
          · rw [hn] at item
            cases item
          · rw [hitem] at item
            cases item
            rw [hs'] at sess
            cases sess
            exact absurd hst' hst
        · exact hf

end Jobs

/-! ## Runs -/

/-- The system hands the descriptor out during the event. -/
def Event.handsOut : Event → Fd → Bool
  | .readable _ env, fd => env.socket.contains (some fd) || env.accept.contains (some fd)
  | .writable _ env, fd => env.socket.contains (some fd) || env.accept.contains (some fd)
  | .notifications env, fd => env.socket.contains (some fd) || env.accept.contains (some fd)
  | .expire env, fd => env.socket.contains (some fd) || env.accept.contains (some fd)
  | .monitorOpen fd' _, fd => decide (fd' = fd)
  | _, _ => false

/-- No descriptor with a notification queued is handed out; a thread that finishes finds its session
open; and no session has expired whose notification is about to be handled. -/
def Event.orderly (w : World) (e : Event) : Bool :=
  (w.resolutionJobs.all fun job => !e.handsOut job.fd) &&
    match e with
    | .resolved i _ _ _ => (w.threads[i]?).all fun ctx => (w.sessions ctx.session).isSome
    | .notifications _ => w.resolutionJobs.all fun job =>
      (w.sessions job.owner).all fun s => !s.ttlExpired
    | _ => true

/-- What is promised about the resolutions in flight when an event happens. -/
structure Settles [Inet] (w : World) (e : Event) : Prop where
  /-- `stm_handler_block` does not abort. -/
  noAbort : step w e ≠ .error .abort
  /-- `handle_block` is not called where there is none. -/
  noNullHandler : step w e ≠ .error .nullHandler
  /-- A thread that finishes touches its own session, if any. -/
  thread : ∀ i rc result posted, e = .resolved i rc result posted → ∃ w', step w e = .ok w' ∧
    ∀ sid, (∀ ctx, w.threads[i]? = some ctx → ctx.session ≠ sid) → slot w' sid = slot w sid
  /-- A notification reaches the session that asked for it, while it waits, or nobody. -/
  lands : ∀ w₁ job, Calls w e w₁ (.block job) → Lands w₁ job

section Orderly

variable [Inet] {w w' : World} {e : Event}

/-- What holds between two events of an orderly run. -/
structure World.Flying (w : World) : Prop where
  inv : w.Inv
  ttl : ∀ sid, (slot w sid).TtlOk
  flights : w.FlightsOk w.resolutionJobs

omit [Inet] in
theorem World.FlightsOk.withEnv {jobs : List BlockingJob} (h : w.FlightsOk jobs) (env : Env) :
    World.FlightsOk { w with env := env } jobs :=
  ⟨h.nodup, fun f hf => ⟨(h.aloft f hf).used, (h.aloft f hf).waits⟩, h.registered⟩

omit [Inet] in
theorem not_handsOut_of_orderly (h : e.orderly w = true) :
    ∀ job ∈ w.resolutionJobs, job.fd ∉ {fd | e.handsOut fd = true} := by
  intro job hjob hfd
  unfold Event.orderly at h
  rw [Bool.and_eq_true, List.all_eq_true] at h
  have := h.1 job hjob
  rw [show e.handsOut job.fd = true from hfd] at this
  cases this

omit [Inet] in
theorem handsOut_of_contains {env : Env} {H : Set Fd}
    (h : ∀ fd, (env.socket.contains (some fd) || env.accept.contains (some fd)) = true → fd ∈ H) :
    env.HandsOut H :=
  ⟨fun fd hfd => h fd (by simp [hfd]), fun fd hfd => h fd (by simp [hfd])⟩

/-- An event that runs a handler keeps the flights in order. -/
theorem World.Flying.dispatched {env : Env} {H : Set Fd} {late lag stall : Bool} (h : w.Flying)
    (hH : ∀ job ∈ w.resolutionJobs, job.fd ∉ H)
    (hd : Dispatched H late lag stall { w with env := env } w') :
    w'.FlightsOk w'.resolutionJobs := by
  have hj : w'.resolutionJobs = w.resolutionJobs := hd.changes.jobs
  rw [hj]
  rcases hd.lookups with hu | ⟨sid, hst, hothers⟩
  · exact (h.flights.withEnv env).undisturbed hd.changes hu hH
  · exact (h.flights.withEnv env).starts (h.inv.slots sid) (h.ttl sid) hd.changes hst hothers hH

omit [Inet] in
/-- The monitor takes or gives up a descriptor nobody is to be notified on. -/
theorem World.FlightsOk.setFd_monitor {jobs : List BlockingJob} {fd : Fd} {item? : Option Item}
    (h : w.FlightsOk jobs) (hold : ∀ item, w.fds fd = some item → item.handler = .monitor)
    (hnew : ∀ item, item? = some item → item.handler = .monitor)
    (hne : ∀ job ∈ jobs, item? = none ∨ job.fd ≠ fd) : (w.setFd fd item?).FlightsOk jobs := by
  refine ⟨h.nodup, fun f hf => (h.aloft f hf).of_slot (slot_setFd_monitor hold hnew _), ?_⟩
  intro job hjob item hitem
  rw [fds_setFd] at hitem
  split at hitem
  · next heq =>
    rcases hne job hjob with hn | hfd
    · rw [hn] at hitem
      cases hitem
    · exact absurd heq hfd
  · exact h.registered job hjob item hitem

/-- The queue is handled to its end. -/
theorem sat_notifications_flights {H : Set Fd} (hw : w.Wf H) (hok : ∀ sid, (slot w sid).Ok)
    (h : w.FlightsOk w.resolutionJobs) (hH : ∀ job ∈ w.resolutionJobs, job.fd ∉ H)
    (hun : ∀ job ∈ w.resolutionJobs, Unexpired w job) :
    Sat handleBlockNotifications w (fun _ w' => w'.FlightsOk w'.resolutionJobs)
      fun f => f = .useAfterFree := by
  rw [handleBlockNotifications, sat_bind, sat_get, sat_bind]
  refine (sat_handleJobs_flights [] hw hok (by simpa using h) (by simpa using hH)
    (by simpa using hun)).mono ?_ fun _ hf => hf
  rintro _ w₁ ⟨-, h₁, -⟩
  rw [sat_modify]
  exact ⟨h₁.nodup, fun f hf => ⟨(h₁.aloft f hf).used, (h₁.aloft f hf).waits⟩, h₁.registered⟩

omit [Inet] in
theorem unexpired_of_orderly {env : Env} (h : Event.orderly w (.notifications env) = true) :
    ∀ job ∈ w.resolutionJobs, Unexpired w job := by
  intro job hjob s hs
  rw [Event.orderly, Bool.and_eq_true] at h
  have := List.all_eq_true.1 h.2 job hjob
  rw [hs] at this
  simpa using this

omit [Inet] in
theorem open_of_orderly {i : ℕ} {rc : GaiRc} {result : List SockAddr} {posted : Bool} {ctx : DnsCtx}
    (h : Event.orderly w (.resolved i rc result posted) = true)
    (hi : w.threads[i]? = some ctx) : w.sessions ctx.session ≠ none := by
  rw [Event.orderly, Bool.and_eq_true] at h
  have hsome := h.2
  rw [hi] at hsome
  exact Option.isSome_iff_ne_none.1 hsome

/-- An orderly event keeps the flights in order. -/
theorem World.Flying.step (h : w.Flying) (ho : e.orderly w = true)
    (hstep : SocksProxy.step w e = .ok w') : w'.Flying := by
  have hH := not_handsOut_of_orderly ho
  refine ⟨(step_acts h.inv hstep).1,
    slots_of_step (fun hs _ ht => hs.ttlOk ht) h.inv h.ttl hstep, ?_⟩
  cases e with
  | readable fd env =>
    have hw := h.inv.wf (handsOut_of_contains (H := {fd' | (Event.readable fd env).handsOut fd' =
      true})
      fun _ hfd => hfd)
    have hsat : Sat (Event.program (.readable fd env)) w _ _ := (sat_bind ..).2 ((sat_modify _).2
      (sat_dispatchRead hw h.inv.slots))
    exact h.dispatched hH (step_of_sat hsat hstep).1
  | writable fd env =>
    have hw := h.inv.wf (handsOut_of_contains (H := {fd' | (Event.writable fd env).handsOut fd' =
      true})
      fun _ hfd => hfd)
    have hsat : Sat (Event.program (.writable fd env)) w _ _ := (sat_bind ..).2 ((sat_modify _).2
      (sat_dispatchWrite hw h.inv.slots))
    exact h.dispatched hH (step_of_sat hsat hstep).1
  | resolved i rc result posted =>
    have hsat : Sat (Event.program (.resolved i rc result posted)) w _ _ := sat_dnsThread
    cases step_of_sat hsat hstep with
    | none _ same => rw [same]; exact h.flights
    | some thread sess world => rw [world]; exact h.flights.resolved h.inv thread sess
  | notifications env =>
    have hw := h.inv.wf (handsOut_of_contains
      (H := {fd' | (Event.notifications env).handsOut fd' = true}) fun _ hfd => hfd)
    have hsat : Sat (Event.program (.notifications env)) w _ _ := (sat_bind ..).2
      ((sat_modify _).2 (sat_notifications_flights hw h.inv.slots (h.flights.withEnv env) hH
        (unexpired_of_orderly ho)))
    exact step_of_sat hsat hstep
  | expire env =>
    have hw := h.inv.wf (handsOut_of_contains
      (H := {fd' | (Event.expire env).handsOut fd' = true}) fun _ hfd => hfd)
    have hsat : Sat (Event.program (.expire env)) w _ (fun _ => True) := (sat_bind ..).2
      ((sat_modify _).2 (sat_expireIdle hw h.inv.slots))
    have hc := step_of_sat hsat hstep
    rw [show w'.resolutionJobs = w.resolutionJobs from hc.changes.jobs]
    exact (h.flights.withEnv env).undisturbed hc.changes hc.undisturbed hH
  | tick n =>
    cases hstep
    exact ⟨h.flights.nodup, fun f hf => ⟨(h.flights.aloft f hf).used, (h.flights.aloft f hf).waits⟩,
      h.flights.registered⟩
  | admin op =>
    cases hstep
    exact ⟨h.flights.nodup, fun f hf => ⟨(h.flights.aloft f hf).used, (h.flights.aloft f hf).waits⟩,
      h.flights.registered⟩
  | monitorOpen fd i =>
    have hsat : Sat (Event.program (.monitorOpen fd i)) w
        (fun _ w' => w' = w ∨ w.fds fd = none ∧ w' = w.setFd fd (some ⟨.monitor, i, 0⟩))
        (fun _ => True) := sat_monitorAccept
    rcases step_of_sat hsat hstep with rfl | ⟨hfd, rfl⟩
    · exact h.flights
    · refine h.flights.setFd_monitor (by simp [hfd]) (by simp) fun job hjob => .inr fun heq => ?_
      exact hH job hjob (by simp [Event.handsOut, heq])
  | monitorClose fd =>
    have hsat : Sat (Event.program (.monitorClose fd)) w
        (fun _ w' => w' = w ∨ (∃ i sid, w.fds fd = some ⟨.monitor, i, sid⟩) ∧ w' = w.setFd fd none)
        (fun _ => True) := sat_monitorRelease
    rcases step_of_sat hsat hstep with rfl | ⟨⟨i, sid, hfd⟩, rfl⟩
    · exact h.flights
    · refine h.flights.setFd_monitor (fun item hi => ?_) (by simp) fun job hjob => .inl rfl
      rw [hfd] at hi
      cases hi
      rfl

/-- An orderly event faults by touching a freed session, or not at all. -/
theorem World.Flying.fault {f : Fault} (h : w.Flying) (ho : e.orderly w = true)
    (hstep : SocksProxy.step w e = .error f) : f = .useAfterFree := by
  have hH := not_handsOut_of_orderly ho
  cases e with
  | readable fd env =>
    have hsat : Sat (Event.program (.readable fd env)) w _ _ := (sat_bind ..).2 ((sat_modify _).2
      (sat_dispatchRead (h.inv.wf env.handsOut_univ) h.inv.slots))
    exact (fault_of_sat hsat hstep).1
  | writable fd env =>
    have hsat : Sat (Event.program (.writable fd env)) w _ _ := (sat_bind ..).2 ((sat_modify _).2
      (sat_dispatchWrite (h.inv.wf env.handsOut_univ) h.inv.slots))
    exact (fault_of_sat hsat hstep).1
  | resolved i rc result posted =>
    have hsat : Sat (Event.program (.resolved i rc result posted)) w _ _ := sat_dnsThread
    exact (fault_of_sat hsat hstep).1
  | notifications env =>
    have hw := h.inv.wf (handsOut_of_contains
      (H := {fd' | (Event.notifications env).handsOut fd' = true}) fun _ hfd => hfd)
    have hsat : Sat (Event.program (.notifications env)) w _ (fun f => f = .useAfterFree) :=
      (sat_bind ..).2 ((sat_modify _).2 (sat_notifications_flights hw h.inv.slots
        (h.flights.withEnv env) hH (unexpired_of_orderly ho)))
    have hfault := fault_of_sat hsat hstep
    exact hfault
  | expire env =>
    have hsat : Sat (Event.program (.expire env)) w _ (fun _ => False) := (sat_bind ..).2
      ((sat_modify _).2 (sat_expireIdle (h.inv.wf env.handsOut_univ) h.inv.slots))
    exact (fault_of_sat hsat hstep).elim
  | tick n => cases hstep
  | admin op => cases hstep
  | monitorOpen fd i =>
    have hsat : Sat (Event.program (.monitorOpen fd i)) w
        (fun _ w' => w' = w ∨ w.fds fd = none ∧ w' = w.setFd fd (some ⟨.monitor, i, 0⟩))
        (fun _ => False) := sat_monitorAccept
    exact (fault_of_sat hsat hstep).elim
  | monitorClose fd =>
    have hsat : Sat (Event.program (.monitorClose fd)) w
        (fun _ w' => w' = w ∨ (∃ i sid, w.fds fd = some ⟨.monitor, i, sid⟩) ∧ w' = w.setFd fd none)
        (fun _ => False) := sat_monitorRelease
    exact (fault_of_sat hsat hstep).elim

omit [Inet] in
/-- A thread that finishes changes its own session only. -/
theorem Resolves.others {i : ℕ} {rc : GaiRc} {result : List SockAddr} {posted : Bool}
    (h : Resolves w i rc result posted w') {sid : Sid}
    (hne : ∀ ctx, w.threads[i]? = Option.some ctx → ctx.session ≠ sid) :
    slot w' sid = slot w sid := by
  cases h with
  | none _ same => rw [same]
  | some thread _ world =>
    rw [world]
    exact slot_resolved_of_ne (hne _ thread).symm

/-- What is promised about an orderly event. -/
theorem World.Flying.settles (h : w.Flying) (ho : e.orderly w = true) : Settles w e where
  noAbort := fun hstep => by cases h.fault ho hstep
  noNullHandler := fun hstep => by cases h.fault ho hstep
  thread := by
    rintro i rc result posted rfl
    have hsat : Sat (Event.program (.resolved i rc result posted)) w _ _ := sat_dnsThread
    cases hstep : SocksProxy.step w (.resolved i rc result posted) with
    | ok w' => exact ⟨w', rfl, fun sid hne => (step_of_sat hsat hstep).others hne⟩
    | error f =>
      obtain ⟨-, ctx, hi, hn⟩ := fault_of_sat hsat hstep
      exact absurd hn (open_of_orderly ho hi)
  lands := by
    intro w₁ job hc
    cases hc with
    | @block env jobs rest _ _ queue handled =>
      have hH := not_handsOut_of_orderly ho
      have hun := unexpired_of_orderly ho
      rw [queue] at hH hun
      have hfl : w.FlightsOk (jobs ++ job :: rest) := queue ▸ h.flights
      have hw := h.inv.wf (handsOut_of_contains
        (H := {fd' | (Event.notifications env).handsOut fd' = true}) fun _ hfd => hfd)
      obtain ⟨hw₁, hfl₁, hun₁⟩ := (sat_of_ok handled).1
        (sat_handleJobs_flights (job :: rest) hw h.inv.slots (hfl.withEnv env) hH hun)
      exact hfl₁.lands hw₁ (hun₁ job (List.mem_cons_self ..))

end Orderly

/-- **A resolution reaches the session that asked for it, unless one of three things happens to
it.**  In every run in which a thread that finishes finds its session open, no descriptor with a
notification queued is handed out again, and no session whose notification is about to be handled
has expired: `stm_handler_block` never aborts, `handle_block` is never called where there is none, a
thread that finishes touches its own session only, and every notification reaches the session that
asked for it while it is in `SOCKS_ST_RESOLVING`, or nobody. -/
theorem resolutions_settle_along [Inet] (listenFd monitorFd : Fd) (es : List Event)
    (h : Along step (fun w e => e.orderly w = true) (World.boot listenFd monitorFd) es) :
    Along step Settles (World.boot listenFd monitorFd) es := by
  refine along_of_along (I := World.Flying) (fun _ _ _ hI hC hstep => hI.step hC hstep)
    (fun _ _ hI hC => hI.settles hC) ⟨boot_inv .., fun sid => ?_, ?_⟩ h
  · rintro s ⟨⟩
  · refine ⟨List.nodup_nil, fun f hf => ?_, fun job hjob => ?_⟩
    · cases hf
    · cases hjob

section Runs

attribute [local instance] InetText.inet

/-- A client asks for a name. -/
def asked : List Event :=
  [.admin (.config .timeout 60 true)] ++ greeted ++
    [.readable 7 { read := [.data [5, 1, 0, 3, 1, 97, 0, 80]] }]

/-- Its name is resolved, and the connection is made. -/
def answered : List Event :=
  asked ++ [.resolved 0 .ok [.inet home 80] true, .notifications { socket := [some 8] }]

theorem resolutions_settle_answered :
    Along step (fun w e => e.orderly w = true) (World.boot 3 4) answered ∧
      Along step Settles (World.boot 3 4) answered :=
  have h : Along step (fun w e => e.orderly w = true) (World.boot 3 4) answered :=
    along_of_meets (by decide +kernel)
  ⟨h, resolutions_settle_along 3 4 answered h⟩

/-- The run stops with this fault. -/
def stopsWith (f : Fault) : Except Fault World → Bool
  | .ok _ => false
  | .error g => decide (g = f)

theorem eq_of_stopsWith {f : Fault} {r : Except Fault World} (h : stopsWith f r = true) :
    r = .error f := by
  cases r with
  | ok w => cases h
  | error g => rw [of_decide_eq_true (show decide (g = f) = true from h)]

/-- A session that expires while it waits is notified in `SOCKS_ST_DONE`; one whose client is gone
has its notification delivered to the monitor; and one that is closed is written to by its
thread. -/
theorem resolutions_go_astray :
    run step (World.boot 3 4) (asked ++ [.tick 60, .expire { write := [.again] },
      .resolved 0 .ok [.inet #v[10, 0, 0, 1] 80] true, .notifications {}]) = .error .abort ∧
    run step (World.boot 3 4) (asked ++ [.resolved 0 .ok [.inet #v[10, 0, 0, 1] 80] true,
      .readable 7 { read := [.data []] }, .monitorOpen 7 opRead, .notifications {}]) =
        .error .nullHandler ∧
    run step (World.boot 3 4) (asked ++ [.readable 7 { read := [.data []] },
      .resolved 0 .ok [.inet #v[10, 0, 0, 1] 80] true]) = .error .useAfterFree :=
  ⟨eq_of_stopsWith (by decide +kernel), eq_of_stopsWith (by decide +kernel),
    eq_of_stopsWith (by decide +kernel)⟩

end Runs

end SocksProxy
