import SocksProxy.Shared.InetText
import SocksProxy.Socks.Course

/-!
# Falling back on the next address

A name can have several addresses, and the proxy is to try them one after another before it tells
the client that the host cannot be reached.  `Tracked` is the invariant: whatever the record of a
session says was tried (`Trials.lean`), the session is on the course that goes with it
(`Course.lean`).  Each event keeps it, so it holds of every run.

Two things end the search early.  An idle session is told `SOCKS_REP_TTL_EXPIRED` in the middle of
it, as it is in any other state before the tunnel.  And a failure on the server's own side, of
`socket()`, of the non-blocking set-up or of the registration, is answered at once, although the
next address might do.
-/

set_option autoImplicit false

namespace SocksProxy

/-! ## The invariant -/

/-- The record of a session and the session agree. -/
structure Tracked (ts : List Trial) (sl : Slot) : Prop where
  hushed : sl.Hushed
  course : ∀ pre addrs ts', ts = pre ++ .listed addrs :: ts' →
    sl.used = true ∧ Course addrs ts' sl

section Tracked

variable {ts ts' : List Trial} {sl sl' : Slot} {mode : Mode}

theorem Slot.Over.not_connecting (h : sl.Over) : ¬ sl.Connecting := by
  rintro ⟨s, hs, hst⟩
  have := h s hs
  rw [hst] at this
  cases this

/-- Nothing was tried, and the session is past the search unless a connection is under way. -/
theorem Tracked.move [Inet] (h : Tracked ts sl) (hok : sl.Ok) (hsteps : SessionSteps mode sl sl')
    (hl : sl.Connecting → Lapses sl sl') : Tracked ts sl' where
  hushed := SessionSteps.keeps SessionStep.hushed hsteps hok h.hushed
  course := fun pre addrs ts' heq => by
    obtain ⟨hu, hc⟩ := h.course pre addrs ts' heq
    refine ⟨(hsteps.persists hu).used, ?_⟩
    by_cases hcon : sl.Connecting
    · exact hc.lapses (hl hcon)
    · cases hc with
      | trying sess st => exact absurd ⟨_, sess, st⟩ hcon
      | settled past order tries warrants =>
        exact hsteps.course_over hok hu past (.settled past order tries warrants)

/-- Something was tried, and the session is on the course that goes with it. -/
theorem Tracked.extend [Inet] (h : Tracked ts sl) (hok : sl.Ok) (hsteps : SessionSteps mode sl sl')
    (hu : sl.used = true) (hc : ∀ pre addrs ts'', ts ++ ts' = pre ++ .listed addrs :: ts'' →
      Course addrs ts'' sl') : Tracked (ts ++ ts') sl' where
  hushed := SessionSteps.keeps SessionStep.hushed hsteps hok h.hushed
  course := fun pre addrs ts'' heq => ⟨(hsteps.persists hu).used, hc pre addrs ts'' heq⟩

end Tracked

/-! ## Accepting and expiring -/

/-- The sessions that were there are as they were. -/
def Spares (w w' : World) : Prop :=
  ∀ sid, sid < w.nextSid → sid < w'.nextSid ∧ slot w' sid = slot w sid

section Loops

variable [Inet] {H : Set Fd} {w w' w'' : World} {E : Fault → Prop}

omit [Inet] in
theorem Spares.refl : Spares w w := fun _ h => ⟨h, rfl⟩

omit [Inet] in
theorem Spares.trans (h : Spares w w') (h' : Spares w' w'') : Spares w w'' := fun sid hlt => by
  obtain ⟨hlt', heq⟩ := h sid hlt
  obtain ⟨hlt'', heq'⟩ := h' sid hlt'
  exact ⟨hlt'', heq'.trans heq⟩

omit [Inet] in
theorem sat_openSession_spares {fd : Fd} (hfd : w.fds fd = none) (id : UInt32) :
    Sat (do
      let w ← get
      let sid := w.nextSid
      set { w with
        nextSid := sid + 1
        sessions := Function.update w.sessions sid (some (socksSessionInit fd
          (storeConfigGet w.store .ioBufferSize) w.clock id)) }
      if ← selectorRegister fd ⟨.client, opRead, sid⟩ then
        modify fun w => { w with
          activeSessions := w.activeSessions + 1
          idle := w.idle.pushTail sid }
      else
        onStore (.finish id)
        modify fun w => { w with sessions := Function.update w.sessions sid none } : SocksM Unit)
      w (fun _ w' => Spares w w') E := by
  have hroom : ∀ w' : World, (view w' w.nextSid).hasRoom fd =
    (decide (fd < selectorItemsMaxSize) && w'.env.room.headD true) := fun _ => rfl
  rw [sat_bind, sat_get, sat_bind, sat_set, sat_bind,
    sat_of_ok (selectorRegister_eq w.nextSid (by exact hfd))]
  simp only [hroom]
  cases decide (fd < selectorItemsMaxSize) && w.env.room.headD true with
  | true =>
    rw [if_pos rfl, if_pos rfl, sat_modify]
    refine fun sid hlt => ⟨Nat.lt_succ_of_lt hlt, ?_⟩
    have hslot : slot { w with env := { w.env with room := w.env.room.tail } } sid = slot w sid :=
      rfl
    rw [← hslot]
    exact slot_accepted_of_ne hfd (Nat.ne_of_lt hlt)
  | false =>
    rw [if_neg (by simp), if_neg (by simp), sat_bind,
      sat_of_ok (show onStore _ _ = .ok (_, _) from rfl), sat_modify]
    refine fun sid hlt => ⟨Nat.lt_succ_of_lt hlt, ?_⟩
    have hne : sid ≠ w.nextSid := Nat.ne_of_lt hlt
    have hnext : slot { w with nextSid := w.nextSid + 1 } sid = slot w sid := by
      rw [slot, used_next hne]
      rfl
    rw [← hnext]
    refine slot_congr ?_ (fun _ _ => rfl) rfl rfl rfl
    exact (Function.update_of_ne hne ..).trans (Function.update_of_ne hne ..)

omit [Inet] in
theorem sat_acceptOne_spares {fd : Fd} (hfd : w.fds fd = none) :
    Sat (acceptOne fd) w (fun _ w' => Spares w w') E := by
  have hsame : ∀ {env : Env} {st : MonitorStore} {acts : List StoreAct},
      Spares w { w with env := env, store := st, acts := acts } := fun _ hlt => ⟨hlt, rfl⟩
  rw [acceptOne, sat_bind, sat_of_ok (show sysNio w = .ok (_, _) from rfl)]
  split
  · rw [sat_bind, sat_get, sat_bind, sat_of_ok (show onStore _ _ = .ok (_, _) from rfl)]
    dsimp only
    split
    · exact hsame
    · rw [sat_bind, sat_of_ok (show sysAlloc _ = .ok (_, _) from rfl)]
      split
      · rw [sat_bind, sat_of_ok (show sysAlloc _ = .ok (_, _) from rfl), sat_bind,
          sat_of_ok (show sysAlloc _ = .ok (_, _) from rfl)]
        split
        · exact (sat_openSession_spares (by exact hfd) _).mono (fun _ _ h => h) fun _ hf => hf
        · exact hsame
      · exact hsame
  · exact hsame

omit [Inet] in
/-- `socks_passive_read` leaves every session alone that is there already. -/
theorem sat_acceptLoop_spares {n : ℕ} : Sat (acceptLoop n) w (fun _ w' => Spares w w') E := by
  induction n generalizing w with
  | zero => exact Spares.refl
  | succ n ih =>
    rw [acceptLoop, sat_bind, sat_of_ok (show sysAccept w = .ok (_, _) from rfl)]
    cases hans : w.freshFd (w.env.accept.headD none) with
    | none => exact fun _ hlt => ⟨hlt, rfl⟩
    | some fd =>
      have hfd : w.fds fd = none :=
        Option.isNone_iff_eq_none.1 (Option.filter_eq_some_iff.1 hans).2
      rw [sat_bind]
      refine (sat_acceptOne_spares (by exact hfd)).mono (fun _ w₁ h => ?_) fun _ hf => hf
      have h : Spares w w₁ := fun sid hlt => h sid hlt
      exact ih.mono (fun _ _ h' => h.trans h') fun _ hf => hf

/-- `socks_server_expire_idle` tells the sessions it finds due, and no others, that they expired. -/
theorem sat_expireLoop_lapses {now timeout n : ℕ} (hw : w.Wf H) (hok : ∀ sid, (slot w sid).Ok) :
    Sat (expireLoop now timeout n) w (fun _ w' => ∀ sid, Lapses (slot w sid) (slot w' sid)) E := by
  induction n generalizing w with
  | zero => exact fun _ => .stays .refl
  | succ n ih =>
    rw [expireLoop, sat_bind, sat_get]
    cases hh : w.idle.head with
    | none => exact fun _ => .stays .refl
    | some sid =>
      obtain ⟨hidle, s, hs⟩ := open_of_head hw hok hh
      dsimp only
      rw [sat_bind, sat_of_ok (show deref sid w = .ok (s, w) by rw [deref, hs])]
      split
      · exact fun _ => .stays .refl
      · have hone := ((does_expireOne (E := E) (hok sid) hs hidle).and
          (does_expireOne_lapses (E := E) (hok sid) hs hidle)) w hw rfl
        have hloop : ∀ w₁ : World, (w₁.Wf H ∧ Frame H sid w w₁ ∧
            Expires (view w sid) (view w₁ sid) ∧ Lapses (slot w sid) (slot w₁ sid)) →
            Sat (expireLoop now timeout n) w₁
              (fun _ w' => ∀ sid, Lapses (slot w sid) (slot w' sid)) E := by
          rintro w₁ ⟨hw₁, hf, hexp, hl⟩
          have hc := Calm.of_expires hw₁ hf hexp
          refine (ih hc.wf (hc.changes.ok hok)).mono (fun _ w' h sid' => ?_) fun _ hf => hf
          by_cases hne : sid' = sid
          · subst hne
            exact hl.trans (h sid')
          · rw [← hf.others sid' hne]
            exact h sid'
        have := hone.mono (fun _ w₁ h => hloop w₁ h) fun _ hf => hf.1
        rw [← sat_bind] at this
        by_cases hst : stmState s = .relay
        · simpa only [bind_assoc, if_pos hst] using this
        · simpa only [bind_assoc, if_neg hst] using this

theorem sat_expireIdle_lapses (hw : w.Wf H) (hok : ∀ sid, (slot w sid).Ok) :
    Sat socksServerExpireIdle w (fun _ w' => ∀ sid, Lapses (slot w sid) (slot w' sid)) E := by
  rw [socksServerExpireIdle, sat_bind, sat_get]
  dsimp only
  split
  · exact fun _ => .stays .refl
  · exact sat_expireLoop_lapses hw hok

end Loops

/-! ## One event -/

section Events

variable [Inet] {H : Set Fd} {w w' : World} {fd : Fd} {sid : Sid} {ts : List Trial}

/-- Nothing that can be read moves a session whose connection is under way. -/
theorem sat_dispatchRead_lapses (hw : w.Wf H) (hok : ∀ sid, (slot w sid).Ok)
    (hcon : (slot w sid).Connecting) :
    Sat (dispatchRead fd) w (fun _ w' => Lapses (slot w sid) (slot w' sid)) fun _ => True := by
  obtain ⟨s, hs, hst⟩ := hcon
  rw [dispatchRead, sat_bind, sat_get]
  cases hfd : w.fds fd with
  | none => exact .stays .refl
  | some item =>
    obtain ⟨h, i, sid'⟩ := item
    dsimp only
    by_cases hread : i.read = true
    · rw [if_pos hread]
      cases h with
      | client =>
        obtain ⟨s', hs', rfl⟩ := client_of_fds hw hfd
        by_cases hne : sid' = sid
        · subst hne
          obtain rfl := Option.some.inj (hs.symm.trans hs')
          refine (does_clientRead_stays (E := fun _ => True) (hok sid') hs hst w hw rfl).mono
            (fun _ w' h => .stays h.2.2) fun _ hf => hf
        · refine (does_clientRead (hok sid') hs' w hw rfl).mono (fun _ w' h => ?_)
            fun _ _ => trivial
          rw [h.2.1.others sid fun h => hne h.symm]
          exact .stays .refl
      | origin =>
        obtain ⟨s', hs', hsfd, hor⟩ := origin_of_fds hw hfd
        by_cases hne : sid' = sid
        · -- a connection under way is waited for with `OP_WRITE` only
          subst hne
          obtain rfl := Option.some.inj (hs.symm.trans hs')
          have := ((hok sid').session s hs).reading i hor hread
          rw [hst] at this
          cases this
        · refine (does_originRead (E := fun _ => True) (hok sid') hs' hsfd hor hread w hw rfl).mono
            (fun _ w' h => ?_) fun _ hf => hf
          rw [h.2.1.others sid fun h => hne h.symm]
          exact .stays .refl
      | passive =>
        have hlt : sid < w.nextSid := of_decide_eq_true ((hok sid).used (by simp [hs]))
        refine sat_acceptLoop_spares.mono (fun _ w' h => ?_) fun _ hf => hf
        rw [(h sid hlt).2]
        exact .stays .refl
      | monitor => exact .stays .refl
    · rw [if_neg hread]
      exact .stays .refl

/-- What becomes of a connection brings no list. -/
theorem listed_notMem_completedTrials {v : View} {s : SocksSession} {addrs : List SockAddr} :
    Trial.listed addrs ∉ v.completedTrials s := by
  rw [View.completedTrials]
  split
  · exact List.not_mem_nil
  · split
    · simp
    · rw [List.mem_cons, not_or]
      refine ⟨by simp, ?_⟩
      split
      · exact List.not_mem_nil
      · exact listed_notMem_dialTrials

/-- `socks_origin_write` keeps the record. -/
theorem sat_originWrite_tracked (hw : w.Wf H) (hok : ∀ sid, (slot w sid).Ok) {s : SocksSession}
    (hs : w.sessions sid = some s) (hfd : s.originFd = some fd)
    (hst : stmState s = .originConnecting) (ht : Tracked ts (slot w sid)) :
    Sat (socksOriginWrite ⟨fd, sid⟩) w
      (fun _ w' => Tracked (ts ++ (view w sid).completedTrials s) (slot w' sid)) fun _ => True := by
  have hu : (slot w sid).used = true := (hok sid).used (by simp [slot, hs])
  have hcourse : Sat (socksOriginWrite ⟨fd, sid⟩) w (fun _ w' => ∀ pre addrs us,
      ts = pre ++ .listed addrs :: us →
      Course addrs (us ++ (view w sid).completedTrials s) (slot w' sid)) fun _ => True := by
    refine .forall fun pre => .forall fun addrs => .forall fun us => .forall fun heq => ?_
    cases (ht.course pre addrs us heq).2 with
    | settled past => exact absurd ⟨s, hs, hst⟩ past.not_connecting
    | trying sess _ gave record left cursor searching =>
      obtain rfl := Option.some.inj (sess.symm.trans hs)
      subst record
      exact (does_originWrite_course (hok sid) hs hst gave left cursor searching w hw rfl).mono
        (fun _ _ h => h.2.2) fun _ hf => hf
  refine ((does_originWrite (H := H) (hok sid) hs hfd w hw rfl).and hcourse).mono ?_
    fun _ _ => trivial
  rintro _ w' ⟨⟨-, -, ⟨hacts, -⟩, -⟩, hcourse⟩
  refine ht.extend (hok sid) hacts.steps hu fun pre addrs us heq => ?_
  rcases listed_append heq with ⟨us', hts, rfl⟩ | ⟨mid, hmid⟩
  · exact hcourse pre addrs us' hts
  · have hmem : Trial.listed addrs ∈ mid ++ .listed addrs :: us :=
      List.mem_append_right mid List.mem_cons_self
    exact absurd (hmid ▸ hmem) listed_notMem_completedTrials

/-- `socks_client_write` and `socks_origin_write` keep the record. -/
theorem sat_dispatchWrite_tracked (hw : w.Wf H) (hok : ∀ sid, (slot w sid).Ok)
    (ht : Tracked ts (slot w sid)) :
    Sat (dispatchWrite fd) w (fun _ w' => Tracked (ts ++ w.writeTrials fd sid) (slot w' sid))
      fun _ => True := by
  rw [dispatchWrite, sat_bind, sat_get]
  have hnone : w.called .origin FdInterest.write fd = none →
      Tracked (ts ++ w.writeTrials fd sid) (slot w sid) := by
    intro hcall
    rw [World.writeTrials, hcall, List.append_nil]
    exact ht
  cases hfd : w.fds fd with
  | none => exact hnone (called_of_none hfd)
  | some item =>
    obtain ⟨h, i, sid'⟩ := item
    dsimp only
    by_cases hwrite : i.write = true
    · rw [if_pos hwrite]
      cases h with
      | client =>
        obtain ⟨s', hs', rfl⟩ := client_of_fds hw hfd
        have hnil : w.writeTrials s'.clientFd sid = [] := by
          rw [World.writeTrials, called_of_ne hfd (by simp)]
        rw [hnil, List.append_nil]
        have hv := (hok sid').has (v := view w sid') hs'
        refine (((does_clientWrite (E := fun _ => True) (hok sid') hs').and
          (does_flushSettle_stays (E := fun _ => True) hv ((hok sid').session s' hs').o2cRead))
            w hw rfl).mono ?_
          fun _ _ => trivial
        rintro _ w' ⟨-, hf, ⟨hacts, -⟩, hstays⟩
        by_cases hne : sid' = sid
        · subst hne
          exact ht.move (hok sid') hacts.steps fun _ => .stays hstays
        · rw [hf.others sid fun h => hne h.symm]
          exact ht
      | origin =>
        obtain ⟨s', hs', hsfd, -⟩ := origin_of_fds hw hfd
        have hcall := called_of_eq hfd hwrite hs'
        by_cases hcon : sid' = sid ∧ stmState s' = .originConnecting
        · obtain ⟨rfl, hst⟩ := hcon
          rw [World.writeTrials, hcall]
          dsimp only
          rw [if_pos ⟨rfl, hst⟩]
          exact sat_originWrite_tracked hw hok hs' hsfd hst ht
        · have hnil : w.writeTrials fd sid = [] := by
            rw [World.writeTrials, hcall]
            exact if_neg hcon
          rw [hnil, List.append_nil]
          refine (does_originWrite (hok sid') hs' hsfd w hw rfl).mono ?_ fun _ _ => trivial
          rintro _ w' ⟨-, hf, ⟨hacts, -⟩, -⟩
          by_cases hne : sid' = sid
          · subst hne
            refine ht.move (hok sid') hacts.steps fun hwait => ?_
            obtain ⟨s, hs, hst⟩ := hwait
            obtain rfl := Option.some.inj (hs.symm.trans hs')
            exact absurd ⟨rfl, hst⟩ hcon
          · rw [hf.others sid fun h => hne h.symm]
            exact ht
      | passive => exact hnone (called_of_ne hfd (by simp))
      | monitor => exact hnone (called_of_ne hfd (by simp))
    · rw [if_neg hwrite]
      exact hnone (called_of_not_op hfd (by simpa using hwrite))

/-! ### Notifications -/

variable {job : BlockingJob}

/-- A notification is nothing to a session whose connection is under way. -/
theorem Delivers.lapses (h : Delivers H w job w') (hcon : (slot w sid).Connecting) :
    Lapses (slot w sid) (slot w' sid) := by
  cases h with
  | dropped _ same => exact same ▸ .stays .refl
  | @delivered i sid' s' item sess fd frame unblocks =>
    by_cases hne : sid' = sid
    · subst hne
      obtain ⟨s, hs, hst⟩ := hcon
      obtain rfl := Option.some.inj (hs.symm.trans sess)
      rw [unblocks.state] at hst
      cases hst
    · rw [frame.others sid fun h => hne h.symm]
      exact .stays .refl

/-- `socks_client_block` begins the record. -/
theorem sat_handleJob_course (hw : w.Wf H) (hok : ∀ sid, (slot w sid).Ok)
    (hh : (slot w sid).Hushed) {addrs : List SockAddr}
    (hrec : w.jobTrials job sid = .listed addrs :: ts) :
    Sat (handleJob job) w (fun _ w' => Course addrs ts (slot w' sid)) fun _ => True := by
  rw [World.jobTrials] at hrec
  cases hfd : w.fds job.fd with
  | none =>
    rw [called_of_none hfd] at hrec
    cases hrec
  | some item =>
    obtain ⟨h, i, sid'⟩ := item
    by_cases hc : h = .client
    · subst hc
      obtain ⟨s, hs, hsfd⟩ := client_of_fds hw hfd
      rw [called_of_eq hfd rfl hs] at hrec
      dsimp only at hrec
      split at hrec
      case isFalse => cases hrec
      next hst =>
      obtain ⟨rfl, hst⟩ := hst
      have hstep : SessionStep .block (slot w sid') ((view w sid').noted job.owner s).toSlot :=
        .block job.owner rfl hs
      obtain ⟨hsilent, htries⟩ := hh s hs (by rw [hst]; rfl)
      have hsearch : Searching ((view w sid').noted job.owner s).hist [] :=
        Searching.idles ⟨hsilent, htries (by simp [hst])⟩ (Idles.refl.concat rfl)
      have hdoes : Does H sid' (do
          let s ← deref sid'
          emit sid' (.block job.owner (stmState s))
          socksClientBlock ⟨s.clientFd, sid'⟩) (view w sid')
          (fun _ v' => Course addrs ts v'.toSlot) (fun _ => True) := by
        refine does_bind (does_deref hs (does_bind (does_emit ?_)))
        exact does_clientBlock_course (v := (view w sid').noted job.owner s) (hstep.ok (hok sid'))
          hs hst hsearch hrec
      have hsat := hdoes w hw rfl
      rw [handleJob, sat_bind, sat_get, hfd]
      dsimp only
      rw [if_pos (by rfl), ← hsfd]
      rw [sat_bind, sat_of_ok (show deref sid' w = .ok (s, w) by rw [deref, hs])] at hsat ⊢
      exact hsat.mono (fun _ w' h => h.2.2) fun _ hf => hf
    · rw [called_of_ne hfd hc] at hrec
      cases hrec

omit [Inet] in
theorem sessions_of_called {h : Handler} {op : FdInterest → Bool} {s : SocksSession}
    (hc : w.called h op fd = some (sid, s)) : w.sessions sid = some s := by
  rw [World.called] at hc
  split at hc
  · split at hc
    · next item _ _ =>
      obtain ⟨s', hs', heq⟩ := Option.map_eq_some_iff.1 hc
      cases heq
      exact hs'
    · cases hc
  · cases hc

/-- The record of a notification, if there is one, begins with a list, and this is the only one. -/
theorem jobTrials_cases (w : World) (job : BlockingJob) (sid : Sid) :
    w.jobTrials job sid = [] ∨ ((∃ s, w.sessions sid = some s ∧ stmState s = .resolving) ∧
      ∃ addrs ts, w.jobTrials job sid = .listed addrs :: ts ∧
        ∀ addrs', Trial.listed addrs' ∉ ts) := by
  rw [World.jobTrials]
  cases hc : w.called .client (fun _ => true) job.fd with
  | none => exact .inl rfl
  | some p =>
    obtain ⟨sid', s⟩ := p
    dsimp only
    by_cases hst : sid' = sid ∧ stmState s = .resolving
    · rw [if_pos hst, View.resolvedTrials]
      obtain ⟨rfl, hst⟩ := hst
      split
      · split
        · exact .inl rfl
        · exact .inr ⟨⟨s, sessions_of_called hc, hst⟩, _, _, rfl, fun _ => listed_notMem_dialTrials⟩
      · exact .inl rfl
    · exact .inl (if_neg hst)

theorem sat_handleJob_tracked (hw : w.Wf H) (hok : ∀ sid, (slot w sid).Ok)
    (ht : Tracked ts (slot w sid)) :
    Sat (handleJob job) w (fun _ w' => Tracked (ts ++ w.jobTrials job sid) (slot w' sid))
      fun _ => True := by
  have hjob : Sat (handleJob job) w (fun _ w' => w'.Wf H ∧ Delivers H w job w') (JobFault w job) :=
    sat_handleJob hw hok
  rcases jobTrials_cases w job sid with hnil | ⟨⟨s, hs, hst⟩, addrs, ts₁, hrec, hone⟩
  · rw [hnil, List.append_nil]
    refine hjob.mono (fun _ w' ⟨_, hd⟩ => ?_) fun _ _ => trivial
    exact ht.move (hok sid) (hd.changes.acts sid).steps hd.lapses
  · have hu : (slot w sid).used = true := (hok sid).used (by simp [slot, hs])
    rw [hrec]
    refine (hjob.and (sat_handleJob_course hw hok ht.hushed hrec)).mono ?_ fun _ _ => trivial
    rintro _ w' ⟨⟨-, hd⟩, hcourse⟩
    refine ht.extend (hok sid) (hd.changes.acts sid).steps hu fun pre addrs' us heq => ?_
    rcases listed_append heq with ⟨us', hts, -⟩ | ⟨_ | ⟨t, mid⟩, hmid⟩
    · -- a session that was given a list waits for no other
      cases (ht.course pre addrs' us' hts).2 with
      | trying sess st =>
        obtain rfl := Option.some.inj (sess.symm.trans hs)
        rw [hst] at st
        cases st
      | settled past =>
        have := past s hs
        rw [hst] at this
        cases this
    · cases hmid
      exact hcourse
    · obtain ⟨-, rfl⟩ := List.cons.inj hmid
      exact absurd (List.mem_append_right mid List.mem_cons_self) (hone addrs')

theorem sat_handleJobs_tracked {jobs : List BlockingJob} (hw : w.Wf H)
    (hok : ∀ sid, (slot w sid).Ok) (ht : Tracked ts (slot w sid)) :
    Sat (handleJobs jobs) w (fun _ w' => Tracked (ts ++ jobsTrials sid jobs w) (slot w' sid))
      fun _ => True := by
  induction jobs generalizing w ts with
  | nil =>
    rw [jobsTrials, List.append_nil]
    exact ht
  | cons job jobs ih =>
    have htracked : Sat (handleJob job) w (fun _ w' => Tracked (ts ++ w.jobTrials job sid)
        (slot w' sid)) fun _ => True := sat_handleJob_tracked hw hok ht
    have hjob := (sat_handleJob hw hok).and htracked
    rw [handleJobs, sat_bind, jobsTrials]
    rw [Sat] at hjob ⊢
    cases hrun : handleJob job w with
    | error f => trivial
    | ok r =>
      rw [hrun] at hjob
      obtain ⟨⟨hw₁, hd⟩, ht₁⟩ := hjob
      have := ih hw₁ (hd.changes.ok hok) ht₁
      rw [List.append_assoc] at this
      exact this

end Events

/-! ## A run -/

section Run

variable [Inet] {w w' : World} {e : Event} {es : List Event} {sid : Sid} {ts : List Trial}

/-- Every event keeps the record. -/
theorem tracked_step (hinv : w.Inv) (ht : Tracked ts (slot w sid)) (h : step w e = .ok w') :
    Tracked (ts ++ e.trials sid w) (slot w' sid) := by
  have hsteps := ((step_acts hinv h).2 sid).steps
  -- most events add nothing to the record, and matter only while a connection is under way
  have hmove : e.trials sid w = [] →
      ((slot w sid).Connecting → Lapses (slot w sid) (slot w' sid)) →
      Tracked (ts ++ e.trials sid w) (slot w' sid) := by
    intro hnil hl
    rw [hnil, List.append_nil]
    exact ht.move (hinv.slots sid) hsteps hl
  have hsame : e.trials sid w = [] → slot w' sid = slot w sid →
      Tracked (ts ++ e.trials sid w) (slot w' sid) := by
    intro hnil heq
    rw [hnil, List.append_nil, heq]
    exact ht
  cases e with
  | readable fd env =>
    refine hmove rfl fun hcon => ?_
    have hsat : Sat (Event.program (.readable fd env)) w _ _ := (sat_bind ..).2 ((sat_modify _).2
      (sat_dispatchRead_lapses (hinv.wf env.handsOut_univ) hinv.slots hcon))
    exact step_of_sat hsat h
  | writable fd env =>
    have hsat : Sat (Event.program (.writable fd env)) w _ _ := (sat_bind ..).2 ((sat_modify _).2
      (sat_dispatchWrite_tracked (hinv.wf env.handsOut_univ) hinv.slots ht))
    exact step_of_sat hsat h
  | resolved i rc result posted =>
    have hsat : Sat (Event.program (.resolved i rc result posted)) w _ _ := sat_dnsThread
    refine hmove rfl fun _ => .stays ?_
    cases step_of_sat hsat h with
    | none _ same => exact same ▸ .refl
    | @some ctx s thread sess world =>
      subst world
      by_cases hne : sid = ctx.session
      · subst hne
        rw [slot_resolved_self sess]
        exact .of_sess sess rfl rfl rfl rfl
      · rw [slot_resolved_of_ne hne]
        exact .refl
  | notifications env =>
    have hsat : Sat (Event.program (.notifications env)) w
        (fun _ w' => Tracked (ts ++ jobsTrials sid w.resolutionJobs { w with env := env })
          (slot w' sid)) fun _ => True := by
      refine (sat_bind ..).2 ((sat_modify _).2 ?_)
      rw [handleBlockNotifications, sat_bind, sat_get, sat_bind]
      refine (sat_handleJobs_tracked (hinv.wf env.handsOut_univ) hinv.slots ht).mono
        (fun _ w₁ h => ?_) fun _ hf => hf
      rw [sat_modify]
      exact h
    exact step_of_sat hsat h
  | expire env =>
    refine hmove rfl fun _ => ?_
    have hsat : Sat (Event.program (.expire env)) w
        (fun _ w' => ∀ sid, Lapses (slot w sid) (slot w' sid)) (fun _ => True) := (sat_bind ..).2
      ((sat_modify _).2 (sat_expireIdle_lapses (hinv.wf env.handsOut_univ) hinv.slots))
    exact step_of_sat hsat h sid
  | tick n =>
    cases h
    exact hsame rfl rfl
  | admin op =>
    cases h
    exact hsame rfl rfl
  | monitorOpen fd i =>
    have hsat : Sat (Event.program (.monitorOpen fd i)) w
        (fun _ w' => w' = w ∨ w.fds fd = none ∧ w' = w.setFd fd (some ⟨.monitor, i, 0⟩))
        (fun _ => True) := sat_monitorAccept
    rcases step_of_sat hsat h with rfl | ⟨hfd, rfl⟩
    · exact hsame rfl rfl
    · exact hsame rfl (slot_setFd_monitor (by simp [hfd]) (by simp) sid)
  | monitorClose fd =>
    have hsat : Sat (Event.program (.monitorClose fd)) w
        (fun _ w' => w' = w ∨ (∃ i sid, w.fds fd = some ⟨.monitor, i, sid⟩) ∧ w' = w.setFd fd none)
        (fun _ => True) := sat_monitorRelease
    rcases step_of_sat hsat h with rfl | ⟨⟨i, sid', hfd⟩, rfl⟩
    · exact hsame rfl rfl
    · refine hsame rfl (slot_setFd_monitor (fun item hi => ?_) (by simp) sid)
      rw [hfd] at hi
      cases hi
      rfl

/-- Every run keeps the record. -/
theorem tracked_run (hinv : w.Inv) (ht : Tracked ts (slot w sid)) (h : run step w es = .ok w') :
    Tracked (ts ++ tried sid w es) (slot w' sid) := by
  induction es generalizing w ts with
  | nil =>
    rw [run] at h
    cases h
    rw [tried, List.append_nil]
    exact ht
  | cons e es ih =>
    obtain ⟨w₁, he, hr⟩ := run_cons_ok h
    have := ih (step_acts hinv he).1 (tracked_step hinv ht he) hr
    rw [List.append_assoc] at this
    rw [tried, he]
    exact this

omit [Inet] in
/-- Nothing has happened to a session before the process listens. -/
theorem tracked_boot (listenFd monitorFd : Fd) (sid : Sid) :
    Tracked [] (slot (World.boot listenFd monitorFd) sid) :=
  ⟨fun _ h => (by cases h), fun pre _ _ h => (by cases pre <;> cases h)⟩

end Run

/-! ## The retries end -/

section Retries

variable [Inet] {key : Key} {w : World}

omit [Inet] in
theorem deref_ok {sid : Sid} {s : SocksSession} {w' : World} (h : deref sid w = .ok (s, w')) :
    w.sessions sid = some s ∧ w = w' := by
  rw [deref] at h
  split at h
  · next heq =>
    cases h
    exact ⟨heq, rfl⟩
  · cases h

/-- The address after the one in hand is all that `socks_begin_origin_connect` leaves to its
recursive call. -/
theorem connectAttempt_congr {p q : SocksM SocksState}
    (h : ∀ w' s a next rest, w.sessions key.data = some s → s.dnsCursor = a :: next :: rest →
      w'.sessions key.data = some { s with dnsCursor := next :: rest } → p w' = q w') :
    socksConnectAttempt key p w = socksConnectAttempt key q w := by
  rw [socksConnectAttempt, socksConnectAttempt]
  refine bind_congr_of_ok fun s w₁ hs => ?_
  obtain ⟨hsess, rfl⟩ : w.sessions key.data = some s ∧ w = w₁ := deref_ok hs
  cases haddr : s.connectAddr with
  | none => rfl
  | some addr =>
    refine bind_congr_of_ok fun denied w₂ h₂ => ?_
    have hs₂ : w₂.sessions = w.sessions := by cases h₂; rfl
    cases denied with
    | true => rfl
    | false =>
      refine bind_congr_of_ok fun fd w₃ h₃ => ?_
      have hs₃ : w₃.sessions = w.sessions := by cases h₃; exact hs₂
      cases fd with
      | none => rfl
      | some fd =>
        refine bind_congr_of_ok fun nio w₄ h₄ => ?_
        have hs₄ : w₄.sessions = w.sessions := by cases h₄; exact hs₃
        cases nio with
        | false => rfl
        | true =>
          refine bind_congr_of_ok fun st w₅ h₅ => ?_
          have hs₅ : w₅.sessions = w.sessions := by cases h₅; exact hs₄
          refine bind_congr_of_ok fun _ w₆ h₆ => ?_
          have hs₆ : w₆.sessions = w.sessions := by cases h₆; exact hs₅
          refine bind_congr_of_ok fun err w₇ h₇ => ?_
          have hs₇ : w₇.sessions = w.sessions := by cases h₇; exact hs₆
          cases err with
          | none => rfl
          | some err =>
            rcases hcur : s.dnsCursor with _ | ⟨a, _ | ⟨next, rest⟩⟩
            · rfl
            · rfl
            · -- the one place where the recursive call is made
              refine bind_congr_of_ok fun _ w₈ h₈ => h w₈ s a next rest hsess hcur ?_
              rw [assign, hs₇, hsess] at h₈
              cases h₈
              exact Function.update_self ..

/-- Enough turns are enough. -/
theorem connectRetry_succ {n : ℕ}
    (hn : ∀ s, w.sessions key.data = some s → s.dnsCursor.length ≤ n + 1) :
    socksConnectRetry key n w = socksConnectRetry key (n + 1) w := by
  induction n generalizing w with
  | zero =>
    rw [socksConnectRetry, socksConnectRetry]
    refine connectAttempt_congr fun w' s a next rest hs hcur _ => ?_
    have hlen := hn s hs
    rw [hcur, List.length_cons, List.length_cons] at hlen
    omega
  | succ n ih =>
    rw [socksConnectRetry, socksConnectRetry]
    refine connectAttempt_congr fun w' s a next rest hs hcur hs' => ih fun s' hs'' => ?_
    have hlen := hn s hs
    rw [hs'] at hs''
    cases hs''
    rw [hcur, List.length_cons] at hlen
    show (next :: rest).length ≤ n + 1
    omega

theorem beginOriginConnect_of_has {s : SocksSession} (hs : w.sessions key.data = some s) :
    socksBeginOriginConnect key w = socksConnectRetry key s.dnsCursor.length w := by
  rw [socksBeginOriginConnect, bind_of_ok (show deref key.data w = .ok (s, w) by rw [deref, hs])]

/-- **The retry recursion is the one of the source**, which therefore ends. -/
theorem beginOriginConnect_eq (key : Key) (w : World) :
    socksBeginOriginConnect key w = socksConnectAttempt key (socksBeginOriginConnect key) w := by
  cases hs : w.sessions key.data with
  | none =>
    have hd : deref key.data w = .error .useAfterFree := by rw [deref, hs]
    rw [socksBeginOriginConnect, socksConnectAttempt]
    rw [bind_of_error hd, bind_of_error hd]
  | some s =>
    have hmore : socksConnectRetry key s.dnsCursor.length w =
        socksConnectRetry key (s.dnsCursor.length + 1) w :=
      connectRetry_succ fun s' hs' => by
        rw [hs] at hs'
        cases hs'
        exact Nat.le_succ _
    rw [beginOriginConnect_of_has hs, hmore, socksConnectRetry]
    refine connectAttempt_congr fun w' s' a next rest hs' hcur hw' => ?_
    rw [hs] at hs'
    cases hs'
    -- one address fewer, and still one turn too many
    rw [beginOriginConnect_of_has hw', hcur]
    exact (connectRetry_succ fun s' hs' => by
      rw [hw'] at hs'
      cases hs'
      exact Nat.le_succ _).symm

end Retries

/-! ## The addresses of a name -/

/-- **The addresses of a name are tried in order, and the client is told how that went.**  In every
run that gave a session the list `addrs`, the addresses asked about since are the first ones of
`addrs`, each taken up once and only after the one before it has failed.  A refusal, unless the
address is denied or the session has expired, tells that all of `addrs` have failed, or that the
last try was cut short on the server's side.  A reply that tells of success comes after the address
last taken up has connected.  And the recursion of `socks_begin_origin_connect` ends. -/
theorem addresses_in_order [Inet] (listenFd monitorFd : Fd) (es : List Event) {w : World}
    (h : run step (World.boot listenFd monitorFd) es = .ok w) (sid : Sid)
    {before since : List Trial} {addrs : List SockAddr}
    (hrec : tried sid (World.boot listenFd monitorFd) es = before ++ .listed addrs :: since) :
    attempted (w.hist sid) = begun since ∧ InOrder addrs since ∧
      (∀ rep, Replied (w.hist sid) rep → rep ≠ socksRepSucceeded →
        rep ≠ socksRepDeniedByRuleset → rep ≠ socksRepTtlExpired →
        gaveUp since = addrs ∨ CutShort addrs since) ∧
      (Replied (w.hist sid) socksRepSucceeded →
        ∃ ts a, since = ts ++ [.connected a] ∧ (begun since).getLast? = some a) ∧
      ∀ key w, socksBeginOriginConnect key w =
        socksConnectAttempt key (socksBeginOriginConnect key) w := by
  have htracked := tracked_run (boot_inv ..) (tracked_boot listenFd monitorFd sid) h
  rw [List.nil_append] at htracked
  obtain ⟨-, hcourse⟩ := htracked.course before addrs since hrec
  refine ⟨hcourse.attempted_eq, hcourse.order, fun rep hr => ?_, fun hr => ?_,
    beginOriginConnect_eq⟩
  · exact (hcourse.warrants hr).failure
  · exact (hcourse.warrants hr).success rfl

section Runs

attribute [local instance] InetText.inet

/-- A client asks for a host by name, and `getaddrinfo` finds `homes`. -/
def lookedUp : List Event :=
  greeted ++
    [.readable 7 { read := [.data [5, 1, 0, 3, 1, 97, 0, 80]] }, .resolved 0 .ok homes true]

/-- The first address refuses at once, the second connects. -/
def secondHome : List Event :=
  lookedUp ++ [.notifications { socket := [some 8, some 9], connect := [some .connRefused] },
    .writable 9 { soError := [none] }]

/-- The connection to the first address is still under way when the session expires. -/
def waitedOut : List Event :=
  lookedUp ++ [.notifications { socket := [some 8] }, .admin (.config .timeout 1 true),
    .tick 100000, .expire {}]

/-- There is no socket for the first address. -/
def socketless : List Event := lookedUp ++ [.notifications { socket := [none] }]

/-- This reply was given. -/
def Obs.tells (rep : UInt8) : Obs → Bool
  | .reply bs => decide (bs = connectReply rep)
  | _ => false

theorem replied_of_tells {t : List Obs} {rep : UInt8} (h : t.any (Obs.tells rep) = true) :
    Replied t rep := by
  obtain ⟨o, ho, hr⟩ := List.any_eq_true.1 h
  unfold Obs.tells at hr
  split at hr
  · rw [Replied, ← of_decide_eq_true hr]
    exact ho
  · cases hr

/-- The second address of this host was tried after the first, and it connected. -/
theorem addresses_in_order_second : ∃ w, run step (World.boot 3 4) secondHome = .ok w ∧
    Replied (w.hist 0) socksRepSucceeded ∧ attempted (w.hist 0) = homes ∧
    ∃ ts a, tried 0 (World.boot 3 4) secondHome = .listed homes :: (ts ++ [.connected a]) := by
  obtain ⟨w, hrun, htest⟩ := exists_of_endsIn (r := run step (World.boot 3 4) secondHome)
    (show endsIn (fun w => (w.hist 0).any (Obs.tells socksRepSucceeded)) _ = true
      by decide +kernel)
  have hrec : tried 0 (World.boot 3 4) secondHome = [] ++ .listed homes ::
      [.refused (.inet #v[10, 0, 0, 1] 80) .connRefused, .underway (.inet #v[10, 0, 0, 2] 80),
        .connected (.inet #v[10, 0, 0, 2] 80)] := by decide +kernel
  have hreply := replied_of_tells htest
  obtain ⟨htries, -, -, hsuccess, -⟩ := addresses_in_order 3 4 secondHome hrun 0 hrec
  obtain ⟨ts, a, hts, -⟩ := hsuccess hreply
  exact ⟨w, hrun, hreply, htries, ts, a, by rw [← hts]; exact hrec⟩

/-- One session was told that its time is up, another that it failed, and neither had tried its
second address. -/
theorem refused_with_addresses_left :
    (∃ w, run step (World.boot 3 4) waitedOut = .ok w ∧
      tried 0 (World.boot 3 4) waitedOut =
        [.listed homes, .underway (.inet #v[10, 0, 0, 1] 80)] ∧
      attempted (w.hist 0) ≠ homes ∧ Replied (w.hist 0) socksRepTtlExpired) ∧
    ∃ w, run step (World.boot 3 4) socketless = .ok w ∧
      tried 0 (World.boot 3 4) socketless =
        [.listed homes, .noSocket (.inet #v[10, 0, 0, 1] 80)] ∧
      attempted (w.hist 0) ≠ homes ∧ Replied (w.hist 0) socksRepGeneralFailure := by
  refine ⟨?_, ?_⟩
  · obtain ⟨w, hrun, htest⟩ := exists_of_endsIn (r := run step (World.boot 3 4) waitedOut)
      (show endsIn (fun w => decide (attempted (w.hist 0) ≠ homes) &&
        (w.hist 0).any (Obs.tells socksRepTtlExpired)) _ = true by decide +kernel)
    rw [Bool.and_eq_true] at htest
    exact ⟨w, hrun, by decide +kernel, of_decide_eq_true htest.1, replied_of_tells htest.2⟩
  · obtain ⟨w, hrun, htest⟩ := exists_of_endsIn (r := run step (World.boot 3 4) socketless)
      (show endsIn (fun w => decide (attempted (w.hist 0) ≠ homes) &&
        (w.hist 0).any (Obs.tells socksRepGeneralFailure)) _ = true by decide +kernel)
    rw [Bool.and_eq_true] at htest
    exact ⟨w, hrun, by decide +kernel, of_decide_eq_true htest.1, replied_of_tells htest.2⟩

end Runs

end SocksProxy
