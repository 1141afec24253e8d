import SocksProxy.Socks.Refine

/-!
# The steps of the proxy

For each event, what can be told before it happens: whether it serves an origin too late, leaves an
interest behind or a session stalled, or touches a freed session.  `step_changes` is the refinement:
a step that does not fault moves every session by steps of its life and keeps the invariant of the
process, so every world the proxy reaches satisfies it.
-/

set_option autoImplicit false

namespace SocksProxy

variable [Inet]

/-! ## What can be told before an event -/

/-- The session that a readiness event of `fd` calls through a handler of kind `h`. -/
def World.called (w : World) (h : Handler) (op : FdInterest → Bool) (fd : Fd) :
    Option (Sid × SocksSession) :=
  match w.fds fd with
  | some item =>
    if item.handler = h ∧ op item.interest = true then
      (w.sessions item.data).map fun s => (item.data, s)
    else none
  | none => none

/-- Bytes are taken from an origin whose session was refused. -/
def World.lateRead (w : World) (fd : Fd) : Bool :=
  (w.called .origin FdInterest.read fd).any fun p => (view w p.1).lateRead p.2

/-- Bytes are sent to an origin whose session was refused. -/
def World.lateWrite (w : World) (fd : Fd) : Bool :=
  (w.called .origin FdInterest.write fd).any fun p => p.2.lateWrite

/-- `socks_client_write` makes room that the origin is not told of. -/
def World.lagsWrite (w : World) (fd : Fd) : Bool :=
  (w.called .client FdInterest.write fd).any fun p => (view w p.1).lags p.2

/-- `socks_origin_read` leaves a session that waits to be closed. -/
def World.stallsRead (w : World) (fd : Fd) : Bool :=
  (w.called .origin FdInterest.read fd).any fun p => (view w p.1).stallsRead p.2

/-- `socks_origin_write` leaves a session that waits to be closed. -/
def World.stallsWrite (w : World) (fd : Fd) : Bool :=
  (w.called .origin FdInterest.write fd).any fun p => (view w p.1).stallsWrite p.2

/-- `socks_client_read` refuses a request while the client is gone. -/
def World.deadRead (w : World) (fd : Fd) : Bool :=
  (w.called .client FdInterest.read fd).any fun p =>
    (view w p.1).refusesRead p.2 && decide ((view w p.1).writeAns = .error)

/-- `socks_origin_write` refuses a request while the client is gone. -/
def World.deadWrite (w : World) (fd : Fd) : Bool :=
  (w.called .origin FdInterest.write fd).any fun p =>
    (view w p.1).refusesWrite p.2 && decide ((view w p.1).writeAns = .error)

section Called

variable {w : World} {fd : Fd} {h : Handler} {op : FdInterest → Bool} {i : FdInterest} {sid : Sid}
  {s : SocksSession}

omit [Inet] in
theorem called_of_none (hfd : w.fds fd = none) : w.called h op fd = none := by
  rw [World.called, hfd]

omit [Inet] in
theorem called_of_not_op (hfd : w.fds fd = some ⟨h, i, sid⟩) {h' : Handler} (hop : op i = false) :
    w.called h' op fd = none := by
  rw [World.called, hfd]
  exact if_neg fun hc => by rw [hop] at hc; cases hc.2

omit [Inet] in
theorem called_of_ne (hfd : w.fds fd = some ⟨h, i, sid⟩) {h' : Handler} (hne : h ≠ h') :
    w.called h' op fd = none := by
  rw [World.called, hfd]
  exact if_neg fun hc => hne hc.1

omit [Inet] in
theorem called_of_eq (hfd : w.fds fd = some ⟨h, i, sid⟩) (hop : op i = true)
    (hs : w.sessions sid = some s) : w.called h op fd = some (sid, s) := by
  simp [World.called, hfd, hop, hs]

end Called

/-! ## Dispatching -/

section Dispatch

variable {H : Set Fd} {w w' : World} {fd : Fd} {i : FdInterest} {sid : Sid} {s : SocksSession}

/-- What a readiness event leaves. -/
structure Dispatched (H : Set Fd) (late lag stall : Bool) (w w' : World) : Prop where
  wf : w'.Wf H
  changes : Changes H (.ofLate late) lag stall w w'
  lookups : Lookups w w'

theorem Dispatched.refl {late lag stall : Bool} (hw : w.Wf H) :
    Dispatched H late lag stall w w :=
  ⟨hw, .refl, .inl .refl⟩

theorem Dispatched.of_frame {late lag stall : Bool} (hw' : w'.Wf H) (hf : Frame H sid w w')
    (ha : Acts (.ofLate late) lag stall (slot w sid) (slot w' sid))
    (hl : Quiet (view w sid) (view w' sid) ∨ Starts sid (view w sid) (view w' sid)) :
    Dispatched H late lag stall w w' :=
  ⟨hw', .of_frame hf ha, hl.imp (.of_quiet hf) fun h => ⟨sid, h, hf.others⟩⟩

omit [Inet] in
/-- The session behind a client registration. -/
theorem client_of_fds (hw : w.Wf H) (hfd : w.fds fd = some ⟨.client, i, sid⟩) :
    ∃ s, w.sessions sid = some s ∧ s.clientFd = fd := hw.claimed _ _ hfd

omit [Inet] in
/-- The session behind an origin registration. -/
theorem origin_of_fds (hw : w.Wf H) (hfd : w.fds fd = some ⟨.origin, i, sid⟩) :
    ∃ s, w.sessions sid = some s ∧ s.originFd = some fd ∧ (view w sid).origin = some i := by
  obtain ⟨s, hs, hsfd⟩ := hw.claimed _ _ hfd
  replace hs : w.sessions sid = some s := hs
  refine ⟨s, hs, hsfd, ?_⟩
  show (w.sessions sid).bind (fun s => s.originFd.bind (w.interestOf .origin sid)) = some i
  rw [hs, Option.bind_some, hsfd, Option.bind_some, interestOf_eq_some]
  exact hfd

theorem sat_dispatchRead (hw : w.Wf H) (hok : ∀ sid, (slot w sid).Ok) :
    Sat (dispatchRead fd) w
      (fun _ w' => Dispatched H (w.lateRead fd) false (w.stallsRead fd) w w' ∧ w.deadRead fd = false)
      (fun f => f = .useAfterFree ∧ w.deadRead fd = true) := by
  rw [dispatchRead, sat_bind, sat_get]
  cases hfd : w.fds fd with
  | none => exact ⟨.refl hw, by rw [World.deadRead, called_of_none hfd]; rfl⟩
  | some item =>
    obtain ⟨h, i, sid⟩ := item
    dsimp only
    by_cases hread : i.read = true
    · rw [if_pos hread]
      cases h with
      | client =>
        obtain ⟨s, hs, rfl⟩ := client_of_fds hw hfd
        have hcall := called_of_eq hfd hread hs
        rw [World.deadRead, hcall]
        refine ((does_clientRead (hok sid) hs) w hw rfl).mono ?_ ?_
        · rintro _ w' ⟨hw', hf, ha, hl, hnot⟩
          exact ⟨.of_frame hw' hf ha.mono hl, by simpa using hnot⟩
        · rintro f ⟨rfl, hr, he⟩
          exact ⟨rfl, by simp [hr, he]⟩
      | origin =>
        obtain ⟨s, hs, hsfd, hor⟩ := origin_of_fds hw hfd
        have hcall := called_of_eq hfd hread hs
        have hdead : w.deadRead fd = false := by
          rw [World.deadRead, called_of_ne hfd (by simp)]
          rfl
        rw [World.lateRead, World.stallsRead, hcall]
        refine ((does_originRead (hok sid) hs hsfd hor hread) w hw rfl).mono ?_ fun _ hf => hf
        rintro _ w' ⟨hw', hf, ha, hq⟩
        exact ⟨.of_frame hw' hf ha (.inl hq), hdead⟩
      | passive =>
        refine (sat_passiveRead hw hok).mono ?_ fun _ hf => hf
        intro _ w' hc
        refine ⟨⟨hc.wf, hc.changes.mono, .inl hc.undisturbed⟩, ?_⟩
        rw [World.deadRead, called_of_ne hfd (by simp)]
        rfl
      | monitor =>
        refine ⟨.refl hw, ?_⟩
        rw [World.deadRead, called_of_ne hfd (by simp)]
        rfl
    · rw [if_neg hread]
      refine ⟨.refl hw, ?_⟩
      rw [World.deadRead, called_of_not_op hfd (by simpa using hread)]
      rfl

theorem sat_dispatchWrite (hw : w.Wf H) (hok : ∀ sid, (slot w sid).Ok) :
    Sat (dispatchWrite fd) w
      (fun _ w' => Dispatched H (w.lateWrite fd) (w.lagsWrite fd) (w.stallsWrite fd) w w' ∧
        w.deadWrite fd = false)
      (fun f => f = .useAfterFree ∧ w.deadWrite fd = true) := by
  rw [dispatchWrite, sat_bind, sat_get]
  cases hfd : w.fds fd with
  | none => exact ⟨.refl hw, by rw [World.deadWrite, called_of_none hfd]; rfl⟩
  | some item =>
    obtain ⟨h, i, sid⟩ := item
    dsimp only
    by_cases hwrite : i.write = true
    · rw [if_pos hwrite]
      have hdead : h ≠ .origin → w.deadWrite fd = false := by
        intro hne
        rw [World.deadWrite, called_of_ne hfd hne]
        rfl
      cases h with
      | client =>
        obtain ⟨s, hs, rfl⟩ := client_of_fds hw hfd
        rw [World.lagsWrite, called_of_eq hfd hwrite hs]
        refine ((does_clientWrite (hok sid) hs) w hw rfl).mono ?_ fun _ hf => hf
        rintro _ w' ⟨hw', hf, ha, hq⟩
        refine ⟨.of_frame hw' hf ⟨ha.steps.mono, ha.synced, fun _ => ha.unstalled rfl⟩ (.inl hq),
          hdead (by simp)⟩
      | origin =>
        obtain ⟨s, hs, hsfd, hor⟩ := origin_of_fds hw hfd
        rw [World.lateWrite, World.stallsWrite, World.deadWrite, called_of_eq hfd hwrite hs]
        refine ((does_originWrite (hok sid) hs hsfd) w hw rfl).mono ?_ ?_
        · rintro _ w' ⟨hw', hf, ⟨ha, hq⟩, hnot⟩
          refine ⟨.of_frame hw' hf ⟨ha.steps, fun _ => ha.synced rfl, ha.unstalled⟩ (.inl hq), ?_⟩
          simpa using hnot
        · rintro f ⟨rfl, hr, he⟩
          exact ⟨rfl, by simp [hr, he]⟩
      | passive => exact ⟨.refl hw, hdead (by simp)⟩
      | monitor => exact ⟨.refl hw, hdead (by simp)⟩
    · rw [if_neg hwrite]
      refine ⟨.refl hw, ?_⟩
      rw [World.deadWrite, called_of_not_op hfd (by simpa using hwrite)]
      rfl

end Dispatch

/-! ## The end of a resolver thread -/

section Resolved

variable {w w' : World} {i : ℕ} {rc : GaiRc} {result : List SockAddr} {posted : Bool}

/-- The session once its resolution is over. -/
def SocksSession.resolved (s : SocksSession) (rc : GaiRc) (result : List SockAddr) :
    SocksSession :=
  { s with dnsResolving := false, dnsGaiRc := rc, dnsResult := if rc = .ok then result else [] }

/-- The world once the `i`-th thread, for session `s`, is over. -/
def World.resolved (w : World) (i : ℕ) (ctx : DnsCtx) (s : SocksSession) (posted : Bool) : World :=
  { w with
    threads := w.threads.eraseIdx i
    sessions := Function.update w.sessions ctx.session (some s)
    resolutionJobs :=
      if posted then ⟨ctx.notifyFd, ctx.session⟩ :: w.resolutionJobs else w.resolutionJobs }

/-- What the end of a resolver thread does. -/
inductive Resolves (w : World) (i : ℕ) (rc : GaiRc) (result : List SockAddr) (posted : Bool)
    (w' : World) : Prop
  | none (thread : w.threads[i]? = none) (same : w' = w)
  | some {ctx : DnsCtx} {s : SocksSession} (thread : w.threads[i]? = some ctx)
      (sess : w.sessions ctx.session = some s)
      (world : w' = w.resolved i ctx (s.resolved rc result) posted)

omit [Inet] in
theorem sat_dnsThread :
    Sat (socksDnsThread i rc result posted) w (fun _ => Resolves w i rc result posted)
      (fun f => f = .useAfterFree ∧
        ∃ ctx, w.threads[i]? = some ctx ∧ w.sessions ctx.session = none) := by
  rw [socksDnsThread, sat_bind, sat_get]
  cases ht : w.threads[i]? with
  | none => exact .none ht rfl
  | some ctx =>
    dsimp only
    rw [sat_bind, sat_set, sat_bind]
    cases hs : w.sessions ctx.session with
    | none =>
      rw [sat_of_error (f := .useAfterFree) (by rw [assign]; simp only [hs])]
      exact ⟨rfl, ctx, rfl, hs⟩
    | some s =>
      have ha : assign ctx.session (fun s => { s with
          dnsResolving := false, dnsGaiRc := rc, dnsResult := if rc = .ok then result else [] })
          { w with threads := w.threads.eraseIdx i } =
          .ok ((), { w with
            threads := w.threads.eraseIdx i
            sessions := Function.update w.sessions ctx.session (some (s.resolved rc result)) }) := by
        rw [assign]
        simp only [hs]
        rfl
      rw [sat_of_ok ha]
      cases posted with
      | true => exact .some ht hs rfl
      | false => exact .some ht hs rfl

omit [Inet] in
theorem slot_resolved_of_ne {ctx : DnsCtx} {s : SocksSession} {sid : Sid}
    (hne : sid ≠ ctx.session) :
    slot (w.resolved i ctx s posted) sid = slot w sid :=
  slot_congr (Function.update_of_ne hne ..) (fun _ _ => rfl) rfl rfl rfl

omit [Inet] in
theorem slot_resolved_self {ctx : DnsCtx} {s : SocksSession}
    (hs : w.sessions ctx.session = some s) :
    slot (w.resolved i ctx (s.resolved rc result) posted) ctx.session =
      { slot w ctx.session with sess := some (s.resolved rc result) } := by
  have hs' : (w.resolved i ctx (s.resolved rc result) posted).sessions ctx.session =
    some (s.resolved rc result) := Function.update_self ..
  show slot _ _ = (⟨_, (w.sessions ctx.session).bind _, (w.sessions ctx.session).bind _, _, _, _⟩ : Slot)
  rw [slot, hs', hs, Option.bind_some, Option.bind_some]
  rfl

theorem Resolves.inv (h : Resolves w i rc result posted w') (hinv : w.Inv) :
    w'.Inv ∧ ∀ sid, Acts .plain false false (slot w sid) (slot w' sid) := by
  cases h with
  | none _ same =>
    rw [same]
    exact ⟨hinv, fun _ => .refl⟩
  | @some ctx s thread sess world =>
    subst world
    have hacts : ∀ sid, Acts .plain false false (slot w sid)
        (slot (w.resolved i ctx (s.resolved rc result) posted) sid) := by
      intro sid
      by_cases hne : sid = ctx.session
      · subst hne
        rw [slot_resolved_self sess]
        refine ⟨.single (.resolved sess), fun _ h s' hs' hst => ?_, ?_⟩
        · cases hs'
          exact h s sess hst
        · rintro _ h ⟨s', ⟨⟩, hst⟩
          exact h ⟨s, sess, hst⟩
      · rw [slot_resolved_of_ne hne]
        exact .refl
    refine ⟨⟨fun fd item hfd => ?_, hinv.idle, hinv.bufferSize, fun sid =>
      (hacts sid).steps.ok (hinv.slots sid)⟩, hacts⟩
    have hcl := hinv.claimed fd item hfd
    obtain ⟨h, j, d⟩ := item
    by_cases hd : d = ctx.session
    · subst hd
      cases h with
      | client =>
        obtain ⟨t, ht, hfd'⟩ := hcl
        rw [sess] at ht
        cases ht
        exact ⟨_, Function.update_self .., hfd'⟩
      | origin =>
        obtain ⟨t, ht, hfd'⟩ := hcl
        rw [sess] at ht
        cases ht
        exact ⟨_, Function.update_self .., hfd'⟩
      | passive => trivial
      | monitor => trivial
    · have : (w.resolved i ctx (s.resolved rc result) posted).sessions d = w.sessions d :=
        Function.update_of_ne hd ..
      simpa only [World.Claimed, this] using hcl

end Resolved

/-! ## Steps -/

section Steps

variable {w w' : World} {e : Event}

/-- The event makes a callback serve an origin after its session was refused. -/
def Event.late (w : World) : Event → Bool
  | .readable fd env => World.lateRead { w with env := env } fd
  | .writable fd env => World.lateWrite { w with env := env } fd
  | _ => false

/-- The event makes a callback leave an interest behind. -/
def Event.lags (w : World) : Event → Bool
  | .writable fd env => World.lagsWrite { w with env := env } fd
  | _ => false

/-- The event makes a callback leave a session stalled. -/
def Event.stalls (w : World) : Event → Bool
  | .readable fd env => World.stallsRead { w with env := env } fd
  | .writable fd env => World.stallsWrite { w with env := env } fd
  | _ => false

/-- The mode of the steps an event makes. -/
def Event.mode (w : World) : Event → Mode
  | .notifications _ => .block
  | e => .ofLate (e.late w)

omit [Inet] in
/-- A step is the program of its event, run to the end. -/
theorem step_eq_ok [Inet] (h : step w e = .ok w') : e.program w = .ok ((), w') := by
  rw [step] at h
  cases hp : e.program w with
  | ok r =>
    rw [hp] at h
    cases h
    rfl
  | error f =>
    rw [hp] at h
    cases h

/-- What is known of every run of an event's program is known of the step. -/
theorem step_of_sat {Q : Unit → World → Prop} {E : Fault → Prop} (hsat : Sat e.program w Q E)
    (h : step w e = .ok w') : Q () w' :=
  (sat_of_ok (step_eq_ok h)).1 hsat

theorem fault_of_sat {Q : Unit → World → Prop} {E : Fault → Prop} {f : Fault}
    (hsat : Sat e.program w Q E) (h : step w e = .error f) : E f := by
  rw [step] at h
  cases hp : e.program w with
  | ok r =>
    rw [hp] at h
    cases h
  | error g =>
    rw [hp] at h
    cases h
    exact (sat_of_error hp).1 hsat

/-- No operation of the administrator makes the buffers too small for a reply. -/
theorem bufferSize_apply (op : StoreOp) {st : MonitorStore} (h : 1024 ≤ st.ioBufferSize) :
    1024 ≤ (op.apply st).ioBufferSize := by
  cases op with
  | addUser u p a =>
    rw [StoreOp.apply, storeUserAdd]
    repeat' split
    all_goals exact h
  | deleteUser u =>
    rw [StoreOp.apply, storeUserDelete]
    repeat' split
    all_goals exact h
  | setPassword u p =>
    rw [StoreOp.apply, storeUserSetPassword]
    repeat' split
    all_goals exact h
  | config k v r =>
    have hgrow : ∀ n, (storeGrowSessionsSlots st n r).1.ioBufferSize = st.ioBufferSize := by
      intro n
      rw [storeGrowSessionsSlots]
      repeat' split
      all_goals rfl
    rw [StoreOp.apply]
    cases k with
    | timeout =>
      rw [storeConfigSet]
      split <;> exact h
    | sessionsCap =>
      have hv := hgrow v
      rw [storeConfigSet]
      repeat' split
      · exact h
      · exact h
      · next heq => rw [heq] at hv; exact hv.symm ▸ h
      · next heq => rw [heq] at hv; exact hv.symm ▸ h
      · exact h
    | ioBufferSize =>
      rw [storeConfigSet]
      split
      · exact h
      · next hsize => exact Nat.le_of_not_lt fun hlt => hsize (.inl hlt)
  | denyHost host =>
    rw [StoreOp.apply, storeDenyHost]
    repeat' split
    all_goals exact h
  | undenyHost host =>
    rw [StoreOp.apply, storeUndenyHost]
    split <;> exact h
  | denyIp ip =>
    rw [StoreOp.apply, storeDenyIp]
    repeat' split
    all_goals exact h
  | undenyIp ip =>
    rw [StoreOp.apply, storeUndenyIp]
    split <;> exact h

omit [Inet] in
theorem sat_monitorAccept {fd : Fd} {i : FdInterest} {E : Fault → Prop} :
    Sat (monitorAccept fd i) w
      (fun _ w' => w' = w ∨ w.fds fd = none ∧ w' = w.setFd fd (some ⟨.monitor, i, 0⟩)) E := by
  rw [monitorAccept, sat_bind, sat_get]
  cases hf : w.freshFd (some fd) with
  | none => exact .inl rfl
  | some fd' =>
    obtain ⟨⟨⟩, hfree⟩ := Option.filter_eq_some_iff.1 hf
    dsimp only
    split
    · exact .inr ⟨Option.isNone_iff_eq_none.1 hfree, rfl⟩
    · exact .inl rfl

omit [Inet] in
theorem sat_monitorRelease {fd : Fd} {E : Fault → Prop} :
    Sat (monitorRelease fd) w
      (fun _ w' => w' = w ∨ (∃ i sid, w.fds fd = some ⟨.monitor, i, sid⟩) ∧ w' = w.setFd fd none)
      E := by
  rw [monitorRelease, sat_bind, sat_get]
  split
  · next i sid hfd => exact .inr ⟨⟨i, sid, hfd⟩, rfl⟩
  · exact .inl rfl

omit [Inet] in
/-- Registrations of the monitor are nothing to a session. -/
theorem slot_setFd_monitor {fd : Fd} {item? : Option Item}
    (hold : ∀ item, w.fds fd = some item → item.handler = .monitor)
    (hnew : ∀ item, item? = some item → item.handler = .monitor) (sid : Sid) :
    slot (w.setFd fd item?) sid = slot w sid := by
  have hnone : ∀ {w : World} {h : Handler}, h ≠ .monitor →
      (∀ item, w.fds fd = some item → item.handler = .monitor) → w.interestOf h sid fd = none := by
    intro w h hne hall
    by_contra hsome
    obtain ⟨i, hi⟩ := Option.ne_none_iff_exists'.1 hsome
    exact hne (hall _ (interestOf_eq_some.1 hi))
  have hnew' : ∀ item, (w.setFd fd item?).fds fd = some item → item.handler = .monitor := by
    intro item hi
    rw [fds_setFd, if_pos rfl] at hi
    exact hnew item hi
  have hboth : ∀ h, h ≠ .monitor → (w.setFd fd item?).interestOf h sid = w.interestOf h sid := by
    intro h hne
    funext fd'
    by_cases heq : fd' = fd
    · subst heq
      rw [hnone hne hnew', hnone hne hold]
    · exact interestOf_setFd_of_ne heq
  rw [slot, slot, hboth .client (by simp), hboth .origin (by simp)]
  rfl

omit [Inet] in
theorem World.Inv.setFd_monitor (hinv : w.Inv) {fd : Fd} {item? : Option Item}
    (hold : ∀ item, w.fds fd = some item → item.handler = .monitor)
    (hnew : ∀ item, item? = some item → item.handler = .monitor) : (w.setFd fd item?).Inv := by
  refine ⟨fun fd' item hi => ?_, hinv.idle, hinv.bufferSize, fun sid => ?_⟩
  · rw [fds_setFd] at hi
    split at hi
    · have hm := hnew item hi
      rw [World.Claimed, hm]
      trivial
    · exact hinv.claimed fd' item hi
  · rw [slot_setFd_monitor hold hnew]
    exact hinv.slots sid

/-- What `handle_block_notifications` leaves. -/
theorem sat_notifications {H : Set Fd} (hw : w.Wf H) (hok : ∀ sid, (slot w sid).Ok) :
    Sat handleBlockNotifications w (fun _ w' => w'.Wf H ∧
      ∀ sid, Acts .block false false (slot w sid) (slot w' sid))
      fun f => ∃ w₁ job, JobFault w₁ job f := by
  rw [handleBlockNotifications, sat_bind, sat_get, sat_bind]
  refine (sat_handleJobs hw hok).mono ?_ fun _ hf => hf
  rintro _ w₁ ⟨hw₁, hc⟩
  rw [sat_modify]
  exact ⟨⟨hw₁.claimed, hw₁.idle, hw₁.bufferSize, hw₁.socket, hw₁.accept⟩, hc.acts⟩

/-- **Every step of the proxy is a sequence of steps of its sessions.** -/
theorem step_acts (hinv : w.Inv) (h : step w e = .ok w') :
    w'.Inv ∧ ∀ sid, Acts (e.mode w) (e.lags w) (e.stalls w) (slot w sid) (slot w' sid) := by
  have hof : ∀ {w₂ : World} {m : Mode} {lag stall : Bool}, w₂.Wf Set.univ →
      (∀ sid, Acts m lag stall (slot w sid) (slot w₂ sid)) →
      w₂.Inv ∧ ∀ sid, Acts m lag stall (slot w sid) (slot w₂ sid) := fun hw₂ hacts =>
    ⟨hw₂.inv fun sid => (hacts sid).steps.ok (hinv.slots sid), hacts⟩
  cases e with
  | readable fd env =>
    have hsat : Sat (Event.program (.readable fd env)) w _ _ := (sat_bind ..).2 ((sat_modify _).2
      (sat_dispatchRead (hinv.wf env.handsOut_univ) hinv.slots))
    obtain ⟨hd, -⟩ := step_of_sat hsat h
    exact hof hd.wf hd.changes.acts
  | writable fd env =>
    have hsat : Sat (Event.program (.writable fd env)) w _ _ := (sat_bind ..).2 ((sat_modify _).2
      (sat_dispatchWrite (hinv.wf env.handsOut_univ) hinv.slots))
    obtain ⟨hd, -⟩ := step_of_sat hsat h
    exact hof hd.wf hd.changes.acts
  | resolved i rc result posted =>
    have hsat : Sat (Event.program (.resolved i rc result posted)) w _ _ := sat_dnsThread
    exact (step_of_sat hsat h).inv hinv
  | notifications env =>
    have hsat : Sat (Event.program (.notifications env)) w _ _ := (sat_bind ..).2
      ((sat_modify _).2 (sat_notifications (hinv.wf env.handsOut_univ) hinv.slots))
    obtain ⟨hw', hacts⟩ := step_of_sat hsat h
    exact hof hw' hacts
  | expire env =>
    have hsat : Sat (Event.program (.expire env)) w _ (fun _ => True) := (sat_bind ..).2
      ((sat_modify _).2 (sat_expireIdle (hinv.wf env.handsOut_univ) hinv.slots))
    have hc := step_of_sat hsat h
    exact hof hc.wf hc.changes.acts
  | tick n =>
    cases h
    exact ⟨⟨hinv.claimed, hinv.idle, hinv.bufferSize, hinv.slots⟩, fun _ => .refl⟩
  | admin op =>
    cases h
    exact ⟨⟨hinv.claimed, hinv.idle, bufferSize_apply op hinv.bufferSize, hinv.slots⟩,
      fun _ => .refl⟩
  | monitorOpen fd i =>
    have hsat : Sat (Event.program (.monitorOpen fd i)) w
        (fun _ w' => w' = w ∨ w.fds fd = none ∧ w' = w.setFd fd (some ⟨.monitor, i, 0⟩))
        (fun _ => True) := sat_monitorAccept
    rcases step_of_sat hsat h with rfl | ⟨hfd, rfl⟩
    · exact ⟨hinv, fun _ => .refl⟩
    · have hold : ∀ item, w.fds fd = some item → item.handler = .monitor := by simp [hfd]
      refine ⟨hinv.setFd_monitor hold (by simp), fun sid => ?_⟩
      rw [slot_setFd_monitor hold (by simp)]
      exact .refl
  | monitorClose fd =>
    have hsat : Sat (Event.program (.monitorClose fd)) w
        (fun _ w' => w' = w ∨ (∃ i sid, w.fds fd = some ⟨.monitor, i, sid⟩) ∧ w' = w.setFd fd none)
        (fun _ => True) := sat_monitorRelease
    rcases step_of_sat hsat h with rfl | ⟨⟨i, sid, hfd⟩, rfl⟩
    · exact ⟨hinv, fun _ => .refl⟩
    · have hold : ∀ item, w.fds fd = some item → item.handler = .monitor := by
        intro item hi
        rw [hfd] at hi
        cases hi
        rfl
      refine ⟨hinv.setFd_monitor hold (by simp), fun sid => ?_⟩
      rw [slot_setFd_monitor hold (by simp)]
      exact .refl

omit [Inet] in
/-- The process is in order when it starts to listen. -/
theorem boot_inv (listenFd monitorFd : Fd) : (World.boot listenFd monitorFd).Inv where
  claimed := by
    intro fd item h
    have hitem : item = ⟨.passive, opRead, 0⟩ ∨ item = ⟨.monitor, opRead, 0⟩ := by
      rw [World.boot] at h
      simp only [Function.update_apply] at h
      split at h
      · exact .inl (Option.some.inj h).symm
      · split at h
        · exact .inr (Option.some.inj h).symm
        · cases h
    rcases hitem with rfl | rfl <;> trivial
  idle := ⟨[], Linked.Repr.empty⟩
  bufferSize := show 1024 ≤ 4096 by decide
  slots := fun sid => ⟨fun _ => rfl, fun h => absurd rfl h, fun _ => ⟨rfl, rfl, rfl⟩,
    fun s hs => by cases hs⟩

/-- **The invariant holds in every world the proxy reaches.** -/
theorem reaches_inv {listenFd monitorFd : Fd}
    (h : Reaches step (World.boot listenFd monitorFd) w) : w.Inv :=
  h.inv (boot_inv listenFd monitorFd) fun _ _ _ hinv hstep => (step_acts hinv hstep).1

/-- What every step of a session keeps, every step of the proxy keeps. -/
theorem slots_of_step {P : Slot → Prop}
    (hP : ∀ {mode sl sl'}, SessionStep mode sl sl' → sl.Ok → P sl → P sl') (hinv : w.Inv)
    (hp : ∀ sid, P (slot w sid)) (h : step w e = .ok w') (sid : Sid) : P (slot w' sid) :=
  SessionSteps.keeps hP ((step_acts hinv h).2 sid).steps (hinv.slots sid) (hp sid)

omit [Inet] in
/-- A session that was never allocated. -/
def Slot.unused : Slot := ⟨none, none, none, false, [], false⟩

/-- **What every step of a session keeps holds of every session the proxy reaches.** -/
theorem slots_of_reaches {P : Slot → Prop}
    (hP : ∀ {mode sl sl'}, SessionStep mode sl sl' → sl.Ok → P sl → P sl')
    (h0 : P .unused) {listenFd monitorFd : Fd}
    (h : Reaches step (World.boot listenFd monitorFd) w) (sid : Sid) : P (slot w sid) := by
  have hboth : w.Inv ∧ ∀ sid, P (slot w sid) :=
    h.inv (I := fun w => w.Inv ∧ ∀ sid, P (slot w sid))
      ⟨boot_inv listenFd monitorFd, fun _ => h0⟩ fun _ _ _ hi hs =>
        ⟨(step_acts hi.1 hs).1, slots_of_step hP hi.1 hi.2 hs⟩
  exact hboth.2 sid

end Steps

/-! ## A tunnel -/

/-- A client connects and chooses no authentication. -/
def greeted : List Event :=
  [.readable 3 { accept := [some 7] },
    .readable 7 { read := [.data [5, 1, 0]], write := [.ok 2] }]

/-- The first address of a host. -/
def home : InAddr := #v[10, 0, 0, 1]

/-- The two addresses of a host. -/
def homes : List SockAddr := [.inet home 80, .inet #v[10, 0, 0, 2] 80]

/-- It asks for `10.0.0.1:80`, and the connection is made. -/
def tunnelled : List Event :=
  greeted ++ [.readable 7 { read := [.data [5, 1, 0, 1, 10, 0, 0, 1, 0, 80]], socket := [some 8] },
    .writable 8 { write := [.ok 10] }]

end SocksProxy
