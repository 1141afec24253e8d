import SocksProxy.Socks.Origin

/-!
# The proxy refines its sessions

`World.Inv` is the invariant of the process between two events.  Every event moves every session by
steps of its life (`Changes`), so whatever the automaton of `Session.lean` keeps is kept by every
run of the proxy: this is `reaches_inv` together with `step_changes`.  `Lookups` says what an event
does to the resolutions in flight.

An event concerns one session, none, or several in turn; the loops over several sessions (accepting,
expiring, delivering notifications) are sequences of changes to one session each.
-/

set_option autoImplicit false

namespace SocksProxy

variable [Inet]

/-! ## The invariant and the changes -/

/-- The invariant of the process between two events. -/
structure World.Inv (w : World) : Prop where
  claimed : ∀ fd item, w.fds fd = some item → w.Claimed fd item
  idle : ∃ sids, w.idle.Repr sids
  bufferSize : 1024 ≤ w.store.settings.ioBufferSize
  slots : ∀ sid, (slot w sid).Ok

/-- The descriptors the answers hand out are among `H`. -/
def Env.HandsOut (env : Env) (H : Set Fd) : Prop :=
  (∀ fd, some fd ∈ env.socket → fd ∈ H) ∧ ∀ fd, some fd ∈ env.accept → fd ∈ H

/-- What the sessions and the selector have become. -/
structure Changes (H : Set Fd) (mode : Mode) (lag stall : Bool) (w w' : World) : Prop where
  acts : ∀ sid, Acts mode lag stall (slot w sid) (slot w' sid)
  jobs : w'.resolutionJobs = w.resolutionJobs
  settings : w'.store.settings = w.store.settings
  kinds : ∀ fd, fd ∉ H → ∀ item', w'.fds fd = some item' →
    ∃ item, w.fds fd = some item ∧ item'.handler = item.handler ∧ item'.data = item.data

/-- A resolution the session waits for is still waited for, unless the session has expired. -/
def Keeps (sl sl' : Slot) : Prop :=
  sl'.sess = none ∨ sl'.waiting = sl.waiting ∨ ∃ s', sl'.sess = some s' ∧ s'.ttlExpired = true

/-- No resolution is started, and none is given up by a session that could use it. -/
structure Undisturbed (w w' : World) : Prop where
  threads : w'.threads = w.threads
  keeps : ∀ sid, Keeps (slot w sid) (slot w' sid)

/-- What an event does to the resolutions in flight: nothing, or one more is started. -/
def Lookups (w w' : World) : Prop :=
  Undisturbed w w' ∨ ∃ sid, Starts sid (view w sid) (view w' sid) ∧
    ∀ sid', sid' ≠ sid → slot w' sid' = slot w sid'

section Changes

variable {H : Set Fd} {sid : Sid} {mode : Mode} {lag stall : Bool} {w w' w'' : World}

omit [Inet] in
theorem World.Wf.inv (h : w.Wf H) (hs : ∀ sid, (slot w sid).Ok) : w.Inv :=
  ⟨h.claimed, h.idle, h.bufferSize, hs⟩

omit [Inet] in
theorem World.Inv.wf (h : w.Inv) {env : Env} (he : env.HandsOut H) :
    World.Wf H { w with env := env } :=
  ⟨h.claimed, h.idle, h.bufferSize, he.1, he.2⟩

omit [Inet] in
theorem Env.handsOut_univ (env : Env) : env.HandsOut Set.univ :=
  ⟨fun _ _ => trivial, fun _ _ => trivial⟩

theorem Changes.refl : Changes H mode lag stall w w where
  acts := fun _ => .refl
  jobs := rfl
  settings := rfl
  kinds := fun _ _ item' h => ⟨item', h, rfl, rfl⟩

theorem Changes.trans (h1 : Changes H mode lag stall w w') (h2 : Changes H mode lag stall w' w'') :
    Changes H mode lag stall w w'' where
  acts := fun sid => (h1.acts sid).trans (h2.acts sid)
  jobs := h2.jobs.trans h1.jobs
  settings := h2.settings.trans h1.settings
  kinds := by
    intro fd hfd item'' h''
    obtain ⟨item', h', e1, e2⟩ := h2.kinds fd hfd item'' h''
    obtain ⟨item, h, e3, e4⟩ := h1.kinds fd hfd item' h'
    exact ⟨item, h, e1.trans e3, e2.trans e4⟩

/-- A callback of one session. -/
theorem Changes.of_frame (hf : Frame H sid w w')
    (ha : Acts mode lag stall (slot w sid) (slot w' sid)) : Changes H mode lag stall w w' where
  acts := fun sid' => by
    by_cases hne : sid' = sid
    · subst hne
      exact ha
    · rw [hf.others sid' hne]
      exact .refl
  jobs := hf.jobs
  settings := hf.settings
  kinds := hf.kinds

theorem Changes.mono (h : Changes H .plain false false w w') : Changes H mode lag stall w w' where
  acts := fun sid => (h.acts sid).mono
  jobs := h.jobs
  settings := h.settings
  kinds := h.kinds

/-- Every session keeps its invariant. -/
theorem Changes.ok (h : Changes H mode lag stall w w') (hok : ∀ sid, (slot w sid).Ok) :
    ∀ sid, (slot w' sid).Ok := fun sid => (h.acts sid).steps.ok (hok sid)

omit [Inet] in
theorem Keeps.refl {sl : Slot} : Keeps sl sl := .inr (.inl rfl)

theorem Keeps.trans {sl sl' sl'' : Slot} (h1 : Keeps sl sl') (h2 : Keeps sl' sl'') (hok : sl.Ok)
    (hs1 : SessionSteps mode sl sl') (hs2 : SessionSteps mode sl' sl'') : Keeps sl sl'' := by
  rcases h2 with hn | hw | he
  · exact .inl hn
  · have hpersists : sl'.used = true → ∀ s'', sl''.sess = some s'' →
        ∃ s', sl'.sess = some s' ∧ (s'.ttlExpired = true → s''.ttlExpired = true) := by
      intro hu s'' hs''
      obtain ⟨s', hs', -, ht⟩ := (hs2.persists hu).sess s'' hs''
      exact ⟨s', hs', ht⟩
    rcases h1 with hn | hw' | ⟨s', hs', he⟩
    · by_cases hu : sl.used = true
      · refine .inl (Option.eq_none_iff_forall_ne_some.2 fun s'' hs'' => ?_)
        obtain ⟨s', hs', -⟩ := hpersists (hs1.persists hu).used s'' hs''
        rw [hn] at hs'
        cases hs'
      · have hnone : sl.sess = none := by
          by_contra h
          exact hu (hok.used h)
        exact .inr (.inl (by rw [hw, waiting_of_none hn, waiting_of_none hnone]))
    · exact .inr (.inl (hw.trans hw'))
    · cases hs'' : sl''.sess with
      | none => exact .inl hs''
      | some s'' =>
        obtain ⟨s₁, hs₁, ht⟩ := hpersists ((hs1.ok hok).used (by simp [hs'])) s'' hs''
        rw [hs'] at hs₁
        cases hs₁
        exact .inr (.inr ⟨s'', hs'', ht he⟩)
  · exact .inr (.inr he)

omit [Inet] in
theorem Undisturbed.refl : Undisturbed w w := ⟨rfl, fun _ => .refl⟩

theorem Undisturbed.trans (h1 : Undisturbed w w') (h2 : Undisturbed w' w'')
    (hok : ∀ sid, (slot w sid).Ok) (hc1 : Changes H mode lag stall w w')
    (hc2 : Changes H mode lag stall w' w'') : Undisturbed w w'' where
  threads := h2.threads.trans h1.threads
  keeps := fun sid =>
    (h1.keeps sid).trans (h2.keeps sid) (hok sid) (hc1.acts sid).steps (hc2.acts sid).steps

omit [Inet] in
theorem Undisturbed.of_frame (hf : Frame H sid w w') (ht : w'.threads = w.threads)
    (hk : Keeps (slot w sid) (slot w' sid)) : Undisturbed w w' where
  threads := ht
  keeps := fun sid' => by
    by_cases hne : sid' = sid
    · subst hne
      exact hk
    · rw [hf.others sid' hne]
      exact .refl

omit [Inet] in
theorem Undisturbed.of_quiet (hf : Frame H sid w w') (hq : Quiet (view w sid) (view w' sid)) :
    Undisturbed w w' :=
  .of_frame hf hq.1 (hq.2.imp id .inl)

/-- Nothing happens to any session. -/
theorem Changes.of_slots (hs : ∀ sid, slot w' sid = slot w sid)
    (hj : w'.resolutionJobs = w.resolutionJobs) (hset : w'.store.settings = w.store.settings)
    (hfds : w'.fds = w.fds) : Changes H mode lag stall w w' where
  acts := fun sid => by
    rw [hs sid]
    exact .refl
  jobs := hj
  settings := hset
  kinds := fun fd _ item' h => ⟨item', by rw [← hfds]; exact h, rfl, rfl⟩

omit [Inet] in
theorem Undisturbed.of_slots (hs : ∀ sid, slot w' sid = slot w sid)
    (ht : w'.threads = w.threads) : Undisturbed w w' where
  threads := ht
  keeps := fun sid => by
    rw [hs sid]
    exact .refl

end Changes

/-! ## Accepting -/

section Accept

variable {H : Set Fd} {w w' : World} {E : Fault → Prop}

/-- What an event leaves when no session waits for anything new. -/
structure Calm (H : Set Fd) (w w' : World) : Prop where
  wf : w'.Wf H
  changes : Changes H .plain false false w w'
  undisturbed : Undisturbed w w'

theorem Calm.trans {w'' : World} (h1 : Calm H w w')
    (h2 : Calm H w' w'') (hok : ∀ sid, (slot w sid).Ok) :
    Calm H w w'' where
  wf := h2.wf
  changes := h1.changes.trans h2.changes
  undisturbed := h1.undisturbed.trans h2.undisturbed hok h1.changes h2.changes

/-- Only the answers of the system and the store have changed. -/
theorem Calm.of_books (hw : w.Wf H) {env : Env} {st : MonitorStore} {acts : List StoreAct}
    (hsock : ∀ x, x ∈ env.socket → x ∈ w.env.socket)
    (hacc : ∀ x, x ∈ env.accept → x ∈ w.env.accept) (hset : st.settings = w.store.settings) :
    Calm H w { w with env := env, store := st, acts := acts } where
  wf := ⟨hw.claimed, hw.idle, hset.symm ▸ hw.bufferSize, fun fd h => hw.socket fd (hsock _ h),
    fun fd h => hw.accept fd (hacc _ h)⟩
  changes := .of_slots (fun _ => rfl) rfl hset rfl
  undisturbed := .of_slots (fun _ => rfl) rfl

omit [Inet] in
/-- The session allocated next is not there yet. -/
theorem slot_next (hok : ∀ sid, (slot w sid).Ok) :
    (slot w w.nextSid).used = false ∧ w.sessions w.nextSid = none ∧
      (slot w w.nextSid).origin = none := by
  have hu : (slot w w.nextSid).used = false := decide_eq_false (Nat.lt_irrefl _)
  have hn : (slot w w.nextSid).sess = none := by
    by_contra h
    rw [(hok w.nextSid).used h] at hu
    cases hu
  exact ⟨hu, hn, ((hok w.nextSid).closed hn).2.1⟩

omit [Inet] in
/-- One more session number is used, for another session. -/
theorem used_next {sid : Sid} (hne : sid ≠ w.nextSid) :
    decide (sid < w.nextSid + 1) = decide (sid < w.nextSid) := by
  have : sid < w.nextSid + 1 ↔ sid < w.nextSid :=
    ⟨fun h => Nat.lt_of_le_of_ne (Nat.lt_succ_iff.1 h) hne, Nat.lt_succ_of_lt⟩
  simp only [this]

/-- `socks_passive_read` allocated a session and freed it again. -/
theorem Calm.of_discard (hw : w.Wf H) (hok : ∀ sid, (slot w sid).Ok) :
    Calm H w { w with
      nextSid := w.nextSid + 1, sessions := Function.update w.sessions w.nextSid none } := by
  obtain ⟨hfresh, hnone, -⟩ := slot_next hok
  have hsess : Function.update w.sessions w.nextSid none = w.sessions := by
    rw [← hnone, Function.update_eq_self]
  rw [hsess]
  have hother : ∀ sid, sid ≠ w.nextSid →
      slot { w with nextSid := w.nextSid + 1 } sid = slot w sid := by
    intro sid hne
    rw [slot, used_next hne]
    rfl
  have hself : slot { w with nextSid := w.nextSid + 1 } w.nextSid =
      { slot w w.nextSid with used := true } := by
    simp only [slot, Nat.lt_succ_self, decide_true]
    rfl
  refine ⟨⟨hw.claimed, hw.idle, hw.bufferSize, hw.socket, hw.accept⟩,
    ⟨fun sid => ?_, rfl, rfl, fun fd _ item' h => ⟨item', h, rfl, rfl⟩⟩, ⟨rfl, fun sid => ?_⟩⟩
  · by_cases hne : sid = w.nextSid
    · subst hne
      rw [hself]
      exact .of_closed (.single (.discard hfresh)) hnone
    · rw [hother sid hne]
      exact .refl
  · by_cases hne : sid = w.nextSid
    · subst hne
      rw [hself]
      exact .inl hnone
    · rw [hother sid hne]
      exact .refl

/-- The world once a connection was accepted as session `s`. -/
def World.accepted (w : World) (s : SocksSession) : World :=
  { w with
    nextSid := w.nextSid + 1
    sessions := Function.update w.sessions w.nextSid (some s)
    fds := Function.update w.fds s.clientFd (some ⟨.client, opRead, w.nextSid⟩)
    activeSessions := w.activeSessions + 1
    idle := w.idle.pushTail w.nextSid }

omit [Inet] in
theorem World.Wf.accepted (hw : w.Wf H) (hok : ∀ sid, (slot w sid).Ok) (s : SocksSession) :
    (w.accepted s).Wf H := by
  obtain ⟨-, hnone, -⟩ := slot_next hok
  obtain ⟨sids, hrepr⟩ := hw.idle
  refine ⟨fun fd item hfd => ?_, ⟨_, hrepr.pushTail _⟩, hw.bufferSize, hw.socket, hw.accept⟩
  replace hfd : (w.setFd s.clientFd (some ⟨.client, opRead, w.nextSid⟩)).fds fd = some item := hfd
  rw [fds_setFd] at hfd
  split at hfd
  · subst fd
    cases hfd
    exact ⟨s, Function.update_self .., rfl⟩
  · have hcl := hw.claimed fd item hfd
    obtain ⟨h, i, d⟩ := item
    have hopen : ∀ {t : SocksSession}, w.sessions d = some t →
        (w.accepted s).sessions d = some t := by
      intro t ht
      have hne : d ≠ w.nextSid := by
        rintro rfl
        rw [hnone] at ht
        cases ht
      rw [← ht]
      exact Function.update_of_ne hne ..
    cases h with
    | client =>
      obtain ⟨t, ht, hfd'⟩ := hcl
      exact ⟨t, hopen ht, hfd'⟩
    | origin =>
      obtain ⟨t, ht, hfd'⟩ := hcl
      exact ⟨t, hopen ht, hfd'⟩
    | passive => trivial
    | monitor => trivial

omit [Inet] in
theorem slot_accepted_self (hok : ∀ sid, (slot w sid).Ok) {s : SocksSession}
    (ho : s.originFd = none) :
    slot (w.accepted s) w.nextSid = { slot w w.nextSid with
      sess := some s, client := some opRead, idle := true, used := true } := by
  obtain ⟨-, -, horigin⟩ := slot_next hok
  have hc : (w.accepted s).interestOf .client w.nextSid s.clientFd = some opRead := by
    rw [interestOf_eq_some]
    exact Function.update_self ..
  have hs : (w.accepted s).sessions w.nextSid = some s := Function.update_self ..
  show slot (w.accepted s) w.nextSid =
    ⟨some s, some opRead, (slot w w.nextSid).origin, true, w.hist w.nextSid, true⟩
  rw [slot, hs, horigin, Option.bind_some, Option.bind_some, hc, ho, Option.bind_none]
  simp [World.accepted]

omit [Inet] in
theorem slot_accepted_of_ne {s : SocksSession} (hfd : w.fds s.clientFd = none) {sid : Sid}
    (hne : sid ≠ w.nextSid) : slot (w.accepted s) sid = slot w sid := by
  have hfds : ∀ h fd, (w.accepted s).interestOf h sid fd = w.interestOf h sid fd :=
    fun h fd => by
      have hset : (w.accepted s).interestOf h sid fd =
        (w.setFd s.clientFd (some ⟨.client, opRead, w.nextSid⟩)).interestOf h sid fd := rfl
      rw [hset]
      by_cases heq : fd = s.clientFd
      · subst heq
        rw [interestOf_of_owned hne fun item hi => ?_, World.interestOf, hfd]
        rw [fds_setFd, if_pos rfl] at hi
        cases hi
        rfl
      · exact interestOf_setFd_of_ne heq
  have hs : (w.accepted s).sessions sid = w.sessions sid := Function.update_of_ne hne ..
  have hi : (w.accepted s).idle.mem sid = w.idle.mem sid := by simp [World.accepted, hne]
  have hu : decide (sid < (w.accepted s).nextSid) = decide (sid < w.nextSid) := used_next hne
  have hclient : (w.accepted s).interestOf .client sid = w.interestOf .client sid :=
    funext (hfds _)
  have horigin : (w.accepted s).interestOf .origin sid = w.interestOf .origin sid :=
    funext (hfds _)
  have hhist : (w.accepted s).hist sid = w.hist sid := rfl
  rw [slot, slot, hs, hclient, horigin, hi, hhist, hu]

/-- `socks_passive_read` accepted a connection. -/
theorem Calm.of_accept (hw : w.Wf H) (hok : ∀ sid, (slot w sid).Ok) {fd : Fd}
    (hfd : w.fds fd = none) (hH : fd ∈ H) {size now : ℕ} {id : UInt32} (hsize : 1024 ≤ size) :
    Calm H w (w.accepted (socksSessionInit fd size now id)) := by
  obtain ⟨hfresh, hnone, -⟩ := slot_next hok
  have hself := slot_accepted_self hok (s := socksSessionInit fd size now id) rfl
  have hother : ∀ sid, sid ≠ w.nextSid →
      slot (w.accepted (socksSessionInit fd size now id)) sid = slot w sid := fun sid hne =>
    slot_accepted_of_ne hfd hne
  refine ⟨hw.accepted hok _, ⟨fun sid => ?_, rfl, rfl, fun fd' hfd' item' h => ?_⟩,
    ⟨rfl, fun sid => ?_⟩⟩
  · by_cases hne : sid = w.nextSid
    · subst hne
      rw [hself]
      refine ⟨.single (.accept hfresh hsize), fun _ _ s' hs' hst => ?_, fun _ _ => ?_⟩
      · cases hs'
        cases hst
      · exact not_stalled_of_some rfl rfl
    · rw [hother sid hne]
      exact .refl
  · have hne : fd' ≠ fd := fun h => hfd' (h ▸ hH)
    exact ⟨item', (Function.update_of_ne hne ..).symm.trans h, rfl, rfl⟩
  · by_cases hne : sid = w.nextSid
    · subst hne
      rw [hself]
      refine .inr (.inl ?_)
      rw [waiting_of_none (show (slot w w.nextSid).sess = none from hnone)]
      rfl
    · rw [hother sid hne]
      exact .refl

/-- The last part of `socks_passive_read`: the session is allocated and registered. -/
theorem sat_openSession (hw : w.Wf H) (hok : ∀ sid, (slot w sid).Ok) {fd : Fd}
    (hfd : w.fds fd = none) (hH : fd ∈ H) (id : UInt32) :
    Sat (do
      let w ← get
      let sid := w.nextSid
      set { w with
        nextSid := sid + 1
        sessions := Function.update w.sessions sid (some (socksSessionInit fd
          (storeConfigGet w.store .ioBufferSize) w.clock id)) }
      if ← selectorRegister fd ⟨.client, opRead, sid⟩ then
        modify fun w => { w with
          activeSessions := w.activeSessions + 1
          idle := w.idle.pushTail sid }
      else
        onStore (.finish id)
        modify fun w => { w with sessions := Function.update w.sessions sid none } : SocksM Unit)
      w (fun _ w' => Calm H w w') E := by
  have hroom : ∀ w' : World, (view w' w.nextSid).hasRoom fd =
    (decide (fd < selectorItemsMaxSize) && w'.env.room.headD true) := fun _ => rfl
  rw [sat_bind, sat_get, sat_bind, sat_set, sat_bind,
    sat_of_ok (selectorRegister_eq w.nextSid (by exact hfd))]
  simp only [hroom]
  cases decide (fd < selectorItemsMaxSize) && w.env.room.headD true with
  | true =>
    rw [if_pos rfl, if_pos rfl, sat_modify]
    have hc : Calm H w { w with env := { w.env with room := w.env.room.tail } } :=
      .of_books hw (fun _ h => h) (fun _ h => h) rfl
    exact hc.trans (.of_accept hc.wf hok hfd hH hw.bufferSize) hok
  | false =>
    rw [if_neg (by simp), if_neg (by simp), sat_bind,
      sat_of_ok (show onStore _ _ = .ok (_, _) from rfl), sat_modify]
    have hc : Calm H w { w with
        env := { w.env with room := w.env.room.tail }
        store := StoreCall.apply w.store (.finish id), acts := w.acts ++ [.call (.finish id)] } :=
      .of_books hw (fun _ h => h) (fun _ h => h) (settings_apply w.store rfl)
    have := hc.trans (.of_discard hc.wf hok) hok
    simpa only [Function.update_idem] using this

theorem sat_acceptOne (hw : w.Wf H) (hok : ∀ sid, (slot w sid).Ok) {fd : Fd}
    (hfd : w.fds fd = none) (hH : fd ∈ H) :
    Sat (acceptOne fd) w (fun _ w' => Calm H w w') E := by
  -- up to the allocation only the answers and the store change
  have hbooks : ∀ {env : Env} {st : MonitorStore} {acts : List StoreAct},
      env.socket = w.env.socket → env.accept = w.env.accept →
      st.settings = w.store.settings →
      Calm H w { w with env := env, store := st, acts := acts } := by
    intro env st acts h1 h2 h3
    exact .of_books hw (fun _ h => h1 ▸ h) (fun _ h => h2 ▸ h) h3
  rw [acceptOne, sat_bind, sat_of_ok (show sysNio w = .ok (_, _) from rfl)]
  split
  · rw [sat_bind, sat_get, sat_bind, sat_of_ok (show onStore _ _ = .ok (_, _) from rfl)]
    dsimp only
    have hbegin : (StoreCall.begin.apply w.store).settings = w.store.settings :=
      settings_apply w.store rfl
    have hundo : ∀ id, ((StoreCall.finish id).apply (StoreCall.begin.apply w.store)).settings =
        w.store.settings := fun _ => (settings_apply _ rfl).trans hbegin
    split
    · exact hbooks rfl rfl hbegin
    · rw [sat_bind, sat_of_ok (show sysAlloc _ = .ok (_, _) from rfl)]
      split
      · rw [sat_bind, sat_of_ok (show sysAlloc _ = .ok (_, _) from rfl), sat_bind,
          sat_of_ok (show sysAlloc _ = .ok (_, _) from rfl)]
        have hc : Calm H w { w with
            env := { w.env with
              nio := w.env.nio.tail, alloc := w.env.alloc.tail.tail.tail }
            store := StoreCall.begin.apply w.store, acts := w.acts ++ [.call .begin] } :=
          hbooks rfl rfl hbegin
        split
        · exact (sat_openSession hc.wf hok hfd hH _).mono (fun _ _ h => hc.trans h hok)
            fun _ hf => hf
        · exact hbooks rfl rfl (hundo _)
      · exact hbooks rfl rfl (hundo _)
  · exact hbooks rfl rfl rfl

theorem sat_acceptLoop {n : ℕ} (hw : w.Wf H) (hok : ∀ sid, (slot w sid).Ok) :
    Sat (acceptLoop n) w (fun _ w' => Calm H w w') E := by
  induction n generalizing w with
  | zero => exact ⟨hw, .refl, .refl⟩
  | succ n ih =>
    have hc : Calm H w { w with env := { w.env with accept := w.env.accept.tail } } :=
      .of_books hw (fun _ h => h) (fun _ h => List.mem_of_mem_tail h) rfl
    rw [acceptLoop, sat_bind, sat_of_ok (show sysAccept w = .ok (_, _) from rfl)]
    cases hans : w.freshFd (w.env.accept.headD none) with
    | none => exact hc
    | some fd =>
      obtain ⟨hhead, hfree⟩ := Option.filter_eq_some_iff.1 hans
      have hfd : w.fds fd = none := Option.isNone_iff_eq_none.1 hfree
      have hH : fd ∈ H := by
        refine hw.accept fd ?_
        cases hl : w.env.accept with
        | nil => rw [hl] at hhead; cases hhead
        | cons x xs =>
          rw [hl] at hhead
          exact List.mem_cons.2 (.inl hhead.symm)
      rw [sat_bind]
      refine (sat_acceptOne hc.wf hok hfd hH).mono (fun _ w₁ h1 => ?_) fun _ hf => hf
      have h1' := hc.trans h1 hok
      exact (ih h1'.wf (h1'.changes.ok hok)).mono (fun _ _ h2 => h1'.trans h2 hok) fun _ hf => hf

theorem sat_passiveRead (hw : w.Wf H) (hok : ∀ sid, (slot w sid).Ok) :
    Sat socksPassiveRead w (fun _ w' => Calm H w w') E := by
  rw [socksPassiveRead, sat_bind, sat_get]
  exact sat_acceptLoop hw hok

end Accept

/-! ## Expiring -/

section Expire

variable {H : Set Fd} {sid : Sid} {w w' : World} {E : Fault → Prop}

omit [Inet] in
/-- The head of the idle list is an open session. -/
theorem open_of_head (hw : w.Wf H) (hok : ∀ sid, (slot w sid).Ok) (hh : w.idle.head = some sid) :
    (slot w sid).idle = true ∧ ∃ s, w.sessions sid = some s := by
  obtain ⟨sids, hrepr⟩ := hw.idle
  have hmem : sid ∈ sids := by
    rw [hrepr.head] at hh
    exact List.mem_of_mem_head? hh
  have hidle : (slot w sid).idle = true := (hrepr.mem sid).2 hmem
  refine ⟨hidle, Option.ne_none_iff_exists'.1 fun hn => ?_⟩
  rw [((hok sid).closed hn).2.2] at hidle
  cases hidle

theorem Calm.of_expires (hw' : w'.Wf H) (hf : Frame H sid w w')
    (h : Expires (view w sid) (view w' sid)) : Calm H w w' where
  wf := hw'
  changes := .of_frame hf h.acts
  undisturbed := by
    refine .of_frame hf h.threads ?_
    cases hs : (slot w' sid).sess with
    | none => exact .inl hs
    | some s' => exact .inr (.inr ⟨s', hs, h.expired s' hs⟩)

theorem sat_expireLoop {now timeout n : ℕ} (hw : w.Wf H) (hok : ∀ sid, (slot w sid).Ok) :
    Sat (expireLoop now timeout n) w (fun _ w' => Calm H w w') E := by
  induction n generalizing w with
  | zero => exact ⟨hw, .refl, .refl⟩
  | succ n ih =>
    rw [expireLoop, sat_bind, sat_get]
    cases hh : w.idle.head with
    | none => exact ⟨hw, .refl, .refl⟩
    | some sid =>
      obtain ⟨hidle, s, hs⟩ := open_of_head hw hok hh
      dsimp only
      rw [sat_bind, sat_of_ok (show deref sid w = .ok (s, w) by rw [deref, hs])]
      split
      · exact ⟨hw, .refl, .refl⟩
      · have hone := does_expireOne (E := E) (hok sid) hs hidle w hw rfl
        have hloop : ∀ w₁ : World, (w₁.Wf H ∧ Frame H sid w w₁ ∧
            Expires (view w sid) (view w₁ sid)) →
            Sat (expireLoop now timeout n) w₁ (fun _ w' => Calm H w w') E := by
          rintro w₁ ⟨hw₁, hf, hexp⟩
          have hc := Calm.of_expires hw₁ hf hexp
          exact (ih hc.wf (hc.changes.ok hok)).mono (fun _ _ h => hc.trans h hok) fun _ hf => hf
        have := hone.mono (fun _ w₁ h => hloop w₁ h) fun _ hf => hf
        rw [← sat_bind] at this
        by_cases hst : stmState s = .relay
        · simpa only [bind_assoc, if_pos hst] using this
        · simpa only [bind_assoc, if_neg hst] using this

theorem sat_expireIdle (hw : w.Wf H) (hok : ∀ sid, (slot w sid).Ok) :
    Sat socksServerExpireIdle w (fun _ w' => Calm H w w') E := by
  rw [socksServerExpireIdle, sat_bind, sat_get]
  dsimp only
  split
  · exact ⟨hw, .refl, .refl⟩
  · exact sat_expireLoop hw hok

end Expire

/-! ## Delivering notifications -/

section Jobs

variable {H : Set Fd} {w w' : World} {job : BlockingJob}

/-- The view of a session for which `handle_block` was called. -/
def View.noted (v : View) (owner : Sid) (s : SocksSession) : View :=
  { v with hist := v.hist ++ [.block owner (stmState s)] }

/-- What one turn of `handle_block_notifications` does. -/
inductive Delivers (H : Set Fd) (w : World) (job : BlockingJob) (w' : World) : Prop
  /-- The descriptor is not registered any more. -/
  | dropped (free : w.fds job.fd = none) (same : w' = w)
  | delivered {i : FdInterest} {sid : Sid} {s : SocksSession}
      (item : w.fds job.fd = some ⟨.client, i, sid⟩) (sess : w.sessions sid = some s)
      (fd : s.clientFd = job.fd) (frame : Frame H sid w w')
      (unblocks : Unblocks ((view w sid).noted job.owner s) s (view w' sid))

/-- How one turn of `handle_block_notifications` goes wrong. -/
inductive JobFault (w : World) (job : BlockingJob) (f : Fault) : Prop
  | nullHandler (fault : f = .nullHandler) {item : Item} (registered : w.fds job.fd = some item)
      (handler : item.handler ≠ .client)
  | block {i : FdInterest} {sid : Sid} {s : SocksSession}
      (item : w.fds job.fd = some ⟨.client, i, sid⟩) (sess : w.sessions sid = some s)
      (fault : BlockFault (view w sid) s f)

theorem sat_handleJob (hw : w.Wf H) (hok : ∀ sid, (slot w sid).Ok) :
    Sat (handleJob job) w (fun _ w' => w'.Wf H ∧ Delivers H w job w') (JobFault w job) := by
  rw [handleJob, sat_bind, sat_get]
  cases hfd : w.fds job.fd with
  | none => exact ⟨hw, .dropped hfd rfl⟩
  | some item =>
    dsimp only
    obtain ⟨h, i, sid⟩ := item
    by_cases hc : h = .client
    · subst hc
      obtain ⟨s, hs, hsfd⟩ := hw.claimed _ _ hfd
      replace hs : w.sessions sid = some s := hs
      rw [if_pos (by rfl), ← hsfd]
      have hstep : SessionStep .block (slot w sid) ((view w sid).noted job.owner s).toSlot :=
        .block job.owner rfl hs
      have hdoes : Does H sid (do
          let s ← deref sid
          emit sid (.block job.owner (stmState s))
          socksClientBlock ⟨s.clientFd, sid⟩) (view w sid)
          (fun _ => Unblocks ((view w sid).noted job.owner s) s) (BlockFault (view w sid) s) := by
        refine does_bind (does_deref hs (does_bind (does_emit ?_)))
        exact does_clientBlock (v := (view w sid).noted job.owner s) (hstep.ok (hok sid)) hs
      have hsat := hdoes w hw rfl
      rw [sat_bind, sat_of_ok (show deref sid w = .ok (s, w) by rw [deref, hs])] at hsat ⊢
      refine hsat.mono ?_ fun f hf => .block hfd hs hf
      rintro _ w' ⟨hw', hf, hu⟩
      exact ⟨hw', .delivered hfd hs hsfd hf hu⟩
    · have hb : ¬ (Handler.hasBlock h = true) := by
        cases h <;> simp_all [Handler.hasBlock]
      rw [if_neg hb]
      exact .nullHandler rfl hfd hc

/-- A notification changes the session it is delivered to. -/
theorem Delivers.changes (h : Delivers H w job w') : Changes H .block false false w w' := by
  cases h with
  | dropped _ same =>
    rw [same]
    exact .refl
  | @delivered i sid s item sess fd frame unblocks =>
    refine .of_frame frame ⟨.head (.block job.owner rfl sess) unblocks.acts.steps.mono, ?_, ?_⟩
    · exact fun _ h => unblocks.acts.synced rfl h
    · exact fun _ h => unblocks.acts.unstalled rfl h

theorem sat_handleJobs {jobs : List BlockingJob} (hw : w.Wf H) (hok : ∀ sid, (slot w sid).Ok) :
    Sat (handleJobs jobs) w (fun _ w' => w'.Wf H ∧ Changes H .block false false w w')
      fun f => ∃ w₁ job, JobFault w₁ job f := by
  induction jobs generalizing w with
  | nil => exact ⟨hw, .refl⟩
  | cons job jobs ih =>
    rw [handleJobs, sat_bind]
    refine (sat_handleJob hw hok).mono ?_ fun _ hf => ⟨w, job, hf⟩
    rintro _ w₁ ⟨hw₁, hd⟩
    have hc := hd.changes
    refine (ih hw₁ (hc.ok hok)).mono ?_ fun _ hf => hf
    rintro _ w' ⟨hw', hc'⟩
    exact ⟨hw', hc.trans hc'⟩

end Jobs

end SocksProxy
