import SocksProxy.Socks.Reading

/-!
# The selector callbacks

What each callback of `socks.c` leaves of its session when it returns.  A callback is a sequence of
steps in the life of the session, and between two callbacks more is true than between two steps:
in the tunnel the registered interests are those the buffers call for (`Slot.Synced`), and a session
that only waits for its last reply to go out has some of it left (`Slot.Stalled` does not hold).

Three callbacks break this, each in one situation that can be told before it runs.  `View.lags`,
`View.stallsRead` and `View.stallsWrite` are these situations; `View.lateRead` and `View.lateWrite`
are those in which an origin is served after its session was refused, and `View.refusesRead`,
`View.refusesBlock` and `View.refusesWrite` those in which a request is refused.
-/

set_option autoImplicit false

namespace SocksProxy

/-! ## Between two callbacks -/

/-- In the tunnel, both sockets are armed for what the buffers call for. -/
def Slot.Synced (sl : Slot) : Prop :=
  ∀ s, sl.sess = some s → stmState s = .relay →
    sl.client = some (socksClientInterest s) ∧ sl.origin = some (socksOriginInterest s)

/-- The session waits for a reply to go out that is out already. -/
def Slot.Stalled (sl : Slot) : Prop := ∃ s, sl.sess = some s ∧ s.stalled = true

/-- Whether the session waits for a resolution and, if so, whether the thread is still at it. -/
def Slot.waiting (sl : Slot) : Option Bool :=
  match sl.sess with
  | some s => if stmState s = .resolving then some s.dnsResolving else none
  | none => none

/-- No resolution is started, and none is waited for no longer. -/
def Quiet (v v' : View) : Prop :=
  v'.threads = v.threads ∧ (v'.sess = none ∨ v'.waiting = v.waiting)

/-- A resolution is started, and waited for unless the session is gone. -/
def Starts (sid : Sid) (v v' : View) : Prop :=
  (∃ s, v.sess = some s ∧ stmState s ≠ .resolving ∧ stmState s ≠ .done) ∧
  ∃ fd host port, v'.threads = ⟨sid, fd, host, port⟩ :: v.threads ∧
    ∀ s', v'.sess = some s' → v'.waiting = some true ∧ s'.clientFd = fd

section

variable {sid : Sid} {v v' v'' : View} {s s' : SocksSession}

theorem waiting_of_some {sl : Slot} (hs : sl.sess = some s) :
    sl.waiting = if stmState s = .resolving then some s.dnsResolving else none := by
  rw [Slot.waiting, hs]

theorem waiting_of_none {sl : Slot} (hs : sl.sess = none) : sl.waiting = none := by
  rw [Slot.waiting, hs]

/-- A session that is gone owes nothing. -/
theorem synced_of_none {sl : Slot} (hn : sl.sess = none) : sl.Synced := fun s hs => by
  rw [hn] at hs
  cases hs

theorem not_stalled_of_none {sl : Slot} (hn : sl.sess = none) : ¬ sl.Stalled := fun ⟨s, hs, _⟩ => by
  rw [hn] at hs
  cases hs

/-- Nothing changes for a resolution after `v'`. -/
theorem Quiet.after (h2 : Quiet v' v'') (hp : Persists v'.toSlot v''.toSlot)
    (h1 : Quiet v v' ∨ Starts sid v v') : Quiet v v'' ∨ Starts sid v v'' := by
  rcases h1 with ⟨hth, hw⟩ | ⟨hw, fd, host, port, hth, hs'⟩
  · refine .inl ⟨h2.1.trans hth, ?_⟩
    rcases h2.2 with hn | hw2
    · exact .inl hn
    · rcases hw with hn | hw
      · refine .inl (Option.eq_none_iff_forall_ne_some.2 fun s'' hs'' => ?_)
        obtain ⟨s', hs', -⟩ := hp.sess s'' hs''
        rw [hn] at hs'
        cases hs'
      · exact .inr (hw2.trans hw)
  · refine .inr ⟨hw, fd, host, port, h2.1.trans hth, fun s'' hs'' => ?_⟩
    obtain ⟨s', hsess, hfd, -⟩ := hp.sess s'' hs''
    obtain ⟨hwait, hfd'⟩ := hs' s' hsess
    rcases h2.2 with hn | hw2
    · rw [hn] at hs''
      cases hs''
    · exact ⟨hw2.trans hwait, hfd.trans hfd'⟩

/-- Nothing a resolution depends on has changed. -/
theorem Quiet.of_alike (hs : v.sess = some s) (hs' : v'.sess = some s')
    (ht : v'.threads = v.threads) (hst : stmState s' = stmState s)
    (hd : s'.dnsResolving = s.dnsResolving) : Quiet v v' := by
  refine ⟨ht, .inr ?_⟩
  rw [waiting_of_some hs, waiting_of_some hs', hst, hd]

/-- The session never waits for a resolution. -/
theorem Quiet.of_not_resolving (hs : v.sess = some s) (hs' : v'.sess = some s')
    (ht : v'.threads = v.threads) (hst : stmState s ≠ .resolving)
    (hst' : stmState s' ≠ .resolving) : Quiet v v' := by
  refine ⟨ht, .inr ?_⟩
  rw [waiting_of_some hs, waiting_of_some hs', if_neg hst, if_neg hst']

end

variable [Inet]

/-- What a callback leaves: `mode`, `lag` and `stall` say what it is excused from. -/
structure Acts (mode : Mode) (lag stall : Bool) (sl sl' : Slot) : Prop where
  steps : SessionSteps mode sl sl'
  synced : lag = false → sl.Synced → sl'.Synced
  unstalled : stall = false → ¬ sl.Stalled → ¬ sl'.Stalled

section Acts

variable {mode : Mode} {lag stall : Bool} {sl sl' sl'' : Slot} {s : SocksSession}

theorem Acts.refl : Acts mode lag stall sl sl := ⟨.refl, fun _ => id, fun _ => id⟩

theorem Acts.trans (h1 : Acts mode lag stall sl sl') (h2 : Acts mode lag stall sl' sl'') :
    Acts mode lag stall sl sl'' where
  steps := h1.steps.trans h2.steps
  synced := fun h hs => h2.synced h (h1.synced h hs)
  unstalled := fun h hs => h2.unstalled h (h1.unstalled h hs)

/-- Nothing to excuse. -/
theorem Acts.mono (h : Acts .plain false false sl sl') : Acts mode lag stall sl sl' :=
  ⟨h.steps.mono, fun _ => h.synced rfl, fun _ => h.unstalled rfl⟩

theorem Acts.of_closed (hsteps : SessionSteps mode sl sl') (hn : sl'.sess = none) :
    Acts mode lag stall sl sl' where
  steps := hsteps
  synced := fun _ _ => synced_of_none hn
  unstalled := fun _ _ => not_stalled_of_none hn

/-- Nothing but the interest of the client has changed. -/
theorem Acts.of_armed_client (hs : sl.sess = some s) :
    Acts mode lag stall sl { sl with client := some (socksClientInterest s) } where
  steps := .single (.armClient hs)
  synced := fun _ h s' hs' hst => by
    have hs' : sl.sess = some s' := hs'
    rw [hs] at hs'
    cases hs'
    exact ⟨rfl, (h s hs hst).2⟩
  unstalled := fun _ h => h

end Acts

/-! ## The client -/

section Client

variable {H : Set Fd} {sid : Sid} {v v' : View} {E : Fault → Prop} {s s' : SocksSession}

/-- What flushing `o2c` and the tail of a client callback leave of a session. -/
structure Serviced (v : View) (s : SocksSession) (v' : View) (s' : SocksSession) : Prop where
  sess : v'.sess = some s'
  stalled : s'.stalled = false
  client : v'.client = some (socksClientInterest s')
  origin : v'.origin = v.origin
  state : stmState s' = stmState s
  c2o : s'.c2o = s.c2o
  dnsResolving : s'.dnsResolving = s.dnsResolving
  /-- Room in `o2c` appears only if there was none and some of it was written. -/
  room : s'.o2c.canWrite = s.o2c.canWrite ∨
    s.o2c.canWrite = false ∧ ∃ n, 0 < n ∧ v.writeAns = .ok n

omit [Inet] in
/-- The room a `write()` of `n` bytes makes. -/
theorem canWrite_sent {b : Buffer} (h : b.read = 0) (n : ℕ) :
    (b.readAdv (min n b.pending.length)).compact.canWrite = b.canWrite ∨
      b.canWrite = false ∧ 0 < n := by
  have hspace : (b.readAdv (min n b.pending.length)).compact.space =
      b.limit - (b.pending.length - min n b.pending.length) := by
    rw [Buffer.space_compact, Buffer.limit_readAdv, Buffer.pending_readAdv, List.length_drop]
  have hspace₀ := b.space_of_read_eq_zero h
  cases hw : b.canWrite with
  | true =>
    left
    rw [Buffer.canWrite_iff] at hw ⊢
    omega
  | false =>
    rcases Nat.eq_zero_or_pos n with rfl | hn
    · left
      rw [Buffer.canWrite_eq_false_iff] at hw ⊢
      omega
    · exact .inr ⟨rfl, hn⟩

omit [Inet] in
theorem Flushed.serviced (h : Flushed v s true v') (hv : v.Has s) (hread : s.o2c.read = 0) :
    ∃ s', v'.Has s' ∧ s'.clientFd = s.clientFd ∧ s'.closeAfterFlush = s.closeAfterFlush ∧
      v'.origin = v.origin ∧ v'.threads = v.threads ∧ stmState s' = stmState s ∧
      s'.c2o = s.c2o ∧ s'.originFd = s.originFd ∧ s'.dnsResolving = s.dnsResolving ∧
      (s'.o2c.canWrite = s.o2c.canWrite ∨
        s.o2c.canWrite = false ∧ ∃ n, 0 < n ∧ v.writeAns = .ok n) := by
  cases h with
  | nothing => exact ⟨s, hv, rfl, rfl, rfl, rfl, rfl, rfl, rfl, rfl, .inl rfl⟩
  | blocked =>
    exact ⟨s, ⟨hv.sess, hv.client, hv.origin⟩, rfl, rfl, rfl, rfl, rfl, rfl, rfl, rfl, .inl rfl⟩
  | @wrote n _ ans =>
    refine ⟨_, ⟨rfl, hv.client, hv.origin⟩, rfl, rfl, rfl, rfl, rfl, rfl, rfl, rfl, ?_⟩
    rcases canWrite_sent hread n with hc | ⟨hc, hn⟩
    · exact .inl hc
    · exact .inr ⟨hc, n, hn, ans⟩

/-- How the end of a client callback leaves its session. -/
def Ends (v : View) (s : SocksSession) (v' : View) : Prop :=
  SessionSteps .plain v.toSlot v'.toSlot ∧ v'.threads = v.threads ∧
    (v'.sess = none ∨ ∃ s', Serviced v s v' s')

theorem Settled.ends (h : Settled v s v') (hv : v.Has s) : Ends v s v' := by
  refine ⟨h.steps hv.sess, ?_⟩
  cases h with
  | closed => exact ⟨rfl, .inl rfl⟩
  | armed hst => exact ⟨rfl, .inr ⟨s, hv.sess, hst, rfl, rfl, rfl, rfl, rfl, .inl rfl⟩⟩

/-- The end of `socks_client_write` and of `socks_client_block`. -/
theorem does_flushSettle (hv : v.Has s) (hread : s.o2c.read = 0) :
    Does H sid (do if ← socksFlushClient sid then settle ⟨s.clientFd, sid⟩) v (fun _ => Ends v s)
      E := by
  refine does_bind ((does_flushClient hv).mono (fun b v₁ h => ?_) fun _ hf => hf)
  cases b with
  | false =>
    rw [if_neg (by simp)]
    refine does_pure ⟨h.steps hv.sess, ?_⟩
    cases h with
    | dead => exact ⟨rfl, .inl rfl⟩
  | true =>
    rw [if_pos rfl]
    obtain ⟨s₁, hv₁, hfd, -, ho, hth, hst, hc2o, -, hdns, hroom⟩ := h.serviced hv hread
    rw [← hfd]
    refine (does_settle hv₁).mono (fun _ v' h' => ?_) fun _ hf => hf
    refine ⟨(h.steps hv.sess).trans (h'.steps hv₁.sess), ?_⟩
    cases h' with
    | closed => exact ⟨hth, .inl rfl⟩
    | armed hstall => exact ⟨hth, .inr ⟨s₁, hv₁.sess, hstall, rfl, ho, hst, hc2o, hdns, hroom⟩⟩

/-- The end of `socks_client_read` past the drain loop. -/
theorem does_flushSettle_of_canRead (hv : v.Has s) (hread : s.o2c.read = 0) :
    Does H sid (do
      if s.o2c.canRead then
        if ← socksFlushClient sid then settle ⟨s.clientFd, sid⟩
      else settle ⟨s.clientFd, sid⟩) v (fun _ => Ends v s) E := by
  by_cases hc : s.o2c.canRead = true
  · rw [if_pos hc]
    exact does_flushSettle hv hread
  · rw [if_neg hc]
    exact (does_settle hv).mono (fun _ v' h => h.ends hv) fun _ hf => hf

theorem Ends.quiet (h : Ends v s v') (hs : v.sess = some s) : Quiet v v' := by
  refine ⟨h.2.1, h.2.2.imp id ?_⟩
  rintro ⟨s', hs'⟩
  rw [waiting_of_some hs, waiting_of_some hs'.sess, hs'.state, hs'.dnsResolving]

theorem Ends.not_stalled (h : Ends v s v') : ¬ v'.Stalled := by
  rintro ⟨s', hs', hst⟩
  rcases h.2.2 with hn | ⟨s'', h''⟩
  · rw [hn] at hs'
    cases hs'
  · rw [h''.sess] at hs'
    cases hs'
    rw [h''.stalled] at hst
    cases hst

/-- Outside the tunnel there is nothing to keep in step. -/
theorem Ends.synced_of_not_relay (h : Ends v s v') (hst : stmState s ≠ .relay) : v'.Synced := by
  intro s' hs' hst'
  rcases h.2.2 with hn | ⟨s'', h''⟩
  · rw [hn] at hs'
    cases hs'
  · rw [h''.sess] at hs'
    cases hs'
    exact absurd (h''.state.symm.trans hst') hst

/-! ### `socks_client_write` -/

/-- `socks_client_write` makes room in `o2c` and does not tell the origin. -/
def View.lags (v : View) (s : SocksSession) : Bool :=
  decide (stmState s = .relay) && !s.o2c.canWrite &&
    match v.writeAns with
    | .ok n => decide (0 < n)
    | _ => false

theorem does_clientWrite (hok : v.toSlot.Ok) (hs : v.sess = some s) :
    Does H sid (socksClientWrite ⟨s.clientFd, sid⟩) v
      (fun _ v' => Acts .plain (v.lags s) false v.toSlot v'.toSlot ∧ Quiet v v') E := by
  have hread := (hok.session s hs).o2cRead
  refine (does_flushSettle (hok.has hs) hread).mono (fun _ v' h => ?_) fun _ hf => hf
  refine ⟨⟨h.1, fun hlag hsync => ?_, fun _ _ => h.not_stalled⟩, h.quiet hs⟩
  by_cases hst : stmState s = .relay
  · intro s' hs' hst'
    rcases h.2.2 with hn | ⟨s'', h''⟩
    · rw [hn] at hs'
      cases hs'
    · rw [h''.sess] at hs'
      cases hs'
      refine ⟨h''.client, ?_⟩
      rw [h''.origin, (hsync s hs hst).2, socksOriginInterest, socksOriginInterest, h''.c2o]
      rcases h''.room with hr | ⟨hr, n, hn, hans⟩
      · rw [hr]
      · rw [View.lags, hr, hans] at hlag
        simp [hst, hn] at hlag
  · exact h.synced_of_not_relay hst

/-! ### `socks_client_read` -/

/-- The session once `bs` was read from the client. -/
def SocksSession.got (s : SocksSession) (bs : Bytes) (now : ℕ) : SocksSession :=
  { s with c2o := s.c2o.append bs, lastActivity := now }

/-- The view once `bs` was read from the client. -/
def View.got (v : View) (s : SocksSession) (bs : Bytes) : View :=
  { v.didRead with sess := some (s.got bs v.clock), hist := v.hist ++ [.recv bs] }

/-- Whether `socks_client_read` refuses a request. -/
def View.refusesRead (v : View) (s : SocksSession) : Bool :=
  match v.readAns s.c2o.space with
  | .data bs => bs ≠ [] && (v.got s bs).refuses (s.got bs v.clock)
  | _ => false

omit [Inet] in
theorem waiting_got {bs : Bytes} (hs : v.sess = some s) : (v.got s bs).waiting = v.waiting := by
  rw [waiting_of_some hs, waiting_of_some (show (v.got s bs).sess = some (s.got bs v.clock) from rfl)]
  rfl

theorem steps_got {mode : Mode} {bs : Bytes} (hs : v.sess = some s) (hne : bs ≠ [])
    (hfits : bs.length ≤ s.c2o.space) : SessionSteps mode v.toSlot (v.got s bs).toSlot :=
  .tail (.single (.recv hs hne hfits)) (.booked rfl rfl rfl (.inl rfl))

/-- The tunnel: what was read from the client goes to the origin at once. -/
theorem does_relayRead (hok : v.toSlot.Ok) (hs : v.sess = some s) (hst : stmState s = .relay)
    {fd : Fd} (hfd : s.originFd = some fd) :
    Does H sid (do
      if ← socksFlushOrigin sid then
        let s' ← deref sid
        selectorSetInterest fd (socksOriginInterest s')
        settle ⟨s.clientFd, sid⟩) v
      (fun _ v' => SessionSteps .plain v.toSlot v'.toSlot ∧ v'.threads = v.threads ∧ v'.Synced ∧
        ¬ v'.Stalled ∧ v'.waiting = none) E := by
  have hv := hok.has hs
  have hserved : Served .plain s := .inl hst
  refine does_bind ((does_flushOrigin hv).mono (fun b v₁ h => ?_) fun _ hf => hf)
  have hsteps := h.steps hs hserved
  cases b with
  | false =>
    rw [if_neg (by simp)]
    refine does_pure ?_
    cases h with
    | dead =>
      exact ⟨hsteps, rfl, synced_of_none rfl, not_stalled_of_none rfl, rfl⟩
  | true =>
    rw [if_pos rfl]
    obtain ⟨b, t, o, e, st, as, rfl⟩ := h.alive hs
    refine does_bind (does_deref rfl ?_)
    have hv₁ : View.Has { v with
        sess := some { s with c2o := b, lastActivity := t }
        hist := o, env := e, store := st, acts := as }
        { s with c2o := b, lastActivity := t } := ⟨rfl, hv.client, hv.origin⟩
    refine does_bind (hv₁.does_armOrigin hfd ?_)
    have hv₂ : View.Has { v with
        sess := some { s with c2o := b, lastActivity := t }
        hist := o, env := e, store := st, acts := as
        origin := some (socksOriginInterest { s with c2o := b, lastActivity := t }) }
        { s with c2o := b, lastActivity := t } := ⟨rfl, hv.client, by simp [hfd]⟩
    refine (does_settle hv₂).mono (fun _ v' h' => ?_) fun _ hf => hf
    have hne : stmState s ≠ .originConnecting := by simp [hst]
    have hsteps' := (hsteps.tail (.armOrigin rfl (by simp [hfd]) hne)).trans (h'.steps rfl)
    refine ⟨hsteps', ?_⟩
    cases h' with
    | closed => exact ⟨rfl, synced_of_none rfl, not_stalled_of_none rfl, rfl⟩
    | armed hstall =>
      refine ⟨rfl, ?_, ?_, ?_⟩
      · rintro s' ⟨⟩ -
        exact ⟨rfl, rfl⟩
      · rintro ⟨s', ⟨⟩, h⟩
        rw [hstall] at h
        cases h
      · rw [waiting_of_some rfl, if_neg]
        exact fun h => by rw [show stmState s = .resolving from h] at hst; cases hst

/-- The drain loop outside the tunnel. -/
theorem does_drain {fd : Fd} {n : ℕ} (hok : v.toSlot.Ok) (hs : v.sess = some s)
    (hn : s.c2o.pending.length ≤ n) (hrel : stmState s ≠ .relay) :
    Does H sid (drainLoop ⟨fd, sid⟩ n) v
      (fun _ v' => (∃ s', SessionSteps .plain v.toSlot v'.toSlot ∧ v'.sess = some s' ∧
          s'.clientFd = s.clientFd ∧ stmState s' ≠ .relay ∧ (Quiet v v' ∨ Starts sid v v')) ∧
        ¬ (v.refuses s = true ∧ v.writeAns = .error))
      (RefusalFault v s) := by
  by_cases hpast : stmState s = .resolving ∨ stmState s = .done
  · have h1 : stmState s ≠ .authGreeting := by rcases hpast with h | h <;> simp [h]
    have h2 : stmState s ≠ .authUserpass := by rcases hpast with h | h <;> simp [h]
    have h3 : stmState s ≠ .request := by rcases hpast with h | h <;> simp [h]
    refine does_drainLoop_past hs h1 h2 h3 ⟨⟨s, .refl, hs, rfl, hrel, .inl ⟨rfl, .inr rfl⟩⟩, ?_⟩
    rw [View.refuses, parse_eq_none h1 h2 h3]
    simp
  · obtain ⟨hres, hdone⟩ := not_or.1 hpast
    refine (does_drainLoop hok hs hn hrel hres).mono (fun _ v' h => ?_) fun _ hf => hf
    obtain ⟨⟨s', hd⟩, hnot⟩ := h
    refine ⟨⟨s', hd.steps, hd.sess, hd.clientFd, hd.notRelay, ?_⟩, hnot⟩
    rcases hd.threads with ⟨hst', hth⟩ | ⟨hst', hdns, host, port, hth⟩
    · exact .inl (.of_not_resolving hs hd.sess hth hres hst')
    · refine .inr ⟨⟨s, hs, hres, hdone⟩, s.clientFd, host, port, hth, fun s'' hs'' => ?_⟩
      rw [hd.sess] at hs''
      cases hs''
      rw [waiting_of_some hd.sess, if_pos hst', hdns]
      exact ⟨rfl, hd.clientFd⟩

/-- `socks_client_read` once it has read something. -/
theorem does_clientGot (hok : v.toSlot.Ok) (hs : v.sess = some s) :
    Does H sid (
      if stmState s = .relay then
        match s.originFd with
        | none => settle ⟨s.clientFd, sid⟩
        | some fd => do
          if ← socksFlushOrigin sid then
            let s' ← deref sid
            selectorSetInterest fd (socksOriginInterest s')
            settle ⟨s.clientFd, sid⟩
      else do
        drainLoop ⟨s.clientFd, sid⟩ s.c2o.pending.length
        let s' ← deref sid
        if s'.o2c.canRead then
          if ← socksFlushClient sid then settle ⟨s.clientFd, sid⟩
        else settle ⟨s.clientFd, sid⟩) v
      (fun _ v' => (SessionSteps .plain v.toSlot v'.toSlot ∧ v'.Synced ∧ ¬ v'.Stalled ∧
          (Quiet v v' ∨ Starts sid v v')) ∧ ¬ (v.refuses s = true ∧ v.writeAns = .error))
      (RefusalFault v s) := by
  by_cases hst : stmState s = .relay
  · rw [if_pos hst]
    obtain ⟨fd, hfd⟩ := Option.ne_none_iff_exists'.1 (fun h =>
      (hok.session s hs).needsOrigin (.inr hst) ((hok.session s hs).origin.1 h))
    rw [hfd]
    refine (does_relayRead hok hs hst hfd).mono (fun _ v' h => ?_) fun _ hf => hf
    obtain ⟨hsteps, hth, hsync, hstall, hwait⟩ := h
    refine ⟨⟨hsteps, hsync, hstall, .inl ⟨hth, .inr ?_⟩⟩, ?_⟩
    · rw [hwait, waiting_of_some hs, if_neg (by simp [hst])]
    · rw [View.refuses, parse_eq_none (by simp [hst]) (by simp [hst]) (by simp [hst])]
      simp
  · rw [if_neg hst]
    refine does_bind ((does_drain hok hs (Nat.le_refl _) hst).mono (fun _ v₁ h => ?_)
      fun _ hf => hf)
    obtain ⟨⟨s₁, hsteps, hs₁, hfd, hrel, hlook⟩, hnot⟩ := h
    have hok₁ := hsteps.ok hok
    rw [← hfd]
    refine does_bind (does_deref hs₁ ?_)
    refine (does_flushSettle_of_canRead (hok₁.has hs₁) (hok₁.session s₁ hs₁).o2cRead).mono
      (fun _ v' h => ?_) fun _ hf => hf
    refine ⟨⟨hsteps.trans h.1, h.synced_of_not_relay hrel, h.not_stalled, ?_⟩, hnot⟩
    exact (h.quiet hs₁).after (h.1.persists (hok₁.used (by simp [hs₁]))) hlook

theorem does_clientRead (hok : v.toSlot.Ok) (hs : v.sess = some s) :
    Does H sid (socksClientRead ⟨s.clientFd, sid⟩) v
      (fun _ v' => Acts .plain false false v.toSlot v'.toSlot ∧ (Quiet v v' ∨ Starts sid v v') ∧
        ¬ (v.refusesRead s = true ∧ v.writeAns = .error))
      (fun f => f = .useAfterFree ∧ v.refusesRead s = true ∧ v.writeAns = .error) := by
  have hv := hok.has hs
  rw [socksClientRead]
  refine does_bind (does_deref hs ?_)
  by_cases hspace : s.c2o.space = 0
  · rw [if_pos hspace]
    refine hv.does_armClient ⟨.of_armed_client hs, .inl ⟨rfl, .inr rfl⟩, ?_⟩
    have : v.refusesRead s = false := by
      rw [View.refusesRead, hspace, View.readAns]
      cases v.env.read.headD .again <;> simp
    simp [this]
  rw [if_neg hspace]
  have hv' : v.didRead.Has s := ⟨hv.sess, hv.client, hv.origin⟩
  refine does_bind (does_sysRead (fun bs hans hlen => ?_) (fun hans => ?_) fun hans => ?_)
  · have href : v.refusesRead s = (decide (bs ≠ []) && (v.got s bs).refuses (s.got bs v.clock)) := by
      rw [View.refusesRead, hans]
    by_cases hbs : bs = []
    · dsimp only
      rw [if_pos hbs]
      subst hbs
      have hv'' : View.Has { v.didRead with hist := v.hist ++ [.recv []] } s :=
        ⟨hv.sess, hv.client, hv.origin⟩
      refine hv''.does_close ⟨.of_closed (steps_closed hs .clientEof) rfl, .inl ⟨rfl, .inl rfl⟩, ?_⟩
      simp [href]
    · dsimp only
      rw [if_neg hbs]
      refine does_bind (does_assign (by exact hs) rfl rfl (does_bind (does_touch rfl ?_)))
      refine does_bind (does_deref rfl ?_)
      have hgot : SessionSteps .plain v.toSlot (v.got s bs).toSlot := steps_got hs hbs hlen
      have href' : v.refusesRead s = (v.got s bs).refuses (s.got bs v.clock) := by
        simp [href, hbs]
      rw [href']
      refine (does_clientGot (s := s.got bs v.clock) (v := v.got s bs) (hgot.ok hok) rfl).mono
        (fun _ v' h => ?_) fun _ hf => hf
      obtain ⟨⟨hsteps, hsync, hstall, hlook⟩, hnot⟩ := h
      refine ⟨⟨hgot.trans hsteps, fun _ _ => hsync, fun _ _ => hstall⟩, ?_, hnot⟩
      rcases hlook with hquiet | ⟨⟨s₁, hs₁, h⟩, hstart⟩
      · rw [Quiet, waiting_got hs] at hquiet
        exact .inl hquiet
      · cases hs₁
        exact .inr ⟨⟨s, hs, h⟩, hstart⟩
  · refine does_bind (does_deref hv'.sess (hv'.does_armClient ⟨.of_armed_client hs,
      .inl ⟨rfl, .inr rfl⟩, ?_⟩))
    simp [View.refusesRead, hans]
  · refine hv'.does_close ⟨.of_closed (steps_closed_plain hs) rfl, .inl ⟨rfl, .inl rfl⟩, ?_⟩
    simp [View.refusesRead, hans]

/-! ### `socks_client_block` -/

/-- Whether `socks_client_block` refuses the request. -/
def View.refusesBlock (v : View) (s : SocksSession) : Bool :=
  !s.dnsResolving && (decide (s.dnsGaiRc ≠ .ok ∨ s.dnsResult = []) ||
    v.dialRefuses (SocksSession.connectAddr { s with dnsCursor := s.dnsResult }) s.dnsResult.tail)

omit [Inet] in
theorem socksGaiRcToRep_ne (rc : GaiRc) : socksGaiRcToRep rc ≠ socksRepSucceeded := by
  cases rc <;> rw [socksGaiRcToRep] <;> decide

/-- `socks_on_block_resolving`, with the jump that follows it. -/
theorem does_onBlockResolving {fd : Fd} (hok : v.toSlot.Ok) (hs : v.sess = some s)
    (hst : stmState s = .resolving) :
    Does H sid (do let ret ← socksOnBlockResolving ⟨fd, sid⟩; jump sid ret) v
      (fun _ v' => (∃ s', SessionSteps .plain v.toSlot v'.toSlot ∧ v'.sess = some s' ∧
          s'.clientFd = s.clientFd ∧ stmState s' ≠ .relay ∧ v'.threads = v.threads ∧
          (s.dnsResolving = false → stmState s' ≠ .resolving)) ∧
        ¬ (v.refusesBlock s = true ∧ v.writeAns = .error))
      (fun f => f = .useAfterFree ∧ v.refusesBlock s = true ∧ v.writeAns = .error) := by
  have hor : v.origin = none :=
    (hok.session s hs).origin.1 ((hok.session s hs).originFd_eq_none (by rw [hst]; rfl))
  rw [socksOnBlockResolving]
  cases hdns : s.dnsResolving with
  | true =>
    refine does_bind (does_bind (does_deref hs ?_))
    rw [if_pos hdns]
    refine does_pure (does_assign hs rfl rfl ⟨⟨_, .single (.booked hs rfl rfl ?_), rfl, rfl, ?_, rfl,
      by simp⟩, by simp [View.refusesBlock, hdns]⟩)
    · exact .inr (by rw [hst])
    · simp [stmState]
  | false =>
    have hdec := Deciding.resolving hst hdns
    have hanswer : ∀ {p : SocksM SocksState}, Does H sid p v (Answers v s (v.refusesBlock s))
          (fun f => f = .useAfterFree ∧ v.refusesBlock s = true ∧ v.writeAns = .error) →
        Does H sid (do let ret ← p; jump sid ret) v
          (fun _ v' => (∃ s', SessionSteps .plain v.toSlot v'.toSlot ∧ v'.sess = some s' ∧
              s'.clientFd = s.clientFd ∧ stmState s' ≠ .relay ∧ v'.threads = v.threads ∧
              (false = false → stmState s' ≠ .resolving)) ∧
            ¬ (v.refusesBlock s = true ∧ v.writeAns = .error))
          (fun f => f = .useAfterFree ∧ v.refusesBlock s = true ∧ v.writeAns = .error) := by
      intro p hp
      refine does_bind (hp.mono (fun ret v' h => ?_) fun _ hf => hf)
      rcases h with ⟨s', hs', hsteps, hfd, hret, hth, hnot, -⟩ | ⟨hn, hc⟩
      · refine does_assign hs' rfl rfl ⟨⟨_, hsteps, rfl, hfd, ?_, hth, fun _ => ?_⟩, hnot⟩
        · rcases hret with rfl | rfl <;> simp [stmState]
        · rcases hret with rfl | rfl <;> simp [stmState]
      · exact does_assign_freed hn ⟨rfl, hc⟩
    refine hanswer (does_bind (does_deref hs ?_))
    rw [if_neg (by simp [hdns])]
    by_cases hfail : s.dnsGaiRc ≠ .ok ∨ s.dnsResult = []
    · rw [if_pos hfail]
      have href : v.refusesBlock s = true := by simp [View.refusesBlock, hdns, hfail]
      rw [href]
      have h : Answering v s [] v s s := ⟨hs, hok, hdec, hs, rfl, hor, rfl, rfl,
        (List.append_nil _).symm, rfl, rfl, rfl⟩
      exact does_failDone h (.nil _) (socksGaiRcToRep_ne _)
    · rw [if_neg hfail]
      refine does_bind (does_assign hs rfl rfl ?_)
      have h : Answering v s [] { v with sess := some { s with dnsCursor := s.dnsResult } } s
          { s with dnsCursor := s.dnsResult } := ⟨hs, hok, hdec, rfl, rfl, hor, rfl, rfl,
        (List.append_nil _).symm, rfl, rfl, rfl⟩
      refine (does_dialling h .nil).mono (fun ret v' ha => ?_) fun _ hf => hf
      have href : v.refusesBlock s =
          v.dialRefuses (SocksSession.connectAddr { s with dnsCursor := s.dnsResult })
            s.dnsResult.tail := by
        simp [View.refusesBlock, hdns, hfail]
      rw [href]
      exact ha

/-- The faults of `socks_client_block`. -/
def BlockFault (v : View) (s : SocksSession) (f : Fault) : Prop :=
  f = .abort ∧ stmState s ≠ .resolving ∨
    f = .useAfterFree ∧ stmState s = .resolving ∧ v.refusesBlock s = true ∧ v.writeAns = .error

theorem does_stmHandlerBlock {fd : Fd} (hok : v.toSlot.Ok) (hs : v.sess = some s) :
    Does H sid (stmHandlerBlock ⟨fd, sid⟩) v
      (fun _ v' => stmState s = .resolving ∧
        (∃ s', SessionSteps .plain v.toSlot v'.toSlot ∧ v'.sess = some s' ∧
          s'.clientFd = s.clientFd ∧ stmState s' ≠ .relay ∧ v'.threads = v.threads ∧
          (s.dnsResolving = false → stmState s' ≠ .resolving)) ∧
        ¬ (v.refusesBlock s = true ∧ v.writeAns = .error))
      (BlockFault v s) := by
  rw [stmHandlerBlock, handleFirst]
  refine does_bind (does_assign hs rfl rfl (does_bind (does_deref rfl ?_)))
  have hfirst : SessionStep .plain v.toSlot (v.first s).toSlot := step_first hs
  by_cases hst : stmState s = .resolving
  · rw [if_pos (by exact hst)]
    refine (does_onBlockResolving (s := s.first) (v := v.first s) (hfirst.ok hok) rfl hst).mono
      (fun _ v' h => ?_) fun f hf => .inr ⟨hf.1, hst, hf.2⟩
    obtain ⟨⟨s', hsteps, h⟩, hnot⟩ := h
    exact ⟨hst, ⟨s', .head hfirst hsteps, h⟩, hnot⟩
  · rw [if_neg (by exact hst)]
    exact does_throw (.inl ⟨rfl, hst⟩)

/-- What `socks_client_block` leaves. -/
structure Unblocks (v : View) (s : SocksSession) (v' : View) : Prop where
  acts : Acts .plain false false v.toSlot v'.toSlot
  state : stmState s = .resolving
  threads : v'.threads = v.threads
  waiting : s.dnsResolving = false → v'.waiting = none
  notDead : ¬ (v.refusesBlock s = true ∧ v.writeAns = .error)

theorem does_clientBlock (hok : v.toSlot.Ok) (hs : v.sess = some s) :
    Does H sid (socksClientBlock ⟨s.clientFd, sid⟩) v (fun _ => Unblocks v s) (BlockFault v s) := by
  rw [socksClientBlock]
  refine does_bind ((does_stmHandlerBlock hok hs).mono (fun _ v₁ h => ?_) fun _ hf => hf)
  obtain ⟨hst, ⟨s₁, hsteps, hs₁, hfd, hrel, hth, hres⟩, hnot⟩ := h
  have hok₁ := hsteps.ok hok
  rw [← hfd]
  refine (does_flushSettle (hok₁.has hs₁) (hok₁.session s₁ hs₁).o2cRead).mono
    (fun _ v' h => ?_) fun _ hf => hf
  refine ⟨⟨hsteps.trans h.1, fun _ _ => h.synced_of_not_relay hrel, fun _ _ => h.not_stalled⟩,
    hst, h.2.1.trans hth, fun hdns => ?_, hnot⟩
  rcases (h.quiet hs₁).2 with hn | hw
  · exact waiting_of_none hn
  · rw [hw, waiting_of_some hs₁, if_neg (hres hdns)]

end Client

end SocksProxy
