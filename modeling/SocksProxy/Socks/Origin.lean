import SocksProxy.Socks.Callbacks

/-!
# The callbacks of the origin, and expiry

`socks_origin_read` and `socks_origin_write` look at the state of the session only to tell a pending
`connect()` from everything else, so they also serve an origin whose session was refused meanwhile.
That can only be a session which `socks_server_expire_idle` found in `SOCKS_ST_ORIGIN_CONNECTING`:
`socks_expire_session_pre_relay` is the one refusal that leaves the origin registered.
-/

set_option autoImplicit false

namespace SocksProxy

variable [Inet] {H : Set Fd} {sid : Sid} {v v' : View} {E : Fault → Prop} {s s' : SocksSession}

/-- Nothing but the interest of the origin has changed. -/
theorem Acts.of_armed_origin {mode : Mode} {lag stall : Bool} {sl : Slot} (hs : sl.sess = some s)
    (ho : s.originFd ≠ none) (hst : stmState s ≠ .originConnecting) :
    Acts mode lag stall sl { sl with origin := some (socksOriginInterest s) } where
  steps := .single (.armOrigin hs ho hst)
  synced := fun _ h s' hs' hst => by
    have hs' : sl.sess = some s' := hs'
    rw [hs] at hs'
    cases hs'
    exact ⟨(h s hs hst).1, rfl⟩
  unstalled := fun _ h => h

omit [Inet] in
/-- Both sockets are armed at the end of an origin callback. -/
theorem View.Has.does_armBoth (hv : v.Has s) {fd : Fd} (hfd : s.originFd = some fd)
    {R : Unit → View → Prop}
    (h : R () { v with
      client := some (socksClientInterest s), origin := some (socksOriginInterest s) }) :
    Does H sid (do
      selectorSetInterest s.clientFd (socksClientInterest s)
      selectorSetInterest fd (socksOriginInterest s)) v R E := by
  refine does_bind (hv.does_armClient ?_)
  have hv' : View.Has { v with client := some (socksClientInterest s) } s :=
    ⟨hv.sess, by simp, hv.origin⟩
  exact hv'.does_armOrigin hfd h

omit [Inet] in
theorem synced_of_both {sl : Slot} (hs : sl.sess = some s)
    (hc : sl.client = some (socksClientInterest s)) (ho : sl.origin = some (socksOriginInterest s)) :
    sl.Synced := by
  intro s' hs' _
  rw [hs] at hs'
  cases hs'
  exact ⟨hc, ho⟩

omit [Inet] in
theorem not_stalled_of_some {sl : Slot} (hs : sl.sess = some s) (h : s.stalled = false) :
    ¬ sl.Stalled := by
  rintro ⟨s', hs', hst⟩
  rw [hs] at hs'
  cases hs'
  rw [h] at hst
  cases hst

omit [Inet] in
theorem does_closeFromOrigin (hv : v.Has s) {R : Unit → View → Prop} (h : R () (v.closed s)) :
    Does H sid (socksSessionCloseFromOrigin sid) v R E := by
  rw [socksSessionCloseFromOrigin]
  exact does_bind (does_deref hv.sess (hv.does_close h))

/-! ## `socks_origin_read` -/

/-- The mode of a callback that is late or not. -/
def Mode.ofLate (late : Bool) : Mode := if late then .late else .plain

/-- `socks_origin_read` takes bytes from the origin of a session that was refused. -/
def View.lateRead (v : View) (s : SocksSession) : Bool :=
  decide (stmState s = .done) &&
    match v.readAns s.o2c.space with
    | .data bs => bs ≠ []
    | _ => false

/-- `socks_origin_read` sends everything that was left to a client that waits for it to be closed,
and does not close it. -/
def View.stallsRead (v : View) (s : SocksSession) : Bool :=
  s.closeAfterFlush &&
    match v.readAns s.o2c.space, v.writeAns with
    | .data bs, .ok n => bs ≠ [] && decide (s.o2c.pending.length + bs.length ≤ n)
    | _, _ => false

/-- What `socks_origin_read` reports to the store. -/
def fetchStore (s : SocksSession) (n : ℕ) (st : MonitorStore) : MonitorStore :=
  if s.storeId ≠ storeSessionInvalid then storeSessionAddBytes st s.storeId 0 (UInt64.ofNat n)
  else st

/-- The calls `socks_origin_read` makes to the store. -/
def fetchActs (s : SocksSession) (n : ℕ) : List StoreAct :=
  if s.storeId ≠ storeSessionInvalid then [.call (.addBytes s.storeId 0 (UInt64.ofNat n))] else []

/-- The session once `bs` was read from the origin. -/
def SocksSession.fetched (s : SocksSession) (bs : Bytes) (now : ℕ) : SocksSession :=
  { s with o2c := s.o2c.append bs, lastActivity := now }

/-- The view once `bs` was read from the origin. -/
def View.fetched (v : View) (s : SocksSession) (bs : Bytes) : View :=
  { v.didRead with
    sess := some (s.fetched bs v.clock), hist := v.hist ++ [.fetched bs]
    store := fetchStore s bs.length v.store
    acts := v.acts ++ fetchActs s bs.length }

/-- `socks_origin_read` once it has read something. -/
theorem does_originGot (hv : v.Has s) (hread : s.o2c.read = 0) {fd : Fd}
    (hfd : s.originFd = some fd) (hst : stmState s ≠ .originConnecting)
    (hne : s.o2c.pending ≠ []) :
    Does H sid (do
      if ← socksFlushClient sid then
        let s ← deref sid
        selectorSetInterest s.clientFd (socksClientInterest s)
        selectorSetInterest fd (socksOriginInterest s)) v
      (fun _ v' => SessionSteps .plain v.toSlot v'.toSlot ∧ v'.Synced ∧
        (v'.Stalled → s.closeAfterFlush = true ∧
          ∃ n, v.writeAns = .ok n ∧ s.o2c.pending.length ≤ n) ∧ Quiet v v') E := by
  refine does_bind ((does_flushClient hv).mono (fun b v₁ h => ?_) fun _ hf => hf)
  have hsteps : SessionSteps .plain v.toSlot v₁.toSlot := h.steps hv.sess
  cases b with
  | false =>
    rw [if_neg (by simp)]
    refine does_pure ?_
    cases h with
    | dead =>
      exact ⟨hsteps, synced_of_none rfl, fun h => absurd h (not_stalled_of_none rfl), rfl, .inl rfl⟩
  | true =>
    rw [if_pos rfl]
    obtain ⟨s₁, hv₁, -, -, -, hth, hst₁, -, hfd₁, hdns, -⟩ := h.serviced hv hread
    refine does_bind (does_deref hv₁.sess (hv₁.does_armBoth (hfd₁.trans hfd) ?_))
    refine ⟨(hsteps.tail (.armClient hv₁.sess)).tail (.armOrigin hv₁.sess ?_ ?_),
      synced_of_both hv₁.sess rfl rfl, ?_, .of_alike hv.sess hv₁.sess hth hst₁ hdns⟩
    · rw [hfd₁, hfd]
      simp
    · rwa [hst₁]
    · rintro ⟨s', hs', hstall⟩
      exact h.all_sent hv.sess hs' hne hstall

theorem does_originRead (hok : v.toSlot.Ok) (hs : v.sess = some s) {fd : Fd}
    (hfd : s.originFd = some fd) {i : FdInterest} (hi : v.origin = some i) (hr : i.read = true) :
    Does H sid (socksOriginRead ⟨fd, sid⟩) v
      (fun _ v' => Acts (.ofLate (v.lateRead s)) false (v.stallsRead s) v.toSlot v'.toSlot ∧ Quiet v v') E := by
  have hv := hok.has hs
  have hpast := (hok.session s hs).reading i hi hr
  have hst : stmState s ≠ .originConnecting := fun h => by rw [h] at hpast; cases hpast
  have ho : s.originFd ≠ none := by simp [hfd]
  rw [socksOriginRead]
  refine does_bind (does_deref hs ?_)
  by_cases hspace : s.o2c.space = 0
  · rw [if_pos hspace]
    exact hv.does_armOrigin hfd ⟨.of_armed_origin hs ho hst, rfl, .inr rfl⟩
  rw [if_neg hspace]
  have hv' : v.didRead.Has s := ⟨hv.sess, hv.client, hv.origin⟩
  refine does_bind (does_sysRead (fun bs hans hlen => ?_) (fun hans => ?_) fun hans => ?_)
  · by_cases hbs : bs = []
    · dsimp only
      rw [if_pos hbs]
      subst hbs
      have hv'' : View.Has { v.didRead with hist := v.hist ++ [.fetched []] } s :=
        ⟨hv.sess, hv.client, hv.origin⟩
      exact does_closeFromOrigin hv''
        ⟨.of_closed (steps_closed hs (.originEof hi hr)) rfl, rfl, .inl rfl⟩
    · dsimp only
      rw [if_neg hbs]
      refine does_bind (does_assign (by exact hs) rfl rfl (does_bind (does_touch rfl ?_)))
      refine does_bind (does_deref rfl ?_)
      have hpend : (s.fetched bs v.clock).o2c.pending = s.o2c.pending ++ bs :=
        Buffer.pending_append _ hlen
      have hserved : Served (.ofLate (v.lateRead s)) s := by
        by_cases hrel : stmState s = .relay
        · exact .inl hrel
        · have hd : stmState s = .done := by
            cases h : stmState s <;> simp_all [SocksState.isPast]
          exact .inr ⟨by simp [View.lateRead, hd, hans, hbs, Mode.ofLate], hd⟩
      have hsteps : SessionSteps (.ofLate (v.lateRead s)) v.toSlot (v.fetched s bs).toSlot :=
        .tail (.single (.fetch hs hi hr hserved hbs hlen)) (.booked rfl rfl rfl (.inl rfl))
      have hgot : Does H sid (do
          if ← socksFlushClient sid then
            let s ← deref sid
            selectorSetInterest s.clientFd (socksClientInterest s)
            selectorSetInterest fd (socksOriginInterest s)) (v.fetched s bs)
          (fun _ v' => Acts (.ofLate (v.lateRead s)) false (v.stallsRead s) v.toSlot v'.toSlot ∧ Quiet v v') E := by
        have hne : (s.fetched bs v.clock).o2c.pending ≠ [] := by simp [hpend, hbs]
        refine (does_originGot (v := v.fetched s bs) ⟨rfl, hv.client, hv.origin⟩
          (hok.session s hs).o2cRead hfd hst hne).mono (fun _ v' h => ?_) fun _ hf => hf
        obtain ⟨hsteps', hsync, hstall, hth, hw⟩ := h
        refine ⟨⟨hsteps.trans hsteps'.mono, fun _ _ => hsync, fun hno _ hst => ?_⟩, hth, ?_⟩
        · obtain ⟨hc, n, hn, hle⟩ := hstall hst
          have hn : v.writeAns = .ok n := hn
          have hc : s.closeAfterFlush = true := hc
          rw [hpend, List.length_append] at hle
          simp [View.stallsRead, hans, hn, hc, hbs, hle] at hno
        · rw [waiting_of_some hs]
          exact hw
      rw [View.fetched, fetchStore, fetchActs] at hgot
      by_cases hid : s.storeId = storeSessionInvalid
      · rw [if_neg (not_not.2 hid), if_neg (not_not.2 hid), List.append_nil] at hgot
        rw [if_neg (by exact not_not.2 hid)]
        exact hgot
      · rw [if_pos hid, if_pos hid] at hgot
        rw [if_pos (by exact hid)]
        exact does_bind (does_onStore rfl hgot)
  · exact does_bind (does_deref hv'.sess (hv'.does_armOrigin hfd
      ⟨.of_armed_origin hs ho hst, rfl, .inr rfl⟩))
  · exact does_closeFromOrigin hv' ⟨.of_closed (steps_closed_plain hs) rfl, rfl, .inl rfl⟩

/-! ## `socks_origin_write` -/

omit [Inet] in
/-- `socks_origin_write` sends bytes to the origin of a session that was refused. -/
def SocksSession.lateWrite (s : SocksSession) : Bool :=
  decide (stmState s = .done) && s.c2o.canRead

/-- The view once the pending connection has failed and its socket is gone. -/
def View.connectFailed (v : View) (s : SocksSession) : View :=
  View.noOrigin { v with env := { v.env with soError := v.env.soError.tail } } s

/-- Whether `socks_origin_write` refuses the request. -/
def View.refusesWrite (v : View) (s : SocksSession) : Bool :=
  decide (stmState s = .originConnecting) && (v.env.soError.headD none).isSome &&
    match s.dnsCursor with
    | _ :: next :: rest => (v.connectFailed s).dialRefuses (some next) rest
    | _ => true

/-- The retry of `socks_origin_connect_complete` sends its refusal at once, and nothing closes the
session. -/
def View.stallsWrite (v : View) (s : SocksSession) : Bool :=
  v.refusesWrite s && decide (1 < s.dnsCursor.length) &&
    match v.writeAns with
    | .ok n => decide (s.o2c.pending.length + 10 ≤ n)
    | _ => false

/-- How `socks_origin_connect_complete` ends. -/
def Completes (v : View) (s : SocksSession) (v' : View) : Prop :=
  (Acts .plain false (v.stallsWrite s) v.toSlot v'.toSlot ∧ Quiet v v') ∧
    ¬ (v.refusesWrite s = true ∧ v.writeAns = .error)

/-- The fault of `socks_origin_connect_complete`. -/
def CompleteFault (v : View) (s : SocksSession) (f : Fault) : Prop :=
  f = .useAfterFree ∧ v.refusesWrite s = true ∧ v.writeAns = .error

omit [Inet] in
theorem answering_connecting (hok : v.toSlot.Ok) (hs : v.sess = some s)
    (hst : stmState s = .originConnecting) (cursor : List SockAddr) :
    Answering v s []
      { v.connectFailed s with sess := some { s with originFd := none, dnsCursor := cursor } }
      { s with originFd := none } { s with originFd := none, dnsCursor := cursor } :=
  ⟨hs, hok, .connecting hst, rfl, rfl, rfl, rfl, rfl, (List.append_nil _).symm, rfl, rfl, rfl⟩

/-- The connection attempt failed and there is another address. -/
theorem does_connectNext {fd : Fd} (hok : v.toSlot.Ok) (hs : v.sess = some s)
    (hst : stmState s = .originConnecting) (herr : (v.env.soError.headD none).isSome = true)
    {a next : SockAddr} {rest : List SockAddr} (hcur : s.dnsCursor = a :: next :: rest) :
    Does H sid (do let state ← socksBeginOriginConnect ⟨fd, sid⟩; jump sid state)
      { v.connectFailed s with sess := some { s with originFd := none, dnsCursor := next :: rest } }
      (fun _ => Completes v s) (CompleteFault v s) := by
  have href : v.refusesWrite s = (v.connectFailed s).dialRefuses (some next) rest := by
    rw [View.refusesWrite, hcur, herr, hst]
    simp
  have h := answering_connecting hok hs hst (next :: rest)
  refine does_bind ((does_dialling h .nil).mono (fun ret v' ha => ?_) fun _ hf => hf)
  have ha : Answers v s (v.refusesWrite s) ret v' := href ▸ ha
  rcases ha with ⟨s', hs', hsteps, -, hret, hth, hnot, hstall⟩ | ⟨hn, hc⟩
  · have hst' : stmState { s' with stm := some ret } ≠ .relay ∧
        stmState { s' with stm := some ret } ≠ .resolving := by
      rcases hret with rfl | rfl <;> simp [stmState]
    refine does_assign hs' rfl rfl ⟨⟨⟨hsteps, fun _ _ s'' hs'' hrel => ?_, fun hno _ => ?_⟩, ?_⟩, hnot⟩
    · cases hs''
      exact absurd hrel hst'.1
    · refine not_stalled_of_some rfl (show s'.stalled = false from ?_)
      by_contra hst''
      obtain ⟨hr, n, hn, hle⟩ := hstall (by simpa using hst'')
      simp [View.stallsWrite, hr, hcur, hn, hle] at hno
    · exact .of_not_resolving hs rfl hth (by simp [hst]) hst'.2
  · exact does_assign_freed hn ⟨rfl, hc⟩

/-- The connection attempt failed and there is no other address. -/
theorem does_connectFailed {fd : Fd} (hok : v.toSlot.Ok) (hs : v.sess = some s)
    (hst : stmState s = .originConnecting) (herr : (v.env.soError.headD none).isSome = true)
    (hcur : s.dnsCursor.length ≤ 1) {rep : UInt8} (hrep : rep ≠ socksRepSucceeded) :
    Does H sid (do
      socksFailRequest ⟨fd, sid⟩ rep
      let _ ← socksCloseIfFlushed sid) (v.connectFailed s)
      (fun _ => Completes v s) (CompleteFault v s) := by
  have href : v.refusesWrite s = true := by
    rw [View.refusesWrite, herr, hst]
    rcases hc : s.dnsCursor with _ | ⟨a, _ | ⟨next, rest⟩⟩
    · simp
    · simp
    · rw [hc] at hcur
      simp at hcur
  have h := answering_connecting hok hs hst s.dnsCursor
  refine does_bind ((does_failRequest h.has h.room).mono (fun _ v₁ hf => ?_) fun _ hf => hf)
  have hstep : SessionStep .plain v.toSlot _ := step_refused h.sess h.deciding (.nil _) hrep
    h.hist h.client h.origin h.idle h.used h.session
  rcases hf.cases h.room with ⟨hn, hans⟩ | ⟨s', hs'⟩
  · rw [socksCloseIfFlushed]
    exact does_bind (does_bind (does_deref_freed hn ⟨rfl, href, hans⟩))
  · have hsteps := Relation.ReflTransGen.head hstep hf.steps
    have hnot : ¬ (v.refusesWrite s = true ∧ v.writeAns = .error) := fun hc => hs'.writeAns hc.2
    refine does_bind (does_closeIfFlushed hs'.has (fun hst' => does_pure ?_) fun hst' => does_pure ?_)
    · have hclose := hsteps.trans (steps_closed_plain hs'.has.sess)
      exact ⟨⟨.of_closed hclose rfl, hs'.threads, .inl rfl⟩, hnot⟩
    · refine ⟨⟨⟨hsteps, fun _ _ s'' hs'' hrel => ?_, fun _ _ => not_stalled_of_some hs'.has.sess hst'⟩,
        ?_⟩, hnot⟩
      · rw [hs'.has.sess] at hs''
        cases hs''
        rw [hs'.state] at hrel
        cases hrel
      · exact .of_not_resolving hs hs'.has.sess hs'.threads (by simp [hst]) (by simp [hs'.state])

/-- What `socks_session_record_dest` reports to the store. -/
def destStore (now : ℕ) (s : SocksSession) (st : MonitorStore) : MonitorStore :=
  if !s.destRecorded ∧ s.storeId ≠ storeSessionInvalid then
    storeSessionSetDest st now s.storeId s.recordedHost s.request.destPort
  else st

/-- The calls `socks_session_record_dest` makes to the store. -/
def destActs (now : ℕ) (s : SocksSession) : List StoreAct :=
  if !s.destRecorded ∧ s.storeId ≠ storeSessionInvalid then
    [.call (.setDest now s.storeId s.recordedHost s.request.destPort)]
  else []

theorem does_recordDest (hs : v.sess = some s) {R : Unit → View → Prop}
    (h : ∀ d, R () { v with
      sess := some { s with destRecorded := d }, store := destStore v.clock s v.store
      acts := v.acts ++ destActs v.clock s }) :
    Does H sid (socksSessionRecordDest sid) v R E := by
  rw [socksSessionRecordDest]
  refine does_bind (does_deref hs (does_bind (does_sysTime ?_)))
  by_cases hc : !s.destRecorded ∧ s.storeId ≠ storeSessionInvalid
  · have := h true
    rw [destStore, destActs, if_pos hc, if_pos hc] at this
    rw [if_pos hc]
    exact does_bind (does_onStore rfl (does_assign (by exact hs) rfl rfl this))
  · have := h s.destRecorded
    rw [destStore, destActs, if_neg hc, if_neg hc, List.append_nil, ← hs] at this
    rw [if_neg hc]
    exact does_pure this

/-- The connection is up. -/
theorem does_connected {fd : Fd} (hok : v.toSlot.Ok) (hs : v.sess = some s)
    (hst : stmState s = .originConnecting) (herr : (v.env.soError.headD none).isSome = false) :
    Does H sid (do
      if ← socksSendConnectReply sid socksRepSucceeded then
        socksSessionRecordDest sid
        jump sid .relay
        if ← socksFlushClient sid then
          let s ← deref sid
          match s.originFd with
          | some fd => selectorSetInterest fd (socksOriginInterest s)
          | none => pure ()
          selectorSetInterest s.clientFd (socksClientInterest s)
      else selectorUnregisterFd fd)
      { v with env := { v.env with soError := v.env.soError.tail } }
      (fun _ => Completes v s) (CompleteFault v s) := by
  have hsok := hok.session s hs
  have hroom : 10 ≤ s.o2c.space := hsok.room (by rw [hst]; rfl) (by omega)
  obtain ⟨ofd, hofd⟩ := Option.ne_none_iff_exists'.1 (fun h =>
    hsok.needsOrigin (.inl hst) (hsok.origin.1 h))
  have hnot : ¬ (v.refusesWrite s = true ∧ v.writeAns = .error) := by
    rw [View.refusesWrite, herr]
    simp
  have hcaf : s.closeAfterFlush = false := by
    have := hsok.flush
    rw [hst] at this
    simpa using this
  refine does_bind (does_o2cAppend (by exact hs) (by exact hroom) ?_)
  rw [if_pos rfl]
  refine does_bind (does_recordDest rfl fun d => does_bind (does_assign rfl rfl rfl ?_))
  have hv₁ : View.Has { v with
      sess := some { s with
        o2c := s.o2c.append (connectReply socksRepSucceeded), destRecorded := d, stm := some .relay }
      hist := v.hist ++ [.reply (connectReply socksRepSucceeded)]
      env := { v.env with soError := v.env.soError.tail }
      store := destStore v.clock
        { s with o2c := s.o2c.append (connectReply socksRepSucceeded) } v.store
      acts := v.acts ++ destActs v.clock
        { s with o2c := s.o2c.append (connectReply socksRepSucceeded) } }
      { s with
        o2c := s.o2c.append (connectReply socksRepSucceeded), destRecorded := d, stm := some .relay } :=
    ⟨rfl, hsok.client, hsok.origin⟩
  have hsteps : SessionSteps .plain v.toSlot { v.toSlot with
      sess := some { s with
        o2c := s.o2c.append (connectReply socksRepSucceeded), destRecorded := d, stm := some .relay }
      hist := v.hist ++ [.reply (connectReply socksRepSucceeded)] } :=
    .tail (.single (.connected hs hst)) (.booked rfl rfl rfl (.inl rfl))
  refine does_bind ((does_flushClient hv₁).mono (fun b v₂ h => ?_) fun _ hf => hf)
  have hsteps₂ := hsteps.trans (h.steps rfl)
  cases b with
  | false =>
    rw [if_neg (by simp)]
    refine does_pure ?_
    cases h with
    | dead => exact ⟨⟨.of_closed hsteps₂ rfl, rfl, .inl rfl⟩, hnot⟩
  | true =>
    rw [if_pos rfl]
    obtain ⟨s₂, hv₂, -, hcaf₂, -, hth, hst₂, -, hofd₂, -, -⟩ := h.serviced hv₁ hsok.o2cRead
    replace hst₂ : stmState s₂ = .relay := hst₂
    refine does_bind (does_deref hv₂.sess ?_)
    rw [hofd₂.trans hofd]
    refine does_bind (hv₂.does_armOrigin (hofd₂.trans hofd) ?_)
    have hv₃ : View.Has { v₂ with origin := some (socksOriginInterest s₂) } s₂ :=
      ⟨hv₂.sess, hv₂.client, by simp [hofd₂.trans hofd]⟩
    refine hv₃.does_armClient ⟨⟨⟨?_, ?_, ?_⟩, ?_⟩, hnot⟩
    · refine (hsteps₂.tail (.armOrigin hv₂.sess ?_ ?_)).tail (.armClient hv₃.sess)
      · simp [hofd₂.trans hofd]
      · simp [hst₂]
    · exact fun _ _ => synced_of_both hv₂.sess rfl rfl
    · refine fun _ _ => not_stalled_of_some hv₂.sess ?_
      rw [SocksSession.stalled, hcaf₂, show _ = false from hcaf]
      rfl
    · exact .of_not_resolving hs hv₂.sess hth (by simp [hst]) (by simp [hst₂])

theorem does_connectComplete {fd : Fd} (hok : v.toSlot.Ok) (hs : v.sess = some s)
    (hst : stmState s = .originConnecting) :
    Does H sid (socksOriginConnectComplete ⟨fd, sid⟩) v (fun _ => Completes v s)
      (CompleteFault v s) := by
  rw [socksOriginConnectComplete]
  refine does_bind (does_sysSoError ?_)
  cases herr : v.env.soError.headD none with
  | none => exact does_connected hok hs hst (by simp only [herr, Option.isSome_none])
  | some err =>
    have hsome : (v.env.soError.headD none).isSome = true := by
      simp only [herr, Option.isSome_some]
    refine does_bind (does_destroyOrigin (by exact hs) ?_ (does_bind (does_deref rfl ?_)))
    · exact (hok.has hs).origin_ne
    rcases hcur : s.dnsCursor with _ | ⟨a, _ | ⟨next, rest⟩⟩
    · exact does_connectFailed hok hs hst hsome (by simp [hcur]) (socksErrnoToRep_ne err)
    · exact does_connectFailed hok hs hst hsome (by simp [hcur]) (socksErrnoToRep_ne err)
    · exact does_bind (does_assign rfl rfl rfl (does_connectNext hok hs hst hsome hcur))

theorem does_originWrite (hok : v.toSlot.Ok) (hs : v.sess = some s) {fd : Fd}
    (hfd : s.originFd = some fd) :
    Does H sid (socksOriginWrite ⟨fd, sid⟩) v
      (fun _ v' => (Acts (.ofLate s.lateWrite) false (v.stallsWrite s) v.toSlot v'.toSlot ∧ Quiet v v') ∧
        ¬ (v.refusesWrite s = true ∧ v.writeAns = .error)) (CompleteFault v s) := by
  have hv := hok.has hs
  rw [socksOriginWrite]
  refine does_bind (does_deref hs ?_)
  by_cases hst : stmState s = .originConnecting
  · rw [if_pos hst]
    have hlate : s.lateWrite = false := by simp [SocksSession.lateWrite, hst]
    rw [hlate]
    exact does_connectComplete hok hs hst
  rw [if_neg hst]
  have hnot : ¬ (v.refusesWrite s = true ∧ v.writeAns = .error) := by
    simp [View.refusesWrite, hst]
  refine does_bind ((does_flushOrigin hv).mono (fun b v₁ h => ?_) fun _ hf => hf)
  have hsteps : SessionSteps (.ofLate s.lateWrite) v.toSlot v₁.toSlot := by
    by_cases hp : s.c2o.pending = []
    · cases h with
      | nothing => exact .refl
      | blocked _ h => exact absurd hp h
      | wrote _ h => exact absurd hp h
      | dead _ h => exact absurd hp h
    · refine h.steps hs ?_
      by_cases hrel : stmState s = .relay
      · exact .inl hrel
      · have hh := (hok.session s hs).hasOrigin (hv.origin_ne fd hfd)
        have hd : stmState s = .done := by
          cases h : stmState s <;> simp_all [SocksState.hasOrigin]
        exact .inr ⟨by simp [SocksSession.lateWrite, hd, (Buffer.canRead_iff _).2 hp,
          Mode.ofLate], hd⟩
  cases b with
  | false =>
    rw [if_neg (by simp)]
    refine does_pure ?_
    cases h with
    | dead => exact ⟨⟨.of_closed hsteps rfl, rfl, .inl rfl⟩, hnot⟩
  | true =>
    rw [if_pos rfl]
    obtain ⟨b, t, o, e, st, as, rfl⟩ := h.alive hs
    have hv₁ : View.Has { v with
        sess := some { s with c2o := b, lastActivity := t }
        hist := o, env := e, store := st, acts := as }
        { s with c2o := b, lastActivity := t } := ⟨rfl, hv.client, hv.origin⟩
    refine does_bind (does_deref rfl (does_bind (hv₁.does_armOrigin hfd ?_)))
    have hv₂ : View.Has { v with
        sess := some { s with c2o := b, lastActivity := t }
        hist := o, env := e, store := st, acts := as
        origin := some (socksOriginInterest { s with c2o := b, lastActivity := t }) }
        { s with c2o := b, lastActivity := t } := ⟨rfl, hv.client, by simp [hfd]⟩
    refine hv₂.does_armClient ⟨⟨⟨?_, ?_, ?_⟩, ?_⟩, hnot⟩
    · exact (hsteps.tail (.armOrigin rfl (by simp [hfd]) hst)).tail (.armClient rfl)
    · exact fun _ _ => synced_of_both rfl rfl rfl
    · rintro - hno ⟨s', ⟨⟩, hstall⟩
      exact hno ⟨s, hs, hstall⟩
    · exact .of_alike hs rfl rfl rfl rfl

/-! ## Expiry -/

/-- What `socks_server_expire_idle` leaves of a session it found due. -/
structure Expires (v v' : View) : Prop where
  acts : Acts .plain false false v.toSlot v'.toSlot
  threads : v'.threads = v.threads
  expired : ∀ s', v'.sess = some s' → s'.ttlExpired = true

/-- The view of a session once expiry has enqueued its reply. -/
def View.expired (v : View) (s : SocksSession) : View :=
  { v with
    sess := some { s with
      ttlExpired := true, o2c := s.o2c.append (connectReply socksRepTtlExpired)
      closeAfterFlush := true, stm := some .done }
    idle := false
    hist := v.hist ++ [.expired (stmState s), .reply (connectReply socksRepTtlExpired)] }

/-- One turn of `socks_server_expire_idle` on a session that is due. -/
theorem does_expireOne (hok : v.toSlot.Ok) (hs : v.sess = some s) (hidle : v.idle = true) :
    Does H sid (do
      assign sid fun s => { s with ttlExpired := true }
      idleListRemove sid
      emit sid (.expired (stmState s))
      if stmState s = .relay then selectorUnregisterFd s.clientFd
      else socksExpireSessionPreRelay sid) v (fun _ => Expires v) E := by
  have hv := hok.has hs
  have hsok := hok.session s hs
  refine does_bind (does_assign hs rfl rfl (does_bind (does_idleListRemove ?_)))
  refine does_bind (does_emit ?_)
  by_cases hst : stmState s = .relay
  · rw [if_pos hst]
    have hv₁ : View.Has { v with
        sess := some { s with ttlExpired := true }, idle := false
        hist := v.hist ++ [.expired (stmState s)] } { s with ttlExpired := true } :=
      ⟨rfl, hv.client, hv.origin⟩
    refine hv₁.does_close ⟨.of_closed ?_ rfl, rfl, by rintro s' ⟨⟩⟩
    rw [hst]
    exact .single (.close hs (.expired hst))
  · rw [if_neg hst, socksExpireSessionPreRelay]
    have hroom : 10 ≤ s.o2c.space := hsok.room_of_idle hidle hst (by omega)
    refine does_bind (does_o2cAppend rfl (by exact hroom) ?_)
    rw [if_pos rfl]
    refine does_bind (does_assign rfl rfl rfl ?_)
    have hstep : SessionStep .plain v.toSlot (v.expired s).toSlot := .expire hs hidle hst
    have hok₁ := hstep.ok hok
    have hv₁ := hok₁.has (v := v.expired s) rfl
    have hview : v.expired s = { v with
        sess := some { s with
          ttlExpired := true, o2c := s.o2c.append (connectReply socksRepTtlExpired)
          closeAfterFlush := true, stm := some .done }
        idle := false
        hist := v.hist ++ [.expired (stmState s)] ++
          [.reply (connectReply socksRepTtlExpired)] } := by
      rw [View.expired, List.append_assoc]
      rfl
    rw [← hview]
    refine does_bind ((does_flushClient hv₁).mono (fun b v₂ h => ?_) fun _ hf => hf)
    have hsteps := Relation.ReflTransGen.head hstep (h.steps rfl)
    cases b with
    | false =>
      rw [if_neg (by simp)]
      refine does_pure ?_
      cases h with
      | dead => exact ⟨.of_closed hsteps rfl, rfl, by rintro s' ⟨⟩⟩
    | true =>
      rw [if_pos rfl]
      obtain ⟨s₂, hv₂, -, -, -, hth, hst₂, -⟩ := h.serviced hv₁ hsok.o2cRead
      obtain ⟨b, t, m, o, e, -, hv₂'⟩ := h.alive rfl
      have hexp : s₂.ttlExpired = true := by
        have := hv₂.sess
        rw [hv₂'] at this
        cases this
        rfl
      refine does_bind (does_closeIfFlushed hv₂ (fun hstall => ?_) fun hstall => ?_)
      · rw [if_neg (by simp)]
        have hclose := hsteps.trans (steps_closed_plain hv₂.sess)
        exact does_pure ⟨.of_closed hclose rfl, hth, by rintro s' ⟨⟩⟩
      · rw [if_pos rfl]
        refine does_bind (does_deref hv₂.sess (hv₂.does_armClient ⟨⟨?_, ?_, ?_⟩, hth, ?_⟩))
        · exact hsteps.tail (.armClient hv₂.sess)
        · intro _ _ s' hs' hrel
          replace hs' : v₂.sess = some s' := hs'
          rw [hv₂.sess] at hs'
          cases hs'
          rw [hst₂] at hrel
          cases hrel
        · exact fun _ _ => not_stalled_of_some hv₂.sess hstall
        · intro s' hs'
          replace hs' : v₂.sess = some s' := hs'
          rw [hv₂.sess] at hs'
          cases hs'
          exact hexp

end SocksProxy
