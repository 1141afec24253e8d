import SocksProxy.Socks.Session

/-!
# The helpers of the callbacks

One rule for each function of `socks.c` that the callbacks share.  The two flushes and
`socks_fail_request` can end in several ways; these are the inductive predicates `Flushed`,
`Forwarded` and `Failed`, each with the facts its callers go on with.
-/

set_option autoImplicit false

namespace SocksProxy

variable {H : Set Fd} {sid : Sid} {v : View} {E : Fault → Prop} {s : SocksSession} {mode : Mode}

/-- The view of a callback that works on session `s`. -/
structure View.Has (v : View) (s : SocksSession) : Prop where
  sess : v.sess = some s
  client : v.client ≠ none
  origin : s.originFd = none ↔ v.origin = none

theorem Slot.Ok.has (h : v.toSlot.Ok) (hs : v.sess = some s) : v.Has s :=
  ⟨hs, (h.session s hs).client, (h.session s hs).origin⟩

theorem View.Has.origin_ne (h : v.Has s) : ∀ fd, s.originFd = some fd → v.origin ≠ none := by
  intro fd hfd ho
  rw [h.origin.2 ho] at hfd
  cases hfd

theorem View.Has.does_close (h : v.Has s) {R : Unit → View → Prop} (hR : R () (v.closed s)) :
    Does H sid (selectorUnregisterFd s.clientFd) v R E := by
  obtain ⟨i, hi⟩ := Option.ne_none_iff_exists'.1 h.client
  exact SocksProxy.does_close h.sess hi h.origin_ne hR

theorem View.Has.does_armClient (h : v.Has s) {i : FdInterest} {R : Unit → View → Prop}
    (hR : R () { v with client := some i }) :
    Does H sid (selectorSetInterest s.clientFd i) v R E := by
  obtain ⟨i₀, hi⟩ := Option.ne_none_iff_exists'.1 h.client
  exact does_setInterest_client h.sess hi hR

theorem View.Has.does_armOrigin (h : v.Has s) {fd : Fd} (hfd : s.originFd = some fd)
    {i : FdInterest} {R : Unit → View → Prop} (hR : R () { v with origin := some i }) :
    Does H sid (selectorSetInterest fd i) v R E := by
  obtain ⟨i₀, hi⟩ := Option.ne_none_iff_exists'.1 (h.origin_ne fd hfd)
  exact does_setInterest_origin h.sess hfd hi hR

/-! ## Small steps -/

theorem does_touch (hs : v.sess = some s) {R : Unit → View → Prop}
    (h : R () { v with sess := some { s with lastActivity := v.clock } }) :
    Does H sid (socksSessionTouch sid) v R E := by
  rw [socksSessionTouch]
  refine does_bind (does_sysTime (does_bind (does_assign (by exact hs) rfl rfl ?_)))
  refine does_bind (does_inIdleList ?_)
  by_cases hi : v.idle = true
  · rw [if_pos hi]
    refine does_idleListPushTail ?_
    rw [hi] at h
    exact h
  · rw [if_neg hi]
    exact does_pure h

theorem does_stmHandlerWrite (hs : v.sess = some s) {R : Unit → View → Prop}
    (h : R () { v with sess := some { s with stm := some (stmState s) } }) :
    Does H sid (stmHandlerWrite sid) v R E := by
  rw [stmHandlerWrite, handleFirst, socksStubStay]
  refine does_bind (does_assign (by exact hs) rfl rfl ?_)
  refine does_bind (does_bind (does_deref rfl (does_pure ?_)))
  exact does_assign rfl rfl rfl (by exact h)

theorem does_o2cAppend (hs : v.sess = some s) {data : Bytes} (hroom : data.length ≤ s.o2c.space)
    {R : Bool → View → Prop}
    (h : R true { v with
      sess := some { s with o2c := s.o2c.append data }, hist := v.hist ++ [.reply data] }) :
    Does H sid (socksO2cAppend sid data) v R E := by
  rw [socksO2cAppend]
  refine does_bind (does_deref (by exact hs) ?_)
  rw [if_neg (by omega)]
  exact does_bind (does_assign (by exact hs) rfl rfl (does_bind (does_emit (does_pure h))))

/-! ## `socks_flush_client` -/

/-- The view after a `write()` to the client that took nothing. -/
def View.sentNone (v : View) (s : SocksSession) : View :=
  v.didWrite (.sent [] s.o2c.pending.length)

/-- The view after a `write()` to the client that returned `n`. -/
def View.sentSome (v : View) (s : SocksSession) (n : ℕ) : View :=
  { v.didWrite (.sent (s.o2c.pending.take n) s.o2c.pending.length) with
    sess := some { s with
      o2c := (s.o2c.readAdv (min n s.o2c.pending.length)).compact
      lastActivity := v.clock
      stm := some (stmState s) } }

/-- How `socks_flush_client` ends. -/
inductive Flushed (v : View) (s : SocksSession) : Bool → View → Prop
  | nothing (h : s.o2c.pending = []) : Flushed v s true v
  | blocked (h : s.o2c.pending ≠ []) (ans : v.writeAns = .again) : Flushed v s true (v.sentNone s)
  | wrote {n : ℕ} (h : s.o2c.pending ≠ []) (ans : v.writeAns = .ok n) :
      Flushed v s true (v.sentSome s n)
  | dead (h : s.o2c.pending ≠ []) (ans : v.writeAns = .error) :
      Flushed v s false ((v.sentNone s).closed s)

theorem does_flushClient (h : v.Has s) :
    Does H sid (socksFlushClient sid) v (Flushed v s) E := by
  rw [socksFlushClient]
  refine does_bind (does_deref h.sess ?_)
  dsimp only
  by_cases hp : s.o2c.pending = []
  · rw [if_pos hp]
    exact does_pure (.nothing hp)
  · rw [if_neg hp]
    refine does_bind (does_sysWrite ?_ ?_ ?_)
    · intro n ans
      refine does_bind (does_assign (by exact h.sess) rfl rfl ?_)
      refine does_bind (does_touch rfl (does_bind (does_stmHandlerWrite rfl ?_)))
      exact does_pure (.wrote hp ans)
    · intro ans
      exact does_pure (.blocked hp ans)
    · intro ans
      have h' : (v.sentNone s).Has s := ⟨h.sess, h.client, h.origin⟩
      exact does_bind (h'.does_close (does_pure (.dead hp ans)))

/-- A session that survives the flush differs from what it was in `o2c` only. -/
theorem Flushed.alive {v' : View} (h : Flushed v s true v') (hs : v.sess = some s) :
    ∃ b t m o e, (m = s.stm ∨ m = some (stmState s)) ∧
      v' = { v with
        sess := some { s with o2c := b, lastActivity := t, stm := m }, hist := o, env := e } := by
  cases h with
  | nothing => exact ⟨s.o2c, s.lastActivity, s.stm, v.hist, v.env, .inl rfl, by rw [← hs]⟩
  | blocked =>
    refine ⟨s.o2c, s.lastActivity, s.stm, (v.sentNone s).hist, (v.sentNone s).env, .inl rfl, ?_⟩
    rw [← hs]
    rfl
  | wrote => exact ⟨_, _, _, _, _, .inr rfl, rfl⟩

theorem steps_closed [Inet] {why : List Obs} (hs : v.sess = some s)
    (hend : Ending v.toSlot s why) :
    SessionSteps mode v.toSlot (View.closed { v with hist := v.hist ++ why } s).toSlot :=
  .single (.close hs hend)

theorem steps_closed_plain [Inet] (hs : v.sess = some s) :
    SessionSteps mode v.toSlot (v.closed s).toSlot := by
  have : SessionSteps mode v.toSlot _ := steps_closed hs .plain
  rw [List.append_nil] at this
  exact this

theorem Flushed.steps [Inet] {b : Bool} {v' : View} (h : Flushed v s b v') (hs : v.sess = some s) :
    SessionSteps mode v.toSlot v'.toSlot := by
  cases h with
  | nothing => exact .refl
  | blocked h => exact .single (.sendBlocked hs h)
  | wrote h =>
    exact .tail (.single (.send hs h)) (.booked rfl rfl rfl (.inr rfl))
  | dead h =>
    have hclose : SessionSteps mode (v.sentNone s).toSlot _ := steps_closed_plain hs
    exact .head (.sendBlocked hs h) hclose

/-! ## `socks_close_if_flushed` -/

/-- Whether `socks_close_if_flushed` closes the session. -/
def SocksSession.stalled (s : SocksSession) : Bool := s.closeAfterFlush && !s.o2c.canRead

/-- A flush leaves nothing to send only if it sent everything. -/
theorem Flushed.all_sent {v' : View} {s' : SocksSession} (h : Flushed v s true v')
    (hs : v.sess = some s) (hs' : v'.sess = some s') (hne : s.o2c.pending ≠ [])
    (hst : s'.stalled = true) :
    s.closeAfterFlush = true ∧ ∃ n, v.writeAns = .ok n ∧ s.o2c.pending.length ≤ n := by
  rw [SocksSession.stalled, Bool.and_eq_true, Bool.not_eq_true', Buffer.canRead_eq_false_iff] at hst
  cases h with
  | nothing h => exact absurd h hne
  | blocked h =>
    have hs' : v.sess = some s' := hs'
    rw [hs] at hs'
    cases hs'
    exact absurd hst.2 h
  | @wrote n h ans =>
    cases hs'
    refine ⟨hst.1, n, ans, ?_⟩
    have := hst.2
    rw [Buffer.pending_compact, Buffer.pending_readAdv, List.drop_eq_nil_iff] at this
    omega

theorem does_closeIfFlushed (h : v.Has s) {R : Bool → View → Prop}
    (hclose : s.stalled = true → R false (v.closed s)) (hkeep : s.stalled = false → R true v) :
    Does H sid (socksCloseIfFlushed sid) v R E := by
  rw [socksCloseIfFlushed]
  refine does_bind (does_deref h.sess ?_)
  rw [SocksSession.stalled] at hclose hkeep
  by_cases hk : (!s.closeAfterFlush || s.o2c.canRead) = true
  · rw [if_pos hk]
    refine does_pure (hkeep ?_)
    revert hk
    cases s.closeAfterFlush <;> cases s.o2c.canRead <;> simp
  · rw [if_neg hk]
    refine does_bind (h.does_close (does_pure (hclose ?_)))
    revert hk
    cases s.closeAfterFlush <;> cases s.o2c.canRead <;> simp

/-- How the tail of a client callback ends. -/
inductive Settled (v : View) (s : SocksSession) : View → Prop
  | closed (h : s.stalled = true) : Settled v s (v.closed s)
  | armed (h : s.stalled = false) : Settled v s { v with client := some (socksClientInterest s) }

theorem does_settle (h : v.Has s) :
    Does H sid (settle ⟨s.clientFd, sid⟩) v (fun _ => Settled v s) E := by
  rw [settle]
  refine does_bind (does_closeIfFlushed h (fun hst => ?_) fun hst => ?_)
  · rw [if_neg (by simp)]
    exact does_pure (.closed hst)
  · rw [if_pos rfl]
    exact does_bind (does_deref h.sess (h.does_armClient (.armed hst)))

theorem Settled.steps [Inet] {v' : View} (h : Settled v s v') (hs : v.sess = some s) :
    SessionSteps mode v.toSlot v'.toSlot := by
  cases h with
  | closed => exact steps_closed_plain hs
  | armed => exact .single (.armClient hs)

/-! ## `socks_flush_origin` -/

/-- The view after a `write()` to the origin that took nothing. -/
def View.forwardedNone (v : View) (s : SocksSession) : View :=
  v.didWrite (.forwarded (stmState s) [] s.c2o.pending.length)

/-- What `socks_flush_origin` reports to the store. -/
def forwardStore (s : SocksSession) (n : ℕ) (st : MonitorStore) : MonitorStore :=
  if s.storeId ≠ storeSessionInvalid then storeSessionAddBytes st s.storeId (UInt64.ofNat n) 0
  else st

/-- The calls `socks_flush_origin` makes to the store. -/
def forwardActs (s : SocksSession) (n : ℕ) : List StoreAct :=
  if s.storeId ≠ storeSessionInvalid then [.call (.addBytes s.storeId (UInt64.ofNat n) 0)] else []

/-- The view after a `write()` to the origin that returned `n`. -/
def View.forwardedSome (v : View) (s : SocksSession) (n : ℕ) : View :=
  { v.didWrite (.forwarded (stmState s) (s.c2o.pending.take n) s.c2o.pending.length) with
    sess := some { s with
      c2o := (s.c2o.readAdv (min n s.c2o.pending.length)).compact
      lastActivity := v.clock }
    store := forwardStore s (min n s.c2o.pending.length) v.store
    acts := v.acts ++ forwardActs s (min n s.c2o.pending.length) }

/-- How `socks_flush_origin` ends. -/
inductive Forwarded (v : View) (s : SocksSession) : Bool → View → Prop
  | nothing (h : s.originFd = none ∨ s.c2o.pending = []) : Forwarded v s true v
  | blocked (ho : s.originFd ≠ none) (h : s.c2o.pending ≠ []) (ans : v.writeAns = .again) :
      Forwarded v s true (v.forwardedNone s)
  | wrote {n : ℕ} (ho : s.originFd ≠ none) (h : s.c2o.pending ≠ []) (ans : v.writeAns = .ok n) :
      Forwarded v s true (v.forwardedSome s n)
  | dead (ho : s.originFd ≠ none) (h : s.c2o.pending ≠ []) (ans : v.writeAns = .error) :
      Forwarded v s false ((v.forwardedNone s).closed s)

theorem does_flushOrigin (h : v.Has s) :
    Does H sid (socksFlushOrigin sid) v (Forwarded v s) E := by
  rw [socksFlushOrigin]
  refine does_bind (does_deref h.sess ?_)
  dsimp only
  by_cases hp : s.originFd = none ∨ s.c2o.pending = []
  · rw [if_pos hp]
    exact does_pure (.nothing hp)
  · rw [if_neg hp]
    obtain ⟨ho, hp⟩ := not_or.1 hp
    refine does_bind (does_sysWrite ?_ ?_ ?_)
    · intro n ans
      refine does_bind (does_assign (by exact h.sess) rfl rfl (does_bind (does_touch rfl ?_)))
      refine does_bind (does_deref rfl ?_)
      have hw := Forwarded.wrote ho hp ans
      rw [View.forwardedSome, forwardStore, forwardActs] at hw
      by_cases hid : s.storeId = storeSessionInvalid
      · rw [if_neg (not_not.2 hid), if_neg (not_not.2 hid), List.append_nil] at hw
        rw [if_neg (not_not.2 hid)]
        exact does_pure hw
      · rw [if_pos hid, if_pos hid] at hw
        rw [if_pos hid]
        exact does_bind (does_onStore rfl (does_pure hw))
    · intro ans
      exact does_pure (.blocked ho hp ans)
    · intro ans
      have h' : (v.forwardedNone s).Has s := ⟨h.sess, h.client, h.origin⟩
      rw [socksSessionCloseFromOrigin]
      refine does_bind (does_bind (does_deref (by exact h.sess) ?_))
      exact h'.does_close (does_pure (.dead ho hp ans))

/-- A session that survives the flush differs from what it was in `c2o` only. -/
theorem Forwarded.alive {v' : View} (h : Forwarded v s true v') (hs : v.sess = some s) :
    ∃ b t o e st as, v' = { v with
      sess := some { s with c2o := b, lastActivity := t }
      hist := o, env := e, store := st, acts := as } := by
  cases h with
  | nothing => exact ⟨s.c2o, s.lastActivity, v.hist, v.env, v.store, v.acts, by rw [← hs]⟩
  | blocked =>
    refine ⟨s.c2o, s.lastActivity, (v.forwardedNone s).hist, (v.forwardedNone s).env, v.store,
      v.acts, ?_⟩
    rw [← hs]
    rfl
  | wrote => exact ⟨_, _, _, _, _, _, rfl⟩

theorem Forwarded.steps [Inet] {b : Bool} {v' : View} (h : Forwarded v s b v')
    (hs : v.sess = some s) (hst : Served mode s) :
    SessionSteps mode v.toSlot v'.toSlot := by
  cases h with
  | nothing => exact .refl
  | blocked ho h => exact .single (.forwardBlocked hs ho hst h)
  | wrote ho h =>
    exact .tail (.single (.forward hs ho hst h)) (.booked rfl rfl rfl (.inl rfl))
  | dead ho h =>
    have hclose : SessionSteps mode (v.forwardedNone s).toSlot _ := steps_closed_plain hs
    exact .head (.forwardBlocked hs ho hst h) hclose

/-! ## `socks_fail_request` -/

/-- What `socks_fail_request` reports to the store. -/
def failStore (now : ℕ) (s : SocksSession) (st : MonitorStore) : MonitorStore :=
  if s.storeId ≠ storeSessionInvalid then storeSessionMarkFailed st now s.storeId else st

/-- The calls `socks_fail_request` makes to the store. -/
def failActs (now : ℕ) (s : SocksSession) : List StoreAct :=
  if s.storeId ≠ storeSessionInvalid then [.call (.markFailed now s.storeId)] else []

/-- The session once its failure reply is enqueued. -/
def SocksSession.refused (s : SocksSession) (rep : UInt8) : SocksSession :=
  { s with
    storeId := storeSessionInvalid
    o2c := s.o2c.append (connectReply rep)
    closeAfterFlush := true
    stm := some .done }

/-- The view once the failure reply is enqueued. -/
def View.refused (v : View) (s : SocksSession) (rep : UInt8) : View :=
  { v with
    sess := some (s.refused rep)
    hist := v.hist ++ [.reply (connectReply rep)]
    store := failStore v.clock s v.store
    acts := v.acts ++ failActs v.clock s }

/-- How `socks_fail_request` ends. -/
inductive Failed (v : View) (s : SocksSession) (rep : UInt8) : View → Prop
  | dead {v' : View} (flushed : Flushed (v.refused s rep) (s.refused rep) false v') :
      Failed v s rep v'
  | alive {v' : View} {s' : SocksSession}
      (flushed : Flushed (v.refused s rep) (s.refused rep) true v') (has : v'.Has s') :
      Failed v s rep { v' with client := some (socksClientInterest s') }

theorem does_failRequest (h : v.Has s) {fd : Fd} {rep : UInt8} (hroom : 10 ≤ s.o2c.space) :
    Does H sid (socksFailRequest ⟨fd, sid⟩ rep) v (fun _ => Failed v s rep) E := by
  rw [socksFailRequest]
  refine does_bind (does_deref h.sess (does_bind (does_sysTime ?_)))
  -- whatever the store was told, the rest starts from the same session
  have hrest : Does H sid (do
      if ← socksSendConnectReply sid rep then
        assign sid fun s => { s with closeAfterFlush := true, stm := some .done }
        if ← socksFlushClient sid then
          let s ← deref sid
          selectorSetInterest s.clientFd (socksClientInterest s)
      else
        selectorUnregisterFd fd)
      { v with
        sess := some { s with storeId := storeSessionInvalid }
        store := failStore v.clock s v.store
        acts := v.acts ++ failActs v.clock s } (fun _ => Failed v s rep) E := by
    refine does_bind (does_o2cAppend rfl (by exact hroom) ?_)
    rw [if_pos rfl]
    refine does_bind (does_assign rfl rfl rfl ?_)
    have h' : (v.refused s rep).Has (s.refused rep) := ⟨rfl, h.client, h.origin⟩
    refine does_bind ((does_flushClient h').mono (fun b v' hb => ?_) fun _ hf => hf)
    cases b with
    | false =>
      rw [if_neg (by simp)]
      exact does_pure (.dead hb)
    | true =>
      rw [if_pos rfl]
      obtain ⟨b, t, m, o, e, -, hv'⟩ := hb.alive rfl
      have hs' : v'.Has { s.refused rep with o2c := b, lastActivity := t, stm := m } := by
        subst hv'
        exact ⟨rfl, h.client, h.origin⟩
      exact does_bind (does_deref hs'.sess (hs'.does_armClient (.alive hb hs')))
  by_cases hid : s.storeId = storeSessionInvalid
  · rw [if_neg (not_not.2 hid)]
    rw [failStore, failActs, if_neg (not_not.2 hid), if_neg (not_not.2 hid), List.append_nil, ← hid,
      ← h.sess] at hrest
    exact hrest
  · rw [if_pos hid]
    rw [failStore, failActs, if_pos hid, if_pos hid] at hrest
    exact does_bind (does_onStore rfl (does_bind (does_assign (by exact h.sess) rfl rfl
      hrest)))

/-- A refusal is a step of the session's life. -/
theorem step_refused [Inet] {v₁ : View} {s₁ s₂ : SocksSession} {obs : List Obs} {rep : UInt8}
    (hs : v.sess = some s) (hdec : Deciding s s₁) (hobs : Refusal obs rep)
    (hne : rep ≠ socksRepSucceeded) (hhist : v₁.hist = v.hist ++ obs)
    (hclient : v₁.client = v.client) (horigin : v₁.origin = none) (hidle : v₁.idle = v.idle)
    (hused : v₁.used = v.used)
    (hs₂ : s₂ = { s₁ with
      destAddr := s₂.destAddr, dnsResult := s₂.dnsResult, dnsCursor := s₂.dnsCursor
      dnsGaiRc := s₂.dnsGaiRc, dnsResolving := s₂.dnsResolving, storeId := s₂.storeId }) :
    SessionStep mode v.toSlot (v₁.refused s₂ rep).toSlot := by
  have := @SessionStep.refuse _ mode _ _ _ _ _ storeSessionInvalid s₂.destAddr s₂.dnsResult
    s₂.dnsCursor s₂.dnsGaiRc s₂.dnsResolving hs hdec hobs hne
  rw [← hhist, ← hclient, ← horigin, ← hidle, ← hused] at this
  rw [View.refused, SocksSession.refused, hs₂]
  exact this

/-- A session that survives `socks_fail_request`. -/
structure Survives (v : View) (s : SocksSession) (v' : View) (s' : SocksSession) : Prop where
  has : v'.Has s'
  state : stmState s' = .done
  clientFd : s'.clientFd = s.clientFd
  threads : v'.threads = v.threads
  writeAns : v.writeAns ≠ .error
  client : v'.client = some (socksClientInterest s')
  /-- Nothing is left to send only if everything was sent at once. -/
  stalled : s'.stalled = true → ∃ n, v.writeAns = .ok n ∧ s.o2c.pending.length + 10 ≤ n

/-- What is left of a session by `socks_fail_request`. -/
theorem Failed.cases {rep : UInt8} {v' : View} (h : Failed v s rep v') (hroom : 10 ≤ s.o2c.space) :
    (v'.sess = none ∧ v.writeAns = .error) ∨ ∃ s', Survives v s v' s' := by
  have hp : (s.refused rep).o2c.pending = s.o2c.pending ++ connectReply rep :=
    Buffer.pending_append _ (by exact hroom)
  have hlen : (s.refused rep).o2c.pending.length = s.o2c.pending.length + 10 := by
    rw [hp, List.length_append]
    rfl
  have hne : (s.refused rep).o2c.pending ≠ [] := by
    intro h
    rw [h] at hlen
    simp at hlen
  cases h with
  | dead flushed =>
    cases flushed with
    | dead _ ans => exact .inl ⟨rfl, ans⟩
  | @alive v' s' flushed has =>
    have hans : v.writeAns ≠ .error := by
      intro hans
      cases flushed with
      | nothing h => exact hne h
      | blocked _ ans => exact absurd (hans.symm.trans ans) (by simp)
      | wrote _ ans => exact absurd (hans.symm.trans ans) (by simp)
    have hst : s'.stalled = true → ∃ n, v.writeAns = .ok n ∧ s.o2c.pending.length + 10 ≤ n := by
      intro hst
      obtain ⟨-, n, ans, hn⟩ := flushed.all_sent rfl has.sess hne hst
      exact ⟨n, ans, hlen ▸ hn⟩
    obtain ⟨b, t, m, o, e, hm, hv'⟩ := flushed.alive rfl
    have hs' : s' = { s.refused rep with o2c := b, lastActivity := t, stm := m } := by
      have := has.sess
      rw [hv'] at this
      exact (Option.some.inj this).symm
    refine .inr ⟨s', ⟨has.sess, by simp, has.origin⟩, ?_, ?_, ?_, hans, rfl, hst⟩
    · rw [hs']
      rcases hm with rfl | rfl <;> rfl
    · rw [hs']
      rfl
    · rw [hv']
      rfl

theorem Failed.steps [Inet] {rep : UInt8} {v' : View} (h : Failed v s rep v') :
    SessionSteps mode (v.refused s rep).toSlot v'.toSlot := by
  cases h with
  | dead flushed => exact flushed.steps rfl
  | alive flushed has => exact (flushed.steps rfl).tail (.armClient has.sess)

end SocksProxy
