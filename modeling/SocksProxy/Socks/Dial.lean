import SocksProxy.Socks.Helpers

/-!
# Reaching the origin

`dial` is what `socks_begin_origin_connect` computes, as a function: from the rules, the free
descriptors, the address to try, the addresses left and the answers of the system, to the answers
left over, what was recorded, and whether a connection is under way.  `does_beginOriginConnect`
says that the code does exactly this; a refusal is always handed to `socks_fail_request`.
-/

set_option autoImplicit false

namespace SocksProxy

variable [Inet]

/-- What one attempt to connect comes to. -/
inductive Attempt where
  /-- The request is refused without trying another address. -/
  | refused (rep : UInt8)
  /-- `connect()` failed. -/
  | failed (err : Errno)
  /-- The connection is under way. -/
  | connecting (fd : Fd)

/-- One attempt: the answers left, what was recorded, and the result. -/
def attempt (rules : List AclRule) (free : Fd → Bool) (addr : SockAddr) (env : Env) :
    Env × List Obs × Attempt :=
  if addrDenied rules addr then
    (env, [.attempt addr rules], .refused socksRepDeniedByRuleset)
  else
    match (env.socket.headD none).filter free with
    | none =>
      ({ env with socket := env.socket.tail }, [.attempt addr rules],
        .refused socksRepGeneralFailure)
    | some fd =>
      if env.nio.headD true then
        match env.connect.headD none with
        | some err =>
          ({ env with
              socket := env.socket.tail, nio := env.nio.tail, connect := env.connect.tail },
            [.attempt addr rules, .connect addr rules], .failed err)
        | none =>
          ({ env with
              socket := env.socket.tail, nio := env.nio.tail, connect := env.connect.tail
              room := env.room.tail },
            [.attempt addr rules, .connect addr rules],
            if decide (fd < selectorItemsMaxSize) && env.room.headD true then .connecting fd
            else .refused socksRepGeneralFailure)
      else
        ({ env with socket := env.socket.tail, nio := env.nio.tail }, [.attempt addr rules],
          .refused socksRepGeneralFailure)

/-- What dialling comes to. -/
structure Dialled where
  env : Env
  obs : List Obs
  /-- The address tried last. -/
  addr : SockAddr
  /-- The addresses that were not tried. -/
  others : List SockAddr
  /-- The reply code of the refusal, or the descriptor connecting. -/
  outcome : Except UInt8 Fd

/-- Try `addr` and, as long as `connect()` fails, the `others` in order. -/
def dial (rules : List AclRule) (free : Fd → Bool) : SockAddr → List SockAddr → Env → Dialled
  | addr, [], env =>
    match attempt rules free addr env with
    | (env', obs, .refused rep) => ⟨env', obs, addr, [], .error rep⟩
    | (env', obs, .failed err) => ⟨env', obs, addr, [], .error (socksErrnoToRep err)⟩
    | (env', obs, .connecting fd) => ⟨env', obs, addr, [], .ok fd⟩
  | addr, next :: rest, env =>
    match attempt rules free addr env with
    | (env', obs, .refused rep) => ⟨env', obs, addr, next :: rest, .error rep⟩
    | (env', obs, .failed _) =>
      let d := dial rules free next rest env'
      { d with obs := obs ++ d.obs }
    | (env', obs, .connecting fd) => ⟨env', obs, addr, next :: rest, .ok fd⟩

/-! ## Facts about dialling -/

section Facts

variable {rules : List AclRule} {free : Fd → Bool}

omit [Inet] in
theorem socksErrnoToRep_ne (err : Errno) : socksErrnoToRep err ≠ socksRepSucceeded := by
  cases err <;> rw [socksErrnoToRep] <;> decide

omit [Inet] in
theorem socksErrnoToRep_ne_denied (err : Errno) :
    socksErrnoToRep err ≠ socksRepDeniedByRuleset := by
  cases err <;> rw [socksErrnoToRep] <;> decide

/-- A refusal has a failure code, and a denied address is refused as such. -/
theorem attempt_refused {addr : SockAddr} {env env' : Env} {obs : List Obs} {rep : UInt8}
    (h : attempt rules free addr env = (env', obs, .refused rep)) :
    rep ≠ socksRepSucceeded ∧ Refusal obs rep := by
  rw [attempt] at h
  have hgen : socksRepGeneralFailure ≠ socksRepSucceeded := by decide
  split at h
  · next hd =>
    simp only [Prod.mk.injEq, Attempt.refused.injEq] at h
    obtain ⟨-, rfl, rfl⟩ := h
    exact ⟨by decide, .inr ⟨rfl, [], addr, rules, rfl, hd, .nil⟩⟩
  · next hd =>
    have hd : addrDenied rules addr = false := by simpa using hd
    split at h
    · simp only [Prod.mk.injEq, Attempt.refused.injEq] at h
      obtain ⟨-, rfl, rfl⟩ := h
      exact ⟨hgen, .inl ⟨.attempt hd, .inr (by decide)⟩⟩
    · split at h
      · split at h
        · simp at h
        · simp only [Prod.mk.injEq] at h
          obtain ⟨-, rfl, h⟩ := h
          split at h
          · cases h
          · cases h
            exact ⟨hgen, .inl ⟨.connect hd, .inr (by decide)⟩⟩
      · simp only [Prod.mk.injEq, Attempt.refused.injEq] at h
        obtain ⟨-, rfl, rfl⟩ := h
        exact ⟨hgen, .inl ⟨.attempt hd, .inr (by decide)⟩⟩

/-- An attempt that got as far as `connect()` was allowed. -/
theorem attempt_allowed {addr : SockAddr} {env env' : Env} {obs : List Obs} {a : Attempt}
    (h : attempt rules free addr env = (env', obs, a)) (ha : ∀ rep, a ≠ .refused rep) :
    Probes obs := by
  rw [attempt] at h
  split at h
  · simp only [Prod.mk.injEq] at h
    exact absurd h.2.2.symm (ha _)
  · next hd =>
    have hd : addrDenied rules addr = false := by simpa using hd
    split at h
    · simp only [Prod.mk.injEq] at h
      exact absurd h.2.2.symm (ha _)
    · split at h
      · split at h
        · simp only [Prod.mk.injEq] at h
          obtain ⟨-, rfl, -⟩ := h
          exact .connect hd
        · simp only [Prod.mk.injEq] at h
          obtain ⟨-, rfl, -⟩ := h
          exact .connect hd
      · simp only [Prod.mk.injEq] at h
        exact absurd h.2.2.symm (ha _)

/-- Attempts make no `read()` and no `write()`. -/
theorem attempt_env (addr : SockAddr) (env : Env) :
    (attempt rules free addr env).1.write = env.write := by
  rw [attempt]
  repeat' split
  all_goals rfl

theorem dial_env (addr : SockAddr) (others : List SockAddr) (env : Env) :
    (dial rules free addr others env).env.write = env.write := by
  induction others generalizing addr env with
  | nil =>
    have : (attempt rules free addr env).1.write = env.write := attempt_env addr env
    rw [dial]
    split <;> (next h => rw [h] at this; exact this)
  | cons next rest ih =>
    have : (attempt rules free addr env).1.write = env.write := attempt_env addr env
    rw [dial]
    split
    · next h => rw [h] at this; exact this
    · next env' _ _ h => rw [h] at this; exact (ih next env').trans this
    · next h => rw [h] at this; exact this

/-- Every destination is checked. -/
theorem attempt_obs_ne_nil (addr : SockAddr) (env : Env) :
    (attempt rules free addr env).2.1 ≠ [] := by
  rw [attempt]
  repeat' split
  all_goals simp

theorem dial_obs_ne_nil (addr : SockAddr) (others : List SockAddr) (env : Env) :
    (dial rules free addr others env).obs ≠ [] := by
  have hne : (attempt rules free addr env).2.1 ≠ [] := attempt_obs_ne_nil addr env
  cases others with
  | nil =>
    rw [dial]
    split <;> (next h => rw [h] at hne; exact hne)
  | cons next rest =>
    rw [dial]
    split
    · next h => rw [h] at hne; exact hne
    · next h => rw [h] at hne; exact List.append_ne_nil_of_left_ne_nil hne _
    · next h => rw [h] at hne; exact hne

/-- A refusal has a failure code. -/
theorem dial_error {addr : SockAddr} {others : List SockAddr} {env : Env} {rep : UInt8}
    (h : (dial rules free addr others env).outcome = .error rep) :
    rep ≠ socksRepSucceeded ∧ Refusal (dial rules free addr others env).obs rep := by
  induction others generalizing addr env with
  | nil =>
    rw [dial] at h ⊢
    split at h
    · next ha => cases h; exact attempt_refused ha
    · next ha =>
      cases h
      exact ⟨socksErrnoToRep_ne _,
        .inl ⟨attempt_allowed ha (by simp), .inr (socksErrnoToRep_ne_denied _)⟩⟩
    · cases h
  | cons next rest ih =>
    rw [dial] at h ⊢
    split at h
    · next ha => cases h; exact attempt_refused ha
    · next ha =>
      have hobs := attempt_allowed ha (by simp)
      obtain ⟨hne, hr⟩ := ih h
      exact ⟨hne, hr.append hobs (dial_obs_ne_nil _ _ _)⟩
    · cases h

/-- A connection under way goes to an allowed address. -/
theorem dial_ok {addr : SockAddr} {others : List SockAddr} {env : Env} {fd : Fd}
    (h : (dial rules free addr others env).outcome = .ok fd) :
    Probes (dial rules free addr others env).obs := by
  induction others generalizing addr env with
  | nil =>
    rw [dial] at h ⊢
    split at h
    · cases h
    · cases h
    · next ha => exact attempt_allowed ha (by simp)
  | cons next rest ih =>
    rw [dial] at h ⊢
    split at h
    · cases h
    · next ha =>
      exact (attempt_allowed ha (by simp)).append (ih h)
    · next ha => exact attempt_allowed ha (by simp)

/-- An attempt that is under way ended with `connect()`. -/
theorem attempt_connecting {addr : SockAddr} {env env' : Env} {obs : List Obs} {fd : Fd}
    (h : attempt rules free addr env = (env', obs, .connecting fd)) :
    obs = [.attempt addr rules] ++ [.connect addr rules] := by
  rw [attempt] at h
  split at h
  · simp at h
  · split at h
    · simp at h
    · split at h
      · split at h
        · simp at h
        · simp only [Prod.mk.injEq] at h
          exact h.2.1.symm
      · simp at h

/-- The last thing done for a connection under way is `connect()`. -/
theorem dial_ends {addr : SockAddr} {others : List SockAddr} {env : Env} {fd : Fd}
    (h : (dial rules free addr others env).outcome = .ok fd) :
    ∃ obs' a rules', (dial rules free addr others env).obs = obs' ++ [.connect a rules'] := by
  induction others generalizing addr env with
  | nil =>
    rw [dial] at h ⊢
    split at h
    · cases h
    · cases h
    · next ha => exact ⟨_, addr, rules, attempt_connecting ha⟩
  | cons next rest ih =>
    rw [dial] at h ⊢
    split at h
    · cases h
    · next obs _ ha =>
      obtain ⟨obs', a, rules', heq⟩ := ih h
      exact ⟨obs ++ obs', a, rules', by rw [List.append_assoc, ← heq]⟩
    · next ha => exact ⟨_, addr, rules, attempt_connecting ha⟩

end Facts

/-! ## The code dials -/

section Code

variable {H : Set Fd} {sid : Sid} {v : View} {E : Fault → Prop} {s : SocksSession}

theorem does_checkDestAddr {addr : SockAddr} {R : Bool → View → Prop}
    (h : R (addrDenied v.store.deniedAddresses.rules addr)
      { v with hist := v.hist ++ [.attempt addr v.store.deniedAddresses.rules] }) :
    Does H sid (checkDestAddr sid addr) v R E := by
  rw [checkDestAddr]
  refine does_bind (does_srvStore (does_bind (does_emit (does_pure ?_))))
  rw [socksDestAddrIsDenied_eq]
  exact h

/-- `socks_fail_request`, where the caller then returns `SOCKS_ST_DONE`. -/
def failDone (key : Key) (rep : UInt8) : SocksM SocksState := do
  socksFailRequest key rep
  return .done

/-- One attempt of `socks_begin_origin_connect`. -/
theorem does_connectAttempt (hv : v.Has s) (ho : s.originFd = none) {key : Key}
    (hkey : key.data = sid) {addr : SockAddr} (haddr : s.connectAddr = some addr)
    {retry : SocksM SocksState} {R : SocksState → View → Prop}
    (hrefused : ∀ env obs rep,
      attempt v.store.deniedAddresses.rules v.free addr v.env = (env, obs, .refused rep) →
      Does H sid (failDone key rep) { v with env := env, hist := v.hist ++ obs } R E)
    (hfailed : ∀ env obs err,
      attempt v.store.deniedAddresses.rules v.free addr v.env = (env, obs, .failed err) →
      match s.dnsCursor with
      | _ :: next :: rest =>
        Does H sid retry { v with
          env := env, hist := v.hist ++ obs
          sess := some { s with dnsCursor := next :: rest } } R E
      | _ =>
        Does H sid (failDone key (socksErrnoToRep err))
          { v with env := env, hist := v.hist ++ obs } R E)
    (hconn : ∀ env obs fd,
      attempt v.store.deniedAddresses.rules v.free addr v.env = (env, obs, .connecting fd) →
      v.free fd = true → fd ∈ H →
      R .originConnecting { v with
        env := env, hist := v.hist ++ obs
        sess := some { s with originFd := some fd, destAddr := some addr }
        origin := some opWrite, free := Function.update v.free fd false }) :
    Does H sid (socksConnectAttempt key retry) v R E := by
  have hor : v.origin = none := hv.origin.1 ho
  rw [socksConnectAttempt, hkey]
  refine does_bind (does_deref hv.sess ?_)
  rw [haddr]
  refine does_bind (does_checkDestAddr ?_)
  rw [attempt] at hrefused hfailed hconn
  by_cases hd : addrDenied v.store.deniedAddresses.rules addr = true
  · rw [if_pos hd]
    rw [if_pos hd] at hrefused
    exact hrefused _ _ _ rfl
  rw [if_neg hd]
  rw [if_neg hd] at hrefused hfailed hconn
  refine does_bind (does_sysSocket fun hH => ?_)
  have hans : (View.socketAns { v with
      hist := v.hist ++ [.attempt addr v.store.deniedAddresses.rules] }) =
      (v.env.socket.headD none).filter v.free := rfl
  cases hsock : (v.env.socket.headD none).filter v.free with
  | none =>
    rw [hans, hsock]
    rw [hsock] at hrefused
    exact hrefused _ _ _ rfl
  | some fd =>
    have hfree : v.free fd = true := (Option.filter_eq_some_iff.1 hsock).2
    have hfd : fd ∈ H := hH fd (hans.trans hsock)
    rw [hans, hsock]
    rw [hsock] at hrefused hfailed hconn
    dsimp only at hrefused hfailed hconn ⊢
    refine does_bind (does_sysNio ?_)
    dsimp only
    cases hnio : v.env.nio.headD true with
    | false =>
      rw [if_neg (by simp)]
      rw [hnio, if_neg (by simp)] at hrefused
      exact hrefused _ _ _ rfl
    | true =>
      rw [if_pos rfl]
      rw [hnio, if_pos rfl] at hrefused hfailed hconn
      refine does_bind (does_srvStore (does_bind (does_emit (does_bind (does_sysConnect ?_)))))
      dsimp only
      cases hc : v.env.connect.headD none with
      | some err =>
        rw [hc] at hfailed
        have := hfailed _ _ _ rfl
        dsimp only
        rcases hcur : s.dnsCursor with _ | ⟨a, _ | ⟨next, rest⟩⟩
        · rw [hcur] at this
          simpa only [failDone, List.append_assoc, List.cons_append, List.nil_append] using this
        · rw [hcur] at this
          simpa only [failDone, List.append_assoc, List.cons_append, List.nil_append] using this
        · rw [hcur] at this
          refine does_bind (does_assign (by exact hv.sess) rfl rfl ?_)
          simpa only [failDone, List.append_assoc, List.cons_append, List.nil_append] using this
      | none =>
        rw [hc] at hrefused hconn
        dsimp only at hrefused hconn ⊢
        refine does_bind (does_assign_of (by exact hv.sess) rfl (.inr ⟨by exact hor, ?_⟩) ?_)
        · rintro fd' ⟨⟩
          exact hfree
        refine does_bind (does_register_origin rfl rfl (by exact hfree) hfd
          (fun hroom => ?_) fun hroom => ?_)
        · rw [if_pos rfl]
          refine does_bind (does_assign rfl rfl rfl (does_pure ?_))
          have hroom : (decide (fd < selectorItemsMaxSize) && v.env.room.headD true) = true :=
            hroom
          rw [hroom, if_pos rfl] at hconn
          have := hconn _ _ _ rfl hfree hfd
          simpa only [View.didRegister, List.append_assoc, List.cons_append, List.nil_append]
            using this
        · rw [if_neg (by simp)]
          refine does_bind (does_assign_of rfl rfl (.inr ⟨by exact hor, by simp⟩) ?_)
          have hroom : (decide (fd < selectorItemsMaxSize) && v.env.room.headD true) = false :=
            hroom
          rw [hroom, if_neg (by simp)] at hrefused
          have := hrefused _ _ _ rfl
          have hs : ({ s with originFd := none } : SocksSession) = s := by rw [← ho]
          simpa only [failDone, View.didRegister, hs, hv.sess, List.append_assoc, List.cons_append,
            List.nil_append] using this

/-- `dns_cursor` once dialling is over. -/
def SocksSession.cursorAfter (s : SocksSession) (addr : SockAddr) (others : List SockAddr) :
    List SockAddr :=
  if s.dnsCursor = [] then [] else addr :: others

omit [Inet] in
/-- The cursor does not move as long as the first address is not given up. -/
theorem cursorAfter_self {addr : SockAddr} (h : s.connectAddr = some addr) :
    s.cursorAfter addr s.dnsCursor.tail = s.dnsCursor := by
  rw [SocksSession.connectAddr] at h
  rw [SocksSession.cursorAfter]
  cases hc : s.dnsCursor with
  | nil => rfl
  | cons a as =>
    rw [hc] at h
    cases h
    rfl

/-- The view once dialling is over. -/
def View.tried (v : View) (s : SocksSession) (d : Dialled) : View :=
  { v with
    env := d.env
    hist := v.hist ++ d.obs
    sess := some { s with dnsCursor := s.cursorAfter d.addr d.others } }

/-- The view once a connection is under way. -/
def View.dialled (v : View) (s : SocksSession) (d : Dialled) (fd : Fd) : View :=
  { v.tried s d with
    sess := some { s with
      dnsCursor := s.cursorAfter d.addr d.others, originFd := some fd, destAddr := some d.addr }
    origin := some opWrite
    free := Function.update v.free fd false }

/-- What dialling from a view comes to. -/
def View.dial (v : View) (addr : SockAddr) (others : List SockAddr) : Dialled :=
  SocksProxy.dial v.store.deniedAddresses.rules v.free addr others v.env

/-- `socks_begin_origin_connect` with enough retries left. -/
theorem does_connectRetry {key : Key} (hkey : key.data = sid) {R : SocksState → View → Prop}
    (others : List SockAddr) {n : ℕ} (hn : others.length ≤ n) {v : View} {s : SocksSession}
    (hv : v.Has s) (ho : s.originFd = none) {addr : SockAddr} (haddr : s.connectAddr = some addr)
    (hcur : s.dnsCursor.tail = others)
    (hrefused : ∀ rep, (v.dial addr others).outcome = .error rep →
      Does H sid (failDone key rep) (v.tried s (v.dial addr others)) R E)
    (hconn : ∀ fd, (v.dial addr others).outcome = .ok fd → v.free fd = true → fd ∈ H →
      R .originConnecting (v.dialled s (v.dial addr others) fd)) :
    Does H sid (socksConnectRetry key n) v R E := by
  induction others generalizing n v s addr with
  | nil =>
    have hself : s.cursorAfter addr [] = s.dnsCursor := hcur ▸ cursorAfter_self haddr
    have hbody : ∀ retry, Does H sid (socksConnectAttempt key retry) v R E := by
      intro retry
      refine does_connectAttempt hv ho hkey haddr ?_ ?_ ?_
      · intro env obs rep ha
        have hd : v.dial addr [] = ⟨env, obs, addr, [], .error rep⟩ := by
          rw [View.dial, SocksProxy.dial, ha]
        have := hrefused rep (by rw [hd])
        rw [hd, View.tried] at this
        simpa only [hself, ← hv.sess] using this
      · intro env obs err ha
        have hd : v.dial addr [] = ⟨env, obs, addr, [], .error (socksErrnoToRep err)⟩ := by
          rw [View.dial, SocksProxy.dial, ha]
        have := hrefused _ (by rw [hd])
        rw [hd, View.tried] at this
        rcases hc : s.dnsCursor with _ | ⟨a, _ | ⟨next, rest⟩⟩
        · simpa only [hself, ← hv.sess] using this
        · simpa only [hself, ← hv.sess] using this
        · rw [hc] at hcur
          cases hcur
      · intro env obs fd ha hfree hfd
        have hd : v.dial addr [] = ⟨env, obs, addr, [], .ok fd⟩ := by
          rw [View.dial, SocksProxy.dial, ha]
        have := hconn fd (by rw [hd]) hfree hfd
        rw [hd, View.dialled, View.tried] at this
        simpa only [hself] using this
    cases n with
    | zero => exact hbody _
    | succ n => exact hbody _
  | cons next rest ih =>
    have hself : s.cursorAfter addr (next :: rest) = s.dnsCursor := hcur ▸ cursorAfter_self haddr
    obtain ⟨n, rfl⟩ : ∃ m, n = m + 1 := ⟨n - 1, by simp only [List.length_cons] at hn; omega⟩
    have hcur' : s.dnsCursor = addr :: next :: rest := by
      rw [SocksSession.cursorAfter] at hself
      split at hself
      · next h => rw [h] at hcur; cases hcur
      · exact hself.symm
    rw [socksConnectRetry]
    refine does_connectAttempt hv ho hkey haddr ?_ ?_ ?_
    · intro env obs rep ha
      have hd : v.dial addr (next :: rest) = ⟨env, obs, addr, next :: rest, .error rep⟩ := by
        rw [View.dial, SocksProxy.dial, ha]
      have := hrefused rep (by rw [hd])
      rw [hd, View.tried] at this
      simpa only [hself, ← hv.sess] using this
    · intro env obs err ha
      rw [hcur']
      have hd : v.dial addr (next :: rest) =
          { SocksProxy.dial v.store.deniedAddresses.rules v.free next rest env with
            obs := obs ++ (SocksProxy.dial v.store.deniedAddresses.rules v.free next rest env).obs } := by
        rw [View.dial, SocksProxy.dial, ha]
      have hne : ∀ a l, ({ s with dnsCursor := next :: rest } : SocksSession).cursorAfter a l =
          s.cursorAfter a l := by
        intro a l
        rw [SocksSession.cursorAfter, SocksSession.cursorAfter, hcur', if_neg (by simp),
          if_neg (by simp)]
      refine ih (by simpa using hn) ⟨rfl, hv.client, hv.origin⟩ ho rfl rfl ?_ ?_
      · intro rep hrep
        have := hrefused rep (by rw [hd]; exact hrep)
        rw [hd] at this
        simp only [View.tried, hne, ← List.append_assoc] at this ⊢
        exact this
      · intro fd hok hfree hfd
        have := hconn fd (by rw [hd]; exact hok) hfree hfd
        rw [hd] at this
        simp only [View.dialled, View.tried, hne, ← List.append_assoc] at this ⊢
        exact this
    · intro env obs fd ha hfree hfd
      have hd : v.dial addr (next :: rest) = ⟨env, obs, addr, next :: rest, .ok fd⟩ := by
        rw [View.dial, SocksProxy.dial, ha]
      have := hconn fd (by rw [hd]) hfree hfd
      rw [hd, View.dialled, View.tried] at this
      simpa only [hself] using this

/-- **`socks_begin_origin_connect` dials.** -/
theorem does_beginOriginConnect {key : Key} (hkey : key.data = sid)
    {R : SocksState → View → Prop} (hv : v.Has s) (ho : s.originFd = none)
    (hnone : s.connectAddr = none →
      Does H sid (failDone key socksRepGeneralFailure) v R E)
    (hrefused : ∀ addr rep, s.connectAddr = some addr →
      (v.dial addr s.dnsCursor.tail).outcome = .error rep →
      Does H sid (failDone key rep) (v.tried s (v.dial addr s.dnsCursor.tail)) R E)
    (hconn : ∀ addr fd, s.connectAddr = some addr →
      (v.dial addr s.dnsCursor.tail).outcome = .ok fd → v.free fd = true → fd ∈ H →
      R .originConnecting (v.dialled s (v.dial addr s.dnsCursor.tail) fd)) :
    Does H sid (socksBeginOriginConnect key) v R E := by
  rw [socksBeginOriginConnect, hkey]
  refine does_bind (does_deref hv.sess ?_)
  cases haddr : s.connectAddr with
  | none =>
    have hbody : ∀ retry, Does H sid (socksConnectAttempt key retry) v R E := by
      intro retry
      rw [socksConnectAttempt, hkey]
      refine does_bind (does_deref hv.sess ?_)
      rw [haddr]
      exact hnone haddr
    cases s.dnsCursor.length with
    | zero => exact hbody _
    | succ n => exact hbody _
  | some addr =>
    refine does_connectRetry hkey s.dnsCursor.tail ?_ hv ho haddr rfl
      (fun rep => hrefused addr rep haddr) fun fd => hconn addr fd haddr
    rw [List.length_tail]
    omega

end Code

end SocksProxy
