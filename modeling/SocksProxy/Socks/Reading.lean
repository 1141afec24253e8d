import SocksProxy.Socks.Answer
import SocksProxy.Socks.Handshake

/-!
# The parsing states

What `socks_client_read` does with the bytes in `c2o` while the handshake lasts.  A turn of the
drain loop either leaves the request undecided (`Parsed`: the bytes still to come mean the same as
before) or decides it (`Decided`).  `View.refuses` says, from the bytes, the store and the answers
of the system alone, whether the request will be refused; a refusal whose reply hits a dead client
is the one way in which the drain loop touches a freed session.
-/

set_option autoImplicit false

namespace SocksProxy

variable [Inet]

/-! ## What will happen -/

/-- Whether a parsed request is refused. -/
def View.refusesRequest (v : View) (s : SocksSession) (p : RequestParser) : RequestStatus → Bool
  | .parsedFqdn =>
    isHostDenied v.store (requestFqdn p) || !v.env.alloc.headD true || !v.env.thread.headD true
  | .parsedAddr =>
    p.destAddr.any (addrDenied v.store.deniedAddresses.rules) ||
      v.dialRefuses (SocksSession.connectAddr { s with request := p, destAddr := p.destAddr })
        s.dnsCursor.tail
  | _ => true

/-- Whether the bytes in `c2o` hold a request that is refused. -/
def View.refuses (v : View) (s : SocksSession) : Bool :=
  match s.parse (socksAuthValidate · v.store) s.c2o.pending with
  | some (p, status, _) => v.refusesRequest s p status
  | none => false

/-! ## Undecided -/

/-- A turn that leaves the request undecided. -/
structure Parsed (v : View) (s : SocksSession) (v' : View) (s' : SocksSession) : Prop where
  steps : SessionSteps .plain v.toSlot v'.toSlot
  sess : v'.sess = some s'
  env : v'.env = v.env
  free : v'.free = v.free
  threads : v'.threads = v.threads
  settings : v'.store.settings = v.store.settings
  clientFd : s'.clientFd = s.clientFd
  cursor : s'.dnsCursor = s.dnsCursor
  state : stmState s' ≠ .relay ∧ stmState s' ≠ .resolving
  parse : ∀ valid, (∀ a, valid a = socksAuthValidate a v.store) →
    s'.parse valid s'.c2o.pending = s.parse valid s.c2o.pending
  le : s'.c2o.pending.length ≤ s.c2o.pending.length
  lt : s.c2o.pending ≠ [] → s'.c2o.pending.length < s.c2o.pending.length

section Facts

variable {v v' v'' : View} {s s' s'' : SocksSession}

omit [Inet] in
theorem socksAuthValidate_congr {st st' : MonitorStore} (h : st'.settings = st.settings)
    (a : AuthParser) : socksAuthValidate a st' = socksAuthValidate a st := by
  have hu : st'.users = st.users := congrArg StoreSettings.users h
  have hv : storeUserValidate st' = storeUserValidate st := by
    funext u p
    rw [storeUserValidate, storeUserValidate, hu]
  rw [socksAuthValidate, socksAuthValidate, hv]

omit [Inet] in
theorem connectAddr_congr (hc : s'.dnsCursor = s.dnsCursor) (p : RequestParser)
    (a : Option SockAddr) :
    SocksSession.connectAddr { s' with request := p, destAddr := a } =
      SocksSession.connectAddr { s with request := p, destAddr := a } := by
  simp only [SocksSession.connectAddr, hc]

theorem refusesRequest_congr (he : v'.env = v.env) (hf : v'.free = v.free)
    (hs : v'.store.settings = v.store.settings) (hc : s'.dnsCursor = s.dnsCursor)
    (p : RequestParser) (status : RequestStatus) :
    v'.refusesRequest s' p status = v.refusesRequest s p status := by
  have hh : v'.store.deniedHosts = v.store.deniedHosts := congrArg StoreSettings.deniedHosts hs
  have hd : v'.store.deniedAddresses = v.store.deniedAddresses :=
    congrArg StoreSettings.deniedAddresses hs
  cases status <;> simp only [View.refusesRequest]
  · rw [dialRefuses_congr he hf hs, connectAddr_congr hc, hc, hd]
  · rw [isHostDenied, isHostDenied, hh, he]

/-- What will happen to a request does not change while its bytes are read. -/
theorem Parsed.refuses_eq (h : Parsed v s v' s') : v'.refuses s' = v.refuses s := by
  have hv : (socksAuthValidate · v'.store) = (socksAuthValidate · v.store) :=
    funext fun a => socksAuthValidate_congr h.settings a
  rw [View.refuses, View.refuses, hv, h.parse _ fun _ => rfl]
  split
  · exact refusesRequest_congr h.env h.free h.settings h.cursor ..
  · rfl

theorem Parsed.writeAns_eq (h : Parsed v s v' s') : v'.writeAns = v.writeAns := by
  rw [View.writeAns, View.writeAns, h.env]

theorem Parsed.trans (h1 : Parsed v s v' s') (h2 : Parsed v' s' v'' s'') : Parsed v s v'' s'' where
  steps := h1.steps.trans h2.steps
  sess := h2.sess
  env := h2.env.trans h1.env
  free := h2.free.trans h1.free
  threads := h2.threads.trans h1.threads
  settings := h2.settings.trans h1.settings
  clientFd := h2.clientFd.trans h1.clientFd
  cursor := h2.cursor.trans h1.cursor
  state := h2.state
  parse := fun valid hvalid => by
    refine (h2.parse valid fun a => ?_).trans (h1.parse valid hvalid)
    rw [hvalid, socksAuthValidate_congr h1.settings]
  le := Nat.le_trans h2.le h1.le
  lt := fun hne => Nat.lt_of_le_of_lt h2.le (h1.lt hne)

end Facts

/-! ## The greeting -/

section Loops

variable {H : Set Fd} {sid : Sid} {E : Fault → Prop}

/-- What a parsing hook leaves behind, once its result is jumped to. -/
def Reads (v : View) (s : SocksSession) (ret : SocksState) (v' : View) : Prop :=
  ∃ s', v'.sess = some s' ∧ Parsed v s (v'.jumped s' ret) { s' with stm := some ret }

theorem Reads.of_parsed {v v₁ v' : View} {s s₁ : SocksSession} {ret : SocksState}
    (h1 : Parsed v s v₁ s₁) (h2 : Reads v₁ s₁ ret v') : Reads v s ret v' := by
  obtain ⟨s', hs', hp⟩ := h2
  exact ⟨s', hs', h1.trans hp⟩

/-- A hook that consumes nothing more. -/
theorem Reads.stay {v : View} {s : SocksSession} (hs : v.sess = some s)
    (hp : s.c2o.pending = []) (hst : stmState s ≠ .relay ∧ stmState s ≠ .resolving) :
    Reads v s (stmState s) v := by
  refine ⟨s, hs, ?_⟩
  exact {
    steps := .single (.booked hs rfl rfl (.inr rfl))
    sess := rfl, env := rfl, free := rfl, threads := rfl, settings := rfl, clientFd := rfl
    cursor := rfl
    state := hst
    parse := fun _ _ => parse_congr rfl rfl rfl rfl
    le := Nat.le_refl _
    lt := fun hne => absurd hp hne }

omit [Inet] in
/-- One byte is consumed. -/
theorem pending_readAdv_one {b : Buffer} {byte : UInt8} {rest : Bytes}
    (h : b.pending = byte :: rest) :
    (b.readAdv 1).pending = rest := by
  rw [Buffer.pending_readAdv, h, List.drop_one, List.tail_cons]

/-- One byte consumed by a parser. -/
theorem Parsed.of_step {v : View} {s s' : SocksSession} {hist : List Obs} (st : MonitorStore)
    (acts : List StoreAct) {byte : UInt8} {rest : Bytes} (hp : s.c2o.pending = byte :: rest)
    (hstep : SessionStep .plain v.toSlot { v.toSlot with sess := some s', hist := hist })
    (hset : st.settings = v.store.settings) (hc : s'.c2o = s.c2o.readAdv 1)
    (hfd : s'.clientFd = s.clientFd) (hcur : s'.dnsCursor = s.dnsCursor)
    (hst : stmState s' ≠ .relay ∧ stmState s' ≠ .resolving)
    (hparse : ∀ valid, (∀ a, valid a = socksAuthValidate a v.store) →
      s.parse valid (byte :: rest) = s'.parse valid rest) :
    Parsed v s { v with sess := some s', hist := hist, store := st, acts := acts } s' := by
  have hrest : s'.c2o.pending = rest := by rw [hc, pending_readAdv_one hp]
  exact {
    steps := .single hstep
    sess := rfl, env := rfl, free := rfl, threads := rfl, settings := hset, clientFd := hfd
    cursor := hcur
    state := hst
    parse := fun valid hvalid => by rw [hp, hrest, hparse valid hvalid]
    le := by rw [hp, hrest]; simp
    lt := fun _ => by rw [hp, hrest]; simp }

theorem does_greetingLoop {fd : Fd} {n : ℕ} {v : View} {s : SocksSession} (hok : v.toSlot.Ok)
    (hs : v.sess = some s) (hst : stmState s = .authGreeting) (hn : s.c2o.pending.length ≤ n) :
    Does H sid (greetingLoop ⟨fd, sid⟩ n) v (Reads v s) E := by
  induction n generalizing v s with
  | zero =>
    have hp : s.c2o.pending = [] := List.length_eq_zero_iff.1 (Nat.le_zero.1 hn)
    exact does_pure (hst ▸ Reads.stay hs hp (by simp [hst]))
  | succ n ih =>
    rw [greetingLoop]
    refine does_bind (does_deref hs ?_)
    cases hp : s.c2o.pending with
    | nil => exact does_pure (hst ▸ Reads.stay hs hp (by simp [hst]))
    | cons byte rest =>
      have hroom : 2 ≤ s.o2c.space := (hok.session s hs).room (by rw [hst]; rfl) (by omega)
      obtain ⟨p, status, hfeed⟩ : ∃ p status, greetingParserFeed s.greeting byte = (p, status) :=
        ⟨_, _, rfl⟩
      dsimp only
      rw [hfeed]
      refine does_bind (does_assign hs rfl rfl ?_)
      cases status with
      | needMore =>
        have hstep := Parsed.of_step v.store v.acts hp (.greetMore hs hst hp hfeed) rfl rfl rfl
          rfl (by show stmState s ≠ _ ∧ stmState s ≠ _; simp [hst])
          fun valid _ => parse_greetMore hst (by exact hst) rfl rfl rfl (by exact hfeed)
        refine (ih (hstep.steps.ok hok) rfl hst ?_).mono (fun ret v' h => .of_parsed hstep h)
          fun _ hf => hf
        exact Nat.le_of_lt_succ (Nat.lt_of_lt_of_le (hstep.lt (by simp [hp])) hn)
      | accept =>
        rw [appendOrClose]
        refine does_bind (does_o2cAppend rfl (by exact hroom) ?_)
        rw [if_pos rfl]
        refine does_bind (does_emit ?_)
        -- the store is told who the client is, which no parser looks at
        have hdone : ∀ (st : MonitorStore) (acts : List StoreAct), st.settings = v.store.settings →
            Reads v s (if p.chosenMethod = socksMethodUserpass then .authUserpass else .request)
              { v with
                sess := some { s with
                  greeting := p, c2o := s.c2o.readAdv 1
                  o2c := s.o2c.append [0x05, p.chosenMethod] }
                hist := v.hist ++ [.reply [0x05, p.chosenMethod]] ++ [.greeted p.chosenMethod]
                store := st, acts := acts } := by
          intro st acts hset
          rw [List.append_assoc]
          refine ⟨_, rfl, Parsed.of_step st acts hp (.greetAccept hs hst hp hfeed) hset rfl rfl rfl ?_
            fun valid _ => parse_greetAccept hst rfl rfl rfl hfeed⟩
          show (if p.chosenMethod = socksMethodUserpass then SocksState.authUserpass
            else .request) ≠ .relay ∧ (if p.chosenMethod = socksMethodUserpass
              then SocksState.authUserpass else .request) ≠ .resolving
          split <;> simp
        by_cases hm : p.chosenMethod = socksMethodUserpass
        · rw [if_pos hm] at hdone ⊢
          exact does_pure (hdone v.store v.acts rfl)
        · rw [if_neg hm] at hdone ⊢
          refine does_bind (does_onStore rfl (does_bind (does_onStore rfl ?_)))
          exact does_pure (hdone _ _ (by simp [StoreCall.apply]))
      | reject =>
        rw [appendOrClose]
        refine does_bind (does_o2cAppend rfl (by exact hroom) ?_)
        rw [if_pos rfl, refuse]
        refine does_bind (does_assign rfl rfl rfl (does_pure ⟨_, rfl, ?_⟩))
        refine Parsed.of_step v.store v.acts hp (.greetReject hs hst hp hfeed) rfl rfl rfl rfl
          (by simp [stmState]) fun valid _ => ?_
        rw [parse_greetReject hst hfeed, parse_eq_none] <;> simp [stmState]

theorem does_authLoop {fd : Fd} {n : ℕ} {v : View} {s : SocksSession} (hok : v.toSlot.Ok)
    (hs : v.sess = some s) (hst : stmState s = .authUserpass) (hn : s.c2o.pending.length ≤ n) :
    Does H sid (authLoop ⟨fd, sid⟩ n) v (Reads v s) E := by
  induction n generalizing v s with
  | zero =>
    have hp : s.c2o.pending = [] := List.length_eq_zero_iff.1 (Nat.le_zero.1 hn)
    exact does_pure (hst ▸ Reads.stay hs hp (by simp [hst]))
  | succ n ih =>
    rw [authLoop]
    refine does_bind (does_deref hs ?_)
    cases hp : s.c2o.pending with
    | nil => exact does_pure (hst ▸ Reads.stay hs hp (by simp [hst]))
    | cons byte rest =>
      have hroom : 2 ≤ s.o2c.space := (hok.session s hs).room (by rw [hst]; rfl) (by omega)
      obtain ⟨p, status, hfeed⟩ : ∃ p status, authParserFeed s.auth byte = (p, status) :=
        ⟨_, _, rfl⟩
      dsimp only
      rw [hfeed]
      refine does_bind (does_assign hs rfl rfl ?_)
      -- a malformed message and wrong credentials are answered alike
      have hreject : status ≠ .needMore →
          (∀ valid, (∀ a, valid a = socksAuthValidate a v.store) →
            s.parse valid (byte :: rest) = none) →
          Does H sid (appendOrClose ⟨fd, sid⟩ [0x01, 0x01] (refuse sid))
            { v with sess := some { s with auth := p, c2o := s.c2o.readAdv 1 } } (Reads v s) E := by
        intro hdone hnone
        rw [appendOrClose]
        refine does_bind (does_o2cAppend rfl (by exact hroom) ?_)
        rw [if_pos rfl, refuse]
        refine does_bind (does_assign rfl rfl rfl (does_pure ⟨_, rfl, ?_⟩))
        refine Parsed.of_step v.store v.acts hp (.authReject hs hst hp hfeed hdone) rfl rfl rfl rfl
          (by simp [stmState]) fun valid hvalid => ?_
        rw [hnone valid hvalid, parse_eq_none] <;> simp [stmState]
      cases status with
      | needMore =>
        have hstep := Parsed.of_step v.store v.acts hp (.authMore hs hst hp hfeed) rfl rfl rfl
          rfl (by show stmState s ≠ _ ∧ stmState s ≠ _; simp [hst])
          fun valid _ => parse_authMore hst (by exact hst) rfl rfl (by exact hfeed)
        refine (ih (hstep.steps.ok hok) rfl hst ?_).mono (fun ret v' h => .of_parsed hstep h)
          fun _ hf => hf
        exact Nat.le_of_lt_succ (Nat.lt_of_lt_of_le (hstep.lt (by simp [hp])) hn)
      | reject => exact hreject (by simp) fun valid _ => parse_authReject hst hfeed
      | parsed =>
        refine does_bind (does_srvStore ?_)
        by_cases hv : socksAuthValidate p v.store = true
        · rw [if_pos hv]
          refine does_bind (does_emit ?_)
          rw [socksAuthStoreUser, appendOrClose]
          have hdone : ∀ (st : MonitorStore) (acts : List StoreAct),
              st.settings = v.store.settings → Does H sid (do
                onStore (.setPhase s.storeId .auth)
                if ← socksO2cAppend sid [0x01, 0x00] then return .request
                else
                  selectorUnregisterFd fd
                  return .done)
                { v with
                  sess := some { s with auth := p, c2o := s.c2o.readAdv 1 }
                  hist := v.hist ++ [.validated p v.store]
                  store := st, acts := acts } (Reads v s) E := by
            intro st acts hset
            refine does_bind (does_onStore rfl (does_bind (does_o2cAppend rfl
              (by exact hroom) ?_)))
            rw [if_pos rfl, List.append_assoc]
            refine does_pure ⟨_, rfl, Parsed.of_step _ _ hp (.authAccept hs hst hp hfeed hv)
              ((settings_apply st rfl).trans hset) rfl rfl rfl (by simp [stmState])
              fun valid hvalid => ?_⟩
            exact parse_authAccept hst rfl rfl hfeed ((hvalid p).trans hv)
          simp only [bind_assoc]
          refine does_bind (does_deref rfl ?_)
          split
          · exact does_bind (does_onStore rfl (hdone _ _ (settings_apply v.store rfl)))
          · simp only [pure_bind]
            exact hdone _ _ rfl
        · rw [if_neg hv]
          refine hreject (by simp) fun valid hvalid => parse_authInvalid hst hfeed ?_
          rw [hvalid]
          simpa using hv

/-! ## The request -/

/-- What a request hook that has decided leaves of the session, once its result is jumped to. -/
structure Answered (sid : Sid) (v : View) (s : SocksSession) (v' : View) (s' : SocksSession) :
    Prop where
  steps : SessionSteps .plain v.toSlot v'.toSlot
  sess : v'.sess = some s'
  clientFd : s'.clientFd = s.clientFd
  state : stmState s' = .resolving ∨ stmState s' = .originConnecting ∨ stmState s' = .done
  threads : (stmState s' ≠ .resolving ∧ v'.threads = v.threads) ∨
    (stmState s' = .resolving ∧ s'.dnsResolving = true ∧
      ∃ host port, v'.threads = ⟨sid, s.clientFd, host, port⟩ :: v.threads)

/-- How the request hook ends once it has decided: the session lives on, unless the request was
refused and the client was gone. -/
def Decides (sid : Sid) (v : View) (s : SocksSession) (ret : SocksState) (v' : View) : Prop :=
  (∃ s', v'.sess = some s' ∧ Answered sid v s (v'.jumped s' ret) { s' with stm := some ret } ∧
    ¬ (v.refuses s = true ∧ v.writeAns = .error)) ∨
  (v'.sess = none ∧ v.refuses s = true ∧ v.writeAns = .error)

theorem Decides.of_parsed {v v₁ v' : View} {s s₁ : SocksSession} {ret : SocksState}
    (h1 : Parsed v s v₁ s₁) (h2 : Decides sid v₁ s₁ ret v') : Decides sid v s ret v' := by
  rw [Decides, h1.refuses_eq, h1.writeAns_eq] at h2
  rcases h2 with ⟨s', hs', ha, hn⟩ | h2
  · refine .inl ⟨s', hs', ⟨h1.steps.trans ha.steps, ha.sess, ha.clientFd.trans h1.clientFd, ha.state,
      ?_⟩, hn⟩
    have := ha.threads
    rwa [h1.threads, h1.clientFd] at this
  · exact .inr h2

theorem Decides.of_answers {v v' : View} {s : SocksSession} {ret : SocksState}
    (h : Answers v s (v.refuses s) ret v') : Decides sid v s ret v' := by
  rcases h with ⟨s', hs', hsteps, hfd, hret, hth, hn, -⟩ | h
  · refine .inl ⟨s', hs', ⟨hsteps, rfl, hfd, ?_, .inl ⟨?_, hth⟩⟩, hn⟩
    · exact .inr hret
    · rcases hret with rfl | rfl <;> simp [stmState]
  · exact .inr h

theorem does_requestDecided {fd : Fd} {v : View} {s : SocksSession} (hok : v.toSlot.Ok)
    (hs : v.sess = some s) (hst : stmState s = .request) {byte : UInt8} {rest : Bytes}
    (hp : s.c2o.pending = byte :: rest) {p : RequestParser} {status : RequestStatus}
    (hfeed : requestParserFeed s.request byte = (p, status)) (hmore : status ≠ .needMore) :
    Does H sid (requestDecided ⟨fd, sid⟩ s p status)
      { v with sess := some { s with request := p, c2o := s.c2o.readAdv 1 } } (Decides sid v s)
      E := by
  have hor : v.origin = none :=
    (hok.session s hs).origin.1 ((hok.session s hs).originFd_eq_none (by rw [hst]; rfl))
  have hdec := Deciding.request hst hp hfeed hmore
  have href : v.refuses s = v.refusesRequest s p status := by
    rw [View.refuses, hp, parse_requestDone hst hfeed hmore]
  have hfailed : ∀ {o : List Obs} {rep : UInt8} {v₁ : View} {s₂ : SocksSession},
      Answering v s o v₁ { s with request := p, c2o := s.c2o.readAdv 1 } s₂ → Refusal o rep →
      rep ≠ socksRepSucceeded → v.refusesRequest s p status = true →
      Does H sid (failDone ⟨fd, sid⟩ rep) v₁ (Decides sid v s) E := by
    intro obs rep v₁ s₂ h hobs hne hr
    refine (does_failDone h hobs hne).mono (fun ret v' ha => .of_answers ?_) fun _ hf => hf
    rwa [href, hr]
  -- the view in which the last byte is consumed
  have hbase : Answering v s []
      { v with sess := some { s with request := p, c2o := s.c2o.readAdv 1 } }
      { s with request := p, c2o := s.c2o.readAdv 1 }
      { s with request := p, c2o := s.c2o.readAdv 1 } :=
    ⟨hs, hok, hdec, rfl, rfl, hor, rfl, rfl, (List.append_nil _).symm, rfl, rfl, rfl⟩
  have hrep : status ≠ .parsedFqdn → status ≠ .parsedAddr →
      Does H sid (failDone ⟨fd, sid⟩ (socksRequestStatusToRep status))
        { v with sess := some { s with request := p, c2o := s.c2o.readAdv 1 } } (Decides sid v s)
        E := by
    intro h1 h2
    refine hfailed hbase (.nil _) ?_ ?_
    · cases status <;> first | contradiction | decide
    · cases status <;> first | contradiction | rfl
  cases status with
  | needMore => exact absurd rfl hmore
  | reject => exact hrep (by simp) (by simp)
  | rejectCmd => exact hrep (by simp) (by simp)
  | rejectAtyp => exact hrep (by simp) (by simp)
  | parsedFqdn =>
    rw [requestDecided]
    refine does_bind (does_srvStore ?_)
    by_cases hd : isHostDenied v.store (requestFqdn p) = true
    · rw [if_pos hd]
      exact hfailed hbase (.nil _) (by decide) (by simp [View.refusesRequest, hd])
    rw [if_neg hd]
    refine does_bind (does_onStore rfl ?_)
    rw [socksStartDnsResolve]
    refine does_bind (does_sysAlloc ?_)
    cases ha : v.env.alloc.headD true with
    | false =>
      rw [if_neg (by simp)]
      exact hfailed (o := []) ⟨hs, hok, hdec, rfl, rfl, hor, rfl, rfl, (List.append_nil _).symm,
        rfl, rfl, rfl⟩
        (.nil _) (by decide) (by rw [View.refusesRequest, ha]; simp)
    | true =>
      rw [if_pos rfl]
      refine does_bind (does_assign rfl rfl rfl (does_bind (does_deref rfl ?_)))
      refine does_bind (does_sysThread ?_)
      cases ht : v.env.thread.headD true with
      | false =>
        rw [if_neg (by simp)]
        exact hfailed (o := []) ⟨hs, hok, hdec, rfl, rfl, hor, rfl, rfl, (List.append_nil _).symm,
          rfl, rfl, rfl⟩
          (.nil _) (by decide) (by rw [View.refusesRequest, ht]; simp)
      | true =>
        rw [if_pos rfl]
        refine does_bind (does_emit (does_bind (does_startThread (does_pure ?_))))
        refine .inl ⟨_, rfl, ⟨.single (.lookup hs hst hp hfeed), rfl, rfl, .inl rfl,
          .inr ⟨rfl, rfl, _, _, rfl⟩⟩, ?_⟩
        rw [href, View.refusesRequest, ha, ht]
        simp [hd]
  | parsedAddr =>
    have hdial : ∀ {o : List Obs} {v₁ : View}, Answering v s o v₁
          { s with request := p, c2o := s.c2o.readAdv 1 }
          { s with request := p, c2o := s.c2o.readAdv 1, destAddr := p.destAddr } →
        Probes o → v₁.env = v.env → v₁.free = v.free →
        v₁.store.settings = v.store.settings →
        p.destAddr.any (addrDenied v.store.deniedAddresses.rules) = false →
        Does H sid (socksBeginOriginConnect ⟨fd, sid⟩) v₁ (Decides sid v s) E := by
      intro obs v₁ h hobs he hf hset hany
      refine (does_dialling h hobs).mono (fun ret v' ha => .of_answers ?_) fun _ hf => hf
      rw [dialRefuses_congr he hf hset] at ha
      rw [href, View.refusesRequest, hany, Bool.false_or]
      exact ha
    rw [requestDecided]
    cases hda : p.destAddr with
    | none =>
      refine does_bind (does_pure ?_)
      dsimp only
      rw [if_neg (by simp)]
      refine does_bind (does_onStore rfl (does_bind (does_assign rfl rfl rfl ?_)))
      refine hdial (o := []) ?_ .nil rfl rfl (settings_apply v.store rfl) (by rw [hda]; rfl)
      exact ⟨hs, hok, hdec, rfl, rfl, hor, rfl, rfl, (List.append_nil _).symm, rfl, rfl, rfl⟩
    | some addr =>
      refine does_bind (does_checkDestAddr ?_)
      dsimp only
      by_cases hd : addrDenied v.store.deniedAddresses.rules addr = true
      · rw [if_pos hd]
        refine hfailed (o := [.attempt addr v.store.deniedAddresses.rules])
          ⟨hs, hok, hdec, rfl, rfl, hor, rfl, rfl, rfl, rfl, rfl, rfl⟩
          (.inr ⟨rfl, [], addr, _, rfl, hd, .nil⟩) (by decide) ?_
        rw [View.refusesRequest, hda]
        simp [hd]
      · rw [if_neg hd]
        refine does_bind (does_onStore rfl (does_bind (does_assign rfl rfl rfl ?_)))
        refine hdial (o := [.attempt addr v.store.deniedAddresses.rules]) ?_
          (.attempt (by simpa using hd)) rfl rfl (settings_apply v.store rfl)
          (by rw [hda]; simpa using hd)
        exact ⟨hs, hok, hdec, rfl, rfl, hor, rfl, rfl, rfl, rfl, rfl, rfl⟩

theorem does_requestLoop {fd : Fd} {n : ℕ} {v : View} {s : SocksSession} (hok : v.toSlot.Ok)
    (hs : v.sess = some s) (hst : stmState s = .request) (hn : s.c2o.pending.length ≤ n) :
    Does H sid (requestLoop ⟨fd, sid⟩ n) v
      (fun ret v' => Reads v s ret v' ∨ Decides sid v s ret v') E := by
  induction n generalizing v s with
  | zero =>
    have hp : s.c2o.pending = [] := List.length_eq_zero_iff.1 (Nat.le_zero.1 hn)
    exact does_pure (.inl (hst ▸ Reads.stay hs hp (by simp [hst])))
  | succ n ih =>
    rw [requestLoop]
    refine does_bind (does_deref hs ?_)
    cases hp : s.c2o.pending with
    | nil => exact does_pure (.inl (hst ▸ Reads.stay hs hp (by simp [hst])))
    | cons byte rest =>
      obtain ⟨p, status, hfeed⟩ : ∃ p status, requestParserFeed s.request byte = (p, status) :=
        ⟨_, _, rfl⟩
      dsimp only
      rw [hfeed]
      refine does_bind (does_assign hs rfl rfl ?_)
      by_cases hmore : status = .needMore
      · subst hmore
        have hstep := Parsed.of_step v.store v.acts hp (.requestMore hs hst hp hfeed) rfl rfl rfl
          rfl (by show stmState s ≠ _ ∧ stmState s ≠ _; simp [hst])
          fun valid _ => parse_requestMore hst (by exact hst) rfl (by exact hfeed)
        refine (ih (hstep.steps.ok hok) rfl hst ?_).mono (fun ret v' h => ?_) fun _ hf => hf
        · exact Nat.le_of_lt_succ (Nat.lt_of_lt_of_le (hstep.lt (by simp [hp])) hn)
        · exact h.imp (.of_parsed hstep) (.of_parsed hstep)
      · split
        · contradiction
        · exact (does_requestDecided hok hs hst hp hfeed hmore).mono (fun _ _ h => .inr h)
            fun _ hf => hf

/-! ## The drain loop -/

/-- The fault of a callback that refuses a request while the client is gone. -/
def RefusalFault (v : View) (s : SocksSession) (f : Fault) : Prop :=
  f = .useAfterFree ∧ v.refuses s = true ∧ v.writeAns = .error

/-- The view after `handle_first`. -/
def View.first (v : View) (s : SocksSession) : View := v.jumped s (stmState s)

/-- The session after `handle_first`. -/
def SocksSession.first (s : SocksSession) : SocksSession := { s with stm := some (stmState s) }

omit [Inet] in
theorem parse_first (valid : AuthParser → Bool) (s : SocksSession) (bs : Bytes) :
    s.first.parse valid bs = s.parse valid bs := parse_congr rfl rfl rfl rfl

theorem refuses_first (v : View) (s : SocksSession) :
    (v.first s).refuses s.first = v.refuses s := by
  rw [View.refuses, View.refuses]
  have : s.first.parse (socksAuthValidate · (v.first s).store) s.first.c2o.pending =
    s.parse (socksAuthValidate · v.store) s.c2o.pending := parse_first ..
  rw [this]
  split
  · exact refusesRequest_congr rfl rfl rfl rfl ..
  · rfl

theorem step_first {v : View} {s : SocksSession} (hs : v.sess = some s) :
    SessionStep .plain v.toSlot (v.first s).toSlot := .booked hs rfl rfl (.inr rfl)

theorem Parsed.of_first {v v' : View} {s s' : SocksSession} (hs : v.sess = some s)
    (h : Parsed (v.first s) s.first v' s') : Parsed v s v' s' :=
  { h with
    steps := .head (step_first hs) h.steps
    parse := fun valid hvalid => (h.parse valid hvalid).trans (parse_first ..) }

theorem Answered.of_first {v v' : View} {s s' : SocksSession} (hs : v.sess = some s)
    (h : Answered sid (v.first s) s.first v' s') : Answered sid v s v' s' :=
  { h with steps := .head (step_first hs) h.steps }

/-- One turn of the drain loop. -/
theorem does_stmHandlerRead {fd : Fd} {v : View} {s : SocksSession} (hok : v.toSlot.Ok)
    (hs : v.sess = some s)
    (hst : stmState s = .authGreeting ∨ stmState s = .authUserpass ∨ stmState s = .request) :
    Does H sid (stmHandlerRead ⟨fd, sid⟩) v
      (fun _ v' => (∃ s', Parsed v s v' s') ∨
        ∃ s', Answered sid v s v' s' ∧ ¬ (v.refuses s = true ∧ v.writeAns = .error))
      (RefusalFault v s) := by
  rw [stmHandlerRead, handleFirst]
  refine does_bind (does_assign hs rfl rfl (does_bind (does_deref rfl ?_)))
  have hok' : (v.first s).toSlot.Ok := (step_first hs).ok hok
  have hhook : ∀ p : SocksM SocksState,
      Does H sid p (v.first s)
        (fun ret v' => Reads (v.first s) s.first ret v' ∨ Decides sid (v.first s) s.first ret v')
        (RefusalFault v s) →
      Does H sid (do let ret ← p; jump sid ret) (v.first s)
        (fun _ v' => (∃ s', Parsed v s v' s') ∨
          ∃ s', Answered sid v s v' s' ∧ ¬ (v.refuses s = true ∧ v.writeAns = .error))
        (RefusalFault v s) := by
    intro p hp
    refine does_bind (hp.mono (fun ret v' h => ?_) fun _ hf => hf)
    rw [Decides, refuses_first] at h
    rcases h with ⟨s', hs', h⟩ | ⟨s', hs', h, hn⟩ | ⟨hn, hc⟩
    · exact does_assign hs' rfl rfl (.inl ⟨_, .of_first hs h⟩)
    · exact does_assign hs' rfl rfl (.inr ⟨_, .of_first hs h, hn⟩)
    · exact does_assign_freed hn ⟨rfl, hc⟩
  rcases hst with hst | hst | hst
  · have hst' : stmState { s with stm := some (stmState s) } = .authGreeting := hst
    rw [hst']
    refine hhook _ (does_bind (does_deref rfl ?_))
    exact (does_greetingLoop hok' rfl hst' (Nat.le_refl _)).mono (fun _ _ h => .inl h)
      fun _ hf => hf
  · have hst' : stmState { s with stm := some (stmState s) } = .authUserpass := hst
    rw [hst']
    refine hhook _ (does_bind (does_deref rfl ?_))
    exact (does_authLoop hok' rfl hst' (Nat.le_refl _)).mono (fun _ _ h => .inl h)
      fun _ hf => hf
  · have hst' : stmState { s with stm := some (stmState s) } = .request := hst
    rw [hst']
    refine hhook _ (does_bind (does_deref rfl ?_))
    exact does_requestLoop hok' rfl hst' (Nat.le_refl _)

/-- What the drain loop leaves of a session. -/
structure Drained (sid : Sid) (v : View) (s : SocksSession) (v' : View) (s' : SocksSession) :
    Prop where
  steps : SessionSteps .plain v.toSlot v'.toSlot
  sess : v'.sess = some s'
  clientFd : s'.clientFd = s.clientFd
  notRelay : stmState s' ≠ .relay
  threads : (stmState s' ≠ .resolving ∧ v'.threads = v.threads) ∨
    (stmState s' = .resolving ∧ s'.dnsResolving = true ∧
      ∃ host port, v'.threads = ⟨sid, s.clientFd, host, port⟩ :: v.threads)

theorem does_drainLoop {fd : Fd} {n : ℕ} {v : View} {s : SocksSession} (hok : v.toSlot.Ok)
    (hs : v.sess = some s) (hn : s.c2o.pending.length ≤ n) (hrel : stmState s ≠ .relay)
    (hres : stmState s ≠ .resolving) :
    Does H sid (drainLoop ⟨fd, sid⟩ n) v
      (fun _ v' => (∃ s', Drained sid v s v' s') ∧ ¬ (v.refuses s = true ∧ v.writeAns = .error))
      (RefusalFault v s) := by
  have hstop : s.parse (socksAuthValidate · v.store) s.c2o.pending = none →
      (∃ s', Drained sid v s v s') ∧ ¬ (v.refuses s = true ∧ v.writeAns = .error) := by
    intro hnone
    refine ⟨⟨s, .refl, hs, rfl, hrel, .inl ⟨hres, rfl⟩⟩, ?_⟩
    rw [View.refuses, hnone]
    simp
  induction n generalizing v s with
  | zero =>
    have hp : s.c2o.pending = [] := List.length_eq_zero_iff.1 (Nat.le_zero.1 hn)
    exact does_pure (hstop (by rw [hp, parse_nil]))
  | succ n ih =>
    rw [drainLoop]
    refine does_bind (does_deref hs ?_)
    by_cases hc : s.c2o.canRead = true ∧ (stmState s = .authGreeting ∨ stmState s = .authUserpass ∨
        stmState s = .request)
    · rw [if_pos hc]
      refine does_bind ((does_stmHandlerRead hok hs hc.2).mono (fun _ v' h => ?_) fun _ hf => hf)
      rcases h with ⟨s', hp⟩ | ⟨s', ha, hne⟩
      · have hlt := hp.lt ((Buffer.canRead_iff _).1 hc.1)
        have hstop' : s'.parse (socksAuthValidate · v'.store) s'.c2o.pending = none →
            (∃ s'', Drained sid v' s' v' s'') ∧
              ¬ (v'.refuses s' = true ∧ v'.writeAns = .error) := by
          intro hnone
          refine ⟨⟨s', .refl, hp.sess, rfl, hp.state.1, .inl ⟨hp.state.2, rfl⟩⟩, ?_⟩
          rw [View.refuses, hnone]
          simp
        refine (ih (hp.steps.ok hok) hp.sess (by omega) hp.state.1 hp.state.2 hstop').mono
          (fun _ v'' h => ?_) (fun f hf => ?_)
        · obtain ⟨⟨s'', hd⟩, hne⟩ := h
          rw [hp.refuses_eq, hp.writeAns_eq] at hne
          refine ⟨⟨s'', hp.steps.trans hd.steps, hd.sess, hd.clientFd.trans hp.clientFd,
            hd.notRelay, ?_⟩, hne⟩
          have := hd.threads
          rwa [hp.threads, hp.clientFd] at this
        · rw [RefusalFault, hp.refuses_eq, hp.writeAns_eq] at hf
          exact hf
      · have hpast : stmState s' ≠ .relay ∧ stmState s' ≠ .authGreeting ∧
            stmState s' ≠ .authUserpass ∧ stmState s' ≠ .request := by
          rcases ha.state with h | h | h <;> simp [h]
        have hd : Drained sid v s v' s' := ⟨ha.steps, ha.sess, ha.clientFd, hpast.1, ha.threads⟩
        cases n with
        | zero => exact does_pure ⟨⟨s', hd⟩, hne⟩
        | succ n =>
          rw [drainLoop]
          refine does_bind (does_deref ha.sess ?_)
          rw [if_neg]
          · exact does_pure ⟨⟨s', hd⟩, hne⟩
          · rintro ⟨-, h | h | h⟩
            · exact hpast.2.1 h
            · exact hpast.2.2.1 h
            · exact hpast.2.2.2 h
    · rw [if_neg hc]
      refine does_pure (hstop ?_)
      by_cases hr : s.c2o.canRead = true
      · have := not_and.1 hc hr
        rw [not_or, not_or] at this
        exact parse_eq_none this.1 this.2.1 this.2.2
      · rw [Bool.not_eq_true, Buffer.canRead_eq_false_iff] at hr
        rw [hr, parse_nil]

/-- Past the handshake there is nothing to drain. -/
theorem does_drainLoop_past {fd : Fd} {n : ℕ} {v : View} {s : SocksSession}
    (hs : v.sess = some s) (h1 : stmState s ≠ .authGreeting) (h2 : stmState s ≠ .authUserpass)
    (h3 : stmState s ≠ .request) {R : Unit → View → Prop} (h : R () v) :
    Does H sid (drainLoop ⟨fd, sid⟩ n) v R E := by
  cases n with
  | zero => exact does_pure h
  | succ n =>
    rw [drainLoop]
    refine does_bind (does_deref hs ?_)
    rw [if_neg]
    · exact does_pure h
    · rintro ⟨-, h | h | h⟩ <;> contradiction

end Loops

end SocksProxy
