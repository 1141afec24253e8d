import SocksProxy.Socks.Callbacks

/-!
# The parsing hooks, exactly

`Reading.lean` says what the parsing hooks keep; this file says what they do.  `Greets`, `Auths` and
`Requests` are the loops of `socks_on_read_greeting`, `socks_on_read_auth` and
`socks_on_read_request` as relations between views, one constructor for each way out, with the exact
session, history and store that each leaves.  `Dials` and `Responds` do the same for
`socks_begin_origin_connect` and for the decision on a parsed request, and `Turns` and `Drains` for
`stm_handler_read` and the drain loop of `socks_client_read`.

Whatever has to be known about the handshake follows from these relations by induction, without
running the programs again.
-/

set_option autoImplicit false

namespace SocksProxy

variable [Inet]

/-! ## What the hooks leave -/

/-- The view with another session in the place of its own. -/
def View.put (v : View) (s : SocksSession) : View := { v with sess := some s }

/-- The session once a byte of the greeting is consumed. -/
def SocksSession.fedGreeting (s : SocksSession) (p : GreetingParser) : SocksSession :=
  { s with greeting := p, c2o := s.c2o.readAdv 1 }

/-- The session once a byte of the authentication is consumed. -/
def SocksSession.fedAuth (s : SocksSession) (p : AuthParser) : SocksSession :=
  { s with auth := p, c2o := s.c2o.readAdv 1 }

/-- The session once a byte of the request is consumed. -/
def SocksSession.fedRequest (s : SocksSession) (p : RequestParser) : SocksSession :=
  { s with request := p, c2o := s.c2o.readAdv 1 }

/-- The session with a reply appended. -/
def SocksSession.told (s : SocksSession) (data : Bytes) : SocksSession :=
  { s with o2c := s.o2c.append data }

/-- The session that is closed once its reply is out. -/
def SocksSession.dismissed (s : SocksSession) (data : Bytes) : SocksSession :=
  { s.told data with closeAfterFlush := true }

/-- What an anonymous client leaves in the store. -/
def anonStore (s : SocksSession) (st : MonitorStore) : MonitorStore :=
  storeSessionSetPhase (storeSessionSetUser st s.storeId anonName) s.storeId .auth

/-- The calls an anonymous client causes. -/
def anonActs (s : SocksSession) : List StoreAct :=
  [.call (.setUser s.storeId anonName), .call (.setPhase s.storeId .auth)]

/-- What a client with these credentials leaves in the store. -/
def authStore (s : SocksSession) (p : AuthParser) (st : MonitorStore) : MonitorStore :=
  storeSessionSetPhase
    (if s.storeId ≠ storeSessionInvalid ∧ p.unameLen ≠ 0 then
      storeSessionSetUser st s.storeId (cstr (authUsername p)) else st) s.storeId .auth

/-- The calls a client with these credentials causes. -/
def authActs (s : SocksSession) (p : AuthParser) : List StoreAct :=
  (if s.storeId ≠ storeSessionInvalid ∧ p.unameLen ≠ 0 then
    [.call (.setUser s.storeId (cstr (authUsername p)))] else []) ++
    [.call (.setPhase s.storeId .auth)]

omit [Inet] in
@[simp] theorem settings_anonStore (s : SocksSession) (st : MonitorStore) :
    (anonStore s st).settings = st.settings := by
  rw [anonStore, settings_storeSessionSetPhase, settings_storeSessionSetUser]

omit [Inet] in
@[simp] theorem settings_authStore (s : SocksSession) (p : AuthParser) (st : MonitorStore) :
    (authStore s p st).settings = st.settings := by
  rw [authStore, settings_storeSessionSetPhase]
  split
  · rw [settings_storeSessionSetUser]
  · rfl

/-! ## The hooks -/

/-- The loop of `socks_on_read_greeting`. -/
inductive Greets : View → SocksSession → SocksState → View → Prop
  | stay {v : View} {s : SocksSession} (drained : s.c2o.pending = []) :
      Greets v s .authGreeting v
  | more {v v' : View} {s : SocksSession} {byte : UInt8} {rest : Bytes} {p : GreetingParser}
      {ret : SocksState} (pending : s.c2o.pending = byte :: rest)
      (feed : greetingParserFeed s.greeting byte = (p, .needMore))
      (next : Greets (v.put (s.fedGreeting p)) (s.fedGreeting p) ret v') : Greets v s ret v'
  | userpass {v : View} {s : SocksSession} {byte : UInt8} {rest : Bytes} {p : GreetingParser}
      (pending : s.c2o.pending = byte :: rest)
      (feed : greetingParserFeed s.greeting byte = (p, .accept))
      (method : p.chosenMethod = socksMethodUserpass) :
      Greets v s .authUserpass { v with
        sess := some ((s.fedGreeting p).told [0x05, p.chosenMethod])
        hist := v.hist ++ [.reply [0x05, p.chosenMethod], .greeted p.chosenMethod] }
  | noauth {v : View} {s : SocksSession} {byte : UInt8} {rest : Bytes} {p : GreetingParser}
      (pending : s.c2o.pending = byte :: rest)
      (feed : greetingParserFeed s.greeting byte = (p, .accept))
      (method : p.chosenMethod ≠ socksMethodUserpass) :
      Greets v s .request { v with
        sess := some ((s.fedGreeting p).told [0x05, p.chosenMethod])
        hist := v.hist ++ [.reply [0x05, p.chosenMethod], .greeted p.chosenMethod]
        store := anonStore s v.store
        acts := v.acts ++ anonActs s }
  | reject {v : View} {s : SocksSession} {byte : UInt8} {rest : Bytes} {p : GreetingParser}
      (pending : s.c2o.pending = byte :: rest)
      (feed : greetingParserFeed s.greeting byte = (p, .reject)) :
      Greets v s .done { v with
        sess := some ((s.fedGreeting p).dismissed [0x05, 0xFF])
        hist := v.hist ++ [.reply [0x05, 0xFF]] }

/-- The loop of `socks_on_read_auth`. -/
inductive Auths : View → SocksSession → SocksState → View → Prop
  | stay {v : View} {s : SocksSession} (drained : s.c2o.pending = []) :
      Auths v s .authUserpass v
  | more {v v' : View} {s : SocksSession} {byte : UInt8} {rest : Bytes} {p : AuthParser}
      {ret : SocksState} (pending : s.c2o.pending = byte :: rest)
      (feed : authParserFeed s.auth byte = (p, .needMore))
      (next : Auths (v.put (s.fedAuth p)) (s.fedAuth p) ret v') : Auths v s ret v'
  | accept {v : View} {s : SocksSession} {byte : UInt8} {rest : Bytes} {p : AuthParser}
      (pending : s.c2o.pending = byte :: rest) (feed : authParserFeed s.auth byte = (p, .parsed))
      (valid : socksAuthValidate p v.store = true) :
      Auths v s .request { v with
        sess := some ((s.fedAuth p).told [0x01, 0x00])
        hist := v.hist ++ [.validated p v.store, .reply [0x01, 0x00]]
        store := authStore s p v.store
        acts := v.acts ++ authActs s p }
  | reject {v : View} {s : SocksSession} {byte : UInt8} {rest : Bytes} {p : AuthParser}
      {status : AuthStatus} (pending : s.c2o.pending = byte :: rest)
      (feed : authParserFeed s.auth byte = (p, status))
      (bad : status = .reject ∨ status = .parsed ∧ socksAuthValidate p v.store = false) :
      Auths v s .done { v with
        sess := some ((s.fedAuth p).dismissed [0x01, 0x01])
        hist := v.hist ++ [.reply [0x01, 0x01]] }

/-- The session once dialling is over. -/
def SocksSession.tried (s : SocksSession) (d : Dialled) : SocksSession :=
  { s with dnsCursor := s.cursorAfter d.addr d.others }

/-- `socks_begin_origin_connect`. -/
inductive Dials (v : View) (s : SocksSession) : SocksState → View → Prop
  | nowhere {v' : View} (addr_eq : s.connectAddr = none)
      (failed : Failed v s socksRepGeneralFailure v') : Dials v s .done v'
  | refused {v' : View} {addr : SockAddr} {rep : UInt8} (addr_eq : s.connectAddr = some addr)
      (outcome : (v.dial addr s.dnsCursor.tail).outcome = .error rep)
      (failed : Failed (v.tried s (v.dial addr s.dnsCursor.tail))
        (s.tried (v.dial addr s.dnsCursor.tail)) rep v') : Dials v s .done v'
  | underway {addr : SockAddr} {fd : Fd} (addr_eq : s.connectAddr = some addr)
      (outcome : (v.dial addr s.dnsCursor.tail).outcome = .ok fd) :
      Dials v s .originConnecting (v.dialled s (v.dial addr s.dnsCursor.tail) fd)

/-- The session that waits for a resolution. -/
def SocksSession.lookingUp (s : SocksSession) : SocksSession :=
  { s with dnsResolving := true, dnsGaiRc := .ok, dnsResult := [], dnsCursor := [] }

/-- The view once memory for a resolution was asked for. -/
def View.allocated (v : View) (s : SocksSession) : View :=
  { v with
    store := storeSessionSetPhase v.store s.storeId .connecting
    acts := v.acts ++ [.call (.setPhase s.storeId .connecting)]
    env := { v.env with alloc := v.env.alloc.tail } }

/-- The view once a thread for a resolution was asked for. -/
def View.spawned (v : View) (s : SocksSession) : View :=
  { v with
    sess := some s.lookingUp
    store := storeSessionSetPhase v.store s.storeId .connecting
    acts := v.acts ++ [.call (.setPhase s.storeId .connecting)]
    env := { v.env with alloc := v.env.alloc.tail, thread := v.env.thread.tail } }

/-- The deny list is asked about the address of the request. -/
def View.checked (v : View) (s : SocksSession) : View :=
  { v with
    hist := v.hist ++
      s.request.destAddr.toList.map (Obs.attempt · v.store.deniedAddresses.rules) }

/-- The view from which the address of the request is dialled. -/
def View.heading (v : View) (s : SocksSession) : View :=
  { v.checked s with
    sess := some { s with destAddr := s.request.destAddr }
    store := storeSessionSetPhase v.store s.storeId .connecting
    acts := v.acts ++ [.call (.setPhase s.storeId .connecting)] }

/-- What follows the last byte of a request, `status` being what the parser returned for it. -/
inductive Responds (v : View) (s : SocksSession) : RequestStatus → SocksState → View → Prop
  | malformed {status : RequestStatus} {v' : View} (fqdn : status ≠ .parsedFqdn)
      (addr : status ≠ .parsedAddr) (failed : Failed v s (socksRequestStatusToRep status) v') :
      Responds v s status .done v'
  | deniedHost {v' : View} (denied : isHostDenied v.store (requestFqdn s.request) = true)
      (failed : Failed v s socksRepDeniedByRuleset v') : Responds v s .parsedFqdn .done v'
  | noMemory {v' : View} (allowed : isHostDenied v.store (requestFqdn s.request) = false)
      (alloc : v.env.alloc.headD true = false)
      (failed : Failed (v.allocated s) s socksRepGeneralFailure v') :
      Responds v s .parsedFqdn .done v'
  | noThread {v' : View} (allowed : isHostDenied v.store (requestFqdn s.request) = false)
      (alloc : v.env.alloc.headD true = true) (thread : v.env.thread.headD true = false)
      (failed : Failed (v.spawned s) s.lookingUp socksRepGeneralFailure v') :
      Responds v s .parsedFqdn .done v'
  | lookup {sid : Sid} (allowed : isHostDenied v.store (requestFqdn s.request) = false)
      (alloc : v.env.alloc.headD true = true) (thread : v.env.thread.headD true = true) :
      Responds v s .parsedFqdn .resolving { v.spawned s with
        hist := v.hist ++ [.lookup (requestFqdn s.request)]
        threads := ⟨sid, s.clientFd, requestFqdn s.request, s.request.destPort⟩ :: v.threads }
  | deniedAddr {v' : View} (denied :
      s.request.destAddr.any (addrDenied v.store.deniedAddresses.rules) = true)
      (failed : Failed (v.checked s) s socksRepDeniedByRuleset v') : Responds v s .parsedAddr .done v'
  | dials {ret : SocksState} {v' : View} (allowed :
      s.request.destAddr.any (addrDenied v.store.deniedAddresses.rules) = false)
      (dials : Dials (v.heading s) { s with destAddr := s.request.destAddr } ret v') :
      Responds v s .parsedAddr ret v'

/-- The loop of `socks_on_read_request`. -/
inductive Requests : View → SocksSession → SocksState → View → Prop
  | stay {v : View} {s : SocksSession} (drained : s.c2o.pending = []) : Requests v s .request v
  | more {v v' : View} {s : SocksSession} {byte : UInt8} {rest : Bytes} {p : RequestParser}
      {ret : SocksState} (pending : s.c2o.pending = byte :: rest)
      (feed : requestParserFeed s.request byte = (p, .needMore))
      (next : Requests (v.put (s.fedRequest p)) (s.fedRequest p) ret v') : Requests v s ret v'
  | decided {v v' : View} {s : SocksSession} {byte : UInt8} {rest : Bytes} {p : RequestParser}
      {status : RequestStatus} {ret : SocksState} (pending : s.c2o.pending = byte :: rest)
      (feed : requestParserFeed s.request byte = (p, status)) (done : status ≠ .needMore)
      (responds : Responds (v.put (s.fedRequest p)) (s.fedRequest p) status ret v') :
      Requests v s ret v'

/-- `stm_handler_read` in a parsing state, when the session is still there after the hook. -/
inductive Turns (v : View) (s : SocksSession) : View → SocksSession → Prop
  | greeting {ret : SocksState} {v₁ : View} {s₁ : SocksSession} (st : stmState s = .authGreeting)
      (hook : Greets (v.first s) s.first ret v₁) (sess : v₁.sess = some s₁) :
      Turns v s (v₁.jumped s₁ ret) { s₁ with stm := some ret }
  | auth {ret : SocksState} {v₁ : View} {s₁ : SocksSession} (st : stmState s = .authUserpass)
      (hook : Auths (v.first s) s.first ret v₁) (sess : v₁.sess = some s₁) :
      Turns v s (v₁.jumped s₁ ret) { s₁ with stm := some ret }
  | request {ret : SocksState} {v₁ : View} {s₁ : SocksSession} (st : stmState s = .request)
      (hook : Requests (v.first s) s.first ret v₁) (sess : v₁.sess = some s₁) :
      Turns v s (v₁.jumped s₁ ret) { s₁ with stm := some ret }

/-- Whether a session is in a phase that parses. -/
def SocksSession.Parsing (s : SocksSession) : Prop :=
  stmState s = .authGreeting ∨ stmState s = .authUserpass ∨ stmState s = .request

instance (s : SocksSession) : Decidable s.Parsing := inferInstanceAs (Decidable (_ ∨ _))

/-- The drain loop of `socks_client_read`. -/
inductive Drains : View → SocksSession → View → SocksSession → Prop
  | stop {v : View} {s : SocksSession} (sess : v.sess = some s)
      (halted : ¬ (s.c2o.canRead = true ∧ s.Parsing)) : Drains v s v s
  | turn {v v₁ v' : View} {s s₁ s' : SocksSession} (parsing : s.c2o.canRead = true ∧ s.Parsing)
      (turn : Turns v s v₁ s₁) (next : Drains v₁ s₁ v' s') : Drains v s v' s'

/-! ## The code does this -/

section Code

variable {H : Set Fd} {sid : Sid} {E : Fault → Prop} {v : View} {s : SocksSession}

omit [Inet] in
/-- A reply that finds room, and what follows it. -/
theorem does_appendOrClose (hs : v.sess = some s) {fd : Fd} {data : Bytes}
    (hroom : data.length ≤ s.o2c.space) {next : SocksM SocksState}
    {R : SocksState → View → Prop}
    (h : Does H sid next
      { v with sess := some (s.told data), hist := v.hist ++ [.reply data] } R E) :
    Does H sid (appendOrClose ⟨fd, sid⟩ data next) v R E := by
  rw [appendOrClose]
  refine does_bind (does_o2cAppend hs hroom ?_)
  rw [if_pos rfl]
  exact h

theorem does_greets {fd : Fd} {n : ℕ} (hok : v.toSlot.Ok) (hs : v.sess = some s)
    (hst : stmState s = .authGreeting) (hn : s.c2o.pending.length ≤ n) :
    Does H sid (greetingLoop ⟨fd, sid⟩ n) v (Greets v s) E := by
  induction n generalizing v s with
  | zero =>
    exact does_pure (.stay (List.length_eq_zero_iff.1 (Nat.le_zero.1 hn)))
  | succ n ih =>
    rw [greetingLoop]
    refine does_bind (does_deref hs ?_)
    cases hp : s.c2o.pending with
    | nil => exact does_pure (.stay hp)
    | cons byte rest =>
      have hroom : 2 ≤ s.o2c.space := (hok.session s hs).room (by rw [hst]; rfl) (by omega)
      obtain ⟨p, status, hfeed⟩ : ∃ p status, greetingParserFeed s.greeting byte = (p, status) :=
        ⟨_, _, rfl⟩
      dsimp only
      rw [hfeed]
      refine does_bind (does_assign hs rfl rfl ?_)
      cases status with
      | needMore =>
        have hstep : SessionStep .plain v.toSlot (v.put (s.fedGreeting p)).toSlot :=
          .greetMore hs hst hp hfeed
        have hrest : (s.fedGreeting p).c2o.pending = rest := pending_readAdv_one hp
        refine (ih (hstep.ok hok) rfl hst ?_).mono (fun ret v' h => .more hp hfeed h) fun _ hf => hf
        rw [hp, List.length_cons] at hn
        rw [hrest]
        omega
      | accept =>
        refine does_appendOrClose rfl (by exact hroom) (does_bind (does_emit ?_))
        rw [List.append_assoc]
        by_cases hm : p.chosenMethod = socksMethodUserpass
        · rw [if_pos hm]
          exact does_pure (.userpass hp hfeed hm)
        · rw [if_neg hm]
          refine does_bind (does_onStore rfl (does_bind (does_onStore rfl ?_)))
          rw [List.append_assoc]
          exact does_pure (.noauth hp hfeed hm)
      | reject =>
        refine does_appendOrClose rfl (by exact hroom) ?_
        rw [refuse]
        exact does_bind (does_assign rfl rfl rfl (does_pure (.reject hp hfeed)))

theorem does_auths {fd : Fd} {n : ℕ} (hok : v.toSlot.Ok) (hs : v.sess = some s)
    (hst : stmState s = .authUserpass) (hn : s.c2o.pending.length ≤ n) :
    Does H sid (authLoop ⟨fd, sid⟩ n) v (Auths v s) E := by
  induction n generalizing v s with
  | zero =>
    exact does_pure (.stay (List.length_eq_zero_iff.1 (Nat.le_zero.1 hn)))
  | succ n ih =>
    rw [authLoop]
    refine does_bind (does_deref hs ?_)
    cases hp : s.c2o.pending with
    | nil => exact does_pure (.stay hp)
    | cons byte rest =>
      have hroom : 2 ≤ s.o2c.space := (hok.session s hs).room (by rw [hst]; rfl) (by omega)
      obtain ⟨p, status, hfeed⟩ : ∃ p status, authParserFeed s.auth byte = (p, status) :=
        ⟨_, _, rfl⟩
      dsimp only
      rw [hfeed]
      refine does_bind (does_assign hs rfl rfl ?_)
      have hreject : status = .reject ∨ status = .parsed ∧ socksAuthValidate p v.store = false →
          Does H sid (appendOrClose ⟨fd, sid⟩ [0x01, 0x01] (refuse sid))
            { v with sess := some (s.fedAuth p) } (Auths v s) E := by
        intro hbad
        refine does_appendOrClose rfl (by exact hroom) ?_
        rw [refuse]
        exact does_bind (does_assign rfl rfl rfl (does_pure (.reject hp hfeed hbad)))
      cases status with
      | needMore =>
        have hstep : SessionStep .plain v.toSlot (v.put (s.fedAuth p)).toSlot :=
          .authMore hs hst hp hfeed
        have hrest : (s.fedAuth p).c2o.pending = rest := pending_readAdv_one hp
        refine (ih (hstep.ok hok) rfl hst ?_).mono (fun ret v' h => .more hp hfeed h) fun _ hf => hf
        rw [hp, List.length_cons] at hn
        rw [hrest]
        omega
      | reject => exact hreject (.inl rfl)
      | parsed =>
        refine does_bind (does_srvStore ?_)
        cases hv : socksAuthValidate p v.store with
        | false =>
          rw [if_neg (by simp)]
          exact hreject (.inr ⟨rfl, hv⟩)
        | true =>
          rw [if_pos rfl]
          refine does_bind (does_emit ?_)
          rw [socksAuthStoreUser]
          simp only [bind_assoc]
          refine does_bind (does_deref rfl ?_)
          -- whether or not the user is reported, the rest is the same
          have hrest : ∀ (st : MonitorStore) (acts : List StoreAct),
              storeSessionSetPhase st s.storeId .auth = authStore s p v.store →
              acts ++ [.call (.setPhase s.storeId .auth)] = v.acts ++ authActs s p →
              Does H sid (do
                onStore (.setPhase s.storeId .auth)
                appendOrClose ⟨fd, sid⟩ [0x01, 0x00] (return .request))
                { v with
                  sess := some (s.fedAuth p)
                  hist := v.hist ++ [.validated p v.store]
                  store := st, acts := acts } (Auths v s) E := by
            intro st acts hstore hacts
            refine does_bind (does_onStore rfl ?_)
            refine does_appendOrClose rfl (by exact hroom) (does_pure ?_)
            rw [hacts, show StoreCall.apply st (.setPhase s.storeId .auth) = _ from hstore,
              List.append_assoc]
            exact .accept hp hfeed hv
          split
          · next hc =>
            refine does_bind (does_onStore rfl (hrest _ _ ?_ ?_))
            · rw [authStore, if_pos hc]
              rfl
            · rw [authActs, if_pos hc, List.append_assoc]
          · next hc =>
            simp only [pure_bind]
            refine hrest _ _ ?_ ?_
            · rw [authStore, if_neg hc]
            · rw [authActs, if_neg hc]
              rfl

/-! ### The request -/

theorem does_dials (hv : v.Has s) (ho : s.originFd = none) (hroom : 10 ≤ s.o2c.space) {fd : Fd} :
    Does H sid (socksBeginOriginConnect ⟨fd, sid⟩) v (Dials v s) E := by
  refine does_beginOriginConnect (by rfl) hv ho ?_ ?_ ?_
  · intro hnone
    exact does_bind ((does_failRequest hv hroom).mono (fun _ _ h => does_pure (.nowhere hnone h))
      fun _ hf => hf)
  · intro addr rep haddr hout
    have hv' : (v.tried s (v.dial addr s.dnsCursor.tail)).Has
        (s.tried (v.dial addr s.dnsCursor.tail)) := ⟨rfl, hv.client, hv.origin⟩
    exact does_bind ((does_failRequest hv' hroom).mono
      (fun _ _ h => does_pure (.refused haddr hout h)) fun _ hf => hf)
  · intro addr fd' haddr hout _ _
    exact .underway haddr hout

/-- What follows the last byte of a request; `s` is the session that has consumed it. -/
theorem does_responds (hv : v.Has s) (ho : s.originFd = none) (hroom : 10 ≤ s.o2c.space)
    {fd : Fd} {s₀ : SocksSession} (hid : s₀.storeId = s.storeId) {status : RequestStatus} :
    Does H sid (requestDecided ⟨fd, sid⟩ s₀ s.request status) v (Responds v s status) E := by
  have hfail : ∀ {rep : UInt8} {v₁ : View} {s₁ : SocksSession} {R : SocksState → View → Prop},
      v₁.Has s₁ → 10 ≤ s₁.o2c.space → (∀ v', Failed v₁ s₁ rep v' → R .done v') →
      Does H sid (do socksFailRequest ⟨fd, sid⟩ rep; return .done) v₁ R E := by
    intro rep v₁ s₁ R hv₁ hroom₁ hR
    exact does_bind ((does_failRequest hv₁ hroom₁).mono (fun _ v' h => does_pure (hR v' h))
      fun _ hf => hf)
  have hmal : status ≠ .parsedFqdn → status ≠ .parsedAddr →
      Does H sid (do
        socksFailRequest ⟨fd, sid⟩ (socksRequestStatusToRep status)
        return .done) v (Responds v s status) E := by
    intro h1 h2
    exact hfail hv hroom fun v' h => .malformed h1 h2 h
  cases status with
  | needMore => exact hmal (by simp) (by simp)
  | reject => exact hmal (by simp) (by simp)
  | rejectCmd => exact hmal (by simp) (by simp)
  | rejectAtyp => exact hmal (by simp) (by simp)
  | parsedFqdn =>
    rw [requestDecided, hid]
    refine does_bind (does_srvStore ?_)
    cases hd : isHostDenied v.store (requestFqdn s.request) with
    | true =>
      rw [if_pos rfl]
      exact hfail hv hroom fun v' h => .deniedHost hd h
    | false =>
      rw [if_neg (by simp)]
      refine does_bind (does_onStore rfl ?_)
      rw [socksStartDnsResolve]
      refine does_bind (does_sysAlloc ?_)
      cases ha : v.env.alloc.headD true with
      | false =>
        rw [if_neg (by simp)]
        have hv' : (v.allocated s).Has s := ⟨hv.sess, hv.client, hv.origin⟩
        exact hfail hv' hroom fun v' h => .noMemory hd ha h
      | true =>
        rw [if_pos rfl]
        refine does_bind (does_assign (by exact hv.sess) rfl rfl (does_bind (does_deref rfl ?_)))
        refine does_bind (does_sysThread ?_)
        cases ht : v.env.thread.headD true with
        | false =>
          rw [if_neg (by simp)]
          have hv' : (v.spawned s).Has s.lookingUp := ⟨rfl, hv.client, hv.origin⟩
          exact hfail hv' hroom fun v' h => .noThread hd ha ht h
        | true =>
          rw [if_pos rfl]
          refine does_bind (does_emit (does_bind (does_startThread (does_pure ?_))))
          exact .lookup hd ha ht
  | parsedAddr =>
    rw [requestDecided, hid]
    have hallowed : s.request.destAddr.any (addrDenied v.store.deniedAddresses.rules) = false →
        Does H sid (do
          onStore (.setPhase s.storeId .connecting)
          assign sid fun s => { s with destAddr := s.request.destAddr }
          socksBeginOriginConnect ⟨fd, sid⟩) (v.checked s) (Responds v s .parsedAddr) E := by
      intro hany
      refine does_bind (does_onStore rfl ?_)
      refine does_bind (does_assign (by exact hv.sess) rfl rfl ?_)
      have hv' : (v.heading s).Has { s with destAddr := s.request.destAddr } :=
        ⟨rfl, hv.client, hv.origin⟩
      exact (does_dials hv' ho hroom).mono (fun _ _ h => .dials hany h) fun _ hf => hf
    cases hda : s.request.destAddr with
    | none =>
      have hchecked : v.checked s = v := by rw [View.checked, hda]; simp
      rw [hda, hchecked] at hallowed
      refine does_bind (does_pure ?_)
      dsimp only
      rw [if_neg (by simp)]
      exact hallowed rfl
    | some addr =>
      have hchecked : v.checked s =
          { v with hist := v.hist ++ [.attempt addr v.store.deniedAddresses.rules] } := by
        rw [View.checked, hda]
        rfl
      refine does_bind (does_checkDestAddr ?_)
      rw [← hchecked]
      dsimp only
      cases hd : addrDenied v.store.deniedAddresses.rules addr with
      | true =>
        rw [if_pos rfl]
        have hv' : (v.checked s).Has s := ⟨hv.sess, hv.client, hv.origin⟩
        exact hfail hv' hroom fun v' h => .deniedAddr (by rw [hda]; exact hd) h
      | false =>
        rw [if_neg (by simp)]
        exact hallowed (by rw [hda]; exact hd)

theorem does_requests {fd : Fd} {n : ℕ} (hok : v.toSlot.Ok) (hs : v.sess = some s)
    (hst : stmState s = .request) (hn : s.c2o.pending.length ≤ n) :
    Does H sid (requestLoop ⟨fd, sid⟩ n) v (Requests v s) E := by
  induction n generalizing v s with
  | zero =>
    exact does_pure (.stay (List.length_eq_zero_iff.1 (Nat.le_zero.1 hn)))
  | succ n ih =>
    rw [requestLoop]
    refine does_bind (does_deref hs ?_)
    cases hp : s.c2o.pending with
    | nil => exact does_pure (.stay hp)
    | cons byte rest =>
      obtain ⟨p, status, hfeed⟩ : ∃ p status, requestParserFeed s.request byte = (p, status) :=
        ⟨_, _, rfl⟩
      dsimp only
      rw [hfeed]
      refine does_bind (does_assign hs rfl rfl ?_)
      by_cases hmore : status = .needMore
      · subst hmore
        have hstep : SessionStep .plain v.toSlot (v.put (s.fedRequest p)).toSlot :=
          .requestMore hs hst hp hfeed
        have hrest : (s.fedRequest p).c2o.pending = rest := pending_readAdv_one hp
        refine (ih (hstep.ok hok) rfl hst ?_).mono (fun ret v' h => .more hp hfeed h) fun _ hf => hf
        rw [hp, List.length_cons] at hn
        rw [hrest]
        omega
      · have hsok := hok.session s hs
        have ho : s.originFd = none := hsok.originFd_eq_none (by rw [hst]; rfl)
        have hv : (v.put (s.fedRequest p)).Has (s.fedRequest p) :=
          ⟨rfl, hsok.client, hsok.origin⟩
        have hroom : 10 ≤ (s.fedRequest p).o2c.space := hsok.room (by rw [hst]; rfl) (by omega)
        split
        · contradiction
        · refine (does_responds (s := s.fedRequest p) hv ho hroom rfl).mono (fun ret v' h => ?_)
            fun _ hf => hf
          exact .decided hp hfeed hmore h

/-! ### The loop -/

/-- One turn of the drain loop; it faults only when the hook has freed the session. -/
theorem does_turns {fd : Fd} (hok : v.toSlot.Ok) (hs : v.sess = some s) (hst : s.Parsing) :
    Does H sid (stmHandlerRead ⟨fd, sid⟩) v (fun _ v' => ∃ s', Turns v s v' s')
      (fun _ => True) := by
  rw [stmHandlerRead, handleFirst]
  refine does_bind (does_assign hs rfl rfl (does_bind (does_deref rfl ?_)))
  have hok' : (v.first s).toSlot.Ok := (step_first hs).ok hok
  have hhook : ∀ {p : SocksM SocksState} {R : SocksState → View → Prop},
      Does H sid p (v.first s) R (fun _ => True) →
      (∀ ret v₁ s₁, R ret v₁ → v₁.sess = some s₁ →
        Turns v s (v₁.jumped s₁ ret) { s₁ with stm := some ret }) →
      Does H sid (do let ret ← p; jump sid ret) (v.first s) (fun _ v' => ∃ s', Turns v s v' s')
        (fun _ => True) := by
    intro p R hp hR
    refine does_bind (hp.mono (fun ret v₁ h => ?_) fun _ hf => hf)
    cases hs₁ : v₁.sess with
    | none => exact does_assign_freed hs₁ trivial
    | some s₁ => exact does_assign hs₁ rfl rfl ⟨_, hR ret v₁ s₁ h hs₁⟩
  rcases hst with hst | hst | hst
  · rw [show stmState { s with stm := some (stmState s) } = .authGreeting from hst]
    refine hhook (does_bind (does_deref rfl (does_greets hok' rfl hst (Nat.le_refl _)))) ?_
    exact fun ret v₁ s₁ h hs₁ => .greeting hst h hs₁
  · rw [show stmState { s with stm := some (stmState s) } = .authUserpass from hst]
    refine hhook (does_bind (does_deref rfl (does_auths hok' rfl hst (Nat.le_refl _)))) ?_
    exact fun ret v₁ s₁ h hs₁ => .auth hst h hs₁
  · rw [show stmState { s with stm := some (stmState s) } = .request from hst]
    refine hhook (does_bind (does_deref rfl (does_requests hok' rfl hst (Nat.le_refl _)))) ?_
    exact fun ret v₁ s₁ h hs₁ => .request hst h hs₁

omit [Inet] in
/-- A session that consumed a byte has less to read. -/
theorem pending_lt {b b' : Buffer} {byte : UInt8} {rest : Bytes} (hp : b.pending = byte :: rest)
    (hb : b' = b.readAdv 1) : b'.pending.length < b.pending.length := by
  rw [hb, pending_readAdv_one hp, hp, List.length_cons]
  exact Nat.lt_succ_self _

omit [Inet] in
/-- A loop that goes on after a byte has less to read in the end. -/
theorem pending_lt_of_more {b b₁ b' : Buffer} {byte : UInt8} {rest : Bytes}
    (hp : b.pending = byte :: rest) (hb : b₁ = b.readAdv 1)
    (h : b₁.pending = [] ∧ b' = b₁ ∨ b'.pending.length < b₁.pending.length) :
    b'.pending.length < b.pending.length := by
  have hlt := pending_lt hp hb
  rcases h with ⟨-, rfl⟩ | h
  · exact hlt
  · exact Nat.lt_trans h hlt

omit [Inet] in
theorem Greets.less {ret : SocksState} {v' : View} (h : Greets v s ret v') (hs : v.sess = some s) :
    ∀ s', v'.sess = some s' → s.c2o.pending = [] ∧ s'.c2o = s.c2o ∨
      s'.c2o.pending.length < s.c2o.pending.length := by
  induction h with
  | stay hp =>
    intro s' hs'
    obtain rfl := Option.some.inj (hs.symm.trans hs')
    exact .inl ⟨hp, rfl⟩
  | more hp _ _ ih => exact fun s' hs' => .inr (pending_lt_of_more hp rfl (ih rfl s' hs'))
  | userpass hp => rintro s' ⟨⟩; exact .inr (pending_lt hp rfl)
  | noauth hp => rintro s' ⟨⟩; exact .inr (pending_lt hp rfl)
  | reject hp => rintro s' ⟨⟩; exact .inr (pending_lt hp rfl)

omit [Inet] in
theorem Auths.less {ret : SocksState} {v' : View} (h : Auths v s ret v') (hs : v.sess = some s) :
    ∀ s', v'.sess = some s' → s.c2o.pending = [] ∧ s'.c2o = s.c2o ∨
      s'.c2o.pending.length < s.c2o.pending.length := by
  induction h with
  | stay hp =>
    intro s' hs'
    obtain rfl := Option.some.inj (hs.symm.trans hs')
    exact .inl ⟨hp, rfl⟩
  | more hp _ _ ih => exact fun s' hs' => .inr (pending_lt_of_more hp rfl (ih rfl s' hs'))
  | accept hp => rintro s' ⟨⟩; exact .inr (pending_lt hp rfl)
  | reject hp => rintro s' ⟨⟩; exact .inr (pending_lt hp rfl)

omit [Inet] in
/-- A refusal does not touch what the client sent. -/
theorem Failed.c2o_eq {rep : UInt8} {v' : View} {s' : SocksSession} (h : Failed v s rep v')
    (hs : v'.sess = some s') : s'.c2o = s.c2o := by
  cases h with
  | dead flushed =>
    cases flushed with
    | dead => cases hs
  | alive flushed has =>
    obtain ⟨b, t, m, o, e, -, rfl⟩ := flushed.alive rfl
    have hs₁ := has.sess
    cases hs₁
    cases hs
    rfl

theorem Dials.c2o_eq {ret : SocksState} {v' : View} {s' : SocksSession} (h : Dials v s ret v')
    (hs : v'.sess = some s') : s'.c2o = s.c2o := by
  cases h with
  | nowhere _ failed => exact failed.c2o_eq hs
  | refused _ _ failed => exact (failed.c2o_eq hs :)
  | underway => cases hs; rfl

theorem Responds.c2o_eq {status : RequestStatus} {ret : SocksState} {v' : View}
    {s' : SocksSession} (h : Responds v s status ret v') (hs : v'.sess = some s') :
    s'.c2o = s.c2o := by
  cases h with
  | malformed _ _ failed => exact failed.c2o_eq hs
  | deniedHost _ failed => exact failed.c2o_eq hs
  | noMemory _ _ failed => exact failed.c2o_eq hs
  | noThread _ _ _ failed => exact (failed.c2o_eq hs :)
  | lookup => cases hs; rfl
  | deniedAddr _ failed => exact failed.c2o_eq hs
  | dials _ dials => exact (dials.c2o_eq hs :)

theorem Requests.less {ret : SocksState} {v' : View} (h : Requests v s ret v')
    (hs : v.sess = some s) : ∀ s', v'.sess = some s' → s.c2o.pending = [] ∧ s'.c2o = s.c2o ∨
      s'.c2o.pending.length < s.c2o.pending.length := by
  induction h with
  | stay hp =>
    intro s' hs'
    obtain rfl := Option.some.inj (hs.symm.trans hs')
    exact .inl ⟨hp, rfl⟩
  | more hp _ _ ih => exact fun s' hs' => .inr (pending_lt_of_more hp rfl (ih rfl s' hs'))
  | decided hp _ _ responds => exact fun s' hs' => .inr (pending_lt hp (responds.c2o_eq hs'))

/-- **A turn consumes at least one byte**, if there is one. -/
theorem Turns.less {v' : View} {s' : SocksSession} (h : Turns v s v' s')
    (hne : s.c2o.pending ≠ []) : s'.c2o.pending.length < s.c2o.pending.length := by
  cases h with
  | greeting _ hook sess => exact (hook.less rfl _ sess).resolve_left fun h => hne h.1
  | auth _ hook sess => exact (hook.less rfl _ sess).resolve_left fun h => hne h.1
  | request _ hook sess => exact (hook.less rfl _ sess).resolve_left fun h => hne h.1

/-- What a turn leaves, beside what it does. -/
structure Turned (v : View) (s : SocksSession) (v' : View) (s' : SocksSession) : Prop where
  turn : Turns v s v' s'
  sess : v'.sess = some s'
  ok : v'.toSlot.Ok
  clientFd : s'.clientFd = s.clientFd

theorem Turns.sess_eq {v' : View} {s' : SocksSession} (h : Turns v s v' s') :
    v'.sess = some s' := by
  cases h <;> rfl

theorem does_turned {fd : Fd} (hok : v.toSlot.Ok) (hs : v.sess = some s) (hst : s.Parsing) :
    Does H sid (stmHandlerRead ⟨fd, sid⟩) v (fun _ v' => ∃ s', Turned v s v' s')
      (RefusalFault v s) := by
  refine ((does_turns hok hs hst).and (does_stmHandlerRead hok hs hst)).mono ?_ fun _ hf => hf.2
  rintro _ v' ⟨⟨s', ht⟩, h⟩
  have hs' := ht.sess_eq
  refine ⟨s', ?_⟩
  rcases h with ⟨s₁, hp⟩ | ⟨s₁, ha, -⟩
  · obtain rfl : s' = s₁ := Option.some.inj (hs'.symm.trans hp.sess)
    exact ⟨ht, hs', hp.steps.ok hok, hp.clientFd⟩
  · obtain rfl : s' = s₁ := Option.some.inj (hs'.symm.trans ha.sess)
    exact ⟨ht, hs', ha.steps.ok hok, ha.clientFd⟩

/-- The drain loop runs until there is nothing to parse, as long as it may turn once for each
byte. -/
theorem does_drains {fd : Fd} {n : ℕ} (hok : v.toSlot.Ok) (hs : v.sess = some s)
    (hn : s.Parsing → s.c2o.pending.length ≤ n) :
    Does H sid (drainLoop ⟨fd, sid⟩ n) v
      (fun _ v' => ∃ s', Drains v s v' s' ∧ v'.toSlot.Ok ∧ s'.clientFd = s.clientFd)
      (fun _ => True) := by
  induction n generalizing v s with
  | zero =>
    refine does_pure ⟨s, .stop hs fun hcond => ?_, hok, rfl⟩
    obtain ⟨hread, hpar⟩ := hcond
    have hp : s.c2o.pending = [] := List.length_eq_zero_iff.1 (Nat.le_zero.1 (hn hpar))
    exact (Buffer.canRead_iff _).1 hread hp
  | succ n ih =>
    rw [drainLoop]
    refine does_bind (does_deref hs ?_)
    by_cases hc : s.c2o.canRead = true ∧ s.Parsing
    · rw [if_pos (by exact hc)]
      refine does_bind ((does_turned hok hs hc.2).mono (fun _ v₁ h₁ => ?_) fun _ _ => trivial)
      obtain ⟨s₁, ht⟩ := h₁
      refine (ih ht.ok ht.sess fun _ => ?_).mono (fun _ v' h' => ?_) fun _ hf => hf
      · have h1 := ht.turn.less ((Buffer.canRead_iff _).1 hc.1)
        have h2 := hn hc.2
        omega
      · obtain ⟨s', hd, hok', hfd⟩ := h'
        exact ⟨s', .turn hc ht.turn hd, hok', hfd.trans ht.clientFd⟩
    · rw [if_neg (by exact hc)]
      exact does_pure ⟨s, .stop hs hc, hok, rfl⟩

theorem Drains.sess_eq {v' : View} {s' : SocksSession} (h : Drains v s v' s') :
    v'.sess = some s' := by
  induction h with
  | stop sess => exact sess
  | turn _ _ _ ih => exact ih

end Code

end SocksProxy
