import SocksProxy.Socks.Turns

/-!
# The handshake as a machine that eats bytes

`Talk` is what the proxy has made of the bytes a client sent so far: the phase, the three parsers,
the replies and the bytes that follow the request.  `Talk.feed` takes one byte more.  Whether a
request is accepted depends on the rest of the world as well, which does not move while the
handshake lasts; it is the `Scene`.

`Hears c v s t bs` says that a session in the middle of a callback stands where `t` stands, with
`bs` still to be looked at.  Every turn of the drain loop keeps it (`Turns.hears`), so the loop
leaves the session where the machine is after all of `bs` (`Drains.hears`).  A machine that is fed
byte by byte does not know where one `read()` ended and the next began.
-/

set_option autoImplicit false

namespace SocksProxy

variable [Inet]

/-! ## The machine -/

/-- What the proxy has made of the bytes of a client. -/
structure Talk where
  state : SocksState
  greeting : GreetingParser
  auth : AuthParser
  request : RequestParser
  /-- The replies, in the order in which they were enqueued. -/
  replies : List Bytes
  /-- The bytes that were not consumed. -/
  left : Bytes

/-- What decides about a request, beside the request. -/
structure Scene where
  store : MonitorStore
  free : Fd → Bool
  env : Env
  cursor : List SockAddr

/-- What comes of dialling an address. -/
def Scene.dialAnswer (c : Scene) : Option SockAddr → Except UInt8 SocksState
  | none => .error socksRepGeneralFailure
  | some addr =>
    match (dial c.store.deniedAddresses.rules c.free addr c.cursor.tail c.env).outcome with
    | .error rep => .error rep
    | .ok _ => .ok .originConnecting

/-- The answer to a parsed request: the reply code of the refusal, or the phase that follows. -/
def Scene.answer (c : Scene) (p : RequestParser) : RequestStatus → Except UInt8 SocksState
  | .parsedFqdn =>
    if isHostDenied c.store (requestFqdn p) then .error socksRepDeniedByRuleset
    else if c.env.alloc.headD true && c.env.thread.headD true then .ok .resolving
    else .error socksRepGeneralFailure
  | .parsedAddr =>
    if p.destAddr.any (addrDenied c.store.deniedAddresses.rules) then
      .error socksRepDeniedByRuleset
    else c.dialAnswer (c.cursor.head?.or p.destAddr)
  | status => .error (socksRequestStatusToRep status)

/-- A phase left for good. -/
def Talk.over (t : Talk) (rep : Bytes) : Talk :=
  { t with state := .done, replies := t.replies ++ [rep] }

/-- The request is answered. -/
def Talk.answered (t : Talk) : Except UInt8 SocksState → Talk
  | .ok st => { t with state := st }
  | .error rep => t.over (connectReply rep)

/-- One byte of the client. -/
def Talk.feed (c : Scene) (t : Talk) (byte : UInt8) : Talk :=
  match t.state with
  | .authGreeting =>
    match greetingParserFeed t.greeting byte with
    | (p, .needMore) => { t with greeting := p }
    | (p, .accept) =>
      { t with
        greeting := p
        state := if p.chosenMethod = socksMethodUserpass then .authUserpass else .request
        replies := t.replies ++ [[0x05, p.chosenMethod]] }
    | (p, .reject) => { t with greeting := p }.over [0x05, 0xFF]
  | .authUserpass =>
    match authParserFeed t.auth byte with
    | (p, .needMore) => { t with auth := p }
    | (p, .parsed) =>
      if socksAuthValidate p c.store then
        { t with auth := p, state := .request, replies := t.replies ++ [[0x01, 0x00]] }
      else { t with auth := p }.over [0x01, 0x01]
    | (p, .reject) => { t with auth := p }.over [0x01, 0x01]
  | .request =>
    match requestParserFeed t.request byte with
    | (p, .needMore) => { t with request := p }
    | (p, status) => { t with request := p }.answered (c.answer p status)
  | _ => { t with left := t.left ++ [byte] }

/-- Some bytes of the client. -/
def Talk.hear (c : Scene) (t : Talk) (bs : Bytes) : Talk := bs.foldl (Talk.feed c) t

theorem hear_nil (c : Scene) (t : Talk) : t.hear c [] = t := rfl

theorem hear_cons (c : Scene) (t : Talk) (byte : UInt8) (bs : Bytes) :
    t.hear c (byte :: bs) = (t.feed c byte).hear c bs := rfl

/-- The cuts of a stream make no difference. -/
theorem hear_append (c : Scene) (t : Talk) (bs bs' : Bytes) :
    t.hear c (bs ++ bs') = (t.hear c bs).hear c bs' := List.foldl_append

/-- Past the handshake the bytes are left for later. -/
theorem hear_of_past {c : Scene} {t : Talk} (h1 : t.state ≠ .authGreeting)
    (h2 : t.state ≠ .authUserpass) (h3 : t.state ≠ .request) (bs : Bytes) :
    t.hear c bs = { t with left := t.left ++ bs } := by
  induction bs generalizing t with
  | nil => rw [hear_nil, List.append_nil]
  | cons byte bs ih =>
    have hfeed : t.feed c byte = { t with left := t.left ++ [byte] } := by
      rw [Talk.feed]
      split
      · contradiction
      · contradiction
      · contradiction
      · rfl
    rw [hear_cons, hfeed]
    refine (ih (t := { t with left := t.left ++ [byte] }) h1 h2 h3).trans ?_
    rw [List.append_assoc]
    rfl

/-! ## The session in the middle of it -/

/-- The text of a reply. -/
def Obs.message : Obs → Option Bytes
  | .reply bs => some bs
  | _ => none

/-- The replies of a history, in order. -/
def messages (hist : List Obs) : List Bytes := hist.filterMap Obs.message

/-- A view in which nothing has moved that decides about the request. -/
structure Scene.Holds (c : Scene) (v : View) (s : SocksSession) : Prop where
  settings : v.store.settings = c.store.settings
  free : v.free = c.free
  cursor : s.dnsCursor = c.cursor
  env : ∃ r ws, v.env = { c.env with read := r, write := ws }

/-- The session stands where the machine stands, and has `bs` still to look at. -/
structure Hears (c : Scene) (v : View) (s : SocksSession) (t : Talk) (bs : Bytes) : Prop where
  state : stmState s = t.state
  greeting : s.greeting = t.greeting
  auth : s.auth = t.auth
  request : s.request = t.request
  replies : messages v.hist = t.replies
  pending : s.c2o.pending = t.left ++ bs
  alive : WriteAns.error ∉ v.env.write
  fresh : s.Parsing → t.left = []
  holds : s.Parsing → c.Holds v s

section Facts

variable {c : Scene} {v v' : View} {s s' : SocksSession} {t : Talk} {bs : Bytes}

omit [Inet] in
theorem messages_append (hist hist' : List Obs) :
    messages (hist ++ hist') = messages hist ++ messages hist' := List.filterMap_append

omit [Inet] in
theorem messages_probes {obs : List Obs} (h : ∀ o ∈ obs, o.isProbe = true) : messages obs = [] := by
  refine List.filterMap_eq_nil_iff.2 fun o ho => ?_
  have := h o ho
  cases o <;> first | rfl | cases this

omit [Inet] in
theorem parsing_of_state {st : SocksState} (h : stmState s = st)
    (hst : st = .authGreeting ∨ st = .authUserpass ∨ st = .request) : s.Parsing := by
  rcases hst with rfl | rfl | rfl
  · exact .inl h
  · exact .inr (.inl h)
  · exact .inr (.inr h)

omit [Inet] in
/-- Nothing but the bytes at the head is looked at while parsing. -/
theorem Hears.pending_eq (h : Hears c v s t bs) (hp : s.Parsing) : s.c2o.pending = bs := by
  rw [h.pending, h.fresh hp, List.nil_append]

/-- Past the handshake the machine leaves what it is given. -/
theorem Hears.rest (h : Hears c v s t bs) (hp : ¬ s.Parsing) : Hears c v s (t.hear c bs) [] := by
  have hst : ∀ st, st = .authGreeting ∨ st = .authUserpass ∨ st = .request → t.state ≠ st :=
    fun st hor heq => hp (parsing_of_state (h.state.trans heq) hor)
  rw [hear_of_past (hst _ (.inl rfl)) (hst _ (.inr (.inl rfl))) (hst _ (.inr (.inr rfl)))]
  exact { h with pending := by rw [h.pending, List.append_nil], fresh := fun h => absurd h hp }

omit [Inet] in
/-- A flush says nothing. -/
theorem Flushed.messages_eq {b : Bool} (h : Flushed v s b v') :
    messages v'.hist = messages v.hist := by
  cases h with
  | nothing => rfl
  | blocked =>
    show messages (v.hist ++ [_]) = _
    rw [messages_append]
    exact List.append_nil _
  | wrote =>
    show messages (v.hist ++ [_]) = _
    rw [messages_append]
    exact List.append_nil _
  | dead =>
    show messages (v.hist ++ [_] ++ [_]) = _
    rw [messages_append, messages_append]
    exact (List.append_nil _).trans (List.append_nil _)

omit [Inet] in
theorem Flushed.alive_of {b : Bool} (h : Flushed v s b v') (ha : WriteAns.error ∉ v.env.write) :
    WriteAns.error ∉ v'.env.write := by
  cases h with
  | nothing => exact ha
  | blocked => exact fun hm => ha (List.mem_of_mem_tail hm)
  | wrote => exact fun hm => ha (List.mem_of_mem_tail hm)
  | dead => exact fun hm => ha (List.mem_of_mem_tail hm)

omit [Inet] in
theorem writeAns_ne_error (ha : WriteAns.error ∉ v.env.write) : v.writeAns ≠ .error := by
  rw [View.writeAns]
  cases hw : v.env.write with
  | nil => simp
  | cons a as =>
    rw [hw] at ha
    exact fun h => ha (List.mem_cons.2 (.inl h.symm))

omit [Inet] in
/-- What is left of a session that was refused. -/
theorem Failed.left {rep : UInt8} (h : Failed v s rep v') (hs : v'.sess = some s') :
    (stmState s' = .done ∧ s'.greeting = s.greeting ∧ s'.auth = s.auth ∧ s'.request = s.request ∧
      s'.c2o = s.c2o) ∧ messages v'.hist = messages v.hist ++ [connectReply rep] ∧
    (WriteAns.error ∉ v.env.write → WriteAns.error ∉ v'.env.write) := by
  cases h with
  | dead flushed =>
    cases flushed with
    | dead => cases hs
  | @alive v₁ s₁ flushed has =>
    obtain ⟨b, t, m, o, e, hm, hv⟩ := flushed.alive rfl
    have hs₁ : s₁ = { s.refused rep with o2c := b, lastActivity := t, stm := m } := by
      have := has.sess
      rw [hv] at this
      exact (Option.some.inj this).symm
    obtain rfl : s' = s₁ := Option.some.inj (hs.symm.trans has.sess)
    refine ⟨?_, ?_, fun ha => flushed.alive_of ha⟩
    · rw [hs₁]
      refine ⟨?_, rfl, rfl, rfl, rfl⟩
      rcases hm with rfl | rfl <;> rfl
    · refine flushed.messages_eq.trans ?_
      show messages (v.hist ++ [_]) = _
      rw [messages_append]
      rfl

end Facts

/-! ## Dialling does not look at `read()` and `write()` -/

section Dial

variable {rules : List AclRule} {free : Fd → Bool}

theorem attempt_io (addr : SockAddr) (env : Env) (r : List ReadAns) (ws : List WriteAns) :
    attempt rules free addr { env with read := r, write := ws } =
      ({ (attempt rules free addr env).1 with read := r, write := ws },
        (attempt rules free addr env).2) := by
  rw [attempt, attempt]
  split
  · rfl
  · dsimp only
    split
    · rfl
    · split
      · split <;> rfl
      · rfl

theorem dial_io (addr : SockAddr) (others : List SockAddr) (env : Env) (r : List ReadAns)
    (ws : List WriteAns) : dial rules free addr others { env with read := r, write := ws } =
      { dial rules free addr others env with
        env := { (dial rules free addr others env).env with read := r, write := ws } } := by
  induction others generalizing addr env with
  | nil =>
    rw [dial, dial, attempt_io]
    obtain ⟨env', obs, a⟩ := attempt rules free addr env
    cases a <;> rfl
  | cons next rest ih =>
    rw [dial, dial, attempt_io]
    obtain ⟨env', obs, a⟩ := attempt rules free addr env
    cases a with
    | refused => rfl
    | failed => simp only [ih]
    | connecting => rfl

theorem dial_outcome_io (addr : SockAddr) (others : List SockAddr) (env : Env) (r : List ReadAns)
    (ws : List WriteAns) :
    (dial rules free addr others { env with read := r, write := ws }).outcome =
      (dial rules free addr others env).outcome := by
  rw [dial_io]

end Dial

/-! ## The hooks follow the machine -/

section Hooks

variable {c : Scene} {v v' : View} {s s' : SocksSession} {t : Talk} {bs rest : Bytes}
  {ret : SocksState} {byte : UInt8}

/-- The session a hook leaves, once its result is jumped to, stands where the machine stands after
`bs`. -/
def HearsOn (c : Scene) (v : View) (ret : SocksState) (t : Talk) (bs : Bytes) : Prop :=
  ∀ s, v.sess = some s → ∃ t' bs',
    Hears c (v.jumped s ret) { s with stm := some ret } t' bs' ∧ t'.hear c bs' = t.hear c bs

omit [Inet] in
/-- What was to be looked at is the byte and the rest. -/
theorem Hears.bytes_eq (h : Hears c v s t bs) (hp : s.Parsing)
    (hpend : s.c2o.pending = byte :: rest) : bs = byte :: rest :=
  (h.pending_eq hp).symm.trans hpend

/-- A parsing hook that has nothing more to look at. -/
theorem Hears.stays (h : Hears c v s t bs) (hs : v.sess = some s) (hp : s.Parsing)
    (hpend : s.c2o.pending = []) : HearsOn c v (stmState s) t bs := by
  intro s' hs'
  obtain rfl : s = s' := Option.some.inj (hs.symm.trans hs')
  have hbs : bs = [] := (h.pending_eq hp).symm.trans hpend
  subst hbs
  have hh := h.holds hp
  exact ⟨t, [], ⟨h.state, h.greeting, h.auth, h.request, h.replies, h.pending, h.alive, h.fresh,
    fun _ => ⟨hh.settings, hh.free, hh.cursor, hh.env⟩⟩, rfl⟩

omit [Inet] in
/-- A byte is consumed and perhaps answered. -/
theorem Hears.step {t' : Talk} (h : Hears c v s t (byte :: rest)) (hp : s.Parsing)
    (hpend : s.c2o.pending = byte :: rest) (hc : s'.c2o = s.c2o.readAdv 1)
    (hcur : s'.dnsCursor = s.dnsCursor) (henv : v'.env = v.env) (hfree : v'.free = v.free)
    (hset : v'.store.settings = v.store.settings) (hleft : t'.left = t.left)
    (state : stmState s' = t'.state) (greeting : s'.greeting = t'.greeting)
    (auth : s'.auth = t'.auth) (request : s'.request = t'.request)
    (replies : messages v'.hist = t'.replies) : Hears c v' s' t' rest where
  state := state
  greeting := greeting
  auth := auth
  request := request
  replies := replies
  pending := by
    rw [hc, hleft, h.fresh hp]
    exact pending_readAdv_one hpend
  alive := by rw [henv]; exact h.alive
  fresh := fun _ => hleft.trans (h.fresh hp)
  holds := fun _ => ⟨hset.trans (h.holds hp).settings, hfree.trans (h.holds hp).free,
    hcur.trans (h.holds hp).cursor, by rw [henv]; exact (h.holds hp).env⟩

theorem Greets.hears (hg : Greets v s ret v') : ∀ {t : Talk} {bs : Bytes}, Hears c v s t bs →
    v.sess = some s → stmState s = .authGreeting → HearsOn c v' ret t bs := by
  induction hg with
  | stay hp =>
    intro t bs h hs hst
    rw [← hst]
    exact h.stays hs (.inl hst) hp
  | @more v v' s byte rest p ret hp feed next ih =>
    intro t bs h hs hst
    obtain rfl := h.bytes_eq (.inl hst) hp
    have hfeed : t.feed c byte = { t with greeting := p } := by
      rw [Talk.feed, ← h.state, hst, ← h.greeting, feed]
    rw [HearsOn, hear_cons, hfeed]
    exact ih (h.step (.inl hst) hp rfl rfl rfl rfl rfl rfl h.state rfl h.auth h.request h.replies)
      rfl hst
  | @userpass v s byte rest p hp feed method =>
    rintro t bs h hs hst s' ⟨⟩
    obtain rfl := h.bytes_eq (.inl hst) hp
    have hfeed : t.feed c byte = { t with
        greeting := p, state := .authUserpass, replies := t.replies ++ [[0x05, p.chosenMethod]] } := by
      rw [Talk.feed, ← h.state, hst, ← h.greeting, feed]
      simp only [if_pos method]
    refine ⟨_, rest, ?_, by rw [hear_cons, hfeed]⟩
    refine h.step (.inl hst) hp rfl rfl rfl rfl rfl rfl rfl rfl h.auth h.request ?_
    show messages (v.hist ++ _) = _
    rw [messages_append, h.replies]
    rfl
  | @noauth v s byte rest p hp feed method =>
    rintro t bs h hs hst s' ⟨⟩
    obtain rfl := h.bytes_eq (.inl hst) hp
    have hfeed : t.feed c byte = { t with
        greeting := p, state := .request, replies := t.replies ++ [[0x05, p.chosenMethod]] } := by
      rw [Talk.feed, ← h.state, hst, ← h.greeting, feed]
      simp only [if_neg method]
    refine ⟨_, rest, ?_, by rw [hear_cons, hfeed]⟩
    refine h.step (.inl hst) hp rfl rfl rfl rfl (settings_anonStore ..) rfl rfl rfl h.auth
      h.request ?_
    show messages (v.hist ++ _) = _
    rw [messages_append, h.replies]
    rfl
  | @reject v s byte rest p hp feed =>
    rintro t bs h hs hst s' ⟨⟩
    obtain rfl := h.bytes_eq (.inl hst) hp
    have hfeed : t.feed c byte = Talk.over { t with greeting := p } [0x05, 0xFF] := by
      rw [Talk.feed, ← h.state, hst, ← h.greeting, feed]
    refine ⟨_, rest, ?_, by rw [hear_cons, hfeed]⟩
    refine h.step (.inl hst) hp rfl rfl rfl rfl rfl rfl rfl rfl h.auth h.request ?_
    show messages (v.hist ++ _) = _
    rw [messages_append, h.replies]
    rfl

theorem Auths.hears (ha : Auths v s ret v') : ∀ {t : Talk} {bs : Bytes}, Hears c v s t bs →
    v.sess = some s → stmState s = .authUserpass → HearsOn c v' ret t bs := by
  induction ha with
  | stay hp =>
    intro t bs h hs hst
    rw [← hst]
    exact h.stays hs (.inr (.inl hst)) hp
  | @more v v' s byte rest p ret hp feed next ih =>
    intro t bs h hs hst
    obtain rfl := h.bytes_eq (.inr (.inl hst)) hp
    have hfeed : t.feed c byte = { t with auth := p } := by
      rw [Talk.feed, ← h.state, hst, ← h.auth, feed]
    rw [HearsOn, hear_cons, hfeed]
    exact ih (h.step (.inr (.inl hst)) hp rfl rfl rfl rfl rfl rfl h.state h.greeting rfl h.request
      h.replies) rfl hst
  | @accept v s byte rest p hp feed valid =>
    rintro t bs h hs hst s' ⟨⟩
    have hpar : s.Parsing := .inr (.inl hst)
    obtain rfl := h.bytes_eq hpar hp
    have hfeed : t.feed c byte = { t with
        auth := p, state := .request, replies := t.replies ++ [[0x01, 0x00]] } := by
      rw [socksAuthValidate_congr (h.holds hpar).settings] at valid
      rw [Talk.feed, ← h.state, hst, ← h.auth, feed]
      simp only [if_pos valid]
    refine ⟨_, rest, ?_, by rw [hear_cons, hfeed]⟩
    refine h.step hpar hp rfl rfl rfl rfl (settings_authStore ..) rfl rfl h.greeting rfl
      h.request ?_
    show messages (v.hist ++ _) = _
    rw [messages_append, h.replies]
    rfl
  | @reject v s byte rest p status hp feed bad =>
    rintro t bs h hs hst s' ⟨⟩
    have hpar : s.Parsing := .inr (.inl hst)
    obtain rfl := h.bytes_eq hpar hp
    have hfeed : t.feed c byte = Talk.over { t with auth := p } [0x01, 0x01] := by
      rw [Talk.feed, ← h.state, hst, ← h.auth, feed]
      rcases bad with rfl | ⟨rfl, hinv⟩
      · rfl
      · rw [socksAuthValidate_congr (h.holds hpar).settings] at hinv
        simp only [hinv]
        rfl
    refine ⟨_, rest, ?_, by rw [hear_cons, hfeed]⟩
    refine h.step hpar hp rfl rfl rfl rfl rfl rfl rfl h.greeting rfl h.request ?_
    show messages (v.hist ++ _) = _
    rw [messages_append, h.replies]
    rfl

/-! ### The request -/

/-- The request is refused. -/
theorem Failed.hears {v₁ : View} {s₁ : SocksSession} {rep : UInt8} (hf : Failed v₁ s₁ rep v')
    (h : Hears c v s t bs) (greeting : s₁.greeting = s.greeting) (auth : s₁.auth = s.auth)
    (request : s₁.request = s.request) (c2o : s₁.c2o = s.c2o)
    (hist : messages v₁.hist = messages v.hist) (write : v₁.env.write = v.env.write) :
    HearsOn c v' .done (t.answered (.error rep)) bs := by
  intro s' hs'
  obtain ⟨⟨-, h1, h2, h3, h4⟩, h5, h6⟩ := hf.left hs'
  refine ⟨_, bs, ⟨rfl, ?_, ?_, ?_, ?_, ?_, ?_, nofun, nofun⟩, rfl⟩
  · exact (h1.trans greeting).trans h.greeting
  · exact (h2.trans auth).trans h.auth
  · exact (h3.trans request).trans h.request
  · show messages v'.hist = t.replies ++ [connectReply rep]
    rw [h5, hist, h.replies]
  · show s'.c2o.pending = t.left ++ bs
    rw [h4, c2o, h.pending]
  · exact h6 (by rw [write]; exact h.alive)

/-- Dialling comes to what the scene says. -/
theorem Scene.Holds.dialAnswer (hh : c.Holds v s) (addr : SockAddr) :
    c.dialAnswer (some addr) = match (v.dial addr s.dnsCursor.tail).outcome with
      | .error rep => .error rep
      | .ok _ => .ok .originConnecting := by
  obtain ⟨r, ws, henv⟩ := hh.env
  have hrules : v.store.deniedAddresses = c.store.deniedAddresses :=
    congrArg StoreSettings.deniedAddresses hh.settings
  have hout : (v.dial addr s.dnsCursor.tail).outcome =
      (dial c.store.deniedAddresses.rules c.free addr c.cursor.tail c.env).outcome := by
    rw [View.dial, hrules, hh.free, hh.cursor, henv]
    exact dial_outcome_io ..
  rw [Scene.dialAnswer, hout]

theorem Dials.hears (hd : Dials v s ret v') (h : Hears c v s t bs) (hst : stmState s = .request)
    (hdest : s.destAddr = s.request.destAddr) :
    HearsOn c v' ret (t.answered (c.dialAnswer (c.cursor.head?.or t.request.destAddr))) bs := by
  have hpar : s.Parsing := .inr (.inr hst)
  have hh := h.holds hpar
  have haddr : s.connectAddr = c.cursor.head?.or t.request.destAddr := by
    rw [SocksSession.connectAddr, hdest, h.request, hh.cursor]
    cases c.cursor with
    | nil => cases t.request.destAddr <;> rfl
    | cons a as => rfl
  rw [← haddr]
  cases hd with
  | nowhere addr_eq failed =>
    rw [addr_eq]
    exact failed.hears h rfl rfl rfl rfl rfl rfl
  | @refused _ addr rep addr_eq outcome failed =>
    have hans := hh.dialAnswer addr
    rw [outcome] at hans
    rw [addr_eq, hans]
    have hobs : messages (v.dial addr s.dnsCursor.tail).obs = [] :=
      messages_probes (dial_error outcome).2.isProbe
    refine failed.hears h rfl rfl rfl rfl ?_ (dial_env ..)
    show messages (v.hist ++ _) = _
    rw [messages_append, hobs, List.append_nil]
  | @underway addr fd addr_eq outcome =>
    have hans := hh.dialAnswer addr
    rw [outcome] at hans
    rw [addr_eq, hans]
    have hobs : messages (v.dial addr s.dnsCursor.tail).obs = [] :=
      messages_probes (dial_ok outcome).isProbe
    rintro s' ⟨⟩
    refine ⟨t.answered (.ok .originConnecting), bs,
      ⟨rfl, h.greeting, h.auth, h.request, ?_, h.pending, ?_, ?_, ?_⟩, rfl⟩
    · show messages (v.hist ++ _) = t.replies
      rw [messages_append, hobs, List.append_nil, h.replies]
    · show WriteAns.error ∉ (v.dial addr s.dnsCursor.tail).env.write
      rw [View.dial, dial_env]
      exact h.alive
    · rintro (hlate | hlate | hlate) <;> cases hlate
    · rintro (hlate | hlate | hlate) <;> cases hlate

omit [Inet] in
theorem isHostDenied_congr {st st' : MonitorStore} (h : st'.settings = st.settings) (host : Bytes) :
    isHostDenied st' host = isHostDenied st host := by
  have hh : st'.deniedHosts = st.deniedHosts := congrArg StoreSettings.deniedHosts h
  rw [isHostDenied, isHostDenied, hh]

omit [Inet] in
theorem messages_checked (v : View) (s : SocksSession) :
    messages (v.checked s).hist = messages v.hist := by
  show messages (v.hist ++ _) = _
  rw [messages_append]
  cases s.request.destAddr <;> exact List.append_nil _

/-- The answer to a request; `s` has consumed its last byte. -/
theorem Responds.hears {status : RequestStatus} (hr : Responds v s status ret v')
    (h : Hears c v s t bs) (hst : stmState s = .request) :
    HearsOn c v' ret (t.answered (c.answer t.request status)) bs := by
  have hh := h.holds (.inr (.inr hst))
  obtain ⟨r, ws, henv⟩ := hh.env
  have halloc : v.env.alloc = c.env.alloc := by rw [henv]
  have hthread : v.env.thread = c.env.thread := by rw [henv]
  have hrules : v.store.deniedAddresses = c.store.deniedAddresses :=
    congrArg StoreSettings.deniedAddresses hh.settings
  cases hr with
  | malformed fqdn addr failed =>
    have hans : c.answer t.request status = .error (socksRequestStatusToRep status) := by
      cases status <;> first | contradiction | rfl
    rw [hans]
    exact failed.hears h rfl rfl rfl rfl rfl rfl
  | deniedHost denied failed =>
    rw [isHostDenied_congr hh.settings, h.request] at denied
    rw [Scene.answer, if_pos denied]
    exact failed.hears h rfl rfl rfl rfl rfl rfl
  | noMemory allowed alloc failed =>
    rw [isHostDenied_congr hh.settings, h.request] at allowed
    rw [halloc] at alloc
    rw [Scene.answer, if_neg (by simp [allowed]), if_neg (by rw [alloc]; simp)]
    exact failed.hears h rfl rfl rfl rfl rfl rfl
  | noThread allowed alloc thread failed =>
    rw [isHostDenied_congr hh.settings, h.request] at allowed
    rw [hthread] at thread
    rw [Scene.answer, if_neg (by simp [allowed]), if_neg (by rw [thread]; simp)]
    exact failed.hears h rfl rfl rfl rfl rfl rfl
  | lookup allowed alloc thread =>
    rw [isHostDenied_congr hh.settings, h.request] at allowed
    rw [halloc] at alloc
    rw [hthread] at thread
    rw [Scene.answer, if_neg (by simp [allowed]), if_pos (by rw [alloc, thread]; rfl)]
    rintro s' ⟨⟩
    refine ⟨t.answered (.ok .resolving), bs,
      ⟨rfl, h.greeting, h.auth, h.request, ?_, h.pending, h.alive, nofun, nofun⟩, rfl⟩
    show messages (v.hist ++ _) = t.replies
    rw [messages_append, h.replies]
    exact List.append_nil _
  | deniedAddr denied failed =>
    rw [hrules, h.request] at denied
    rw [Scene.answer, if_pos denied]
    exact failed.hears h rfl rfl rfl rfl (messages_checked v s) rfl
  | dials allowed dials =>
    rw [hrules, h.request] at allowed
    rw [Scene.answer, if_neg (by simp [allowed])]
    refine dials.hears ⟨h.state, h.greeting, h.auth, h.request, ?_, h.pending, h.alive, h.fresh,
      fun _ => ⟨(settings_storeSessionSetPhase ..).trans hh.settings, hh.free, hh.cursor, hh.env⟩⟩
      hst rfl
    exact (messages_checked v s).trans h.replies

theorem Requests.hears (hr : Requests v s ret v') : ∀ {t : Talk} {bs : Bytes}, Hears c v s t bs →
    v.sess = some s → stmState s = .request → HearsOn c v' ret t bs := by
  induction hr with
  | stay hp =>
    intro t bs h hs hst
    rw [← hst]
    exact h.stays hs (.inr (.inr hst)) hp
  | @more v v' s byte rest p ret hp feed next ih =>
    intro t bs h hs hst
    obtain rfl := h.bytes_eq (.inr (.inr hst)) hp
    have hfeed : t.feed c byte = { t with request := p } := by
      rw [Talk.feed, ← h.state, hst, ← h.request, feed]
    rw [HearsOn, hear_cons, hfeed]
    exact ih (h.step (.inr (.inr hst)) hp rfl rfl rfl rfl rfl rfl h.state h.greeting h.auth rfl
      h.replies) rfl hst
  | @decided v v' s byte rest p status ret hp feed done responds =>
    intro t bs h hs hst
    obtain rfl := h.bytes_eq (.inr (.inr hst)) hp
    have hfeed : t.feed c byte = Talk.answered { t with request := p } (c.answer p status) := by
      rw [Talk.feed, ← h.state, hst, ← h.request, feed]
      cases status <;> first | contradiction | rfl
    rw [HearsOn, hear_cons, hfeed]
    exact responds.hears (t := { t with request := p })
      (h.step (.inr (.inr hst)) hp rfl rfl rfl rfl rfl rfl h.state h.greeting h.auth rfl h.replies)
      hst

/-! ### The loop -/

/-- A turn of the drain loop takes the machine further. -/
theorem Turns.hears (ht : Turns v s v' s') (h : Hears c v s t bs) :
    ∃ t' bs', Hears c v' s' t' bs' ∧ t'.hear c bs' = t.hear c bs := by
  have hfirst : s.Parsing → Hears c (v.first s) s.first t bs := fun hpar =>
    ⟨h.state, h.greeting, h.auth, h.request, h.replies, h.pending, h.alive, h.fresh,
      fun _ => ⟨(h.holds hpar).settings, (h.holds hpar).free, (h.holds hpar).cursor,
        (h.holds hpar).env⟩⟩
  cases ht with
  | greeting st hook sess => exact hook.hears (hfirst (.inl st)) rfl st _ sess
  | auth st hook sess => exact hook.hears (hfirst (.inr (.inl st))) rfl st _ sess
  | request st hook sess => exact hook.hears (hfirst (.inr (.inr st))) rfl st _ sess

/-- **The drain loop takes the machine through all bytes.** -/
theorem Drains.hears (hd : Drains v s v' s') : ∀ {t : Talk} {bs : Bytes}, Hears c v s t bs →
    Hears c v' s' (t.hear c bs) [] := by
  induction hd with
  | @stop v s sess halted =>
    intro t bs h
    by_cases hpar : s.Parsing
    · have hbs : bs = [] := by
        rw [← h.pending_eq hpar]
        exact (Buffer.canRead_eq_false_iff _).1 (by simpa using fun hr => halted ⟨hr, hpar⟩)
      subst hbs
      exact h
    · exact h.rest hpar
  | turn parsing turn next ih =>
    intro t bs h
    obtain ⟨t', bs', h', heq⟩ := turn.hears h
    rw [← heq]
    exact ih h'

end Hooks

end SocksProxy
