import Mathlib.Logic.Relation
import SocksProxy.Socks.View

/-!
# The life of one session

`SessionStep` is what the server does with one session, seen from the session: an automaton on
`Slot` whose steps are the smallest pieces of a callback that keep the invariant `Slot.Ok`.  The
callbacks of `socks.c` are shown to be sequences of these steps, so a property of the history of a
session that every step keeps holds in every world the proxy can reach.

The steps follow the source one branch at a time.  Bytes enter `c2o` by `recv` and leave it one by
one through the three parsers or in bulk by `forward`; bytes enter `o2c` as replies or by `fetch`
and leave it by `send`.  A CONNECT request is answered by `refuse`, `lookup` or `dial`, in the
three situations `Deciding` lists.
-/

set_option autoImplicit false

namespace SocksProxy

/-! ## Destinations -/

section Probes

variable [Inet]

/-- `socks_dest_addr_is_denied` against a list of rules. -/
def addrDenied (rules : List AclRule) : SockAddr → Bool
  | .inet a _ => rules.any (ipRuleMatch · (Inet.ntop4 a))
  | .inet6 b _ => rules.any (ipRuleMatch · (Inet.ntop6 b))
  | .other _ => false

theorem socksDestAddrIsDenied_eq (st : MonitorStore) (addr : SockAddr) :
    socksDestAddrIsDenied st addr = addrDenied st.deniedAddresses.rules addr := by
  cases addr <;> rfl

/-- A check of a destination that found it allowed, or a connection to an allowed one. -/
def Allowed : Obs → Prop
  | .attempt a rules => addrDenied rules a = false
  | .connect a rules => addrDenied rules a = false
  | _ => False

/-- Observations of the search for an origin. -/
def Obs.isProbe : Obs → Bool
  | .attempt .. => true
  | .connect .. => true
  | _ => false

/-- A search for an origin that met allowed destinations only, each checked before `connect()`. -/
structure Probes (obs : List Obs) : Prop where
  allowed : ∀ o ∈ obs, Allowed o
  checked : ∀ a rules, Obs.connect a rules ∈ obs → Obs.attempt a rules ∈ obs

theorem Probes.nil : Probes [] := ⟨nofun, nofun⟩

theorem Probes.append {obs obs' : List Obs} (h : Probes obs) (h' : Probes obs') :
    Probes (obs ++ obs') where
  allowed := fun o ho => (List.mem_append.1 ho).elim (h.allowed o) (h'.allowed o)
  checked := fun a rules hm => List.mem_append.2 <|
    (List.mem_append.1 hm).imp (h.checked a rules) (h'.checked a rules)

/-- A check that found its destination allowed. -/
theorem Probes.attempt {a : SockAddr} {rules : List AclRule} (h : addrDenied rules a = false) :
    Probes [.attempt a rules] := ⟨by simpa [Allowed] using h, by simp⟩

/-- A check that found its destination allowed, and the connection to it. -/
theorem Probes.connect {a : SockAddr} {rules : List AclRule} (h : addrDenied rules a = false) :
    Probes [.attempt a rules, .connect a rules] := ⟨by simpa [Allowed] using h, by simp⟩

theorem Probes.isProbe {obs : List Obs} (h : Probes obs) : ∀ o ∈ obs, o.isProbe = true := by
  intro o ho
  have ha := h.allowed o ho
  cases o with
  | attempt => rfl
  | connect => rfl
  | _ => cases ha

/-- What is recorded between the decision to answer a request and the reply code `rep`.  Only a
denied destination, or a request that asked for none, is answered with
`SOCKS_REP_DENIED_BY_RULESET`. -/
def Refusal (obs : List Obs) (rep : UInt8) : Prop :=
  Probes obs ∧ (obs = [] ∨ rep ≠ socksRepDeniedByRuleset) ∨
    rep = socksRepDeniedByRuleset ∧ ∃ obs' a rules, obs = obs' ++ [.attempt a rules] ∧
      addrDenied rules a = true ∧ Probes obs'

theorem Refusal.nil (rep : UInt8) : Refusal [] rep := .inl ⟨.nil, .inl rfl⟩

/-- Allowed destinations before a refusal make no difference. -/
theorem Refusal.append {obs obs₂ : List Obs} {rep : UInt8} (hobs : Probes obs)
    (h : Refusal obs₂ rep) (hne : obs₂ ≠ []) : Refusal (obs ++ obs₂) rep := by
  rcases h with ⟨h, hrep⟩ | ⟨rfl, obs', a, rules, rfl, hd, hall⟩
  · exact .inl ⟨hobs.append h, .inr (hrep.resolve_left hne)⟩
  · exact .inr ⟨rfl, obs ++ obs', a, rules, (List.append_assoc ..).symm, hd, hobs.append hall⟩

theorem Refusal.isProbe {obs : List Obs} {rep : UInt8} (h : Refusal obs rep) :
    ∀ o ∈ obs, o.isProbe = true := by
  rcases h with ⟨h, -⟩ | ⟨-, obs', a, rules, rfl, -, h⟩
  · exact h.isProbe
  · intro o ho
    rcases List.mem_append.1 ho with ho | ho
    · exact h.isProbe o ho
    · rw [List.mem_singleton.1 ho]
      rfl

omit [Inet] in
/-- A selection of the history without probes does not see them. -/
theorem filter_probes {p : Obs → Bool} (hp : ∀ o, p o = true → o.isProbe = false) {obs : List Obs}
    (h : ∀ o ∈ obs, o.isProbe = true) : obs.filter p = [] := by
  refine List.filter_eq_nil_iff.2 fun o ho hpo => ?_
  have := hp o hpo
  rw [h o ho] at this
  cases this

end Probes

/-! ## The steps -/

/-- The situations in which a CONNECT request is answered, with the session as it is then. -/
inductive Deciding : SocksSession → SocksSession → Prop
  /-- The last byte of the request was consumed. -/
  | request {s : SocksSession} {byte : UInt8} {rest : Bytes} {p : RequestParser}
      {status : RequestStatus} (st : stmState s = .request) (pending : s.c2o.pending = byte :: rest)
      (feed : requestParserFeed s.request byte = (p, status)) (done : status ≠ .needMore) :
      Deciding s { s with request := p, c2o := s.c2o.readAdv 1 }
  /-- The resolution is over. -/
  | resolving {s : SocksSession} (st : stmState s = .resolving) (settled : s.dnsResolving = false) :
      Deciding s s
  /-- The connection attempt failed. -/
  | connecting {s : SocksSession} (st : stmState s = .originConnecting) :
      Deciding s { s with originFd := none }

/-- What is recorded when a session is closed: the end of file or the expiry that caused it. -/
inductive Ending (sl : Slot) (s : SocksSession) : List Obs → Prop
  | plain : Ending sl s []
  | clientEof : Ending sl s [.recv []]
  | originEof {i : FdInterest} (armed : sl.origin = some i) (read : i.read = true) :
      Ending sl s [.fetched []]
  | expired (st : stmState s = .relay) : Ending sl s [.expired .relay]

variable [Inet]

/-- What the steps of a callback may do beside the ordinary. -/
inductive Mode where
  | plain
  /-- Pass bytes between the origin and a session that was refused. -/
  | late
  /-- Run `handle_block`. -/
  | block

/-- Whether bytes may pass between the session and its origin. -/
def Served (mode : Mode) (s : SocksSession) : Prop :=
  stmState s = .relay ∨ mode = .late ∧ stmState s = .done

/-- One step in the life of a session. -/
inductive SessionStep (mode : Mode) : Slot → Slot → Prop
  /-- `socks_passive_read` registered the session. -/
  | accept {sl : Slot} {fd : Fd} {size now : ℕ} {id : UInt32} (fresh : sl.used = false)
      (size_le : 1024 ≤ size) :
      SessionStep mode sl { sl with
        sess := some (socksSessionInit fd size now id), client := some opRead, idle := true
        used := true }
  /-- `socks_passive_read` allocated the session and freed it again. -/
  | discard {sl : Slot} (fresh : sl.used = false) : SessionStep mode sl { sl with used := true }
  /-- Fields that only the store and the idle list look at. -/
  | book {sl : Slot} {s : SocksSession} {stm : Option SocksState} {id : UInt32} {t : ℕ} {d : Bool}
      (sess : sl.sess = some s) (stm_eq : stm = s.stm ∨ stm = some (stmState s)) :
      SessionStep mode sl { sl with sess := some { s with
        stm := stm, storeId := id, lastActivity := t, destRecorded := d } }
  | recv {sl : Slot} {s : SocksSession} {bs : Bytes} (sess : sl.sess = some s) (ne : bs ≠ [])
      (fits : bs.length ≤ s.c2o.space) :
      SessionStep mode sl { sl with
        sess := some { s with c2o := s.c2o.append bs }, hist := sl.hist ++ [.recv bs] }
  | greetMore {sl : Slot} {s : SocksSession} {byte : UInt8} {rest : Bytes} {p : GreetingParser}
      (sess : sl.sess = some s) (st : stmState s = .authGreeting)
      (pending : s.c2o.pending = byte :: rest)
      (feed : greetingParserFeed s.greeting byte = (p, .needMore)) :
      SessionStep mode sl { sl with sess := some { s with greeting := p, c2o := s.c2o.readAdv 1 } }
  | greetAccept {sl : Slot} {s : SocksSession} {byte : UInt8} {rest : Bytes} {p : GreetingParser}
      (sess : sl.sess = some s) (st : stmState s = .authGreeting)
      (pending : s.c2o.pending = byte :: rest)
      (feed : greetingParserFeed s.greeting byte = (p, .accept)) :
      SessionStep mode sl { sl with
        sess := some { s with
          greeting := p, c2o := s.c2o.readAdv 1, o2c := s.o2c.append [0x05, p.chosenMethod]
          stm := some (if p.chosenMethod = socksMethodUserpass then .authUserpass else .request) }
        hist := sl.hist ++ [.reply [0x05, p.chosenMethod], .greeted p.chosenMethod] }
  | greetReject {sl : Slot} {s : SocksSession} {byte : UInt8} {rest : Bytes} {p : GreetingParser}
      (sess : sl.sess = some s) (st : stmState s = .authGreeting)
      (pending : s.c2o.pending = byte :: rest)
      (feed : greetingParserFeed s.greeting byte = (p, .reject)) :
      SessionStep mode sl { sl with
        sess := some { s with
          greeting := p, c2o := s.c2o.readAdv 1, o2c := s.o2c.append [0x05, 0xFF]
          closeAfterFlush := true, stm := some .done }
        hist := sl.hist ++ [.reply [0x05, 0xFF]] }
  | authMore {sl : Slot} {s : SocksSession} {byte : UInt8} {rest : Bytes} {p : AuthParser}
      (sess : sl.sess = some s) (st : stmState s = .authUserpass)
      (pending : s.c2o.pending = byte :: rest)
      (feed : authParserFeed s.auth byte = (p, .needMore)) :
      SessionStep mode sl { sl with sess := some { s with auth := p, c2o := s.c2o.readAdv 1 } }
  | authAccept {sl : Slot} {s : SocksSession} {byte : UInt8} {rest : Bytes} {p : AuthParser}
      {store : MonitorStore} (sess : sl.sess = some s) (st : stmState s = .authUserpass)
      (pending : s.c2o.pending = byte :: rest) (feed : authParserFeed s.auth byte = (p, .parsed))
      (valid : socksAuthValidate p store = true) :
      SessionStep mode sl { sl with
        sess := some { s with
          auth := p, c2o := s.c2o.readAdv 1, o2c := s.o2c.append [0x01, 0x00]
          stm := some .request }
        hist := sl.hist ++ [.validated p store, .reply [0x01, 0x00]] }
  | authReject {sl : Slot} {s : SocksSession} {byte : UInt8} {rest : Bytes} {p : AuthParser}
      {status : AuthStatus} (sess : sl.sess = some s) (st : stmState s = .authUserpass)
      (pending : s.c2o.pending = byte :: rest) (feed : authParserFeed s.auth byte = (p, status))
      (done : status ≠ .needMore) :
      SessionStep mode sl { sl with
        sess := some { s with
          auth := p, c2o := s.c2o.readAdv 1, o2c := s.o2c.append [0x01, 0x01]
          closeAfterFlush := true, stm := some .done }
        hist := sl.hist ++ [.reply [0x01, 0x01]] }
  | requestMore {sl : Slot} {s : SocksSession} {byte : UInt8} {rest : Bytes} {p : RequestParser}
      (sess : sl.sess = some s) (st : stmState s = .request)
      (pending : s.c2o.pending = byte :: rest)
      (feed : requestParserFeed s.request byte = (p, .needMore)) :
      SessionStep mode sl { sl with sess := some { s with request := p, c2o := s.c2o.readAdv 1 } }
  /-- `socks_fail_request`, up to the flush. -/
  | refuse {sl : Slot} {s s₁ : SocksSession} {obs : List Obs} {rep : UInt8} {id : UInt32}
      {dest : Option SockAddr} {result cursor : List SockAddr} {rc : GaiRc} {resolving : Bool}
      (sess : sl.sess = some s) (deciding : Deciding s s₁) (refusal : Refusal obs rep)
      (rep_ne : rep ≠ socksRepSucceeded) :
      SessionStep mode sl { sl with
        sess := some { s₁ with
          destAddr := dest, dnsResult := result, dnsCursor := cursor, dnsGaiRc := rc
          dnsResolving := resolving, storeId := id, o2c := s₁.o2c.append (connectReply rep)
          closeAfterFlush := true, stm := some .done }
        origin := none
        hist := sl.hist ++ obs ++ [.reply (connectReply rep)] }
  /-- `socks_start_dns_resolve`. -/
  | lookup {sl : Slot} {s : SocksSession} {byte : UInt8} {rest : Bytes} {p : RequestParser}
      (sess : sl.sess = some s) (st : stmState s = .request)
      (pending : s.c2o.pending = byte :: rest)
      (feed : requestParserFeed s.request byte = (p, .parsedFqdn)) :
      SessionStep mode sl { sl with
        sess := some { s with
          request := p, c2o := s.c2o.readAdv 1, dnsResolving := true, dnsGaiRc := .ok
          dnsResult := [], dnsCursor := [], stm := some .resolving }
        hist := sl.hist ++ [.lookup (requestFqdn p)] }
  /-- `socks_begin_origin_connect`, when it returns `SOCKS_ST_ORIGIN_CONNECTING`. -/
  | dial {sl : Slot} {s s₁ : SocksSession} {obs : List Obs} {fd : Fd} {id : UInt32}
      {dest : Option SockAddr} {result cursor : List SockAddr} {rc : GaiRc} {resolving : Bool}
      (sess : sl.sess = some s) (deciding : Deciding s s₁) (allowed : Probes obs)
      (ends : ∃ obs' a rules, obs = obs' ++ [.connect a rules]) :
      SessionStep mode sl { sl with
        sess := some { s₁ with
          destAddr := dest, dnsResult := result, dnsCursor := cursor, dnsGaiRc := rc
          dnsResolving := resolving, storeId := id, originFd := some fd
          stm := some .originConnecting }
        origin := some opWrite
        hist := sl.hist ++ obs }
  /-- `socks_origin_connect_complete`, on success. -/
  | connected {sl : Slot} {s : SocksSession} (sess : sl.sess = some s)
      (st : stmState s = .originConnecting) :
      SessionStep mode sl { sl with
        sess := some { s with
          o2c := s.o2c.append (connectReply socksRepSucceeded), stm := some .relay }
        hist := sl.hist ++ [.reply (connectReply socksRepSucceeded)] }
  | send {sl : Slot} {s : SocksSession} {n : ℕ} (sess : sl.sess = some s)
      (ne : s.o2c.pending ≠ []) :
      SessionStep mode sl { sl with
        sess := some { s with o2c := (s.o2c.readAdv (min n s.o2c.pending.length)).compact }
        hist := sl.hist ++ [.sent (s.o2c.pending.take n) s.o2c.pending.length] }
  | sendBlocked {sl : Slot} {s : SocksSession} (sess : sl.sess = some s)
      (ne : s.o2c.pending ≠ []) :
      SessionStep mode sl { sl with hist := sl.hist ++ [.sent [] s.o2c.pending.length] }
  | forward {sl : Slot} {s : SocksSession} {n : ℕ} (sess : sl.sess = some s)
      (origin : s.originFd ≠ none) (served : Served mode s) (ne : s.c2o.pending ≠ []) :
      SessionStep mode sl { sl with
        sess := some { s with c2o := (s.c2o.readAdv (min n s.c2o.pending.length)).compact }
        hist := sl.hist ++
          [.forwarded (stmState s) (s.c2o.pending.take n) s.c2o.pending.length] }
  | forwardBlocked {sl : Slot} {s : SocksSession} (sess : sl.sess = some s)
      (origin : s.originFd ≠ none) (served : Served mode s) (ne : s.c2o.pending ≠ []) :
      SessionStep mode sl { sl with
        hist := sl.hist ++ [.forwarded (stmState s) [] s.c2o.pending.length] }
  | fetch {sl : Slot} {s : SocksSession} {bs : Bytes} {i : FdInterest} (sess : sl.sess = some s)
      (armed : sl.origin = some i) (read : i.read = true) (served : Served mode s)
      (ne : bs ≠ []) (fits : bs.length ≤ s.o2c.space) :
      SessionStep mode sl { sl with
        sess := some { s with o2c := s.o2c.append bs }, hist := sl.hist ++ [.fetched bs] }
  | armClient {sl : Slot} {s : SocksSession} (sess : sl.sess = some s) :
      SessionStep mode sl { sl with client := some (socksClientInterest s) }
  | armOrigin {sl : Slot} {s : SocksSession} (sess : sl.sess = some s)
      (origin : s.originFd ≠ none) (st : stmState s ≠ .originConnecting) :
      SessionStep mode sl { sl with origin := some (socksOriginInterest s) }
  /-- `socks_expire_session_pre_relay`, up to the flush. -/
  | expire {sl : Slot} {s : SocksSession} (sess : sl.sess = some s) (idle : sl.idle = true)
      (st : stmState s ≠ .relay) :
      SessionStep mode sl { sl with
        sess := some { s with
          ttlExpired := true, o2c := s.o2c.append (connectReply socksRepTtlExpired)
          closeAfterFlush := true, stm := some .done }
        idle := false
        hist := sl.hist ++
          [.expired (stmState s), .reply (connectReply socksRepTtlExpired)] }
  | block {sl : Slot} {s : SocksSession} (owner : Sid) (mode_eq : mode = .block)
      (sess : sl.sess = some s) :
      SessionStep mode sl { sl with hist := sl.hist ++ [.block owner (stmState s)] }
  /-- The end of the resolver thread. -/
  | resolved {sl : Slot} {s : SocksSession} {rc : GaiRc} {result : List SockAddr}
      (sess : sl.sess = some s) :
      SessionStep mode sl { sl with sess := some { s with
        dnsResolving := false, dnsGaiRc := rc, dnsResult := result } }
  /-- `socks_client_close`. -/
  | close {sl : Slot} {s : SocksSession} {why : List Obs} (sess : sl.sess = some s)
      (ending : Ending sl s why) :
      SessionStep mode sl { sl with
        sess := none, client := none, origin := none, idle := false
        hist := sl.hist ++ why ++ [.closed] }

/-- `SessionStep.book`, for sessions that are given rather than built. -/
theorem SessionStep.booked {mode : Mode} {sl sl' : Slot} {s s' : SocksSession}
    (sess : sl.sess = some s)
    (sl_eq : sl' = { sl with sess := some s' })
    (s_eq : s' = { s with
      stm := s'.stm, storeId := s'.storeId, lastActivity := s'.lastActivity
      destRecorded := s'.destRecorded })
    (stm_eq : s'.stm = s.stm ∨ s'.stm = some (stmState s)) : SessionStep mode sl sl' := by
  rw [sl_eq, s_eq]
  exact .book sess stm_eq

/-- A sequence of steps in the life of a session. -/
abbrev SessionSteps (mode : Mode) : Slot → Slot → Prop :=
  Relation.ReflTransGen (SessionStep mode)

/-! ## The invariant -/

/-- How many bytes of replies can be pending before the tunnel is up. -/
def SocksState.replyBound : SocksState → ℕ
  | .authGreeting => 0
  | .authUserpass => 2
  | _ => 4

/-- Whether a session in this state can have an origin. -/
def SocksState.hasOrigin : SocksState → Bool
  | .originConnecting => true
  | .relay => true
  | .done => true
  | _ => false

/-- Whether a session in this state has passed the handshake for good. -/
def SocksState.isPast : SocksState → Bool
  | .relay => true
  | .done => true
  | _ => false

omit [Inet] in
theorem SocksState.eq_done_of_isPast {st : SocksState} (h : st.isPast = true) (hne : st ≠ .relay) :
    st = .done := by
  cases st <;> simp_all [SocksState.isPast]

/-- The invariant of an open session, given its state. -/
structure Slot.SessionOk (sl : Slot) (s : SocksSession) (st : SocksState) : Prop where
  client : sl.client ≠ none
  origin : s.originFd = none ↔ sl.origin = none
  c2oLimit : 1024 ≤ s.c2o.limit
  o2cLimit : 1024 ≤ s.o2c.limit
  o2cRead : s.o2c.read = 0
  hasOrigin : sl.origin ≠ none → st.hasOrigin = true
  needsOrigin : st = .originConnecting ∨ st = .relay → sl.origin ≠ none
  reading : ∀ i, sl.origin = some i → i.read = true → st.isPast = true
  flush : s.closeAfterFlush = true ↔ st = .done
  bound : st.isPast = false → s.o2c.pending.length ≤ st.replyBound
  boundDone : sl.idle = true → st = .done → s.o2c.pending.length ≤ 14 ∧ sl.origin = none

/-- The invariant of a slot. -/
structure Slot.Ok (sl : Slot) : Prop where
  fresh : sl.used = false → sl.hist = []
  used : sl.sess ≠ none → sl.used = true
  closed : sl.sess = none → sl.client = none ∧ sl.origin = none ∧ sl.idle = false
  session : ∀ s, sl.sess = some s → sl.SessionOk s (stmState s)

section Ok

variable {sl sl' : Slot} {s : SocksSession}

omit [Inet] in
/-- An open slot is fine when its session is. -/
theorem Slot.Ok.of_session (hs : sl.sess = some s) (hu : sl.used = true)
    (h : sl.SessionOk s (stmState s)) : sl.Ok where
  fresh := fun hf => by rw [hu] at hf; cases hf
  used := fun _ => hu
  closed := fun hn => by rw [hs] at hn; cases hn
  session := fun s' hs' => by rw [hs] at hs'; cases hs'; exact h

omit [Inet] in
theorem Slot.SessionOk.space {st : SocksState} (h : sl.SessionOk s st) :
    s.o2c.space = s.o2c.limit - s.o2c.pending.length :=
  s.o2c.space_of_read_eq_zero h.o2cRead

omit [Inet] in
/-- There is room for a reply as long as the tunnel is not up. -/
theorem Slot.SessionOk.room {st : SocksState} (h : sl.SessionOk s st) (hst : st.isPast = false)
    {n : ℕ} (hn : n ≤ 1000) : n ≤ s.o2c.space := by
  have h1 := h.bound hst
  have h2 := h.o2cLimit
  have h3 : st.replyBound ≤ 4 := by cases st <;> simp [SocksState.replyBound]
  rw [h.space]
  omega

omit [Inet] in
/-- There is room for the reply that expiry sends. -/
theorem Slot.SessionOk.room_of_idle {st : SocksState} (h : sl.SessionOk s st)
    (hidle : sl.idle = true) (hst : st ≠ .relay) {n : ℕ} (hn : n ≤ 1000) :
    n ≤ s.o2c.space := by
  by_cases hd : st = .done
  · have h1 := (h.boundDone hidle hd).1
    have h2 := h.o2cLimit
    rw [h.space]
    omega
  · refine h.room ?_ hn
    cases st <;> simp_all [SocksState.isPast]

omit [Inet] in
/-- A step that touches neither the registrations nor `o2c` nor the state. -/
theorem Slot.SessionOk.quiet {st : SocksState} {s' : SocksSession} (h : sl.SessionOk s st)
    (hc : sl'.client = sl.client) (ho : sl'.origin = sl.origin) (hi : sl'.idle = sl.idle)
    (hfd : s'.originFd = s.originFd) (hlim : s'.c2o.limit = s.c2o.limit) (ho2c : s'.o2c = s.o2c)
    (hcaf : s'.closeAfterFlush = s.closeAfterFlush) : sl'.SessionOk s' st where
  client := hc ▸ h.client
  origin := by rw [hfd, ho]; exact h.origin
  c2oLimit := hlim ▸ h.c2oLimit
  o2cLimit := ho2c ▸ h.o2cLimit
  o2cRead := ho2c ▸ h.o2cRead
  hasOrigin := ho ▸ h.hasOrigin
  needsOrigin := ho ▸ h.needsOrigin
  reading := ho ▸ h.reading
  flush := by rw [hcaf]; exact h.flush
  bound := ho2c ▸ h.bound
  boundDone := by rw [hi, ho, ho2c]; exact h.boundDone

omit [Inet] in
/-- A handshake reply moves a session without an origin to a state that has none. -/
theorem Slot.SessionOk.advance {st st' : SocksState} {s' : SocksSession} {bs : Bytes}
    (h : sl.SessionOk s st) (hc : sl'.client = sl.client) (ho : sl'.origin = none)
    (hfd : s'.originFd = none) (hlim : s'.c2o.limit = s.c2o.limit)
    (ho2c : s'.o2c = s.o2c.append bs) (hst : st.isPast = false) (hlen : bs.length ≤ 10)
    (hno : st' ≠ .originConnecting ∧ st' ≠ .relay)
    (hcaf : s'.closeAfterFlush = true ↔ st' = .done)
    (hb : st'.isPast = false → st.replyBound + bs.length ≤ st'.replyBound) :
    sl'.SessionOk s' st' := by
  have hroom : bs.length ≤ s.o2c.space := h.room hst (by omega)
  have hp : s'.o2c.pending = s.o2c.pending ++ bs := by rw [ho2c, s.o2c.pending_append hroom]
  have hb0 := h.bound hst
  have hb4 : st.replyBound ≤ 4 := by cases st <;> simp [SocksState.replyBound]
  exact {
    client := hc ▸ h.client
    origin := iff_of_true hfd ho
    c2oLimit := hlim ▸ h.c2oLimit
    o2cLimit := by rw [ho2c, Buffer.limit_append]; exact h.o2cLimit
    o2cRead := by rw [ho2c, Buffer.read_append]; exact h.o2cRead
    hasOrigin := fun hne => absurd ho hne
    needsOrigin := fun hor => absurd hor (not_or.2 hno)
    reading := fun i hi => by rw [ho] at hi; cases hi
    flush := hcaf
    bound := fun hp' => by
      have := hb hp'
      rw [hp, List.length_append]
      omega
    boundDone := fun _ _ => ⟨by rw [hp, List.length_append]; omega, ho⟩ }

omit [Inet] in
theorem Slot.SessionOk.originFd_eq_none {st : SocksState} (h : sl.SessionOk s st)
    (hst : st.hasOrigin = false) : s.originFd = none := by
  by_contra hne
  rw [h.hasOrigin (fun ho => hne (h.origin.2 ho))] at hst
  cases hst

end Ok

namespace Deciding

omit [Inet]

variable {s s₁ : SocksSession} (h : Deciding s s₁)

include h

theorem o2c_eq : s₁.o2c = s.o2c := by cases h <;> rfl

theorem clientFd_eq : s₁.clientFd = s.clientFd := by cases h <;> rfl

theorem closeAfterFlush_eq : s₁.closeAfterFlush = s.closeAfterFlush := by cases h <;> rfl

theorem ttlExpired_eq : s₁.ttlExpired = s.ttlExpired := by cases h <;> rfl

theorem c2oLimit_eq : s₁.c2o.limit = s.c2o.limit := by
  cases h with
  | request => exact Buffer.limit_readAdv ..
  | resolving => rfl
  | connecting => rfl

theorem isPast_eq : (stmState s).isPast = false := by
  cases h with
  | request st => rw [st]; rfl
  | resolving st => rw [st]; rfl
  | connecting st => rw [st]; rfl

theorem originFd_eq {sl : Slot} (hok : sl.SessionOk s (stmState s)) : s₁.originFd = none := by
  cases h with
  | request st => exact hok.originFd_eq_none (by rw [st]; rfl)
  | resolving st => exact hok.originFd_eq_none (by rw [st]; rfl)
  | connecting => rfl

end Deciding

/-- Every step keeps the invariant. -/
theorem SessionStep.ok {mode : Mode} {sl sl' : Slot} (h : SessionStep mode sl sl') (hok : sl.Ok) :
    sl'.Ok := by
  cases h with
  | accept fresh size_le =>
    have hn : sl.sess = none := by
      by_contra hne
      rw [hok.used hne] at fresh
      cases fresh
    refine .of_session rfl rfl ?_
    exact {
      client := by simp
      origin := iff_of_true rfl (hok.closed hn).2.1
      c2oLimit := size_le
      o2cLimit := size_le
      o2cRead := rfl
      hasOrigin := fun hne => absurd (hok.closed hn).2.1 hne
      needsOrigin := fun hor => by rcases hor with h | h <;> cases h
      reading := fun i hi => by rw [(hok.closed hn).2.1] at hi; cases hi
      flush := by simp [socksSessionInit, stmState]
      bound := fun _ => by simp [socksSessionInit]
      boundDone := fun _ h => by cases h }
  | discard fresh =>
    have hn : sl.sess = none := by
      by_contra hne
      rw [hok.used hne] at fresh
      cases fresh
    exact ⟨fun h => absurd h (by simp), fun hne => absurd hn hne, hok.closed,
      fun s hs => absurd hs (by simp [hn])⟩
  | book sess stm_eq =>
    refine .of_session rfl (hok.used (by simp [sess])) ?_
    have := hok.session _ sess
    rcases stm_eq with rfl | rfl
    · exact this.quiet rfl rfl rfl rfl rfl rfl rfl
    · exact this.quiet rfl rfl rfl rfl rfl rfl rfl
  | recv sess =>
    refine .of_session rfl (hok.used (by simp [sess])) ?_
    exact (hok.session _ sess).quiet rfl rfl rfl rfl rfl rfl rfl
  | greetMore sess =>
    refine .of_session rfl (hok.used (by simp [sess])) ?_
    exact (hok.session _ sess).quiet rfl rfl rfl rfl (Buffer.limit_readAdv ..) rfl rfl
  | authMore sess =>
    refine .of_session rfl (hok.used (by simp [sess])) ?_
    exact (hok.session _ sess).quiet rfl rfl rfl rfl (Buffer.limit_readAdv ..) rfl rfl
  | requestMore sess =>
    refine .of_session rfl (hok.used (by simp [sess])) ?_
    exact (hok.session _ sess).quiet rfl rfl rfl rfl (Buffer.limit_readAdv ..) rfl rfl
  | resolved sess =>
    refine .of_session rfl (hok.used (by simp [sess])) ?_
    exact (hok.session _ sess).quiet rfl rfl rfl rfl rfl rfl rfl
  | block owner _ sess =>
    refine .of_session sess (hok.used (by simp [sess])) ?_
    exact (hok.session _ sess).quiet rfl rfl rfl rfl rfl rfl rfl
  | sendBlocked sess =>
    refine .of_session sess (hok.used (by simp [sess])) ?_
    exact (hok.session _ sess).quiet rfl rfl rfl rfl rfl rfl rfl
  | forwardBlocked sess =>
    refine .of_session sess (hok.used (by simp [sess])) ?_
    exact (hok.session _ sess).quiet rfl rfl rfl rfl rfl rfl rfl
  | forward sess =>
    refine .of_session rfl (hok.used (by simp [sess])) ?_
    exact (hok.session _ sess).quiet rfl rfl rfl rfl (by simp) rfl rfl
  | @greetAccept s _ _ p sess st =>
    have hs := hok.session _ sess
    rw [st] at hs
    have ho := hs.originFd_eq_none rfl
    have hf := hs.flush
    refine .of_session rfl (hok.used (by simp [sess])) (show Slot.SessionOk _ _
      (if p.chosenMethod = socksMethodUserpass then .authUserpass else .request) from ?_)
    refine hs.advance rfl (hs.origin.1 ho) ho (Buffer.limit_readAdv ..) rfl rfl (by simp) ?_ ?_ ?_
    · split <;> simp
    · split <;> simpa using hf
    · split <;> simp [SocksState.replyBound]
  | greetReject sess st =>
    refine .of_session rfl (hok.used (by simp [sess])) (show Slot.SessionOk _ _ .done from ?_)
    have hs := hok.session _ sess
    rw [st] at hs
    have ho := hs.originFd_eq_none rfl
    exact hs.advance rfl (hs.origin.1 ho) ho (Buffer.limit_readAdv ..) rfl rfl (by simp) (by simp)
      (by simp) (by simp [SocksState.isPast])
  | authAccept sess st =>
    refine .of_session rfl (hok.used (by simp [sess])) (show Slot.SessionOk _ _ .request from ?_)
    have hs := hok.session _ sess
    rw [st] at hs
    have ho := hs.originFd_eq_none rfl
    exact hs.advance rfl (hs.origin.1 ho) ho (Buffer.limit_readAdv ..) rfl rfl (by simp) (by simp)
      (by simpa using hs.flush) (by simp [SocksState.replyBound])
  | authReject sess st =>
    refine .of_session rfl (hok.used (by simp [sess])) (show Slot.SessionOk _ _ .done from ?_)
    have hs := hok.session _ sess
    rw [st] at hs
    have ho := hs.originFd_eq_none rfl
    exact hs.advance rfl (hs.origin.1 ho) ho (Buffer.limit_readAdv ..) rfl rfl (by simp) (by simp)
      (by simp) (by simp [SocksState.isPast])
  | refuse sess deciding =>
    refine .of_session rfl (hok.used (by simp [sess])) (show Slot.SessionOk _ _ .done from ?_)
    have hs := hok.session _ sess
    exact hs.advance rfl rfl (deciding.originFd_eq hs) deciding.c2oLimit_eq
      (by rw [deciding.o2c_eq]) deciding.isPast_eq (by simp [connectReply]) (by simp) (by simp)
      (by simp [SocksState.isPast])
  | lookup sess st =>
    refine .of_session rfl (hok.used (by simp [sess])) (show Slot.SessionOk _ _ .resolving from ?_)
    have hs := hok.session _ sess
    rw [st] at hs
    have ho := hs.originFd_eq_none rfl
    have ho' := hs.origin.1 ho
    exact { hs with
      c2oLimit := by rw [Buffer.limit_readAdv]; exact hs.c2oLimit
      hasOrigin := fun hne => absurd ho' hne
      needsOrigin := by simp
      reading := fun i hi => by rw [ho'] at hi; cases hi
      flush := by simpa using hs.flush
      boundDone := by simp }
  | dial sess deciding =>
    refine .of_session rfl (hok.used (by simp [sess])) (show Slot.SessionOk _ _ .originConnecting from ?_)
    have hs := hok.session _ sess
    have hp := deciding.isPast_eq
    have hb := hs.bound hp
    exact {
      client := hs.client
      origin := by simp
      c2oLimit := by rw [deciding.c2oLimit_eq]; exact hs.c2oLimit
      o2cLimit := by rw [deciding.o2c_eq]; exact hs.o2cLimit
      o2cRead := by rw [deciding.o2c_eq]; exact hs.o2cRead
      hasOrigin := fun _ => rfl
      needsOrigin := by simp
      reading := by rintro i ⟨⟩ hr; cases hr
      flush := by
        have hne : stmState _ ≠ .done := fun hd => by rw [hd] at hp; cases hp
        have := hs.flush
        rw [deciding.closeAfterFlush_eq]
        simpa [hne] using this
      bound := fun _ => by
        rw [deciding.o2c_eq]
        refine Nat.le_trans hb ?_
        show _ ≤ 4
        cases stmState _ <;> simp [SocksState.replyBound]
      boundDone := by simp }
  | connected sess st =>
    refine .of_session rfl (hok.used (by simp [sess])) (show Slot.SessionOk _ _ .relay from ?_)
    have hs := hok.session _ sess
    rw [st] at hs
    exact {
      client := hs.client
      origin := hs.origin
      c2oLimit := hs.c2oLimit
      o2cLimit := hs.o2cLimit
      o2cRead := hs.o2cRead
      hasOrigin := fun _ => rfl
      needsOrigin := fun _ => hs.needsOrigin (.inl rfl)
      reading := fun _ _ _ => rfl
      flush := by simpa using hs.flush
      bound := by simp [SocksState.isPast]
      boundDone := by simp }
  | @send s n sess =>
    refine .of_session rfl (hok.used (by simp [sess])) ?_
    have hs := hok.session _ sess
    have hle : ((s.o2c.readAdv (min n s.o2c.pending.length)).compact).pending.length ≤
        s.o2c.pending.length := by
      rw [Buffer.pending_compact, Buffer.pending_readAdv, List.length_drop]
      omega
    exact { hs with
      o2cLimit := by simpa using hs.o2cLimit
      o2cRead := Buffer.read_compact _
      bound := fun hp => Nat.le_trans hle (hs.bound hp)
      boundDone := fun hi hd =>
        ⟨Nat.le_trans hle (hs.boundDone hi hd).1, (hs.boundDone hi hd).2⟩ }
  | fetch sess armed read =>
    refine .of_session rfl (hok.used (by simp [sess])) ?_
    have hs := hok.session _ sess
    have hp := hs.reading _ armed read
    exact { hs with
      bound := fun hp' => absurd (hp.symm.trans hp') (by simp)
      boundDone := fun hi hd => by
        have := (hs.boundDone hi hd).2
        rw [armed] at this
        cases this }
  | armClient sess =>
    refine .of_session sess (hok.used (by simp [sess])) ?_
    exact { hok.session _ sess with client := by simp }
  | armOrigin sess origin st =>
    refine .of_session sess (hok.used (by simp [sess])) ?_
    have hs := hok.session _ sess
    have hne : sl.origin ≠ none := fun ho => origin (hs.origin.2 ho)
    have hh := hs.hasOrigin hne
    exact { hs with
      origin := by simp [origin]
      hasOrigin := fun _ => hh
      needsOrigin := by simp
      reading := fun _ _ _ => by
        cases hst : stmState _ <;> simp_all [SocksState.hasOrigin, SocksState.isPast]
      boundDone := fun hi hd => absurd (hs.boundDone hi hd).2 hne }
  | expire sess idle st =>
    refine .of_session rfl (hok.used (by simp [sess])) (show Slot.SessionOk _ _ .done from ?_)
    have hs := hok.session _ sess
    exact { hs with
      hasOrigin := fun _ => rfl
      needsOrigin := by simp
      reading := fun _ _ _ => rfl
      flush := by simp
      bound := by simp [SocksState.isPast]
      boundDone := by simp }
  | close sess =>
    refine ⟨fun hf => ?_, fun hne => absurd rfl hne, fun _ => ⟨rfl, rfl, rfl⟩, fun s hs => ?_⟩
    · rw [show _ = true from hok.used (by simp [sess])] at hf
      cases hf
    · cases hs

/-- A sequence of steps keeps the invariant. -/
theorem SessionSteps.ok {mode : Mode} {sl sl' : Slot} (h : SessionSteps mode sl sl') (hok : sl.Ok) :
    sl'.Ok := by
  induction h with
  | refl => exact hok
  | tail _ hstep ih => exact hstep.ok ih

/-- What every step keeps, a sequence of steps keeps. -/
theorem SessionSteps.keeps {mode : Mode} {P : Slot → Prop}
    (hP : ∀ {sl sl'}, SessionStep mode sl sl' → sl.Ok → P sl → P sl') {sl sl' : Slot}
    (h : SessionSteps mode sl sl') (hok : sl.Ok) (hp : P sl) : P sl' := by
  have hboth : sl'.Ok ∧ P sl' := by
    induction h with
    | refl => exact ⟨hok, hp⟩
    | tail _ hstep ih => exact ⟨hstep.ok ih.1, hP hstep ih.1 ih.2⟩
  exact hboth.2

/-! ## What lasts -/

/-- An open session was open before, on the same socket, and an expired one stays so. -/
structure Persists (sl sl' : Slot) : Prop where
  used : sl'.used = true
  sess : ∀ s', sl'.sess = some s' → ∃ s, sl.sess = some s ∧ s'.clientFd = s.clientFd ∧
    (s.ttlExpired = true → s'.ttlExpired = true)

theorem SessionStep.persists {mode : Mode} {sl sl' : Slot} (h : SessionStep mode sl sl')
    (hu : sl.used = true) : Persists sl sl' := by
  have hkeep : ∀ {s s₁ : SocksSession}, sl.sess = some s → s₁.clientFd = s.clientFd →
      (s.ttlExpired = true → s₁.ttlExpired = true) → ∀ s', some s₁ = some s' →
      ∃ s, sl.sess = some s ∧ s'.clientFd = s.clientFd ∧
        (s.ttlExpired = true → s'.ttlExpired = true) := by
    rintro s s₁ hs hfd ht s' ⟨⟩
    exact ⟨s, hs, hfd, ht⟩
  have hsame : ∀ s', sl.sess = some s' → ∃ s, sl.sess = some s ∧ s'.clientFd = s.clientFd ∧
      (s.ttlExpired = true → s'.ttlExpired = true) := fun s' hs' => ⟨s', hs', rfl, id⟩
  cases h with
  | accept fresh => rw [hu] at fresh; cases fresh
  | discard fresh => rw [hu] at fresh; cases fresh
  | refuse sess deciding | dial sess deciding =>
    exact ⟨hu, hkeep sess deciding.clientFd_eq fun ht => deciding.ttlExpired_eq.trans ht⟩
  | expire sess => exact ⟨hu, hkeep sess rfl fun _ => rfl⟩
  | close => exact ⟨hu, fun _ h => by cases h⟩
  | sendBlocked | forwardBlocked | armClient | armOrigin | block => exact ⟨hu, hsame⟩
  | book sess | recv sess | greetMore sess | greetAccept sess | greetReject sess | authMore sess
  | authAccept sess | authReject sess | requestMore sess | lookup sess | connected sess
  | send sess | forward sess | fetch sess | resolved sess => exact ⟨hu, hkeep sess rfl id⟩

theorem SessionSteps.persists {mode : Mode} {sl sl' : Slot} (h : SessionSteps mode sl sl')
    (hu : sl.used = true) : Persists sl sl' := by
  induction h with
  | refl => exact ⟨hu, fun s hs => ⟨s, hs, rfl, id⟩⟩
  | tail _ hstep ih =>
    obtain ⟨hu', hsess⟩ := hstep.persists ih.used
    refine ⟨hu', fun s'' hs'' => ?_⟩
    obtain ⟨s', hs', hfd', ht'⟩ := hsess s'' hs''
    obtain ⟨s, hs, hfd, ht⟩ := ih.sess s' hs'
    exact ⟨s, hs, hfd'.trans hfd, ht' ∘ ht⟩

/-- The ordinary is always possible. -/
theorem SessionSteps.mono {mode : Mode} {sl sl' : Slot} (h : SessionSteps .plain sl sl') :
    SessionSteps mode sl sl' := by
  refine Relation.ReflTransGen.mono (fun a b hab => ?_) _ _ h
  have hserved : ∀ {s : SocksSession}, Served .plain s → Served mode s := fun hs =>
    hs.imp id fun hc => by cases hc.1
  cases hab with
  | forward sess origin served ne => exact .forward sess origin (hserved served) ne
  | forwardBlocked sess origin served ne => exact .forwardBlocked sess origin (hserved served) ne
  | fetch sess armed read served ne fits => exact .fetch sess armed read (hserved served) ne fits
  | block owner mode_eq => cases mode_eq
  | _ => constructor <;> assumption

end SocksProxy
