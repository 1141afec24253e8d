import SocksProxy.Socks.Durable

/-!
# The registrations of the others

The selector is shared: beside the sockets of the sessions it holds the two listening sockets and
the connections of the administrators.  No callback of `socks.c` touches one of those, adds one or
takes one away, and none of them ever belongs to a session: `Aside` holds throughout.  What a
callback does touch is the descriptor it was called for, those of the session it found there, and
what `socket()` and `accept()` have just handed out.
-/

set_option autoImplicit false

namespace SocksProxy

/-- A registration that is not a session's. -/
def Item.foreign (item : Item) : Bool :=
  match item.handler with
  | .passive => true
  | .monitor => true
  | _ => false

/-- The registrations that are not sessions'. -/
def World.foreign (w : World) (fd : Fd) : Option Item := (w.fds fd).filter Item.foreign

/-- Nobody listens for clients. -/
def Deaf (T : Fd → Option Item) : Prop := ∀ fd item, T fd = some item → item.handler ≠ .passive

/-- A call that is made for a session; the configuration is the administrators' to change. -/
def StoreCall.ofSession : StoreCall → Bool
  | .configSet .. => false
  | _ => true

/-- The others hold the registrations of `T`, and no session has one of them.  Since `base` the
proxy has done nothing but call the store, and if nobody listens it has opened no session. -/
structure Aside (T : Fd → Option Item) (base w : World) : Prop where
  foreign : ∀ fd, w.foreign fd = T fd
  client : ∀ sid s, w.sessions sid = some s → T s.clientFd = none
  origin : ∀ sid s fd, w.sessions sid = some s → s.originFd = some fd → T fd = none
  nextSid : Deaf T → w.nextSid = base.nextSid
  calls : ∃ cs : List StoreCall, (∀ c ∈ cs, c.ofSession = true) ∧
    w.acts = base.acts ++ cs.map .call ∧ w.store = cs.foldl (fun st c => c.apply st) base.store

/-- The descriptors of a session are its own. -/
def SocksSession.Own (T : Fd → Option Item) (s : SocksSession) : Prop :=
  T s.clientFd = none ∧ ∀ fd, s.originFd = some fd → T fd = none

namespace Aside

variable {T : Fd → Option Item} {base : World} {w w' : World} {sid : Sid} {fd : Fd} {key : Key}

/-! ## The primitives -/

theorem same (h : Aside T base w) (hfds : w'.fds = w.fds) (hsess : w'.sessions = w.sessions)
    (hnext : w'.nextSid = w.nextSid) (hacts : w'.acts = w.acts) (hstore : w'.store = w.store) :
    Aside T base w' where
  foreign fd := by
    rw [World.foreign, hfds]
    exact h.foreign fd
  client sid s hs := h.client sid s (hsess ▸ hs)
  origin sid s fd hs := h.origin sid s fd (hsess ▸ hs)
  nextSid hdeaf := hnext.trans (h.nextSid hdeaf)
  calls := by
    rw [hacts, hstore]
    exact h.calls

theorem eq_none_of_unregistered (h : Aside T base w) (hfd : w.fds fd = none) : T fd = none := by
  rw [← h.foreign fd, World.foreign, hfd]
  rfl

theorem eq_none_of_item {item : Item} (h : Aside T base w) (hfd : w.fds fd = some item)
    (hitem : item.foreign = false) : T fd = none := by
  rw [← h.foreign fd, World.foreign, hfd]
  exact Option.filter_some_neg (by simp [hitem])

theorem not_foreign {item : Item} (h : Aside T base w) (hT : T fd = none)
    (hfd : w.fds fd = some item) : item.foreign = false := by
  rw [← h.foreign fd, World.foreign, hfd, Option.filter_some] at hT
  split at hT
  · cases hT
  · next hne => exact Bool.not_eq_true _ ▸ hne

theorem keeps_setItem {item? : Option Item} (hT : T fd = none)
    (hitem : ∀ item, item? = some item → item.foreign = false) :
    Maintains (Aside T base) (setItem fd item?) := by
  intro w h
  refine ⟨fun fd' => ?_, h.client, h.origin, h.nextSid, h.calls⟩
  show (Function.update w.fds fd item? fd').filter Item.foreign = _
  by_cases hfd : fd' = fd
  · subst hfd
    rw [Function.update_self, hT]
    cases item? with
    | none => rfl
    | some item => exact Option.filter_some_neg (by simp [hitem item rfl])
  · rw [Function.update_of_ne hfd]
    exact h.foreign fd'

/-- A session is replaced by one whose descriptors are its own, or freed. -/
theorem update (sid : Sid) (s? : Option SocksSession) (h : Aside T base w)
    (hs : ∀ s, s? = some s → s.Own T) :
    Aside T base { w with sessions := Function.update w.sessions sid s? } where
  foreign := h.foreign
  client := by
    intro sid' s hs'
    dsimp only at hs'
    rw [Function.update_apply] at hs'
    split at hs'
    · exact (hs s hs').1
    · exact h.client sid' s hs'
  origin := by
    intro sid' s fd hs'
    dsimp only at hs'
    rw [Function.update_apply] at hs'
    split at hs'
    · exact (hs s hs').2 fd
    · exact h.origin sid' s fd hs'
  nextSid := h.nextSid
  calls := h.calls

theorem own (h : Aside T base w) {s : SocksSession} (hs : w.sessions sid = some s) : s.Own T :=
  ⟨h.client sid s hs, fun fd => h.origin sid s fd hs⟩

/-- Fields are written that are not descriptors, or a descriptor that is nobody else's. -/
theorem keeps_assign {f : SocksSession → SocksSession} (hf : ∀ s, s.Own T → (f s).Own T) :
    Maintains (Aside T base) (assign sid f) := by
  intro w h
  rw [Sat, assign]
  cases hs : w.sessions sid with
  | none => trivial
  | some s =>
    refine update _ _ h fun s' hs' => ?_
    cases hs'
    exact hf s (own h hs)

theorem yields_deref : Yields (Aside T base) (SocksSession.Own T) (deref sid) := by
  intro w h
  rw [Sat, deref]
  cases hs : w.sessions sid with
  | none => trivial
  | some s => exact ⟨h, own h hs⟩

theorem keeps_emit (o : Obs) : Maintains (Aside T base) (emit sid o) :=
  fun _ h => same h rfl rfl rfl rfl rfl

theorem keeps_onStore (c : StoreCall) (hc : c.ofSession = true) :
    Maintains (Aside T base) (onStore c) := by
  intro w h
  obtain ⟨cs, hcs, hacts, hstore⟩ := h.calls
  refine ⟨h.foreign, h.client, h.origin, h.nextSid, cs ++ [c], ?_, ?_, ?_⟩
  · intro c' hc'
    rcases List.mem_append.1 hc' with hold | hnew
    · exact hcs c' hold
    · rw [List.mem_singleton.1 hnew]
      exact hc
  · show w.acts ++ [.call c] = _
    rw [hacts, List.map_append, List.append_assoc]
    rfl
  · show c.apply w.store = _
    rw [hstore, List.foldl_append]
    rfl

theorem keeps_idleListRemove : Maintains (Aside T base) (idleListRemove sid) :=
  fun _ h => same h rfl rfl rfl rfl rfl

theorem keeps_idleListPushTail : Maintains (Aside T base) (idleListPushTail sid) :=
  fun _ h => same h rfl rfl rfl rfl rfl

theorem keeps_nextRead : Maintains (Aside T base) nextRead := fun _ h => same h rfl rfl rfl rfl rfl
theorem keeps_nextWrite : Maintains (Aside T base) nextWrite := fun _ h => same h rfl rfl rfl rfl rfl
theorem keeps_sysNio : Maintains (Aside T base) sysNio := fun _ h => same h rfl rfl rfl rfl rfl
theorem keeps_sysConnect : Maintains (Aside T base) sysConnect := fun _ h => same h rfl rfl rfl rfl rfl
theorem keeps_sysSoError : Maintains (Aside T base) sysSoError := fun _ h => same h rfl rfl rfl rfl rfl
theorem keeps_sysAlloc : Maintains (Aside T base) sysAlloc := fun _ h => same h rfl rfl rfl rfl rfl
theorem keeps_sysThread : Maintains (Aside T base) sysThread := fun _ h => same h rfl rfl rfl rfl rfl

/-- A descriptor that was just handed out is nobody's. -/
theorem eq_none_of_freshFd {fd? : Option Fd} (h : Aside T base w) (hfd : w.freshFd fd? = some fd) :
    T fd = none := by
  obtain ⟨-, hnone⟩ := Option.filter_eq_some_iff.1 hfd
  exact eq_none_of_unregistered h (Option.isNone_iff_eq_none.1 hnone)

theorem yields_sysSocket :
    Yields (Aside T base) (fun fd? => ∀ fd, fd? = some fd → T fd = none) sysSocket :=
  fun _ h => ⟨same h rfl rfl rfl rfl rfl, fun _ hfd => eq_none_of_freshFd h hfd⟩

theorem yields_sysAccept :
    Yields (Aside T base) (fun fd? => ∀ fd, fd? = some fd → T fd = none) sysAccept :=
  fun _ h => ⟨same h rfl rfl rfl rfl rfl, fun _ hfd => eq_none_of_freshFd h hfd⟩

theorem keeps_sysRead (log : Bytes → Obs) (n : ℕ) :
    Maintains (Aside T base) (sysRead sid log n) := by
  refine .bind keeps_nextRead fun ans => ?_
  cases ans with
  | data bs => exact .bind (keeps_emit _) fun _ => .pure _
  | again => exact .pure _
  | error => exact .pure _

theorem keeps_sysWrite (log : Bytes → Obs) (bs : Bytes) :
    Maintains (Aside T base) (sysWrite sid log bs) := by
  refine .bind keeps_nextWrite fun ans => ?_
  cases ans with
  | ok n => exact .bind (keeps_emit _) fun _ => .pure _
  | again => exact .bind (keeps_emit _) fun _ => .pure _
  | error => exact .bind (keeps_emit _) fun _ => .pure _

theorem keeps_selectorRegister {item : Item} (hT : T fd = none) (hitem : item.foreign = false) :
    Maintains (Aside T base) (selectorRegister fd item) := by
  have hset : Maintains (Aside T base) (do setItem fd (some item); return true) :=
    .bind (keeps_setItem hT fun item' heq => Option.some.inj heq ▸ hitem) fun _ => .pure _
  refine .look_bind fun w h => ?_
  rw [sat_bind, sat_set]
  have hw : Aside T base { w with env := { w.env with room := w.env.room.tail } } :=
    same h rfl rfl rfl rfl rfl
  split
  · exact hw
  split
  · exact hw
  split
  · exact hw
  · exact hset _ hw

theorem keeps_selectorSetInterest (hT : T fd = none) (i : FdInterest) :
    Maintains (Aside T base) (selectorSetInterest fd i) := by
  refine .look_bind fun w h => ?_
  cases hfd : w.fds fd with
  | none => exact h
  | some item =>
    have hitem : item.foreign = false := not_foreign h hT hfd
    refine keeps_setItem hT (fun item' heq => ?_) w h
    cases heq
    exact hitem

theorem keeps_unregisterWith {close : Item → Key → SocksM Unit} (hT : T fd = none)
    (hclose : ∀ item data, Maintains (Aside T base) (close item ⟨fd, data⟩)) :
    Maintains (Aside T base) (unregisterWith close fd) := by
  refine .look_bind fun w h => ?_
  cases hfd : w.fds fd with
  | none => exact h
  | some item =>
    have hitem : item.foreign = false := not_foreign h hT hfd
    have hset : Maintains (Aside T base) (setItem fd (some { item with interest := opNoop })) :=
      keeps_setItem hT fun item' heq => by cases heq; exact hitem
    have hrest : Maintains (Aside T base) (do
        setItem fd (some { item with interest := opNoop })
        close item ⟨fd, item.data⟩
        setItem fd none) :=
      .bind hset fun _ => .bind (hclose _ _) fun _ => keeps_setItem hT fun _ heq => by cases heq
    exact hrest w h

theorem keeps_touch : Maintains (Aside T base) (socksSessionTouch sid) :=
  .bind keeps_sysTime fun _ => .bind (keeps_assign fun _ h => h) fun _ =>
    .bind (fun _ h => h) fun _ => .ite keeps_idleListPushTail (.pure _)

/-! ## Closing and flushing -/

theorem keeps_handleFirst : Maintains (Aside T base) (handleFirst sid) :=
  keeps_assign fun _ h => h

theorem keeps_jump (next : SocksState) : Maintains (Aside T base) (jump sid next) :=
  keeps_assign fun _ h => h

theorem keeps_stmHandlerWrite : Maintains (Aside T base) (stmHandlerWrite sid) :=
  .bind keeps_handleFirst fun _ => .bind Steady.keeps_socksStubStay fun _ => keeps_jump _

theorem keeps_o2cAppend (data : Bytes) : Maintains (Aside T base) (socksO2cAppend sid data) := by
  refine .bind keeps_deref fun s => .ite ?_ ?_
  · exact .bind .look fun w => .ite (.bind (.throw _) fun _ => .pure _) (.pure _)
  · exact .bind (keeps_assign fun _ h => h) fun _ => .bind (keeps_emit _) fun _ => .pure _

/-- A session without an origin keeps the descriptor of its client. -/
theorem own_dropOrigin (s : SocksSession) (h : s.Own T) :
    ({ s with originFd := none } : SocksSession).Own T :=
  ⟨h.1, fun _ heq => by cases heq⟩

theorem keeps_handleCloseOther (item : Item) :
    Maintains (Aside T base) (handleCloseOther item key) := by
  rw [handleCloseOther]
  cases item.handler with
  | origin => exact keeps_assign own_dropOrigin
  | client => exact .pure _
  | passive => exact .pure _
  | monitor => exact .pure _

theorem keeps_destroyOrigin : Maintains (Aside T base) (socksSessionDestroyOrigin sid) := by
  refine yields_deref.bind fun s hs => ?_
  cases hfd : s.originFd with
  | none => exact .pure _
  | some fd =>
    exact .bind (keeps_unregisterWith (hs.2 fd hfd) fun item _ => keeps_handleCloseOther item)
      fun _ => keeps_assign own_dropOrigin

theorem keeps_clientClose : Maintains (Aside T base) (socksClientClose key) := by
  have hfree : Maintains (Aside T base) (do
      socksSessionDestroyOrigin key.data
      assign key.data fun s => { s with dnsResult := [], dnsCursor := [] }
      emit key.data .closed
      modify fun w => { w with
        activeSessions := w.activeSessions - 1
        sessions := Function.update w.sessions key.data none }) := by
    refine .bind keeps_destroyOrigin fun _ => .bind (keeps_assign fun _ h => h) fun _ => ?_
    refine .bind (keeps_emit _) fun _ => .update fun w h => ?_
    exact same (update key.data none h fun _ heq => by cases heq) rfl rfl rfl rfl rfl
  have hforget : Maintains (Aside T base) (do
      assign key.data fun s => { s with storeId := storeSessionInvalid }
      socksSessionDestroyOrigin key.data
      assign key.data fun s => { s with dnsResult := [], dnsCursor := [] }
      emit key.data .closed
      modify fun w => { w with
        activeSessions := w.activeSessions - 1
        sessions := Function.update w.sessions key.data none }) :=
    .bind (keeps_assign fun _ h => h) fun _ => hfree
  refine .bind keeps_idleListRemove fun _ => .bind keeps_deref fun s => ?_
  refine .bind keeps_sysTime fun now => .ite ?_ hfree
  exact .ite (.bind (keeps_onStore _ rfl) fun _ => hforget)
    (.bind (keeps_onStore _ rfl) fun _ => hforget)

theorem keeps_handleClose (item : Item) : Maintains (Aside T base) (handleClose item key) := by
  rw [handleClose]
  cases item.handler with
  | client => exact keeps_clientClose
  | origin => exact keeps_handleCloseOther item
  | passive => exact keeps_handleCloseOther item
  | monitor => exact keeps_handleCloseOther item

theorem keeps_selectorUnregisterFd (hT : T fd = none) :
    Maintains (Aside T base) (selectorUnregisterFd fd) :=
  keeps_unregisterWith hT fun item _ => keeps_handleClose item

theorem keeps_closeFromOrigin : Maintains (Aside T base) (socksSessionCloseFromOrigin sid) :=
  yields_deref.bind fun _ hs => keeps_selectorUnregisterFd hs.1

theorem keeps_flushClient : Maintains (Aside T base) (socksFlushClient sid) := by
  refine yields_deref.bind fun s hs => .ite (.pure _) ?_
  refine .bind (keeps_sysWrite _ _) fun ans => ?_
  cases ans with
  | again => exact .pure _
  | error => exact .bind (keeps_selectorUnregisterFd hs.1) fun _ => .pure _
  | ok n =>
    exact .bind (keeps_assign fun _ h => h) fun _ => .bind keeps_touch fun _ =>
      .bind keeps_stmHandlerWrite fun _ => .pure _

theorem keeps_closeIfFlushed : Maintains (Aside T base) (socksCloseIfFlushed sid) :=
  yields_deref.bind fun _ hs => .ite (.pure _) <|
    .bind (keeps_selectorUnregisterFd hs.1) fun _ => .pure _

theorem keeps_flushOrigin : Maintains (Aside T base) (socksFlushOrigin sid) := by
  refine .bind keeps_deref fun s => .ite (.pure _) ?_
  refine .bind (keeps_sysWrite _ _) fun ans => ?_
  cases ans with
  | again => exact .pure _
  | error => exact .bind keeps_closeFromOrigin fun _ => .pure _
  | ok n =>
    exact .bind (keeps_assign fun _ h => h) fun _ => .bind keeps_touch fun _ =>
      .bind keeps_deref fun s => .ite (.bind (keeps_onStore _ rfl) fun _ => .pure _) (.pure _)

/-! ## Refusing and connecting -/

theorem keeps_failRequest (hT : T key.fd = none) (rep : UInt8) :
    Maintains (Aside T base) (socksFailRequest key rep) := by
  have hrest : Maintains (Aside T base) (do
      if ← socksSendConnectReply key.data rep then
        assign key.data fun s => { s with closeAfterFlush := true, stm := some .done }
        if ← socksFlushClient key.data then
          let s ← deref key.data
          selectorSetInterest s.clientFd (socksClientInterest s)
      else
        selectorUnregisterFd key.fd) := by
    refine .bind (keeps_o2cAppend _) fun b => .ite ?_ (keeps_selectorUnregisterFd hT)
    refine .bind (keeps_assign fun _ h => h) fun _ => ?_
    exact .bind keeps_flushClient fun _ => .ite
      (yields_deref.bind fun s hs => keeps_selectorSetInterest hs.1 _) (.pure _)
  refine .bind keeps_deref fun s => .bind keeps_sysTime fun now => .ite ?_ hrest
  exact .bind (keeps_onStore _ rfl) fun _ => .bind (keeps_assign fun _ h => h) fun _ => hrest

theorem keeps_failWith (hT : T key.fd = none) (rep : UInt8) (st : SocksState) :
    Maintains (Aside T base) (do socksFailRequest key rep; return st) :=
  .bind (keeps_failRequest hT rep) fun _ => .pure _

theorem keeps_startDnsResolve (hT : T key.fd = none) :
    Maintains (Aside T base) (socksStartDnsResolve key) := by
  refine .bind keeps_sysAlloc fun _ => .ite ?_ (keeps_failWith hT _ _)
  refine .bind (keeps_assign fun _ h => h) fun _ => .bind keeps_deref fun s => ?_
  refine .bind keeps_sysThread fun _ => .ite ?_ (keeps_failWith hT _ _)
  exact .bind (keeps_emit _) fun _ => .bind (.update fun _ h => same h rfl rfl rfl rfl rfl) fun _ => .pure _

section Inet

variable [Inet]

theorem keeps_checkDestAddr (addr : SockAddr) :
    Maintains (Aside T base) (checkDestAddr sid addr) :=
  .bind keeps_srvStore fun _ => .bind (keeps_emit _) fun _ => .pure _

theorem keeps_connectAttempt (hT : T key.fd = none) {retry : SocksM SocksState}
    (hretry : Maintains (Aside T base) retry) :
    Maintains (Aside T base) (socksConnectAttempt key retry) := by
  refine .bind keeps_deref fun s => ?_
  cases s.connectAddr with
  | none => exact keeps_failWith hT _ _
  | some addr =>
    refine .bind (keeps_checkDestAddr addr) fun _ => .ite (keeps_failWith hT _ _) ?_
    refine yields_sysSocket.bind fun fd? hfresh => ?_
    cases fd? with
    | none => exact keeps_failWith hT _ _
    | some fd =>
      have hfd := hfresh fd rfl
      refine .bind keeps_sysNio fun _ => .ite ?_ (keeps_failWith hT _ _)
      refine .bind keeps_srvStore fun _ => .bind (keeps_emit _) fun _ => ?_
      refine .bind keeps_sysConnect fun err? => ?_
      cases err? with
      | some err =>
        dsimp only
        split
        · exact .bind (keeps_assign fun _ h => h) fun _ => hretry
        · exact keeps_failWith hT _ _
      | none =>
        have hown : ∀ s : SocksSession, s.Own T →
            ({ s with originFd := some fd } : SocksSession).Own T :=
          fun s hs => ⟨hs.1, fun fd' heq => by cases heq; exact hfd⟩
        refine .bind (keeps_assign hown) fun _ => ?_
        refine .bind (keeps_selectorRegister hfd rfl) fun _ => .ite ?_ ?_
        · exact .bind (keeps_assign fun _ h => h) fun _ => .pure _
        · exact .bind (keeps_assign own_dropOrigin) fun _ => keeps_failWith hT _ _

theorem keeps_connectRetry (hT : T key.fd = none) (n : ℕ) :
    Maintains (Aside T base) (socksConnectRetry key n) := by
  induction n with
  | zero => exact keeps_connectAttempt hT (.pure _)
  | succ n ih => exact keeps_connectAttempt hT ih

theorem keeps_beginOriginConnect (hT : T key.fd = none) :
    Maintains (Aside T base) (socksBeginOriginConnect key) :=
  .bind keeps_deref fun _ => keeps_connectRetry hT _

/-! ## The parsing states -/

omit [Inet] in
theorem keeps_appendOrClose (hT : T key.fd = none) (data : Bytes) {next : SocksM SocksState}
    (hnext : Maintains (Aside T base) next) :
    Maintains (Aside T base) (appendOrClose key data next) :=
  .bind (keeps_o2cAppend data) fun _ => .ite hnext <|
    .bind (keeps_selectorUnregisterFd hT) fun _ => .pure _

omit [Inet] in
theorem keeps_refuse : Maintains (Aside T base) (refuse sid) :=
  .bind (keeps_assign fun _ h => h) fun _ => .pure _

omit [Inet] in
theorem keeps_authStoreUser : Maintains (Aside T base) (socksAuthStoreUser sid) :=
  .bind keeps_deref fun _ => .ite (keeps_onStore _ rfl) (.pure _)

omit [Inet] in
theorem keeps_greetingLoop (hT : T key.fd = none) (n : ℕ) :
    Maintains (Aside T base) (greetingLoop key n) := by
  induction n with
  | zero => exact .pure _
  | succ n ih =>
    refine .bind keeps_deref fun s => ?_
    cases s.c2o.pending with
    | nil => exact .pure _
    | cons byte rest =>
      refine .bind (keeps_assign fun _ h => h) fun _ => ?_
      cases (greetingParserFeed s.greeting byte).2 with
      | needMore => exact ih
      | reject => exact keeps_appendOrClose hT _ keeps_refuse
      | accept =>
        exact keeps_appendOrClose hT _ <| .bind (keeps_emit _) fun _ =>
          .ite (.pure _) <| .bind (keeps_onStore _ rfl) fun _ =>
            .bind (keeps_onStore _ rfl) fun _ => .pure _

omit [Inet] in
theorem keeps_authLoop (hT : T key.fd = none) (n : ℕ) :
    Maintains (Aside T base) (authLoop key n) := by
  induction n with
  | zero => exact .pure _
  | succ n ih =>
    refine .bind keeps_deref fun s => ?_
    cases s.c2o.pending with
    | nil => exact .pure _
    | cons byte rest =>
      refine .bind (keeps_assign fun _ h => h) fun _ => ?_
      cases (authParserFeed s.auth byte).2 with
      | needMore => exact ih
      | reject => exact keeps_appendOrClose hT _ keeps_refuse
      | parsed =>
        refine .bind keeps_srvStore fun _ => .ite ?_ (keeps_appendOrClose hT _ keeps_refuse)
        exact .bind (keeps_emit _) fun _ => .bind keeps_authStoreUser fun _ =>
          .bind (keeps_onStore _ rfl) fun _ => keeps_appendOrClose hT _ (.pure _)

theorem keeps_requestDecided (hT : T key.fd = none) (s : SocksSession) (p : RequestParser)
    (status : RequestStatus) : Maintains (Aside T base) (requestDecided key s p status) := by
  cases status with
  | parsedFqdn =>
    exact .bind keeps_srvStore fun _ => .ite (keeps_failWith hT _ _) <|
      .bind (keeps_onStore _ rfl) fun _ => keeps_startDnsResolve hT
  | parsedAddr =>
    have hconnect : ∀ denied : Bool, Maintains (Aside T base) (if denied = true then do
        socksFailRequest key socksRepDeniedByRuleset
        return .done
      else do
        onStore (.setPhase s.storeId .connecting)
        assign key.data fun s => { s with destAddr := s.request.destAddr }
        socksBeginOriginConnect key) := fun denied =>
      .ite (keeps_failWith hT _ _) <| .bind (keeps_onStore _ rfl) fun _ =>
        .bind (keeps_assign fun _ h => h) fun _ => keeps_beginOriginConnect hT
    rw [requestDecided]
    cases p.destAddr with
    | none => exact .bind (.pure _) hconnect
    | some addr => exact .bind (keeps_checkDestAddr addr) hconnect
  | needMore => exact keeps_failWith hT _ _
  | reject => exact keeps_failWith hT _ _
  | rejectCmd => exact keeps_failWith hT _ _
  | rejectAtyp => exact keeps_failWith hT _ _

theorem keeps_requestLoop (hT : T key.fd = none) (n : ℕ) :
    Maintains (Aside T base) (requestLoop key n) := by
  induction n with
  | zero => exact .pure _
  | succ n ih =>
    refine .bind keeps_deref fun s => ?_
    cases s.c2o.pending with
    | nil => exact .pure _
    | cons byte rest =>
      refine .bind (keeps_assign fun _ h => h) fun _ => ?_
      cases (requestParserFeed s.request byte).2 with
      | needMore => exact ih
      | parsedAddr => exact keeps_requestDecided hT _ _ _
      | parsedFqdn => exact keeps_requestDecided hT _ _ _
      | reject => exact keeps_requestDecided hT _ _ _
      | rejectCmd => exact keeps_requestDecided hT _ _ _
      | rejectAtyp => exact keeps_requestDecided hT _ _ _

theorem keeps_stmHandlerRead (hT : T key.fd = none) :
    Maintains (Aside T base) (stmHandlerRead key) := by
  refine .bind keeps_handleFirst fun _ => .bind keeps_deref fun s => ?_
  have hjump : ∀ ret, Maintains (Aside T base) (jump key.data ret) := fun ret => keeps_jump ret
  cases stmState s with
  | authGreeting => exact .bind (.bind keeps_deref fun _ => keeps_greetingLoop hT _) hjump
  | authUserpass => exact .bind (.bind keeps_deref fun _ => keeps_authLoop hT _) hjump
  | request => exact .bind (.bind keeps_deref fun _ => keeps_requestLoop hT _) hjump
  | resolving => exact .bind Steady.keeps_socksStubStay hjump
  | originConnecting => exact .bind Steady.keeps_socksStubStay hjump
  | relay => exact .bind Steady.keeps_socksStubStay hjump
  | done => exact .bind Steady.keeps_socksStubStay hjump

/-! ## Resolution and connection -/

theorem keeps_stmHandlerBlock (hT : T key.fd = none) :
    Maintains (Aside T base) (stmHandlerBlock key) := by
  refine .bind keeps_handleFirst fun _ => .bind keeps_deref fun s => ?_
  refine .ite (.bind ?_ fun ret => keeps_jump ret) (.throw _)
  refine .bind keeps_deref fun s => .ite (.pure _) ?_
  exact .ite (keeps_failWith hT _ _) <| .bind (keeps_assign fun _ h => h) fun _ =>
    keeps_beginOriginConnect hT

theorem keeps_recordDest : Maintains (Aside T base) (socksSessionRecordDest sid) :=
  .bind keeps_deref fun _ => .bind keeps_sysTime fun _ => .ite
    (.bind (keeps_onStore _ rfl) fun _ => keeps_assign fun _ h => h) (.pure _)

theorem keeps_connectComplete (hT : T key.fd = none) :
    Maintains (Aside T base) (socksOriginConnectComplete key) := by
  refine .bind keeps_sysSoError fun err? => ?_
  cases err? with
  | some err =>
    refine .bind keeps_destroyOrigin fun _ => .bind keeps_deref fun s => ?_
    split
    · exact .bind (keeps_assign fun _ h => h) fun _ =>
        .bind (keeps_beginOriginConnect hT) fun state => keeps_jump state
    · exact .bind (keeps_failRequest hT _) fun _ => .bind keeps_closeIfFlushed fun _ => .pure _
  | none =>
    refine .bind (keeps_o2cAppend _) fun _ => .ite ?_ (keeps_selectorUnregisterFd hT)
    refine .bind keeps_recordDest fun _ => .bind (keeps_jump _) fun _ => ?_
    refine .bind keeps_flushClient fun _ => .ite ?_ (.pure _)
    refine yields_deref.bind fun s hs => ?_
    have hclient : Maintains (Aside T base)
        (selectorSetInterest s.clientFd (socksClientInterest s)) :=
      keeps_selectorSetInterest hs.1 _
    split
    · next fd hfd => exact .bind (keeps_selectorSetInterest (hs.2 fd hfd) _) fun _ => hclient
    · exact hclient

/-! ## The selector callbacks -/

theorem keeps_drainLoop (hT : T key.fd = none) (n : ℕ) :
    Maintains (Aside T base) (drainLoop key n) := by
  induction n with
  | zero => exact .pure _
  | succ n ih =>
    exact .bind keeps_deref fun _ => .ite (.bind (keeps_stmHandlerRead hT) fun _ => ih) (.pure _)

omit [Inet] in
theorem keeps_settle (hT : T key.fd = none) : Maintains (Aside T base) (settle key) :=
  .bind keeps_closeIfFlushed fun _ => .ite (.bind keeps_deref fun _ =>
    keeps_selectorSetInterest hT _) (.pure _)

theorem keeps_clientRead (hT : T key.fd = none) :
    Maintains (Aside T base) (socksClientRead key) := by
  refine .bind keeps_deref fun s => .ite (keeps_selectorSetInterest hT _) ?_
  refine .bind (keeps_sysRead _ _) fun ans => ?_
  cases ans with
  | again => exact .bind keeps_deref fun _ => keeps_selectorSetInterest hT _
  | error => exact keeps_selectorUnregisterFd hT
  | data bs =>
    refine .ite (keeps_selectorUnregisterFd hT) ?_
    refine .bind (keeps_assign fun _ h => h) fun _ => .bind keeps_touch fun _ => ?_
    refine yields_deref.bind fun s hs => .ite ?_ ?_
    · cases hfd : s.originFd with
      | none => exact keeps_settle hT
      | some fd =>
        exact .bind keeps_flushOrigin fun _ => .ite (.bind keeps_deref fun _ =>
          .bind (keeps_selectorSetInterest (hs.2 fd hfd) _) fun _ => keeps_settle hT) (.pure _)
    · refine .bind (keeps_drainLoop hT _) fun _ => .bind keeps_deref fun s => ?_
      exact .ite (.bind keeps_flushClient fun _ => .ite (keeps_settle hT) (.pure _))
        (keeps_settle hT)

omit [Inet] in
theorem keeps_clientWrite (hT : T key.fd = none) :
    Maintains (Aside T base) (socksClientWrite key) :=
  .bind keeps_flushClient fun _ => .ite (keeps_settle hT) (.pure _)

theorem keeps_clientBlock (hT : T key.fd = none) :
    Maintains (Aside T base) (socksClientBlock key) :=
  .bind (keeps_stmHandlerBlock hT) fun _ => .bind keeps_flushClient fun _ =>
    .ite (keeps_settle hT) (.pure _)

omit [Inet] in
theorem keeps_originRead (hT : T key.fd = none) :
    Maintains (Aside T base) (socksOriginRead key) := by
  refine .bind keeps_deref fun s => .ite (keeps_selectorSetInterest hT _) ?_
  refine .bind (keeps_sysRead _ _) fun ans => ?_
  cases ans with
  | again => exact .bind keeps_deref fun _ => keeps_selectorSetInterest hT _
  | error => exact keeps_closeFromOrigin
  | data bs =>
    have hrest : Maintains (Aside T base) (do
        if ← socksFlushClient key.data then
          let s ← deref key.data
          selectorSetInterest s.clientFd (socksClientInterest s)
          selectorSetInterest key.fd (socksOriginInterest s)) :=
      .bind keeps_flushClient fun _ => .ite (yields_deref.bind fun _ hs =>
        .bind (keeps_selectorSetInterest hs.1 _) fun _ => keeps_selectorSetInterest hT _) (.pure _)
    refine .ite keeps_closeFromOrigin ?_
    refine .bind (keeps_assign fun _ h => h) fun _ => .bind keeps_touch fun _ => ?_
    exact .bind keeps_deref fun _ => .ite (.bind (keeps_onStore _ rfl) fun _ => hrest) hrest

theorem keeps_originWrite (hT : T key.fd = none) :
    Maintains (Aside T base) (socksOriginWrite key) := by
  refine .bind keeps_deref fun s => .ite (keeps_connectComplete hT) ?_
  exact .bind keeps_flushOrigin fun _ => .ite (yields_deref.bind fun _ hs =>
    .bind (keeps_selectorSetInterest hT _) fun _ => keeps_selectorSetInterest hs.1 _) (.pure _)

/-! ## Accepting and expiring -/

omit [Inet] in
theorem keeps_acceptOne (hT : T fd = none) (hhears : ¬Deaf T) :
    Maintains (Aside T base) (acceptOne fd) := by
  refine .bind keeps_sysNio fun _ => .ite ?_ (.pure _)
  refine .bind .look fun w₀ => .bind (keeps_onStore _ rfl) fun _ => .ite (.pure _) ?_
  refine .bind keeps_sysAlloc fun _ => .ite ?_ (keeps_onStore _ rfl)
  refine .bind keeps_sysAlloc fun _ => .bind keeps_sysAlloc fun _ => .ite ?_ (keeps_onStore _ rfl)
  refine .look_bind fun w h => ?_
  rw [sat_bind, sat_set]
  have hrest : Maintains (Aside T base) (do
      if ← selectorRegister fd ⟨.client, opRead, w.nextSid⟩ then
        modify fun w' => { w' with
          activeSessions := w'.activeSessions + 1
          idle := w'.idle.pushTail w.nextSid }
      else
        onStore (.finish (storeSessionBegin w₀.store).2)
        modify fun w' => { w' with sessions := Function.update w'.sessions w.nextSid none }) := by
    refine .bind (keeps_selectorRegister hT rfl) fun b => .ite (.update fun w h => ?_) ?_
    · exact same h rfl rfl rfl rfl rfl
    · exact .bind (keeps_onStore _ rfl) fun _ =>
        .update fun w' h' => update _ _ h' fun s heq => by cases heq
  have hnew := update w.nextSid (some (socksSessionInit fd
    (storeConfigGet w.store .ioBufferSize) w.clock (storeSessionBegin w₀.store).2)) h fun s heq => by
      cases heq
      exact ⟨hT, fun fd' heq => by cases heq⟩
  exact hrest _ ⟨hnew.foreign, hnew.client, hnew.origin, fun hdeaf => absurd hdeaf hhears, hnew.calls⟩

omit [Inet] in
theorem keeps_acceptLoop (hhears : ¬Deaf T) (n : ℕ) : Maintains (Aside T base) (acceptLoop n) := by
  induction n with
  | zero => exact .pure _
  | succ n ih =>
    refine yields_sysAccept.bind fun fd? hfresh => ?_
    cases fd? with
    | none => exact .pure _
    | some fd => exact .bind (keeps_acceptOne (hfresh fd rfl) hhears) fun _ => ih

omit [Inet] in
theorem keeps_expirePreRelay : Maintains (Aside T base) (socksExpireSessionPreRelay sid) := by
  refine .bind (keeps_o2cAppend _) fun _ => .ite ?_ keeps_closeFromOrigin
  refine .bind (keeps_assign fun _ h => h) fun _ => ?_
  refine .bind keeps_flushClient fun _ => .ite ?_ (.pure _)
  exact .bind keeps_closeIfFlushed fun _ => .ite (yields_deref.bind fun _ hs =>
    keeps_selectorSetInterest hs.1 _) (.pure _)

omit [Inet] in
theorem keeps_expireLoop (now timeout n : ℕ) :
    Maintains (Aside T base) (expireLoop now timeout n) := by
  induction n with
  | zero => exact .pure _
  | succ n ih =>
    refine .bind .look fun w => ?_
    cases w.idle.head with
    | none => exact .pure _
    | some sid =>
      refine yields_deref.bind fun s hs => .ite (.pure _) ?_
      refine .bind (keeps_assign fun _ h => h) fun _ => ?_
      refine .bind keeps_idleListRemove fun _ => .bind (keeps_emit _) fun _ => ?_
      exact .ite (.bind (keeps_selectorUnregisterFd hs.1) fun _ => ih)
        (.bind keeps_expirePreRelay fun _ => ih)

/-! ## Events -/

theorem keeps_dispatchRead : Maintains (Aside T base) (dispatchRead fd) := by
  refine .look_bind fun w h => ?_
  cases hfd : w.fds fd with
  | none => exact h
  | some item =>
    dsimp only
    split
    · cases hitem : item.handler with
      | client =>
        exact keeps_clientRead (eq_none_of_item h hfd (by rw [Item.foreign, hitem])) w h
      | origin =>
        exact keeps_originRead (eq_none_of_item h hfd (by rw [Item.foreign, hitem])) w h
      | passive =>
        have hforeign : T fd = some item := by
          rw [← h.foreign fd, World.foreign, hfd]
          exact Option.filter_some_pos (by rw [Item.foreign, hitem])
        have hpassive : Maintains (Aside T base) socksPassiveRead :=
          .bind .look fun _ => keeps_acceptLoop (fun hdeaf => hdeaf fd item hforeign hitem) _
        exact hpassive w h
      | monitor => exact h
    · exact h

theorem keeps_dispatchWrite : Maintains (Aside T base) (dispatchWrite fd) := by
  refine .look_bind fun w h => ?_
  cases hfd : w.fds fd with
  | none => exact h
  | some item =>
    dsimp only
    split
    · cases hitem : item.handler with
      | client =>
        exact keeps_clientWrite (eq_none_of_item h hfd (by rw [Item.foreign, hitem])) w h
      | origin =>
        exact keeps_originWrite (eq_none_of_item h hfd (by rw [Item.foreign, hitem])) w h
      | passive => exact h
      | monitor => exact h
    · exact h

omit [Inet] in
theorem keeps_dnsThread (i : ℕ) (rc : GaiRc) (result : List SockAddr) (posted : Bool) :
    Maintains (Aside T base) (socksDnsThread i rc result posted) := by
  refine .look_bind fun w h => ?_
  cases w.threads[i]? with
  | none => exact h
  | some ctx =>
    rw [sat_bind, sat_set]
    have hrest : Maintains (Aside T base) (do
        assign ctx.session fun s => { s with
          dnsResolving := false, dnsGaiRc := rc, dnsResult := if rc = .ok then result else [] }
        if posted then
          modify fun w => { w with
            resolutionJobs := ⟨ctx.notifyFd, ctx.session⟩ :: w.resolutionJobs }) :=
      .bind (keeps_assign fun _ h => h) fun _ => .ite (.update fun _ h => same h rfl rfl rfl rfl rfl) (.pure _)
    exact hrest _ (same h rfl rfl rfl rfl rfl)

theorem keeps_handleJob (job : BlockingJob) : Maintains (Aside T base) (handleJob job) := by
  refine .look_bind fun w h => ?_
  cases hfd : w.fds job.fd with
  | none => exact h
  | some item =>
    dsimp only
    split
    · next hblock =>
      have hitem : item.foreign = false := by
        cases hh : item.handler <;> simp_all [Handler.hasBlock, Item.foreign]
      have hT := eq_none_of_item h hfd hitem
      have hblocked : Maintains (Aside T base) (do
          let s ← deref item.data
          emit item.data (.block job.owner (stmState s))
          socksClientBlock ⟨job.fd, item.data⟩) :=
        .bind keeps_deref fun _ => .bind (keeps_emit _) fun _ => keeps_clientBlock hT
      exact hblocked w h
    · trivial

theorem keeps_handleJobs (jobs : List BlockingJob) :
    Maintains (Aside T base) (handleJobs jobs) := by
  induction jobs with
  | nil => exact .pure _
  | cons job jobs ih => exact .bind (keeps_handleJob job) fun _ => ih

end Inet

end Aside

/-- The event is none of the monitor's. -/
def Event.ofProxy : Event → Bool
  | .admin _ => false
  | .monitorOpen .. => false
  | .monitorClose _ => false
  | _ => true

namespace Aside

variable [Inet] {T : Fd → Option Item} {base : World} {w w' : World} {e : Event}

theorem keeps_program (he : e.ofProxy = true) : Maintains (Aside T base) e.program := by
  have henv : ∀ env : Env, Maintains (Aside T base) (modify ({ · with env := env }) : SocksM Unit) :=
    fun env => .update fun _ h => same h rfl rfl rfl rfl rfl
  cases e with
  | readable fd env => exact .bind (henv env) fun _ => keeps_dispatchRead
  | writable fd env => exact .bind (henv env) fun _ => keeps_dispatchWrite
  | resolved i rc result posted => exact keeps_dnsThread i rc result posted
  | notifications env =>
    exact .bind (henv env) fun _ => .bind .look fun w =>
      .bind (keeps_handleJobs _) fun _ => .update fun _ h => same h rfl rfl rfl rfl rfl
  | expire env =>
    exact .bind (henv env) fun _ => .bind .look fun w =>
      .ite (.pure _) (keeps_expireLoop _ _ _)
  | tick n => exact .update fun _ h => same h rfl rfl rfl rfl rfl
  | admin op => cases he
  | monitorOpen fd i => cases he
  | monitorClose fd => cases he

/-- **The proxy leaves the registrations of the others alone.** -/
theorem step (h : Aside T base w) (he : e.ofProxy = true) (hstep : SocksProxy.step w e = .ok w') :
    Aside T base w' :=
  step_of_sat (keeps_program he w h) hstep

end Aside

/-! ## Between two events -/

section Between

variable {w : World}

theorem World.Inv.client_item (hinv : w.Inv) {sid : Sid} {s : SocksSession}
    (hs : w.sessions sid = some s) : ∃ i, w.fds s.clientFd = some ⟨.client, i, sid⟩ := by
  have hne := ((hinv.slots sid).session s hs).client
  obtain ⟨i, hi⟩ := Option.ne_none_iff_exists'.1 hne
  have hreg : w.interestOf .client sid s.clientFd = some i := by
    simpa [slot, hs] using hi
  exact ⟨i, interestOf_eq_some.1 hreg⟩

theorem World.Inv.origin_item (hinv : w.Inv) {sid : Sid} {s : SocksSession} {fd : Fd}
    (hs : w.sessions sid = some s) (hfd : s.originFd = some fd) :
    ∃ i, w.fds fd = some ⟨.origin, i, sid⟩ := by
  have hne : (slot w sid).origin ≠ none := fun hn => by
    rw [((hinv.slots sid).session s hs).origin.2 hn] at hfd
    cases hfd
  obtain ⟨i, hi⟩ := Option.ne_none_iff_exists'.1 hne
  have hreg : w.interestOf .origin sid fd = some i := by
    simpa [slot, hs, hfd] using hi
  exact ⟨i, interestOf_eq_some.1 hreg⟩

/-- The entries of the sessions are their own. -/
theorem World.Inv.aside (h : w.Inv) : Aside w.foreign w w where
  foreign _ := rfl
  client sid s hs := by
    obtain ⟨i, hi⟩ := h.client_item hs
    rw [World.foreign, hi]
    rfl
  origin sid s fd hs hfd := by
    obtain ⟨i, hi⟩ := h.origin_item hs hfd
    rw [World.foreign, hi]
    rfl
  nextSid _ := rfl
  calls := ⟨[], fun _ h => (by cases h), (List.append_nil _).symm, rfl⟩

end Between

end SocksProxy
