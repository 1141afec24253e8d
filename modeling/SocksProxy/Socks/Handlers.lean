import SocksProxy.Socks.World

/-!
# The callbacks of `socks.c`

The functions of `socks.c`, in the order in which they call each other.  A C function that can free
the session it works on is followed here by the same accesses to that session as in the source:
each access is a `deref` or an `assign`, which faults on a freed session.

The loops of the source run on a bound that they cannot exceed: the parser loops consume a pending
byte per turn, and `socks_begin_origin_connect` moves one entry down the resolved list per retry.
Bounded recursion is cut off exactly where the loop condition of the source fails.
-/

set_option autoImplicit false

namespace SocksProxy

/-- The text `Anon`. -/
def anonName : Bytes := [65, 110, 111, 110]

/-- The text `unknown`. -/
def unknownHost : Bytes := [117, 110, 107, 110, 111, 119, 110]

/-! ## Interests, replies and the state machine -/

/-- `socks_client_interest`. -/
def socksClientInterest (s : SocksSession) : FdInterest := ⟨s.c2o.canWrite, s.o2c.canRead⟩

/-- `socks_origin_interest`. -/
def socksOriginInterest (s : SocksSession) : FdInterest := ⟨s.o2c.canWrite, s.c2o.canRead⟩

/-- `socks_o2c_append`. -/
def socksO2cAppend (sid : Sid) (data : Bytes) : SocksM Bool := do
  let s ← deref sid
  if s.o2c.space < data.length then
    if (← get).env.asserts then throw .noRoom
    return false
  else
    assign sid fun s => { s with o2c := s.o2c.append data }
    emit sid (.reply data)
    return true

/-- The 10-byte reply of `socks_send_connect_reply`. -/
def connectReply (rep : UInt8) : Bytes := [0x05, rep, 0x00, 0x01, 0, 0, 0, 0, 0, 0]

/-- `socks_send_connect_reply`. -/
def socksSendConnectReply (sid : Sid) (rep : UInt8) : SocksM Bool :=
  socksO2cAppend sid (connectReply rep)

def socksRepSucceeded : UInt8 := 0x00
def socksRepGeneralFailure : UInt8 := 0x01
def socksRepDeniedByRuleset : UInt8 := 0x02
def socksRepNetworkUnreachable : UInt8 := 0x03
def socksRepHostUnreachable : UInt8 := 0x04
def socksRepConnectionRefused : UInt8 := 0x05
def socksRepTtlExpired : UInt8 := 0x06
def socksRepCommandNotSupported : UInt8 := 0x07
def socksRepAtypNotSupported : UInt8 := 0x08

/-- `socks_errno_to_rep`. -/
def socksErrnoToRep : Errno → UInt8
  | .netUnreach => socksRepNetworkUnreachable
  | .hostUnreach => socksRepHostUnreachable
  | .hostDown => socksRepHostUnreachable
  | .connRefused => socksRepConnectionRefused
  | .afNoSupport => socksRepAtypNotSupported
  | .other _ => socksRepGeneralFailure

/-- `socks_gai_rc_to_rep`. -/
def socksGaiRcToRep : GaiRc → UInt8
  | .noName => socksRepHostUnreachable
  | .noData => socksRepHostUnreachable
  | .addrFamily => socksRepAtypNotSupported
  | .family => socksRepAtypNotSupported
  | .ok => socksRepGeneralFailure
  | .other _ => socksRepGeneralFailure

/-- `socks_request_status_to_rep`. -/
def socksRequestStatusToRep : RequestStatus → UInt8
  | .rejectCmd => socksRepCommandNotSupported
  | .rejectAtyp => socksRepAtypNotSupported
  | _ => socksRepGeneralFailure

/-- `stm_state`. -/
def stmState (s : SocksSession) : SocksState := s.stm.getD .authGreeting

/-- `handle_first`. -/
def handleFirst (sid : Sid) : SocksM Unit :=
  assign sid fun s => { s with stm := some (stmState s) }

/-- `jump`; no state has an arrival or a departure hook. -/
def jump (sid : Sid) (next : SocksState) : SocksM Unit :=
  assign sid fun s => { s with stm := some next }

/-- `socks_stub_stay`. -/
def socksStubStay (sid : Sid) : SocksM SocksState := do
  let s ← deref sid
  return stmState s

/-- `stm_handler_write`: the write hook of every state is `socks_stub_stay`. -/
def stmHandlerWrite (sid : Sid) : SocksM Unit := do
  handleFirst sid
  let ret ← socksStubStay sid
  jump sid ret

/-- `socks_session_touch`. -/
def socksSessionTouch (sid : Sid) : SocksM Unit := do
  let now ← sysTime
  assign sid fun s => { s with lastActivity := now }
  if ← inIdleList sid then idleListPushTail sid

/-! ## Closing -/

/-- `socks_origin_close`. -/
def socksOriginClose (key : Key) : SocksM Unit :=
  assign key.data fun s => { s with originFd := none }

/-- `handle_close` of a registration, apart from `socks_client_close`. -/
def handleCloseOther (item : Item) (key : Key) : SocksM Unit :=
  match item.handler with
  | .origin => socksOriginClose key
  | _ => return

/-- `socks_session_destroy_origin`. -/
def socksSessionDestroyOrigin (sid : Sid) : SocksM Unit := do
  let s ← deref sid
  match s.originFd with
  | none => return
  | some fd =>
    unregisterWith handleCloseOther fd
    assign sid fun s => { s with originFd := none }

/-- `socks_client_close`. -/
def socksClientClose (key : Key) : SocksM Unit := do
  let sid := key.data
  idleListRemove sid
  let s ← deref sid
  let now ← sysTime
  if s.storeId ≠ storeSessionInvalid then
    if s.ttlExpired then onStore (.markTtlExpired now s.storeId)
    else onStore (.finish s.storeId)
    assign sid fun s => { s with storeId := storeSessionInvalid }
  socksSessionDestroyOrigin sid
  assign sid fun s => { s with dnsResult := [], dnsCursor := [] }
  emit sid .closed
  modify fun w => { w with
    activeSessions := w.activeSessions - 1
    sessions := Function.update w.sessions sid none }

/-- `handle_close` of a registration. -/
def handleClose (item : Item) (key : Key) : SocksM Unit :=
  match item.handler with
  | .client => socksClientClose key
  | _ => handleCloseOther item key

/-- `selector_unregister_fd`. -/
def selectorUnregisterFd (fd : Fd) : SocksM Unit := unregisterWith handleClose fd

/-- `socks_session_close_from_origin`. -/
def socksSessionCloseFromOrigin (sid : Sid) : SocksM Unit := do
  let s ← deref sid
  selectorUnregisterFd s.clientFd

/-! ## Flushing -/

/-- `socks_flush_client`: false when the session was closed. -/
def socksFlushClient (sid : Sid) : SocksM Bool := do
  let s ← deref sid
  let pending := s.o2c.pending
  if pending = [] then return true
  else
    match ← sysWrite sid (.sent · pending.length) pending with
    | .again => return true
    | .error =>
      selectorUnregisterFd s.clientFd
      return false
    | .ok n =>
      assign sid fun s => { s with o2c := (s.o2c.readAdv n).compact }
      socksSessionTouch sid
      stmHandlerWrite sid
      return true

/-- `socks_close_if_flushed`: false when the session was closed. -/
def socksCloseIfFlushed (sid : Sid) : SocksM Bool := do
  let s ← deref sid
  if !s.closeAfterFlush || s.o2c.canRead then return true
  else
    selectorUnregisterFd s.clientFd
    return false

/-- `socks_flush_origin`: false when the session was closed. -/
def socksFlushOrigin (sid : Sid) : SocksM Bool := do
  let s ← deref sid
  let pending := s.c2o.pending
  if s.originFd = none ∨ pending = [] then return true
  else
    match ← sysWrite sid (.forwarded (stmState s) · pending.length) pending with
    | .again => return true
    | .error =>
      socksSessionCloseFromOrigin sid
      return false
    | .ok n =>
      assign sid fun s => { s with c2o := (s.c2o.readAdv n).compact }
      socksSessionTouch sid
      let s ← deref sid
      if s.storeId ≠ storeSessionInvalid then
        onStore (.addBytes s.storeId (UInt64.ofNat n) 0)
      return true

/-! ## Refusing a request -/

/-- `socks_fail_request`. -/
def socksFailRequest (key : Key) (rep : UInt8) : SocksM Unit := do
  let sid := key.data
  let s ← deref sid
  let now ← sysTime
  if s.storeId ≠ storeSessionInvalid then
    onStore (.markFailed now s.storeId)
    assign sid fun s => { s with storeId := storeSessionInvalid }
  if ← socksSendConnectReply sid rep then
    assign sid fun s => { s with closeAfterFlush := true, stm := some .done }
    if ← socksFlushClient sid then
      let s ← deref sid
      selectorSetInterest s.clientFd (socksClientInterest s)
  else
    selectorUnregisterFd key.fd

/-! ## Reaching the origin -/

/-- `socks_start_dns_resolve`. -/
def socksStartDnsResolve (key : Key) : SocksM SocksState := do
  let sid := key.data
  if ← sysAlloc then
    assign sid fun s => { s with
      dnsResolving := true, dnsGaiRc := .ok, dnsResult := [], dnsCursor := [] }
    let s ← deref sid
    if ← sysThread then
      emit sid (.lookup (requestFqdn s.request))
      modify fun w => { w with
        threads := ⟨sid, s.clientFd, requestFqdn s.request, s.request.destPort⟩ :: w.threads }
      return .resolving
    else
      socksFailRequest key socksRepGeneralFailure
      return .done
  else
    socksFailRequest key socksRepGeneralFailure
    return .done

/-- The address `socks_begin_origin_connect` connects to. -/
def SocksSession.connectAddr (s : SocksSession) : Option SockAddr :=
  match s.dnsCursor with
  | a :: _ => some a
  | [] => s.destAddr.or s.request.destAddr

section Inet

variable [Inet]

/-- `socks_dest_addr_is_denied`. -/
def socksDestAddrIsDenied (st : MonitorStore) (addr : SockAddr) : Bool :=
  match addr with
  | .inet a _ => isIpDenied st (Inet.ntop4 a)
  | .inet6 b _ => isIpDenied st (Inet.ntop6 b)
  | .other _ => false

/-- The deny list asked about a destination of the session. -/
def checkDestAddr (sid : Sid) (addr : SockAddr) : SocksM Bool := do
  let st ← srvStore
  emit sid (.attempt addr st.deniedAddresses.rules)
  return socksDestAddrIsDenied st addr

/-- The body of `socks_begin_origin_connect`; `retry` is its recursive call. -/
def socksConnectAttempt (key : Key) (retry : SocksM SocksState) : SocksM SocksState := do
  let sid := key.data
  let s ← deref sid
  match s.connectAddr with
  | none =>
    socksFailRequest key socksRepGeneralFailure
    return .done
  | some addr =>
    if ← checkDestAddr sid addr then
      socksFailRequest key socksRepDeniedByRuleset
      return .done
    else
      match ← sysSocket with
      | none =>
        socksFailRequest key socksRepGeneralFailure
        return .done
      | some fd =>
        if ← sysNio then
          let st ← srvStore
          emit sid (.connect addr st.deniedAddresses.rules)
          match ← sysConnect with
          | some err =>
            match s.dnsCursor with
            | _ :: next :: rest =>
              assign sid fun s => { s with dnsCursor := next :: rest }
              retry
            | _ =>
              socksFailRequest key (socksErrnoToRep err)
              return .done
          | none =>
            assign sid fun s => { s with originFd := some fd }
            if ← selectorRegister fd ⟨.origin, opWrite, sid⟩ then
              assign sid fun s => { s with destAddr := some addr }
              return .originConnecting
            else
              assign sid fun s => { s with originFd := none }
              socksFailRequest key socksRepGeneralFailure
              return .done
        else
          socksFailRequest key socksRepGeneralFailure
          return .done

/-- `socks_begin_origin_connect` with at most `n` retries. -/
def socksConnectRetry (key : Key) : ℕ → SocksM SocksState
  | 0 => socksConnectAttempt key (return .done)
  | n + 1 => socksConnectAttempt key (socksConnectRetry key n)

/-- `socks_begin_origin_connect`. -/
def socksBeginOriginConnect (key : Key) : SocksM SocksState := do
  let s ← deref key.data
  socksConnectRetry key s.dnsCursor.length

/-! ## The parsing states -/

/-- `socks_auth_validate`. -/
def socksAuthValidate (p : AuthParser) (st : MonitorStore) : Bool :=
  p.unameLen ≠ 0 ∧ p.passwdLen ≠ 0 ∧
    storeUserValidate st (cstr (authUsername p)) (cstr (authPassword p))

/-- `socks_auth_store_user`. -/
def socksAuthStoreUser (sid : Sid) : SocksM Unit := do
  let s ← deref sid
  if s.storeId ≠ storeSessionInvalid ∧ s.auth.unameLen ≠ 0 then
    onStore (.setUser s.storeId (cstr (authUsername s.auth)))

/-- Close the session when a handshake reply found no room. -/
def appendOrClose (key : Key) (data : Bytes) (next : SocksM SocksState) : SocksM SocksState := do
  if ← socksO2cAppend key.data data then next
  else
    selectorUnregisterFd key.fd
    return .done

/-- Leave the session to be closed once its reply is out. -/
def refuse (sid : Sid) : SocksM SocksState := do
  assign sid fun s => { s with closeAfterFlush := true }
  return .done

/-- The loop of `socks_on_read_greeting`. -/
def greetingLoop (key : Key) : ℕ → SocksM SocksState
  | 0 => return .authGreeting
  | n + 1 => do
    let sid := key.data
    let s ← deref sid
    match s.c2o.pending with
    | [] => return .authGreeting
    | byte :: _ =>
      let r := greetingParserFeed s.greeting byte
      assign sid fun s => { s with greeting := r.1, c2o := s.c2o.readAdv 1 }
      match r.2 with
      | .needMore => greetingLoop key n
      | .accept =>
        let method := r.1.chosenMethod
        appendOrClose key [0x05, method] do
          emit sid (.greeted method)
          if method = socksMethodUserpass then return .authUserpass
          else
            onStore (.setUser s.storeId anonName)
            onStore (.setPhase s.storeId .auth)
            return .request
      | .reject => appendOrClose key [0x05, 0xFF] (refuse sid)

/-- `socks_on_read_greeting`. -/
def socksOnReadGreeting (key : Key) : SocksM SocksState := do
  let s ← deref key.data
  greetingLoop key s.c2o.pending.length

/-- The loop of `socks_on_read_auth`. -/
def authLoop (key : Key) : ℕ → SocksM SocksState
  | 0 => return .authUserpass
  | n + 1 => do
    let sid := key.data
    let s ← deref sid
    match s.c2o.pending with
    | [] => return .authUserpass
    | byte :: _ =>
      let r := authParserFeed s.auth byte
      assign sid fun s => { s with auth := r.1, c2o := s.c2o.readAdv 1 }
      match r.2 with
      | .needMore => authLoop key n
      | .reject => appendOrClose key [0x01, 0x01] (refuse sid)
      | .parsed => do
        let st ← srvStore
        if socksAuthValidate r.1 st then
          emit sid (.validated r.1 st)
          socksAuthStoreUser sid
          onStore (.setPhase s.storeId .auth)
          appendOrClose key [0x01, 0x00] (return .request)
        else appendOrClose key [0x01, 0x01] (refuse sid)

/-- `socks_on_read_auth`. -/
def socksOnReadAuth (key : Key) : SocksM SocksState := do
  let s ← deref key.data
  authLoop key s.c2o.pending.length

/-- What `socks_on_read_request` does when the parser has returned `status` for session `s`. -/
def requestDecided (key : Key) (s : SocksSession) (p : RequestParser) (status : RequestStatus) :
    SocksM SocksState := do
  let sid := key.data
  match status with
  | .parsedFqdn =>
    if isHostDenied (← srvStore) (requestFqdn p) then
      socksFailRequest key socksRepDeniedByRuleset
      return .done
    else
      onStore (.setPhase s.storeId .connecting)
      socksStartDnsResolve key
  | .parsedAddr =>
    let denied ← match p.destAddr with
      | some addr => checkDestAddr sid addr
      | none => pure false
    if denied then
      socksFailRequest key socksRepDeniedByRuleset
      return .done
    else
      onStore (.setPhase s.storeId .connecting)
      assign sid fun s => { s with destAddr := s.request.destAddr }
      socksBeginOriginConnect key
  | status =>
    socksFailRequest key (socksRequestStatusToRep status)
    return .done

/-- The loop of `socks_on_read_request`. -/
def requestLoop (key : Key) : ℕ → SocksM SocksState
  | 0 => return .request
  | n + 1 => do
    let sid := key.data
    let s ← deref sid
    match s.c2o.pending with
    | [] => return .request
    | byte :: _ =>
      let r := requestParserFeed s.request byte
      assign sid fun s => { s with request := r.1, c2o := s.c2o.readAdv 1 }
      match r.2 with
      | .needMore => requestLoop key n
      | status => requestDecided key s r.1 status

/-- `socks_on_read_request`. -/
def socksOnReadRequest (key : Key) : SocksM SocksState := do
  let s ← deref key.data
  requestLoop key s.c2o.pending.length

/-- `stm_handler_read`. -/
def stmHandlerRead (key : Key) : SocksM Unit := do
  handleFirst key.data
  let s ← deref key.data
  let ret ← match stmState s with
    | .authGreeting => socksOnReadGreeting key
    | .authUserpass => socksOnReadAuth key
    | .request => socksOnReadRequest key
    | _ => socksStubStay key.data
  jump key.data ret

/-! ## Resolution and connection -/

/-- `socks_on_block_resolving`. -/
def socksOnBlockResolving (key : Key) : SocksM SocksState := do
  let s ← deref key.data
  if s.dnsResolving then return .resolving
  else if s.dnsGaiRc ≠ .ok ∨ s.dnsResult = [] then
    socksFailRequest key (socksGaiRcToRep s.dnsGaiRc)
    return .done
  else
    assign key.data fun s => { s with dnsCursor := s.dnsResult }
    socksBeginOriginConnect key

/-- `stm_handler_block`: only `SOCKS_ST_RESOLVING` has an `on_block_ready`. -/
def stmHandlerBlock (key : Key) : SocksM Unit := do
  handleFirst key.data
  let s ← deref key.data
  if stmState s = .resolving then
    let ret ← socksOnBlockResolving key
    jump key.data ret
  else throw .abort

/-- The host `socks_session_record_dest` records. -/
def SocksSession.recordedHost (s : SocksSession) : Bytes :=
  let fqdn := requestFqdn s.request
  if fqdn ≠ [] then strncpyTerm fqdn storeMaxDestHost
  else match s.destAddr with
    | some (.inet a _) => Inet.ntop4 a
    | some (.inet6 b _) => Inet.ntop6 b
    | _ => unknownHost

/-- `socks_session_record_dest`. -/
def socksSessionRecordDest (sid : Sid) : SocksM Unit := do
  let s ← deref sid
  let now ← sysTime
  if !s.destRecorded ∧ s.storeId ≠ storeSessionInvalid then
    onStore (.setDest now s.storeId s.recordedHost s.request.destPort)
    assign sid fun s => { s with destRecorded := true }

/-- `socks_origin_connect_complete`. -/
def socksOriginConnectComplete (key : Key) : SocksM Unit := do
  let sid := key.data
  match ← sysSoError with
  | some err =>
    socksSessionDestroyOrigin sid
    let s ← deref sid
    match s.dnsCursor with
    | _ :: next :: rest =>
      assign sid fun s => { s with dnsCursor := next :: rest }
      let state ← socksBeginOriginConnect key
      jump sid state
    | _ =>
      socksFailRequest key (socksErrnoToRep err)
      let _ ← socksCloseIfFlushed sid
  | none =>
    if ← socksSendConnectReply sid socksRepSucceeded then
      socksSessionRecordDest sid
      jump sid .relay
      if ← socksFlushClient sid then
        let s ← deref sid
        match s.originFd with
        | some fd => selectorSetInterest fd (socksOriginInterest s)
        | none => pure ()
        selectorSetInterest s.clientFd (socksClientInterest s)
    else selectorUnregisterFd key.fd

/-! ## The selector callbacks -/

/-- The drain loop of `socks_client_read`. -/
def drainLoop (key : Key) : ℕ → SocksM Unit
  | 0 => return
  | n + 1 => do
    let s ← deref key.data
    if s.c2o.canRead ∧ (stmState s = .authGreeting ∨ stmState s = .authUserpass ∨
        stmState s = .request) then
      stmHandlerRead key
      drainLoop key n

/-- The tail of `socks_client_read`, `socks_client_write` and `socks_client_block`. -/
def settle (key : Key) : SocksM Unit := do
  if ← socksCloseIfFlushed key.data then
    let s ← deref key.data
    selectorSetInterest key.fd (socksClientInterest s)

/-- `socks_client_read`. -/
def socksClientRead (key : Key) : SocksM Unit := do
  let sid := key.data
  let s ← deref sid
  if s.c2o.space = 0 then selectorSetInterest key.fd (socksClientInterest s)
  else
    match ← sysRead sid .recv s.c2o.space with
    | .again =>
      let s ← deref sid
      selectorSetInterest key.fd (socksClientInterest s)
    | .error => selectorUnregisterFd key.fd
    | .data bs =>
      if bs = [] then selectorUnregisterFd key.fd
      else
        assign sid fun s => { s with c2o := s.c2o.append bs }
        socksSessionTouch sid
        let s ← deref sid
        if stmState s = .relay then
          match s.originFd with
          | none => settle key
          | some fd =>
            if ← socksFlushOrigin sid then
              let s ← deref sid
              selectorSetInterest fd (socksOriginInterest s)
              settle key
        else
          drainLoop key s.c2o.pending.length
          let s ← deref sid
          if s.o2c.canRead then
            if ← socksFlushClient sid then settle key
          else settle key

/-- `socks_client_write`. -/
def socksClientWrite (key : Key) : SocksM Unit := do
  if ← socksFlushClient key.data then settle key

/-- `socks_client_block`. -/
def socksClientBlock (key : Key) : SocksM Unit := do
  stmHandlerBlock key
  if ← socksFlushClient key.data then settle key

/-- `socks_origin_read`. -/
def socksOriginRead (key : Key) : SocksM Unit := do
  let sid := key.data
  let s ← deref sid
  if s.o2c.space = 0 then selectorSetInterest key.fd (socksOriginInterest s)
  else
    match ← sysRead sid .fetched s.o2c.space with
    | .again =>
      let s ← deref sid
      selectorSetInterest key.fd (socksOriginInterest s)
    | .error => socksSessionCloseFromOrigin sid
    | .data bs =>
      if bs = [] then socksSessionCloseFromOrigin sid
      else
        assign sid fun s => { s with o2c := s.o2c.append bs }
        socksSessionTouch sid
        let s ← deref sid
        if s.storeId ≠ storeSessionInvalid then
          onStore (.addBytes s.storeId 0 (UInt64.ofNat bs.length))
        if ← socksFlushClient sid then
          let s ← deref sid
          selectorSetInterest s.clientFd (socksClientInterest s)
          selectorSetInterest key.fd (socksOriginInterest s)

/-- `socks_origin_write`. -/
def socksOriginWrite (key : Key) : SocksM Unit := do
  let sid := key.data
  let s ← deref sid
  if stmState s = .originConnecting then socksOriginConnectComplete key
  else if ← socksFlushOrigin sid then
    let s ← deref sid
    selectorSetInterest key.fd (socksOriginInterest s)
    selectorSetInterest s.clientFd (socksClientInterest s)

/-! ## Accepting and expiring -/

/-- `socks_session_init`, over buffers of the configured size. -/
def socksSessionInit (clientFd : Fd) (bufSize now : ℕ) (storeId : UInt32) : SocksSession where
  clientFd := clientFd
  originFd := none
  c2o := Buffer.init bufSize
  o2c := Buffer.init bufSize
  stm := none
  greeting := greetingParserInit
  auth := authParserInit
  request := requestParserInit
  dnsResult := []
  dnsCursor := []
  dnsGaiRc := .ok
  dnsResolving := false
  closeAfterFlush := false
  destAddr := none
  storeId := storeId
  lastActivity := now
  destRecorded := false
  ttlExpired := false

/-- One accepted connection of `socks_passive_read`. -/
def acceptOne (clientFd : Fd) : SocksM Unit := do
  if ← sysNio then
    let w ← get
    let id := (storeSessionBegin w.store).2
    onStore .begin
    if id = storeSessionInvalid then return
    else
      let undo : SocksM Unit := onStore (.finish id)
      if ← sysAlloc then
        let c2oBacking ← sysAlloc
        let o2cBacking ← sysAlloc
        if c2oBacking && o2cBacking then
          let w ← get
          let sid := w.nextSid
          set { w with
            nextSid := sid + 1
            sessions := Function.update w.sessions sid (some (socksSessionInit clientFd
              (storeConfigGet w.store .ioBufferSize) w.clock id)) }
          if ← selectorRegister clientFd ⟨.client, opRead, sid⟩ then
            modify fun w => { w with
              activeSessions := w.activeSessions + 1
              idle := w.idle.pushTail sid }
          else
            undo
            modify fun w => { w with sessions := Function.update w.sessions sid none }
        else undo
      else undo

/-- The accept loop of `socks_passive_read`. -/
def acceptLoop : ℕ → SocksM Unit
  | 0 => return
  | n + 1 => do
    match ← sysAccept with
    | none => return
    | some fd =>
      acceptOne fd
      acceptLoop n

/-- `socks_passive_read`. -/
def socksPassiveRead : SocksM Unit := do
  let w ← get
  acceptLoop w.env.accept.length

/-- `socks_expire_session_pre_relay`. -/
def socksExpireSessionPreRelay (sid : Sid) : SocksM Unit := do
  if ← socksSendConnectReply sid socksRepTtlExpired then
    assign sid fun s => { s with closeAfterFlush := true, stm := some .done }
    if ← socksFlushClient sid then
      if ← socksCloseIfFlushed sid then
        let s ← deref sid
        selectorSetInterest s.clientFd (socksClientInterest s)
  else
    let s ← deref sid
    selectorUnregisterFd s.clientFd

/-- The loop of `socks_server_expire_idle`. -/
def expireLoop (now timeout : ℕ) : ℕ → SocksM Unit
  | 0 => return
  | n + 1 => do
    let w ← get
    match w.idle.head with
    | none => return
    | some sid =>
      let s ← deref sid
      if now - s.lastActivity < timeout then return
      else
        assign sid fun s => { s with ttlExpired := true }
        idleListRemove sid
        emit sid (.expired (stmState s))
        if stmState s = .relay then selectorUnregisterFd s.clientFd
        else socksExpireSessionPreRelay sid
        expireLoop now timeout n

/-- `socks_server_expire_idle`.  Each turn takes one session off the idle list, so the number of
sessions ever accepted bounds the turns. -/
def socksServerExpireIdle : SocksM Unit := do
  let w ← get
  let timeout := storeConfigGet w.store .timeout
  if timeout = 0 then return
  else expireLoop w.clock timeout w.nextSid

end Inet

end SocksProxy
