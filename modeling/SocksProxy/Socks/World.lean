import SocksProxy.Lib.Linked
import SocksProxy.Shared.Selector
import SocksProxy.Parsers.Greeting
import SocksProxy.Parsers.Auth
import SocksProxy.Parsers.Request
import SocksProxy.Store.Acts

/-!
# The state of the proxy

`World` is everything the callbacks of `socks.c` can touch: the selector table, the heap of open
sessions, the store, the idle list, the resolver threads in flight and the notifications they
posted.  A callback is a program of `SocksM`, which threads the world and can stop with a `Fault`:
an `abort()` of `stm.c`, a call through a NULL handler, or an access to a freed session.

The results of system calls are inputs.  Each callback is given an `Env`, the answers the system
will give to its calls, one list per call; a call takes the next answer of its list, and a list
that has run out answers with the last, harmless possibility of the call (`EAGAIN` for `read` and
`write`).  Counts are cut to what was asked for, so every `Env` is a behaviour of the system, and
every behaviour of the system is some `Env`.  One callback sees one value of `time(NULL)`.

`World.hist` records what happened to each session: every byte string that crossed a socket, every
reply the server itself enqueued, and the decisions the theorems talk about.  `World.acts` records
what was done to the store.  No program reads them.
-/

set_option autoImplicit false

namespace SocksProxy

/-- `enum socks_state`. -/
inductive SocksState where
  | authGreeting
  | authUserpass
  | request
  | resolving
  | originConnecting
  | relay
  | done
  deriving DecidableEq

/-- The numeric value of a state. -/
def SocksState.rank : SocksState → ℕ
  | .authGreeting => 0
  | .authUserpass => 1
  | .request => 2
  | .resolving => 3
  | .originConnecting => 4
  | .relay => 5
  | .done => 6

/-- `struct socks_session`.  The idle links live in `World.idle`; a session whose `stm.current` is
NULL has `stm = none`, and `dest_addr_len == 0` is `destAddr = none`.  An `addrinfo` list is the
list of its addresses. -/
structure SocksSession where
  clientFd : Fd
  originFd : Option Fd
  c2o : Buffer
  o2c : Buffer
  stm : Option SocksState
  greeting : GreetingParser
  auth : AuthParser
  request : RequestParser
  dnsResult : List SockAddr
  dnsCursor : List SockAddr
  dnsGaiRc : GaiRc
  dnsResolving : Bool
  closeAfterFlush : Bool
  destAddr : Option SockAddr
  storeId : UInt32
  lastActivity : ℕ
  destRecorded : Bool
  ttlExpired : Bool

/-- The answer of `read()`; no data is end of file. -/
inductive ReadAns where
  | data (bs : Bytes)
  | again
  | error

/-- The answer of `write()`. -/
inductive WriteAns where
  | ok (n : ℕ)
  | again
  | error
  deriving DecidableEq

/-- The answers the system gives to the calls of one callback. -/
structure Env where
  read : List ReadAns := []
  write : List WriteAns := []
  /-- `socket()`: the new descriptor. -/
  socket : List (Option Fd) := []
  /-- `selector_fd_set_nio()`: whether it succeeds. -/
  nio : List Bool := []
  /-- `connect()`: the error, or none for success and `EINPROGRESS`. -/
  connect : List (Option Errno) := []
  /-- `getsockopt(SO_ERROR)`, or its own error. -/
  soError : List (Option Errno) := []
  /-- Whether the selector table has room for the next registration. -/
  room : List Bool := []
  /-- Whether the next allocation succeeds. -/
  alloc : List Bool := []
  /-- Whether `pthread_create` succeeds. -/
  thread : List Bool := []
  /-- `accept()`: the new descriptor. -/
  accept : List (Option Fd) := []
  /-- Whether a reply that finds no room in its buffer stops the process, as an `assert` in
  `socks_o2c_append` would; in the program as it stands nothing does. -/
  asserts : Bool := false

/-- What is recorded about a session. -/
inductive Obs where
  /-- `read(client_fd)` returned these bytes; none is end of file. -/
  | recv (bs : Bytes)
  /-- `write(client_fd)` took these of the `asked` bytes offered; an error takes none. -/
  | sent (bs : Bytes) (asked : ℕ)
  /-- `read(origin_fd)` returned these bytes; none is end of file. -/
  | fetched (bs : Bytes)
  /-- `write(origin_fd)`, called in state `st`, took these of the `asked` bytes offered. -/
  | forwarded (st : SocksState) (bs : Bytes) (asked : ℕ)
  /-- The server itself appended these bytes to `o2c`. -/
  | reply (bs : Bytes)
  /-- The greeting was accepted with this method. -/
  | greeted (method : UInt8)
  /-- `socks_auth_validate` returned true for this parser against this store. -/
  | validated (auth : AuthParser) (store : MonitorStore)
  /-- `getaddrinfo` was started for this name. -/
  | lookup (host : Bytes)
  /-- The deny list, with these rules, was asked about this destination. -/
  | attempt (addr : SockAddr) (denied : List AclRule)
  /-- `connect()` was called with this address, while these addresses were denied. -/
  | connect (addr : SockAddr) (denied : List AclRule)
  /-- `handle_block` ran on the session, in state `st`, for a resolution started by `owner`. -/
  | block (owner : Sid) (st : SocksState)
  /-- `socks_server_expire_idle` found the session due, in this state. -/
  | expired (st : SocksState)
  /-- `socks_client_close` ran. -/
  | closed

/-- `socks_dns_ctx` of a running resolver thread. -/
structure DnsCtx where
  session : Sid
  notifyFd : Fd
  host : Bytes
  port : UInt16

/-- `struct blocking_job`, with the session whose thread posted it. -/
structure BlockingJob where
  fd : Fd
  owner : Sid

/-- The state of the process. -/
structure World where
  /-- The selector table. -/
  fds : Fd → Option Item
  /-- The sessions that are allocated. -/
  sessions : Sid → Option SocksSession
  /-- The next session to be allocated. -/
  nextSid : Sid
  store : MonitorStore
  /-- What was done to the store, in order. -/
  acts : List StoreAct
  /-- `idle_head`, `idle_tail` and the links of the sessions. -/
  idle : Linked Sid
  activeSessions : ℕ
  /-- The resolver threads that have not finished. -/
  threads : List DnsCtx
  /-- `resolution_jobs`. -/
  resolutionJobs : List BlockingJob
  /-- `time(NULL)`. -/
  clock : ℕ
  env : Env
  hist : Sid → List Obs

/-- The ways a callback can go wrong. -/
inductive Fault where
  /-- `abort()` in `stm.c`. -/
  | abort
  /-- A call through a NULL `handle_block`. -/
  | nullHandler
  /-- An access to a freed session. -/
  | useAfterFree
  /-- A reply that finds no room in its buffer, where the environment asserts that it does. -/
  | noRoom
  deriving DecidableEq

/-- The programs of the proxy. -/
abbrev SocksM := StateT World (Except Fault)

/-! ## Sessions and their history -/

/-- Read a session through its pointer. -/
def deref (sid : Sid) : SocksM SocksSession := fun w =>
  match w.sessions sid with
  | some s => .ok (s, w)
  | none => .error .useAfterFree

/-- Write fields of a session through its pointer. -/
def assign (sid : Sid) (f : SocksSession → SocksSession) : SocksM Unit := fun w =>
  match w.sessions sid with
  | some s => .ok ((), { w with sessions := Function.update w.sessions sid (some (f s)) })
  | none => .error .useAfterFree

/-- Record something about a session. -/
def emit (sid : Sid) (o : Obs) : SocksM Unit := fun w =>
  .ok ((), { w with hist := Function.update w.hist sid (w.hist sid ++ [o]) })

/-- `session->srv->store`. -/
def srvStore : SocksM MonitorStore := fun w => .ok (w.store, w)

/-- Call the store. -/
def onStore (c : StoreCall) : SocksM Unit := fun w =>
  .ok ((), { w with store := c.apply w.store, acts := w.acts ++ [.call c] })

/-- `session->in_idle_list`. -/
def inIdleList (sid : Sid) : SocksM Bool := fun w => .ok (w.idle.mem sid, w)

/-- `idle_list_push_tail`. -/
def idleListPushTail (sid : Sid) : SocksM Unit := fun w =>
  .ok ((), { w with idle := w.idle.pushTail sid })

/-- `idle_list_remove`. -/
def idleListRemove (sid : Sid) : SocksM Unit := fun w =>
  .ok ((), { w with idle := w.idle.remove sid })

/-! ## System calls -/

/-- `time(NULL)`. -/
def sysTime : SocksM ℕ := fun w => .ok (w.clock, w)

/-- The next answer to `read()`. -/
def nextRead : SocksM ReadAns := fun w =>
  .ok (w.env.read.headD .again, { w with env := { w.env with read := w.env.read.tail } })

/-- The next answer to `write()`. -/
def nextWrite : SocksM WriteAns := fun w =>
  .ok (w.env.write.headD .again, { w with env := { w.env with write := w.env.write.tail } })

/-- `read()` of at most `available` bytes. -/
def sysRead (sid : Sid) (log : Bytes → Obs) (available : ℕ) : SocksM ReadAns := do
  match ← nextRead with
  | .data bs =>
    emit sid (log (bs.take available))
    return .data (bs.take available)
  | .again => return .again
  | .error => return .error

/-- `write()` of `bs`. -/
def sysWrite (sid : Sid) (log : Bytes → Obs) (bs : Bytes) : SocksM WriteAns := do
  match ← nextWrite with
  | .ok n =>
    emit sid (log (bs.take n))
    return .ok (min n bs.length)
  | .again =>
    emit sid (log [])
    return .again
  | .error =>
    emit sid (log [])
    return .error

/-- A descriptor handed out by the system is not one that is already open. -/
def World.freshFd (w : World) (fd? : Option Fd) : Option Fd :=
  fd?.filter fun fd => (w.fds fd).isNone

/-- `socket()`. -/
def sysSocket : SocksM (Option Fd) := fun w =>
  .ok (w.freshFd (w.env.socket.headD none),
    { w with env := { w.env with socket := w.env.socket.tail } })

/-- `accept()`. -/
def sysAccept : SocksM (Option Fd) := fun w =>
  .ok (w.freshFd (w.env.accept.headD none),
    { w with env := { w.env with accept := w.env.accept.tail } })

/-- `selector_fd_set_nio()`. -/
def sysNio : SocksM Bool := fun w =>
  .ok (w.env.nio.headD true, { w with env := { w.env with nio := w.env.nio.tail } })

/-- `connect()`. -/
def sysConnect : SocksM (Option Errno) := fun w =>
  .ok (w.env.connect.headD none, { w with env := { w.env with connect := w.env.connect.tail } })

/-- `getsockopt(SO_ERROR)`. -/
def sysSoError : SocksM (Option Errno) := fun w =>
  .ok (w.env.soError.headD none, { w with env := { w.env with soError := w.env.soError.tail } })

/-- `malloc()` and `calloc()`. -/
def sysAlloc : SocksM Bool := fun w =>
  .ok (w.env.alloc.headD true, { w with env := { w.env with alloc := w.env.alloc.tail } })

/-- `pthread_create()`. -/
def sysThread : SocksM Bool := fun w =>
  .ok (w.env.thread.headD true, { w with env := { w.env with thread := w.env.thread.tail } })

/-! ## The selector -/

/-- Store an entry of the selector table. -/
def setItem (fd : Fd) (item? : Option Item) : SocksM Unit := fun w =>
  .ok ((), { w with fds := Function.update w.fds fd item? })

/-- `selector_register`: whether it returns `SELECTOR_SUCCESS`. -/
def selectorRegister (fd : Fd) (item : Item) : SocksM Bool := do
  let w ← get
  set { w with env := { w.env with room := w.env.room.tail } }
  if selectorItemsMaxSize ≤ fd then return false
  else if w.env.room.headD true = false then return false
  else if (w.fds fd).isSome then return false
  else
    setItem fd (some item)
    return true

/-- `selector_set_interest`; no caller looks at its status. -/
def selectorSetInterest (fd : Fd) (i : FdInterest) : SocksM Unit := do
  match (← get).fds fd with
  | none => return
  | some item => setItem fd (some { item with interest := i })

/-- `selector_unregister_fd`, calling `close` as the `handle_close` of the registration. -/
def unregisterWith (close : Item → Key → SocksM Unit) (fd : Fd) : SocksM Unit := do
  match (← get).fds fd with
  | none => return
  | some item =>
    setItem fd (some { item with interest := opNoop })
    close item ⟨fd, item.data⟩
    setItem fd none

end SocksProxy
