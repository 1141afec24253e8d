import SocksProxy.Lib.Runs
import SocksProxy.Socks.Handlers
import SocksProxy.Store.Acts

/-!
# The proxy as a machine

`step` is one thing that can happen to the process, from the moment it listens: the selector finds
a descriptor ready and calls its handler, a resolver thread finishes, the pending notifications
are handled, the idle sessions are expired, the clock advances, an administrator changes the
store, or the monitor accepts or closes a connection.

A handler runs only for a registration that is live and has the event in its interest, which is
what `handle_iteration` checks.  Nothing else is assumed about the order of events, so every
schedule of the main loop is a run of `step`, including those in which a readiness event is
spurious.
-/

set_option autoImplicit false

namespace SocksProxy

variable [Inet]

/-- What can happen. -/
inductive Event where
  /-- `epoll_wait` reports the descriptor readable. -/
  | readable (fd : Fd) (env : Env)
  /-- `epoll_wait` reports the descriptor writable. -/
  | writable (fd : Fd) (env : Env)
  /-- The `i`-th resolver thread finishes; `posted` says whether its notification is allocated. -/
  | resolved (i : ℕ) (rc : GaiRc) (result : List SockAddr) (posted : Bool)
  /-- `handle_block_notifications`. -/
  | notifications (env : Env)
  /-- `socks_server_expire_idle`. -/
  | expire (env : Env)
  /-- The clock advances. -/
  | tick (seconds : ℕ)
  /-- The store is changed by an administrator. -/
  | admin (op : StoreOp)
  /-- The monitor registers a connection it accepted. -/
  | monitorOpen (fd : Fd) (interest : FdInterest)
  /-- The monitor closes a connection. -/
  | monitorClose (fd : Fd)

/-- `handle_read` of a registration, if `OP_READ` is armed. -/
def dispatchRead (fd : Fd) : SocksM Unit := do
  match (← get).fds fd with
  | none => return
  | some item =>
    if item.interest.read then
      match item.handler with
      | .client => socksClientRead ⟨fd, item.data⟩
      | .origin => socksOriginRead ⟨fd, item.data⟩
      | .passive => socksPassiveRead
      | .monitor => return

/-- `handle_write` of a registration, if `OP_WRITE` is armed. -/
def dispatchWrite (fd : Fd) : SocksM Unit := do
  match (← get).fds fd with
  | none => return
  | some item =>
    if item.interest.write then
      match item.handler with
      | .client => socksClientWrite ⟨fd, item.data⟩
      | .origin => socksOriginWrite ⟨fd, item.data⟩
      | _ => return

/-- The end of `socks_dns_thread`: the result is written into the session and the selector is
notified. -/
def socksDnsThread (i : ℕ) (rc : GaiRc) (result : List SockAddr) (posted : Bool) :
    SocksM Unit := do
  let w ← get
  match w.threads[i]? with
  | none => return
  | some ctx =>
    set { w with threads := w.threads.eraseIdx i }
    assign ctx.session fun s => { s with
      dnsResolving := false, dnsGaiRc := rc, dnsResult := if rc = .ok then result else [] }
    if posted then
      modify fun w => { w with
        resolutionJobs := ⟨ctx.notifyFd, ctx.session⟩ :: w.resolutionJobs }

/-- One turn of the loop of `handle_block_notifications`. -/
def handleJob (job : BlockingJob) : SocksM Unit := do
  match (← get).fds job.fd with
  | none => return
  | some item =>
    if item.handler.hasBlock then
      let s ← deref item.data
      emit item.data (.block job.owner (stmState s))
      socksClientBlock ⟨job.fd, item.data⟩
    else throw .nullHandler

/-- The loop of `handle_block_notifications`. -/
def handleJobs : List BlockingJob → SocksM Unit
  | [] => return
  | job :: jobs => do
    handleJob job
    handleJobs jobs

/-- `handle_block_notifications`. -/
def handleBlockNotifications : SocksM Unit := do
  let w ← get
  handleJobs w.resolutionJobs
  modify fun w => { w with resolutionJobs := [] }

/-- The monitor takes a fresh descriptor. -/
def monitorAccept (fd : Fd) (interest : FdInterest) : SocksM Unit := do
  let w ← get
  match w.freshFd (some fd) with
  | none => return
  | some fd =>
    if fd < selectorItemsMaxSize then setItem fd (some ⟨.monitor, interest, 0⟩)

/-- The monitor gives a descriptor up. -/
def monitorRelease (fd : Fd) : SocksM Unit := do
  match (← get).fds fd with
  | some ⟨.monitor, _, _⟩ => setItem fd none
  | _ => return

/-- An administrator changes the store. -/
def administer (op : StoreOp) : SocksM Unit := fun w =>
  .ok ((), { w with store := op.apply w.store, acts := w.acts ++ [.admin op] })

/-- The program an event runs. -/
def Event.program : Event → SocksM Unit
  | .readable fd env => do modify ({ · with env := env }); dispatchRead fd
  | .writable fd env => do modify ({ · with env := env }); dispatchWrite fd
  | .resolved i rc result posted => socksDnsThread i rc result posted
  | .notifications env => do modify ({ · with env := env }); handleBlockNotifications
  | .expire env => do modify ({ · with env := env }); socksServerExpireIdle
  | .tick n => modify fun w => { w with clock := w.clock + n }
  | .admin op => administer op
  | .monitorOpen fd i => monitorAccept fd i
  | .monitorClose fd => monitorRelease fd

/-- One step of the machine. -/
def step (w : World) (e : Event) : Except Fault World :=
  match e.program w with
  | .ok (_, w') => .ok w'
  | .error f => .error f

omit [Inet] in
/-- The process once it listens: no session, a fresh store, and the two passive sockets. -/
def World.boot (listenFd monitorFd : Fd) : World where
  fds := Function.update (Function.update (fun _ => none) monitorFd (some ⟨.monitor, opRead, 0⟩))
    listenFd (some ⟨.passive, opRead, 0⟩)
  sessions := fun _ => none
  nextSid := 0
  store := storeCreate
  acts := []
  idle := Linked.empty
  activeSessions := 0
  threads := []
  resolutionJobs := []
  clock := 0
  env := {}
  hist := fun _ => []

end SocksProxy
