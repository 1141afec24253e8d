import SocksProxy.Monitor.Operations
import SocksProxy.Monitor.Server
import SocksProxy.Socks.System

/-!
# The process

`main.c` runs two servers in one thread, over one selector and one store: the proxy of `socks.c` and
the monitoring port of `monitor.c`.  `World` is the half of the proxy, with the selector table and
the store; a `Process` adds the other half: the connections of the administrators, the listening
sockets of the two servers, and the shutdown.

An entry of the table with the handler `.monitor` holds no pointer if it is the listening socket,
and the number of the connection, counted from one, if it is a connection of an administrator.  A
callback of `monitor.c` finds in the store what the callbacks before it left there, those of the
proxy and those of the other administrators alike.

`Process.trail` records the lines that were dispatched and the operations they came to.  No program
reads it.
-/

set_option autoImplicit false

namespace SocksProxy

/-- What an administrator did. -/
inductive Deed where
  /-- Connection `id` had this line dispatched while the store was `st`. -/
  | line (id : ℕ) (bs : Bytes) (st : MonitorStore)
  /-- A line of connection `id` came to this operation. -/
  | order (id : ℕ) (op : StoreOp)

/-- The state of the process. -/
structure Process where
  /-- The proxy, the selector and the store. -/
  world : World
  /-- The sessions of `monitor.c` that are allocated. -/
  consoles : ℕ → Option MonitorSession
  /-- The next of them to be allocated. -/
  nextConsole : ℕ
  /-- `active_sessions` of the `monitor_server`. -/
  activeConsoles : ℕ
  /-- `listen_fd` of the `socks_server`; none for -1. -/
  socksListenFd : Option Fd
  /-- `listen_fd` of the `monitor_server`. -/
  monitorListenFd : Option Fd
  trail : List Deed

/-- The programs of the process. -/
abbrev ProcessM := StateT Process (Except Fault)

/-- A program of the proxy. -/
def onWorld {α : Type} (prog : SocksM α) : ProcessM α := fun p =>
  match prog p.world with
  | .ok (a, w) => .ok (a, { p with world := w })
  | .error f => .error f

/-! ## What was ordered -/

namespace Core

variable [Inet]

/-- The operations of the store that what is handed on comes to. -/
def ordersOf (k : Core) : Framed → List StoreOp
  | .line bs =>
    match k.state with
    | .awaitAuth => []
    | .authenticated => (splitLine bs).storeOps k.store (k.realloc.headD true)
  | _ => []

omit [Inet] in
/-- The line that is handed on, if it is one. -/
def lineOf (id : ℕ) (k : Core) : Framed → List Deed
  | .line bs => [.line id bs k.store]
  | _ => []

/-- The operations some inputs come to. -/
def orders : Core → List MonitorInput → List StoreOp
  | _, [] => []
  | k, i :: is => k.ordersOf (frame k.line i).2 ++ orders (k.input i) is

/-- What some inputs of connection `id` come to. -/
def deeds (id : ℕ) : Core → List MonitorInput → List Deed
  | _, [] => []
  | k, i :: is =>
    k.lineOf id (frame k.line i).2 ++ (k.ordersOf (frame k.line i).2).map (.order id) ++
      deeds id (k.input i) is

end Core

/-! ## The callbacks of the monitoring port -/

section Monitor

variable [Inet]

omit [Inet] in
/-- A session, as a callback finds it: the store is the store of the process. -/
def MonitorSession.attach (s : MonitorSession) (w : World) : MonitorSession :=
  { s with console := { s.console with store := w.store, realloc := w.env.alloc } }

omit [Inet] in
/-- `key->data`. -/
def attached (id : ℕ) : ProcessM MonitorSession := fun p =>
  match p.consoles id with
  | some s => .ok (s.attach p.world, p)
  | none => .error .useAfterFree

/-- The proxy after some operations of the store. -/
def World.ordered (w : World) (ops : List StoreOp) : World :=
  { w with store := applyOps w.store ops, acts := w.acts ++ ops.map .admin }

omit [Inet] in
/-- The session, as long as it is registered. -/
def MonitorSession.still (s : MonitorSession) : Option MonitorSession :=
  if s.registered then some s else none

omit [Inet] in
/-- The entry of a connection. -/
def consoleItem (i : FdInterest) (id : ℕ) : Item := ⟨.monitor, i, id + 1⟩

/-- The process after a callback that found `s` and left `s'` after the inputs `is`: the session
stays registered with its interest, or `monitor_client_close` has run. -/
def Process.left (p : Process) (key : Key) (s s' : MonitorSession) (is : List MonitorInput) :
    Process :=
  { p with
    world := { p.world with
      store := s'.console.store
      acts := p.world.acts ++ (s.console.core.orders is).map .admin
      fds := Function.update p.world.fds key.fd
        (s'.still.map fun s => consoleItem s.interest key.data) }
    consoles := Function.update p.consoles key.data s'.still
    activeConsoles := if s'.registered then p.activeConsoles else p.activeConsoles - 1
    trail := p.trail ++ s.console.core.deeds key.data is }

/-- The end of a callback. -/
def leave (key : Key) (s s' : MonitorSession) (is : List MonitorInput) : ProcessM Unit :=
  modify fun p => p.left key s s' is

/-- `monitor_client_read`, for the connection `key.data` on `key.fd`. -/
def monitorClientRead (key : Key) : ProcessM Unit := do
  let ans ← onWorld nextRead
  let wans ← onWorld nextWrite
  let s ← attached key.data
  leave key s (s.monitorClientRead ans wans) (MonitorEvent.readable ans wans).inputs

/-- `monitor_client_write`. -/
def monitorClientWrite (key : Key) : ProcessM Unit := do
  let wans ← onWorld nextWrite
  let s ← attached key.data
  leave key s (s.monitorClientWrite wans) []

omit [Inet] in
/-- One accepted connection of `monitor_passive_read`. -/
def monitorAcceptOne (clientFd : Fd) : ProcessM Unit := do
  if ← onWorld sysNio then
    if ← onWorld sysAlloc then
      let p ← get
      let session := MonitorSession.init p.world.store
      let item := consoleItem session.monitorClientInterest p.nextConsole
      if ← onWorld (selectorRegister clientFd item) then
        modify fun p' => { p' with
          consoles := Function.update p'.consoles p.nextConsole (some session)
          nextConsole := p'.nextConsole + 1
          activeConsoles := p'.activeConsoles + 1 }

omit [Inet] in
/-- The accept loop of `monitor_passive_read`. -/
def monitorAcceptLoop : ℕ → ProcessM Unit
  | 0 => return
  | n + 1 => do
    match ← onWorld sysAccept with
    | none => return
    | some fd =>
      monitorAcceptOne fd
      monitorAcceptLoop n

omit [Inet] in
/-- `monitor_passive_read`. -/
def monitorPassiveRead : ProcessM Unit := do
  let p ← get
  monitorAcceptLoop p.world.env.accept.length

end Monitor

/-! ## Shutting down -/

/-- A descriptor is unregistered. -/
def Process.unlisten (p : Process) (fd : Fd) : Process :=
  { p with world := { p.world with fds := Function.update p.world.fds fd none } }

/-- The process after `socks_server_stop_accepting`. -/
def Process.withoutSocks (p : Process) : Process :=
  match p.socksListenFd with
  | none => p
  | some fd => { p.unlisten fd with socksListenFd := none }

/-- The process after `monitor_server_stop_accepting`. -/
def Process.withoutMonitor (p : Process) : Process :=
  match p.monitorListenFd with
  | none => p
  | some fd => { p.unlisten fd with monitorListenFd := none }

/-- `socks_server_stop_accepting`. -/
def socksServerStopAccepting : ProcessM Unit := modify Process.withoutSocks

/-- `monitor_server_stop_accepting`. -/
def monitorServerStopAccepting : ProcessM Unit := modify Process.withoutMonitor

/-- `socks_server_is_empty`. -/
def Process.socksServerIsEmpty (p : Process) : Bool :=
  p.socksListenFd.isNone && p.world.activeSessions == 0

/-- `monitor_server_is_empty`. -/
def Process.monitorServerIsEmpty (p : Process) : Bool :=
  p.monitorListenFd.isNone && p.activeConsoles == 0

/-- `servers_is_empty`. -/
def Process.serversIsEmpty (p : Process) : Bool :=
  p.socksServerIsEmpty && p.monitorServerIsEmpty

/-! ## Events -/

/-- What can happen to the process. -/
inductive ProcessEvent where
  /-- `epoll_wait` reports the descriptor readable. -/
  | readable (fd : Fd) (env : Env)
  /-- `epoll_wait` reports the descriptor writable. -/
  | writable (fd : Fd) (env : Env)
  /-- The `i`-th resolver thread finishes. -/
  | resolved (i : ℕ) (rc : GaiRc) (result : List SockAddr) (posted : Bool)
  /-- `handle_block_notifications`. -/
  | notifications (env : Env)
  /-- `socks_server_expire_idle`. -/
  | expire (env : Env)
  /-- The clock advances. -/
  | tick (seconds : ℕ)
  /-- The loop of `main` finds that a signal has asked for the shutdown. -/
  | stop

variable [Inet]

/-- A ready descriptor: the entry of the monitoring port, if it is one. -/
def onMonitor (fd : Fd) (env : Env) (wanted : FdInterest → Bool) (callback : ℕ → ProcessM Unit)
    (otherwise : Event) : ProcessM Unit := do
  match (← get).world.fds fd with
  | some ⟨.monitor, interest, data⟩ =>
    if wanted interest then
      modify fun p => { p with world := { p.world with env := env } }
      callback data
  | _ => onWorld otherwise.program

/-- The program an event runs. -/
def ProcessEvent.program : ProcessEvent → ProcessM Unit
  | .readable fd env =>
    onMonitor fd env (·.read)
      (fun data => if data = 0 then monitorPassiveRead else monitorClientRead ⟨fd, data - 1⟩)
      (.readable fd env)
  | .writable fd env =>
    onMonitor fd env (·.write)
      (fun data => if data = 0 then return else monitorClientWrite ⟨fd, data - 1⟩)
      (.writable fd env)
  | .resolved i rc result posted => onWorld (Event.program (.resolved i rc result posted))
  | .notifications env => onWorld (Event.program (.notifications env))
  | .expire env => onWorld (Event.program (.expire env))
  | .tick n => onWorld (Event.program (.tick n))
  | .stop => do
    socksServerStopAccepting
    monitorServerStopAccepting

/-- One step of the process. -/
def processStep (p : Process) (e : ProcessEvent) : Except Fault Process :=
  match e.program p with
  | .ok (_, p') => .ok p'
  | .error f => .error f

/-- The process once both servers listen: no session, and the users of the command line. -/
def Process.boot (socksFd monitorFd : Fd) (users : List StoreOp) : Process where
  world := (World.boot socksFd monitorFd).ordered users
  consoles := fun _ => none
  nextConsole := 0
  activeConsoles := 0
  socksListenFd := some socksFd
  monitorListenFd := some monitorFd
  trail := []

end SocksProxy
