import SocksProxy.Server.Process
import SocksProxy.Shared.Flags

/-!
# `main`

`main.c` reads the command line, fills the user table of a new store from it, puts the listening
sockets of the two servers into a new selector, and then turns its loop until both servers are
empty.  A signal makes the next turn close the listening sockets; a second one ends the process at
once, and is not modelled.
-/

set_option autoImplicit false

namespace SocksProxy

/-- `"p:m:hu:a:"` -/
def serverFlags : Bytes := ascii "p:m:hu:a:"

/-- What the system answers before the loop. -/
structure StartEnv where
  /-- `selector_init` succeeds. -/
  selectorInit : Bool
  /-- `selector_new` succeeds. -/
  selectorNew : Bool
  /-- `store_create` succeeds. -/
  storeCreate : Bool
  /-- `create_listen_socket` of `socks.c`; none as well if the server is not allocated. -/
  socksListen : Option Fd
  /-- `create_listen_socket` of `monitor.c`. -/
  monitorListen : Option Fd
  /-- The rest, for `selector_register`. -/
  env : Env

/-- How `main` comes out before the loop. -/
inductive Startup where
  /-- The usage is printed, and the process fails. -/
  | usage
  /-- The usage was asked for. -/
  | help
  /-- The system refused something. -/
  | failed
  /-- `strchr` was called with a null pointer. -/
  | crashed
  /-- Both servers listen, on these ports. -/
  | serving (socksPort monitorPort : ℕ) (p : Process)

/-- A port of the command line. -/
def portFlag (flags : Flags) (flag : UInt8) (default : ℕ) : Option ℕ :=
  if flags.hasFlag flag then
    let value := flags.getFlagLong flag
    if value ≤ 0 ∨ 65535 < value then none else some value.toNat
  else some default

/-! ## The users of the command line -/

/-- The two halves of `user:password`, neither of them empty. -/
def splitUser (input : Bytes) : Option (Bytes × Bytes) :=
  let user := input.takeWhile (· != 58)
  let password := (input.dropWhile (· != 58)).tail
  if user = [] ∨ password = [] then none else some (user, password)

section Store

variable [Inet]

/-- `add_flag_user` for every value of a flag; a value that is not there is a null pointer. -/
def addFlagUsers (isAdmin : Bool) : List (Option Bytes) → World → Except Startup World
  | [], w => .ok w
  | none :: _, _ => .error .crashed
  | some input :: inputs, w =>
    match splitUser input with
    | none => .error .usage
    | some (user, password) =>
      if (storeUserAdd w.store user password isAdmin).2 = .ok then
        addFlagUsers isAdmin inputs (w.ordered [.addUser user password isAdmin])
      else .error .usage

end Store

/-- The values `main` goes through. -/
def flagInputs (flags : Flags) (flag : UInt8) : List (Option Bytes) :=
  (List.range (flags.getFlagCount flag)).map (flags.getFlagStrNth flag)

/-! ## The servers -/

/-- The process before it listens. -/
def World.created : World where
  fds := fun _ => none
  sessions := fun _ => none
  nextSid := 0
  store := storeCreate
  acts := []
  idle := Linked.empty
  activeSessions := 0
  threads := []
  resolutionJobs := []
  clock := 0
  env := {}
  hist := fun _ => []

/-- `socks_server_init` and `monitor_server_init`: the listening socket, if it could be made and
registered. -/
def serverInit (fd? : Option Fd) (item : Item) : SocksM (Option Fd) := do
  match (← get).freshFd fd? with
  | none => return none
  | some fd => if ← selectorRegister fd item then return some fd else return none

/-- Both servers, and the process they make up. -/
def startServers (env : StartEnv) : SocksM (Option Process) := do
  modify fun w => { w with env := env.env }
  match ← serverInit env.socksListen ⟨.passive, opRead, 0⟩ with
  | none => return none
  | some socksFd =>
    match ← serverInit env.monitorListen ⟨.monitor, opRead, 0⟩ with
    | none => return none
    | some monitorFd =>
      modify fun w => { w with env := {} }
      return some {
        world := ← get
        consoles := fun _ => none
        nextConsole := 0
        activeConsoles := 0
        socksListenFd := some socksFd
        monitorListenFd := some monitorFd
        trail := [] }

section Start

variable [Inet]

/-- `main` from the store on. -/
def startStore (flags : Flags) (env : StartEnv) (socksPort monitorPort : ℕ) : Startup :=
  match addFlagUsers false (flagInputs flags 117) World.created with
  | .error outcome => outcome
  | .ok w =>
    match addFlagUsers true (flagInputs flags 97) w with
    | .error outcome => outcome
    | .ok w =>
      match startServers env w with
      | .ok (some p, _) => .serving socksPort monitorPort p
      | _ => .failed

/-- `main` up to its loop. -/
def startup (argv : List Bytes) (env : StartEnv) : Startup :=
  let flags := Flags.setupFlags argv serverFlags
  if flags.hasFlag 104 then .help
  else match portFlag flags 112 1080, portFlag flags 109 8080 with
    | some socksPort, some monitorPort =>
      if flags.getFlagCount 117 < 1 ∨ flags.getFlagCount 97 < 1 then .usage
      else if !env.selectorInit || !env.selectorNew || !env.storeCreate then .failed
      else startStore flags env socksPort monitorPort
    | _, _ => .usage

end Start

/-! ## The loop -/

/-- What happens while `selector_select` runs. -/
def ProcessEvent.ofSelect : ProcessEvent → Bool
  | .expire _ => false
  | .stop => false
  | _ => true

/-- One turn of the loop of `main`. -/
structure LoopTurn where
  /-- A signal has come. -/
  shutdownRequested : Bool
  /-- What happens during `selector_select`: the descriptors it reports, the notifications, and the
  threads and the clock beside it. -/
  events : List ProcessEvent
  ofSelect : ∀ e ∈ events, e.ofSelect = true
  /-- `selector_select` fails with an `errno` other than `EINTR`. -/
  selectFails : Bool
  /-- For `socks_server_expire_idle`. -/
  env : Env

/-- The events of one turn, with the variable `stop`. -/
def LoopTurn.program (t : LoopTurn) (stop : Bool) : List ProcessEvent :=
  (if stop then [.stop] else []) ++ t.events ++ if t.selectFails then [] else [.expire t.env]

/-- Where the loop of `main` stands. -/
inductive LoopState where
  /-- It turns. -/
  | running (stop : Bool) (p : Process)
  /-- The servers are empty. -/
  | finished (p : Process)
  /-- `selector_select` has failed. -/
  | broken (p : Process)

variable [Inet]

/-- One turn of the loop: its condition and its body. -/
def loopStep : LoopState → LoopTurn → Except Fault LoopState
  | .finished p, _ => .ok (.finished p)
  | .broken p, _ => .ok (.broken p)
  | .running stop p, t =>
    if p.serversIsEmpty then .ok (.finished p)
    else
      let stop := stop || t.shutdownRequested
      match run processStep p (t.program stop) with
      | .error f => .error f
      | .ok p' => .ok (if t.selectFails then .broken p' else .running stop p')

end SocksProxy
