import SocksProxy.Monitor.Replies
import SocksProxy.Store.Acts

/-!
# What a line does to the store

A line of an authenticated session comes to at most two operations of the store: none for a
question, a listing, or words that the handler refuses, two for an `UNDENY` that finds no such host,
and one for everything else.  `Console.storeOps` lists them, and `dispatchLine_store` says that the
store after `dispatch_line` is the store after these operations.
-/

set_option autoImplicit false

namespace SocksProxy

variable [Inet]

namespace MonitorCmd

variable (cmd : MonitorCmd)

omit [Inet] in
/-- `CONFIG`: nothing unless the value passes the checks of the handler. -/
def configOps (realloc : Bool) : List StoreOp :=
  if cmd.argc < 3 then []
  else match storeConfigKeyFromName (cmd.arg 1) with
    | none => []
    | some key =>
      let (value, rest) := strtol (cmd.arg 2)
      if rest = cmd.arg 2 ∨ rest ≠ [] ∨ value < 0 then []
      else if cmd.arg 1 = ascii "timeout" ∧ value > 86400 then []
      else if cmd.arg 1 = ascii "max_connections" ∧
          (value < storeSessionsCapMin ∨ value > storeSessionsCapMax) then []
      else if cmd.arg 1 = ascii "io_buffer_size" ∧ (value < 1024 ∨ value > 65536) then []
      else [.config key (value.toNat % 2 ^ 32) realloc]

omit [Inet] in
/-- `DENY_HOST` and `DENY_IP`: nothing unless the list has no such rule yet. -/
def denyOps (st : MonitorStore) (isDenied : MonitorStore → Bytes → Bool) (op : Bytes → StoreOp) :
    List StoreOp :=
  if cmd.argc < 2 then [] else if isDenied st (cmd.arg 1) then [] else [op (cmd.arg 1)]

omit [Inet] in
/-- `UNDENY`: the address list is only tried when the host list has no such rule. -/
def undenyOps (st : MonitorStore) : List StoreOp :=
  if cmd.argc < 2 then []
  else if (storeUndenyHost st (cmd.arg 1)).2 then [.undenyHost (cmd.arg 1)]
  else [.undenyHost (cmd.arg 1), .undenyIp (cmd.arg 1)]

/-- The operations of a command. -/
def storeOps (st : MonitorStore) (realloc : Bool) : List StoreOp :=
  if cmd.cmd = ascii "STATS" then []
  else if cmd.cmd = ascii "CONNECTIONS" then []
  else if cmd.cmd = ascii "USERS" then []
  else if cmd.cmd = ascii "CONFIG" then cmd.configOps realloc
  else if cmd.cmd = ascii "ACCESS_LOG" then []
  else if cmd.cmd = ascii "ADD_USER" then
    if cmd.argc < 3 then []
    else [.addUser (cmd.arg 1) (cmd.arg 2) (decide (cmd.argc ≥ 4 ∧ cmd.arg 3 = ascii "admin"))]
  else if cmd.cmd = ascii "DEL_USER" then
    if cmd.argc < 2 then [] else [.deleteUser (cmd.arg 1)]
  else if cmd.cmd = ascii "SET_PASSWORD" then
    if cmd.argc < 3 then [] else [.setPassword (cmd.arg 1) (cmd.arg 2)]
  else if cmd.cmd = ascii "DENY_HOST" then cmd.denyOps st isHostDenied .denyHost
  else if cmd.cmd = ascii "DENY_IP" then cmd.denyOps st isIpDenied .denyIp
  else if cmd.cmd = ascii "UNDENY" then cmd.undenyOps st
  else []

end MonitorCmd

/-- The operations a line comes to. -/
def Console.storeOps (c : Console) (line : Bytes) : List StoreOp :=
  match c.session.state with
  | .awaitAuth => []
  | .authenticated => (splitLine line).storeOps c.store (c.realloc.headD true)

/-- The store after some operations. -/
def applyOps (st : MonitorStore) (ops : List StoreOp) : MonitorStore := ops.foldl StoreOp.apply st

namespace Reply

variable (r : Reply) (cmd : MonitorCmd)

omit [Inet] in
theorem store_auth : (r.auth cmd).store = r.store := by
  rw [auth]
  split
  · rfl
  · split <;> rfl

theorem store_config :
    (r.config cmd).store = applyOps r.store (cmd.configOps (r.realloc.headD true)) := by
  rw [config, MonitorCmd.configOps]
  by_cases h2 : cmd.argc < 2
  · rw [if_pos h2, if_pos (by omega)]
    rfl
  rw [if_neg h2]
  by_cases h3 : cmd.argc = 2
  · rw [if_pos (show cmd.argc < 3 by omega)]
    cases storeConfigKeyFromName (cmd.arg 1) with
    | none => rfl
    | some key =>
      dsimp only
      rw [if_pos h3]
      rfl
  rw [if_neg (show ¬ cmd.argc < 3 by omega)]
  cases storeConfigKeyFromName (cmd.arg 1) with
  | none => rfl
  | some key =>
    dsimp only
    rw [if_neg h3]
    split
    · rfl
    split
    · rfl
    split
    · rfl
    split
    · rfl
    · split <;> rfl

omit [Inet] in
theorem store_accessLog : (r.accessLog cmd).store = r.store := by
  rw [accessLog]
  split
  · split <;> rfl
  · rfl

theorem store_deny {isDenied : MonitorStore → Bytes → Bool}
    {deny : MonitorStore → Bytes → MonitorStore × Bool} {already : String} {op : Bytes → StoreOp}
    (hop : ∀ st h, (op h).apply st = (deny st h).1) :
    (r.deny cmd isDenied deny already).store =
      applyOps r.store (cmd.denyOps r.store isDenied op) := by
  rw [Reply.deny, MonitorCmd.denyOps]
  split
  · rfl
  split
  · rfl
  · dsimp only
    split
    · exact (hop _ _).symm
    · exact (hop _ _).symm

theorem store_undeny :
    (r.undeny cmd).store = applyOps r.store (cmd.undenyOps r.store) := by
  rw [undeny, MonitorCmd.undenyOps]
  split
  · rfl
  dsimp only
  split
  · rfl
  · split <;> rfl

theorem store_addUser :
    (r.addUser cmd).store = applyOps r.store (if cmd.argc < 3 then []
      else [.addUser (cmd.arg 1) (cmd.arg 2) (decide (cmd.argc ≥ 4 ∧ cmd.arg 3 = ascii "admin"))]) := by
  rw [addUser]
  dsimp only
  split
  · rfl
  · split <;> rfl

theorem store_delUser :
    (r.delUser cmd).store =
      applyOps r.store (if cmd.argc < 2 then [] else [.deleteUser (cmd.arg 1)]) := by
  rw [delUser]
  split
  · rfl
  · dsimp only
    split <;> rfl

theorem store_setPassword :
    (r.setPassword cmd).store =
      applyOps r.store (if cmd.argc < 3 then [] else [.setPassword (cmd.arg 1) (cmd.arg 2)]) := by
  rw [setPassword]
  split
  · rfl
  · dsimp only
    split <;> rfl

theorem store_route :
    (r.route cmd).store = applyOps r.store (cmd.storeOps r.store (r.realloc.headD true)) := by
  rw [route, MonitorCmd.storeOps]
  by_cases h : cmd.cmd = ascii "STATS"
  · rw [if_pos h, if_pos h]
    rfl
  rw [if_neg h, if_neg h]
  by_cases h : cmd.cmd = ascii "CONNECTIONS"
  · rw [if_pos h, if_pos h]
    rfl
  rw [if_neg h, if_neg h]
  by_cases h : cmd.cmd = ascii "USERS"
  · rw [if_pos h, if_pos h]
    rfl
  rw [if_neg h, if_neg h]
  by_cases h : cmd.cmd = ascii "CONFIG"
  · rw [if_pos h, if_pos h]
    exact store_config r cmd
  rw [if_neg h, if_neg h]
  by_cases h : cmd.cmd = ascii "ACCESS_LOG"
  · rw [if_pos h, if_pos h]
    exact store_accessLog r cmd
  rw [if_neg h, if_neg h]
  by_cases h : cmd.cmd = ascii "ADD_USER"
  · rw [if_pos h, if_pos h]
    exact store_addUser r cmd
  rw [if_neg h, if_neg h]
  by_cases h : cmd.cmd = ascii "DEL_USER"
  · rw [if_pos h, if_pos h]
    exact store_delUser r cmd
  rw [if_neg h, if_neg h]
  by_cases h : cmd.cmd = ascii "SET_PASSWORD"
  · rw [if_pos h, if_pos h]
    exact store_setPassword r cmd
  rw [if_neg h, if_neg h]
  by_cases h : cmd.cmd = ascii "DENY_HOST"
  · rw [if_pos h, if_pos h]
    exact store_deny r cmd fun _ _ => rfl
  rw [if_neg h, if_neg h]
  by_cases h : cmd.cmd = ascii "DENY_IP"
  · rw [if_pos h, if_pos h]
    exact store_deny r cmd fun _ _ => rfl
  rw [if_neg h, if_neg h]
  by_cases h : cmd.cmd = ascii "UNDENY"
  · rw [if_pos h, if_pos h]
    exact store_undeny r cmd
  rw [if_neg h, if_neg h]
  by_cases h : cmd.cmd = ascii "DENY_LIST"
  · rw [if_pos h]
    rfl
  rw [if_neg h]
  by_cases h : cmd.cmd = ascii "QUIT"
  · rw [if_pos h]
    rfl
  · rw [if_neg h]
    rfl

end Reply

/-- **The store after a line is the store after its operations.** -/
theorem dispatchLine_store (c : Console) (line : Bytes) :
    (dispatchLine c line).store = applyOps c.store (c.storeOps line) := by
  rw [dispatchLine_eq, Console.obey_store, Reply.line, Console.storeOps]
  by_cases hblank : (splitLine line).cmd = []
  · rw [if_pos hblank]
    cases c.session.state with
    | awaitAuth => rfl
    | authenticated =>
      show c.store = applyOps c.store _
      rw [MonitorCmd.storeOps, hblank]
      rfl
  rw [if_neg hblank]
  show (c.idle.command _).store = _
  rw [Reply.command]
  cases hs : c.session.state with
  | awaitAuth =>
    rw [show c.idle.state = .awaitAuth from hs]
    dsimp only
    split
    · exact Reply.store_auth _ _
    · rfl
  | authenticated =>
    rw [show c.idle.state = .authenticated from hs]
    dsimp only
    split
    · next hauth =>
      show c.store = applyOps c.store _
      rw [MonitorCmd.storeOps, hauth]
      rfl
    · exact Reply.store_route _ _

end SocksProxy
