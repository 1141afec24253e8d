import Mathlib.Algebra.Group.Int.Defs
import Mathlib.Algebra.Group.Nat.Defs
import SocksProxy.Store.Queries

/-!
# The commands of the monitoring port

`monitor_commands.c`: bytes are gathered into lines, a line is split at blanks, and its first word
selects a handler.  Handlers write to `wb`, a buffer of `MONITOR_BUFFER_SIZE` bytes, and every one
of them ignores whether the write found room.

A `Console` is the session of one client with what it can reach: the store, and the answers
`realloc` is going to give.  `Console.hist` records the lines handed to `dispatch_line`, each with
the store as it was at that moment, and the lines refused for their length.  No function reads it.
-/

set_option autoImplicit false

namespace SocksProxy

def monitorBufferSize : ℕ := 4096
def monitorLineMax : ℕ := 512

/-- `MONITOR_COMMANDS_GREETING`. -/
def monitorCommandsGreeting : Bytes := ascii "+OK ChungusMonitor v1.0\n"

/-- `monitor_commands_state`. -/
inductive MonitorCommandsState where
  | awaitAuth
  | authenticated
  deriving DecidableEq

/-- `struct monitor_commands_session`; `line` is `line_buf` up to `line_len`.  Everything that takes
bytes out of `wb` compacts it, so its read pointer is at the start. -/
@[ext] structure MonitorCommandsSession where
  state : MonitorCommandsState
  wb : Buffer
  line : Bytes
  closeAfterFlush : Bool
  limit_wb : wb.limit = monitorBufferSize
  read_wb : wb.read = 0
  line_le : line.length ≤ monitorLineMax

/-- What is recorded about a console. -/
inductive MonitorObs where
  /-- `dispatch_line` was called with this line while the store was `st`. -/
  | line (bs : Bytes) (st : MonitorStore)
  /-- A line was refused for its length. -/
  | tooLong

/-- A session with the store it points to. -/
structure Console where
  session : MonitorCommandsSession
  store : MonitorStore
  /-- Whether the next reallocations succeed. -/
  realloc : List Bool
  hist : List MonitorObs

/-- `monitor_cmd`: the words of a line, the command first. -/
structure MonitorCmd where
  args : List Bytes

/-- `cmd->cmd`. -/
def MonitorCmd.cmd (c : MonitorCmd) : Bytes := c.args.headD []

/-- `cmd->argc`. -/
def MonitorCmd.argc (c : MonitorCmd) : ℕ := c.args.length

/-- `cmd->args[i]`, for `i < cmd->argc`. -/
def MonitorCmd.arg (c : MonitorCmd) (i : ℕ) : Bytes := c.args.getD i []

/-! ## Responses -/

namespace MonitorCommandsSession

/-- `monitor_commands_session_init`. -/
def init : MonitorCommandsSession where
  state := .awaitAuth
  wb := Buffer.init monitorBufferSize
  line := []
  closeAfterFlush := false
  limit_wb := Buffer.limit_init _
  read_wb := rfl
  line_le := Nat.zero_le _

/-- `session->line_len = 0`. -/
def resetLine (s : MonitorCommandsSession) : MonitorCommandsSession :=
  { s with line := [], line_le := Nat.zero_le _ }

/-- Bytes taken out of `wb` by `buffer_read_adv` and `buffer_compact`. -/
def consume (s : MonitorCommandsSession) (n : ℕ) : MonitorCommandsSession :=
  { s with
    wb := (s.wb.readAdv n).compact
    limit_wb := by rw [Buffer.limit_compact, Buffer.limit_readAdv, s.limit_wb]
    read_wb := Buffer.read_compact _ }

/-- No more is pending than the buffer holds. -/
theorem length_pending_le (s : MonitorCommandsSession) :
    s.wb.pending.length ≤ monitorBufferSize := by
  have h := s.wb.length_pending_add_space
  rw [s.limit_wb, s.read_wb] at h
  omega

/-- An empty `wb` has all its room. -/
theorem space_of_empty (s : MonitorCommandsSession) (h : s.wb.pending = []) :
    s.wb.space = monitorBufferSize := by
  rw [Buffer.space_of_read_eq_zero _ s.read_wb, s.limit_wb, h]
  rfl

end MonitorCommandsSession

/-- `commands_wb_append`. -/
def commandsWbAppend (s : MonitorCommandsSession) (text : Bytes) : MonitorCommandsSession × Bool :=
  if s.wb.space < text.length then (s, false)
  else ({ s with
    wb := s.wb.append text
    limit_wb := by rw [Buffer.limit_append, s.limit_wb]
    read_wb := by rw [Buffer.read_append, s.read_wb] }, true)

/-- `commands_wb_appendf`, given the formatted text. -/
def commandsWbAppendf (s : MonitorCommandsSession) (text : Bytes) : MonitorCommandsSession × Bool :=
  if text.length ≥ monitorBufferSize then (s, false) else commandsWbAppend s text

/-- `monitor_commands_queue_greeting`. -/
def monitorCommandsQueueGreeting (s : MonitorCommandsSession) : MonitorCommandsSession :=
  (commandsWbAppend (commandsWbAppend s monitorCommandsGreeting).1 (ascii ".\n")).1

/-- `monitor_commands_wb_read`. -/
def monitorCommandsWbRead (s : MonitorCommandsSession) (max : ℕ) : MonitorCommandsSession × Bytes :=
  let out := s.wb.pending.take max
  if out.length > 0 then (s.consume out.length, out) else (s, out)

/-- `monitor_commands_should_close`. -/
def monitorCommandsShouldClose (s : MonitorCommandsSession) : Bool :=
  s.closeAfterFlush && !s.wb.canRead

/-- A session that has authenticated, over a store. -/
def Console.loggedIn (st : MonitorStore) : Console where
  session := { MonitorCommandsSession.init with state := .authenticated }
  store := st
  realloc := []
  hist := []

namespace Console

/-- `commands_wb_append` as the handlers call it, its result ignored. -/
def append (c : Console) (text : Bytes) : Console :=
  { c with session := (commandsWbAppend c.session text).1 }

/-- `commands_wb_appendf` as the handlers call it. -/
def appendf (c : Console) (text : Bytes) : Console :=
  { c with session := (commandsWbAppendf c.session text).1 }

end Console

/-! ## Words -/

/-- `strtok_r(·, " ", ·)` until it returns NULL. -/
def tokens (line : Bytes) : List Bytes :=
  (line.splitOn 32).filter (· ≠ [])

/-- `split_line`; the line is a C string. -/
def splitLine (line : Bytes) : MonitorCmd :=
  ⟨(tokens (cstr line)).take 8⟩

/-- `isspace` of the C locale. -/
def isSpace (b : UInt8) : Bool := b == 32 || (9 ≤ b && b ≤ 13)

/-- `isdigit`. -/
def isDigit (b : UInt8) : Bool := 48 ≤ b && b ≤ 57

/-- `strtol(s, &end, 10)`: the value, cut to the range of `long`, and the text at `end`. -/
def strtol (s : Bytes) : ℤ × Bytes :=
  let t := s.dropWhile isSpace
  let negative := t.head? == some 45
  let u := if negative || t.head? == some 43 then t.tail else t
  let digits := u.takeWhile isDigit
  if digits = [] then (0, s)
  else
    let magnitude : ℤ := digits.foldl (fun n d => n * 10 + (d.toNat - 48 : ℕ)) 0
    (if negative then max (-magnitude) (-2 ^ 63) else min magnitude (2 ^ 63 - 1),
      u.dropWhile isDigit)

example : strtol (ascii "-12x") = (-12, ascii "x") := by decide +kernel

/-! ## Handlers -/

/-- `handle_auth`. -/
def handleAuth (c : Console) (cmd : MonitorCmd) : Console :=
  if c.session.state = .authenticated then c.append (ascii "-ERR already authenticated\n")
  else if cmd.argc < 3 then c.append (ascii "-ERR syntax error\n")
  else match storeAdminAuthenticate c.store (cmd.arg 1) (cmd.arg 2) with
    | .ok =>
      { c with session := { c.session with state := .authenticated } }.append (ascii "+OK\n")
    | .notAdmin => c.append (ascii "-ERR not admin\n")
    | .invalid => c.append (ascii "-ERR invalid credentials\n")

/-- `handle_stats`. -/
def handleStats (c : Console) : Console :=
  let metrics := c.store.metrics
  c.appendf (ascii "+OK total_connections=" ++ decimal metrics.totalConnections ++
    ascii " concurrent_connections=" ++ decimal metrics.concurrentConnections ++
    ascii " bytes_up=" ++ decimal metrics.bytesUp.toNat ++
    ascii " bytes_down=" ++ decimal metrics.bytesDown.toNat ++ ascii "\n")

/-- The text of `append_connection`. -/
def connectionText (s : StoreActiveSession) : Bytes :=
  ascii "+OK " ++ (if s.username ≠ [] then s.username else ascii "-") ++ ascii " " ++
    (if s.host ≠ [] then s.host else ascii "-") ++ ascii ":" ++ decimal s.port.toNat ++
    ascii " " ++ storeSessionPhaseStr s.phase ++ ascii " " ++ decimal s.bytesUp.toNat ++
    ascii " " ++ decimal s.bytesDown.toNat ++ ascii "\n"

/-- `append_connection`. -/
def appendConnection (s : StoreActiveSession) (c : Console) : Console × Bool :=
  (c.appendf (connectionText s), true)

/-- `handle_connections`. -/
def handleConnections (c : Console) : Console :=
  let any := storeSessionsForeach c.store (fun _ _ => (true, true)) false
  if !any then c.append (ascii "+OK\n")
  else storeSessionsForeach c.store appendConnection c

/-- The text of `append_user`. -/
def userText (u : Bytes × StoreRole) : Bytes :=
  ascii "+OK " ++ u.1 ++ ascii " (" ++
    (if u.2 = .admin then ascii "admin" else ascii "user") ++ ascii ")\n"

/-- `append_user`. -/
def appendUser (u : Bytes × StoreRole) (c : Console) : Console × Bool :=
  (c.appendf (userText u), true)

/-- `handle_users`. -/
def handleUsers (c : Console) : Console :=
  let any := storeUsersForeach c.store (fun _ _ => (true, true)) false
  if !any then c.append (ascii "+OK\n")
  else storeUsersForeach c.store appendUser c

/-- `handle_config`. -/
def handleConfig (c : Console) (cmd : MonitorCmd) : Console :=
  if cmd.argc < 2 then c.append (ascii "-ERR syntax error\n")
  else match storeConfigKeyFromName (cmd.arg 1) with
    | none => c.append (ascii "-ERR unknown param\n")
    | some key =>
      if cmd.argc = 2 then c.appendf (ascii "+OK " ++ decimal (storeConfigGet c.store key) ++
        ascii "\n")
      else
        let (value, rest) := strtol (cmd.arg 2)
        if rest = cmd.arg 2 ∨ rest ≠ [] ∨ value < 0 then c.append (ascii "-ERR invalid value\n")
        else if cmd.arg 1 = ascii "timeout" ∧ value > 86400 then
          c.append (ascii "-ERR invalid value\n")
        else if cmd.arg 1 = ascii "max_connections" ∧
            (value < storeSessionsCapMin ∨ value > storeSessionsCapMax) then
          c.append (ascii "-ERR invalid value\n")
        else if cmd.arg 1 = ascii "io_buffer_size" ∧ (value < 1024 ∨ value > 65536) then
          c.append (ascii "-ERR invalid value\n")
        else
          let set := storeConfigSet c.store key (value.toNat % 2 ^ 32) (c.realloc.headD true)
          let c := { c with store := set.1, realloc := c.realloc.tail }
          match set.2 with
          | .ok => c.append (ascii "+OK\n")
          | .unknownKey => c.append (ascii "-ERR unknown param\n")
          | .invalidValue => c.append (ascii "-ERR invalid value\n")

/-- The text of `append_log_entry`. -/
def logEntryText (e : StoreLogEntry) : Bytes :=
  ascii "+OK " ++ e.username ++ ascii ": " ++ e.host ++ ascii ":" ++ decimal e.port.toNat ++
    ascii " " ++ iso8601 e.timestamp ++ ascii " " ++ storeLogStateStr e.state ++
    ascii " up=" ++ decimal e.bytesUp.toNat ++ ascii " down=" ++ decimal e.bytesDown.toNat ++
    ascii "\n"

/-- `append_log_entry`. -/
def appendLogEntry (e : StoreLogEntry) (c : Console) : Console × Bool :=
  (c.appendf (logEntryText e), true)

/-- `handle_access_log`. -/
def handleAccessLog (c : Console) (cmd : MonitorCmd) : Console :=
  let filter := if cmd.argc ≥ 2 then some (cmd.arg 1) else none
  match filter with
  | none =>
    storeLogForeach c.store none appendLogEntry
      (c.append (ascii "+OK Access log for all users:\n"))
  | some user =>
    if storeUserExists c.store user then
      storeLogForeach c.store (some user) appendLogEntry
        (c.appendf (ascii "+OK Access log for user " ++ user ++ ascii ":\n"))
    else c.append (ascii "-ERR user not found\n")

/-- `handle_add_user`. -/
def handleAddUser (c : Console) (cmd : MonitorCmd) : Console :=
  let isAdmin := decide (cmd.argc ≥ 4 ∧ cmd.arg 3 = ascii "admin")
  if cmd.argc < 3 then c.append (ascii "-ERR syntax error\n")
  else
    let add := storeUserAdd c.store (cmd.arg 1) (cmd.arg 2) isAdmin
    let c := { c with store := add.1 }
    match add.2 with
    | .ok => c.append (ascii "+OK\n")
    | .exists => c.append (ascii "-ERR user exists\n")
    | .tableFull => c.append (ascii "-ERR user table full\n")
    | _ => c.append (ascii "-ERR syntax error\n")

/-- `handle_del_user`. -/
def handleDelUser (c : Console) (cmd : MonitorCmd) : Console :=
  if cmd.argc < 2 then c.append (ascii "-ERR syntax error\n")
  else
    let del := storeUserDelete c.store (cmd.arg 1)
    let c := { c with store := del.1 }
    match del.2 with
    | .ok => c.append (ascii "+OK\n")
    | .notFound => c.append (ascii "-ERR user not found\n")
    | .lastAdmin => c.append (ascii "-ERR cannot delete last admin\n")
    | _ => c.append (ascii "-ERR syntax error\n")

/-- `handle_set_password`. -/
def handleSetPassword (c : Console) (cmd : MonitorCmd) : Console :=
  if cmd.argc < 3 then c.append (ascii "-ERR syntax error\n")
  else
    let set := storeUserSetPassword c.store (cmd.arg 1) (cmd.arg 2)
    let c := { c with store := set.1 }
    if set.2 = .ok then c.append (ascii "+OK\n") else c.append (ascii "-ERR user not found\n")

/-- `handle_quit`. -/
def handleQuit (c : Console) : Console :=
  let c := c.append (ascii "+OK\n")
  { c with session := { c.session with closeAfterFlush := true } }

variable [Inet]

omit [Inet] in
/-- The body of `handle_deny_host` and `handle_deny_ip`. -/
def handleDeny (c : Console) (cmd : MonitorCmd) (isDenied : MonitorStore → Bytes → Bool)
    (deny : MonitorStore → Bytes → MonitorStore × Bool) (already : Bytes) : Console :=
  if cmd.argc < 2 then c.append (ascii "-ERR syntax error\n")
  else if isDenied c.store (cmd.arg 1) then c.append already
  else
    let res := deny c.store (cmd.arg 1)
    let c := { c with store := res.1 }
    if res.2 then c.append (ascii "+OK\n") else c.append (ascii "-ERR failed to add rule\n")

/-- `handle_deny_host`. -/
def handleDenyHost (c : Console) (cmd : MonitorCmd) : Console :=
  handleDeny c cmd isHostDenied storeDenyHost (ascii "-ERR host already denied\n")

/-- `handle_deny_ip`. -/
def handleDenyIp (c : Console) (cmd : MonitorCmd) : Console :=
  handleDeny c cmd isIpDenied storeDenyIp (ascii "-ERR address already denied\n")

/-- `handle_undeny`: the address list is only tried when the host list has no such rule. -/
def handleUndeny (c : Console) (cmd : MonitorCmd) : Console :=
  if cmd.argc < 2 then c.append (ascii "-ERR syntax error\n")
  else
    let host := storeUndenyHost c.store (cmd.arg 1)
    if host.2 then { c with store := host.1 }.append (ascii "+OK\n")
    else
      let ip := storeUndenyIp host.1 (cmd.arg 1)
      let c := { c with store := ip.1 }
      if ip.2 then c.append (ascii "+OK\n") else c.append (ascii "-ERR rule not present\n")

/-- The text of a rule in `handle_deny_list`. -/
def ruleText (r : AclRule) : Bytes := ascii "+OK " ++ aclRuleToString r ++ ascii "\n"

/-- The loop of `handle_deny_list`. -/
def appendRules (c : Console) (rules : List AclRule) : Console :=
  rules.foldl (fun c r => c.appendf (ruleText r)) c

/-- `handle_deny_list`. -/
def handleDenyList (c : Console) (cmd : MonitorCmd) : Console :=
  let showHosts := decide (cmd.argc < 2 ∨ cmd.arg 1 = ascii "host")
  let showIps := decide (cmd.argc < 2 ∨ cmd.arg 1 = ascii "ip")
  let c := if showHosts then
      appendRules (c.append (ascii "+OK Denied hosts:\n")) c.store.deniedHosts.rules
    else c
  if showIps then
    appendRules (c.append (ascii "+OK Denied IPs:\n")) c.store.deniedAddresses.rules
  else c

/-! ## Dispatch -/

/-- The commands of an authenticated session, `AUTH` apart. -/
def routeCommand (c : Console) (cmd : MonitorCmd) : Console :=
  if cmd.cmd = ascii "STATS" then handleStats c
  else if cmd.cmd = ascii "CONNECTIONS" then handleConnections c
  else if cmd.cmd = ascii "USERS" then handleUsers c
  else if cmd.cmd = ascii "CONFIG" then handleConfig c cmd
  else if cmd.cmd = ascii "ACCESS_LOG" then handleAccessLog c cmd
  else if cmd.cmd = ascii "ADD_USER" then handleAddUser c cmd
  else if cmd.cmd = ascii "DEL_USER" then handleDelUser c cmd
  else if cmd.cmd = ascii "SET_PASSWORD" then handleSetPassword c cmd
  else if cmd.cmd = ascii "DENY_HOST" then handleDenyHost c cmd
  else if cmd.cmd = ascii "DENY_IP" then handleDenyIp c cmd
  else if cmd.cmd = ascii "UNDENY" then handleUndeny c cmd
  else if cmd.cmd = ascii "DENY_LIST" then handleDenyList c cmd
  else if cmd.cmd = ascii "QUIT" then handleQuit c
  else c.append (ascii "-ERR unknown command\n")

/-- `dispatch_line`. -/
def dispatchLine (c : Console) (line : Bytes) : Console :=
  let cmd := splitLine line
  if cmd.cmd = [] then c
  else if c.session.state = .awaitAuth then
    (if cmd.cmd = ascii "AUTH" then handleAuth c cmd
      else c.append (ascii "-ERR not authenticated\n")).append (ascii ".\n")
  else if cmd.cmd = ascii "AUTH" then
    (c.append (ascii "-ERR already authenticated\n")).append (ascii ".\n")
  else (routeCommand c cmd).append (ascii ".\n")

/-! ## Lines -/

omit [Inet] in
/-- One trailing `'\r'` removed. -/
def stripCr (line : Bytes) : Bytes :=
  if line.getLast? = some 13 then line.dropLast else line

/-- A call of `dispatch_line`, recorded. -/
def dispatchRecorded (c : Console) (line : Bytes) : Console :=
  dispatchLine { c with hist := c.hist ++ [.line line c.store] } line

/-- `process_byte`. -/
def processByte (c : Console) (ch : UInt8) : Console :=
  if h : c.session.line.length ≥ monitorLineMax then
    let c : Console := { c with session := c.session.resetLine, hist := c.hist ++ [.tooLong] }
    (c.append (ascii "-ERR line too long\n")).append (ascii ".\n")
  else if ch = 10 then
    let line := c.session.line
    let c := if line.length > 0 then dispatchRecorded c (stripCr line) else c
    { c with session := c.session.resetLine }
  else
    { c with session := { c.session with
        line := c.session.line ++ [ch]
        line_le := by rw [List.length_append]; exact Nat.lt_of_not_le h } }

/-- `monitor_commands_feed`. -/
def monitorCommandsFeed (c : Console) (data : Bytes) : Console := data.foldl processByte c

/-- `monitor_commands_flush_on_eof`. -/
def monitorCommandsFlushOnEof (c : Console) : Console :=
  if c.session.line.length > 0 then
    let c := dispatchRecorded c c.session.line
    { c with session := c.session.resetLine }
  else c

end SocksProxy
