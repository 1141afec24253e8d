import SocksProxy.Shared.Net

/-!
# The shared store: data, users and configuration

`struct monitor_store` is the state the SOCKS side and the monitoring port share.  The server is
always given one, so the `store == NULL` guards of `store.c` have no counterpart here.

Text fields are kept as the C string they hold.  The arrays keep their size: `users` has
`STORE_MAX_USERS` slots, `log` has `STORE_LOG_CAPACITY` entries, and `sessions` has
`sessions_slots` nodes, its length.  Session and log ids are the 32-bit counters of the source;
byte counts are 64-bit.  The lines `store_log_print` sends to standard output are not modelled.

The two deny lists are singly linked lists with a pointer to the last node.  `AclList` keeps the
nodes reachable from the head, each under its address, next to that pointer, because
`add_host_rule` and `add_ip_rule` link behind whatever the pointer says.
-/

set_option autoImplicit false

namespace SocksProxy

def storeMaxUsers : ℕ := 256
def storeMaxUsername : ℕ := 64
def storeMaxPassword : ℕ := 255
def storeLogCapacity : ℕ := 4096
def storeMaxDestHost : ℕ := 255
def storeSessionsCapMin : ℕ := 1
def storeSessionsCapMax : ℕ := 16384
def storeSessionsCapDefault : ℕ := 1024

/-- `store_role`. -/
inductive StoreRole where
  | user
  | admin
  deriving DecidableEq

/-- `store_user_result`. -/
inductive StoreUserResult where
  | ok
  | exists
  | notFound
  | tableFull
  | lastAdmin
  deriving DecidableEq

/-- `store_config_key`. -/
inductive StoreConfigKey where
  | timeout
  | sessionsCap
  | ioBufferSize
  deriving DecidableEq

/-- `store_config_result`. -/
inductive StoreConfigResult where
  | ok
  | unknownKey
  | invalidValue
  deriving DecidableEq

/-- `store_log_state`. -/
inductive StoreLogState where
  | connected
  | closed
  | failed
  | ttlExpired
  deriving DecidableEq

/-- `store_session_phase`. -/
inductive StoreSessionPhase where
  | auth
  | connecting
  | relay
  | done
  deriving DecidableEq

/-- `struct store_user`. -/
structure StoreUser where
  used : Bool
  username : Bytes
  password : Bytes
  role : StoreRole
  deriving DecidableEq

/-- `struct store_metrics`. -/
structure StoreMetrics where
  totalConnections : ℕ
  concurrentConnections : ℕ
  bytesUp : UInt64
  bytesDown : UInt64
  deriving DecidableEq

/-- `struct store_log_entry`; the timestamp is the clock value it prints. -/
structure StoreLogEntry where
  id : UInt32
  username : Bytes
  host : Bytes
  port : UInt16
  timestamp : ℕ
  state : StoreLogState
  bytesUp : UInt64
  bytesDown : UInt64
  deriving DecidableEq

/-- `struct store_active_session`. -/
structure StoreActiveSession where
  id : UInt32
  username : Bytes
  host : Bytes
  port : UInt16
  phase : StoreSessionPhase
  bytesUp : UInt64
  bytesDown : UInt64
  deriving DecidableEq

/-- `struct store_session_node`. -/
structure StoreSessionNode where
  active : Bool
  info : StoreActiveSession
  logId : UInt32
  deriving DecidableEq

/-- `struct acl_rule`, without its link. -/
inductive AclRule where
  | host (name : Bytes)
  | ipv4 (addr : InAddr)
  | ipv6 (addr : In6Addr)
  deriving DecidableEq

/-- A list of rules with its pointer to the last node. -/
structure AclList where
  /-- The nodes reachable from the head, in order, each with its address. -/
  nodes : List (ℕ × AclRule)
  /-- `last_denied_host` or `last_denied_addr`. -/
  last : Option ℕ
  deriving DecidableEq

/-- `struct monitor_store`. -/
structure MonitorStore where
  users : List StoreUser
  userCount : ℕ
  metrics : StoreMetrics
  log : List StoreLogEntry
  logCount : ℕ
  logHead : ℕ
  nextLogId : UInt32
  timeout : ℕ
  sessionsCap : ℕ
  ioBufferSize : ℕ
  deniedHosts : AclList
  deniedAddresses : AclList
  /-- The address the allocator gives to the next rule. -/
  nextRule : ℕ
  sessions : List StoreSessionNode
  nextSessionId : UInt32

/-- What only an administrator changes. -/
structure StoreSettings where
  users : List StoreUser
  timeout : ℕ
  sessionsCap : ℕ
  ioBufferSize : ℕ
  deniedHosts : AclList
  deniedAddresses : AclList

/-- The settings of a store. -/
def MonitorStore.settings (st : MonitorStore) : StoreSettings :=
  ⟨st.users, st.timeout, st.sessionsCap, st.ioBufferSize, st.deniedHosts, st.deniedAddresses⟩

/-- A zeroed user slot. -/
def StoreUser.zero : StoreUser := ⟨false, [], [], .user⟩

/-- A zeroed log entry. -/
def StoreLogEntry.zero : StoreLogEntry := ⟨0, [], [], 0, 0, .connected, 0, 0⟩

/-- A zeroed session node. -/
def StoreSessionNode.zero : StoreSessionNode := ⟨false, ⟨0, [], [], 0, .auth, 0, 0⟩, 0⟩

/-- `store_create`. -/
def storeCreate : MonitorStore where
  users := List.replicate storeMaxUsers .zero
  userCount := 0
  metrics := ⟨0, 0, 0, 0⟩
  log := List.replicate storeLogCapacity .zero
  logCount := 0
  logHead := 0
  nextLogId := 1
  timeout := 0
  sessionsCap := storeSessionsCapDefault
  ioBufferSize := 4096
  deniedHosts := ⟨[], none⟩
  deniedAddresses := ⟨[], none⟩
  nextRule := 0
  sessions := List.replicate storeSessionsCapDefault .zero
  nextSessionId := 1

/-! ## Users -/

/-- `store_user_validate`. -/
def storeUserValidate (st : MonitorStore) (username password : Bytes) : Bool :=
  st.users.any fun u => u.used && u.username == username && u.password == password

/-- The slot of a registered user. -/
def storeFindUser (st : MonitorStore) (username : Bytes) : Option ℕ :=
  st.users.findIdx? fun u => u.used && u.username == username

/-- `store_user_add`. -/
def storeUserAdd (st : MonitorStore) (username password : Bytes) (isAdmin : Bool) :
    MonitorStore × StoreUserResult :=
  if (storeFindUser st username).isSome then (st, .exists)
  else match st.users.findIdx? (!·.used) with
    | some i =>
      ({ st with
          users := st.users.set i ⟨true, strncpyTerm username storeMaxUsername,
            strncpyTerm password storeMaxPassword, if isAdmin then .admin else .user⟩
          userCount := st.userCount + 1 }, .ok)
    | none => (st, .tableFull)

/-- `store_admin_count`. -/
def storeAdminCount (st : MonitorStore) : ℕ :=
  st.users.countP fun u => u.used && u.role == .admin

/-- `store_user_delete`. -/
def storeUserDelete (st : MonitorStore) (username : Bytes) : MonitorStore × StoreUserResult :=
  match storeFindUser st username with
  | none => (st, .notFound)
  | some i =>
    if (st.users[i]?.map (·.role)) = some .admin ∧ storeAdminCount st ≤ 1 then (st, .lastAdmin)
    else ({ st with
        users := st.users.modify i fun u => { u with used := false, username := [], password := [] }
        userCount := st.userCount - 1 }, .ok)

/-- `store_user_set_password`. -/
def storeUserSetPassword (st : MonitorStore) (username newPassword : Bytes) :
    MonitorStore × StoreUserResult :=
  match storeFindUser st username with
  | none => (st, .notFound)
  | some i =>
    ({ st with
        users := st.users.modify i fun u =>
          { u with password := strncpyTerm newPassword storeMaxPassword } }, .ok)

/-! ## Configuration -/

/-- `store_config_get`. -/
def storeConfigGet (st : MonitorStore) : StoreConfigKey → ℕ
  | .timeout => st.timeout
  | .sessionsCap => st.sessionsCap
  | .ioBufferSize => st.ioBufferSize

/-- `store_grow_sessions_slots`; `realloc` says whether the reallocation succeeds. -/
def storeGrowSessionsSlots (st : MonitorStore) (newSlots : ℕ) (realloc : Bool) :
    MonitorStore × StoreConfigResult :=
  if newSlots ≤ st.sessions.length then (st, .ok)
  else if realloc then
    ({ st with sessions :=
        st.sessions ++ List.replicate (newSlots - st.sessions.length) .zero }, .ok)
  else (st, .invalidValue)

/-- `store_config_set`. -/
def storeConfigSet (st : MonitorStore) (key : StoreConfigKey) (value : ℕ) (realloc : Bool) :
    MonitorStore × StoreConfigResult :=
  match key with
  | .timeout =>
    if value > 86400 then (st, .invalidValue) else ({ st with timeout := value }, .ok)
  | .sessionsCap =>
    if value < storeSessionsCapMin ∨ value > storeSessionsCapMax then (st, .invalidValue)
    else if value < st.metrics.concurrentConnections then (st, .invalidValue)
    else if value > st.sessionsCap then
      match storeGrowSessionsSlots st value realloc with
      | (st', .ok) => ({ st' with sessionsCap := value }, .ok)
      | (st', r) => (st', r)
    else ({ st with sessionsCap := value }, .ok)
  | .ioBufferSize =>
    if value < 1024 ∨ value > 65536 then (st, .invalidValue)
    else ({ st with ioBufferSize := value }, .ok)

end SocksProxy
