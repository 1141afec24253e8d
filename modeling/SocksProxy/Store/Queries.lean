import SocksProxy.Store.Sessions
import SocksProxy.Store.Acl

/-!
# What the store tells the monitor

The part of `store.c` that only reads: the check of an administrator's credentials, the three
iterators, the names of states and phases, and the text of a rule.  An iterator calls back with each
item until the callback returns false; `foreach` is that loop.
-/

set_option autoImplicit false

namespace SocksProxy

/-- The bytes of a literal. -/
def ascii (s : String) : Bytes := s.toList.map fun c => UInt8.ofNat c.toNat

/-- `%u` and `%llu`. -/
def decimal (n : ℕ) : Bytes := (Nat.toDigits 10 n).map fun c => UInt8.ofNat c.toNat

/-- `%02d`. -/
def twoDigits (n : ℕ) : Bytes := if n < 10 then ascii "0" ++ decimal n else decimal n

/-- The loop of an iterator: the callback is called with each item until it returns false. -/
def foreach {α σ : Type} (fn : α → σ → σ × Bool) : List α → σ → σ
  | [], s => s
  | a :: as, s => if (fn a s).2 then foreach fn as (fn a s).1 else (fn a s).1

/-- A callback that never stops the loop is called with every item. -/
theorem foreach_true {α σ : Type} (fn : α → σ → σ) (l : List α) (s : σ) :
    foreach (fun a s => (fn a s, true)) l s = l.foldl (fun s a => fn a s) s := by
  induction l generalizing s with
  | nil => rfl
  | cons a l ih => exact ih _

/-- The items an iterator shows such a callback. -/
theorem foreach_collect {α : Type} (l seen : List α) :
    foreach (fun a seen => (seen ++ [a], true)) l seen = seen ++ l := by
  rw [foreach_true (fun a seen => seen ++ [a]), List.foldl_append_eq_append (f := fun a => [a]),
    ← List.flatMap_def, List.flatMap_singleton']

/-! ## Time -/

/-- Year, month and day of a day counted from 1970-01-01, as `gmtime_r` gives them. -/
def civil (days : ℕ) : ℕ × ℕ × ℕ :=
  let z := days + 719468
  let era := z / 146097
  let doe := z % 146097
  let yoe := (doe - doe / 1460 + doe / 36524 - doe / 146096) / 365
  let doy := doe - (365 * yoe + yoe / 4 - yoe / 100)
  let mp := (5 * doy + 2) / 153
  let month := if mp < 10 then mp + 3 else mp - 9
  (yoe + era * 400 + (if month ≤ 2 then 1 else 0), month, doy - (153 * mp + 2) / 5 + 1)

/-- The text `store_now_iso8601` stores for a clock value; the field holds twenty characters. -/
def iso8601 (now : ℕ) : Bytes :=
  let (year, month, day) := civil (now / 86400)
  let secs := now % 86400
  (decimal year ++ ascii "-" ++ twoDigits month ++ ascii "-" ++ twoDigits day ++ ascii "T" ++
    twoDigits (secs / 3600) ++ ascii ":" ++ twoDigits (secs / 60 % 60) ++ ascii ":" ++
    twoDigits (secs % 60) ++ ascii "Z").take 20

example : iso8601 1782742921 = ascii "2026-06-29T14:22:01Z" := by decide +kernel

/-! ## Administrators -/

/-- `store_auth_result`. -/
inductive StoreAuthResult where
  | ok
  | invalid
  | notAdmin
  deriving DecidableEq

/-- `store_admin_authenticate`. -/
def storeAdminAuthenticate (st : MonitorStore) (username password : Bytes) : StoreAuthResult :=
  match st.users.find? fun u => u.used && u.username == username with
  | none => .invalid
  | some user =>
    if user.password ≠ password then .invalid
    else if user.role = .admin then .ok else .notAdmin

/-- `store_user_exists`. -/
def storeUserExists (st : MonitorStore) (username : Bytes) : Bool :=
  st.users.any fun u => u.used && u.username == username

/-! ## Iterators -/

/-- The users `store_users_foreach` visits. -/
def storeUsers (st : MonitorStore) : List (Bytes × StoreRole) :=
  (st.users.filter (·.used)).map fun u => (u.username, u.role)

/-- `store_users_foreach`. -/
def storeUsersForeach {σ : Type} (st : MonitorStore) (fn : Bytes × StoreRole → σ → σ × Bool)
    (ctx : σ) : σ :=
  foreach fn (storeUsers st) ctx

/-- The sessions `store_sessions_foreach` visits. -/
def storeActiveSessions (st : MonitorStore) : List StoreActiveSession :=
  (st.sessions.filter (·.active)).map (·.info)

/-- `store_sessions_foreach`. -/
def storeSessionsForeach {σ : Type} (st : MonitorStore)
    (fn : StoreActiveSession → σ → σ × Bool) (ctx : σ) : σ :=
  foreach fn (storeActiveSessions st) ctx

/-- The index `store_log_foreach` visits at an offset from the newest entry. -/
def storeLogIndex (st : MonitorStore) (offset : ℕ) : ℕ :=
  if st.logCount < storeLogCapacity then st.logCount - 1 - offset
  else (st.logHead + storeLogCapacity - 1 - offset) % storeLogCapacity

/-- The entries `store_log_foreach` visits, newest first. -/
def storeLogEntries (st : MonitorStore) (filter : Option Bytes) : List StoreLogEntry :=
  ((List.range st.logCount).filterMap fun offset => st.log[storeLogIndex st offset]?).filter
    fun e => filter.all (e.username == ·)

/-- `store_log_foreach`. -/
def storeLogForeach {σ : Type} (st : MonitorStore) (filter : Option Bytes)
    (fn : StoreLogEntry → σ → σ × Bool) (ctx : σ) : σ :=
  foreach fn (storeLogEntries st filter) ctx

/-! ## Names -/

/-- `store_log_state_str`. -/
def storeLogStateStr : StoreLogState → Bytes
  | .connected => ascii "CONNECTED"
  | .closed => ascii "CLOSED"
  | .failed => ascii "FAILED"
  | .ttlExpired => ascii "TTL_EXPIRED"

/-- `store_session_phase_str`. -/
def storeSessionPhaseStr : StoreSessionPhase → Bytes
  | .auth => ascii "AUTH"
  | .connecting => ascii "CONNECTING"
  | .relay => ascii "RELAY"
  | .done => ascii "DONE"

/-- `store_config_key_from_name`. -/
def storeConfigKeyFromName (param : Bytes) : Option StoreConfigKey :=
  if param = ascii "timeout" then some .timeout
  else if param = ascii "max_connections" then some .sessionsCap
  else if param = ascii "io_buffer_size" then some .ioBufferSize
  else none

/-- `acl_rule_to_string`. -/
def aclRuleToString [Inet] : AclRule → Bytes
  | .host name => name
  | .ipv4 a => Inet.ntop4 a
  | .ipv6 b => Inet.ntop6 b

end SocksProxy
