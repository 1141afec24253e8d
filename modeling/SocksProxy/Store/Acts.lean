import SocksProxy.Lib.Runs
import SocksProxy.Store.Acl
import SocksProxy.Store.Calls

/-!
# Runs of the store

Two parties change the store: the proxy, through the calls of the session interface, and the
administrators, through the commands of the monitoring port and the options of the command line.  A
run of `storeStep` is what both do to it, in any order and with any arguments.

An administrator either configures the store, which is a call of the session interface too, or
leaves everything the calls are about alone: `StoreOp.cases`.
-/

set_option autoImplicit false

namespace SocksProxy

variable [Inet]

/-- What the monitor commands and the command line do to the store. -/
inductive StoreOp where
  | addUser (username password : Bytes) (isAdmin : Bool)
  | deleteUser (username : Bytes)
  | setPassword (username password : Bytes)
  | config (key : StoreConfigKey) (value : ℕ) (realloc : Bool)
  | denyHost (hostname : Bytes)
  | undenyHost (hostname : Bytes)
  | denyIp (ip : Bytes)
  | undenyIp (ip : Bytes)

/-- The store after an operation. -/
def StoreOp.apply (st : MonitorStore) : StoreOp → MonitorStore
  | .addUser u p a => (storeUserAdd st u p a).1
  | .deleteUser u => (storeUserDelete st u).1
  | .setPassword u p => (storeUserSetPassword st u p).1
  | .config k v r => (storeConfigSet st k v r).1
  | .denyHost h => (storeDenyHost st h).1
  | .undenyHost h => (storeUndenyHost st h).1
  | .denyIp ip => (storeDenyIp st ip).1
  | .undenyIp ip => (storeUndenyIp st ip).1

/-- What can happen to the store. -/
inductive StoreAct where
  | call (c : StoreCall)
  | admin (op : StoreOp)

/-- The store after an act. -/
def StoreAct.apply (st : MonitorStore) : StoreAct → MonitorStore
  | .call c => c.apply st
  | .admin op => op.apply st

/-- A run of the store is a list of acts. -/
def storeStep (st : MonitorStore) (x : StoreAct) : Except Empty MonitorStore := .ok (x.apply st)

/-! ## Administrators -/

omit [Inet] in
/-- The parts of the store that only calls change are the same. -/
structure SameBooks (st st' : MonitorStore) : Prop where
  sessions : st'.sessions = st.sessions
  metrics : st'.metrics = st.metrics
  log : st'.log = st.log
  logCount : st'.logCount = st.logCount
  logHead : st'.logHead = st.logHead
  nextLogId : st'.nextLogId = st.nextLogId
  nextSessionId : st'.nextSessionId = st.nextSessionId
  sessionsCap : st'.sessionsCap = st.sessionsCap

omit [Inet] in
theorem SameBooks.rfl {st : MonitorStore} : SameBooks st st :=
  ⟨Eq.refl _, Eq.refl _, Eq.refl _, Eq.refl _, Eq.refl _, Eq.refl _, Eq.refl _, Eq.refl _⟩

/-- An administrator either configures the store or leaves the books alone. -/
theorem StoreOp.cases (op : StoreOp) (st : MonitorStore) :
    (∃ key value realloc, op.apply st = (StoreCall.configSet key value realloc).apply st) ∨
      SameBooks st (op.apply st) := by
  cases op with
  | config key value realloc => exact .inl ⟨key, value, realloc, Eq.refl _⟩
  | addUser u p admin =>
    right
    rw [StoreOp.apply, storeUserAdd]
    split
    · exact .rfl
    · split
      · constructor <;> rfl
      · exact .rfl
  | deleteUser u =>
    right
    rw [StoreOp.apply, storeUserDelete]
    split
    · exact .rfl
    · split
      · exact .rfl
      · constructor <;> rfl
  | setPassword u p =>
    right
    rw [StoreOp.apply, storeUserSetPassword]
    split
    · exact .rfl
    · constructor <;> rfl
  | denyHost host =>
    right
    rw [StoreOp.apply, storeDenyHost]
    split
    · exact .rfl
    · split
      · exact .rfl
      · constructor <;> rfl
  | undenyHost host =>
    right
    rw [StoreOp.apply, storeUndenyHost]
    split
    · exact .rfl
    · constructor <;> rfl
  | denyIp ip =>
    right
    rw [StoreOp.apply, storeDenyIp]
    split
    · exact .rfl
    · dsimp only
      split
      · constructor <;> rfl
      · split
        · constructor <;> rfl
        · exact .rfl
  | undenyIp ip =>
    right
    rw [StoreOp.apply, storeUndenyIp]
    split
    · exact .rfl
    · constructor <;> rfl

end SocksProxy
