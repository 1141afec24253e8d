import SocksProxy.Store.Basic

/-!
# Active sessions and the access log

The part of `store.c` that `socks.c` reports to.  A node pointer of the source is an index into
`sessions`; `time(NULL)` is the argument `now` of the operations that stamp a log entry.
-/

set_option autoImplicit false

namespace SocksProxy

/-- `STORE_SESSION_INVALID`. -/
def storeSessionInvalid : UInt32 := 0

/-- `STORE_LOG_INVALID`. -/
def storeLogInvalid : UInt32 := 0

/-- `store_find_session`. -/
def storeFindSession (st : MonitorStore) (id : UInt32) : Option ℕ :=
  if id = storeSessionInvalid then none
  else st.sessions.findIdx? fun n => n.active && n.info.id == id

/-- `store_log_append`. -/
def storeLogAppend (st : MonitorStore) (now : ℕ) (username host : Bytes) (port : UInt16)
    (state : StoreLogState) : MonitorStore × UInt32 :=
  let entry : StoreLogEntry :=
    ⟨st.nextLogId, strncpyTerm username storeMaxUsername, strncpyTerm host storeMaxDestHost, port,
      now, state, 0, 0⟩
  if st.logCount < storeLogCapacity then
    ({ st with
        log := st.log.set st.logCount entry
        logCount := st.logCount + 1
        nextLogId := st.nextLogId + 1 }, entry.id)
  else
    ({ st with
        log := st.log.set st.logHead entry
        logHead := (st.logHead + 1) % storeLogCapacity
        nextLogId := st.nextLogId + 1 }, entry.id)

/-- `store_log_update`. -/
def storeLogUpdate (st : MonitorStore) (logId : UInt32) (state : StoreLogState)
    (bytesUp bytesDown : UInt64) : MonitorStore :=
  if logId = storeLogInvalid ∨ st.logCount = 0 then st
  else match (st.log.take st.logCount).findIdx? (·.id == logId) with
    | none => st
    | some i =>
      { st with log := st.log.modify i fun e =>
          { e with state := state, bytesUp := bytesUp, bytesDown := bytesDown } }

/-- The node of a session, rewritten. -/
def MonitorStore.modifySession (st : MonitorStore) (i : ℕ)
    (f : StoreSessionNode → StoreSessionNode) : MonitorStore :=
  { st with sessions := st.sessions.modify i f }

/-- `store_session_remove`. -/
def storeSessionRemove (st : MonitorStore) (i : ℕ) : MonitorStore :=
  match st.sessions[i]? with
  | none => st
  | some node =>
    if node.active then
      { st.modifySession i fun n => { n with active := false } with
        metrics := { st.metrics with
          concurrentConnections := st.metrics.concurrentConnections - 1 } }
    else st

/-- `store_session_begin`. -/
def storeSessionBegin (st : MonitorStore) : MonitorStore × UInt32 :=
  if st.metrics.concurrentConnections ≥ st.sessionsCap then (st, storeSessionInvalid)
  else match st.sessions.findIdx? (!·.active) with
    | none => (st, storeSessionInvalid)
    | some i =>
      ({ st with
          sessions := st.sessions.set i ⟨true, ⟨st.nextSessionId, [], [], 0, .auth, 0, 0⟩,
            storeLogInvalid⟩
          nextSessionId := st.nextSessionId + 1
          metrics := { st.metrics with
            totalConnections := st.metrics.totalConnections + 1
            concurrentConnections := st.metrics.concurrentConnections + 1 } }, st.nextSessionId)

/-- `store_session_set_user`. -/
def storeSessionSetUser (st : MonitorStore) (id : UInt32) (username : Bytes) : MonitorStore :=
  match storeFindSession st id with
  | none => st
  | some i => st.modifySession i fun n =>
      { n with info := { n.info with username := strncpyTerm username storeMaxUsername } }

/-- `store_session_set_phase`. -/
def storeSessionSetPhase (st : MonitorStore) (id : UInt32) (phase : StoreSessionPhase) :
    MonitorStore :=
  match storeFindSession st id with
  | none => st
  | some i => st.modifySession i fun n => { n with info := { n.info with phase := phase } }

/-- `store_session_set_dest`; its return value, the log id, is ignored by the caller. -/
def storeSessionSetDest (st : MonitorStore) (now : ℕ) (id : UInt32) (host : Bytes)
    (port : UInt16) : MonitorStore :=
  match storeFindSession st id with
  | none => st
  | some i =>
    let st := st.modifySession i fun n =>
      { n with info := { n.info with
          host := strncpyTerm host storeMaxDestHost, port := port, phase := .relay } }
    match st.sessions[i]? with
    | none => st
    | some node =>
      if node.info.username = [] then st
      else
        let (st, logId) := storeLogAppend st now node.info.username host port .connected
        st.modifySession i fun n => { n with logId := logId }

/-- `store_session_add_bytes`. -/
def storeSessionAddBytes (st : MonitorStore) (id : UInt32) (up down : UInt64) : MonitorStore :=
  match storeFindSession st id with
  | none => st
  | some i =>
    let st := st.modifySession i fun n =>
      { n with info := { n.info with
          bytesUp := n.info.bytesUp + up, bytesDown := n.info.bytesDown + down } }
    let st := { st with metrics := { st.metrics with
      bytesUp := st.metrics.bytesUp + up, bytesDown := st.metrics.bytesDown + down } }
    match st.sessions[i]? with
    | none => st
    | some node =>
      if node.logId = storeLogInvalid then st
      else storeLogUpdate st node.logId .connected node.info.bytesUp node.info.bytesDown

/-- `store_session_mark_failed`. -/
def storeSessionMarkFailed (st : MonitorStore) (now : ℕ) (id : UInt32) : MonitorStore :=
  match storeFindSession st id with
  | none => st
  | some i =>
    match st.sessions[i]? with
    | none => st
    | some node =>
      let st :=
        if node.info.username ≠ [] ∧ node.info.host ≠ [] then
          (storeLogAppend st now node.info.username node.info.host node.info.port .failed).1
        else st
      storeSessionRemove st i

/-- `store_session_end`. -/
def storeSessionEnd (st : MonitorStore) (id : UInt32) : MonitorStore :=
  match storeFindSession st id with
  | none => st
  | some i =>
    match st.sessions[i]? with
    | none => st
    | some node =>
      let st :=
        if node.logId ≠ storeLogInvalid then
          storeLogUpdate st node.logId .closed node.info.bytesUp node.info.bytesDown
        else st
      storeSessionRemove st i

/-- `store_session_mark_ttl_expired`. -/
def storeSessionMarkTtlExpired (st : MonitorStore) (now : ℕ) (id : UInt32) : MonitorStore :=
  match storeFindSession st id with
  | none => st
  | some i =>
    match st.sessions[i]? with
    | none => st
    | some node =>
      let st :=
        if node.logId ≠ storeLogInvalid then
          storeLogUpdate st node.logId .ttlExpired node.info.bytesUp node.info.bytesDown
        else if node.info.username ≠ [] ∧ node.info.host ≠ [] then
          (storeLogAppend st now node.info.username node.info.host node.info.port .ttlExpired).1
        else st
      storeSessionRemove st i

/-! ## The settings are left alone -/

section Settings

variable (st : MonitorStore) (now : ℕ) (id : UInt32) (i : ℕ)

@[simp] theorem settings_modifySession (f : StoreSessionNode → StoreSessionNode) :
    (st.modifySession i f).settings = st.settings := rfl

@[simp] theorem settings_storeLogAppend (u h : Bytes) (p : UInt16) (s : StoreLogState) :
    (storeLogAppend st now u h p s).1.settings = st.settings := by
  rw [storeLogAppend]
  split <;> rfl

@[simp] theorem settings_storeLogUpdate (s : StoreLogState) (up down : UInt64) :
    (storeLogUpdate st id s up down).settings = st.settings := by
  rw [storeLogUpdate]
  split
  · rfl
  · split <;> rfl

@[simp] theorem settings_storeSessionRemove :
    (storeSessionRemove st i).settings = st.settings := by
  rw [storeSessionRemove]
  split
  · rfl
  · split <;> rfl

@[simp] theorem settings_storeSessionBegin :
    (storeSessionBegin st).1.settings = st.settings := by
  rw [storeSessionBegin]
  split
  · rfl
  · split <;> rfl

@[simp] theorem settings_storeSessionSetUser (u : Bytes) :
    (storeSessionSetUser st id u).settings = st.settings := by
  rw [storeSessionSetUser]
  split <;> rfl

@[simp] theorem settings_storeSessionSetPhase (p : StoreSessionPhase) :
    (storeSessionSetPhase st id p).settings = st.settings := by
  rw [storeSessionSetPhase]
  split <;> rfl

@[simp] theorem settings_storeSessionSetDest (h : Bytes) (p : UInt16) :
    (storeSessionSetDest st now id h p).settings = st.settings := by
  rw [storeSessionSetDest]
  split
  · rfl
  · dsimp only
    split
    · rfl
    · split
      · rfl
      · rw [settings_modifySession, settings_storeLogAppend, settings_modifySession]

@[simp] theorem settings_storeSessionAddBytes (up down : UInt64) :
    (storeSessionAddBytes st id up down).settings = st.settings := by
  rw [storeSessionAddBytes]
  split
  · rfl
  · dsimp only
    split
    · rfl
    · split
      · rfl
      · rw [settings_storeLogUpdate]
        rfl

@[simp] theorem settings_storeSessionMarkFailed :
    (storeSessionMarkFailed st now id).settings = st.settings := by
  rw [storeSessionMarkFailed]
  split
  · rfl
  · split
    · rfl
    · rw [settings_storeSessionRemove]
      split
      · rw [settings_storeLogAppend]
      · rfl

@[simp] theorem settings_storeSessionEnd :
    (storeSessionEnd st id).settings = st.settings := by
  rw [storeSessionEnd]
  split
  · rfl
  · split
    · rfl
    · rw [settings_storeSessionRemove]
      split
      · rw [settings_storeLogUpdate]
      · rfl

@[simp] theorem settings_storeSessionMarkTtlExpired :
    (storeSessionMarkTtlExpired st now id).settings = st.settings := by
  rw [storeSessionMarkTtlExpired]
  split
  · rfl
  · split
    · rfl
    · rw [settings_storeSessionRemove]
      split
      · rw [settings_storeLogUpdate]
      · split
        · rw [settings_storeLogAppend]
        · rfl

end Settings

end SocksProxy
