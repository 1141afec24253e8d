import SocksProxy.Store.Sessions

/-!
# The calls of the session interface

`StoreCall` lists the calls of `store.h` that open, describe and close sessions, and
`store_config_set`, which changes how many there may be.  A run of the store is a list of calls, in
any order and with any arguments.

`MonitorStore.At st id i n` says that `store_find_session` finds the active node `n` of session `id`
at index `i`.  Each call has one equation for a session that is found and does nothing for one that
is not, so the proofs about runs never look inside the search.
-/

set_option autoImplicit false

namespace SocksProxy

/-- A call of the session interface. -/
inductive StoreCall where
  /-- `store_session_begin`. -/
  | begin
  /-- `store_session_set_user`. -/
  | setUser (id : UInt32) (username : Bytes)
  /-- `store_session_set_phase`. -/
  | setPhase (id : UInt32) (phase : StoreSessionPhase)
  /-- `store_session_set_dest`. -/
  | setDest (now : ℕ) (id : UInt32) (host : Bytes) (port : UInt16)
  /-- `store_session_add_bytes`. -/
  | addBytes (id : UInt32) (up down : UInt64)
  /-- `store_session_mark_failed`. -/
  | markFailed (now : ℕ) (id : UInt32)
  /-- `store_session_end`. -/
  | finish (id : UInt32)
  /-- `store_session_mark_ttl_expired`. -/
  | markTtlExpired (now : ℕ) (id : UInt32)
  /-- `store_config_set`, with the outcome of the reallocation it may need. -/
  | configSet (key : StoreConfigKey) (value : ℕ) (realloc : Bool)

/-- The store after a call. -/
def StoreCall.apply (st : MonitorStore) : StoreCall → MonitorStore
  | .begin => (storeSessionBegin st).1
  | .setUser id u => storeSessionSetUser st id u
  | .setPhase id p => storeSessionSetPhase st id p
  | .setDest now id h p => storeSessionSetDest st now id h p
  | .addBytes id up down => storeSessionAddBytes st id up down
  | .markFailed now id => storeSessionMarkFailed st now id
  | .finish id => storeSessionEnd st id
  | .markTtlExpired now id => storeSessionMarkTtlExpired st now id
  | .configSet k v r => (storeConfigSet st k v r).1

/-- Whether the call is `store_config_set`. -/
def StoreCall.configures : StoreCall → Bool
  | .configSet .. => true
  | _ => false

/-- The other calls leave the settings alone. -/
theorem settings_apply (st : MonitorStore) {c : StoreCall} (hc : c.configures = false) :
    (c.apply st).settings = st.settings := by
  cases c with
  | configSet => cases hc
  | begin => exact settings_storeSessionBegin st
  | setUser id u => exact settings_storeSessionSetUser st id u
  | setPhase id p => exact settings_storeSessionSetPhase st id p
  | setDest now id h p => exact settings_storeSessionSetDest st now id h p
  | addBytes id up down => exact settings_storeSessionAddBytes st id up down
  | markFailed now id => exact settings_storeSessionMarkFailed st now id
  | finish id => exact settings_storeSessionEnd st id
  | markTtlExpired now id => exact settings_storeSessionMarkTtlExpired st now id

/-- The store after a list of calls. -/
def storeRun (st : MonitorStore) (calls : List StoreCall) : MonitorStore :=
  calls.foldl StoreCall.apply st

/-! ## Looking a session up -/

/-- `store_find_session` finds node `n` of session `id` at index `i`. -/
structure MonitorStore.At (st : MonitorStore) (id : UInt32) (i : ℕ) (n : StoreSessionNode) :
    Prop where
  find : storeFindSession st id = some i
  node : st.sessions[i]? = some n
  valid : id ≠ storeSessionInvalid
  active : n.active = true
  id_eq : n.info.id = id

variable {st : MonitorStore} {id : UInt32} {i : ℕ} {n : StoreSessionNode}

theorem storeFindSession_eq_some (h : storeFindSession st id = some i) : ∃ n, st.At id i n := by
  have hfind := h
  rw [storeFindSession] at h
  split at h
  · cases h
  · next hne =>
    obtain ⟨hi, hp, -⟩ := List.findIdx?_eq_some_iff_getElem.1 h
    rw [Bool.and_eq_true, beq_iff_eq] at hp
    exact ⟨st.sessions[i], hfind, List.getElem?_eq_getElem hi, hne, hp.1, hp.2⟩

/-- A session is found or it is not. -/
theorem storeFindSession_cases (st : MonitorStore) (id : UInt32) :
    storeFindSession st id = none ∨ ∃ i n, st.At id i n := by
  cases h : storeFindSession st id with
  | none => exact .inl rfl
  | some i =>
    obtain ⟨n, hn⟩ := storeFindSession_eq_some h
    exact .inr ⟨i, n, hn⟩

/-- Where the active nodes have different ids, a session is found at its node. -/
theorem at_of_node (hid : id ≠ storeSessionInvalid) (hn : st.sessions[i]? = some n)
    (ha : n.active = true) (he : n.info.id = id)
    (huniq : ∀ j m, st.sessions[j]? = some m → m.active = true → m.info.id = id → j = i) :
    st.At id i n := by
  refine ⟨?_, hn, hid, ha, he⟩
  obtain ⟨hi, hn⟩ := List.getElem?_eq_some_iff.1 hn
  rw [storeFindSession, if_neg hid, List.findIdx?_eq_some_iff_getElem]
  refine ⟨hi, by simp [hn, ha, he], fun j hj => ?_⟩
  rw [Bool.and_eq_true, beq_iff_eq]
  rintro ⟨hja, hje⟩
  exact absurd (huniq j _ (List.getElem?_eq_getElem (by omega)) hja hje) (by omega)

theorem MonitorStore.At.lt (h : st.At id i n) : i < st.sessions.length :=
  (List.getElem?_eq_some_iff.1 h.node).1

/-! ## The parts of the store -/

section Parts

variable (st) (now : ℕ) (i) (s : StoreLogState) (u h : Bytes) (p : UInt16) (up down : UInt64)
  (f : StoreSessionNode → StoreSessionNode)

@[simp] theorem sessions_storeLogAppend :
    (storeLogAppend st now u h p s).1.sessions = st.sessions := by
  rw [storeLogAppend]
  split <;> rfl

@[simp] theorem metrics_storeLogAppend :
    (storeLogAppend st now u h p s).1.metrics = st.metrics := by
  rw [storeLogAppend]
  split <;> rfl

@[simp] theorem nextSessionId_storeLogAppend :
    (storeLogAppend st now u h p s).1.nextSessionId = st.nextSessionId := by
  rw [storeLogAppend]
  split <;> rfl

@[simp] theorem sessionsCap_storeLogAppend :
    (storeLogAppend st now u h p s).1.sessionsCap = st.sessionsCap := by
  rw [storeLogAppend]
  split <;> rfl

@[simp] theorem sessions_storeLogUpdate :
    (storeLogUpdate st id s up down).sessions = st.sessions := by
  rw [storeLogUpdate]
  split
  · rfl
  · split <;> rfl

@[simp] theorem metrics_storeLogUpdate :
    (storeLogUpdate st id s up down).metrics = st.metrics := by
  rw [storeLogUpdate]
  split
  · rfl
  · split <;> rfl

@[simp] theorem nextSessionId_storeLogUpdate :
    (storeLogUpdate st id s up down).nextSessionId = st.nextSessionId := by
  rw [storeLogUpdate]
  split
  · rfl
  · split <;> rfl

@[simp] theorem sessionsCap_storeLogUpdate :
    (storeLogUpdate st id s up down).sessionsCap = st.sessionsCap := by
  rw [storeLogUpdate]
  split
  · rfl
  · split <;> rfl

@[simp] theorem sessions_modifySession :
    (st.modifySession i f).sessions = st.sessions.modify i f := rfl

end Parts

/-! ## What the calls do to a session that is found -/

/-- The node of a session once its destination is known. -/
def StoreSessionNode.headed (n : StoreSessionNode) (host : Bytes) (port : UInt16) :
    StoreSessionNode :=
  { n with info := { n.info with
      host := strncpyTerm host storeMaxDestHost, port := port, phase := .relay } }

/-- The node of a session once it carried more bytes. -/
def StoreSessionNode.carried (n : StoreSessionNode) (up down : UInt64) : StoreSessionNode :=
  { n with info := { n.info with
      bytesUp := n.info.bytesUp + up, bytesDown := n.info.bytesDown + down } }

/-- The node of a session that is over. -/
def StoreSessionNode.released (n : StoreSessionNode) : StoreSessionNode :=
  { n with active := false }

/-- `store_session_remove` of an active node. -/
def MonitorStore.release (st : MonitorStore) (i : ℕ) : MonitorStore :=
  { st.modifySession i StoreSessionNode.released with
    metrics := { st.metrics with
      concurrentConnections := st.metrics.concurrentConnections - 1 } }

theorem storeSessionRemove_eq (hn : st.sessions[i]? = some n) (ha : n.active = true) :
    storeSessionRemove st i = st.release i := by
  rw [storeSessionRemove, hn]
  dsimp only
  rw [if_pos ha]
  rfl

namespace MonitorStore.At

variable (h : st.At id i n)

include h

theorem setUser_eq (u : Bytes) : storeSessionSetUser st id u =
    st.modifySession i fun n =>
      { n with info := { n.info with username := strncpyTerm u storeMaxUsername } } := by
  rw [storeSessionSetUser, h.find]

theorem setPhase_eq (p : StoreSessionPhase) : storeSessionSetPhase st id p =
    st.modifySession i fun n => { n with info := { n.info with phase := p } } := by
  rw [storeSessionSetPhase, h.find]

theorem node_modify (f : StoreSessionNode → StoreSessionNode) :
    (st.sessions.modify i f)[i]? = some (f n) := by
  rw [List.getElem?_modify_eq, h.node]
  rfl

theorem setDest_eq (now : ℕ) (host : Bytes) (port : UInt16) :
    storeSessionSetDest st now id host port =
      let st' := st.modifySession i (·.headed host port)
      if n.info.username = [] then st'
      else
        let r := storeLogAppend st' now n.info.username host port .connected
        r.1.modifySession i fun n => { n with logId := r.2 } := by
  rw [storeSessionSetDest, h.find]
  dsimp only
  rw [sessions_modifySession, h.node_modify]
  rfl

theorem addBytes_eq (up down : UInt64) :
    storeSessionAddBytes st id up down =
      let st' := { st.modifySession i (·.carried up down) with
        metrics := { st.metrics with
          bytesUp := st.metrics.bytesUp + up, bytesDown := st.metrics.bytesDown + down } }
      if n.logId = storeLogInvalid then st'
      else storeLogUpdate st' n.logId .connected (n.info.bytesUp + up)
        (n.info.bytesDown + down) := by
  rw [storeSessionAddBytes, h.find]
  dsimp only
  rw [sessions_modifySession, h.node_modify]
  rfl

theorem markFailed_eq (now : ℕ) :
    storeSessionMarkFailed st now id =
      if n.info.username ≠ [] ∧ n.info.host ≠ [] then
        (storeLogAppend st now n.info.username n.info.host n.info.port .failed).1.release i
      else st.release i := by
  rw [storeSessionMarkFailed, h.find]
  dsimp only
  rw [h.node]
  dsimp only
  split
  · exact storeSessionRemove_eq (by rw [sessions_storeLogAppend]; exact h.node) h.active
  · exact storeSessionRemove_eq h.node h.active

theorem finish_eq :
    storeSessionEnd st id =
      if n.logId ≠ storeLogInvalid then
        (storeLogUpdate st n.logId .closed n.info.bytesUp n.info.bytesDown).release i
      else st.release i := by
  rw [storeSessionEnd, h.find]
  dsimp only
  rw [h.node]
  dsimp only
  split
  · exact storeSessionRemove_eq (by rw [sessions_storeLogUpdate]; exact h.node) h.active
  · exact storeSessionRemove_eq h.node h.active

theorem markTtlExpired_eq (now : ℕ) :
    storeSessionMarkTtlExpired st now id =
      if n.logId ≠ storeLogInvalid then
        (storeLogUpdate st n.logId .ttlExpired n.info.bytesUp n.info.bytesDown).release i
      else if n.info.username ≠ [] ∧ n.info.host ≠ [] then
        (storeLogAppend st now n.info.username n.info.host n.info.port .ttlExpired).1.release i
      else st.release i := by
  rw [storeSessionMarkTtlExpired, h.find]
  dsimp only
  rw [h.node]
  dsimp only
  split
  · exact storeSessionRemove_eq (by rw [sessions_storeLogUpdate]; exact h.node) h.active
  · split
    · exact storeSessionRemove_eq (by rw [sessions_storeLogAppend]; exact h.node) h.active
    · exact storeSessionRemove_eq h.node h.active

end MonitorStore.At

/-! ## A session that is not found -/

/-- The session a call is about. -/
def StoreCall.session : StoreCall → Option UInt32
  | .setUser id _ => some id
  | .setPhase id _ => some id
  | .setDest _ id _ _ => some id
  | .addBytes id _ _ => some id
  | .markFailed _ id => some id
  | .finish id => some id
  | .markTtlExpired _ id => some id
  | _ => none

/-- A call about a session that is not found does nothing. -/
theorem apply_of_not_found {c : StoreCall} (hc : c.session = some id)
    (h : storeFindSession st id = none) : c.apply st = st := by
  cases c with
  | begin => cases hc
  | configSet => cases hc
  | setUser => cases hc; rw [StoreCall.apply, storeSessionSetUser, h]
  | setPhase => cases hc; rw [StoreCall.apply, storeSessionSetPhase, h]
  | setDest => cases hc; rw [StoreCall.apply, storeSessionSetDest, h]
  | addBytes => cases hc; rw [StoreCall.apply, storeSessionAddBytes, h]
  | markFailed => cases hc; rw [StoreCall.apply, storeSessionMarkFailed, h]
  | finish => cases hc; rw [StoreCall.apply, storeSessionEnd, h]
  | markTtlExpired => cases hc; rw [StoreCall.apply, storeSessionMarkTtlExpired, h]

/-! ## Opening a session -/

/-- The node `store_session_begin` fills in. -/
def StoreSessionNode.opened (id : UInt32) : StoreSessionNode :=
  ⟨true, ⟨id, [], [], 0, .auth, 0, 0⟩, storeLogInvalid⟩

/-- The store once a session is begun at index `i`. -/
def MonitorStore.begun (st : MonitorStore) (i : ℕ) : MonitorStore :=
  { st with
    sessions := st.sessions.set i (.opened st.nextSessionId)
    nextSessionId := st.nextSessionId + 1
    metrics := { st.metrics with
      totalConnections := st.metrics.totalConnections + 1
      concurrentConnections := st.metrics.concurrentConnections + 1 } }

/-- `store_session_begin` is refused or takes the first free node. -/
theorem storeSessionBegin_cases (st : MonitorStore) :
    storeSessionBegin st = (st, storeSessionInvalid) ∧
      (st.sessionsCap ≤ st.metrics.concurrentConnections ∨
        st.sessions.findIdx? (!·.active) = none) ∨
    ∃ i n, st.metrics.concurrentConnections < st.sessionsCap ∧
      st.sessions.findIdx? (!·.active) = some i ∧ st.sessions[i]? = some n ∧ n.active = false ∧
      storeSessionBegin st = (st.begun i, st.nextSessionId) := by
  rw [storeSessionBegin]
  split
  · next h => exact .inl ⟨rfl, .inl h⟩
  · next h =>
    cases hf : st.sessions.findIdx? (!·.active) with
    | none => exact .inl ⟨rfl, .inr rfl⟩
    | some i =>
      obtain ⟨hi, hp, -⟩ := List.findIdx?_eq_some_iff_getElem.1 hf
      exact .inr ⟨i, st.sessions[i], by omega, rfl, List.getElem?_eq_getElem hi,
        by simpa using hp, rfl⟩

/-! ## Changing the number of sessions -/

/-- The store with other limits, and `k` more nodes. -/
def MonitorStore.configured (st : MonitorStore) (timeout cap size k : ℕ) : MonitorStore :=
  { st with
    timeout := timeout, sessionsCap := cap, ioBufferSize := size
    sessions := st.sessions ++ List.replicate k .zero }

theorem configured_self (st : MonitorStore) :
    st.configured st.timeout st.sessionsCap st.ioBufferSize 0 = st := by
  rw [MonitorStore.configured, List.replicate_zero, List.append_nil]

/-- `store_config_set` either leaves sessions and cap alone, or moves the cap to an allowed value
and has a node for every session it allows. -/
theorem storeConfigSet_cases (st : MonitorStore) (key : StoreConfigKey) (value : ℕ)
    (realloc : Bool) : ∃ timeout cap size k,
    (storeConfigSet st key value realloc).1 = st.configured timeout cap size k ∧
    (cap = st.sessionsCap ∧ k = 0 ∨
      storeSessionsCapMin ≤ cap ∧ cap ≤ storeSessionsCapMax ∧
      st.metrics.concurrentConnections ≤ cap ∧
      (cap ≤ st.sessionsCap ∨ cap ≤ st.sessions.length + k)) := by
  have hsame : ∃ timeout cap size k, st = st.configured timeout cap size k ∧
      (cap = st.sessionsCap ∧ k = 0 ∨ storeSessionsCapMin ≤ cap ∧ cap ≤ storeSessionsCapMax ∧
        st.metrics.concurrentConnections ≤ cap ∧
        (cap ≤ st.sessionsCap ∨ cap ≤ st.sessions.length + k)) :=
    ⟨_, _, _, _, (configured_self st).symm, .inl ⟨rfl, rfl⟩⟩
  cases key with
  | timeout =>
    rw [storeConfigSet]
    split
    · exact hsame
    · exact ⟨value, st.sessionsCap, st.ioBufferSize, 0, by simp [MonitorStore.configured],
        .inl ⟨rfl, rfl⟩⟩
  | ioBufferSize =>
    rw [storeConfigSet]
    split
    · exact hsame
    · exact ⟨st.timeout, st.sessionsCap, value, 0, by simp [MonitorStore.configured],
        .inl ⟨rfl, rfl⟩⟩
  | sessionsCap =>
    rw [storeConfigSet]
    split
    · exact hsame
    · split
      · exact hsame
      · split
        · rw [storeGrowSessionsSlots]
          by_cases hle : value ≤ st.sessions.length
          · rw [if_pos hle]
            exact ⟨st.timeout, value, st.ioBufferSize, 0, by simp [MonitorStore.configured],
              .inr ⟨by omega, by omega, by omega, .inr (by omega)⟩⟩
          · rw [if_neg hle]
            cases realloc with
            | true =>
              exact ⟨st.timeout, value, st.ioBufferSize, _, rfl,
                .inr ⟨by omega, by omega, by omega, .inr (by omega)⟩⟩
            | false => exact hsame
        · exact ⟨st.timeout, value, st.ioBufferSize, 0, by simp [MonitorStore.configured],
            .inr ⟨by omega, by omega, by omega, .inl (by omega)⟩⟩

end SocksProxy
