import SocksProxy.Lib.Cells
import SocksProxy.Store.Calls

/-!
# The store always has a node for a session it admits

`concurrent_connections`, `sessions_cap` and the length of `sessions` are three numbers that
different calls change.  `MonitorStore.SlotsOk` is how they stand to each other: the counter is the
number of active nodes and stays within the cap, and the cap stays within the nodes there are.
Every call keeps it, whatever its arguments, so `store_session_begin` finds a free node whenever the
cap lets it look for one.
-/

set_option autoImplicit false

namespace SocksProxy

/-- How the counter, the cap and the nodes stand to each other. -/
structure MonitorStore.SlotsOk (st : MonitorStore) : Prop where
  counted : st.metrics.concurrentConnections = st.sessions.countP (·.active)
  le_cap : st.metrics.concurrentConnections ≤ st.sessionsCap
  cap_le : st.sessionsCap ≤ st.sessions.length
  one_le : 1 ≤ st.sessionsCap
  le_max : st.sessionsCap ≤ 16384

/-! ## Keeping the numbers in order -/

namespace MonitorStore.SlotsOk

variable {st st' : MonitorStore} {i : ℕ} {n : StoreSessionNode}

/-- Only the counter, the cap and which nodes are active matter. -/
theorem congr (h : st.SlotsOk) (hs : st'.sessions = st.sessions)
    (hc : st'.metrics.concurrentConnections = st.metrics.concurrentConnections)
    (hcap : st'.sessionsCap = st.sessionsCap) : st'.SlotsOk where
  counted := by rw [hc, hs]; exact h.counted
  le_cap := by rw [hc, hcap]; exact h.le_cap
  cap_le := by rw [hcap, hs]; exact h.cap_le
  one_le := by rw [hcap]; exact h.one_le
  le_max := by rw [hcap]; exact h.le_max

/-- A node is rewritten and stays active. -/
theorem modify (h : st.SlotsOk) (hn : st.sessions[i]? = some n) (ha : n.active = true)
    {f : StoreSessionNode → StoreSessionNode} (hf : (f n).active = true) :
    (st.modifySession i f).SlotsOk where
  counted := by
    have := countP_set_add (p := (·.active)) hn (f n)
    rw [if_pos ha, if_pos hf] at this
    rw [sessions_modifySession, modify_eq_set_of_getElem? hn]
    exact h.counted.trans (by omega)
  le_cap := h.le_cap
  cap_le := by rw [sessions_modifySession, List.length_modify]; exact h.cap_le
  one_le := h.one_le
  le_max := h.le_max

/-- An active node is released. -/
theorem release (h : st.SlotsOk) (hn : st.sessions[i]? = some n) (ha : n.active = true) :
    (st.release i).SlotsOk where
  counted := by
    have hcount := countP_set_add (p := (·.active)) hn n.released
    rw [if_pos ha, if_neg (by simp [StoreSessionNode.released])] at hcount
    have := h.counted
    show st.metrics.concurrentConnections - 1 =
      (st.sessions.modify i StoreSessionNode.released).countP (·.active)
    rw [modify_eq_set_of_getElem? hn]
    omega
  le_cap := Nat.le_trans (Nat.sub_le ..) h.le_cap
  cap_le := by
    show st.sessionsCap ≤ (st.sessions.modify i StoreSessionNode.released).length
    rw [List.length_modify]
    exact h.cap_le
  one_le := h.one_le
  le_max := h.le_max

/-- A free node is taken. -/
theorem begun (h : st.SlotsOk) (hn : st.sessions[i]? = some n) (ha : n.active = false)
    (hroom : st.metrics.concurrentConnections < st.sessionsCap) : (st.begun i).SlotsOk where
  counted := by
    have := countP_set_add (p := (·.active)) hn (.opened st.nextSessionId)
    rw [if_neg (by simp [ha]), if_pos (by rfl)] at this
    exact (congrArg (· + 1) h.counted).trans this.symm
  le_cap := hroom
  cap_le := by
    show st.sessionsCap ≤ (st.sessions.set ..).length
    rw [List.length_set]
    exact h.cap_le
  one_le := h.one_le
  le_max := h.le_max

/-- The limits are changed. -/
theorem configSet (h : st.SlotsOk) (key : StoreConfigKey) (value : ℕ) (realloc : Bool) :
    (storeConfigSet st key value realloc).1.SlotsOk := by
  obtain ⟨timeout, cap, size, k, heq, hcap⟩ := storeConfigSet_cases st key value realloc
  have hzero : (List.replicate k StoreSessionNode.zero).countP (·.active) = 0 := by
    rw [List.countP_replicate]
    rfl
  have h1 := h.le_cap
  have h2 := h.cap_le
  have h3 := h.one_le
  have h4 := h.le_max
  simp only [storeSessionsCapMin, storeSessionsCapMax] at hcap
  rw [heq]
  refine ⟨?_, ?_, ?_, ?_, ?_⟩
  · show st.metrics.concurrentConnections = (st.sessions ++ _).countP _
    rw [List.countP_append, hzero]
    exact h.counted
  · show st.metrics.concurrentConnections ≤ cap
    omega
  · show cap ≤ (st.sessions ++ _).length
    rw [List.length_append, List.length_replicate]
    omega
  · show 1 ≤ cap
    omega
  · show cap ≤ 16384
    omega

/-- A free node is there as long as the cap is not reached. -/
theorem exists_free (h : st.SlotsOk)
    (hroom : st.metrics.concurrentConnections < st.sessionsCap) :
    ∃ i, st.sessions.findIdx? (!·.active) = some i := by
  by_contra hnone
  have hall : ∀ n ∈ st.sessions, n.active = true := by
    have := List.findIdx?_eq_none_iff.1 (Option.eq_none_iff_forall_ne_some.2 fun i hi =>
      hnone ⟨i, hi⟩)
    simpa using this
  have hfull : st.sessions.countP (·.active) = st.sessions.length := List.countP_eq_length.2 hall
  have h1 := h.counted
  have h2 := h.cap_le
  omega

/-- Every call keeps the numbers in order. -/
theorem apply (h : st.SlotsOk) (c : StoreCall) : (c.apply st).SlotsOk := by
  -- a call about a session does nothing unless the session is found
  have hfound : ∀ id, c.session = some id →
      (∀ i n, st.At id i n → (c.apply st).SlotsOk) → (c.apply st).SlotsOk := by
    intro id hc hat
    rcases storeFindSession_cases st id with hnone | ⟨i, n, hn⟩
    · rw [apply_of_not_found hc hnone]
      exact h
    · exact hat i n hn
  cases c with
  | begin =>
    rw [StoreCall.apply]
    rcases storeSessionBegin_cases st with ⟨hr, -⟩ | ⟨i, n, hroom, -, hn, ha, hr⟩
    · rw [hr]; exact h
    · rw [hr]; exact h.begun hn ha hroom
  | configSet key value realloc => exact h.configSet key value realloc
  | setUser id u =>
    refine hfound id rfl fun i n hat => ?_
    rw [StoreCall.apply, hat.setUser_eq]
    exact h.modify hat.node hat.active hat.active
  | setPhase id p =>
    refine hfound id rfl fun i n hat => ?_
    rw [StoreCall.apply, hat.setPhase_eq]
    exact h.modify hat.node hat.active hat.active
  | setDest now id host port =>
    refine hfound id rfl fun i n hat => ?_
    have h' := h.modify (f := (·.headed host port)) hat.node hat.active hat.active
    rw [StoreCall.apply, hat.setDest_eq]
    dsimp only
    split
    · exact h'
    · refine modify (n := n.headed host port) (congr h' (by simp) (by simp) (by simp)) ?_
        hat.active hat.active
      rw [sessions_storeLogAppend]
      exact hat.node_modify _
  | addBytes id up down =>
    refine hfound id rfl fun i n hat => ?_
    have h' := h.modify (f := (·.carried up down)) hat.node hat.active hat.active
    rw [StoreCall.apply, hat.addBytes_eq]
    dsimp only
    split
    · exact h'.congr rfl rfl rfl
    · exact h'.congr (by simp) (by simp; rfl) (by simp)
  | markFailed now id =>
    refine hfound id rfl fun i n hat => ?_
    rw [StoreCall.apply, hat.markFailed_eq]
    split
    · exact (h.congr (by simp) (by simp) (by simp)).release
        (by rw [sessions_storeLogAppend]; exact hat.node) hat.active
    · exact h.release hat.node hat.active
  | finish id =>
    refine hfound id rfl fun i n hat => ?_
    rw [StoreCall.apply, hat.finish_eq]
    split
    · exact (h.congr (by simp) (by simp) (by simp)).release
        (by rw [sessions_storeLogUpdate]; exact hat.node) hat.active
    · exact h.release hat.node hat.active
  | markTtlExpired now id =>
    refine hfound id rfl fun i n hat => ?_
    rw [StoreCall.apply, hat.markTtlExpired_eq]
    split
    · exact (h.congr (by simp) (by simp) (by simp)).release
        (by rw [sessions_storeLogUpdate]; exact hat.node) hat.active
    · split
      · exact (h.congr (by simp) (by simp) (by simp)).release
          (by rw [sessions_storeLogAppend]; exact hat.node) hat.active
      · exact h.release hat.node hat.active

end MonitorStore.SlotsOk

/-! ## Runs -/

theorem slotsOk_storeCreate : storeCreate.SlotsOk where
  counted := by
    show 0 = (List.replicate storeSessionsCapDefault StoreSessionNode.zero).countP (·.active)
    rw [List.countP_replicate]
    rfl
  le_cap := Nat.zero_le _
  cap_le := Nat.le_of_eq List.length_replicate.symm
  one_le := by decide
  le_max := by decide

theorem slotsOk_storeRun {st : MonitorStore} (h : st.SlotsOk) (calls : List StoreCall) :
    (storeRun st calls).SlotsOk := by
  induction calls generalizing st with
  | nil => exact h
  | cons c calls ih => exact ih (h.apply c)

/-- The active session at a node. -/
def activeAt (st : MonitorStore) (i : ℕ) : Option StoreSessionNode :=
  (st.sessions[i]?).filter (·.active)

theorem activeAt_configSet (st : MonitorStore) (key : StoreConfigKey) (value : ℕ)
    (realloc : Bool) (i : ℕ) : activeAt (storeConfigSet st key value realloc).1 i = activeAt st i := by
  obtain ⟨timeout, cap, size, k, heq, -⟩ := storeConfigSet_cases st key value realloc
  rw [heq]
  show ((st.sessions ++ List.replicate k StoreSessionNode.zero)[i]?).filter _ = _
  rcases Nat.lt_or_ge i st.sessions.length with hlt | hge
  · rw [List.getElem?_append_left hlt]
    rfl
  · rw [List.getElem?_append_right hge, activeAt, List.getElem?_eq_none hge,
      List.getElem?_replicate]
    split <;> rfl

/-- **The numbers of the store are in order after every run**: the counter is the number of active
nodes, within the cap, within the nodes; a session that the cap admits gets a node; and moving the
cap changes no active session. -/
theorem slots_in_order (calls : List StoreCall) :
    (storeRun storeCreate calls).SlotsOk ∧
    ((storeRun storeCreate calls).metrics.concurrentConnections <
        (storeRun storeCreate calls).sessionsCap →
      ∃ i, (storeRun storeCreate calls).sessions.findIdx? (!·.active) = some i ∧
        storeSessionBegin (storeRun storeCreate calls) =
          ((storeRun storeCreate calls).begun i, (storeRun storeCreate calls).nextSessionId)) ∧
    ∀ key value realloc i,
      activeAt (storeConfigSet (storeRun storeCreate calls) key value realloc).1 i =
        activeAt (storeRun storeCreate calls) i := by
  have hok := slotsOk_storeRun slotsOk_storeCreate calls
  refine ⟨hok, fun hroom => ?_, activeAt_configSet _⟩
  obtain ⟨i, hi⟩ := hok.exists_free hroom
  refine ⟨i, hi, ?_⟩
  rcases storeSessionBegin_cases (storeRun storeCreate calls) with
    ⟨-, hfull | hnone⟩ | ⟨j, n, -, hj, -, -, hr⟩
  · omega
  · rw [hi] at hnone; cases hnone
  · rw [hi] at hj; cases hj; exact hr

end SocksProxy
