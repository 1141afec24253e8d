import SocksProxy.Lib.Cells
import SocksProxy.Store.Acts

/-!
# The slots of the store

A slot is an active node.  `MonitorStore.actives` counts the slots by the ids they were handed out
under.  A call that describes a session leaves the count alone, a call that releases one takes its
slot out, and only `store_session_begin` adds one.
-/

set_option autoImplicit false

namespace SocksProxy

/-- Whether the call describes a session that goes on. -/
def StoreCall.describes : StoreCall → Bool
  | .setUser .. => true
  | .setPhase .. => true
  | .setDest .. => true
  | .addBytes .. => true
  | _ => false

/-- Whether the call releases the slot of a session. -/
def StoreCall.releases : StoreCall → Bool
  | .markFailed .. => true
  | .finish .. => true
  | .markTtlExpired .. => true
  | _ => false

/-- Whether `store_session_begin` was called. -/
def StoreAct.begins : StoreAct → Bool
  | .call .begin => true
  | _ => false

/-- Whether the act releases the slot that was handed out under an id. -/
def StoreAct.releases (id : UInt32) : StoreAct → Bool
  | .call c => c.releases && c.session == some id
  | .admin _ => false

/-- How many nodes are active under ids that pass a test. -/
def MonitorStore.actives (st : MonitorStore) (p : UInt32 → Bool) : ℕ :=
  st.sessions.countP fun n => n.active && p n.info.id

variable {st st' : MonitorStore} {id : UInt32} {i : ℕ} {n : StoreSessionNode} {c : StoreCall}

theorem exists_session_of_describes (hc : c.describes = true) : ∃ id, c.session = some id := by
  cases c with
  | setUser id u => exact ⟨id, rfl⟩
  | setPhase id phase => exact ⟨id, rfl⟩
  | setDest now id host port => exact ⟨id, rfl⟩
  | addBytes id up down => exact ⟨id, rfl⟩
  | begin => cases hc
  | configSet => cases hc
  | markFailed => cases hc
  | finish => cases hc
  | markTtlExpired => cases hc

theorem releases_of_describes (hc : c.describes = true) : (StoreAct.call c).releases id = false := by
  cases c <;> first | rfl | cases hc

theorem releases_of_ne {id' : UInt32} (hs : c.session = some id') (hne : id' ≠ id) :
    (StoreAct.call c).releases id = false := by
  rw [StoreAct.releases, hs]
  simp [hne]

theorem actives_congr (h : st'.sessions = st.sessions) (p : UInt32 → Bool) :
    st'.actives p = st.actives p := by
  rw [MonitorStore.actives, h, MonitorStore.actives]

/-- A test splits the slots in two. -/
theorem actives_split (st : MonitorStore) (p : UInt32 → Bool) :
    st.actives (fun _ => true) = st.actives p + st.actives (!p ·) := by
  simp only [MonitorStore.actives, Bool.and_true]
  rw [List.countP_eq_countP_filter_add st.sessions (·.active) (fun n => p n.info.id),
    List.countP_filter, List.countP_filter]

/-! ## Looking a slot up -/

/-- A slot that is counted is found. -/
theorem exists_at_of_actives (hid : id ≠ storeSessionInvalid) (h : 0 < st.actives (· == id)) :
    ∃ i n, st.At id i n := by
  rcases storeFindSession_cases st id with hno | hat
  · rw [storeFindSession, if_neg hid, List.findIdx?_eq_none_iff] at hno
    obtain ⟨n, hn, hp⟩ := List.countP_pos_iff.1 h
    rw [hno n hn] at hp
    cases hp
  · exact hat

/-! ## What the calls do to the slots -/

/-- A slot is rewritten. -/
theorem actives_modify (hn : st.sessions[i]? = some n) (ha : n.active = true)
    {f : StoreSessionNode → StoreSessionNode} (hf : (f n).active = true)
    (hid : (f n).info.id = n.info.id) (p : UInt32 → Bool) :
    (st.modifySession i f).actives p = st.actives p := by
  have := countP_set_add (p := fun n => n.active && p n.info.id) hn (f n)
  simp only [ha, hf, hid] at this
  rw [MonitorStore.actives, sessions_modifySession, modify_eq_set_of_getElem? hn]
  exact Nat.add_right_cancel this

theorem actives_release (hn : st.sessions[i]? = some n) (ha : n.active = true)
    (p : UInt32 → Bool) :
    (st.release i).actives p + (if p n.info.id then 1 else 0) = st.actives p := by
  have := countP_set_add (p := fun n => n.active && p n.info.id) hn n.released
  simp only [ha, StoreSessionNode.released, Bool.true_and, Bool.false_and] at this
  show (st.sessions.modify i StoreSessionNode.released).countP _ + _ = _
  rw [modify_eq_set_of_getElem? hn]
  exact this

/-- **A call that describes a session leaves the slots alone.** -/
theorem actives_describes (st : MonitorStore) (hc : c.describes = true) (p : UInt32 → Bool) :
    (c.apply st).actives p = st.actives p := by
  have hfound : ∀ id, c.session = some id →
      (∀ i n, st.At id i n → (c.apply st).actives p = st.actives p) →
      (c.apply st).actives p = st.actives p := by
    intro id hs hat
    rcases storeFindSession_cases st id with hno | ⟨i, n, hn⟩
    · rw [apply_of_not_found hs hno]
    · exact hat i n hn
  cases c with
  | begin => cases hc
  | configSet => cases hc
  | markFailed => cases hc
  | finish => cases hc
  | markTtlExpired => cases hc
  | setUser id u =>
    refine hfound id rfl fun i n hat => ?_
    rw [StoreCall.apply, hat.setUser_eq]
    exact actives_modify hat.node hat.active hat.active rfl p
  | setPhase id phase =>
    refine hfound id rfl fun i n hat => ?_
    rw [StoreCall.apply, hat.setPhase_eq]
    exact actives_modify hat.node hat.active hat.active rfl p
  | setDest now id host port =>
    refine hfound id rfl fun i n hat => ?_
    have hhead : (st.modifySession i (·.headed host port)).actives p = st.actives p :=
      actives_modify hat.node hat.active hat.active rfl p
    rw [StoreCall.apply, hat.setDest_eq]
    dsimp only
    split
    · exact hhead
    · refine (actives_modify (n := n.headed host port) ?_ hat.active hat.active rfl p).trans ?_
      · rw [sessions_storeLogAppend]
        exact hat.node_modify _
      · exact (actives_congr (sessions_storeLogAppend ..) p).trans hhead
  | addBytes id up down =>
    refine hfound id rfl fun i n hat => ?_
    have hcarry : (st.modifySession i (·.carried up down)).actives p = st.actives p :=
      actives_modify hat.node hat.active hat.active rfl p
    rw [StoreCall.apply, hat.addBytes_eq]
    dsimp only
    split
    · exact hcarry
    · exact (actives_congr (sessions_storeLogUpdate ..) p).trans hcarry

/-- **A call that releases a slot takes it out.** -/
theorem actives_releases (hat : st.At id i n) (hc : c.releases = true) (hs : c.session = some id)
    (p : UInt32 → Bool) :
    (c.apply st).actives p + (if p id then 1 else 0) = st.actives p := by
  have hrelease : ∀ st' : MonitorStore, st'.sessions = st.sessions →
      (st'.release i).actives p + (if p id then 1 else 0) = st.actives p := by
    intro st' h
    rw [← hat.id_eq, actives_release (by rw [h]; exact hat.node) hat.active, actives_congr h]
  cases c with
  | begin => cases hc
  | configSet => cases hc
  | setUser => cases hc
  | setPhase => cases hc
  | setDest => cases hc
  | addBytes => cases hc
  | markFailed now _ =>
    cases hs
    rw [StoreCall.apply, hat.markFailed_eq]
    split
    · exact hrelease _ (sessions_storeLogAppend ..)
    · exact hrelease st rfl
  | finish =>
    cases hs
    rw [StoreCall.apply, hat.finish_eq]
    split
    · exact hrelease _ (sessions_storeLogUpdate ..)
    · exact hrelease st rfl
  | markTtlExpired now _ =>
    cases hs
    rw [StoreCall.apply, hat.markTtlExpired_eq]
    split
    · exact hrelease _ (sessions_storeLogUpdate ..)
    · split
      · exact hrelease _ (sessions_storeLogAppend ..)
      · exact hrelease st rfl

/-- A call about a session adds no slot. -/
theorem actives_call_le (st : MonitorStore) (hs : c.session = some id) (p : UInt32 → Bool) :
    (c.apply st).actives p ≤ st.actives p := by
  rcases storeFindSession_cases st id with hno | ⟨i, n, hat⟩
  · rw [apply_of_not_found hs hno]
  · by_cases hc : c.releases = true
    · rw [← actives_releases hat hc hs p]
      exact Nat.le_add_right ..
    · refine Nat.le_of_eq (actives_describes st ?_ p)
      cases c <;> simp_all [StoreCall.releases, StoreCall.describes, StoreCall.session]

/-- A free node becomes a slot. -/
theorem actives_begun (hn : st.sessions[i]? = some n) (ha : n.active = false) (p : UInt32 → Bool) :
    (st.begun i).actives p = st.actives p + if p st.nextSessionId then 1 else 0 := by
  have := countP_set_add (p := fun n => n.active && p n.info.id) hn (.opened st.nextSessionId)
  simp only [ha, Bool.false_and, Bool.false_eq_true, if_false, Nat.add_zero] at this
  exact this

/-- **`store_session_begin` adds a slot**, or leaves the store alone. -/
theorem actives_begin (st : MonitorStore) :
    StoreCall.begin.apply st = st ∧ (storeSessionBegin st).2 = storeSessionInvalid ∨
      (storeSessionBegin st).2 = st.nextSessionId ∧
        (StoreCall.begin.apply st).nextSessionId = st.nextSessionId + 1 ∧
        ∀ p : UInt32 → Bool, (StoreCall.begin.apply st).actives p =
          st.actives p + if p (storeSessionBegin st).2 then 1 else 0 := by
  rw [StoreCall.apply]
  rcases storeSessionBegin_cases st with ⟨hr, -⟩ | ⟨i, n, -, -, hn, ha, hr⟩
  · exact .inl ⟨by rw [hr], by rw [hr]⟩
  · refine .inr ⟨by rw [hr], by rw [hr]; rfl, fun p => ?_⟩
    rw [hr]
    exact actives_begun hn ha p

/-- An administrator leaves the slots alone, and the counter of the ids. -/
theorem actives_admin [Inet] (st : MonitorStore) (op : StoreOp) :
    (∀ p, (op.apply st).actives p = st.actives p) ∧
      (op.apply st).nextSessionId = st.nextSessionId := by
  rcases op.cases st with ⟨key, value, realloc, heq⟩ | hsame
  · obtain ⟨timeout, cap, size, k, hcfg, -⟩ := storeConfigSet_cases st key value realloc
    rw [heq, StoreCall.apply, hcfg]
    refine ⟨fun p => ?_, rfl⟩
    have hzero : (List.replicate k StoreSessionNode.zero).countP
        (fun n => n.active && p n.info.id) = 0 := by
      rw [List.countP_replicate]
      rfl
    show (st.sessions ++ _).countP _ = _
    rw [List.countP_append, hzero]
    rfl
  · exact ⟨actives_congr hsame.sessions, hsame.nextSessionId⟩

/-- A call about a session leaves the counter of the ids alone. -/
theorem nextSessionId_call (st : MonitorStore) (hs : c.session = some id) :
    (c.apply st).nextSessionId = st.nextSessionId := by
  rcases storeFindSession_cases st id with hno | ⟨i, n, hat⟩
  · rw [apply_of_not_found hs hno]
  cases c with
  | begin => cases hs
  | configSet => cases hs
  | setUser => cases hs; rw [StoreCall.apply, hat.setUser_eq]; rfl
  | setPhase => cases hs; rw [StoreCall.apply, hat.setPhase_eq]; rfl
  | setDest now _ host port =>
    cases hs
    rw [StoreCall.apply, hat.setDest_eq]
    dsimp only
    split
    · rfl
    · exact nextSessionId_storeLogAppend ..
  | addBytes _ up down =>
    cases hs
    rw [StoreCall.apply, hat.addBytes_eq]
    dsimp only
    split
    · rfl
    · exact nextSessionId_storeLogUpdate ..
  | markFailed now _ =>
    cases hs
    rw [StoreCall.apply, hat.markFailed_eq]
    split
    · exact nextSessionId_storeLogAppend ..
    · rfl
  | finish =>
    cases hs
    rw [StoreCall.apply, hat.finish_eq]
    split
    · exact nextSessionId_storeLogUpdate ..
    · rfl
  | markTtlExpired now _ =>
    cases hs
    rw [StoreCall.apply, hat.markTtlExpired_eq]
    split
    · exact nextSessionId_storeLogUpdate ..
    · split
      · exact nextSessionId_storeLogAppend ..
      · rfl

end SocksProxy
