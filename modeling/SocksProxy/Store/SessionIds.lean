import SocksProxy.Store.Acts

/-!
# Session ids

A session is known by the id `store_session_begin` returned for it, and a call about it searches the
active nodes for that id.  `UniqueIds` is what makes the search find the right node: the ids of the
active nodes are valid and pairwise different.

Nothing but `store_session_begin` gives an id to a node: after any other act the active nodes are
among those that were active before, each with its id (`Inherits`).  So the ids stay unique as long
as the ones that are given out are.
-/

set_option autoImplicit false

namespace SocksProxy

/-- The ids of the active nodes are valid and pairwise different. -/
structure MonitorStore.UniqueIds (st : MonitorStore) : Prop where
  valid : ∀ (i : ℕ) (n : StoreSessionNode), st.sessions[i]? = some n → n.active = true →
    n.info.id ≠ storeSessionInvalid
  unique : ∀ (i j : ℕ) (n m : StoreSessionNode), st.sessions[i]? = some n →
    st.sessions[j]? = some m → n.active = true → m.active = true → n.info.id = m.info.id → i = j

/-- Every active node was active before, with the same id. -/
def Inherits (st st' : MonitorStore) : Prop :=
  ∀ (i : ℕ) (n' : StoreSessionNode), st'.sessions[i]? = some n' → n'.active = true →
    ∃ n, st.sessions[i]? = some n ∧ n.active = true ∧ n.info.id = n'.info.id

variable {st st' st'' : MonitorStore} {id : UInt32} {i : ℕ} {n : StoreSessionNode}

theorem Inherits.trans (h : Inherits st st') (h' : Inherits st' st'') : Inherits st st'' := by
  intro i n'' hi ha
  obtain ⟨n', hi', ha', hid'⟩ := h' i n'' hi ha
  obtain ⟨n, hi₀, ha₀, hid₀⟩ := h i n' hi' ha'
  exact ⟨n, hi₀, ha₀, hid₀.trans hid'⟩

theorem inherits_of_sessions (h : st'.sessions = st.sessions) : Inherits st st' := by
  intro i n hi ha
  rw [h] at hi
  exact ⟨n, hi, ha, rfl⟩

/-- The log may have been written before. -/
theorem Inherits.congr (h : Inherits st' st'') (hs : st'.sessions = st.sessions) :
    Inherits st st'' := by
  intro i n hi ha
  rw [← hs]
  exact h i n hi ha

theorem inherits_modifySession (st : MonitorStore) (i : ℕ) {f : StoreSessionNode → StoreSessionNode}
    (hf : ∀ n, (f n).active = true → n.active = true ∧ n.info.id = (f n).info.id) :
    Inherits st (st.modifySession i f) := by
  intro j n' hj ha
  rw [sessions_modifySession] at hj
  by_cases hij : i = j
  · subst hij
    rw [List.getElem?_modify_eq, Option.map_eq_map, Option.map_eq_some_iff] at hj
    obtain ⟨n, hn, rfl⟩ := hj
    exact ⟨n, hn, hf n ha⟩
  · rw [List.getElem?_modify_ne _ _ hij] at hj
    exact ⟨n', hj, ha, rfl⟩

theorem inherits_release (st : MonitorStore) (i : ℕ) : Inherits st (st.release i) :=
  inherits_modifySession st i fun _ ha => by cases ha

theorem UniqueIds.inherit (h : st.UniqueIds) (hin : Inherits st st') : st'.UniqueIds where
  valid := by
    intro i n' hi ha
    obtain ⟨n, hn, han, hid⟩ := hin i n' hi ha
    rw [← hid]
    exact h.valid i n hn han
  unique := by
    intro i j n' m' hi hj hn' hm' hid
    obtain ⟨n, hn, han, hidn⟩ := hin i n' hi hn'
    obtain ⟨m, hm, ham, hidm⟩ := hin j m' hj hm'
    exact h.unique i j n m hn hm han ham (hidn.trans (hid.trans hidm.symm))

/-- A call about a session that is found. -/
theorem inherits_call (hat : st.At id i n) {c : StoreCall} (hc : c.session = some id) :
    Inherits st (c.apply st) := by
  cases c with
  | begin => cases hc
  | configSet => cases hc
  | setUser _ u =>
    cases hc
    rw [StoreCall.apply, hat.setUser_eq]
    exact inherits_modifySession st i fun _ ha => ⟨ha, rfl⟩
  | setPhase _ p =>
    cases hc
    rw [StoreCall.apply, hat.setPhase_eq]
    exact inherits_modifySession st i fun _ ha => ⟨ha, rfl⟩
  | setDest now _ host port =>
    cases hc
    rw [StoreCall.apply, hat.setDest_eq]
    have hhead : Inherits st (st.modifySession i (·.headed host port)) :=
      inherits_modifySession st i fun _ ha => ⟨ha, rfl⟩
    dsimp only
    split
    · exact hhead
    · refine hhead.trans (Inherits.congr (inherits_modifySession _ i ?_) ?_)
      · exact fun _ ha => ⟨ha, rfl⟩
      · rw [sessions_storeLogAppend]
  | addBytes _ up down =>
    cases hc
    rw [StoreCall.apply, hat.addBytes_eq]
    have hcarry : Inherits st (st.modifySession i (·.carried up down)) :=
      inherits_modifySession st i fun _ ha => ⟨ha, rfl⟩
    dsimp only
    split
    · exact hcarry
    · refine hcarry.trans (inherits_of_sessions ?_)
      rw [sessions_storeLogUpdate]
  | markFailed now _ =>
    cases hc
    rw [StoreCall.apply, hat.markFailed_eq]
    split
    · exact (inherits_release _ i).congr (sessions_storeLogAppend ..)
    · exact inherits_release st i
  | finish =>
    cases hc
    rw [StoreCall.apply, hat.finish_eq]
    split
    · exact (inherits_release _ i).congr (sessions_storeLogUpdate ..)
    · exact inherits_release st i
  | markTtlExpired now _ =>
    cases hc
    rw [StoreCall.apply, hat.markTtlExpired_eq]
    split
    · exact (inherits_release _ i).congr (sessions_storeLogUpdate ..)
    · split
      · exact (inherits_release _ i).congr (sessions_storeLogAppend ..)
      · exact inherits_release st i

theorem inherits_configSet (st : MonitorStore) (key : StoreConfigKey) (value : ℕ)
    (realloc : Bool) : Inherits st ((StoreCall.configSet key value realloc).apply st) := by
  obtain ⟨timeout, cap, size, k, heq, -⟩ := storeConfigSet_cases st key value realloc
  rw [StoreCall.apply, heq]
  intro i n hi ha
  rw [MonitorStore.configured, List.getElem?_append] at hi
  split at hi
  · exact ⟨n, hi, ha, rfl⟩
  · -- the new nodes are zeroed
    have hzero := (List.mem_replicate.1 (List.mem_of_getElem? hi)).2
    rw [hzero] at ha
    cases ha

/-- **Only `store_session_begin` gives out ids.** -/
theorem inherits_apply [Inet] (st : MonitorStore) {x : StoreAct} (hx : x ≠ .call .begin) :
    Inherits st (x.apply st) := by
  cases x with
  | admin op =>
    rcases op.cases st with ⟨key, value, realloc, heq⟩ | hsame
    · rw [StoreAct.apply, heq]
      exact inherits_configSet st key value realloc
    · exact inherits_of_sessions hsame.sessions
  | call c =>
    rw [StoreAct.apply]
    cases hc : c.session with
    | some id =>
      rcases storeFindSession_cases st id with hno | ⟨i, n, hat⟩
      · rw [apply_of_not_found hc hno]
        exact inherits_of_sessions rfl
      · exact inherits_call hat hc
    | none =>
      cases c with
      | begin => exact absurd rfl hx
      | configSet key value realloc => exact inherits_configSet st key value realloc
      | _ => cases hc

/-! ## A call acts on the node it finds -/

/-- A call about a session leaves every other node alone. -/
theorem getElem?_call_of_ne (hat : st.At id i n) {c : StoreCall} (hc : c.session = some id) {j : ℕ}
    (hj : j ≠ i) : (c.apply st).sessions[j]? = st.sessions[j]? := by
  have hmod : ∀ (l : List StoreSessionNode) (f : StoreSessionNode → StoreSessionNode),
      (l.modify i f)[j]? = l[j]? := fun l f => List.getElem?_modify_ne _ _ hj.symm
  have hrel : ∀ st' : MonitorStore, (st'.release i).sessions[j]? = st'.sessions[j]? :=
    fun st' => hmod st'.sessions _
  cases c with
  | begin => cases hc
  | configSet => cases hc
  | setUser _ u =>
    cases hc
    rw [StoreCall.apply, hat.setUser_eq, sessions_modifySession, hmod]
  | setPhase _ p =>
    cases hc
    rw [StoreCall.apply, hat.setPhase_eq, sessions_modifySession, hmod]
  | setDest now _ host port =>
    cases hc
    rw [StoreCall.apply, hat.setDest_eq]
    dsimp only
    split
    · rw [sessions_modifySession, hmod]
    · rw [sessions_modifySession, hmod, sessions_storeLogAppend, sessions_modifySession, hmod]
  | addBytes _ up down =>
    cases hc
    rw [StoreCall.apply, hat.addBytes_eq]
    dsimp only
    split
    · rw [sessions_modifySession, hmod]
    · rw [sessions_storeLogUpdate, sessions_modifySession, hmod]
  | markFailed now _ =>
    cases hc
    rw [StoreCall.apply, hat.markFailed_eq]
    split
    · rw [hrel, sessions_storeLogAppend]
    · rw [hrel]
  | finish =>
    cases hc
    rw [StoreCall.apply, hat.finish_eq]
    split
    · rw [hrel, sessions_storeLogUpdate]
    · rw [hrel]
  | markTtlExpired now _ =>
    cases hc
    rw [StoreCall.apply, hat.markTtlExpired_eq]
    split
    · rw [hrel, sessions_storeLogUpdate]
    · split
      · rw [hrel, sessions_storeLogAppend]
      · rw [hrel]

end SocksProxy
