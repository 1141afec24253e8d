import SocksProxy.Lib.Cells
import SocksProxy.Shared.InetText
import SocksProxy.Store.SessionIds

/-!
# The ids of the sessions

`store_session_begin` numbers the sessions with a 32-bit counter that it never checks.  When the
counter has gone all the way round it gives out zero, which is its own answer for a refused session,
and then the ids of the first sessions again, whether or not one of them is still open.

`Unspent` is the condition under which one call does not do this.  A run in which every
`store_session_begin` meets it is one in which every session gets an id of its own and every call
acts on the node of its session, and there is no other such run.
-/

set_option autoImplicit false

namespace SocksProxy

/-- `store_session_begin` refuses and changes nothing, or it activates a free node under a valid id
that no active node has. -/
def BeginsFresh (st : MonitorStore) : Prop :=
  storeSessionBegin st = (st, storeSessionInvalid) ∨
    ∃ (i : ℕ) (n : StoreSessionNode), st.sessions[i]? = some n ∧ n.active = false ∧
      (storeSessionBegin st).2 ≠ storeSessionInvalid ∧
      (∀ m ∈ st.sessions, m.active = true → m.info.id ≠ (storeSessionBegin st).2) ∧
      (storeSessionBegin st).1.sessions = st.sessions.set i (.opened (storeSessionBegin st).2)

/-- A call with the id of an active node finds that node and leaves the others alone. -/
def OnOwnNode (st : MonitorStore) : Prop :=
  ∀ (i : ℕ) (n : StoreSessionNode), st.sessions[i]? = some n → n.active = true →
    storeFindSession st n.info.id = some i ∧
      ∀ (c : StoreCall) (j : ℕ), c.session = some n.info.id → j ≠ i →
        (c.apply st).sessions[j]? = st.sessions[j]?

/-- There is no room for a session, or the counter is neither zero nor the id of an active node. -/
def Unspent (st : MonitorStore) : Prop :=
  st.sessionsCap ≤ st.metrics.concurrentConnections ∨ (∀ n ∈ st.sessions, n.active = true) ∨
    (st.nextSessionId ≠ storeSessionInvalid ∧
      ∀ n ∈ st.sessions, n.active = true → n.info.id ≠ st.nextSessionId)

variable {st : MonitorStore}

/-! ## One call -/

/-- **A session gets an id of its own exactly when the counter is unspent.** -/
theorem beginsFresh_iff (st : MonitorStore) : BeginsFresh st ↔ Unspent st := by
  rcases storeSessionBegin_cases st with ⟨hr, hwhy⟩ | ⟨i, n, hroom, -, hn, hidle, hr⟩
  · refine iff_of_true (.inl hr) (hwhy.imp_right fun hnone => .inl fun n hn => ?_)
    have := List.findIdx?_eq_none_iff.1 hnone n hn
    simpa using this
  · constructor
    · rintro (hsame | ⟨j, m, -, -, hvalid, hfresh, -⟩)
      · rw [hr] at hsame
        have hmore := congrArg (fun r => r.1.metrics.totalConnections) hsame
        exact absurd hmore (Nat.succ_ne_self _)
      · rw [hr] at hvalid hfresh
        exact .inr (.inr ⟨hvalid, hfresh⟩)
    · intro h
      right
      rcases h with hfull | hall | ⟨hvalid, hfresh⟩
      · omega
      · rw [hall n (List.mem_of_getElem? hn)] at hidle
        cases hidle
      · rw [hr]
        exact ⟨i, n, hn, hidle, hvalid, hfresh, rfl⟩

theorem MonitorStore.UniqueIds.begin (h : st.UniqueIds) (hun : Unspent st) :
    (StoreCall.begin.apply st).UniqueIds := by
  rw [StoreCall.apply]
  rcases storeSessionBegin_cases st with ⟨hr, -⟩ | ⟨i, n, hroom, -, hn, hidle, hr⟩
  · rw [hr]
    exact h
  · obtain ⟨hvalid, hfresh⟩ : st.nextSessionId ≠ storeSessionInvalid ∧
        ∀ n ∈ st.sessions, n.active = true → n.info.id ≠ st.nextSessionId := by
      rcases hun with hfull | hall | hfree
      · omega
      · rw [hall n (List.mem_of_getElem? hn)] at hidle
        cases hidle
      · exact hfree
    have hlt := (List.getElem?_eq_some_iff.1 hn).1
    -- an active node is the new one or an old one
    have hnode : ∀ (j : ℕ) (m : StoreSessionNode), (st.begun i).sessions[j]? = some m →
        m.active = true → j = i ∧ m.info.id = st.nextSessionId ∨
          j ≠ i ∧ st.sessions[j]? = some m := by
      intro j m hm _
      by_cases hij : i = j
      · subst hij
        rw [MonitorStore.begun, List.getElem?_set_self hlt] at hm
        cases hm
        exact .inl ⟨rfl, rfl⟩
      · rw [MonitorStore.begun, List.getElem?_set_ne hij] at hm
        exact .inr ⟨fun hji => hij hji.symm, hm⟩
    rw [hr]
    refine ⟨fun j m hm ha => ?_, fun j k m l hm hl hma hla hid => ?_⟩
    · rcases hnode j m hm ha with ⟨-, hid⟩ | ⟨-, hold⟩
      · rw [hid]
        exact hvalid
      · exact h.valid j m hold ha
    · rcases hnode j m hm hma with ⟨hj, hidm⟩ | ⟨hj, hm'⟩
      · rcases hnode k l hl hla with ⟨hk, -⟩ | ⟨hk, hl'⟩
        · rw [hj, hk]
        · exact absurd (hid.symm.trans hidm) (hfresh l (List.mem_of_getElem? hl') hla)
      · rcases hnode k l hl hla with ⟨hk, hidl⟩ | ⟨hk, hl'⟩
        · exact absurd (hid.trans hidl) (hfresh m (List.mem_of_getElem? hm') hma)
        · exact h.unique j k m l hm' hl' hma hla hid

theorem MonitorStore.UniqueIds.onOwnNode (h : st.UniqueIds) : OnOwnNode st := by
  intro i n hn ha
  have hat : st.At n.info.id i n := at_of_node (h.valid i n hn ha) hn ha rfl
    fun j m hm hma hid => h.unique j i m n hm hn hma ha hid
  exact ⟨hat.find, fun c j hc hj => getElem?_call_of_ne hat hc hj⟩

theorem storeCreate_uniqueIds : storeCreate.UniqueIds := by
  have hidle : ∀ (i : ℕ) (n : StoreSessionNode), storeCreate.sessions[i]? = some n →
      n.active = false := by
    intro i n hn
    have hmem : n ∈ List.replicate storeSessionsCapDefault StoreSessionNode.zero :=
      List.mem_of_getElem? hn
    rw [(List.mem_replicate.1 hmem).2]
    rfl
  refine ⟨fun i n hn ha => ?_, fun i j n m hn _ ha _ _ => ?_⟩
  · rw [hidle i n hn] at ha
    cases ha
  · rw [hidle i n hn] at ha
    cases ha

/-! ## Runs -/

section Runs

variable [Inet]

/-- **Every session has an id of its own, and every call acts on its node, exactly in the runs that
begin no session on a spent counter.** -/
theorem session_ids_fresh_iff (acts : List StoreAct) :
    (Along storeStep (fun st x => x = .call .begin → BeginsFresh st) storeCreate acts ∧
        Visits storeStep OnOwnNode storeCreate acts) ↔
      Along storeStep (fun st x => x = .call .begin → Unspent st) storeCreate acts := by
  have hstep : ∀ (st : MonitorStore) (x : StoreAct) (st' : MonitorStore), st.UniqueIds →
      (x = .call .begin → Unspent st) → storeStep st x = .ok st' → st'.UniqueIds := by
    rintro st x st' h hun hs
    cases hs
    by_cases hx : x = .call .begin
    · rw [hx]
      exact h.begin (hun hx)
    · exact UniqueIds.inherit h (inherits_apply st hx)
  constructor
  · rintro ⟨hfresh, -⟩
    refine along_of_along (I := fun _ => True) (fun _ _ _ _ _ _ => trivial) ?_ trivial hfresh
    exact fun st x _ h hx => (beginsFresh_iff st).1 (h hx)
  · intro hun
    refine ⟨?_, ?_⟩
    · refine along_of_along (I := fun _ => True) (fun _ _ _ _ _ _ => trivial) ?_ trivial hun
      exact fun st x _ h hx => (beginsFresh_iff st).2 (h hx)
    · refine Visits.mono (P := MonitorStore.UniqueIds) ?_ fun st h => h.onOwnNode
      exact visits_of_along (I := fun _ => True) (fun _ _ _ _ _ => trivial)
        (fun st x st' _ h hx hs => hstep st x st' h hx hs) trivial storeCreate_uniqueIds hun

/-! ## Once round -/

/-- Sessions that end before the next one begins. -/
def turns : ℕ → List StoreAct
  | 0 => []
  | k + 1 => turns k ++ [.call .begin, .call (.finish (UInt32.ofNat (k + 1)))]

/-- No session is open, and the counter has got to `k`. -/
structure Idle (k : ℕ) (st : MonitorStore) : Prop where
  next : st.nextSessionId = UInt32.ofNat k
  idle : ∀ n ∈ st.sessions, n.active = false
  nonempty : st.sessions ≠ []
  room : st.metrics.concurrentConnections = 0 ∧ 0 < st.sessionsCap

omit [Inet] in
theorem Idle.begin_eq {k : ℕ} (h : Idle k st) :
    ∃ n, st.sessions[0]? = some n ∧ storeSessionBegin st = (st.begun 0, st.nextSessionId) := by
  obtain ⟨n, l, hl⟩ := List.exists_cons_of_ne_nil h.nonempty
  have hn : n.active = false := h.idle n (by rw [hl]; exact List.mem_cons_self)
  have hfind : st.sessions.findIdx? (!·.active) = some 0 := by
    rw [hl, List.findIdx?_cons, hn]
    rfl
  refine ⟨n, by rw [hl]; rfl, ?_⟩
  rcases storeSessionBegin_cases st with ⟨-, hwhy⟩ | ⟨i, m, -, hi, -, -, hr⟩
  · have := h.room
    rcases hwhy with hfull | hnone
    · omega
    · rw [hfind] at hnone
      cases hnone
  · rw [hfind] at hi
    cases hi
    exact hr

omit [Inet] in
/-- One session comes and goes. -/
theorem Idle.turn {k : ℕ} (h : Idle k st) (hk : UInt32.ofNat k ≠ storeSessionInvalid) :
    Idle (k + 1) ((StoreCall.finish (UInt32.ofNat k)).apply (StoreCall.begin.apply st)) := by
  obtain ⟨n, hn, hbegin⟩ := h.begin_eq
  have hlt := (List.getElem?_eq_some_iff.1 hn).1
  have hnew : (st.begun 0).sessions[0]? = some (.opened (UInt32.ofNat k)) := by
    rw [MonitorStore.begun, List.getElem?_set_self hlt, h.next]
  have hat : (st.begun 0).At (UInt32.ofNat k) 0 (.opened (UInt32.ofNat k)) := by
    refine at_of_node hk hnew rfl rfl fun j m hm hma _ => ?_
    by_contra hj
    rw [MonitorStore.begun, List.getElem?_set_ne (Ne.symm hj)] at hm
    rw [h.idle m (List.mem_of_getElem? hm)] at hma
    cases hma
  have hend : (StoreCall.finish (UInt32.ofNat k)).apply (StoreCall.begin.apply st) =
      (st.begun 0).release 0 := by
    rw [StoreCall.apply, StoreCall.apply, hbegin, hat.finish_eq]
    exact if_neg (not_not_intro rfl)
  rw [hend]
  refine ⟨?_, fun m hm => ?_, fun hnil => ?_, ?_⟩
  · show st.nextSessionId + 1 = _
    rw [h.next, UInt32.ofNat_add]
    rfl
  · obtain ⟨j, hj⟩ := List.mem_iff_getElem?.1 hm
    change ((st.begun 0).sessions.modify 0 StoreSessionNode.released)[j]? = _ at hj
    rw [modify_eq_set_of_getElem? hnew, MonitorStore.begun, List.set_set] at hj
    by_cases h0 : 0 = j
    · subst h0
      rw [List.getElem?_set_self hlt] at hj
      cases hj
      rfl
    · rw [List.getElem?_set_ne h0] at hj
      exact h.idle m (List.mem_of_getElem? hj)
  · change (st.begun 0).sessions.modify 0 StoreSessionNode.released = [] at hnil
    have hlen := congrArg List.length hnil
    rw [List.length_modify, MonitorStore.begun, List.length_set] at hlen
    exact h.nonempty (List.length_eq_zero_iff.1 hlen)
  · have := h.room
    exact ⟨by show st.metrics.concurrentConnections + 1 - 1 = 0; omega, this.2⟩

theorem idle_turns (k : ℕ) (hk : k < 2 ^ 32) :
    ∃ st, run storeStep storeCreate (turns k) = .ok st ∧ Idle (k + 1) st := by
  induction k with
  | zero =>
    refine ⟨storeCreate, rfl, rfl, fun n hn => ?_, List.cons_ne_nil _ _, rfl, by decide⟩
    rw [(List.mem_replicate.1 hn).2]
    rfl
  | succ k ih =>
    obtain ⟨st, hrun, hidle⟩ := ih (by omega)
    have hne : UInt32.ofNat (k + 1) ≠ storeSessionInvalid := by
      intro h0
      have := congrArg UInt32.toNat h0
      rw [UInt32.toNat_ofNat_of_lt' hk] at this
      cases this
    refine ⟨_, ?_, hidle.turn hne⟩
    rw [turns, run_append, hrun]
    rfl

end Runs

attribute [local instance] InetText.inet

/-- After 2^32 - 1 sessions the next one is given the answer of a refusal, and its node. -/
theorem session_ids_wrap : ∃ st, run storeStep storeCreate (turns (2 ^ 32 - 1)) = .ok st ∧
    (storeSessionBegin st).2 = storeSessionInvalid ∧ (storeSessionBegin st).1 ≠ st ∧
    ¬ BeginsFresh st := by
  obtain ⟨st, hrun, hidle⟩ := idle_turns (2 ^ 32 - 1) (by omega)
  have hzero : st.nextSessionId = storeSessionInvalid := by
    rw [hidle.next]
    rfl
  obtain ⟨n, hn, hbegin⟩ := hidle.begin_eq
  have hmore : (storeSessionBegin st).1 ≠ st := by
    rw [hbegin]
    intro heq
    exact absurd (congrArg (fun s => s.metrics.totalConnections) heq) (Nat.succ_ne_self _)
  have hinvalid : (storeSessionBegin st).2 = storeSessionInvalid := by
    rw [hbegin]
    exact hzero
  refine ⟨st, hrun, hinvalid, hmore, ?_⟩
  rintro (hsame | ⟨i, m, -, -, hvalid, -⟩)
  · exact hmore (congrArg Prod.fst hsame)
  · exact hvalid hinvalid

end SocksProxy
