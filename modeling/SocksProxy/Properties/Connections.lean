import SocksProxy.Properties.Capacity
import SocksProxy.Shared.InetText
import SocksProxy.Socks.Durable

/-!
# Connections and slots

`active_sessions` counts the connections of the proxy and `concurrent_connections` the slots of the
store.  They move at different places: the first when a client is accepted and when it is closed,
the second when the store begins a session and at the first of three calls that release its slot.
A request that fails releases the slot at once, while the connection stays until the reply is out,
so the two are not the same number.

`World.CountersAgree` says how they stand to each other in every state of every run, and
`World.SlotFate` what becomes of the slot of one session.  Both follow from what the callbacks do to
the ids of the open sessions, `World.ids`, and to the slots: `Tallied`.
-/

set_option autoImplicit false

namespace SocksProxy

/-! ## The ids of the open sessions -/

/-- `store_id` of a session, if it is open. -/
def World.ids (w : World) (sid : Sid) : Option UInt32 := (w.sessions sid).map (·.storeId)

/-- How many sessions are open whose `store_id` passes a test. -/
def World.opens (w : World) (p : UInt32 → Bool) : ℕ :=
  (List.range w.nextSid).countP fun sid => (w.ids sid).any p

section Counting

variable {w w' : World} {sid : Sid} {s : SocksSession} {id : UInt32} {id? : Option UInt32}

theorem ids_of_open (hs : w.sessions sid = some s) : w.ids sid = some s.storeId := by
  rw [World.ids, hs]
  rfl

theorem ids_update {s? : Option SocksSession} (h : w'.sessions = Function.update w.sessions sid s?) :
    w'.ids = Function.update w.ids sid (s?.map (·.storeId)) := by
  funext sid'
  rw [World.ids, h, Function.update_apply, Function.update_apply, World.ids]
  split <;> rfl

/-- A use of a session does not change its slot. -/
theorem ids_update_same {s' : SocksSession} (hs : w.sessions sid = some s)
    (hid : s'.storeId = s.storeId) (h : w'.sessions = Function.update w.sessions sid (some s')) :
    w'.ids = w.ids := by
  rw [ids_update h, Option.map_some, hid, ← ids_of_open hs, Function.update_eq_self]

theorem opens_congr (h : w'.ids = w.ids) (hn : w'.nextSid = w.nextSid) (p : UInt32 → Bool) :
    w'.opens p = w.opens p := by
  rw [World.opens, h, hn, World.opens]

/-- A test splits the open sessions in two. -/
theorem opens_split (w : World) (p : UInt32 → Bool) :
    w.opens (fun _ => true) = w.opens p + w.opens (!p ·) := by
  simp only [World.opens]
  rw [List.countP_eq_countP_filter_add _ _ fun sid => (w.ids sid).any p, List.countP_filter,
    List.countP_filter]
  congr 1 <;> refine List.countP_congr fun sid _ => ?_ <;> cases w.ids sid <;> simp

/-- The id of an open session is changed, or the session is closed. -/
theorem opens_update (hlt : sid < w.nextSid) (hid : w.ids sid = some id)
    (h : w'.ids = Function.update w.ids sid id?) (hn : w'.nextSid = w.nextSid)
    (p : UInt32 → Bool) :
    w'.opens p + (if p id then 1 else 0) = w.opens p + if id?.any p then 1 else 0 := by
  have := countP_range_update (f := w.ids) (p := fun o => o.any p) hlt id?
  rw [hid] at this
  rw [World.opens, h, hn]
  exact this

/-- A session is opened. -/
theorem opens_succ (h : w'.ids = Function.update w.ids w.nextSid id?)
    (hn : w'.nextSid = w.nextSid + 1) (p : UInt32 → Bool) :
    w'.opens p = w.opens p + if id?.any p then 1 else 0 := by
  have hold : ((List.range w.nextSid).countP fun sid =>
      (Function.update w.ids w.nextSid id? sid).any p) = w.opens p := by
    refine List.countP_congr fun sid hsid => ?_
    rw [Function.update_of_ne (Nat.ne_of_lt (List.mem_range.1 hsid))]
  rw [World.opens, h, hn, List.range_succ, List.countP_append, hold, List.countP_singleton,
    Function.update_self]

end Counting

/-! ## Properties of connections and slots -/

/-- What a property of the ids, the counter, the store and what was done to it has to survive. -/
structure Tallied (I : World → Prop) : Prop where
  same : ∀ {w w' : World}, I w → w'.ids = w.ids → w'.nextSid = w.nextSid →
    w'.activeSessions = w.activeSessions → w'.store = w.store → w'.acts = w.acts → I w'
  described : ∀ {w : World} {c : StoreCall}, I w → c.describes = true → I (w.onStore c)
  refused : ∀ {w : World} {sid : Sid} {s : SocksSession}, I w → w.sessions sid = some s →
    s.storeId ≠ storeSessionInvalid → I (w.refused sid s)
  closed : ∀ {w : World} {sid : Sid} {s : SocksSession}, I w → w.sessions sid = some s →
    I (w.closed sid s)
  turnedAway : ∀ {w : World}, I w → (storeSessionBegin w.store).2 = storeSessionInvalid →
    I (w.onStore .begin)
  undone : ∀ {w : World}, I w → (storeSessionBegin w.store).2 ≠ storeSessionInvalid → I w.undone
  discarded : ∀ {w : World}, I w → (storeSessionBegin w.store).2 ≠ storeSessionInvalid →
    I w.discarded
  admitted : ∀ {w : World} {s : SocksSession}, I w →
    (storeSessionBegin w.store).2 ≠ storeSessionInvalid →
    s.storeId = (storeSessionBegin w.store).2 → I (w.admitted s)
  administered : ∀ [Inet] {w : World} (op : StoreOp), I w →
    I { w with store := op.apply w.store, acts := w.acts ++ [.admin op] }

theorem Tallied.steady {I : World → Prop} (hI : Tallied I) : Steady I where
  other h := hI.same h rfl rfl rfl rfl rfl
  assigned h hs _ hid := hI.same h (ids_update_same hs hid rfl) rfl rfl rfl rfl
  emitted _ _ h := hI.same h rfl rfl rfl rfl rfl
  touched := by
    intro w sid s h hs
    have hsess : (w.touched sid s).sessions =
        Function.update w.sessions sid (some { s with lastActivity := w.clock }) := rfl
    exact hI.same h (ids_update_same hs (by rfl) hsess) rfl rfl rfl rfl
  removed _ h := hI.same h rfl rfl rfl rfl rfl
  called := hI.described
  refused := hI.refused
  closed := hI.closed
  turnedAway := hI.turnedAway
  undone := hI.undone
  discarded := hI.discarded
  admitted h hid hs _ := hI.admitted h hid hs
  ticked _ h := hI.same h rfl rfl rfl rfl rfl
  administered := hI.administered

/-! ## The counters -/

/-- The sessions that hold a slot hold the slots of the store. -/
structure World.Balanced (w : World) : Prop where
  fresh : ∀ sid, w.nextSid ≤ sid → w.ids sid = none
  slots : w.store.SlotsOk
  clients : w.activeSessions = w.opens fun _ => true
  held : ∀ p : UInt32 → Bool, p storeSessionInvalid = false → w.store.actives p = w.opens p

section Balance

variable {w w' : World} {sid : Sid} {s : SocksSession} {id : UInt32}

theorem World.Balanced.lt (h : w.Balanced) (hid : w.ids sid = some id) : sid < w.nextSid := by
  by_contra hge
  rw [h.fresh sid (Nat.le_of_not_lt hge)] at hid
  cases hid

/-- The store finds the slot of an open session. -/
theorem World.Balanced.exists_at (h : w.Balanced) (hid : w.ids sid = some id)
    (hne : id ≠ storeSessionInvalid) : ∃ i n, w.store.At id i n := by
  refine exists_at_of_actives hne ?_
  rw [h.held (· == id) (by simp [hne.symm])]
  exact List.countP_pos_iff.2 ⟨sid, List.mem_range.2 (h.lt hid), by simp [hid]⟩

/-- A slot is released, by a call about it. -/
theorem World.Balanced.released (h : w.Balanced) (hid : w.ids sid = some id)
    (hne : id ≠ storeSessionInvalid) {c : StoreCall} (hc : c.releases = true)
    (hs : c.session = some id) {p : UInt32 → Bool} (hp : p storeSessionInvalid = false) :
    (c.apply w.store).actives p + (if p id then 1 else 0) = w.opens p := by
  obtain ⟨i, n, hat⟩ := h.exists_at hid hne
  rw [actives_releases hat hc hs, h.held p hp]

/-- An open session gives its slot up. -/
theorem World.Balanced.vacate (h : w.Balanced) (hs : w.sessions sid = some s)
    {id? : Option UInt32} (hids : w'.ids = Function.update w.ids sid id?)
    (hn : w'.nextSid = w.nextSid) (hslots : w'.store.SlotsOk)
    (hclients : w'.activeSessions + 1 = w.activeSessions + if id?.isSome then 1 else 0)
    (hfree : ∀ p, p storeSessionInvalid = false → id?.any p = false)
    (hheld : ∀ p, p storeSessionInvalid = false →
      w'.store.actives p + (if p s.storeId then 1 else 0) = w.opens p) : w'.Balanced where
  fresh := by
    intro sid' hge
    rw [hn] at hge
    rw [hids, Function.update_of_ne (Nat.ne_of_gt (Nat.lt_of_lt_of_le (h.lt (ids_of_open hs)) hge))]
    exact h.fresh sid' hge
  slots := hslots
  clients := by
    have hcount := opens_update (h.lt (ids_of_open hs)) (ids_of_open hs) hids hn fun _ => true
    have := h.clients
    rw [show (id?.any fun _ => true) = id?.isSome by cases id? <;> rfl] at hcount
    simp only [if_true] at hcount
    omega
  held := by
    intro p hp
    have hcount := opens_update (h.lt (ids_of_open hs)) (ids_of_open hs) hids hn p
    rw [hfree p hp] at hcount
    have := hheld p hp
    simp only [Bool.false_eq_true, if_false] at hcount
    omega

/-- The store begins a session. -/
theorem World.Balanced.begun (h : w.Balanced)
    (hid : (storeSessionBegin w.store).2 ≠ storeSessionInvalid) :
    (StoreCall.begin.apply w.store).SlotsOk ∧ ∀ p : UInt32 → Bool,
      (StoreCall.begin.apply w.store).actives p =
        w.store.actives p + if p (storeSessionBegin w.store).2 then 1 else 0 := by
  refine ⟨h.slots.apply .begin, ?_⟩
  rcases actives_begin w.store with ⟨-, hno⟩ | ⟨-, -, hcount⟩
  · exact absurd hno hid
  · exact hcount

/-- The store begins a session and ends it at once. -/
theorem World.Balanced.undone (h : w.Balanced)
    (hid : (storeSessionBegin w.store).2 ≠ storeSessionInvalid) :
    w.undone.store.SlotsOk ∧ ∀ p : UInt32 → Bool, w.undone.store.actives p = w.store.actives p := by
  obtain ⟨hslots, hcount⟩ := h.begun hid
  refine ⟨hslots.apply (.finish (storeSessionBegin w.store).2), fun p => ?_⟩
  have hone := hcount (· == (storeSessionBegin w.store).2)
  simp only [beq_self_eq_true, if_true] at hone
  have hpos : 0 < (StoreCall.begin.apply w.store).actives (· == (storeSessionBegin w.store).2) := by
    rw [hone]
    exact Nat.succ_pos _
  obtain ⟨i, n, hat⟩ := exists_at_of_actives hid hpos
  have hend := actives_releases (c := .finish (storeSessionBegin w.store).2) hat rfl rfl p
  rw [hcount p] at hend
  exact Nat.add_right_cancel hend

end Balance

theorem tallied_balanced : Tallied World.Balanced where
  same h hids hn hactive hstore _ := by
    refine ⟨fun sid hge => ?_, hstore ▸ h.slots, ?_, fun p hp => ?_⟩
    · rw [hids]
      exact h.fresh sid (hn ▸ hge)
    · rw [hactive, opens_congr hids hn]
      exact h.clients
    · rw [hstore, opens_congr hids hn]
      exact h.held p hp
  described h hc := by
    refine ⟨h.fresh, h.slots.apply _, h.clients, fun p hp => ?_⟩
    exact (actives_describes _ hc p).trans (h.held p hp)
  refused := by
    intro w sid s h hs hid
    refine h.vacate hs (ids_update rfl) rfl (h.slots.apply (.markFailed w.clock s.storeId)) rfl
      (fun p hp => hp) fun p hp => ?_
    exact h.released (ids_of_open hs) hid rfl rfl hp
  closed := by
    intro w sid s h hs
    have hpos : 0 < w.activeSessions := by
      rw [h.clients]
      exact List.countP_pos_iff.2 ⟨sid, List.mem_range.2 (h.lt (ids_of_open hs)),
        by simp [ids_of_open hs]⟩
    have hclients : w.activeSessions - 1 + 1 = w.activeSessions := by omega
    refine h.vacate hs (ids_update rfl) rfl ?_ hclients (fun p hp => rfl) fun p hp => ?_
    · show (closeStore w.clock s w.store).SlotsOk
      rw [closeStore]
      split
      · split
        · exact h.slots.apply (.markTtlExpired w.clock s.storeId)
        · exact h.slots.apply (.finish s.storeId)
      · exact h.slots
    · show (closeStore w.clock s w.store).actives p + _ = _
      rw [closeStore]
      split
      · next hid =>
        split
        · exact h.released (c := .markTtlExpired w.clock s.storeId) (ids_of_open hs) hid rfl rfl hp
        · exact h.released (c := .finish s.storeId) (ids_of_open hs) hid rfl rfl hp
      · next hid =>
        rw [not_not.1 hid, hp]
        exact h.held p hp
  turnedAway := by
    intro w h hid
    refine ⟨h.fresh, h.slots.apply .begin, h.clients, fun p hp => ?_⟩
    refine Eq.trans ?_ (h.held p hp)
    rcases actives_begin w.store with ⟨heq, -⟩ | ⟨-, -, hcount⟩
    · exact congrArg (MonitorStore.actives · p) heq
    · refine (hcount p).trans ?_
      rw [hid, hp]
      rfl
  undone h hid := by
    obtain ⟨hslots, hsame⟩ := h.undone hid
    exact ⟨h.fresh, hslots, h.clients, fun p hp => (hsame p).trans (h.held p hp)⟩
  discarded := by
    intro w h hid
    obtain ⟨hslots, hsame⟩ := h.undone hid
    have hids : w.discarded.ids = Function.update w.ids w.nextSid none :=
      ids_update (show w.discarded.sessions = Function.update w.sessions w.nextSid none from rfl)
    refine ⟨fun sid hge => ?_, hslots, ?_, fun p hp => ?_⟩
    · have hlt : w.nextSid < sid := hge
      rw [hids, Function.update_of_ne (Nat.ne_of_gt hlt)]
      exact h.fresh sid (Nat.le_of_lt hlt)
    · rw [opens_succ hids rfl]
      exact h.clients
    · rw [opens_succ hids rfl]
      exact (hsame p).trans (h.held p hp)
  admitted := by
    intro w s h hid hs
    have hids : (w.admitted s).ids = Function.update w.ids w.nextSid (some s.storeId) :=
      ids_update (show (w.admitted s).sessions = Function.update w.sessions w.nextSid (some s) from
        rfl)
    refine ⟨fun sid hge => ?_, h.slots.apply .begin, ?_, fun p hp => ?_⟩
    · have hlt : w.nextSid < sid := hge
      rw [hids, Function.update_of_ne (Nat.ne_of_gt hlt)]
      exact h.fresh sid (Nat.le_of_lt hlt)
    · rw [opens_succ hids rfl]
      exact congrArg (· + 1) h.clients
    · rw [opens_succ hids rfl, ← h.held p hp, hs]
      exact (h.begun hid).2 p
  administered op h := by
    refine ⟨h.fresh, ?_, h.clients, fun p hp => ((actives_admin _ op).1 p).trans (h.held p hp)⟩
    rcases op.cases _ with ⟨key, value, realloc, heq⟩ | hsame
    · rw [heq]
      exact h.slots.apply (.configSet key value realloc)
    · exact h.slots.congr hsame.sessions (congrArg _ hsame.metrics) hsame.sessionsCap

/-! ## The ids -/

/-- How often `store_session_begin` was called. -/
def World.begins (w : World) : ℕ := w.acts.countP (·.begins)

/-- The ids of the sessions have not run out. -/
def World.Few (w : World) : Prop := w.begins < 2 ^ 32 - 1

/-- No two sessions have the same slot, and the next one will be another. -/
structure World.Apart (w : World) : Prop where
  next_pos : 0 < w.store.nextSessionId.toNat
  next_le : w.store.nextSessionId.toNat ≤ w.begins + 1
  lt : ∀ sid id, w.ids sid = some id → id.toNat < w.store.nextSessionId.toNat
  apart : ∀ sid sid' id, id ≠ storeSessionInvalid → w.ids sid = some id → w.ids sid' = some id →
    sid = sid'
  valid : w.store.actives (· == storeSessionInvalid) = 0

section Ids

variable {w w' : World} {sid : Sid} {s : SocksSession} {id : UInt32} {more : List StoreAct}

theorem begins_append (h : w'.acts = w.acts ++ more) :
    w'.begins = w.begins + more.countP (·.begins) := by
  rw [World.begins, h, List.countP_append, World.begins]

theorem World.Few.of_append (h : w'.Few) (hacts : w'.acts = w.acts ++ more) : w.Few := by
  have := begins_append hacts
  rw [World.Few] at h ⊢
  omega

/-- Sessions keep their ids or lose them. -/
theorem World.Apart.keep (h : w.Apart)
    (hids : ∀ sid id, w'.ids sid = some id → id = storeSessionInvalid ∨ w.ids sid = some id)
    (hmono : w.store.nextSessionId.toNat ≤ w'.store.nextSessionId.toNat)
    (hle : w'.store.nextSessionId.toNat ≤ w'.begins + 1)
    (hvalid : w'.store.actives (· == storeSessionInvalid) ≤
      w.store.actives (· == storeSessionInvalid)) : w'.Apart where
  next_pos := Nat.lt_of_lt_of_le h.next_pos hmono
  next_le := hle
  lt := by
    intro sid id hid
    rcases hids sid id hid with rfl | hid
    · exact Nat.lt_of_lt_of_le h.next_pos hmono
    · exact Nat.lt_of_lt_of_le (h.lt sid id hid) hmono
  apart := by
    intro sid sid' id hne hid hid'
    rcases hids sid id hid with rfl | hid
    · exact absurd rfl hne
    rcases hids sid' id hid' with rfl | hid'
    · exact absurd rfl hne
    exact h.apart sid sid' id hne hid hid'
  valid := Nat.le_zero.1 (h.valid ▸ hvalid)

/-- As long as the ids last, the counter does not wrap around. -/
theorem World.Apart.next_succ (h : w.Apart) (hfew : w.begins + 1 < 2 ^ 32 - 1) :
    (w.store.nextSessionId + 1).toNat = w.store.nextSessionId.toNat + 1 := by
  have := h.next_le
  rw [UInt32.toNat_add]
  exact Nat.mod_eq_of_lt (by simp; omega)

theorem World.Apart.next_ne (h : w.Apart) : w.store.nextSessionId ≠ storeSessionInvalid := by
  intro hzero
  have := h.next_pos
  rw [hzero] at this
  cases this

/-- `store_session_begin` refuses a session only by leaving the store alone. -/
theorem World.Apart.turnedAway (h : w.Apart)
    (hid : (storeSessionBegin w.store).2 = storeSessionInvalid) :
    StoreCall.begin.apply w.store = w.store := by
  rcases actives_begin w.store with ⟨heq, -⟩ | ⟨heq, -⟩
  · exact heq
  · exact absurd (heq.symm.trans hid) h.next_ne

/-- `store_session_begin` hands out the next id. -/
theorem World.Apart.begun (h : w.Apart) (hfew : w.begins + 1 < 2 ^ 32 - 1)
    (hid : (storeSessionBegin w.store).2 ≠ storeSessionInvalid) :
    (storeSessionBegin w.store).2 = w.store.nextSessionId ∧
      (StoreCall.begin.apply w.store).nextSessionId.toNat = w.store.nextSessionId.toNat + 1 ∧
      (StoreCall.begin.apply w.store).actives (· == storeSessionInvalid) =
        w.store.actives (· == storeSessionInvalid) := by
  rcases actives_begin w.store with ⟨-, hno⟩ | ⟨heq, hnext, hcount⟩
  · exact absurd hno hid
  · refine ⟨heq, hnext ▸ h.next_succ hfew, ?_⟩
    rw [hcount, if_neg (by simpa using hid), Nat.add_zero]

/-- A call about a session. -/
theorem World.Apart.call (h : w.Apart) {c : StoreCall} (hs : c.session = some id)
    (hstore : w'.store = c.apply w.store) (hacts : w'.acts = w.acts ++ [.call c])
    (hids : ∀ sid id, w'.ids sid = some id → id = storeSessionInvalid ∨ w.ids sid = some id) :
    w'.Apart := by
  have hnext : w'.store.nextSessionId = w.store.nextSessionId := by
    rw [hstore, nextSessionId_call _ hs]
  refine h.keep hids (Nat.le_of_eq (by rw [hnext])) ?_ ?_
  · have := h.next_le
    rw [hnext, begins_append hacts]
    omega
  · rw [hstore]
    exact actives_call_le _ hs _

theorem acts_undone (w : World) : w.undone.acts =
    w.acts ++ [.call .begin, .call (.finish (storeSessionBegin w.store).2)] :=
  List.append_assoc ..

/-- A session that is begun and ended at once. -/
theorem World.Apart.undone (h : w.Apart) (hfew : w.undone.Few)
    (hid : (storeSessionBegin w.store).2 ≠ storeSessionInvalid) : w.undone.Apart := by
  have hbegins : w.undone.begins = w.begins + 1 := begins_append (acts_undone w)
  rw [World.Few, hbegins] at hfew
  obtain ⟨-, hnext, hactives⟩ := h.begun hfew hid
  have hend : w.undone.store.nextSessionId.toNat = w.store.nextSessionId.toNat + 1 :=
    (congrArg UInt32.toNat (nextSessionId_call _ rfl)).trans hnext
  have hle := h.next_le
  refine h.keep (fun _ _ hid => .inr hid) ?_ ?_ ?_
  · omega
  · omega
  · rw [← hactives]
    exact actives_call_le (c := .finish (storeSessionBegin w.store).2) _ rfl _

end Ids

/-- **Sessions have different slots**, as long as the ids last. -/
theorem tallied_apart : Tallied fun w => w.Few → w.Apart where
  same h hids _ _ hstore hacts hfew := by
    have hacts := hacts.trans (List.append_nil _).symm
    have h := h (hfew.of_append hacts)
    refine h.keep (fun _ _ hid => .inr (hids ▸ hid)) (Nat.le_of_eq (by rw [hstore])) ?_
      (Nat.le_of_eq (by rw [hstore]))
    rw [hstore, begins_append hacts]
    exact h.next_le
  described h hc hfew := by
    obtain ⟨id, hs⟩ := exists_session_of_describes hc
    exact (h (hfew.of_append rfl)).call hs rfl rfl fun _ _ hid => .inr hid
  refused := by
    intro w sid s h hs hne hfew
    refine (h (hfew.of_append rfl)).call (c := .markFailed w.clock s.storeId) rfl rfl rfl ?_
    intro sid' id hid
    rw [ids_update (w := w) rfl, Function.update_apply] at hid
    split at hid
    · exact .inl (Option.some.inj hid).symm
    · exact .inr hid
  closed := by
    intro w sid s h hs hfew
    have hids : ∀ sid' id, (w.closed sid s).ids sid' = some id →
        id = storeSessionInvalid ∨ w.ids sid' = some id := by
      intro sid' id hid
      rw [ids_update (w := w) rfl, Function.update_apply] at hid
      split at hid
      · cases hid
      · exact .inr hid
    have hw := h (hfew.of_append rfl)
    by_cases hid : s.storeId = storeSessionInvalid
    · have hstore : (w.closed sid s).store = w.store := if_neg (not_not_intro hid)
      refine hw.keep hids (Nat.le_of_eq (by rw [hstore])) ?_ (Nat.le_of_eq (by rw [hstore]))
      have hbegins : (w.closed sid s).begins = w.begins + _ := begins_append rfl
      rw [hstore, hbegins]
      exact Nat.le_trans hw.next_le (by omega)
    · by_cases httl : s.ttlExpired = true
      · refine hw.call (c := .markTtlExpired w.clock s.storeId) rfl ?_ ?_ hids
        · exact (if_pos hid).trans (if_pos httl)
        · exact congrArg _ ((if_pos hid).trans (if_pos httl))
      · refine hw.call (c := .finish s.storeId) rfl ?_ ?_ hids
        · exact (if_pos hid).trans (if_neg httl)
        · exact congrArg _ ((if_pos hid).trans (if_neg httl))
  turnedAway := by
    intro w h hid hfew
    have hw := h (hfew.of_append rfl)
    have hstore : (w.onStore .begin).store = w.store := hw.turnedAway hid
    refine hw.keep (fun _ _ hid => .inr hid) (Nat.le_of_eq (by rw [hstore])) ?_
      (Nat.le_of_eq (by rw [hstore]))
    have hbegins : (w.onStore .begin).begins = w.begins + 1 :=
      begins_append (show (w.onStore .begin).acts = w.acts ++ [.call .begin] from rfl)
    rw [hstore, hbegins]
    exact Nat.le_succ_of_le hw.next_le
  undone h hid hfew :=
    (h ((hfew.of_append rfl).of_append rfl)).undone hfew hid
  discarded := by
    intro w h hid hfew
    have hw : w.undone.Apart :=
      (h ((hfew.of_append (w := w.onStore .begin) rfl).of_append rfl)).undone hfew hid
    refine hw.keep ?_ (Nat.le_refl _) hw.next_le (Nat.le_refl _)
    intro sid' id hid
    rw [ids_update (w := w) rfl, Function.update_apply] at hid
    split at hid
    · cases hid
    · exact .inr hid
  admitted := by
    intro w s h hid hs hfew
    have hacts : (w.admitted s).acts = w.acts ++ [.call .begin] := rfl
    have hbegins : (w.admitted s).begins = w.begins + 1 := begins_append hacts
    have hw := h (hfew.of_append hacts)
    rw [World.Few, hbegins] at hfew
    obtain ⟨heq, hnext, hactives⟩ := hw.begun hfew hid
    have hnext : (w.admitted s).store.nextSessionId.toNat = w.store.nextSessionId.toNat + 1 := hnext
    have hids : (w.admitted s).ids = Function.update w.ids w.nextSid (some s.storeId) :=
      ids_update (show (w.admitted s).sessions = Function.update w.sessions w.nextSid (some s) from
        rfl)
    -- the new id is above the others
    have hnew : ∀ sid, w.ids sid ≠ some s.storeId := by
      intro sid hsid
      have := hw.lt sid _ hsid
      rw [hs, heq] at this
      exact Nat.lt_irrefl _ this
    have hold : ∀ sid id, (w.admitted s).ids sid = some id →
        sid = w.nextSid ∧ id = s.storeId ∨ sid ≠ w.nextSid ∧ w.ids sid = some id := by
      intro sid id hsid
      rw [hids, Function.update_apply] at hsid
      split at hsid
      · next h => exact .inl ⟨h, (Option.some.inj hsid).symm⟩
      · next h => exact .inr ⟨h, hsid⟩
    have hle := hw.next_le
    refine ⟨by omega, by omega, fun sid id hsid => ?_, fun sid sid' id hne hsid hsid' => ?_,
      hactives.trans hw.valid⟩
    · rcases hold sid id hsid with ⟨-, rfl⟩ | ⟨-, hsid⟩
      · rw [hnext, hs, heq]
        exact Nat.lt_succ_self _
      · exact Nat.lt_of_lt_of_le (hw.lt sid id hsid) (by omega)
    · rcases hold sid id hsid with ⟨rfl, rfl⟩ | ⟨-, hsid⟩
      · rcases hold sid' _ hsid' with ⟨rfl, -⟩ | ⟨-, hsid'⟩
        · rfl
        · exact absurd hsid' (hnew sid')
      · rcases hold sid' id hsid' with ⟨-, rfl⟩ | ⟨-, hsid'⟩
        · exact absurd hsid (hnew sid)
        · exact hw.apart sid sid' id hne hsid hsid'
  administered op h hfew := by
    have hw := h (hfew.of_append rfl)
    obtain ⟨hactives, hnext⟩ := actives_admin _ op
    refine hw.keep (fun _ _ hid => .inr hid) (Nat.le_of_eq (by rw [hnext])) ?_
      (Nat.le_of_eq (hactives _))
    rw [hnext, begins_append rfl]
    exact Nat.le_trans hw.next_le (by omega)

/-! ## The slot of one session -/

/-- What has become of a session with the slot `id`, when `acts` is what was done to the store
since. -/
inductive World.SlotFate (w : World) (sid : Sid) (id : UInt32) (acts : List StoreAct) : Prop
  /-- It is open and has its slot. -/
  | held (open_eq : w.ids sid = some id) (none_eq : acts.filter (·.releases id) = [])
  /-- Its request failed: the slot is released, and the connection still open. -/
  | refused (open_eq : w.ids sid = some storeSessionInvalid)
      (once : ∃ now, acts.filter (·.releases id) = [.call (.markFailed now id)])
  /-- It is closed, and its slot was released once. -/
  | closed (closed_eq : w.ids sid = none) (once : ∃ x, acts.filter (·.releases id) = [x])

/-- The fate of the slot, and what keeps other sessions away from it. -/
structure World.Fated (w : World) (sid : Sid) (id : UInt32) (before : List StoreAct) : Prop where
  apart : w.Apart
  old : sid < w.nextSid
  lt : id.toNat < w.store.nextSessionId.toNat
  others : ∀ sid', sid' ≠ sid → w.ids sid' ≠ some id
  fate : ∃ acts, w.acts = before ++ acts ∧ w.SlotFate sid id acts

section Fate

variable {w w' : World} {sid : Sid} {s : SocksSession} {id : UInt32}
  {before acts more : List StoreAct}

/-- What is done to the store is not about the slot. -/
theorem World.SlotFate.append (h : w.SlotFate sid id acts) (hids : w'.ids sid = w.ids sid)
    (hmore : more.filter (·.releases id) = []) : w'.SlotFate sid id (acts ++ more) := by
  have hsame : (acts ++ more).filter (·.releases id) = acts.filter (·.releases id) := by
    rw [List.filter_append, hmore, List.append_nil]
  cases h with
  | held open_eq none_eq => exact .held (hids.trans open_eq) (hsame.trans none_eq)
  | refused open_eq once => exact .refused (hids.trans open_eq) (hsame ▸ once)
  | closed closed_eq once => exact .closed (hids.trans closed_eq) (hsame ▸ once)

/-- A step that is not about the session. -/
theorem World.Fated.keep (h : w.Fated sid id before) (hapart : w'.Apart)
    (hn : w.nextSid ≤ w'.nextSid)
    (hnext : w.store.nextSessionId.toNat ≤ w'.store.nextSessionId.toNat)
    (hothers : ∀ sid', sid' ≠ sid → w'.ids sid' = some id → w.ids sid' = some id)
    (hids : w'.ids sid = w.ids sid) (hacts : w'.acts = w.acts ++ more)
    (hmore : more.filter (·.releases id) = []) : w'.Fated sid id before where
  apart := hapart
  old := Nat.lt_of_lt_of_le h.old hn
  lt := Nat.lt_of_lt_of_le h.lt hnext
  others sid' hne hid := h.others sid' hne (hothers sid' hne hid)
  fate := by
    obtain ⟨acts, heq, hfate⟩ := h.fate
    exact ⟨acts ++ more, by rw [hacts, heq, List.append_assoc], hfate.append hids hmore⟩

/-- A step of the session itself. -/
theorem World.Fated.turn (h : w.Fated sid id before) {id? : Option UInt32} (hapart : w'.Apart)
    (hn : w'.nextSid = w.nextSid)
    (hnext : w'.store.nextSessionId = w.store.nextSessionId)
    (hids : w'.ids = Function.update w.ids sid id?) (hacts : w'.acts = w.acts ++ more)
    (hfate : ∀ acts, w.SlotFate sid id acts → w'.SlotFate sid id (acts ++ more)) :
    w'.Fated sid id before where
  apart := hapart
  old := hn ▸ h.old
  lt := hnext ▸ h.lt
  others := by
    intro sid' hne
    rw [hids, Function.update_of_ne hne]
    exact h.others sid' hne
  fate := by
    obtain ⟨acts, heq, hf⟩ := h.fate
    exact ⟨acts ++ more, by rw [hacts, heq, List.append_assoc], hfate acts hf⟩

/-- A slot that is handed out is another one. -/
theorem World.Fated.begun (h : w.Fated sid id before) (hfew : w.begins + 1 < 2 ^ 32 - 1)
    (hnew : (storeSessionBegin w.store).2 ≠ storeSessionInvalid) :
    (storeSessionBegin w.store).2 ≠ id ∧
      w.store.nextSessionId.toNat ≤ (StoreCall.begin.apply w.store).nextSessionId.toNat := by
  obtain ⟨heq, hnext, -⟩ := h.apart.begun hfew hnew
  refine ⟨?_, by omega⟩
  rintro rfl
  have := h.lt
  rw [heq] at this
  exact Nat.lt_irrefl _ this

/-- A session that is begun and ended at once has a slot of its own. -/
theorem World.Fated.undone (h : w.Fated sid id before) (hfew : w.undone.Few)
    (hnew : (storeSessionBegin w.store).2 ≠ storeSessionInvalid) :
    w.store.nextSessionId.toNat ≤ w.undone.store.nextSessionId.toNat ∧
      [StoreAct.call .begin, .call (.finish (storeSessionBegin w.store).2)].filter
        (·.releases id) = [] := by
  have hbegins : w.undone.begins = w.begins + 1 :=
    begins_append (acts_undone w)
  rw [World.Few, hbegins] at hfew
  obtain ⟨hne, hle⟩ := h.begun hfew hnew
  refine ⟨hle.trans (Nat.le_of_eq ?_), ?_⟩
  · exact congrArg UInt32.toNat (nextSessionId_call (c := .finish (storeSessionBegin w.store).2)
      (StoreCall.begin.apply w.store) rfl).symm
  · simp [StoreAct.releases, StoreCall.releases, StoreCall.session, hne]

theorem nextSessionId_closed (w : World) (sid : Sid) (s : SocksSession) :
    (w.closed sid s).store.nextSessionId = w.store.nextSessionId := by
  show (closeStore w.clock s w.store).nextSessionId = _
  rw [closeStore]
  split
  · split
    · exact nextSessionId_call (c := .markTtlExpired w.clock s.storeId) w.store rfl
    · exact nextSessionId_call (c := .finish s.storeId) w.store rfl
  · rfl

/-- Closing a session releases the slot it has, and no other. -/
theorem filter_closeActs (now : ℕ) (s : SocksSession) (hid : id ≠ storeSessionInvalid) :
    s.storeId = id ∧ (∃ x, (closeActs now s).filter (·.releases id) = [x]) ∨
      s.storeId ≠ id ∧ (closeActs now s).filter (·.releases id) = [] := by
  by_cases heq : s.storeId = id
  · subst heq
    refine .inl ⟨rfl, ?_⟩
    rw [closeActs, if_pos hid]
    split
    · exact ⟨_, List.filter_cons_of_pos (by simp [StoreAct.releases, StoreCall.releases,
        StoreCall.session])⟩
    · exact ⟨_, List.filter_cons_of_pos (by simp [StoreAct.releases, StoreCall.releases,
        StoreCall.session])⟩
  · refine .inr ⟨heq, ?_⟩
    rw [closeActs]
    split
    · split
      · simp [releases_of_ne (c := .markTtlExpired now s.storeId) rfl heq]
      · simp [releases_of_ne (c := .finish s.storeId) rfl heq]
    · rfl

end Fate

/-- **The slot of a session is released once.** -/
theorem tallied_fated {id : UInt32} (hid : id ≠ storeSessionInvalid) (sid : Sid)
    (before : List StoreAct) : Tallied fun w => w.Few → w.Fated sid id before where
  same h hids hn _ hstore hacts hfew := by
    have hacts' := hacts.trans (List.append_nil _).symm
    have hw := h (hfew.of_append hacts')
    exact hw.keep (tallied_apart.same (fun _ => hw.apart) hids hn ‹_› hstore hacts hfew)
      (Nat.le_of_eq hn.symm) (Nat.le_of_eq (by rw [hstore])) (fun _ _ hid => hids ▸ hid)
      (by rw [hids]) hacts' rfl
  described := by
    intro w c h hc hfew
    have hw := h (hfew.of_append rfl)
    obtain ⟨id', hs⟩ := exists_session_of_describes hc
    refine hw.keep (tallied_apart.described (fun _ => hw.apart) hc hfew) (Nat.le_refl _)
      (Nat.le_of_eq ?_) (fun _ _ hid => hid) rfl rfl ?_
    · exact congrArg UInt32.toNat (nextSessionId_call w.store hs).symm
    · simp [releases_of_describes hc]
  refused := by
    intro w sid' s h hs hne hfew
    have hw := h (hfew.of_append rfl)
    have hapart := tallied_apart.refused (fun _ => hw.apart) hs hne hfew
    have hids : (w.refused sid' s).ids = Function.update w.ids sid' (some storeSessionInvalid) :=
      ids_update (show (w.refused sid' s).sessions = Function.update w.sessions sid'
        (some { s with storeId := storeSessionInvalid }) from rfl)
    have hnext : (w.refused sid' s).store.nextSessionId = w.store.nextSessionId :=
      nextSessionId_call (c := .markFailed w.clock s.storeId) w.store rfl
    by_cases heq : sid' = sid
    · subst heq
      refine hw.turn hapart rfl hnext hids rfl fun acts hfate => ?_
      cases hfate with
      | held open_eq none_eq =>
        rw [ids_of_open hs] at open_eq
        cases open_eq
        refine .refused (by rw [hids, Function.update_self]) ⟨w.clock, ?_⟩
        rw [List.filter_append, none_eq, List.nil_append]
        simp [StoreAct.releases, StoreCall.releases, StoreCall.session]
      | refused open_eq once =>
        rw [ids_of_open hs] at open_eq
        exact absurd (Option.some.inj open_eq) hne
      | closed closed_eq once =>
        rw [ids_of_open hs] at closed_eq
        cases closed_eq
    · refine hw.keep hapart (Nat.le_refl _) (Nat.le_of_eq (by rw [hnext])) (fun sid'' _ hid'' => ?_)
        ?_ rfl ?_
      · rw [hids, Function.update_apply] at hid''
        split at hid''
        · exact absurd (Option.some.inj hid'').symm hid
        · exact hid''
      · rw [hids, Function.update_of_ne (Ne.symm heq)]
      · have hother : s.storeId ≠ id := by
          rintro rfl
          exact hw.others sid' heq (ids_of_open hs)
        simp [releases_of_ne (c := .markFailed w.clock s.storeId) rfl hother]
  closed := by
    intro w sid' s h hs hfew
    have hw := h (hfew.of_append rfl)
    have hapart := tallied_apart.closed (fun _ => hw.apart) hs hfew
    have hids : (w.closed sid' s).ids = Function.update w.ids sid' none :=
      ids_update (show (w.closed sid' s).sessions = Function.update w.sessions sid' none from rfl)
    have hnext := nextSessionId_closed w sid' s
    by_cases heq : sid' = sid
    · subst heq
      refine hw.turn hapart rfl hnext hids rfl fun acts hfate => ?_
      have hgone : (w.closed sid' s).ids sid' = none := by rw [hids, Function.update_self]
      cases hfate with
      | held open_eq none_eq =>
        rw [ids_of_open hs] at open_eq
        rcases filter_closeActs w.clock s hid with ⟨-, x, hx⟩ | ⟨hne, -⟩
        · exact .closed hgone ⟨x, by rw [List.filter_append, none_eq, hx, List.nil_append]⟩
        · exact absurd (Option.some.inj open_eq) hne
      | refused open_eq once =>
        rw [ids_of_open hs] at open_eq
        rcases filter_closeActs w.clock s hid with ⟨heq, -⟩ | ⟨-, hnone⟩
        · exact absurd (heq.symm.trans (Option.some.inj open_eq)) hid
        · obtain ⟨now, once⟩ := once
          exact .closed hgone ⟨_, by rw [List.filter_append, once, hnone, List.append_nil]⟩
      | closed closed_eq once =>
        rw [ids_of_open hs] at closed_eq
        cases closed_eq
    · refine hw.keep hapart (Nat.le_refl _) (Nat.le_of_eq (by rw [hnext])) (fun sid'' _ hid'' => ?_)
        ?_ rfl ?_
      · rw [hids, Function.update_apply] at hid''
        split at hid''
        · cases hid''
        · exact hid''
      · rw [hids, Function.update_of_ne (Ne.symm heq)]
      · rcases filter_closeActs w.clock s hid with ⟨hsame, -⟩ | ⟨-, hnone⟩
        · subst hsame
          exact absurd (ids_of_open hs) (hw.others sid' heq)
        · exact hnone
  turnedAway := by
    intro w h hno hfew
    have hw := h (hfew.of_append rfl)
    have hstore : (w.onStore .begin).store = w.store := hw.apart.turnedAway hno
    exact hw.keep (tallied_apart.turnedAway (fun _ => hw.apart) hno hfew) (Nat.le_refl _)
      (Nat.le_of_eq (by rw [hstore])) (fun _ _ hid => hid) rfl rfl rfl
  undone := by
    intro w h hnew hfew
    have hw := h (hfew.of_append (acts_undone w))
    obtain ⟨hnext, hmore⟩ := hw.undone hfew hnew
    exact hw.keep (tallied_apart.undone (fun _ => hw.apart) hnew hfew) (Nat.le_refl _) hnext
      (fun _ _ hid => hid) rfl (acts_undone w) hmore
  discarded := by
    intro w h hnew hfew
    have hw := h (hfew.of_append (acts_undone w))
    obtain ⟨hnext, hmore⟩ := hw.undone hfew hnew
    have hids : w.discarded.ids = Function.update w.ids w.nextSid none :=
      ids_update (show w.discarded.sessions = Function.update w.sessions w.nextSid none from rfl)
    refine hw.keep (tallied_apart.discarded (fun _ => hw.apart) hnew hfew) (Nat.le_succ _) hnext
      (fun sid' _ hid' => ?_) ?_ (acts_undone w) hmore
    · rw [hids, Function.update_apply] at hid'
      split at hid'
      · cases hid'
      · exact hid'
    · rw [hids, Function.update_of_ne (Nat.ne_of_lt hw.old)]
  admitted := by
    intro w s h hnew hs hfew
    have hacts : (w.admitted s).acts = w.acts ++ [.call .begin] := rfl
    have hw := h (hfew.of_append hacts)
    have hbegins : (w.admitted s).begins = w.begins + 1 := begins_append hacts
    have hone : w.begins + 1 < 2 ^ 32 - 1 := hbegins ▸ hfew
    obtain ⟨hne, hnext⟩ := hw.begun hone hnew
    have hids : (w.admitted s).ids = Function.update w.ids w.nextSid (some s.storeId) :=
      ids_update (show (w.admitted s).sessions = Function.update w.sessions w.nextSid (some s) from
        rfl)
    refine hw.keep (tallied_apart.admitted (fun _ => hw.apart) hnew hs hfew) (Nat.le_succ _) hnext
      (fun sid' _ hid' => ?_) ?_ hacts rfl
    · rw [hids, Function.update_apply] at hid'
      split at hid'
      · exact absurd (hs.symm.trans (Option.some.inj hid')) hne
      · exact hid'
    · rw [hids, Function.update_of_ne (Nat.ne_of_lt hw.old)]
  administered op h hfew := by
    have hw := h (hfew.of_append rfl)
    refine hw.keep (tallied_apart.administered op (fun _ => hw.apart) hfew) (Nat.le_refl _)
      (Nat.le_of_eq ?_) (fun _ _ hid => hid) rfl rfl rfl
    exact congrArg UInt32.toNat (actives_admin _ op).2.symm

/-! ## Every reachable world -/

section Reachable

variable [Inet] {w : World}

omit [Inet] in
/-- How `active_sessions` and `concurrent_connections` stand to each other. -/
structure World.CountersAgree (w : World) : Prop where
  /-- `active_sessions` is the number of open connections. -/
  clients : w.activeSessions = w.opens fun _ => true
  /-- `concurrent_connections` is the number of slots, and within the cap. -/
  slots : w.store.metrics.concurrentConnections = w.store.actives fun _ => true
  le_cap : w.store.metrics.concurrentConnections ≤ w.store.sessionsCap
  /-- A slot is held by an open session, and a session that holds one has it. -/
  held : ∀ id, id ≠ storeSessionInvalid → w.store.actives (· == id) = w.opens (· == id)
  /-- There are more connections than slots by the sessions whose slot is released, as long as the
  ids last; after that there can be slots that no session holds. -/
  differ : w.activeSessions + w.store.actives (· == storeSessionInvalid) =
    w.store.metrics.concurrentConnections + w.opens (· == storeSessionInvalid)
  valid : w.Few → w.store.actives (· == storeSessionInvalid) = 0

/-- What becomes of the slots of the open sessions: each is released at most once, by
`store_session_mark_failed` as long as the connection stays open, and exactly once when the session
is closed. -/
def World.SlotsReleasedOnce (w : World) : Prop :=
  ∀ sid s, w.sessions sid = some s → s.storeId ≠ storeSessionInvalid →
    ∀ es w', run step w es = .ok w' → w'.Few →
      ∃ acts, w'.acts = w.acts ++ acts ∧ w'.SlotFate sid s.storeId acts

omit [Inet] in
theorem World.Balanced.countersAgree (h : w.Balanced) (hapart : w.Few → w.Apart) :
    w.CountersAgree where
  clients := h.clients
  slots := by
    rw [h.slots.counted, MonitorStore.actives]
    simp only [Bool.and_true]
  le_cap := h.slots.le_cap
  held id hid := h.held _ (by simpa using Ne.symm hid)
  differ := by
    have hcount : w.store.metrics.concurrentConnections = w.store.actives fun _ => true := by
      rw [h.slots.counted, MonitorStore.actives]
      simp only [Bool.and_true]
    have hheld := h.held (fun id => !(id == storeSessionInvalid)) (by simp)
    rw [h.clients, hcount, actives_split _ (· == storeSessionInvalid),
      opens_split _ (· == storeSessionInvalid)]
    omega
  valid hfew := (hapart hfew).valid

theorem reaches_balanced {listenFd monitorFd : Fd}
    (h : Reaches step (World.boot listenFd monitorFd) w) : w.Balanced := by
  refine h.inv ⟨fun _ _ => rfl, slotsOk_storeCreate, rfl, fun p _ => ?_⟩ fun _ _ _ hw hstep =>
    tallied_balanced.steady.step hw hstep
  show (List.replicate storeSessionsCapDefault StoreSessionNode.zero).countP _ = 0
  rw [List.countP_replicate]
  rfl

theorem reaches_apart {listenFd monitorFd : Fd}
    (h : Reaches step (World.boot listenFd monitorFd) w) : w.Few → w.Apart := by
  refine h.inv (I := fun w => w.Few → w.Apart) (fun _ => ?_) fun _ _ _ hw hstep =>
    tallied_apart.steady.step hw hstep
  have hnext : storeCreate.nextSessionId.toNat = 1 := by decide
  refine ⟨Nat.lt_of_lt_of_eq Nat.one_pos hnext.symm, Nat.le_of_eq hnext, ?_, ?_, ?_⟩
  · intro sid id hid
    cases hid
  · intro sid sid' id _ hid
    cases hid
  show (List.replicate storeSessionsCapDefault StoreSessionNode.zero).countP _ = 0
  rw [List.countP_replicate]
  rfl

theorem slotsReleasedOnce (hbal : w.Balanced) (hapart : w.Few → w.Apart) :
    w.SlotsReleasedOnce := by
  intro sid s hs hid es w' hrun hfew
  have hfated : w'.Few → w'.Fated sid s.storeId w.acts := by
    refine Reaches.inv (I := fun w' => w'.Few → w'.Fated sid s.storeId w.acts) ⟨es, hrun⟩
      (fun hfew => ?_) fun _ _ _ hw hstep => (tallied_fated hid sid w.acts).steady.step hw hstep
    have hw := hapart hfew
    refine ⟨hw, hbal.lt (ids_of_open hs), hw.lt sid _ (ids_of_open hs), fun sid' hne hid' => ?_,
      [], (List.append_nil _).symm, .held (ids_of_open hs) rfl⟩
    exact hne (hw.apart sid' sid _ hid hid' (ids_of_open hs))
  exact (hfated hfew).fate

/-- **The two counters differ by the refused sessions, and every slot is released once**, in every
state of every run. -/
theorem counters_agree (listenFd monitorFd : Fd) (es : List Event) :
    Visits step (fun w => w.CountersAgree ∧ w.SlotsReleasedOnce) (World.boot listenFd monitorFd)
      es := by
  refine visits_of_reaches (fun w h => ?_) es
  have hbal := reaches_balanced h
  have hapart := reaches_apart h
  exact ⟨hbal.countersAgree hapart, slotsReleasedOnce hbal hapart⟩

end Reachable

section Runs

attribute [local instance] InetText.inet

/-- There may be one connection.  Its client asks for a command that there is not and is slow to
take the answer, and another client connects. -/
def overfull : List Event :=
  [.admin (.config .sessionsCap 1 true)] ++ greeted ++
    [.readable 7 { read := [.data [5, 2, 0, 1, 10, 0, 0, 1, 0, 80]], write := [.again] },
      .readable 3 { accept := [some 9] }]

example : endsIn (fun w => w.activeSessions == 2 && w.store.sessionsCap == 1 &&
    w.opens (· == storeSessionInvalid) == 1) (run step (World.boot 3 4) overfull) = true := by
  decide +kernel

end Runs

end SocksProxy
