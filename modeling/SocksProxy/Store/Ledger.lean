import SocksProxy.Lib.Cells
import SocksProxy.Lib.Ring
import SocksProxy.Lib.Runs
import SocksProxy.Store.Calls

/-!
# The books of the store

What `sessions` and `log` are for, said without nodes and rings: a `Ledger` has one `Account` for
each session ever begun, in the order of their ids, and an account says who the session is for,
where it goes, how much it carried, which log entry it was given and how it ended.  `Ledger.keep`
enters a call into the ledger, and `Ledger.allows` is the life cycle of `store.h`: begin, set_user,
set_phase, at most one set_dest, add_bytes, and then one of the three ends,
`store_session_mark_failed` only before the destination is known.

`Audit.Books s J` says that a store keeps its ledger, where `J` is the journal of all entries ever
appended to the log.  The store refers to entries by id and the ring drops the oldest ones, so an
account is compared with its entry only while the ring holds it.
-/

set_option autoImplicit false

namespace SocksProxy

/-! ## Accounts -/

/-- Where a session is in its life. -/
inductive Stage where
  | begun
  /-- It carried bytes before it had a destination. -/
  | carrying
  /-- It has a destination. -/
  | headed
  | ended (state : StoreLogState)
  deriving DecidableEq

/-- Whether the session is over. -/
def Stage.isOver : Stage → Bool
  | .ended _ => true
  | _ => false

/-- What there is to know about a session. -/
structure Account where
  stage : Stage
  user : Bytes
  host : Bytes
  port : UInt16
  /-- The log entry of the session, if it was given one. -/
  logId : UInt32
  up : UInt64
  down : UInt64

/-- The account of a session that was just begun. -/
def Account.opened : Account := ⟨.begun, [], [], 0, storeLogInvalid, 0, 0⟩

/-- The state the log is to show. -/
def Account.shown (a : Account) : StoreLogState :=
  match a.stage with
  | .ended state => state
  | _ => .connected

/-- One account for each session ever begun. -/
abbrev Ledger := List Account

/-- The account of a session. -/
def Ledger.account (L : Ledger) (id : UInt32) : Option Account :=
  if id = storeSessionInvalid then none else L[id.toNat - 1]?

/-- What `store_session_set_dest` returns: `node->log_id`. -/
def storeSessionLogId (st : MonitorStore) (id : UInt32) : UInt32 :=
  match (storeFindSession st id).bind (st.sessions[·]?) with
  | some n => n.logId
  | none => storeLogInvalid

/-- An account after a call about its session. -/
def Account.next (st : MonitorStore) (a : Account) : StoreCall → Account
  | .setUser _ u => { a with user := strncpyTerm u storeMaxUsername }
  | .setDest now id host port =>
    { a with
      stage := .headed, host := strncpyTerm host storeMaxDestHost, port := port
      logId := storeSessionLogId (storeSessionSetDest st now id host port) id }
  | .addBytes _ up down =>
    { a with
      stage := if a.stage = .begun then .carrying else a.stage
      up := a.up + up, down := a.down + down }
  | .markFailed .. => { a with stage := .ended .failed }
  | .finish _ => { a with stage := .ended .closed }
  | .markTtlExpired .. => { a with stage := .ended .ttlExpired }
  | _ => a

/-- The ledger after a call to a store. -/
def Ledger.keep (L : Ledger) (st : MonitorStore) (c : StoreCall) : Ledger :=
  match c.session with
  | some id => if id = storeSessionInvalid then L else L.modify (id.toNat - 1) (·.next st c)
  | none =>
    match c with
    | .begin => if (storeSessionBegin st).2 = storeSessionInvalid then L else L ++ [.opened]
    | _ => L

/-- The stages in which the life cycle has a call. -/
def StoreCall.allowedIn : StoreCall → Stage → Bool
  | .setUser .., stage => stage = .begun
  | .setDest .., stage => stage = .begun
  | .markFailed .., stage => stage = .begun || stage = .carrying
  | _, stage => !stage.isOver

/-- Whether the life cycle has a call. -/
def Ledger.allows (L : Ledger) (c : StoreCall) : Bool :=
  match c.session with
  | some id => (L.account id).any fun a => c.allowedIn a.stage
  | none => true

/-- A store with its ledger. -/
structure Audit where
  store : MonitorStore
  ledger : Ledger

/-- A call to the store, entered into the ledger. -/
def Audit.next (s : Audit) (c : StoreCall) : Audit := ⟨c.apply s.store, s.ledger.keep s.store c⟩

/-- The machine of a store with its ledger. -/
def auditStep (s : Audit) (c : StoreCall) : Except Empty Audit := .ok (s.next c)

/-- A fresh store. -/
def Audit.init : Audit := ⟨storeCreate, []⟩

/-- The life cycle has the call, and the ids have not run out after it. -/
def LifeCycle (s : Audit) (c : StoreCall) : Prop :=
  s.ledger.allows c = true ∧ (s.next c).ledger.length < 2 ^ 32 - 1

instance (s : Audit) (c : StoreCall) : Decidable (LifeCycle s c) :=
  inferInstanceAs (Decidable (_ ∧ _))

/-! ## The journal -/

/-- The entry for an account. -/
structure Account.Shows (a : Account) (e : StoreLogEntry) : Prop where
  user : e.username = a.user
  host : e.host = a.host
  port : e.port = a.port
  up : e.bytesUp = a.up
  down : e.bytesDown = a.down
  state : e.state = a.shown

/-- The account of an active node. -/
structure Account.Live (a : Account) (n : StoreSessionNode) : Prop where
  stage : a.stage.isOver = false
  user : n.info.username = a.user
  host : n.info.host = a.host
  port : n.info.port = a.port
  up : n.info.bytesUp = a.up
  down : n.info.bytesDown = a.down
  logId : n.logId = a.logId
  unheaded : a.stage ≠ .headed → a.host = [] ∧ a.logId = storeLogInvalid
  headed : a.stage = .headed → a.user ≠ [] → a.logId ≠ storeLogInvalid
  unused : a.stage = .begun → a.up = 0 ∧ a.down = 0
  short : a.user.length ≤ storeMaxUsername

/-- The entry with a given number is in the ring. -/
def InRing (J : List StoreLogEntry) (logId : UInt32) : Prop :=
  logId.toNat - 1 < J.length ∧ J.length ≤ logId.toNat - 1 + storeLogCapacity

instance (J : List StoreLogEntry) (logId : UInt32) : Decidable (InRing J logId) :=
  inferInstanceAs (Decidable (_ ∧ _))

/-- The log of the store holds the end of the journal `J`, whose entries are numbered from one. -/
structure MonitorStore.Logs (st : MonitorStore) (J : List StoreLogEntry) : Prop where
  ring : Ring.Repr storeLogCapacity st.log st.logCount st.logHead J
  next : st.nextLogId.toNat = J.length + 1
  numbered : ∀ (k : ℕ) (e : StoreLogEntry), J[k]? = some e → e.id.toNat = k + 1

/-- The store keeps its ledger; `J` are the log entries that were appended. -/
structure Audit.Books (s : Audit) (J : List StoreLogEntry) : Prop where
  logs : s.store.Logs J
  few : s.ledger.length < 2 ^ 32 - 1
  nextId : s.store.nextSessionId.toNat = s.ledger.length + 1
  entries : J.length = s.ledger.countP (·.logId ≠ storeLogInvalid)
  node : ∀ (i : ℕ) (n : StoreSessionNode), s.store.sessions[i]? = some n → n.active = true →
    n.info.id ≠ storeSessionInvalid ∧ ∃ a, s.ledger.account n.info.id = some a ∧ a.Live n
  unique : ∀ (i j : ℕ) (n m : StoreSessionNode), s.store.sessions[i]? = some n →
    s.store.sessions[j]? = some m → n.active = true → m.active = true → n.info.id = m.info.id → i = j
  live : ∀ id a, s.ledger.account id = some a → a.stage.isOver = false →
    ∃ (i : ℕ) (n : StoreSessionNode), s.store.sessions[i]? = some n ∧ n.active = true ∧ n.info.id = id
  entry : ∀ id a, s.ledger.account id = some a → a.logId ≠ storeLogInvalid →
    a.logId.toNat ≤ J.length ∧
      ∀ e, InRing J a.logId → J[a.logId.toNat - 1]? = some e → a.Shows e
  owner : ∀ id id' a a', s.ledger.account id = some a → s.ledger.account id' = some a' →
    a.logId ≠ storeLogInvalid → a.logId = a'.logId → id = id'
  up : s.store.metrics.bytesUp = (s.ledger.map (·.up)).sum
  down : s.store.metrics.bytesDown = (s.ledger.map (·.down)).sum

/-! ## Numbers -/

theorem toNat_ne_zero {id : UInt32} (h : id ≠ 0) : id.toNat ≠ 0 :=
  fun h' => h (UInt32.toNat_inj.1 h')

/-- Different sessions have different places in the ledger. -/
theorem place_inj {id id' : UInt32} (h : id ≠ 0) (h' : id' ≠ 0)
    (he : id.toNat - 1 = id'.toNat - 1) : id = id' := by
  have h1 := toNat_ne_zero h
  have h2 := toNat_ne_zero h'
  exact UInt32.toNat_inj.1 (by omega)

theorem toNat_succ {k : UInt32} {n : ℕ} (h : k.toNat = n + 1) (hlt : n + 2 < 2 ^ 32) :
    (k + 1).toNat = n + 2 := by
  rw [UInt32.toNat_add, h]
  exact Nat.mod_eq_of_lt hlt

theorem account_eq_some {L : Ledger} {id : UInt32} {a : Account} :
    L.account id = some a ↔ id ≠ storeSessionInvalid ∧ L[id.toNat - 1]? = some a := by
  rw [Ledger.account]
  split
  · next h => simp [h]
  · next h => simp [h]

/-- The accounts once one of them is rewritten. -/
theorem account_set {L : Ledger} {id id' : UInt32} {a a' b : Account}
    (ha : L.account id = some a)
    (h : Ledger.account (L.set (id.toNat - 1) a') id' = some b) :
    id' = id ∧ b = a' ∨ id' ≠ id ∧ L.account id' = some b := by
  obtain ⟨h0, hL⟩ := account_eq_some.1 ha
  obtain ⟨h0', hL'⟩ := account_eq_some.1 h
  by_cases he : id' = id
  · subst he
    rw [List.getElem?_set_self (List.getElem?_eq_some_iff.1 hL).1] at hL'
    cases hL'
    exact .inl ⟨rfl, rfl⟩
  · rw [List.getElem?_set_ne fun h => he (place_inj h0 h0' h).symm] at hL'
    exact .inr ⟨he, account_eq_some.2 ⟨h0', hL'⟩⟩

theorem account_set_self {L : Ledger} {id : UInt32} {a : Account} (ha : L.account id = some a)
    (a' : Account) : Ledger.account (L.set (id.toNat - 1) a') id = some a' := by
  obtain ⟨h0, hL⟩ := account_eq_some.1 ha
  exact account_eq_some.2 ⟨h0, List.getElem?_set_self (List.getElem?_eq_some_iff.1 hL).1⟩

/-! ## The log -/

/-- The entry `store_log_append` writes. -/
def MonitorStore.newEntry (st : MonitorStore) (now : ℕ) (username host : Bytes) (port : UInt16)
    (state : StoreLogState) : StoreLogEntry :=
  ⟨st.nextLogId, strncpyTerm username storeMaxUsername, strncpyTerm host storeMaxDestHost, port, now,
    state, 0, 0⟩

/-- The entry `store_log_update` leaves. -/
def StoreLogEntry.marked (e : StoreLogEntry) (state : StoreLogState) (up down : UInt64) :
    StoreLogEntry :=
  { e with state := state, bytesUp := up, bytesDown := down }

/-- The journal after `store_log_update`. -/
def rewritten (J : List StoreLogEntry) (logId : UInt32) (state : StoreLogState)
    (up down : UInt64) : List StoreLogEntry :=
  if InRing J logId then J.modify (logId.toNat - 1) (·.marked state up down) else J

namespace MonitorStore.Logs

variable {st st' : MonitorStore} {J : List StoreLogEntry} {logId : UInt32}

theorem congr (h : st.Logs J) (h1 : st'.log = st.log) (h2 : st'.logCount = st.logCount)
    (h3 : st'.logHead = st.logHead) (h4 : st'.nextLogId = st.nextLogId) : st'.Logs J where
  ring := by rw [h1, h2, h3]; exact h.ring
  next := by rw [h4]; exact h.next
  numbered := h.numbered

theorem append (h : st.Logs J) (hlen : J.length + 2 < 2 ^ 32) (now : ℕ) (u host : Bytes)
    (port : UInt16) (state : StoreLogState) :
    (storeLogAppend st now u host port state).1.Logs (J ++ [st.newEntry now u host port state]) ∧
      (storeLogAppend st now u host port state).2.toNat = J.length + 1 := by
  have hring := h.ring.append (by decide) (st.newEntry now u host port state)
  have hnext :
      (st.nextLogId + 1).toNat = (J ++ [st.newEntry now u host port state]).length + 1 := by
    rw [toNat_succ h.next hlen, List.length_append]
    rfl
  have hnum : ∀ (k : ℕ) (e : StoreLogEntry),
      (J ++ [st.newEntry now u host port state])[k]? = some e → e.id.toNat = k + 1 := by
    intro k e hk
    rcases Nat.lt_or_ge k J.length with hlt | hge
    · rw [List.getElem?_append_left hlt] at hk
      exact h.numbered k e hk
    · obtain ⟨hk1, -⟩ := List.getElem?_eq_some_iff.1 hk
      rw [List.length_append, List.length_singleton] at hk1
      have hkJ : k = J.length := by omega
      subst hkJ
      rw [List.getElem?_concat_length] at hk
      cases hk
      exact h.next
  rw [storeLogAppend]
  rw [Ring.next] at hring
  by_cases hc : st.logCount < storeLogCapacity
  · rw [if_pos hc, if_pos hc, if_pos hc] at hring
    rw [if_pos hc]
    exact ⟨⟨hring, hnext, hnum⟩, h.next⟩
  · rw [if_neg hc, if_neg hc, if_neg hc] at hring
    rw [if_neg hc]
    exact ⟨⟨hring, hnext, hnum⟩, h.next⟩

theorem length_rewritten (state : StoreLogState) (up down : UInt64) :
    (rewritten J logId state up down).length = J.length := by
  rw [rewritten]
  split
  · rw [List.length_modify]
  · rfl

/-- Only the entry with that number is rewritten. -/
theorem getElem?_rewritten {k : ℕ} (hk : k + 1 ≠ logId.toNat) (hid : logId ≠ storeLogInvalid)
    (state : StoreLogState) (up down : UInt64) :
    (rewritten J logId state up down)[k]? = J[k]? := by
  have := toNat_ne_zero hid
  rw [rewritten]
  split
  · exact List.getElem?_modify_ne _ _ (by omega)
  · rfl

theorem update (h : st.Logs J) (hid : logId ≠ storeLogInvalid) (state : StoreLogState)
    (up down : UInt64) :
    (storeLogUpdate st logId state up down).Logs (rewritten J logId state up down) := by
  have h0 := toNat_ne_zero hid
  have hfind := h.ring.findIdx? (by decide) (p := (·.id == logId)) (k := logId.toNat - 1) (by
    intro l e hl
    have hn := h.numbered l e hl
    rw [beq_iff_eq, ← UInt32.toNat_inj]
    omega)
  by_cases hin : InRing J logId
  · rw [if_pos ⟨hin.1, hin.2⟩] at hfind
    have hcount : st.logCount ≠ 0 := by
      intro hc
      rw [hc, List.take_zero] at hfind
      cases hfind
    rw [storeLogUpdate, if_neg (by simp [hid, hcount]), hfind, rewritten, if_pos hin]
    refine ⟨h.ring.modify _ hin.1 hin.2, by rw [List.length_modify]; exact h.next, ?_⟩
    have hlt : logId.toNat - 1 < J.length := hin.1
    intro k e hk
    by_cases hkl : logId.toNat - 1 = k
    · subst hkl
      rw [List.getElem?_modify_eq, List.getElem?_eq_getElem hlt] at hk
      cases hk
      exact h.numbered _ J[logId.toNat - 1] (List.getElem?_eq_getElem hlt)
    · rw [List.getElem?_modify_ne _ _ hkl] at hk
      exact h.numbered k e hk
  · have hout : ¬(logId.toNat - 1 < J.length ∧
        J.length ≤ logId.toNat - 1 + storeLogCapacity) := hin
    rw [if_neg hout] at hfind
    rw [storeLogUpdate, hfind, rewritten, if_neg hin]
    split <;> exact h

end MonitorStore.Logs

/-! ## A call about a session -/

section Session

variable {s : Audit} {J J' : List StoreLogEntry} {id : UInt32} {i : ℕ}
  {n n' : StoreSessionNode} {a a' : Account}

/-- The node of a session that is not over. -/
theorem Audit.Books.find (h : s.Books J) (ha : s.ledger.account id = some a)
    (hover : a.stage.isOver = false) : ∃ i n, s.store.At id i n ∧ a.Live n := by
  obtain ⟨i, n, hn, hact, rfl⟩ := h.live id a ha hover
  obtain ⟨h0, a', ha', hlive⟩ := h.node i n hn hact
  rw [ha] at ha'
  cases ha'
  refine ⟨i, n, at_of_node h0 hn hact rfl fun j m hm hma hme => ?_, hlive⟩
  exact h.unique j i m n hm hn hma hact hme

/-- What a call about one session does: it rewrites the node of the session, its account, and at
most its own entry of the journal. -/
structure Entered (s : Audit) (J : List StoreLogEntry) (id : UInt32) (i : ℕ) (a : Account)
    (n' : StoreSessionNode) (a' : Account) (s' : Audit) (J' : List StoreLogEntry) : Prop where
  sessions : s'.store.sessions = s.store.sessions.set i n'
  nextId : s'.store.nextSessionId = s.store.nextSessionId
  ledger : s'.ledger = s.ledger.set (id.toNat - 1) a'
  logs : s'.store.Logs J'
  id_eq : n'.info.id = id
  live : n'.active = true → a'.Live n'
  ended : n'.active = false → a'.stage.isOver = true
  logId : J'.length = J.length ∧ a'.logId = a.logId ∨
    J'.length = J.length + 1 ∧ a.logId = storeLogInvalid ∧ a'.logId.toNat = J.length + 1
  others : ∀ k, k < J.length → k + 1 ≠ a.logId.toNat → J'[k]? = J[k]?
  shows : ∀ e, a'.logId ≠ storeLogInvalid → InRing J' a'.logId →
    J'[a'.logId.toNat - 1]? = some e → a'.Shows e
  up : ∃ d, a'.up = a.up + d ∧ s'.store.metrics.bytesUp = s.store.metrics.bytesUp + d
  down : ∃ d, a'.down = a.down + d ∧ s'.store.metrics.bytesDown = s.store.metrics.bytesDown + d

/-- The session of another node. -/
theorem Entered.node_of_ne {s' : Audit} (h : Entered s J id i a n' a' s' J') {j : ℕ}
    {m : StoreSessionNode} (hi : i < s.store.sessions.length)
    (hm : s'.store.sessions[j]? = some m) :
    j = i ∧ m = n' ∨ j ≠ i ∧ s.store.sessions[j]? = some m := by
  rw [h.sessions] at hm
  by_cases hj : i = j
  · subst hj
    rw [List.getElem?_set_self hi] at hm
    cases hm
    exact .inl ⟨rfl, rfl⟩
  · rw [List.getElem?_set_ne hj] at hm
    exact .inr ⟨Ne.symm hj, hm⟩

theorem Audit.Books.entered (h : s.Books J) (hat : s.store.At id i n)
    (ha : s.ledger.account id = some a) {s' : Audit} (he : Entered s J id i a n' a' s' J') :
    s'.Books J' := by
  obtain ⟨h0, hplace⟩ := account_eq_some.1 ha
  have hlen : s'.ledger.length = s.ledger.length := by rw [he.ledger, List.length_set]
  have hJ : J.length ≤ J'.length := by
    rcases he.logId with ⟨hl, -⟩ | ⟨hl, -⟩ <;> omega
  -- the active nodes beside the one of the session are those of other sessions
  have hother : ∀ (j : ℕ) (m : StoreSessionNode), s.store.sessions[j]? = some m →
      m.active = true → j ≠ i → m.info.id ≠ id := by
    intro j m hm hma hne hid
    exact hne (h.unique j i m n hm hat.node hma hat.active (hid.trans hat.id_eq.symm))
  have hnew : a'.logId ≠ storeLogInvalid → a'.logId = a.logId ∨
      ∀ id' b, s.ledger.account id' = some b → b.logId ≠ storeLogInvalid →
        b.logId ≠ a'.logId := by
    intro hne
    rcases he.logId with ⟨-, heq⟩ | ⟨-, -, heq⟩
    · exact .inl heq
    · refine .inr fun id' b hb hbne hbeq => ?_
      have := (h.entry id' b hb hbne).1
      rw [hbeq] at this
      omega
  refine ⟨he.logs, by rw [hlen]; exact h.few, by rw [he.nextId, hlen]; exact h.nextId, ?_, ?_, ?_,
    ?_, ?_, ?_, ?_, ?_⟩
  · -- the entries are those of the accounts
    have hcount := countP_set_add (p := fun b : Account => decide (b.logId ≠ storeLogInvalid))
      hplace a'
    rw [he.ledger]
    have hentries := h.entries
    rcases he.logId with ⟨hl, heq⟩ | ⟨hl, hold, heq⟩
    · simp only [heq] at hcount
      omega
    · have hne : a'.logId ≠ storeLogInvalid := by
        intro hz
        rw [hz] at heq
        simp [storeLogInvalid] at heq
      rw [if_neg (by simp [hold]), if_pos (by simp [hne])] at hcount
      omega
  · intro j m hm hma
    rcases he.node_of_ne hat.lt hm with ⟨rfl, rfl⟩ | ⟨hj, hm⟩
    · rw [he.id_eq]
      exact ⟨h0, a', by rw [he.ledger]; exact account_set_self ha a', he.live hma⟩
    · obtain ⟨hm0, b, hb, hlive⟩ := h.node j m hm hma
      refine ⟨hm0, b, ?_, hlive⟩
      have hne := hother j m hm hma hj
      rw [he.ledger]
      obtain ⟨hb0, hbL⟩ := account_eq_some.1 hb
      exact account_eq_some.2 ⟨hb0, by
        rw [List.getElem?_set_ne fun hp => hne (place_inj h0 hb0 hp).symm]; exact hbL⟩
  · intro j k m m' hm hm' hma hma' hid
    rcases he.node_of_ne hat.lt hm with ⟨rfl, rfl⟩ | ⟨hj, hm⟩
    · rcases he.node_of_ne hat.lt hm' with ⟨rfl, rfl⟩ | ⟨hk, hm'⟩
      · rfl
      · exact absurd (hid.symm.trans he.id_eq) (hother k m' hm' hma' hk)
    · rcases he.node_of_ne hat.lt hm' with ⟨rfl, rfl⟩ | ⟨hk, hm'⟩
      · exact absurd (hid.trans he.id_eq) (hother j m hm hma hj)
      · exact h.unique j k m m' hm hm' hma hma' hid
  · intro id' b hb hover
    rw [he.ledger] at hb
    rcases account_set ha hb with ⟨rfl, rfl⟩ | ⟨hne, hb⟩
    · refine ⟨i, n', by rw [he.sessions]; exact List.getElem?_set_self hat.lt, ?_, he.id_eq⟩
      by_contra hact
      rw [he.ended (by simpa using hact)] at hover
      cases hover
    · obtain ⟨j, m, hm, hma, rfl⟩ := h.live id' b hb hover
      refine ⟨j, m, ?_, hma, rfl⟩
      rw [he.sessions, List.getElem?_set_ne]
      · exact hm
      · rintro rfl
        rw [hat.node] at hm
        cases hm
        exact hne hat.id_eq
  · intro id' b hb hbne
    rw [he.ledger] at hb
    rcases account_set ha hb with ⟨rfl, rfl⟩ | ⟨hne, hb⟩
    · refine ⟨?_, fun e => he.shows e hbne⟩
      rcases he.logId with ⟨hl, heq⟩ | ⟨hl, -, heq⟩
      · rw [heq] at hbne ⊢
        have := (h.entry _ a ha hbne).1
        omega
      · omega
    · obtain ⟨hle, hsh⟩ := h.entry id' b hb hbne
      have hb0 := toNat_ne_zero hbne
      refine ⟨by omega, fun e hin hk => ?_⟩
      rw [he.others _ (by omega)] at hk
      · refine hsh e ⟨by omega, ?_⟩ hk
        have := hin.2
        omega
      · intro hown
        have hsame : b.logId = a.logId := UInt32.toNat_inj.1 (by omega)
        exact hne (h.owner id' id b a hb ha hbne hsame)
  · intro id₁ id₂ b₁ b₂ hb₁ hb₂ hne heq
    rw [he.ledger] at hb₁ hb₂
    rcases account_set ha hb₁ with ⟨rfl, rfl⟩ | ⟨-, hb₁'⟩
    · rcases account_set ha hb₂ with ⟨rfl, rfl⟩ | ⟨-, hb₂'⟩
      · rfl
      · rcases hnew hne with hold | hfresh
        · exact h.owner _ _ a b₂ ha hb₂' (hold ▸ hne) (hold ▸ heq)
        · exact absurd heq.symm (hfresh _ _ hb₂' (heq ▸ hne))
    · rcases account_set ha hb₂ with ⟨rfl, rfl⟩ | ⟨-, hb₂'⟩
      · rcases hnew (heq ▸ hne) with hold | hfresh
        · exact h.owner _ _ b₁ a hb₁' ha hne (heq.trans hold)
        · exact absurd heq (hfresh _ _ hb₁' hne)
      · exact h.owner _ _ b₁ b₂ hb₁' hb₂' hne heq
  · obtain ⟨d, hd, hm⟩ := he.up
    rw [hm, h.up, he.ledger, List.map_set, hd, sum_set_add (by rw [List.getElem?_map, hplace]; rfl)]
  · obtain ⟨d, hd, hm⟩ := he.down
    rw [hm, h.down, he.ledger, List.map_set, hd, sum_set_add (by rw [List.getElem?_map, hplace]; rfl)]

end Session

end SocksProxy
