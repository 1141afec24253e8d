import Mathlib.Data.List.Count
import SocksProxy.Store.Ledger

/-!
# Every call of the life cycle keeps the books

One lemma for each call: what it rewrites is the node of its session, the account of its session
and, when the session has one, its entry in the journal (`Entered`).  A failed session and a session
that expires before it has a destination leave no entry, because the store has no host to show for
them.
-/

set_option autoImplicit false

namespace SocksProxy

namespace Audit.Books

variable {s : Audit} {J : List StoreLogEntry} {id : UInt32} {i : ℕ} {n : StoreSessionNode}
  {a : Account} {c : StoreCall}

/-! ## Preliminaries -/

/-- A session is still found after its node is rewritten. -/
theorem at_of_set {st st' : MonitorStore} {n' : StoreSessionNode} (hat : st.At id i n)
    (hs : st'.sessions = st.sessions.set i n') (ha : n'.active = true) (hid : n'.info.id = id) :
    st'.At id i n' := by
  have hi : i < st'.sessions.length := by rw [hs, List.length_set]; exact hat.lt
  have hn : st'.sessions[i]? = some n' := by rw [hs]; exact List.getElem?_set_self hat.lt
  refine ⟨?_, hn, hat.valid, ha, hid⟩
  have hfind := hat.find
  rw [storeFindSession, if_neg hat.valid, List.findIdx?_eq_some_iff_getElem] at hfind ⊢
  obtain ⟨hlt, -, hbefore⟩ := hfind
  refine ⟨hi, ?_, fun j hj => ?_⟩
  · rw [(List.getElem?_eq_some_iff.1 hn).2, ha, hid]
    simp
  · have hget : st'.sessions[j] = st.sessions[j] := by
      simp only [hs]
      exact List.getElem_set_ne (Nat.ne_of_gt hj) _
    rw [hget]
    exact hbefore j hj

theorem logId_of_at {st : MonitorStore} (hat : st.At id i n) :
    storeSessionLogId st id = n.logId := by
  rw [storeSessionLogId, hat.find, Option.bind_some, hat.node]

/-- The account of the session a call is about. -/
theorem account_of_allows (hc : c.session = some id) (hl : s.ledger.allows c = true) :
    ∃ a, s.ledger.account id = some a ∧ c.allowedIn a.stage = true := by
  rw [Ledger.allows, hc] at hl
  exact (Option.any_eq_true _ _).1 hl

theorem keep_eq (hc : c.session = some id) (ha : s.ledger.account id = some a) :
    s.ledger.keep s.store c = s.ledger.set (id.toNat - 1) (a.next s.store c) := by
  obtain ⟨h0, hplace⟩ := account_eq_some.1 ha
  simp only [Ledger.keep, hc, if_neg h0]
  rw [modify_eq_set_of_getElem? hplace]

/-- There is a number left for the entry of a session that has none. -/
theorem length_lt (h : s.Books J) (ha : s.ledger.account id = some a)
    (hno : a.logId = storeLogInvalid) : J.length + 2 < 2 ^ 32 := by
  have hmem : a ∈ s.ledger := List.mem_of_getElem? (account_eq_some.1 ha).2
  have hlt : s.ledger.countP (fun b : Account => decide (b.logId ≠ storeLogInvalid)) <
      s.ledger.length := List.countP_lt_length_iff.2 ⟨a, hmem, by simp [hno]⟩
  have h1 := h.entries
  have h2 := h.few
  omega

/-- The entry of an account, rewritten. -/
theorem shows_rewritten (h : s.Books J) (ha : s.ledger.account id = some a)
    (hne : a.logId ≠ storeLogInvalid) (a' : Account) {state : StoreLogState} {up down : UInt64}
    (hu : a'.user = a.user) (hh : a'.host = a.host) (hp : a'.port = a.port)
    (hl : a'.logId = a.logId) (hup : up = a'.up) (hdown : down = a'.down) (hst : state = a'.shown)
    (e : StoreLogEntry) (hin : InRing (rewritten J a.logId state up down) a'.logId)
    (he : (rewritten J a.logId state up down)[a'.logId.toNat - 1]? = some e) : a'.Shows e := by
  rw [hl] at hin he
  have hin' : InRing J a.logId := by
    simpa only [InRing, MonitorStore.Logs.length_rewritten] using hin
  have hlt : a.logId.toNat - 1 < J.length := hin'.1
  rw [rewritten, if_pos hin', List.getElem?_modify_eq, List.getElem?_eq_getElem hlt] at he
  cases he
  have hold := (h.entry id a ha hne).2 _ hin' (List.getElem?_eq_getElem hlt)
  exact ⟨hold.user.trans hu.symm, hold.host.trans hh.symm, hold.port.trans hp.symm, hup, hdown, hst⟩

theorem shown_of_not_over (h : a.stage.isOver = false) : a.shown = .connected := by
  rw [Account.shown]
  split
  · next hst => rw [hst] at h; cases h
  · rfl

/-- The store has nothing to show for a session without an entry. -/
theorem nothing_to_show (hlive : a.Live n) (hno : n.logId = storeLogInvalid) :
    ¬(n.info.username ≠ [] ∧ n.info.host ≠ []) := by
  rintro ⟨hu, hh⟩
  by_cases hst : a.stage = .headed
  · exact hlive.headed hst (hlive.user ▸ hu) (hlive.logId ▸ hno)
  · exact hh (hlive.host.trans (hlive.unheaded hst).1)

/-! ## The calls -/

section Calls

variable (h : s.Books J) (hat : s.store.At id i n) (ha : s.ledger.account id = some a)
  (hlive : a.Live n)

include h hat ha hlive

theorem entered_setUser (u : Bytes) (hst : a.stage = .begun) :
    ∃ n' a' J', Entered s J id i a n' a' (s.next (.setUser id u)) J' := by
  have hun := hlive.unheaded (by rw [hst]; simp)
  refine ⟨{ n with info := { n.info with username := strncpyTerm u storeMaxUsername } },
    { a with user := strncpyTerm u storeMaxUsername }, J, ?_⟩
  have hstore : (s.next (.setUser id u)).store = _ := hat.setUser_eq u
  exact {
    sessions := by
      rw [hstore, sessions_modifySession, modify_eq_set_of_getElem? hat.node]
    nextId := by rw [hstore]; rfl
    ledger := keep_eq (c := .setUser id u) rfl ha
    logs := by rw [hstore]; exact h.logs.congr rfl rfl rfl rfl
    id_eq := hat.id_eq
    live := fun _ => { hlive with user := rfl, headed := by simp [hst], short := List.length_take_le .. }
    ended := fun hf => absurd (hat.active.symm.trans hf) (by decide)
    logId := .inl ⟨rfl, rfl⟩
    others := fun _ _ _ => rfl
    shows := fun e hne => absurd hun.2 hne
    up := ⟨0, (UInt64.add_zero _).symm, by rw [hstore]; exact (UInt64.add_zero _).symm⟩
    down := ⟨0, (UInt64.add_zero _).symm, by rw [hstore]; exact (UInt64.add_zero _).symm⟩ }

theorem entered_setPhase (p : StoreSessionPhase) :
    ∃ n' a' J', Entered s J id i a n' a' (s.next (.setPhase id p)) J' := by
  refine ⟨{ n with info := { n.info with phase := p } }, a, J, ?_⟩
  have hstore : (s.next (.setPhase id p)).store = _ := hat.setPhase_eq p
  exact {
    sessions := by
      rw [hstore, sessions_modifySession, modify_eq_set_of_getElem? hat.node]
    nextId := by rw [hstore]; rfl
    ledger := keep_eq (c := .setPhase id p) rfl ha
    logs := by rw [hstore]; exact h.logs.congr rfl rfl rfl rfl
    id_eq := hat.id_eq
    live := fun _ => { hlive with }
    ended := fun hf => absurd (hat.active.symm.trans hf) (by decide)
    logId := .inl ⟨rfl, rfl⟩
    others := fun _ _ _ => rfl
    shows := fun e hne => (h.entry id a ha hne).2 e
    up := ⟨0, (UInt64.add_zero _).symm, by rw [hstore]; exact (UInt64.add_zero _).symm⟩
    down := ⟨0, (UInt64.add_zero _).symm, by rw [hstore]; exact (UInt64.add_zero _).symm⟩ }

theorem entered_setDest (now : ℕ) (host : Bytes) (port : UInt16) (hst : a.stage = .begun) :
    ∃ n' a' J', Entered s J id i a n' a' (s.next (.setDest now id host port)) J' := by
  have hun := hlive.unheaded (by rw [hst]; simp)
  have hfresh := hlive.unused hst
  have hstore : (s.next (.setDest now id host port)).store = _ := hat.setDest_eq now host port
  have hledger := keep_eq (c := .setDest now id host port) rfl ha
  have hheaded : (s.store.modifySession i (·.headed host port)).Logs J :=
    h.logs.congr rfl rfl rfl rfl
  have hnode : (s.store.modifySession i (·.headed host port)).sessions =
      s.store.sessions.set i (n.headed host port) := by
    rw [sessions_modifySession, modify_eq_set_of_getElem? hat.node]
  by_cases hu : n.info.username = []
  · -- nobody to show the entry for
    simp only [if_pos hu] at hstore
    have hat' : (s.next (.setDest now id host port)).store.At id i (n.headed host port) :=
      at_of_set hat (by rw [hstore]; exact hnode) hat.active hat.id_eq
    have hlog : storeSessionLogId (storeSessionSetDest s.store now id host port) id =
        (n.headed host port).logId := logId_of_at hat'
    refine ⟨n.headed host port, a.next s.store (.setDest now id host port), J, ?_⟩
    exact {
      sessions := by rw [hstore]; exact hnode
      nextId := by rw [hstore]; rfl
      ledger := hledger
      logs := by rw [hstore]; exact hheaded
      id_eq := hat.id_eq
      live := fun _ => {
        stage := rfl, user := hlive.user, host := rfl, port := rfl, up := hlive.up
        down := hlive.down, logId := hlog.symm, unheaded := fun hne => absurd rfl hne
        headed := fun _ hne => absurd (hlive.user.symm.trans hu) hne
        unused := nofun, short := hlive.short }
      ended := fun hf => absurd (hat.active.symm.trans hf) (by decide)
      logId := .inl ⟨rfl, hlog.trans hlive.logId⟩
      others := fun _ _ _ => rfl
      shows := fun e hne => absurd ((hlog.trans hlive.logId).trans hun.2) hne
      up := ⟨0, (UInt64.add_zero _).symm, by rw [hstore]; exact (UInt64.add_zero _).symm⟩
      down := ⟨0, (UInt64.add_zero _).symm, by rw [hstore]; exact (UInt64.add_zero _).symm⟩ }
  · simp only [if_neg hu] at hstore
    obtain ⟨hlogs, hnum⟩ := hheaded.append (h.length_lt ha hun.2) now n.info.username host port
      .connected
    obtain ⟨r, hr⟩ : ∃ r, storeLogAppend (s.store.modifySession i (·.headed host port)) now
      n.info.username host port .connected = r := ⟨_, rfl⟩
    have hrs : r.1.sessions = s.store.sessions.set i (n.headed host port) := by
      rw [← hr, sessions_storeLogAppend, hnode]
    have hrm : r.1.metrics = s.store.metrics := by rw [← hr, metrics_storeLogAppend]; rfl
    have hrid : r.1.nextSessionId = s.store.nextSessionId := by
      rw [← hr, nextSessionId_storeLogAppend]; rfl
    rw [hr] at hstore hlogs hnum
    have hsessions : (s.next (.setDest now id host port)).store.sessions =
        s.store.sessions.set i { n.headed host port with logId := r.2 } := by
      rw [hstore, sessions_modifySession, hrs,
        modify_eq_set_of_getElem? (List.getElem?_set_self hat.lt), List.set_set]
    have hlog : storeSessionLogId (storeSessionSetDest s.store now id host port) id = r.2 :=
      logId_of_at (at_of_set hat hsessions hat.active hat.id_eq)
    refine ⟨{ n.headed host port with logId := r.2 },
      a.next s.store (.setDest now id host port),
      J ++ [(s.store.modifySession i (·.headed host port)).newEntry now n.info.username host port
        .connected], ?_⟩
    exact {
      sessions := hsessions
      nextId := by rw [hstore]; exact hrid
      ledger := hledger
      logs := by rw [hstore]; exact hlogs.congr rfl rfl rfl rfl
      id_eq := hat.id_eq
      live := fun _ => {
        stage := rfl, user := hlive.user, host := rfl, port := rfl, up := hlive.up
        down := hlive.down, logId := hlog.symm, unheaded := fun hne => absurd rfl hne
        headed := fun _ _ hz => by
          have hz : storeSessionLogId (storeSessionSetDest s.store now id host port) id =
            storeLogInvalid := hz
          rw [← hlog, hz] at hnum
          simp [storeLogInvalid] at hnum
        unused := nofun, short := hlive.short }
      ended := fun hf => absurd (hat.active.symm.trans hf) (by decide)
      logId := .inr ⟨by simp, hun.2, (congrArg UInt32.toNat hlog).trans hnum⟩
      others := fun k hk _ => List.getElem?_append_left hk
      shows := fun e _ _ he => by
        have hplace : (Account.next s.store a (.setDest now id host port)).logId.toNat - 1 =
            J.length := by
          rw [show (Account.next s.store a (.setDest now id host port)).logId.toNat = _ from
            (congrArg UInt32.toNat hlog).trans hnum]
          rfl
        rw [hplace, List.getElem?_concat_length] at he
        cases he
        exact {
          user := (List.take_of_length_le (hlive.user ▸ hlive.short)).trans hlive.user
          host := rfl, port := rfl, up := hfresh.1.symm, down := hfresh.2.symm, state := rfl }
      up := ⟨0, (UInt64.add_zero _).symm, by
        rw [hstore]
        exact (congrArg StoreMetrics.bytesUp hrm).trans (UInt64.add_zero _).symm⟩
      down := ⟨0, (UInt64.add_zero _).symm, by
        rw [hstore]
        exact (congrArg StoreMetrics.bytesDown hrm).trans (UInt64.add_zero _).symm⟩ }

theorem entered_addBytes (up down : UInt64) :
    ∃ n' a' J', Entered s J id i a n' a' (s.next (.addBytes id up down)) J' := by
  have hstore : (s.next (.addBytes id up down)).store = _ := hat.addBytes_eq up down
  have hledger := keep_eq (c := .addBytes id up down) rfl ha
  have hnode : (s.store.modifySession i (·.carried up down)).sessions =
      s.store.sessions.set i (n.carried up down) := by
    rw [sessions_modifySession, modify_eq_set_of_getElem? hat.node]
  have hlive' : (Account.next s.store a (.addBytes id up down)).Live (n.carried up down) := by
    have hover := hlive.stage
    refine {
      stage := ?_, user := hlive.user, host := hlive.host, port := hlive.port
      up := congrArg (· + up) hlive.up, down := congrArg (· + down) hlive.down
      logId := hlive.logId, unheaded := ?_, headed := ?_, unused := ?_, short := hlive.short }
    · show (if a.stage = .begun then Stage.carrying else a.stage).isOver = false
      split
      · rfl
      · exact hover
    · intro hne
      refine hlive.unheaded fun hst => hne ?_
      show (if a.stage = .begun then Stage.carrying else a.stage) = .headed
      rw [hst, if_neg (by simp)]
    · intro hst
      refine hlive.headed ?_
      have hst : (if a.stage = .begun then Stage.carrying else a.stage) = .headed := hst
      split at hst
      · cases hst
      · exact hst
    · intro hst
      have hst : (if a.stage = .begun then Stage.carrying else a.stage) = .begun := hst
      split at hst
      · cases hst
      · contradiction
  by_cases hl : n.logId = storeLogInvalid
  · simp only [if_pos hl] at hstore
    refine ⟨n.carried up down, a.next s.store (.addBytes id up down), J, ?_⟩
    exact {
      sessions := by rw [hstore]; exact hnode
      nextId := by rw [hstore]; rfl
      ledger := hledger
      logs := by rw [hstore]; exact h.logs.congr rfl rfl rfl rfl
      id_eq := hat.id_eq
      live := fun _ => hlive'
      ended := fun hf => absurd (hat.active.symm.trans hf) (by decide)
      logId := .inl ⟨rfl, rfl⟩
      others := fun _ _ _ => rfl
      shows := fun e hne => absurd (hlive.logId.symm.trans hl) hne
      up := ⟨up, rfl, by rw [hstore]⟩
      down := ⟨down, rfl, by rw [hstore]⟩ }
  · simp only [if_neg hl] at hstore
    have hne : a.logId ≠ storeLogInvalid := hlive.logId ▸ hl
    refine ⟨n.carried up down, a.next s.store (.addBytes id up down),
      rewritten J a.logId .connected (n.info.bytesUp + up) (n.info.bytesDown + down), ?_⟩
    exact {
      sessions := by rw [hstore, sessions_storeLogUpdate]; exact hnode
      nextId := by rw [hstore]; exact nextSessionId_storeLogUpdate ..
      ledger := hledger
      logs := by
        rw [hstore, hlive.logId]
        refine MonitorStore.Logs.update ?_ hne ..
        exact h.logs.congr rfl rfl rfl rfl
      id_eq := hat.id_eq
      live := fun _ => hlive'
      ended := fun hf => absurd (hat.active.symm.trans hf) (by decide)
      logId := .inl ⟨MonitorStore.Logs.length_rewritten .., rfl⟩
      others := fun k _ hk => MonitorStore.Logs.getElem?_rewritten hk hne ..
      shows := fun e _ => h.shows_rewritten ha hne (a.next s.store (.addBytes id up down)) rfl rfl
        rfl rfl (congrArg (· + up) hlive.up) (congrArg (· + down) hlive.down)
        (shown_of_not_over hlive'.stage).symm e
      up := ⟨up, rfl, by rw [hstore, metrics_storeLogUpdate]⟩
      down := ⟨down, rfl, by rw [hstore, metrics_storeLogUpdate]⟩ }

omit hlive in
/-- A session ends without an entry of its own. -/
theorem entered_release {state : StoreLogState} (hno : a.logId = storeLogInvalid)
    (hc : c.session = some id) (hnext : a.next s.store c = { a with stage := .ended state })
    (hstore : c.apply s.store = s.store.release i) :
    ∃ n' a' J', Entered s J id i a n' a' (s.next c) J' := by
  have hstore : (s.next c).store = s.store.release i := hstore
  refine ⟨n.released, { a with stage := .ended state }, J, ?_⟩
  exact {
    sessions := by rw [hstore]; exact modify_eq_set_of_getElem? hat.node _
    nextId := by rw [hstore]; rfl
    ledger := (keep_eq hc ha).trans (by rw [hnext])
    logs := by rw [hstore]; exact h.logs.congr rfl rfl rfl rfl
    id_eq := hat.id_eq
    live := nofun
    ended := fun _ => rfl
    logId := .inl ⟨rfl, rfl⟩
    others := fun _ _ _ => rfl
    shows := fun e hne => absurd hno hne
    up := ⟨0, (UInt64.add_zero _).symm, by rw [hstore]; exact (UInt64.add_zero _).symm⟩
    down := ⟨0, (UInt64.add_zero _).symm, by rw [hstore]; exact (UInt64.add_zero _).symm⟩ }

/-- A session ends, and its entry says how. -/
theorem entered_update {state : StoreLogState} (hne : n.logId ≠ storeLogInvalid)
    (hc : c.session = some id) (hnext : a.next s.store c = { a with stage := .ended state })
    (hstore : c.apply s.store =
      (storeLogUpdate s.store n.logId state n.info.bytesUp n.info.bytesDown).release i) :
    ∃ n' a' J', Entered s J id i a n' a' (s.next c) J' := by
  have hne' : a.logId ≠ storeLogInvalid := hlive.logId ▸ hne
  have hstore : (s.next c).store = _ := hstore
  refine ⟨n.released, { a with stage := .ended state },
    rewritten J a.logId state n.info.bytesUp n.info.bytesDown, ?_⟩
  exact {
    sessions := by
      rw [hstore]
      show (storeLogUpdate ..).sessions.modify i StoreSessionNode.released = _
      rw [sessions_storeLogUpdate]
      exact modify_eq_set_of_getElem? hat.node _
    nextId := by rw [hstore]; exact nextSessionId_storeLogUpdate ..
    ledger := (keep_eq hc ha).trans (by rw [hnext])
    logs := by
      rw [hstore, hlive.logId]
      exact MonitorStore.Logs.congr (h.logs.update hne' ..) rfl rfl rfl rfl
    id_eq := hat.id_eq
    live := nofun
    ended := fun _ => rfl
    logId := .inl ⟨MonitorStore.Logs.length_rewritten .., rfl⟩
    others := fun k _ hk => MonitorStore.Logs.getElem?_rewritten hk hne' ..
    shows := fun e _ => h.shows_rewritten ha hne' { a with stage := .ended state } rfl rfl rfl rfl
      hlive.up hlive.down rfl e
    up := ⟨0, (UInt64.add_zero _).symm, by
      rw [hstore]
      show (storeLogUpdate ..).metrics.bytesUp = _
      rw [metrics_storeLogUpdate]
      exact (UInt64.add_zero _).symm⟩
    down := ⟨0, (UInt64.add_zero _).symm, by
      rw [hstore]
      show (storeLogUpdate ..).metrics.bytesDown = _
      rw [metrics_storeLogUpdate]
      exact (UInt64.add_zero _).symm⟩ }

end Calls

/-- **A call of the life cycle rewrites what belongs to its session.** -/
theorem exists_entered (h : s.Books J) (hc : c.session = some id)
    (hl : s.ledger.allows c = true) : ∃ i n a n' a' J', s.store.At id i n ∧
      s.ledger.account id = some a ∧ Entered s J id i a n' a' (s.next c) J' := by
  obtain ⟨a, ha, hallow⟩ := account_of_allows hc hl
  have hover : a.stage.isOver = false := by
    cases hst : a.stage with
    | ended state => rw [hst] at hallow; cases c <;> simp [StoreCall.allowedIn, Stage.isOver] at hallow
    | _ => rfl
  obtain ⟨i, n, hat, hlive⟩ := h.find ha hover
  suffices hsuff : ∃ n' a' J', Entered s J id i a n' a' (s.next c) J' by
    obtain ⟨n', a', J', he⟩ := hsuff
    exact ⟨i, n, a, n', a', J', hat, ha, he⟩
  cases c with
  | begin => cases hc
  | configSet => cases hc
  | setUser =>
    cases hc
    exact h.entered_setUser hat ha hlive _ (by simpa [StoreCall.allowedIn] using hallow)
  | setPhase => cases hc; exact h.entered_setPhase hat ha hlive _
  | setDest =>
    cases hc
    exact h.entered_setDest hat ha hlive _ _ _ (by simpa [StoreCall.allowedIn] using hallow)
  | addBytes => cases hc; exact h.entered_addBytes hat ha hlive _ _
  | markFailed now =>
    cases hc
    have hun := hlive.unheaded (by
      rintro hst
      rw [hst] at hallow
      simp [StoreCall.allowedIn] at hallow)
    refine h.entered_release hat ha hun.2 rfl rfl ?_
    exact (hat.markFailed_eq now).trans
      (if_neg (nothing_to_show hlive (hlive.logId.trans hun.2)))
  | finish =>
    cases hc
    by_cases hno : n.logId = storeLogInvalid
    · refine h.entered_release hat ha (hlive.logId ▸ hno) rfl rfl ?_
      exact hat.finish_eq.trans (if_neg (not_not.2 hno))
    · exact h.entered_update hat ha hlive hno rfl rfl (hat.finish_eq.trans (if_pos hno))
  | markTtlExpired now =>
    cases hc
    by_cases hno : n.logId = storeLogInvalid
    · refine h.entered_release hat ha (hlive.logId ▸ hno) rfl rfl ?_
      exact ((hat.markTtlExpired_eq now).trans (if_neg (not_not.2 hno))).trans
        (if_neg (nothing_to_show hlive hno))
    · exact h.entered_update hat ha hlive hno rfl rfl ((hat.markTtlExpired_eq now).trans
        (if_pos hno))

/-! ## The other calls -/

theorem live_opened (id : UInt32) : Account.opened.Live (.opened id) where
  stage := rfl
  user := rfl
  host := rfl
  port := rfl
  up := rfl
  down := rfl
  logId := rfl
  unheaded := fun _ => ⟨rfl, rfl⟩
  headed := nofun
  unused := fun _ => ⟨rfl, rfl⟩
  short := Nat.zero_le _

/-- The accounts once a session is begun. -/
theorem account_concat {L : Ledger} {id : UInt32} {b : Account}
    (hb : Ledger.account (L ++ [.opened]) id = some b) :
    L.account id = some b ∨ id.toNat = L.length + 1 ∧ b = .opened := by
  obtain ⟨h0, hL⟩ := account_eq_some.1 hb
  have h0' := toNat_ne_zero h0
  rcases Nat.lt_or_ge (id.toNat - 1) L.length with hlt | hge
  · rw [List.getElem?_append_left hlt] at hL
    exact .inl (account_eq_some.2 ⟨h0, hL⟩)
  · obtain ⟨hlen, -⟩ := List.getElem?_eq_some_iff.1 hL
    rw [List.length_append, List.length_singleton] at hlen
    have hid : id.toNat - 1 = L.length := by omega
    rw [hid, List.getElem?_concat_length] at hL
    exact .inr ⟨by omega, (Option.some.inj hL).symm⟩

theorem account_append {L : Ledger} {id : UInt32} {b : Account} (hb : L.account id = some b)
    (L' : Ledger) : Ledger.account (L ++ L') id = some b := by
  obtain ⟨h0, hL⟩ := account_eq_some.1 hb
  exact account_eq_some.2 ⟨h0, by
    rw [List.getElem?_append_left (List.getElem?_eq_some_iff.1 hL).1]; exact hL⟩

theorem begin_books (h : s.Books J) (hfew : (s.next .begin).ledger.length < 2 ^ 32 - 1) :
    (s.next .begin).Books J := by
  have hid0 : s.store.nextSessionId ≠ storeSessionInvalid := by
    intro hz
    have := h.nextId
    rw [hz] at this
    simp [storeSessionInvalid] at this
  rcases storeSessionBegin_cases s.store with ⟨hr, -⟩ | ⟨i, n, -, -, hn, hidle, hr⟩
  · have hs : s.next .begin = s := by
      simp only [Audit.next, StoreCall.apply, Ledger.keep, StoreCall.session, hr, if_true]
    rw [hs]
    exact h
  · have hs : s.next .begin = ⟨s.store.begun i, s.ledger ++ [.opened]⟩ := by
      simp only [Audit.next, StoreCall.apply, Ledger.keep, StoreCall.session, hr, if_neg hid0]
    rw [hs] at hfew ⊢
    have hi : i < s.store.sessions.length := (List.getElem?_eq_some_iff.1 hn).1
    -- the nodes are the old ones beside the new one
    have hnode : ∀ (j : ℕ) (m : StoreSessionNode), (s.store.begun i).sessions[j]? = some m →
        m.active = true → j = i ∧ m = .opened s.store.nextSessionId ∨
          j ≠ i ∧ s.store.sessions[j]? = some m := by
      intro j m hm hma
      have hm : (s.store.sessions.set i _)[j]? = some m := hm
      by_cases hj : i = j
      · subst hj
        rw [List.getElem?_set_self hi] at hm
        exact .inl ⟨rfl, (Option.some.inj hm).symm⟩
      · rw [List.getElem?_set_ne hj] at hm
        exact .inr ⟨Ne.symm hj, hm⟩
    have hold : ∀ (j : ℕ) (m : StoreSessionNode), s.store.sessions[j]? = some m →
        m.active = true → m.info.id ≠ s.store.nextSessionId := by
      intro j m hm hma he
      obtain ⟨-, b, hb, -⟩ := h.node j m hm hma
      have hlt := (List.getElem?_eq_some_iff.1 (account_eq_some.1 hb).2).1
      have := h.nextId
      rw [he] at hlt
      omega
    have hlen : (s.ledger ++ [Account.opened]).length = s.ledger.length + 1 := by simp
    refine ⟨h.logs.congr rfl rfl rfl rfl, hfew, ?_, ?_, ?_, ?_, ?_, ?_, ?_, ?_, ?_⟩
    · show (s.store.nextSessionId + 1).toNat = _
      rw [toNat_succ h.nextId (by rw [hlen] at hfew; omega), hlen]
    · rw [List.countP_append]
      exact h.entries
    · intro j m hm hma
      rcases hnode j m hm hma with ⟨rfl, rfl⟩ | ⟨-, hm⟩
      · refine ⟨hid0, .opened, account_eq_some.2 ⟨hid0, ?_⟩, live_opened _⟩
        show (s.ledger ++ [Account.opened])[s.store.nextSessionId.toNat - 1]? = _
        rw [h.nextId, Nat.add_sub_cancel, List.getElem?_concat_length]
      · obtain ⟨h0, b, hb, hlive⟩ := h.node j m hm hma
        exact ⟨h0, b, account_append hb _, hlive⟩
    · intro j k m m' hm hm' hma hma' he
      rcases hnode j m hm hma with ⟨rfl, rfl⟩ | ⟨-, hmo⟩
      · rcases hnode k m' hm' hma' with ⟨rfl, -⟩ | ⟨-, hmo'⟩
        · rfl
        · exact absurd he.symm (hold k m' hmo' hma')
      · rcases hnode k m' hm' hma' with ⟨rfl, rfl⟩ | ⟨-, hmo'⟩
        · exact absurd he (hold j m hmo hma)
        · exact h.unique j k m m' hmo hmo' hma hma' he
    · intro id b hb hover
      rcases account_concat hb with hb | ⟨hid, rfl⟩
      · obtain ⟨j, m, hm, hma, rfl⟩ := h.live id b hb hover
        refine ⟨j, m, ?_, hma, rfl⟩
        show (s.store.sessions.set i _)[j]? = some m
        rw [List.getElem?_set_ne]
        · exact hm
        · rintro rfl
          rw [hn] at hm
          cases hm
          rw [hidle] at hma
          cases hma
      · refine ⟨i, .opened s.store.nextSessionId, List.getElem?_set_self hi, rfl, ?_⟩
        exact UInt32.toNat_inj.1 (h.nextId.trans hid.symm)
    · intro id b hb hne
      rcases account_concat hb with hb | ⟨-, rfl⟩
      · exact h.entry id b hb hne
      · exact absurd rfl hne
    · intro id id' b b' hb hb' hne he
      rcases account_concat hb with hb | ⟨-, rfl⟩
      · rcases account_concat hb' with hb' | ⟨-, rfl⟩
        · exact h.owner id id' b b' hb hb' hne he
        · exact absurd he hne
      · exact absurd rfl hne
    · show s.store.metrics.bytesUp = ((s.ledger ++ [Account.opened]).map (·.up)).sum
      rw [List.map_append, List.sum_append, ← h.up]
      exact (UInt64.add_zero _).symm
    · show s.store.metrics.bytesDown = ((s.ledger ++ [Account.opened]).map (·.down)).sum
      rw [List.map_append, List.sum_append, ← h.down]
      exact (UInt64.add_zero _).symm

theorem configSet_books (h : s.Books J) (key : StoreConfigKey) (value : ℕ) (realloc : Bool) :
    (s.next (.configSet key value realloc)).Books J := by
  obtain ⟨timeout, cap, size, k, heq, -⟩ := storeConfigSet_cases s.store key value realloc
  have hs : s.next (.configSet key value realloc) =
      ⟨s.store.configured timeout cap size k, s.ledger⟩ := by
    rw [Audit.next, StoreCall.apply, heq]
    rfl
  -- an active node is one of the old ones
  have hnode : ∀ (j : ℕ) (m : StoreSessionNode),
      (s.store.sessions ++ List.replicate k StoreSessionNode.zero)[j]? = some m →
      m.active = true → s.store.sessions[j]? = some m := by
    intro j m hm hma
    rcases Nat.lt_or_ge j s.store.sessions.length with hlt | hge
    · rwa [List.getElem?_append_left hlt] at hm
    · rw [List.getElem?_append_right hge, List.getElem?_replicate] at hm
      split at hm
      · cases hm; cases hma
      · cases hm
  rw [hs]
  exact {
    logs := h.logs.congr rfl rfl rfl rfl
    few := h.few, nextId := h.nextId, entries := h.entries
    node := fun j m hm hma => h.node j m (hnode j m hm hma) hma
    unique := fun j k m m' hm hm' hma hma' =>
      h.unique j k m m' (hnode j m hm hma) (hnode k m' hm' hma') hma hma'
    live := fun id b hb hover => by
      obtain ⟨j, m, hm, hma, hid⟩ := h.live id b hb hover
      refine ⟨j, m, ?_, hma, hid⟩
      show (s.store.sessions ++ _)[j]? = some m
      rw [List.getElem?_append_left (List.getElem?_eq_some_iff.1 hm).1]
      exact hm
    entry := h.entry, owner := h.owner, up := h.up, down := h.down }

/-! ## Runs -/

theorem init : Audit.init.Books [] where
  logs := {
    ring := .nil List.length_replicate
    next := rfl
    numbered := nofun }
  few := by decide
  nextId := rfl
  entries := rfl
  node := fun i n hn ha => by
    have hn : (List.replicate storeSessionsCapDefault StoreSessionNode.zero)[i]? = some n := hn
    rw [List.getElem?_replicate] at hn
    split at hn
    · cases hn; cases ha
    · cases hn
  unique := fun i j n m hn _ ha => by
    have hn : (List.replicate storeSessionsCapDefault StoreSessionNode.zero)[i]? = some n := hn
    rw [List.getElem?_replicate] at hn
    split at hn
    · cases hn; cases ha
    · cases hn
  live := fun id a ha => by
    have := (account_eq_some.1 ha).2
    cases this
  entry := fun id a ha => by
    have := (account_eq_some.1 ha).2
    cases this
  owner := fun id id' a a' ha => by
    have := (account_eq_some.1 ha).2
    cases this
  up := rfl
  down := rfl

/-- **Every call of the life cycle keeps the books.** -/
theorem next (h : s.Books J) (hl : LifeCycle s c) : ∃ J', (s.next c).Books J' := by
  cases hc : c.session with
  | some id =>
    obtain ⟨i, n, a, n', a', J', hat, ha, he⟩ := h.exists_entered hc hl.1
    exact ⟨J', h.entered hat ha he⟩
  | none =>
    cases c with
    | begin => exact ⟨J, h.begin_books hl.2⟩
    | configSet key value realloc => exact ⟨J, h.configSet_books key value realloc⟩
    | _ => cases hc

end Audit.Books

end SocksProxy
