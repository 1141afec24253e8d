import SocksProxy.Store.Bookkeeping

/-!
# The access log shows what the sessions did

A run of the store in which every session follows the life cycle of `store.h`, any number of them
interleaved in any way, shows in its log what the ledger says of each session whose entry the ring
still holds: who, where, how many bytes, and whether it is open, closed or expired.  The global byte
counters are the sums over all sessions.  A call about one session changes nothing of another,
whether or not its own entry is still there; the one entry a call can take away is the oldest of a
full ring.
-/

set_option autoImplicit false

namespace SocksProxy

/-- The entries the ring holds. -/
def MonitorStore.entries (st : MonitorStore) : List StoreLogEntry := st.log.take st.logCount

/-- What the store shows of its sessions. -/
structure Audit.Shown (s : Audit) : Prop where
  /-- The entry of a session shows its account. -/
  entry : ∀ id a, s.ledger.account id = some a → a.logId ≠ storeLogInvalid →
    ∀ e ∈ s.store.entries, e.id = a.logId → a.Shows e
  /-- The ring holds the last entries. -/
  held : ∀ id a, s.ledger.account id = some a → a.logId ≠ storeLogInvalid →
    s.store.nextLogId.toNat ≤ a.logId.toNat + storeLogCapacity →
    ∃ e ∈ s.store.entries, e.id = a.logId
  /-- A session has a node until it is over. -/
  slot : ∀ id a, s.ledger.account id = some a →
    (a.stage.isOver = false ↔ ∃ i n, s.store.At id i n ∧ a.Live n)
  /-- The counters are the sums over all sessions. -/
  up : s.store.metrics.bytesUp = (s.ledger.map (·.up)).sum
  down : s.store.metrics.bytesDown = (s.ledger.map (·.down)).sum

/-- A call leaves other sessions alone, their nodes and their entries, apart from the oldest entry
of a full ring. -/
structure Spared (s : Audit) (c : StoreCall) : Prop where
  slots : ∀ (i : ℕ) (n : StoreSessionNode), s.store.sessions[i]? = some n → n.active = true →
    c.session ≠ some n.info.id → (c.apply s.store).sessions[i]? = some n
  entries : ∀ (i : ℕ) (e : StoreLogEntry), s.store.entries[i]? = some e →
    (∀ id a, c.session = some id → s.ledger.account id = some a → e.id ≠ a.logId) →
    (c.apply s.store).entries[i]? = some e ∨
      s.store.logCount = storeLogCapacity ∧ i = s.store.logHead ∧
        (c.apply s.store).nextLogId = s.store.nextLogId + 1

/-! ## The ring -/

section Ring

variable {st st' : MonitorStore} {J J' : List StoreLogEntry}

/-- A cell in use holds the entry of the journal it is due to. -/
theorem MonitorStore.Logs.getElem?_entries (h : st.Logs J) {i : ℕ} {e : StoreLogEntry}
    (he : st.entries[i]? = some e) : ∃ k, J[k]? = some e ∧ k < J.length ∧
      J.length ≤ k + storeLogCapacity ∧ k % storeLogCapacity = i := by
  obtain ⟨hi, -⟩ := List.getElem?_eq_some_iff.1 he
  rw [MonitorStore.entries, List.length_take] at hi
  obtain ⟨k, hk, hnear, hmod⟩ := h.ring.exists_entry (i := i) (by omega)
  refine ⟨k, ?_, hk, hnear, hmod⟩
  rw [← h.ring.cell k hk hnear, hmod, ← he, MonitorStore.entries,
    List.getElem?_take_of_lt (by omega)]

/-- An entry of the journal that is in the ring is in its cell. -/
theorem MonitorStore.Logs.entries_mod (h : st.Logs J) {k : ℕ} (hk : k < J.length)
    (hnear : J.length ≤ k + storeLogCapacity) : st.entries[k % storeLogCapacity]? = J[k]? := by
  rw [MonitorStore.entries, List.getElem?_take_of_lt (h.ring.mod_lt_count hk (by decide)),
    h.ring.cell k hk hnear]

end Ring

/-! ## Every state -/

theorem Audit.Books.shown {s : Audit} {J : List StoreLogEntry} (h : s.Books J) : s.Shown where
  entry := by
    intro id a ha hne e he hid
    obtain ⟨i, hi⟩ := List.mem_iff_getElem?.1 he
    obtain ⟨k, hk, hlt, hnear, -⟩ := h.logs.getElem?_entries hi
    have hnum := h.logs.numbered k e hk
    rw [hid] at hnum
    have hplace : a.logId.toNat - 1 = k := by omega
    exact (h.entry id a ha hne).2 e ⟨by omega, by omega⟩ (by rw [hplace]; exact hk)
  held := by
    intro id a ha hne hnext
    have h0 := toNat_ne_zero hne
    have hle := (h.entry id a ha hne).1
    rw [h.logs.next] at hnext
    have hlt : a.logId.toNat - 1 < J.length := by omega
    have hcell := h.logs.entries_mod hlt (by omega)
    rw [List.getElem?_eq_getElem hlt] at hcell
    refine ⟨_, List.mem_of_getElem? hcell, UInt32.toNat_inj.1 ?_⟩
    have := h.logs.numbered _ _ (List.getElem?_eq_getElem hlt)
    omega
  slot := fun id a ha => ⟨h.find ha, fun ⟨_, _, _, hlive⟩ => hlive.stage⟩
  up := h.up
  down := h.down

/-! ## Every step -/

/-- A call that leaves the log alone and keeps the active nodes. -/
theorem undisturbed_of_log {s : Audit} {c : StoreCall}
    (hslots : ∀ (i : ℕ) (n : StoreSessionNode), s.store.sessions[i]? = some n →
      n.active = true → (c.apply s.store).sessions[i]? = some n)
    (hlog : (c.apply s.store).log = s.store.log)
    (hcount : (c.apply s.store).logCount = s.store.logCount) : Spared s c where
  slots := fun i n hn ha _ => hslots i n hn ha
  entries := fun i e he _ => .inl (by rw [MonitorStore.entries, hlog, hcount]; exact he)

theorem Entered.undisturbed {s : Audit} {c : StoreCall} {J J' : List StoreLogEntry} {id : UInt32}
    {i : ℕ} {n n' : StoreSessionNode} {a a' : Account} (h : s.Books J) (hc : c.session = some id)
    (hat : s.store.At id i n) (ha : s.ledger.account id = some a)
    (he : Entered s J id i a n' a' (s.next c) J') : Spared s c where
  slots := by
    intro j m hm hma hne
    have hs : (c.apply s.store).sessions = _ := he.sessions
    rw [hs, List.getElem?_set_ne]
    · exact hm
    · rintro rfl
      rw [hat.node] at hm
      cases hm
      exact hne (by rw [hc, hat.id_eq])
  entries := by
    intro j e hj hown
    obtain ⟨k, hk, hlt, hnear, hmod⟩ := h.logs.getElem?_entries hj
    have hnum := h.logs.numbered k e hk
    have hk' : J'[k]? = some e := by
      rw [he.others k hlt]
      · exact hk
      · intro hsame
        exact hown id a hc ha (UInt32.toNat_inj.1 (hnum.trans hsame))
    rcases he.logId with ⟨hlen, -⟩ | ⟨hlen, -, -⟩
    · left
      rw [← hmod, ← hk']
      exact he.logs.entries_mod (by omega) (by omega)
    · rcases Nat.lt_or_ge J.length (k + storeLogCapacity) with hstay | hgone
      · left
        rw [← hmod, ← hk']
        exact he.logs.entries_mod (by omega) (by omega)
      · -- the entry was the oldest of a full ring
        right
        have hfull : J.length = k + storeLogCapacity := by omega
        have hcount := h.logs.ring.count
        have hhead := h.logs.ring.head
        refine ⟨by omega, ?_, UInt32.toNat_inj.1 ?_⟩
        · rw [hhead, if_neg (by omega), hfull, Nat.add_mod_right, hmod]
        · have hnext : (c.apply s.store).nextLogId.toNat = J'.length + 1 := he.logs.next
          have hbound := he.logs.next ▸ UInt32.toNat_lt (s.next c).store.nextLogId
          rw [toNat_succ h.logs.next (by omega), hnext, hlen]

theorem Audit.Books.undisturbed {s : Audit} {J : List StoreLogEntry} (h : s.Books J)
    {c : StoreCall} (hl : LifeCycle s c) : Spared s c := by
  cases hc : c.session with
  | some id =>
    obtain ⟨i, n, a, n', a', J', hat, ha, he⟩ := h.exists_entered hc hl.1
    exact he.undisturbed h hc hat ha
  | none =>
    cases c with
    | begin =>
      rcases storeSessionBegin_cases s.store with ⟨hr, -⟩ | ⟨i, n, -, -, hn, hidle, hr⟩
      · refine undisturbed_of_log ?_ ?_ ?_ <;> simp only [StoreCall.apply, hr]
        exact fun _ _ hm _ => hm
      · refine undisturbed_of_log ?_ ?_ ?_ <;> simp only [StoreCall.apply, hr]
        · intro j m hm hma
          show (s.store.sessions.set i _)[j]? = some m
          rw [List.getElem?_set_ne]
          · exact hm
          · rintro rfl
            rw [hn] at hm
            cases hm
            rw [hidle] at hma
            cases hma
        · rfl
        · rfl
    | configSet key value realloc =>
      obtain ⟨timeout, cap, size, k, heq, -⟩ := storeConfigSet_cases s.store key value realloc
      refine undisturbed_of_log ?_ ?_ ?_ <;> simp only [StoreCall.apply, heq]
      · intro j m hm _
        show (s.store.sessions ++ _)[j]? = some m
        rw [List.getElem?_append_left (List.getElem?_eq_some_iff.1 hm).1]
        exact hm
      · rfl
      · rfl
    | _ => cases hc

/-! ## Runs -/

/-- **The log shows what the sessions did, in every run that follows the life cycle.** -/
theorem accounts_shown_along {calls : List StoreCall}
    (h : Along auditStep LifeCycle Audit.init calls) :
    Visits auditStep Audit.Shown Audit.init calls ∧
      Along auditStep Spared Audit.init calls := by
  have hinit : ∃ J, Audit.init.Books J := ⟨[], .init⟩
  have hstep : ∀ (s : Audit) (c : StoreCall) (s' : Audit), (∃ J, s.Books J) → LifeCycle s c →
      auditStep s c = .ok s' → ∃ J, s'.Books J := by
    rintro s c s' ⟨J, hJ⟩ hl hs
    cases hs
    exact hJ.next hl
  refine ⟨Visits.mono (P := fun s => ∃ J, s.Books J) ?_ fun s ⟨J, hJ⟩ => hJ.shown, ?_⟩
  · exact visits_of_along (I := fun _ => True) (fun _ _ _ _ _ => trivial)
      (fun s c s' _ hp hl hs => hstep s c s' hp hl hs) trivial hinit h
  · exact along_of_along hstep (fun s c ⟨J, hJ⟩ hl => hJ.undisturbed hl) hinit h

/-- A session of the user `u` that carries three bytes up and five down while another one opens. -/
def tunnelCalls : List StoreCall :=
  [.begin, .setUser 1 [117], .setPhase 1 .connecting, .setDest 7 1 [104] 80, .addBytes 1 3 0, .begin,
    .addBytes 1 0 5, .finish 1]

theorem accounts_shown_tunnel :
    Visits auditStep Audit.Shown Audit.init tunnelCalls ∧
      Along auditStep Spared Audit.init tunnelCalls :=
  accounts_shown_along (along_of_meets (by decide +kernel))

end SocksProxy
