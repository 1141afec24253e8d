import SocksProxy.Socks.Course
import SocksProxy.Socks.Foreign

/-!
# Sessions go one way

Where a session is on the way from the greeting to the tunnel can be told from its history alone:
some observations are made when it leaves a state for good.  `Obs.milestone` is the rank of that
state, and the milestones of a history come in increasing order (`Slot.Marked`), so none is passed
twice.  `Slot.Advances` compares two moments of a session: its state is the same or a later one, its
history was only added to, and once it is closed nothing happens to it.

The other half is about descriptors.  The selector table and the sessions point at each other, and
no descriptor has two owners: `World.Owned`.
-/

set_option autoImplicit false

namespace SocksProxy

/-! ## Two moments of a session -/

/-- What can become of a slot. -/
structure Slot.Advances (sl sl' : Slot) : Prop where
  /-- The history is only added to. -/
  grows : sl.hist <+: sl'.hist
  used : sl.used = true → sl'.used = true
  /-- A session does not go back to an earlier state, and keeps its socket. -/
  forward : sl.used = true → ∀ s', sl'.sess = some s' → ∃ s, sl.sess = some s ∧
    s'.clientFd = s.clientFd ∧ (stmState s).rank ≤ (stmState s').rank
  /-- Nothing happens to a session that was closed. -/
  ended : sl.used = true → sl.sess = none → sl'.sess = none ∧ sl'.hist = sl.hist

section Advances

variable {mode : Mode} {sl sl' sl'' : Slot} {s s₁ : SocksSession}

theorem Slot.Advances.refl (sl : Slot) : sl.Advances sl where
  grows := List.prefix_rfl
  used := id
  forward _ s hs := ⟨s, hs, rfl, Nat.le_refl _⟩
  ended _ hn := ⟨hn, rfl⟩

theorem Slot.Advances.trans (h₁ : sl.Advances sl') (h₂ : sl'.Advances sl'') :
    sl.Advances sl'' where
  grows := h₁.grows.trans h₂.grows
  used hu := h₂.used (h₁.used hu)
  forward := by
    intro hu s'' hs''
    obtain ⟨s', hs', hfd', hr'⟩ := h₂.forward (h₁.used hu) s'' hs''
    obtain ⟨s, hs, hfd, hr⟩ := h₁.forward hu s' hs'
    exact ⟨s, hs, hfd'.trans hfd, Nat.le_trans hr hr'⟩
  ended := by
    intro hu hn
    obtain ⟨hn', ht'⟩ := h₁.ended hu hn
    obtain ⟨hn'', ht''⟩ := h₂.ended (h₁.used hu) hn'
    exact ⟨hn'', ht''.trans ht'⟩

theorem SocksState.rank_le (st : SocksState) : st.rank ≤ 6 := by
  cases st <;> decide

/-- A step of an open session. -/
theorem Slot.Advances.of_open (hs : sl.sess = some s) (ht : sl.hist <+: sl'.hist)
    (hused : sl'.used = sl.used) (hs' : sl'.sess = some s₁) (hfd : s₁.clientFd = s.clientFd)
    (hr : (stmState s).rank ≤ (stmState s₁).rank) : sl.Advances sl' where
  grows := ht
  used hu := hused.trans hu
  forward := by
    intro _ s' h
    rw [hs'] at h
    cases h
    exact ⟨s, hs, hfd, hr⟩
  ended := by
    intro _ hn
    rw [hs] at hn
    cases hn

theorem Deciding.rank_lt (h : Deciding s s₁) : (stmState s).rank < 5 := by
  cases h with
  | request st => rw [st]; decide
  | resolving st => rw [st]; decide
  | connecting st => rw [st]; decide

variable [Inet]

/-- **No step of a session goes back.** -/
theorem SessionStep.advances (h : SessionStep mode sl sl') : sl.Advances sl' := by
  cases h with
  | accept fresh | discard fresh =>
    have hno : ¬ sl.used = true := by simp [fresh]
    exact ⟨List.prefix_rfl, fun _ => rfl, fun hu => absurd hu hno, fun hu => absurd hu hno⟩
  | close sess =>
    refine ⟨by simp [List.append_assoc], id, fun _ s hs => ?_, fun _ hn => ?_⟩
    · cases hs
    · rw [sess] at hn
      cases hn
  | book sess stm_eq =>
    refine .of_open sess List.prefix_rfl rfl rfl rfl (Nat.le_of_eq ?_)
    rcases stm_eq with rfl | rfl <;> rfl
  | greetMore sess | authMore sess | requestMore sess | resolved sess =>
    exact .of_open sess List.prefix_rfl rfl rfl rfl (Nat.le_refl _)
  | recv sess | forward sess | fetch sess | send sess =>
    exact .of_open sess (List.prefix_append ..) rfl rfl rfl (Nat.le_refl _)
  | forwardBlocked sess | sendBlocked sess | block _ _ sess =>
    exact .of_open sess (List.prefix_append ..) rfl sess rfl (Nat.le_refl _)
  | armClient sess | armOrigin sess =>
    exact .of_open sess List.prefix_rfl rfl sess rfl (Nat.le_refl _)
  | greetAccept sess st =>
    refine .of_open sess (List.prefix_append ..) rfl rfl rfl ?_
    rw [st]
    exact Nat.zero_le _
  | authAccept sess st =>
    refine .of_open sess (List.prefix_append ..) rfl rfl rfl ?_
    rw [st]
    exact (by decide : 1 ≤ 2)
  | lookup sess st =>
    refine .of_open sess (List.prefix_append ..) rfl rfl rfl ?_
    rw [st]
    exact (by decide : 2 ≤ 3)
  | connected sess st =>
    refine .of_open sess (List.prefix_append ..) rfl rfl rfl ?_
    rw [st]
    exact (by decide : 4 ≤ 5)
  | dial sess deciding =>
    exact .of_open sess (List.prefix_append ..) rfl rfl deciding.clientFd_eq
      (Nat.le_of_lt_succ deciding.rank_lt)
  | greetReject sess | authReject sess | expire sess =>
    exact .of_open sess (List.prefix_append ..) rfl rfl rfl (SocksState.rank_le _)
  | refuse sess deciding =>
    refine .of_open sess ?_ rfl rfl deciding.clientFd_eq (SocksState.rank_le _)
    simp [List.append_assoc]

theorem SessionSteps.advances (h : SessionSteps mode sl sl') : sl.Advances sl' := by
  induction h with
  | refl => exact .refl _
  | tail _ hstep ih => exact ih.trans hstep.advances

end Advances

/-! ## Milestones -/

/-- The rank of the state a session leaves when this is recorded; `6` stands for the idle list and
`7` for the session itself. -/
def Obs.milestone : Obs → Option ℕ
  | .greeted _ => some 0
  | .validated _ _ => some 1
  | .lookup _ => some 2
  | .reply bs => if bs = connectReply socksRepSucceeded then some 4 else none
  | .expired _ => some 6
  | .closed => some 7
  | _ => none

/-- The milestones of a history. -/
def milestones (t : List Obs) : List ℕ := t.filterMap Obs.milestone

/-- The milestones of a session come in order, and those of an open session are behind it. -/
structure Slot.Marked (sl : Slot) : Prop where
  sorted : (milestones sl.hist).Pairwise (· < ·)
  behind : ∀ s, sl.sess = some s → ∀ m ∈ milestones sl.hist,
    m < (stmState s).rank ∨ m = 6 ∧ sl.idle = false ∧ stmState s = .done

section Milestones

variable {sl sl' : Slot} {s s' : SocksSession} {t t' : List Obs} {m : ℕ}

theorem milestones_append : milestones (t ++ t') = milestones t ++ milestones t' :=
  List.filterMap_append

theorem milestone_of_isProbe {o : Obs} (h : o.isProbe = true) : o.milestone = none := by
  cases o with
  | attempt => rfl
  | connect => rfl
  | _ => cases h

theorem milestones_probes (h : ∀ o ∈ t, o.isProbe = true) : milestones t = [] :=
  List.filterMap_eq_nil_iff.2 fun o ho => milestone_of_isProbe (h o ho)

theorem milestones_reply {bs : Bytes} (h : bs ≠ connectReply socksRepSucceeded) :
    milestones [.reply bs] = [] := by
  rw [milestones, List.filterMap_cons, Obs.milestone, if_neg h]
  rfl

theorem milestones_refusal {rep : UInt8} (h : rep ≠ socksRepSucceeded) :
    milestones [.reply (connectReply rep)] = [] :=
  milestones_reply fun hc => h (connectReply_inj hc)

theorem rank_eq_iff {st : SocksState} : st.rank = 6 ↔ st = .done := by
  cases st <;> simp [SocksState.rank]

theorem pairwise_concat {l : List ℕ} {x : ℕ} (h : l.Pairwise (· < ·)) (hx : ∀ y ∈ l, y < x) :
    (l ++ [x]).Pairwise (· < ·) := by
  rw [List.pairwise_append]
  refine ⟨h, List.pairwise_singleton .., fun y hy z hz => ?_⟩
  rw [List.mem_singleton.1 hz]
  exact hx y hy

/-- A step that passes no milestone. -/
theorem Slot.Marked.stay (h : sl.Marked) (ha : sl.Advances sl') (hu : sl.used = true)
    (ht : milestones sl'.hist = milestones sl.hist) (hi : sl.idle = false → sl'.idle = false) :
    sl'.Marked where
  sorted := by rw [ht]; exact h.sorted
  behind := by
    intro s' hs' m hm
    obtain ⟨s, hs, -, hr⟩ := ha.forward hu s' hs'
    rw [ht] at hm
    rcases h.behind s hs m hm with hlt | ⟨rfl, hidle, hd⟩
    · exact .inl (Nat.lt_of_lt_of_le hlt hr)
    · rw [hd] at hr
      exact .inr ⟨rfl, hi hidle, rank_eq_iff.1 (Nat.le_antisymm (SocksState.rank_le _) hr)⟩

/-- A step that passes the milestone of the state it leaves. -/
theorem Slot.Marked.pass (h : sl.Marked) (hs : sl.sess = some s)
    (ht : milestones sl'.hist = milestones sl.hist ++ [m]) (hm : (stmState s).rank ≤ m)
    (hlt : m < 6) (hs' : sl'.sess = some s') (hr : m < (stmState s').rank) : sl'.Marked := by
  have hold : ∀ m' ∈ milestones sl.hist, m' < m := by
    intro m' hm'
    rcases h.behind s hs m' hm' with hlt' | ⟨-, -, hd⟩
    · exact Nat.lt_of_lt_of_le hlt' hm
    · rw [hd] at hm
      exact absurd hlt (Nat.not_lt.2 hm)
  refine ⟨?_, fun s'' hs'' m' hm' => ?_⟩
  · rw [ht]
    exact pairwise_concat h.sorted hold
  · rw [hs'] at hs''
    cases hs''
    rw [ht] at hm'
    rcases List.mem_append.1 hm' with hm' | hm'
    · exact .inl (Nat.lt_trans (hold m' hm') hr)
    · rw [List.mem_singleton.1 hm']
      exact .inl hr

/-- A session on the idle list has passed none of the last milestones. -/
theorem Slot.Marked.lt_six (h : sl.Marked) (hs : sl.sess = some s)
    (hidle : sl.idle = true ∨ stmState s = .relay) : ∀ m ∈ milestones sl.hist, m < 6 := by
  intro m hm
  rcases h.behind s hs m hm with hlt | ⟨-, hno, hd⟩
  · exact Nat.lt_of_lt_of_le hlt (SocksState.rank_le _)
  · rcases hidle with hi | hrelay
    · rw [hno] at hi
      cases hi
    · rw [hd] at hrelay
      cases hrelay

variable [Inet] {mode : Mode}

/-- **Every step of a session keeps its milestones in order.** -/
theorem SessionStep.marked (h : SessionStep mode sl sl') (hok : sl.Ok) (hm : sl.Marked) :
    sl'.Marked := by
  have ha := h.advances
  have hused : ∀ {s}, sl.sess = some s → sl.used = true := fun hs => hok.used (by simp [hs])
  cases h with
  | accept fresh =>
    have ht : sl.hist = [] := hok.fresh fresh
    exact ⟨hm.sorted, fun s _ m hmem => by rw [ht] at hmem; cases hmem⟩
  | discard fresh => exact ⟨hm.sorted, hm.behind⟩
  | book sess | greetMore sess | authMore sess | requestMore sess | resolved sess
  | armClient sess | armOrigin sess => exact hm.stay ha (hused sess) rfl id
  | recv sess | forward sess | forwardBlocked sess | fetch sess | send sess | sendBlocked sess
  | block _ _ sess =>
    exact hm.stay ha (hused sess) (by rw [milestones_append]; exact List.append_nil _) id
  | greetReject sess | authReject sess =>
    refine hm.stay ha (hused sess) ?_ id
    rw [milestones_append, milestones_reply (by simp [connectReply]), List.append_nil]
  | refuse sess deciding refusal rep_ne =>
    refine hm.stay ha (hused sess) ?_ id
    rw [milestones_append, milestones_append, milestones_probes refusal.isProbe,
      milestones_refusal rep_ne, List.append_nil, List.append_nil]
  | dial sess deciding allowed =>
    refine hm.stay ha (hused sess) ?_ id
    rw [milestones_append, milestones_probes allowed.isProbe, List.append_nil]
  | @greetAccept s _ _ p sess st =>
    refine hm.pass (m := 0) sess ?_ (Nat.le_of_eq (by rw [st]; rfl)) (by decide) rfl ?_
    · rw [milestones_append, ← List.singleton_append (x := Obs.reply _), milestones_append,
        milestones_reply (by simp [connectReply])]
      rfl
    · show 0 < (if p.chosenMethod = socksMethodUserpass then SocksState.authUserpass
        else .request).rank
      split <;> decide
  | authAccept sess st =>
    refine hm.pass (m := 1) sess ?_ (Nat.le_of_eq (by rw [st]; rfl)) (by decide) rfl ?_
    · rw [milestones_append, ← List.singleton_append (x := Obs.validated _ _), milestones_append,
        milestones_reply (by simp [connectReply])]
      rfl
    · exact (by decide : 1 < 2)
  | lookup sess st =>
    refine hm.pass (m := 2) sess ?_ (Nat.le_of_eq (by rw [st]; rfl)) (by decide) rfl ?_
    · rw [milestones_append]
      rfl
    · exact (by decide : 2 < 3)
  | connected sess st =>
    refine hm.pass (m := 4) sess ?_ (Nat.le_of_eq (by rw [st]; rfl)) (by decide) rfl ?_
    · rw [milestones_append]
      rfl
    · exact (by decide : 4 < 5)
  | @expire s sess idle =>
    have ht : milestones (sl.hist ++
        [.expired (stmState s), .reply (connectReply socksRepTtlExpired)]) =
        milestones sl.hist ++ [6] := by
      rw [milestones_append, ← List.singleton_append (x := Obs.expired _), milestones_append,
        milestones_refusal (by decide)]
      rfl
    have hlt := hm.lt_six sess (.inl idle)
    refine ⟨?_, fun s' hs' m hmem => ?_⟩
    · rw [ht]
      exact pairwise_concat hm.sorted hlt
    · cases hs'
      rw [ht] at hmem
      rcases List.mem_append.1 hmem with hold | hnew
      · exact .inl (hlt m hold)
      · exact .inr ⟨List.mem_singleton.1 hnew, rfl, rfl⟩
  | close sess ending =>
    refine ⟨?_, fun s' hs' => by cases hs'⟩
    rw [milestones_append, milestones_append]
    refine pairwise_concat (x := 7) ?_ ?_
    · cases ending with
      | plain | clientEof | originEof =>
        exact (List.append_nil (milestones sl.hist)).symm ▸ hm.sorted
      | expired st => exact pairwise_concat hm.sorted (hm.lt_six sess (.inr st))
    · intro m hmem
      have hold : ∀ m ∈ milestones sl.hist, m < 7 := fun m hm' =>
        (hm.behind _ sess m hm').elim (fun hlt => Nat.lt_of_lt_of_le hlt
          (Nat.le_succ_of_le (SocksState.rank_le _))) fun h6 => h6.1 ▸ by decide
      rcases List.mem_append.1 hmem with hmem | hmem
      · exact hold m hmem
      · cases ending with
        | plain | clientEof | originEof => cases hmem
        | expired st =>
          rw [List.mem_singleton.1 hmem]
          decide

end Milestones

/-! ## Runs -/

section Runs

variable [Inet] {w w' : World}

end Runs

/-! ## Descriptors -/

/-- The selector table and the sessions point at each other. -/
structure World.Owned (w : World) : Prop where
  /-- A registration of a client is that of an open session. -/
  client : ∀ fd i sid, w.fds fd = some ⟨.client, i, sid⟩ →
    ∃ s, w.sessions sid = some s ∧ s.clientFd = fd
  /-- A registration of an origin is that of an open session. -/
  origin : ∀ fd i sid, w.fds fd = some ⟨.origin, i, sid⟩ →
    ∃ s, w.sessions sid = some s ∧ s.originFd = some fd
  /-- An open session is registered on the socket of its client. -/
  hasClient : ∀ sid s, w.sessions sid = some s → ∃ i, w.fds s.clientFd = some ⟨.client, i, sid⟩
  /-- It is registered on the socket of its origin, if it has one. -/
  hasOrigin : ∀ sid s fd, w.sessions sid = some s → s.originFd = some fd →
    ∃ i, w.fds fd = some ⟨.origin, i, sid⟩
  /-- It has one while it connects and in the tunnel, and none before. -/
  phase : ∀ sid s, w.sessions sid = some s →
    (stmState s = .originConnecting ∨ stmState s = .relay → s.originFd ≠ none) ∧
      ((stmState s).rank < 4 → s.originFd = none)
  /-- No descriptor belongs to two sessions, or to the two sides of one. -/
  apart : ∀ sid s sid' s', w.sessions sid = some s → w.sessions sid' = some s' →
    (s.clientFd = s'.clientFd → sid = sid') ∧
      (∀ fd, s.originFd = some fd → s'.originFd = some fd → sid = sid') ∧
      s.originFd ≠ some s'.clientFd

section Owned

variable {w : World}

theorem World.Inv.owned (hinv : w.Inv) : w.Owned where
  client fd i sid h := hinv.claimed fd _ h
  origin fd i sid h := hinv.claimed fd _ h
  hasClient _ _ hs := hinv.client_item hs
  hasOrigin _ _ _ hs hfd := hinv.origin_item hs hfd
  phase := by
    intro sid s hs
    have hok := (hinv.slots sid).session s hs
    refine ⟨fun hst hn => hok.needsOrigin hst (hok.origin.1 hn), fun hlt => ?_⟩
    refine hok.originFd_eq_none ?_
    cases hst : stmState s <;> simp_all [SocksState.rank, SocksState.hasOrigin]
  apart := by
    intro sid s sid' s' hs hs'
    obtain ⟨i, hi⟩ := hinv.client_item hs
    obtain ⟨i', hi'⟩ := hinv.client_item hs'
    refine ⟨fun hfd => ?_, fun fd hfd hfd' => ?_, fun hfd => ?_⟩
    · rw [hfd, hi'] at hi
      cases hi
      rfl
    · obtain ⟨j, hj⟩ := hinv.origin_item hs hfd
      obtain ⟨j', hj'⟩ := hinv.origin_item hs' hfd'
      rw [hj] at hj'
      cases hj'
      rfl
    · obtain ⟨j, hj⟩ := hinv.origin_item hs hfd
      rw [hi'] at hj
      cases hj

/-- **The selector table and the sessions point at each other** in every state of every run. -/
theorem table_and_sessions_agree [Inet] (listenFd monitorFd : Fd) (es : List Event) :
    Visits step World.Owned (World.boot listenFd monitorFd) es :=
  visits_of_reaches (fun _ h => (reaches_inv h).owned) es

end Owned

end SocksProxy
