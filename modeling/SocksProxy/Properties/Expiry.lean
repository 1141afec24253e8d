import SocksProxy.Lib.Recency
import SocksProxy.Socks.Durable

/-!
# Idle sessions expire on time

The idle list holds the sessions that can expire, the one that has been idle longest at the head.
Sessions enter it when they are accepted, move to its end whenever a read or a write succeeds, and
leave it when they are closed or expired; a session that is expired may stay open until its last
reply is out, and its uses no longer move anything.

Three facts about every reachable world say that the list is right: its links are well formed, it
holds the open sessions that were not expired (`Slot.Listed`, kept by every step in the life of a
session), and it is in the order of last use (`World.Aged`, a durable property).  They make it
enough to look at the head: when the head is not due nothing is, so `socks_server_expire_idle` may
stop there.
-/

set_option autoImplicit false

namespace SocksProxy

/-! ## Who is in the idle list -/

section Listed

variable [Inet] {sl sl' : Slot} {mode : Mode}

omit [Inet] in
/-- A session is in the idle list as long as it is open and was not expired. -/
def Slot.Listed (sl : Slot) : Prop :=
  sl.idle = true ↔ ∃ s, sl.sess = some s ∧ s.ttlExpired = false

omit [Inet] in
/-- A step that leaves the place and the mark of a session alone. -/
theorem Slot.Listed.of_same {s s' : SocksSession} (h : sl.Listed) (hs : sl.sess = some s)
    (hs' : sl'.sess = some s') (hidle : sl'.idle = sl.idle)
    (hmark : s'.ttlExpired = s.ttlExpired) : sl'.Listed := by
  rw [Slot.Listed, hs] at h
  rw [Slot.Listed, hidle, hs', h]
  simp [hmark]

omit [Inet] in
theorem Deciding.ttlExpired {s s₁ : SocksSession} (h : Deciding s s₁) :
    s₁.ttlExpired = s.ttlExpired := by
  cases h <;> rfl

theorem SessionStep.listed (h : SessionStep mode sl sl') (hl : sl.Listed) : sl'.Listed := by
  cases h with
  | accept => exact iff_of_true rfl ⟨_, rfl, rfl⟩
  | discard => exact hl
  | expire => exact iff_of_false nofun (by simp)
  | close => exact iff_of_false nofun (by simp)
  | refuse sess deciding => exact hl.of_same sess rfl rfl deciding.ttlExpired
  | dial sess deciding => exact hl.of_same sess rfl rfl deciding.ttlExpired
  | sendBlocked sess | forwardBlocked sess | armClient sess | armOrigin sess =>
    exact hl.of_same sess sess rfl rfl
  | block _ _ sess => exact hl.of_same sess sess rfl rfl
  | _ sess => exact hl.of_same sess rfl rfl rfl

end Listed

/-! ## The order of the idle list -/

section Aged

variable {w : World} {sid : Sid}

/-- When a session was last used, if it is open. -/
def World.lastUse (w : World) (sid : Sid) : Option ℕ := (w.sessions sid).map (·.lastActivity)

/-- The idle list is in the order of last use, and nothing was used later than now. -/
structure World.Aged (w : World) : Prop where
  order : ∃ sids, w.idle.Repr sids ∧ ByAge w.lastUse sids
  past : ∀ sid, ∀ t ∈ w.lastUse sid, t ≤ w.clock

/-- The times of last use after a change to one session. -/
theorem lastUse_update {w' : World} {s? : Option SocksSession} {t? : Option ℕ}
    (h : w'.sessions = Function.update w.sessions sid s?) (ht : s?.map (·.lastActivity) = t?) :
    w'.lastUse = Function.update w.lastUse sid t? := by
  funext sid'
  rw [← ht]
  rw [World.lastUse, h]
  by_cases hne : sid' = sid
  · rw [hne, Function.update_self, Function.update_self]
  · rw [Function.update_of_ne hne, Function.update_of_ne hne]
    rfl

/-- A use now is no later than now. -/
theorem World.Aged.past_of_use (h : w.Aged) (sid : Sid) {y : Sid} {t : ℕ}
    (ht : t ∈ Function.update w.lastUse sid (some w.clock) y) : t ≤ w.clock := by
  rw [Function.update_apply] at ht
  split at ht
  · cases ht
    exact Nat.le_refl _
  · exact h.past y t ht

/-- A session that is used now goes to the end. -/
theorem World.Aged.pushTail {w' : World} {s : SocksSession} (h : w.Aged)
    (hs : w'.sessions = Function.update w.sessions sid (some s)) (hnow : s.lastActivity = w.clock)
    (hidle : w'.idle = w.idle.pushTail sid) (hclock : w'.clock = w.clock) : w'.Aged := by
  obtain ⟨sids, hrepr, hage⟩ := h.order
  have huse := lastUse_update hs (congrArg some hnow)
  refine ⟨⟨sids.erase sid ++ [sid], hidle ▸ hrepr.pushTail sid, ?_⟩, fun sid' t ht => ?_⟩
  · rw [huse]
    exact hage.touch hrepr.nodup h.past
  · rw [huse] at ht
    exact hclock ▸ h.past_of_use sid ht

/-- **The order of last use is durable.** -/
theorem durable_aged : Durable World.Aged where
  same h hsess hidle hclock _ := by
    obtain ⟨sids, hrepr, hage⟩ := h.order
    have huse : ∀ {w₁ w₂ : World}, w₂.sessions = w₁.sessions → w₂.lastUse = w₁.lastUse := by
      intro w₁ w₂ h
      funext sid
      rw [World.lastUse, h, World.lastUse]
    refine ⟨⟨sids, hidle ▸ hrepr, huse hsess ▸ hage⟩, fun sid t ht => ?_⟩
    rw [huse hsess] at ht
    exact hclock ▸ h.past sid t ht
  assigned := by
    intro w sid s s' h hs heq
    have huse : ({ w with sessions := Function.update w.sessions sid (some s') } : World).lastUse =
        Function.update w.lastUse sid (some s.lastActivity) :=
      lastUse_update rfl (congrArg some heq)
    have hsame : some s.lastActivity = w.lastUse sid := by
      rw [World.lastUse, hs]
      rfl
    rw [hsame, Function.update_eq_self] at huse
    exact ⟨huse ▸ h.order, huse ▸ h.past⟩
  emitted sid o h := ⟨h.order, h.past⟩
  touched := by
    intro w sid s h hs
    by_cases hm : w.idle.mem sid = true
    · exact h.pushTail rfl rfl (if_pos hm) rfl
    · obtain ⟨sids, hrepr, hage⟩ := h.order
      have huse : (w.touched sid s).lastUse = Function.update w.lastUse sid (some w.clock) :=
        lastUse_update rfl rfl
      have hidle : (w.touched sid s).idle = w.idle := if_neg hm
      refine ⟨⟨sids, hidle ▸ hrepr, hage.forget fun y hy t ht => ?_⟩, fun sid' t ht => ?_⟩
      · have hne : y ≠ sid := fun e => hm ((hrepr.mem sid).2 (e ▸ hy))
        rw [huse, Function.update_of_ne hne] at ht
        exact ht
      · rw [huse] at ht
        exact h.past_of_use sid ht
  removed := by
    intro w sid h
    obtain ⟨sids, hrepr, hage⟩ := h.order
    exact ⟨⟨sids.erase sid, hrepr.remove sid, hage.erase sid⟩, h.past⟩
  freed := by
    intro w sid h
    obtain ⟨sids, hrepr, hage⟩ := h.order
    have huse : ({ w with sessions := Function.update w.sessions sid none } : World).lastUse =
        Function.update w.lastUse sid none := lastUse_update rfl rfl
    have hforget : ∀ y, ∀ t ∈ Function.update w.lastUse sid none y, t ∈ w.lastUse y := by
      intro y t ht
      rw [Function.update_apply] at ht
      split at ht
      · cases ht
      · exact ht
    refine ⟨⟨sids, hrepr, hage.forget fun y _ t ht => ?_⟩, fun y t ht => ?_⟩
    · rw [huse] at ht
      exact hforget y t ht
    · rw [huse] at ht
      exact h.past y t (hforget y t ht)
  opened sid s h hnow := h.pushTail rfl hnow rfl rfl
  ticked n h := ⟨h.order, fun sid t ht => Nat.le_add_right_of_le (h.past sid t ht)⟩

end Aged

/-! ## Expiry -/

section Expiry

variable [Inet] {H : Set Fd} {w w' w₁ : World} {sid : Sid} {s : SocksSession} {timeout : ℕ}

omit [Inet] in
/-- A history that begins in a given way goes on beginning so. -/
theorem durable_hist (sid : Sid) (obs : List Obs) : Durable fun w => obs <+: w.hist sid where
  same h _ _ _ hhist := hhist ▸ h
  assigned h _ _ := h
  emitted := by
    intro w sid' o h
    show obs <+: Function.update w.hist sid' (w.hist sid' ++ [o]) sid
    rw [Function.update_apply]
    split
    · next heq => exact heq ▸ h.trans (List.prefix_append ..)
    · exact h
  touched h _ := h
  removed _ h := h
  freed _ h := h
  opened _ _ h _ := h
  ticked _ h := h

omit [Inet] in
/-- The session has not been used for `timeout` seconds, and it is not yet expired. -/
def World.Due (w : World) (timeout : ℕ) (sid : Sid) : Prop :=
  ∃ s, w.sessions sid = some s ∧ s.ttlExpired = false ∧ timeout ≤ w.clock - s.lastActivity

omit [Inet] in
/-- What `socks_server_expire_idle` does. -/
structure ExpiresDue (timeout : ℕ) (w w' : World) : Prop where
  /-- A session that is due is marked and removed, and open no longer than its last reply needs. -/
  due : ∀ sid, w.Due timeout sid →
    w'.idle.mem sid = false ∧ (∀ s, w'.sessions sid = some s → s.ttlExpired = true) ∧
      ∃ st, w.hist sid ++ [.expired st] <+: w'.hist sid
  /-- The others are left alone. -/
  others : ∀ sid, ¬ w.Due timeout sid → slot w' sid = slot w sid
  /-- The loop ends because there is nothing more to expire. -/
  finished : ∀ sid, w'.idle.head = some sid →
    ∃ s, w'.sessions sid = some s ∧ w.clock - s.lastActivity < timeout

/-- The process between two turns of the loop. -/
structure World.Ready (H : Set Fd) (w : World) : Prop where
  wf : w.Wf H
  slots : ∀ sid, (slot w sid).Ok
  listed : ∀ sid, (slot w sid).Listed
  aged : w.Aged

omit [Inet] in
/-- What one turn of the loop does to the session at the head. -/
structure ExpiresHead (w : World) (sid : Sid) (w' : World) : Prop where
  others : ∀ sid', sid' ≠ sid → slot w' sid' = slot w sid'
  clock : w'.clock = w.clock
  gone : w'.idle.mem sid = false
  marked : ∀ s, w'.sessions sid = some s → s.ttlExpired = true
  recorded : ∃ st, w.hist sid ++ [.expired st] <+: w'.hist sid

omit [Inet] in
/-- One turn of the loop, on a session that is due. -/
def expireTurn (sid : Sid) (s : SocksSession) : SocksM Unit := do
  assign sid fun s => { s with ttlExpired := true }
  idleListRemove sid
  emit sid (.expired (stmState s))
  if stmState s = .relay then selectorUnregisterFd s.clientFd
  else socksExpireSessionPreRelay sid

omit [Inet] in
/-- A turn keeps the order of last use. -/
theorem aged_expireTurn (h : w.Aged) :
    Sat (expireTurn sid s) w (fun _ w' => w'.Aged) fun _ => True := by
  have hkeep : Maintains World.Aged (expireTurn sid s) :=
    .bind (durable_aged.keeps_assign fun _ => rfl) fun _ =>
      .bind durable_aged.keeps_idleListRemove fun _ =>
        .bind (durable_aged.keeps_emit _) fun _ => durable_aged.keeps_expireEnd s
  exact hkeep w h

omit [Inet] in
/-- A turn leaves a record. -/
theorem recorded_expireTurn (hs : w.sessions sid = some s) :
    Sat (expireTurn sid s) w
      (fun _ w' => w.hist sid ++ [.expired (stmState s)] <+: w'.hist sid) fun _ => True := by
  have hassign : assign sid (fun s => { s with ttlExpired := true }) w = .ok ((), { w with
      sessions := Function.update w.sessions sid (some { s with ttlExpired := true }) }) := by
    rw [assign, hs]
  rw [expireTurn, sat_bind, sat_of_ok hassign, sat_bind,
    sat_of_ok (show idleListRemove sid _ = .ok (_, _) from rfl), sat_bind,
    sat_of_ok (show emit sid _ _ = .ok (_, _) from rfl)]
  refine (durable_hist sid _).keeps_expireEnd s _ ?_
  show _ <+: Function.update w.hist sid (w.hist sid ++ [.expired (stmState s)]) sid
  rw [Function.update_self]

/-- **One turn of the loop.** -/
theorem World.Ready.sat_turn (h : w.Ready H) (hs : w.sessions sid = some s)
    (hidle : (slot w sid).idle = true) :
    Sat (expireTurn sid s) w (fun _ w' => w'.Ready H ∧ ExpiresHead w sid w') fun _ => False := by
  have hone : Sat (expireTurn sid s) w (fun _ w' => w'.Wf H ∧ Frame H sid w w' ∧
      Expires (view w sid) (view w' sid)) fun _ => False :=
    does_expireOne (h.slots sid) hs hidle w h.wf rfl
  refine ((hone.and (aged_expireTurn h.aged)).and (recorded_expireTurn hs)).mono ?_
    fun _ hf => hf.1.1
  rintro _ w' ⟨⟨⟨hw', hf, hexp⟩, haged⟩, hrec⟩
  have hsteps : SessionSteps .plain (slot w sid) (slot w' sid) := hexp.acts.steps
  have hlisted : (slot w' sid).Listed :=
    hsteps.keeps (fun hstep _ hl => hstep.listed hl) (h.slots sid) (h.listed sid)
  refine ⟨⟨hw', fun sid' => ?_, fun sid' => ?_, haged⟩, hf.others, hf.clock, ?_, hexp.expired,
    _, hrec⟩
  · by_cases hne : sid' = sid
    · exact hne ▸ hsteps.ok (h.slots sid)
    · exact hf.others sid' hne ▸ h.slots sid'
  · by_cases hne : sid' = sid
    · exact hne ▸ hlisted
    · exact hf.others sid' hne ▸ h.listed sid'
  · rw [← Bool.not_eq_true]
    intro hmem
    obtain ⟨s', hs', hmark⟩ := hlisted.1 hmem
    rw [hexp.expired s' hs'] at hmark
    cases hmark

omit [Inet] in
theorem World.Due.mem (h : w.Ready H) (hdue : w.Due timeout sid) {sids : List Sid}
    (hrepr : w.idle.Repr sids) : sid ∈ sids := by
  obtain ⟨s, hs, hmark, -⟩ := hdue
  exact (hrepr.mem sid).1 ((h.listed sid).2 ⟨s, hs, hmark⟩)

omit [Inet] in
/-- What one turn and the rest of the loop do. -/
theorem ExpiresHead.expiresDue (ht : ExpiresHead w sid w₁) (hdue : w.Due timeout sid)
    (h : ExpiresDue timeout w₁ w') : ExpiresDue timeout w w' := by
  have hnot : ¬ w₁.Due timeout sid := by
    rintro ⟨s, hs, hmark, -⟩
    rw [ht.marked s hs] at hmark
    cases hmark
  have hiff : ∀ {sid'}, sid' ≠ sid → (w₁.Due timeout sid' ↔ w.Due timeout sid') := by
    intro sid' hne
    have hsess : w₁.sessions sid' = w.sessions sid' := congrArg Slot.sess (ht.others sid' hne)
    rw [World.Due, World.Due, hsess, ht.clock]
  refine ⟨fun sid' hdue' => ?_, fun sid' hdue' => ?_, fun sid' hhead => ?_⟩
  · by_cases hne : sid' = sid
    · subst hne
      have hslot := h.others sid' hnot
      have hsess : w'.sessions sid' = w₁.sessions sid' := congrArg Slot.sess hslot
      have hidle : w'.idle.mem sid' = w₁.idle.mem sid' := congrArg Slot.idle hslot
      have hhist : w'.hist sid' = w₁.hist sid' := congrArg Slot.hist hslot
      rw [hidle, hsess, hhist]
      exact ⟨ht.gone, ht.marked, ht.recorded⟩
    · have hhist : w₁.hist sid' = w.hist sid' := congrArg Slot.hist (ht.others sid' hne)
      exact hhist ▸ h.due sid' ((hiff hne).2 hdue')
  · have hne : sid' ≠ sid := fun e => hdue' (e ▸ hdue)
    exact (h.others sid' fun hd => hdue' ((hiff hne).1 hd)).trans (ht.others sid' hne)
  · exact ht.clock ▸ h.finished sid' hhead

omit [Inet] in
/-- When the head is not due nothing is. -/
theorem World.Ready.not_due (h : w.Ready H)
    (hfresh : ∀ sid, w.idle.head = some sid →
      ∃ s, w.sessions sid = some s ∧ w.clock - s.lastActivity < timeout) (sid : Sid) :
    ¬ w.Due timeout sid := by
  intro hdue
  obtain ⟨sids, hrepr, hage⟩ := h.aged.order
  have hmem := hdue.mem h hrepr
  obtain ⟨s, hs, -, hlong⟩ := hdue
  cases sids with
  | nil => cases hmem
  | cons x sids =>
    obtain ⟨t, ht, hshort⟩ := hfresh x hrepr.head
    rcases List.mem_cons.1 hmem with rfl | hmem
    · rw [hs] at ht
      cases ht
      omega
    · have hle : t.lastActivity ≤ s.lastActivity :=
        hage.le_of_head hmem (by rw [World.lastUse, ht]; rfl) (by rw [World.lastUse, hs]; rfl)
      omega

omit [Inet] in
/-- The loop ends when the head is not due. -/
theorem World.Ready.expiresDue (h : w.Ready H)
    (hfresh : ∀ sid, w.idle.head = some sid →
      ∃ s, w.sessions sid = some s ∧ w.clock - s.lastActivity < timeout) :
    ExpiresDue timeout w w :=
  ⟨fun sid hdue => absurd hdue (h.not_due hfresh sid), fun _ _ => rfl, hfresh⟩

/-- **The loop expires the sessions that are due**, given a turn for every session in the list. -/
theorem sat_expireLoop_due {n : ℕ} {sids : List Sid} (h : w.Ready H) (hrepr : w.idle.Repr sids)
    (hn : sids.length ≤ n) :
    Sat (expireLoop w.clock timeout n) w (fun _ w' => ExpiresDue timeout w w') fun _ => False := by
  induction n generalizing w sids with
  | zero =>
    refine h.expiresDue fun sid hhead => ?_
    rw [hrepr.head, List.length_eq_zero_iff.1 (Nat.le_zero.1 hn)] at hhead
    cases hhead
  | succ n ih =>
    rw [expireLoop, sat_bind, sat_get]
    cases hhead : w.idle.head with
    | none => exact h.expiresDue (by simp [hhead])
    | some sid =>
      obtain ⟨hidle, s, hs⟩ := open_of_head h.wf h.slots hhead
      dsimp only
      rw [sat_bind, sat_of_ok (show deref sid w = .ok (s, w) by rw [deref, hs])]
      split
      · next hshort =>
        refine h.expiresDue fun sid' hhead' => ?_
        rw [hhead] at hhead'
        cases hhead'
        exact ⟨s, hs, hshort⟩
      · next hlong =>
        have hdue : w.Due timeout sid := by
          obtain ⟨s', hs', hmark⟩ := (h.listed sid).1 hidle
          have hs' : w.sessions sid = some s' := hs'
          rw [hs] at hs'
          cases hs'
          exact ⟨s, hs, hmark, Nat.le_of_not_lt hlong⟩
        have hloop : ∀ w₁ : World, w₁.Ready H ∧ ExpiresHead w sid w₁ →
            Sat (expireLoop w.clock timeout n) w₁ (fun _ w' => ExpiresDue timeout w w')
              fun _ => False := by
          rintro w₁ ⟨h₁, ht⟩
          obtain ⟨sids₁, hrepr₁⟩ := h₁.wf.idle
          have hsub : ∀ sid', w₁.idle.mem sid' = true → w.idle.mem sid' = true := by
            intro sid' hmem
            have hne : sid' ≠ sid := by
              rintro rfl
              rw [ht.gone] at hmem
              cases hmem
            have hidle' : w₁.idle.mem sid' = w.idle.mem sid' :=
              congrArg Slot.idle (ht.others sid' hne)
            exact hidle' ▸ hmem
          have hlen := hrepr.length_lt hrepr₁ hsub hidle ht.gone
          have := ih h₁ hrepr₁ (by omega)
          rw [ht.clock] at this
          exact this.mono (fun _ _ hrest => ht.expiresDue hdue hrest) fun _ hf => hf
        have hturn := (h.sat_turn hs hidle).mono (fun _ w₁ h₁ => hloop w₁ h₁) fun _ hf => hf
        rw [← sat_bind, expireTurn] at hturn
        by_cases hst : stmState s = .relay
        · simpa only [bind_assoc, if_pos hst] using hturn
        · simpa only [bind_assoc, if_neg hst] using hturn

end Expiry

/-! ## Every reachable world -/

section Reachable

variable [Inet] {w w' : World}

omit [Inet] in
/-- The idle list is `sids`: its links spell out the open sessions that were not expired, each once,
in the order of last use. -/
structure World.IdleList (w : World) (sids : List Sid) : Prop where
  repr : w.idle.Repr sids
  mem_iff : ∀ sid, sid ∈ sids ↔ ∃ s, w.sessions sid = some s ∧ s.ttlExpired = false
  byAge : ByAge w.lastUse sids

/-- What the idle list is for: the sessions it holds, and what is expired now. -/
structure World.ExpiresOnTime (w : World) : Prop where
  list : ∃ sids, w.IdleList sids
  expire : ∀ env, 0 < storeConfigGet w.store .timeout →
    ∃ w', step w (.expire env) = .ok w' ∧ ExpiresDue (storeConfigGet w.store .timeout) w w'

omit [Inet] in
/-- A process in order whose idle list is in order. -/
theorem World.Inv.ready (hinv : w.Inv) (hlisted : ∀ sid, (slot w sid).Listed) (haged : w.Aged)
    (env : Env) : World.Ready Set.univ { w with env := env } where
  wf := hinv.wf env.handsOut_univ
  slots := hinv.slots
  listed := hlisted
  aged := durable_aged.same haged rfl rfl rfl rfl

omit [Inet] in
theorem World.Ready.idleList {H : Set Fd} (h : w.Ready H) : ∃ sids, w.IdleList sids := by
  obtain ⟨sids, hrepr, hage⟩ := h.aged.order
  exact ⟨sids, hrepr, fun sid => (hrepr.mem sid).symm.trans (h.listed sid), hage⟩

/-- **The sessions that are due are expired.** -/
theorem World.Ready.expire {env : Env} (h : World.Ready Set.univ { w with env := env })
    (htimeout : 0 < storeConfigGet w.store .timeout) :
    ∃ w', step w (.expire env) = .ok w' ∧
      ExpiresDue (storeConfigGet w.store .timeout) { w with env := env } w' := by
  obtain ⟨sids, hrepr⟩ := h.wf.idle
  have hlt : ∀ sid, w.idle.mem sid = true → sid < w.nextSid := by
    intro sid hmem
    obtain ⟨s, hs, -⟩ := (h.listed sid).1 hmem
    exact of_decide_eq_true ((h.slots sid).used (by rw [hs]; exact nofun))
  have hloop : Sat (expireLoop w.clock (storeConfigGet w.store .timeout) w.nextSid) _
      (fun _ w' => ExpiresDue _ { w with env := env } w') fun _ => False :=
    sat_expireLoop_due h hrepr (hrepr.length_le hlt)
  have hsat : Sat (Event.program (.expire env)) w (fun _ w' =>
      ExpiresDue (storeConfigGet w.store .timeout) { w with env := env } w') fun _ => False := by
    refine (sat_bind ..).2 ((sat_modify _).2 ?_)
    rw [socksServerExpireIdle, sat_bind, sat_get]
    dsimp only
    rw [if_neg (Nat.ne_of_gt htimeout)]
    exact hloop
  cases hstep : step w (.expire env) with
  | ok w' => exact ⟨w', rfl, step_of_sat hsat hstep⟩
  | error f => exact (fault_of_sat hsat hstep).elim

theorem reaches_aged {listenFd monitorFd : Fd}
    (h : Reaches step (World.boot listenFd monitorFd) w) : w.Aged := by
  refine h.inv ⟨⟨[], Linked.Repr.empty, ByAge.nil⟩, fun sid t ht => by cases ht⟩ ?_
  exact fun _ _ _ ha hstep => durable_aged.step ha hstep

theorem reaches_listed {listenFd monitorFd : Fd}
    (h : Reaches step (World.boot listenFd monitorFd) w) (sid : Sid) : (slot w sid).Listed :=
  slots_of_reaches (fun hstep _ hl => hstep.listed hl)
    (iff_of_false nofun (by rintro ⟨s, hs, -⟩; cases hs)) h sid

/-- **Idle sessions expire on time.**  All along every run of the proxy, the idle list is a
well-formed list without duplicates of the open sessions that were not expired, in the order of
their last activity; and whenever `socks_server_expire_idle` runs, whatever the timeout, it ends,
having marked and removed the sessions that were idle for that long, and left the others alone. -/
theorem idle_expiry (listenFd monitorFd : Fd) (es : List Event) :
    Visits step World.ExpiresOnTime (World.boot listenFd monitorFd) es := by
  refine visits_of_reaches (fun w h => ?_) es
  have hready := (reaches_inv h).ready (reaches_listed h) (reaches_aged h)
  refine ⟨?_, fun env htimeout => ?_⟩
  · exact (hready w.env).idleList
  · obtain ⟨w', hstep, hdue⟩ := (hready env).expire htimeout
    exact ⟨w', hstep, hdue.due, hdue.others, hdue.finished⟩

end Reachable

end SocksProxy
