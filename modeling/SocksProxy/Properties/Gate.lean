import SocksProxy.Lib.Histories
import SocksProxy.Socks.Machine

/-!
# The gate

Behind the handshake a session looks names up, opens connections and moves bytes.  It gets there
only through the gate: a greeting that was accepted without authentication, or one that asked for it
followed by credentials the store knows (`SocksSession.Passed`).  The state of a session is set in
two ways, by what a hook returns and by what a hook stores on its way, and none of them goes back.
-/

set_option autoImplicit false

namespace SocksProxy

/-- The session's greeting was accepted, and its credentials were validated if it asked for that. -/
def SocksSession.Passed (s : SocksSession) (t : List Obs) : Prop :=
  Obs.greeted s.greeting.chosenMethod ∈ t ∧
    (s.greeting.chosenMethod = socksMethodNoauth ∨
      s.greeting.chosenMethod = socksMethodUserpass ∧
        ∃ store, Obs.validated s.auth store ∈ t ∧ socksAuthValidate s.auth store = true)

/-- A greeting was accepted, and credentials were validated if it asked for that. -/
def GatePassed (t : List Obs) : Prop :=
  ∃ method, Obs.greeted method ∈ t ∧
    (method = socksMethodNoauth ∨ method = socksMethodUserpass ∧
      ∃ auth store, Obs.validated auth store ∈ t ∧ socksAuthValidate auth store = true)

/-- The start of a `getaddrinfo` or of a `connect`. -/
def Obs.isStart : Obs → Bool
  | .lookup _ => true
  | .connect .. => true
  | _ => false

/-- How far behind the gate a session can be, given its state. -/
def SocksSession.Gate (s : SocksSession) (t : List Obs) : Prop :=
  match stmState s with
  | .authGreeting => True
  | .authUserpass =>
    Obs.greeted s.greeting.chosenMethod ∈ t ∧ s.greeting.chosenMethod = socksMethodUserpass
  | .done => True
  | _ => s.Passed t

section

variable {s s' : SocksSession} {t : List Obs}

theorem SocksSession.Passed.append (h : s.Passed t) (hg : s'.greeting = s.greeting)
    (ha : s'.auth = s.auth) (obs : List Obs) : s'.Passed (t ++ obs) := by
  rw [SocksSession.Passed, hg, ha]
  refine ⟨List.mem_append_left _ h.1, h.2.imp id fun ⟨hup, store, hv, hval⟩ => ?_⟩
  exact ⟨hup, store, List.mem_append_left _ hv, hval⟩

theorem GatePassed.append (h : GatePassed t) (obs : List Obs) : GatePassed (t ++ obs) := by
  obtain ⟨m, hg, hor⟩ := h
  refine ⟨m, List.mem_append_left _ hg, hor.imp id fun ⟨hup, auth, store, hv, hval⟩ => ?_⟩
  exact ⟨hup, auth, store, List.mem_append_left _ hv, hval⟩

theorem SocksSession.Gate.append (h : s.Gate t) (hst : stmState s' = stmState s)
    (hg : s'.greeting = s.greeting) (ha : s'.auth = s.auth) (obs : List Obs) :
    s'.Gate (t ++ obs) := by
  unfold SocksSession.Gate at h ⊢
  rw [hst]
  split at h
  · trivial
  · rw [hg]
    exact ⟨List.mem_append_left _ h.1, h.2⟩
  · trivial
  · exact h.append hg ha obs

theorem Deciding.auth_eq {s₁ : SocksSession} (hd : Deciding s s₁) : s₁.auth = s.auth := by
  cases hd <;> rfl

end

/-- The gate of a slot. -/
structure Slot.GateOk (sl : Slot) : Prop where
  gate : ∀ s, sl.sess = some s → s.Gate sl.hist
  before : Preceded (fun o => o.isStart = true) GatePassed sl.hist

namespace Slot.GateOk

variable {sl sl' : Slot} {s s' : SocksSession} {obs : List Obs}

theorem before_append (h : sl.GateOk) (hobs : ∀ o ∈ obs, o.isStart = true → GatePassed sl.hist) :
    Preceded (fun o => o.isStart = true) GatePassed (sl.hist ++ obs) :=
  h.before.append fun _ o ho hst => (hobs o (List.mem_of_getElem? ho) hst).append _

theorem grow (h : sl.GateOk) (hs' : sl'.sess = some s') (hh : sl'.hist = sl.hist ++ obs)
    (hgate : s'.Gate (sl.hist ++ obs)) (hobs : ∀ o ∈ obs, o.isStart = true → GatePassed sl.hist) :
    sl'.GateOk where
  gate := by
    rw [hs', hh]
    rintro _ ⟨⟩
    exact hgate
  before := by
    rw [hh]
    exact h.before_append hobs

/-- A step that leaves the state and the parsers of the handshake alone. -/
theorem stay (h : sl.GateOk) (hs : sl.sess = some s) (hs' : sl'.sess = some s')
    (hh : sl'.hist = sl.hist ++ obs) (hst : stmState s' = stmState s)
    (hg : s'.greeting = s.greeting) (ha : s'.auth = s.auth) (hobs : ∀ o ∈ obs, o.isStart = false) :
    sl'.GateOk := by
  refine h.grow hs' hh ((h.gate s hs).append hst hg ha obs) fun o ho hs => ?_
  rw [hobs o ho] at hs
  cases hs

/-- A step that closes the session or refuses it. -/
theorem finish (h : sl.GateOk) (hs' : ∀ s', sl'.sess = some s' → stmState s' = .done)
    (hh : sl'.hist = sl.hist ++ obs) (hobs : ∀ o ∈ obs, o.isStart = true → GatePassed sl.hist) :
    sl'.GateOk where
  gate := by
    intro s' hs
    unfold SocksSession.Gate
    rw [hs' s' hs]
    trivial
  before := by
    rw [hh]
    exact h.before_append hobs

end Slot.GateOk

section Onward

variable [Inet] {mode : Mode} {sl sl' : Slot} {s s' : SocksSession}

omit [Inet] in
theorem SocksState.rank_le_six (st : SocksState) : st.rank ≤ 6 := by cases st <;> simp [rank]

omit [Inet] in
theorem Deciding.rank_le {s₁ : SocksSession} (h : Deciding s s₁) :
    (stmState s).rank ≤ SocksState.originConnecting.rank := by
  cases h with
  | request st => simp [st, SocksState.rank]
  | resolving st => simp [st, SocksState.rank]
  | connecting st => simp [st, SocksState.rank]

theorem SessionStep.rank_le (h : SessionStep mode sl sl') (hu : sl.used = true)
    (hs : sl.sess = some s) (hs' : sl'.sess = some s') :
    (stmState s).rank ≤ (stmState s').rank := by
  have hset : ∀ {s₁ s₂ : SocksSession}, sl.sess = some s₁ → some s₂ = some s' →
      (stmState s₁).rank ≤ (stmState s₂).rank → (stmState s).rank ≤ (stmState s').rank := by
    rintro s₁ s₂ hs₁ ⟨⟩ hle
    rw [hs] at hs₁
    cases hs₁
    exact hle
  cases h with
  | accept fresh | discard fresh =>
    rw [hu] at fresh
    cases fresh
  | book sess stm_eq =>
    refine hset sess hs' ?_
    rcases stm_eq with rfl | rfl <;> exact Nat.le_refl _
  | recv sess | greetMore sess | authMore sess | requestMore sess | send sess | forward sess
  | fetch sess | resolved sess => exact hset sess hs' (Nat.le_refl _)
  | sendBlocked sess | forwardBlocked sess | armClient sess | armOrigin sess | block _ _ sess =>
    exact hset sess (sess.symm.trans hs') (Nat.le_refl _)
  | greetAccept sess st =>
    refine hset sess hs' ?_
    rw [st]
    exact Nat.zero_le _
  | authAccept sess st | lookup sess st | connected sess st =>
    refine hset sess hs' ?_
    rw [st]
    exact Nat.le_succ _
  | dial sess deciding => exact hset sess hs' deciding.rank_le
  | greetReject sess | authReject sess | refuse sess | expire sess =>
    exact hset sess hs' (SocksState.rank_le_six _)
  | close => cases hs'

/-- What a session does over a whole run. -/
def Evolves : Slot → Slot → Prop := Relation.ReflTransGen fun a b => ∃ mode, SessionStep mode a b

theorem Evolves.rank_le (h : Evolves sl sl') (hu : sl.used = true) (hs : sl.sess = some s) :
    sl'.used = true ∧ ∀ s', sl'.sess = some s' → (stmState s).rank ≤ (stmState s').rank := by
  induction h with
  | refl =>
    refine ⟨hu, fun s' hs' => ?_⟩
    rw [hs] at hs'
    cases hs'
    exact Nat.le_refl _
  | tail _ hstep ih =>
    obtain ⟨mode, hstep⟩ := hstep
    obtain ⟨hu', hle⟩ := ih
    have hpers := hstep.persists hu'
    refine ⟨hpers.used, fun s' hs' => ?_⟩
    obtain ⟨s₁, hs₁, -⟩ := hpers.sess s' hs'
    exact Nat.le_trans (hle s₁ hs₁) (hstep.rank_le hu' hs₁ hs')

end Onward

section

variable [Inet] {w w' : World}

end

end SocksProxy
