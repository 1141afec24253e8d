import SocksProxy.Lib.Histories
import SocksProxy.Socks.Machine
import SocksProxy.Shared.InetText

/-!
# The origin of a refused session

The origin of a session is spoken to in the tunnel only, and it is not heard once the client was
told that there is no tunnel.  `socks_expire_session_pre_relay` leaves the socket of a pending
connection registered, and `socks_origin_write` and `socks_origin_read` treat every state that is
not `SOCKS_ST_ORIGIN_CONNECTING` as the tunnel.  So a session that expired while it was connecting,
and whose client does not take the reply, is served by its origin after all.  `Event.late` is the
event that does this; in a run without such an event the promise is kept.
-/

set_option autoImplicit false

namespace SocksProxy

/-- A `write()` to the origin. -/
def Obs.isForward : Obs → Bool
  | .forwarded .. => true
  | _ => false

/-- Bytes read from the origin. -/
def Obs.isFetch : Obs → Bool
  | .fetched bs => !bs.isEmpty
  | _ => false

/-- The client was told of its tunnel. -/
def Told (t : List Obs) : Prop := Obs.reply (connectReply socksRepSucceeded) ∈ t

/-- The client was told that there is none. -/
def Refused (t : List Obs) : Prop :=
  ∃ rep, rep ≠ socksRepSucceeded ∧ Obs.reply (connectReply rep) ∈ t

/-- Writes to the origin are made in `SOCKS_ST_RELAY`. -/
def ForwardsInRelay (t : List Obs) : Prop :=
  ∀ st bs asked, Obs.forwarded st bs asked ∈ t → st = .relay

/-- The origin is written to in the tunnel only, and not heard after a refusal. -/
structure ServedInTunnel (t : List Obs) : Prop where
  relay : ForwardsInRelay t
  told : Preceded (fun o => o.isForward = true) Told t
  heard : Preceded (fun o => o.isFetch = true) (fun t => ¬ Refused t) t

namespace ServedInTunnel

variable {t obs : List Obs}

theorem nil : ServedInTunnel [] := ⟨nofun, .nil, .nil⟩

theorem append_of_not (h : ServedInTunnel t) (hf : ∀ o ∈ obs, o.isForward = false)
    (hg : ∀ o ∈ obs, o.isFetch = false) : ServedInTunnel (t ++ obs) where
  relay := fun st bs asked hm => (List.mem_append.1 hm).elim (h.relay st bs asked) fun hm => by
    cases hf _ hm
  told := h.told.append_of_not fun o ho => by simp [hf o ho]
  heard := h.heard.append_of_not fun o ho => by simp [hg o ho]

end ServedInTunnel

/-- Where a session stands with its origin. -/
structure Slot.OriginOk (sl : Slot) : Prop where
  served : ServedInTunnel sl.hist
  told : ∀ s, sl.sess = some s → stmState s = .relay → Told sl.hist
  unrefused : ∀ s, sl.sess = some s → stmState s ≠ .done → ¬ Refused sl.hist

theorem refused_append {t obs : List Obs} : Refused (t ++ obs) ↔ Refused t ∨ Refused obs := by
  simp only [Refused, List.mem_append, and_or_left, exists_or]

namespace Slot.OriginOk

variable {sl sl' : Slot} {s s' : SocksSession} {obs : List Obs}

theorem of_state (hs : sl.sess = some s) (hserved : ServedInTunnel sl.hist)
    (ht : stmState s = .relay → Told sl.hist) (hu : stmState s ≠ .done → ¬ Refused sl.hist) :
    sl.OriginOk where
  served := hserved
  told := fun s' hs' => by rw [hs] at hs'; cases hs'; exact ht
  unrefused := fun s' hs' => by rw [hs] at hs'; cases hs'; exact hu

theorem of_closed (hs : sl.sess = none) (hserved : ServedInTunnel sl.hist) : sl.OriginOk where
  served := hserved
  told := fun s' hs' => by rw [hs] at hs'; cases hs'
  unrefused := fun s' hs' => by rw [hs] at hs'; cases hs'

/-- A step that does not end the session, with what it adds to the history. -/
theorem grow (h : sl.OriginOk) (hs : sl.sess = some s) (hs' : sl'.sess = some s')
    (hh : sl'.hist = sl.hist ++ obs) (hserved : ServedInTunnel (sl.hist ++ obs))
    (ht : stmState s' = .relay → stmState s = .relay ∨ Told obs)
    (hu : stmState s' ≠ .done → stmState s ≠ .done ∧ ¬ Refused obs) : sl'.OriginOk := by
  refine .of_state hs' (hh ▸ hserved) (fun hst => ?_) fun hst hr => ?_
  · rw [hh]
    exact (ht hst).elim (fun hst' => List.mem_append_left _ (h.told s hs hst'))
      (List.mem_append_right _)
  · rw [hh, refused_append] at hr
    exact hr.elim (h.unrefused s hs (hu hst).1) (hu hst).2

/-- A step that leaves the origin and the state alone. -/
theorem stay (h : sl.OriginOk) (hs : sl.sess = some s) (hs' : sl'.sess = some s')
    (hh : sl'.hist = sl.hist ++ obs) (hst : stmState s' = stmState s)
    (hf : ∀ o ∈ obs, o.isForward = false) (hg : ∀ o ∈ obs, o.isFetch = false)
    (hr : ∀ bs, Obs.reply bs ∉ obs) : sl'.OriginOk := by
  refine h.grow hs hs' hh (h.served.append_of_not hf hg) (fun h => .inl (hst ▸ h)) fun h => ?_
  exact ⟨hst ▸ h, fun ⟨rep, _, hm⟩ => hr _ hm⟩

/-- A step to another state, neither `SOCKS_ST_RELAY` nor out of `SOCKS_ST_DONE`. -/
theorem move (h : sl.OriginOk) (hs : sl.sess = some s) (hs' : sl'.sess = some s')
    (hh : sl'.hist = sl.hist ++ obs) (hne : stmState s ≠ .done) (hne' : stmState s' ≠ .relay)
    (hf : ∀ o ∈ obs, o.isForward = false) (hg : ∀ o ∈ obs, o.isFetch = false)
    (hr : stmState s' ≠ .done → ¬ Refused obs) : sl'.OriginOk :=
  h.grow hs hs' hh (h.served.append_of_not hf hg) (fun h => absurd h hne') fun h => ⟨hne, hr h⟩

end Slot.OriginOk

theorem isForward_of_isProbe {o : Obs} (h : o.isProbe = true) : o.isForward = false := by
  cases o <;> first | rfl | cases h

theorem isFetch_of_isProbe {o : Obs} (h : o.isProbe = true) : o.isFetch = false := by
  cases o <;> first | rfl | cases h

theorem Deciding.ne_done {s s₁ : SocksSession} (h : Deciding s s₁) : stmState s ≠ .done := by
  intro hd
  have := h.isPast_eq
  rw [hd] at this
  cases this

/-- A session in the tunnel is all that is served when nobody is late. -/
theorem Served.relay {mode : Mode} {s : SocksSession} (h : Served mode s) (hm : mode ≠ .late) :
    stmState s = .relay := h.resolve_right fun hl => hm hl.1

/-- A `write()` to the origin of a tunnel. -/
theorem Slot.OriginOk.forward {sl sl' : Slot} {s s' : SocksSession} {bs : Bytes} {n : ℕ}
    (h : sl.OriginOk) (hs : sl.sess = some s) (hs' : sl'.sess = some s')
    (hst : stmState s = .relay) (hst' : stmState s' = stmState s)
    (hh : sl'.hist = sl.hist ++ [.forwarded (stmState s) bs n]) : sl'.OriginOk := by
  refine h.grow hs hs' hh ⟨fun st bs' asked hm => ?_, ?_, ?_⟩ (fun h => .inl (hst' ▸ h)) fun h => ?_
  · rcases List.mem_append.1 hm with hm | hm
    · exact h.served.relay st bs' asked hm
    · rw [List.mem_singleton] at hm
      cases hm
      exact hst
  · exact h.served.told.concat fun _ => h.told s hs hst
  · exact h.served.heard.concat fun hf => by cases hf
  · exact ⟨hst' ▸ h, by simp [Refused]⟩

theorem SessionStep.originOk [Inet] {mode : Mode} {sl sl' : Slot} (h : SessionStep mode sl sl')
    (hmode : mode ≠ .late) (hok : sl.Ok) (ho : sl.OriginOk) : sl'.OriginOk := by
  cases h with
  | accept fresh =>
    have hnil : sl.hist = [] := hok.fresh fresh
    refine .of_state rfl ho.served (fun hst => by cases hst) fun _ hr => ?_
    rw [show Slot.hist _ = [] from hnil] at hr
    simp [Refused] at hr
  | discard => exact ⟨ho.served, ho.told, ho.unrefused⟩
  | book sess stm_eq =>
    refine ho.stay sess rfl (List.append_nil _).symm ?_ (by simp) (by simp) (by simp)
    rcases stm_eq with rfl | rfl <;> rfl
  | greetMore sess | authMore sess | requestMore sess | resolved sess =>
    exact ho.stay sess rfl (List.append_nil _).symm rfl (by simp) (by simp) (by simp)
  | armClient sess | armOrigin sess =>
    exact ho.stay sess sess (List.append_nil _).symm rfl (by simp) (by simp) (by simp)
  | recv sess | send sess =>
    exact ho.stay sess rfl rfl rfl (by simp [Obs.isForward]) (by simp [Obs.isFetch]) (by simp)
  | sendBlocked sess | block _ _ sess =>
    exact ho.stay sess sess rfl rfl (by simp [Obs.isForward]) (by simp [Obs.isFetch]) (by simp)
  | forward sess origin served => exact ho.forward sess rfl (served.relay hmode) rfl rfl
  | forwardBlocked sess origin served => exact ho.forward sess sess (served.relay hmode) rfl rfl
  | fetch sess armed read served ne =>
    have hst := served.relay hmode
    have hne : stmState _ ≠ .done := fun hd => by rw [hst] at hd; cases hd
    refine ho.grow sess rfl rfl ⟨fun st bs' asked hm => ?_, ?_, ?_⟩ .inl fun _ => ?_
    · rcases List.mem_append.1 hm with hm | hm
      · exact ho.served.relay st bs' asked hm
      · simp at hm
    · exact ho.served.told.concat fun hf => by cases hf
    · exact ho.served.heard.concat fun _ => ho.unrefused _ sess hne
    · exact ⟨hne, by simp [Refused]⟩
  | greetAccept sess st =>
    refine ho.move sess rfl rfl (by simp [st]) ?_ (by simp [Obs.isForward]) (by simp [Obs.isFetch])
      fun _ => by simp [Refused, connectReply]
    show (if _ then _ else _) ≠ SocksState.relay
    split <;> simp
  | greetReject sess st | authReject sess st =>
    exact ho.move sess rfl rfl (by simp [st]) (fun hst => by cases hst)
      (by simp [Obs.isForward]) (by simp [Obs.isFetch]) (absurd rfl)
  | authAccept sess st =>
    exact ho.move sess rfl rfl (by simp [st]) (fun hst => by cases hst)
      (by simp [Obs.isForward]) (by simp [Obs.isFetch]) fun _ => by simp [Refused, connectReply]
  | refuse sess deciding refusal =>
    have hprobe := refusal.isProbe
    refine ho.move sess rfl (List.append_assoc ..) deciding.ne_done (fun hst => by cases hst)
      (fun o ho => ?_) (fun o ho => ?_) (absurd rfl)
    · rcases List.mem_append.1 ho with ho | ho
      · exact isForward_of_isProbe (hprobe o ho)
      · rw [List.mem_singleton.1 ho]
        rfl
    · rcases List.mem_append.1 ho with ho | ho
      · exact isFetch_of_isProbe (hprobe o ho)
      · rw [List.mem_singleton.1 ho]
        rfl
  | lookup sess st =>
    exact ho.move sess rfl rfl (by simp [st]) (fun hst => by cases hst)
      (by simp [Obs.isForward]) (by simp [Obs.isFetch]) fun _ => by simp [Refused]
  | dial sess deciding allowed =>
    have hprobe := allowed.isProbe
    refine ho.move sess rfl rfl deciding.ne_done (fun hst => by cases hst)
      (fun o ho => isForward_of_isProbe (hprobe o ho))
      (fun o ho => isFetch_of_isProbe (hprobe o ho)) fun _ => ?_
    rintro ⟨rep, -, hm⟩
    cases hprobe _ hm
  | connected sess st =>
    refine ho.grow sess rfl rfl (ho.served.append_of_not (by simp [Obs.isForward])
      (by simp [Obs.isFetch])) (fun _ => .inr (by simp [Told])) fun _ => ⟨by simp [st], ?_⟩
    rintro ⟨rep, hne, hm⟩
    simp [connectReply] at hm
    exact hne hm
  | expire sess idle st =>
    exact ho.grow sess rfl rfl (ho.served.append_of_not (by simp [Obs.isForward])
      (by simp [Obs.isFetch])) (fun hst => by cases hst) (absurd rfl)
  | close sess ending =>
    refine .of_closed rfl ?_
    rw [List.append_assoc]
    refine ho.served.append_of_not ?_ ?_
    · cases ending <;> simp [Obs.isForward]
    · cases ending <;> simp [Obs.isFetch]

section

variable [Inet] {w : World} {e : Event}

omit [Inet] in
/-- An event that is not late makes no late steps. -/
theorem mode_ne_late (h : e.late w = false) : e.mode w ≠ .late := by
  cases e with
  | notifications => simp [Event.mode]
  | _ => simp [Event.mode, h, Mode.ofLate]

/-- **The origin is served in the tunnel only, unless a refused session keeps its origin.**  In
every run in which no readiness event of an origin finds its session in `SOCKS_ST_DONE` with bytes
to move, `write()` is called on an origin in `SOCKS_ST_RELAY` only and after the client was told of
its tunnel, and no byte is taken from an origin after the client was told that there is none. -/
theorem served_in_tunnel_along (listenFd monitorFd : Fd) (es : List Event)
    (h : Along step (fun w e => e.late w = false) (World.boot listenFd monitorFd) es) :
    Visits step (fun w => ∀ sid, ServedInTunnel (w.hist sid))
      (World.boot listenFd monitorFd) es := by
  have hvisits : Visits step (fun w => ∀ sid, (slot w sid).OriginOk)
      (World.boot listenFd monitorFd) es := by
    refine visits_of_along (I := World.Inv) (fun w e w' hinv hstep => (step_acts hinv hstep).1)
      (fun w e w' hinv ho hlate hstep sid => ?_) (boot_inv ..) (fun sid => ?_) h
    · exact SessionSteps.keeps (fun hs hok ho => hs.originOk (mode_ne_late hlate) hok ho)
        ((step_acts hinv hstep).2 sid).steps (hinv.slots sid) (ho sid)
    · exact .of_closed rfl .nil
  exact hvisits.mono fun w hw sid => (hw sid).served

end

section Runs

attribute [local instance] InetText.inet

/-- A client sends bytes along with its CONNECT request, does not take the reply that its time is
up, and then the connection is made and the origin answers. -/
def servedLate : List Event :=
  [.admin (.config .timeout 60 true)] ++ greeted ++
    [.readable 7
      { read := [.data [5, 1, 0, 1, 10, 0, 0, 1, 0, 80, 1, 2, 3]], socket := [some 8] },
    .tick 60, .expire { write := [.again] }, .writable 8 { write := [.ok 3] },
    .readable 8 { read := [.data [9]] }]

theorem served_in_tunnel_tunnelled :
    Along step (fun w e => e.late w = false) (World.boot 3 4) tunnelled ∧
      Visits step (fun w => ∀ sid, ServedInTunnel (w.hist sid)) (World.boot 3 4) tunnelled :=
  have h : Along step (fun w e => e.late w = false) (World.boot 3 4) tunnelled :=
    along_of_meets (by decide +kernel)
  ⟨h, served_in_tunnel_along 3 4 tunnelled h⟩

/-- A `write()` outside the tunnel. -/
def Obs.isLateForward : Obs → Bool
  | .forwarded .done _ _ => true
  | _ => false

/-- The reply of an expiry. -/
def Obs.isTtlExpired : Obs → Bool
  | .reply bs => decide (bs = connectReply socksRepTtlExpired)
  | _ => false

/-- This origin was sent the client's bytes in `SOCKS_ST_DONE`, and then heard. -/
theorem served_outside_tunnel :
    ∃ w, run step (World.boot 3 4) servedLate = .ok w ∧ ¬ ForwardsInRelay (w.hist 0) ∧
      ¬ Preceded (fun o => o.isFetch = true) (fun t => ¬ Refused t) (w.hist 0) := by
  obtain ⟨w, hrun, htest⟩ := exists_of_endsIn (r := run step (World.boot 3 4) servedLate)
    (show endsIn (fun w => (w.hist 0).any Obs.isLateForward &&
      ((w.hist 0)[(w.hist 0).length - 2]?.any Obs.isFetch &&
        ((w.hist 0).take ((w.hist 0).length - 2)).any Obs.isTtlExpired)) _ = true
      by decide +kernel)
  rw [Bool.and_eq_true, Bool.and_eq_true] at htest
  obtain ⟨hforward, hfetch, hexpired⟩ := htest
  refine ⟨w, hrun, fun h => ?_, fun h => ?_⟩
  · obtain ⟨o, ho, hlate⟩ := List.any_eq_true.1 hforward
    unfold Obs.isLateForward at hlate
    split at hlate
    · cases h _ _ _ ho
    · cases hlate
  · obtain ⟨o, ho, hf⟩ := (Option.any_eq_true ..).1 hfetch
    obtain ⟨o', ho', hr⟩ := List.any_eq_true.1 hexpired
    refine h _ o ho hf ⟨socksRepTtlExpired, by decide, ?_⟩
    unfold Obs.isTtlExpired at hr
    split at hr
    · rw [← of_decide_eq_true hr]
      exact ho'
    · cases hr

end Runs

end SocksProxy
