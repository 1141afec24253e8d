import Mathlib.Data.List.Chain
import SocksProxy.Socks.Machine
import SocksProxy.Shared.InetText

/-!
# The deny list

No connection is opened to an address the administrator denied, and a client that asks for one is
told so.  An IPv4 address has two spellings, of which `::ffff:a` is an IPv6 address to
`socks_dest_addr_is_denied`: it is looked up among the IPv6 rules only.  So the deny list holds on
all four paths to `connect()` except for this spelling, and there exactly when the spelling has no
rule of its own (`Slips`).
-/

set_option autoImplicit false

namespace SocksProxy

/-- The address reaches an IP address that is denied. -/
def ReachesDenied (rules : List AclRule) : SockAddr → Prop
  | .inet a _ => AclRule.ipv4 a ∈ rules
  | .inet6 b _ => AclRule.ipv6 b ∈ rules ∨ ∃ a, b = v4Mapped a ∧ AclRule.ipv4 a ∈ rules
  | .other _ => False

/-- The address is `::ffff:a` for a denied `a`, and is not denied itself. -/
def Slips (rules : List AclRule) : SockAddr → Prop
  | .inet6 b _ => AclRule.ipv6 b ∉ rules ∧ ∃ a, b = v4Mapped a ∧ AclRule.ipv4 a ∈ rules
  | _ => False

section Rules

variable [Inet] {rules : List AclRule}

theorem addrDenied_inet (a : InAddr) (port : UInt16) :
    addrDenied rules (.inet a port) = true ↔ AclRule.ipv4 a ∈ rules := by
  simp [addrDenied, ipRuleMatch]

theorem addrDenied_inet6 (b : In6Addr) (port : UInt16) :
    addrDenied rules (.inet6 b port) = true ↔ AclRule.ipv6 b ∈ rules := by
  simp [addrDenied, ipRuleMatch]

/-- The check finds every address that reaches a denied one, but for those that slip through. -/
theorem reachesDenied_iff (addr : SockAddr) :
    ReachesDenied rules addr ↔ addrDenied rules addr = true ∨ Slips rules addr := by
  cases addr with
  | inet a port => simp [ReachesDenied, addrDenied_inet, Slips]
  | inet6 b port =>
    rw [ReachesDenied, addrDenied_inet6, Slips]
    by_cases hb : AclRule.ipv6 b ∈ rules <;> simp [hb]
  | other f => simp [ReachesDenied, addrDenied, Slips]

theorem Slips.not_denied {addr : SockAddr} (h : Slips rules addr) :
    addrDenied rules addr = false := by
  cases addr with
  | inet a port => cases h
  | inet6 b port =>
    rw [← Bool.not_eq_true, addrDenied_inet6]
    exact h.1
  | other f => cases h

end Rules

/-! ## What the history says -/

/-- `connect()` is not called for an address that reaches a denied one, and who asks for one is
answered at once with `SOCKS_REP_DENIED_BY_RULESET`. -/
structure DenyKept (t : List Obs) : Prop where
  connect : ∀ addr rules, Obs.connect addr rules ∈ t → ¬ ReachesDenied rules addr
  answer : ∀ (n : ℕ) addr rules, t[n]? = some (Obs.attempt addr rules) →
    ReachesDenied rules addr → t[n + 1]? = some (.reply (connectReply socksRepDeniedByRuleset))

section Concludes

variable [Inet] {t obs : List Obs}

/-- The refusal of a denied destination. -/
def denial : Obs := .reply (connectReply socksRepDeniedByRuleset)

/-- After a check comes the refusal exactly when the check found its destination denied. -/
def Follows (o o' : Obs) : Prop :=
  ∀ addr rules, o = .attempt addr rules → (addrDenied rules addr = true ↔ o' = denial)

/-- Every check is followed by what it leads to. -/
structure Concludes (t : List Obs) : Prop where
  chain : t.IsChain Follows
  last : ∀ addr rules, t.getLast? ≠ some (.attempt addr rules)

theorem Allowed.follows {o o' : Obs} (h : Allowed o) (ho : o' ≠ denial) : Follows o o' := by
  rintro addr rules rfl
  exact iff_of_false (by rw [show addrDenied rules addr = false from h]; simp) ho

theorem Concludes.append (h : Concludes t) (h' : Concludes obs) : Concludes (t ++ obs) where
  chain := h.chain.append h'.chain fun o ho _ _ addr rules heq =>
    absurd (heq ▸ ho) (h.last addr rules)
  last := by
    intro addr rules hl
    rw [List.getLast?_append] at hl
    rcases Option.or_eq_some_iff.1 hl with hl | ⟨-, hl⟩
    · exact h'.last addr rules hl
    · exact h.last addr rules hl

/-- Entries without a check. -/
theorem Concludes.of_none (h : ∀ addr rules, Obs.attempt addr rules ∉ obs) : Concludes obs where
  chain := by
    refine (List.pairwise_of_forall_mem_list fun o ho _ _ addr rules heq => ?_).isChain
    exact absurd (heq ▸ ho) (h addr rules)
  last := fun addr rules hl => h addr rules (List.mem_of_getLast? hl)

/-- Allowed destinations, and something that is not the refusal. -/
theorem isChain_allowed {o : Obs} (h : ∀ o ∈ obs, Allowed o) (hne : obs = [] ∨ o ≠ denial) :
    (obs ++ [o]).IsChain Follows := by
  have hchain : obs.IsChain Follows := by
    refine (List.pairwise_of_forall_mem_list fun o ho o' ho' => ?_).isChain
    exact (h o ho).follows fun hd => by have := h o' ho'; rw [hd] at this; exact this
  refine hchain.append (List.isChain_singleton _) fun x hx y hy => ?_
  obtain rfl : o = y := by simpa using hy
  refine (h x (List.mem_of_getLast? hx)).follows (hne.resolve_left ?_)
  rintro rfl
  cases hx

/-- A refusal concludes. -/
theorem Refusal.concludes {rep : UInt8} (h : Refusal obs rep) :
    Concludes (obs ++ [.reply (connectReply rep)]) := by
  refine ⟨?_, by simp⟩
  rcases h with ⟨hp, hrep⟩ | ⟨rfl, obs', addr, rules, rfl, hd, hp⟩
  · refine isChain_allowed hp.allowed (hrep.imp id fun hne heq => hne ?_)
    simpa [denial, connectReply] using heq
  · have hchain : (obs' ++ [Obs.attempt addr rules]).IsChain Follows :=
      isChain_allowed hp.allowed (.inr (by simp [denial]))
    refine hchain.append (List.isChain_singleton _) ?_
    intro x hx y hy addr' rules' heq
    obtain rfl : Obs.attempt addr rules = x := by simpa using hx
    obtain rfl : _ = y := by simpa using hy
    cases heq
    exact iff_of_true hd rfl

/-- So does a search that ends in `connect()`. -/
theorem Probes.concludes (h : Probes obs) (he : ∃ obs' a rules, obs = obs' ++ [.connect a rules]) :
    Concludes obs := by
  obtain ⟨obs', a, rules, rfl⟩ := he
  refine ⟨isChain_allowed (fun o ho => h.allowed o (List.mem_append_left _ ho)) (.inr nofun), ?_⟩
  simp

end Concludes

/-- What a slot's history has of the deny list. -/
structure Slot.DenyOk [Inet] (sl : Slot) : Prop where
  concludes : Concludes sl.hist
  checked : ∀ addr rules, Obs.connect addr rules ∈ sl.hist →
    addrDenied rules addr = false ∧ Obs.attempt addr rules ∈ sl.hist

section

variable [Inet] {sl sl' : Slot} {obs : List Obs}

theorem Slot.DenyOk.grow (h : sl.DenyOk) (hh : sl'.hist = sl.hist ++ obs) (hc : Concludes obs)
    (hconn : ∀ addr rules, Obs.connect addr rules ∈ obs →
      addrDenied rules addr = false ∧ Obs.attempt addr rules ∈ obs) : sl'.DenyOk where
  concludes := hh ▸ h.concludes.append hc
  checked := by
    rw [hh]
    intro addr rules hm
    rcases List.mem_append.1 hm with hm | hm
    · exact (h.checked addr rules hm).imp_right (List.mem_append_left _)
    · exact (hconn addr rules hm).imp_right (List.mem_append_right _)

/-- A step that looks for no origin. -/
theorem Slot.DenyOk.stay (h : sl.DenyOk) (hh : sl'.hist = sl.hist ++ obs)
    (hobs : ∀ o ∈ obs, o.isProbe = false) : sl'.DenyOk := by
  refine h.grow hh (.of_none fun addr rules hm => ?_) fun addr rules hm => ?_
  · cases hobs _ hm
  · cases hobs _ hm

theorem Probes.connected (h : Probes obs) {addr : SockAddr} {rules : List AclRule}
    (hm : Obs.connect addr rules ∈ obs) :
    addrDenied rules addr = false ∧ Obs.attempt addr rules ∈ obs :=
  ⟨h.allowed _ hm, h.checked addr rules hm⟩

theorem Refusal.connected {rep : UInt8} (h : Refusal obs rep) {addr : SockAddr}
    {rules : List AclRule} (hm : Obs.connect addr rules ∈ obs) :
    addrDenied rules addr = false ∧ Obs.attempt addr rules ∈ obs := by
  rcases h with ⟨hp, -⟩ | ⟨-, obs', a, r, rfl, -, hp⟩
  · exact hp.connected hm
  · have hm : Obs.connect addr rules ∈ obs' := by simpa using hm
    exact (hp.connected hm).imp_right (List.mem_append_left _)

theorem SessionStep.denyOk {mode : Mode} (h : SessionStep mode sl sl') (hd : sl.DenyOk) :
    sl'.DenyOk := by
  cases h with
  | accept | discard | book | greetMore | authMore | requestMore | armClient | armOrigin
  | resolved => exact hd.stay (List.append_nil _).symm (by simp)
  | recv | greetAccept | greetReject | authAccept | authReject | lookup | connected | send
  | sendBlocked | forward | forwardBlocked | fetch | expire | block =>
    exact hd.stay rfl (by simp [Obs.isProbe])
  | refuse sess deciding refusal =>
    refine hd.grow (List.append_assoc ..) refusal.concludes fun addr rules hm => ?_
    rcases List.mem_append.1 hm with hm | hm
    · exact (refusal.connected hm).imp_right (List.mem_append_left _)
    · simp at hm
  | dial sess deciding allowed ends =>
    exact hd.grow rfl (allowed.concludes ends) fun addr rules hm => allowed.connected hm
  | close sess ending =>
    refine hd.stay (List.append_assoc ..) ?_
    cases ending <;> simp [Obs.isProbe]

/-- A check is followed by the refusal exactly when it found its destination denied. -/
theorem Slot.DenyOk.next (h : sl.DenyOk) {n : ℕ} {addr : SockAddr} {rules : List AclRule}
    (hn : sl.hist[n]? = some (.attempt addr rules)) :
    addrDenied rules addr = true ↔ sl.hist[n + 1]? = some denial := by
  obtain ⟨hlt, heq⟩ := List.getElem?_eq_some_iff.1 hn
  have hlt' : n + 1 < sl.hist.length := by
    by_contra hge
    refine h.concludes.last addr rules ?_
    rw [List.getLast?_eq_getElem?, show sl.hist.length - 1 = n by omega]
    exact hn
  rw [List.getElem?_eq_getElem hlt', Option.some_inj]
  exact h.concludes.chain.getElem n hlt' addr rules heq

theorem Slot.DenyOk.kept_iff (h : sl.DenyOk) :
    DenyKept sl.hist ↔ ∀ addr rules, Obs.attempt addr rules ∈ sl.hist → ¬ Slips rules addr := by
  refine ⟨fun hk addr rules hm hslip => ?_, fun hno => ⟨fun addr rules hm hr => ?_, ?_⟩⟩
  · obtain ⟨n, hn⟩ := List.getElem?_of_mem hm
    have hd := (h.next hn).2 (hk.answer n addr rules hn ((reachesDenied_iff addr).2 (.inr hslip)))
    rw [hslip.not_denied] at hd
    cases hd
  · obtain ⟨hd, hatt⟩ := h.checked addr rules hm
    rcases (reachesDenied_iff addr).1 hr with hr | hr
    · rw [hd] at hr
      cases hr
    · exact hno addr rules hatt hr
  · intro n addr rules hn hr
    refine (h.next hn).1 (((reachesDenied_iff addr).1 hr).resolve_right ?_)
    exact hno addr rules (List.mem_of_getElem? hn)

end

/-- **The deny list holds exactly as long as nobody asks for a denied IPv4 address by its IPv6
name.**  In every run and for every session, `connect()` is never called for an address that reaches
a denied one and every such attempt is answered with `SOCKS_REP_DENIED_BY_RULESET`, if and only if
no address that was tried is `::ffff:a` with `a` denied and `::ffff:a` not. -/
theorem deny_kept_iff [Inet] (listenFd monitorFd : Fd) (es : List Event) :
    Visits step (fun w => ∀ sid, DenyKept (w.hist sid) ↔
      ∀ addr rules, Obs.attempt addr rules ∈ w.hist sid → ¬ Slips rules addr)
      (World.boot listenFd monitorFd) es := by
  refine visits_of_reaches (fun w hw sid => ?_) es
  have hd : (slot w sid).DenyOk := by
    refine slots_of_reaches (fun hstep _ hd => hstep.denyOk hd) ⟨.of_none ?_, ?_⟩ hw sid
    · exact fun addr rules hm => by cases hm
    · exact fun addr rules hm => by cases hm
  exact hd.kept_iff

section Runs

attribute [local instance] InetText.inet

/-- The administrator denies `10.0.0.1`, and a client asks for `::ffff:10.0.0.1`. -/
def slipped : List Event :=
  [.admin (.denyIp [49, 48, 46, 48, 46, 48, 46, 49])] ++ greeted ++
    [.readable 7
      { read := [.data ([5, 1, 0, 4] ++ List.replicate 10 0 ++ [255, 255, 10, 0, 0, 1, 0, 80])]
        socket := [some 8] }]

/-- A connection to `::ffff:10.0.0.1` while `10.0.0.1` is denied. -/
def Obs.isSlip : Obs → Bool
  | .connect (.inet6 b _) rules =>
    decide (b = v4Mapped home ∧ AclRule.ipv4 home ∈ rules)
  | _ => false

/-- It gets its connection. -/
theorem deny_not_kept_slipped :
    ∃ w, run step (World.boot 3 4) slipped = .ok w ∧ ¬ DenyKept (w.hist 0) := by
  obtain ⟨w, hrun, htest⟩ := exists_of_endsIn (r := run step (World.boot 3 4) slipped)
    (show endsIn (fun w => (w.hist 0).any Obs.isSlip) _ = true by decide +kernel)
  refine ⟨w, hrun, fun h => ?_⟩
  obtain ⟨o, ho, hslip⟩ := List.any_eq_true.1 htest
  unfold Obs.isSlip at hslip
  split at hslip
  · exact h.connect _ _ ho (.inr ⟨_, of_decide_eq_true hslip⟩)
  · cases hslip

end Runs

end SocksProxy
