import SocksProxy.Store.Basic

/-!
# The deny lists

`add_host_rule` and `add_ip_rule` are one function on an `AclList`, and so are the two `undeny`
loops.  A rule is matched against text: `ip_rule_match` parses the text of the address it is
given and compares within the family the text parses in.
-/

set_option autoImplicit false

namespace SocksProxy

namespace AclList

/-- `add_host_rule` and `add_ip_rule`: the new node is linked behind the node `last` points at,
cutting off whatever followed it, and becomes the whole list when there is no last node. -/
def addRule (l : AclList) (addr : ℕ) (rule : AclRule) : AclList :=
  match l.last with
  | none => ⟨[(addr, rule)], some addr⟩
  | some t =>
    match l.nodes.findIdx? (·.1 == t) with
    | none => ⟨l.nodes, some addr⟩
    | some i => ⟨l.nodes.take (i + 1) ++ [(addr, rule)], some addr⟩

/-- The loop of `store_undeny_host` and `store_undeny_ip`: unlink the first match. -/
def undeny (l : AclList) (p : AclRule → Bool) : Option AclList :=
  match l.nodes.findIdx? (fun n => p n.2) with
  | none => none
  | some i =>
    let previous := if i = 0 then none else (l.nodes[i - 1]?).map (·.1)
    some ⟨l.nodes.eraseIdx i,
      if (l.nodes[i]?).map (·.1) = l.last then previous else l.last⟩

/-- The rules of the list, in order. -/
def rules (l : AclList) : List AclRule := l.nodes.map (·.2)

end AclList

/-- `host_rule_match`. -/
def hostRuleMatch (rule : AclRule) (hostname : Bytes) : Bool :=
  match rule with
  | .host name => name == hostname
  | _ => false

/-- `is_host_denied`. -/
def isHostDenied (st : MonitorStore) (hostname : Bytes) : Bool :=
  st.deniedHosts.rules.any (hostRuleMatch · hostname)

variable [Inet]

/-- `ip_rule_match`. -/
def ipRuleMatch (rule : AclRule) (ip : Bytes) : Bool :=
  match Inet.pton4 ip with
  | some a => rule == .ipv4 a
  | none =>
    match Inet.pton6 ip with
    | some b => rule == .ipv6 b
    | none => false

/-- `is_ip_denied`. -/
def isIpDenied (st : MonitorStore) (ip : Bytes) : Bool :=
  st.deniedAddresses.rules.any (ipRuleMatch · ip)

/-- `store_deny_host`. -/
def storeDenyHost (st : MonitorStore) (hostname : Bytes) : MonitorStore × Bool :=
  if isHostDenied st hostname then (st, false)
  else if (Inet.pton4 hostname).isSome ∨ (Inet.pton6 hostname).isSome then (st, false)
  else ({ st with
    deniedHosts := st.deniedHosts.addRule st.nextRule (.host hostname)
    nextRule := st.nextRule + 1 }, true)

/-- `store_deny_ip`. -/
def storeDenyIp (st : MonitorStore) (ip : Bytes) : MonitorStore × Bool :=
  if isIpDenied st ip then (st, false)
  else
    let deny (rule : AclRule) : MonitorStore × Bool :=
      ({ st with
        deniedAddresses := st.deniedAddresses.addRule st.nextRule rule
        nextRule := st.nextRule + 1 }, true)
    match Inet.pton4 ip with
    | some a => deny (.ipv4 a)
    | none =>
      match Inet.pton6 ip with
      | some b => deny (.ipv6 b)
      | none => (st, false)

/-- `store_undeny_ip`. -/
def storeUndenyIp (st : MonitorStore) (ip : Bytes) : MonitorStore × Bool :=
  match st.deniedAddresses.undeny (ipRuleMatch · ip) with
  | none => (st, false)
  | some l => ({ st with deniedAddresses := l }, true)

omit [Inet] in
/-- `store_undeny_host`. -/
def storeUndenyHost (st : MonitorStore) (hostname : Bytes) : MonitorStore × Bool :=
  match st.deniedHosts.undeny (hostRuleMatch · hostname) with
  | none => (st, false)
  | some l => ({ st with deniedHosts := l }, true)

/-! ## Addresses -/

/-- An address that `inet_pton` reads. -/
inductive IpAddr where
  | v4 (addr : InAddr)
  | v6 (addr : In6Addr)
  deriving DecidableEq

/-- The rule an address is kept as. -/
def IpAddr.rule : IpAddr → AclRule
  | .v4 a => .ipv4 a
  | .v6 b => .ipv6 b

omit [Inet] in
theorem IpAddr.rule_inj {a b : IpAddr} (h : a.rule = b.rule) : a = b := by
  cases a <;> cases b <;> cases h <;> rfl

/-- What a text is the address of.  No text is both an IPv4 and an IPv6 address to the program. -/
def ipOf (text : Bytes) : Option IpAddr :=
  match Inet.pton4 text with
  | some a => some (.v4 a)
  | none => (Inet.pton6 text).map .v6

theorem ipRuleMatch_rule {a : IpAddr} {ip : Bytes} :
    ipRuleMatch a.rule ip = true ↔ ipOf ip = some a := by
  rw [ipRuleMatch, ipOf]
  cases Inet.pton4 ip with
  | some b =>
    cases a with
    | v4 a =>
      show (AclRule.ipv4 a == AclRule.ipv4 b) = true ↔ some (IpAddr.v4 b) = some (IpAddr.v4 a)
      rw [beq_iff_eq, AclRule.ipv4.injEq, Option.some.injEq, IpAddr.v4.injEq, eq_comm]
    | v6 a => simp [IpAddr.rule]
  | none =>
    cases Inet.pton6 ip with
    | some b =>
      cases a with
      | v4 a => simp [IpAddr.rule]
      | v6 a =>
        show (AclRule.ipv6 a == AclRule.ipv6 b) = true ↔ some (IpAddr.v6 b) = some (IpAddr.v6 a)
        rw [beq_iff_eq, AclRule.ipv6.injEq, Option.some.injEq, IpAddr.v6.injEq, eq_comm]
    | none => simp

/-- A rule matches a text exactly when it is the rule of its address. -/
theorem ipRuleMatch_iff {rule : AclRule} {ip : Bytes} :
    ipRuleMatch rule ip = true ↔ ∃ a, ipOf ip = some a ∧ a.rule = rule := by
  cases rule with
  | host name =>
    refine iff_of_false ?_ ?_
    · rw [ipRuleMatch]
      cases Inet.pton4 ip with
      | some b => simp
      | none => cases Inet.pton6 ip <;> simp
    · rintro ⟨a, -, ha⟩
      cases a <;> cases ha
  | ipv4 b =>
    rw [show AclRule.ipv4 b = (IpAddr.v4 b).rule from rfl, ipRuleMatch_rule]
    exact ⟨fun h => ⟨_, h, rfl⟩, fun ⟨a, h, ha⟩ => IpAddr.rule_inj ha ▸ h⟩
  | ipv6 b =>
    rw [show AclRule.ipv6 b = (IpAddr.v6 b).rule from rfl, ipRuleMatch_rule]
    exact ⟨fun h => ⟨_, h, rfl⟩, fun ⟨a, h, ha⟩ => IpAddr.rule_inj ha ▸ h⟩

theorem ipOf_eq_none {text : Bytes} :
    ipOf text = none ↔ Inet.pton4 text = none ∧ Inet.pton6 text = none := by
  rw [ipOf]
  cases Inet.pton4 text <;> cases Inet.pton6 text <;> simp

theorem ipOf_eq_some {text : Bytes} {a : IpAddr} :
    ipOf text = some a ↔ (∃ b, Inet.pton4 text = some b ∧ a = .v4 b) ∨
      ∃ b, Inet.pton4 text = none ∧ Inet.pton6 text = some b ∧ a = .v6 b := by
  rw [ipOf]
  cases Inet.pton4 text <;> cases Inet.pton6 text <;> simp [eq_comm]

theorem ipOf_isSome (text : Bytes) :
    (ipOf text).isSome = true ↔ (Inet.pton4 text).isSome ∨ (Inet.pton6 text).isSome := by
  rw [ipOf]
  cases Inet.pton4 text <;> cases Inet.pton6 text <;> simp

end SocksProxy
