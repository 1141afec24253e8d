import SocksProxy.Lib.OrderedSet
import SocksProxy.Store.Acl

/-!
# The deny lists are two sets

What the administrator has in mind is a set of names and a set of addresses: denying adds an
element, undenying takes one away, and either answers whether there was anything to do (`DenySets`).
The store keeps two linked lists with a pointer to the last node of each, and a rule that is linked
behind a node which is no longer the last one is lost, or takes others with it.

`AclList.Wf` says that the pointer is right.  Under it, adding a rule is appending to the list of
rules (`AclList.addRule_eq`), and removing the first match closes the gap (`AclList.undeny_cases`),
whichever node it was; `denySets_refine` follows both through any sequence of operations.
-/

set_option autoImplicit false

namespace SocksProxy

namespace AclList

/-- The last pointer is the last node that can be reached, and null if there is none.  `next` is an
address no node has yet. -/
structure Wf (l : AclList) (next : ℕ) : Prop where
  last : l.last = l.nodes.getLast?.map (·.1)
  nodup : (l.nodes.map (·.1)).Nodup
  lt : ∀ n ∈ l.nodes, n.1 < next

variable {l : AclList} {next : ℕ}

theorem wf_nil (next : ℕ) : Wf ⟨[], none⟩ next := ⟨rfl, List.nodup_nil, nofun⟩

theorem Wf.mono {next' : ℕ} (h : l.Wf next) (hle : next ≤ next') : l.Wf next' :=
  ⟨h.last, h.nodup, fun n hn => Nat.lt_of_lt_of_le (h.lt n hn) hle⟩

/-- **Adding goes behind the last node.** -/
theorem addRule_eq (h : l.Wf next) (addr : ℕ) (rule : AclRule) :
    l.addRule addr rule = ⟨l.nodes ++ [(addr, rule)], some addr⟩ := by
  rcases List.eq_nil_or_concat l.nodes with hnil | ⟨init, n, hconcat⟩
  · rw [addRule, h.last, hnil]
    rfl
  · rw [List.concat_eq_append] at hconcat
    have hlast : l.last = some n.1 := by rw [h.last, hconcat, List.getLast?_concat]; rfl
    have hnodup : (init.map (·.1) ++ [n.1]).Nodup := by
      have hall := h.nodup
      rwa [hconcat, List.map_append] at hall
    have hinit : init.findIdx? (·.1 == n.1) = none := by
      rw [List.findIdx?_eq_none_iff]
      intro m hm
      rw [beq_eq_false_iff_ne]
      exact (List.nodup_append.1 hnodup).2.2 _ (List.mem_map_of_mem hm) _ List.mem_cons_self
    have hfind : l.nodes.findIdx? (·.1 == n.1) = some init.length := by
      rw [hconcat, List.findIdx?_append, hinit, List.findIdx?_cons, beq_self_eq_true]
      simp
    rw [addRule, hlast]
    dsimp only
    rw [hfind]
    dsimp only
    rw [List.take_of_length_le (by rw [hconcat, List.length_append, List.length_singleton])]

theorem Wf.addRule (h : l.Wf next) (rule : AclRule) : (l.addRule next rule).Wf (next + 1) := by
  rw [addRule_eq h]
  refine ⟨?_, ?_, ?_⟩
  · rw [List.getLast?_concat]
    rfl
  · rw [List.map_append, List.map_singleton]
    refine List.nodup_append_comm.1 (List.nodup_cons.2 ⟨fun hmem => ?_, h.nodup⟩)
    obtain ⟨n, hn, hnext⟩ := List.mem_map.1 hmem
    exact absurd (h.lt n hn) (hnext ▸ Nat.lt_irrefl _)
  · intro n hn
    rcases List.mem_append.1 hn with hn | hn
    · exact Nat.lt_succ_of_lt (h.lt n hn)
    · rw [List.mem_singleton.1 hn]
      exact Nat.lt_succ_self next

/-- **Removing takes the first match out, and nothing else.** -/
theorem undeny_cases (l : AclList) (p : AclRule → Bool) :
    (l.undeny p = none ∧ ∀ n ∈ l.nodes, p n.2 = false) ∨
    ∃ pre n post, l.nodes = pre ++ n :: post ∧ (∀ m ∈ pre, p m.2 = false) ∧ p n.2 = true ∧
      l.undeny p = some ⟨pre ++ post,
        if some n.1 = l.last then pre.getLast?.map (·.1) else l.last⟩ := by
  cases hfind : l.nodes.findIdx? (fun n => p n.2) with
  | none =>
    refine .inl ⟨?_, List.findIdx?_eq_none_iff.1 hfind⟩
    rw [undeny, hfind]
  | some i =>
    obtain ⟨hi, hp, hbefore⟩ := List.findIdx?_eq_some_iff_getElem.1 hfind
    refine .inr ⟨l.nodes.take i, l.nodes[i], l.nodes.drop (i + 1), ?_, ?_, hp, ?_⟩
    · rw [List.getElem_cons_drop, List.take_append_drop]
    · intro m hm
      obtain ⟨j, hj, rfl⟩ := List.getElem_of_mem hm
      rw [List.getElem_take]
      rw [List.length_take] at hj
      exact Bool.not_eq_true _ ▸ hbefore j (by omega)
    · rw [undeny, hfind]
      dsimp only
      rw [List.eraseIdx_eq_take_drop_succ, List.getElem?_eq_getElem hi, Option.map_some]
      have hprev : (if i = 0 then none else l.nodes[i - 1]?.map (·.1)) =
          (l.nodes.take i).getLast?.map (·.1) := by
        split
        · next h0 =>
          rw [h0]
          rfl
        · rw [List.getLast?_take, if_neg (by assumption), List.getElem?_eq_getElem (by omega)]
          rfl
      rw [hprev]

/-- The last pointer goes back by one node when the last node goes. -/
theorem Wf.remove (h : l.Wf next) {pre post : List (ℕ × AclRule)} {n : ℕ × AclRule}
    (hnodes : l.nodes = pre ++ n :: post) :
    Wf ⟨pre ++ post, if some n.1 = l.last then pre.getLast?.map (·.1) else l.last⟩ next := by
  have hsub : (pre ++ post).Sublist l.nodes := by
    rw [hnodes]
    exact (List.Sublist.refl pre).append (List.sublist_cons_self n post)
  refine ⟨?_, h.nodup.sublist (hsub.map _), fun m hm => h.lt m (hsub.subset hm)⟩
  have hlast : l.last = ((pre ++ n :: post).getLast?).map (·.1) := hnodes ▸ h.last
  rcases List.eq_nil_or_concat post with rfl | ⟨init, m, rfl⟩
  · have hn : l.last = some n.1 := by rw [hlast, List.getLast?_concat]; rfl
    rw [List.append_nil, if_pos hn.symm]
  · rw [List.concat_eq_append] at hlast hnodes ⊢
    rw [← List.cons_append, ← List.append_assoc, List.getLast?_concat] at hlast
    have hne : some n.1 ≠ l.last := by
      intro heq
      have hnm : n.1 = m.1 := Option.some.inj (heq.trans hlast)
      have hnodup : ((n :: (init ++ [m])).map (·.1)).Nodup :=
        h.nodup.sublist ((hnodes ▸ List.sublist_append_right pre _).map _)
      refine (List.nodup_cons.1 hnodup).1 ?_
      exact List.mem_map.2 ⟨m, List.mem_append_right _ List.mem_cons_self, hnm.symm⟩
    rw [if_neg hne, ← List.append_assoc, List.getLast?_concat]
    exact hlast

end AclList

/-! ## The sets -/

/-- A name that fits into the host of a rule. -/
def Hostname : Type := {h : Bytes // h.length ≤ storeMaxDestHost}

/-- What is denied. -/
structure DenySets where
  hosts : OrdSet Bytes
  addrs : OrdSet IpAddr

/-- A call of one of the four operations on the deny lists. -/
inductive AclOp where
  | denyHost (hostname : Hostname)
  | denyIp (ip : Bytes)
  | undenyHost (hostname : Bytes)
  | undenyIp (ip : Bytes)

variable [Inet]

namespace AclOp

/-- The operation on the store, with what it returns. -/
def apply (st : MonitorStore) : AclOp → MonitorStore × Bool
  | denyHost hostname => storeDenyHost st hostname.1
  | denyIp ip => storeDenyIp st ip
  | undenyHost hostname => storeUndenyHost st hostname
  | undenyIp ip => storeUndenyIp st ip

/-- The operation on the sets.  A name that is an address is not denied as a name, and a text that
is no address stands for none. -/
def spec (s : DenySets) : AclOp → DenySets × Bool
  | denyHost hostname =>
    if (ipOf hostname.1).isSome then (s, false)
    else ({ s with hosts := (s.hosts.insert hostname.1).1 }, (s.hosts.insert hostname.1).2)
  | denyIp ip =>
    match ipOf ip with
    | none => (s, false)
    | some a => ({ s with addrs := (s.addrs.insert a).1 }, (s.addrs.insert a).2)
  | undenyHost hostname =>
    ({ s with hosts := (s.hosts.erase hostname).1 }, (s.hosts.erase hostname).2)
  | undenyIp ip =>
    match ipOf ip with
    | none => (s, false)
    | some a => ({ s with addrs := (s.addrs.erase a).1 }, (s.addrs.erase a).2)

/-- The store after some operations, and what they returned. -/
def applyAll (st : MonitorStore) : List AclOp → MonitorStore × List Bool
  | [] => (st, [])
  | op :: ops => ((applyAll (op.apply st).1 ops).1, (op.apply st).2 :: (applyAll (op.apply st).1 ops).2)

/-- The sets after some operations, and what they returned. -/
def specAll (s : DenySets) : List AclOp → DenySets × List Bool
  | [] => (s, [])
  | op :: ops => ((specAll (op.spec s).1 ops).1, (op.spec s).2 :: (specAll (op.spec s).1 ops).2)

end AclOp

/-- The lists hold the elements of the sets in their order, and can be added to. -/
structure Refines (st : MonitorStore) (s : DenySets) : Prop where
  hosts : st.deniedHosts.rules = s.hosts.toList.map .host
  addrs : st.deniedAddresses.rules = s.addrs.toList.map IpAddr.rule
  hostsWf : st.deniedHosts.Wf st.nextRule
  addrsWf : st.deniedAddresses.Wf st.nextRule

namespace Refines

variable {st : MonitorStore} {s : DenySets}

omit [Inet] in
theorem storeCreate : Refines storeCreate ⟨.empty, .empty⟩ :=
  ⟨rfl, rfl, AclList.wf_nil _, AclList.wf_nil _⟩

omit [Inet] in
theorem isHostDenied (h : Refines st s) (hostname : Bytes) :
    isHostDenied st hostname = true ↔ hostname ∈ s.hosts := by
  rw [SocksProxy.isHostDenied, h.hosts, List.any_map, List.any_eq_true, OrdSet.mem_def]
  constructor
  · rintro ⟨name, hname, heq⟩
    exact beq_iff_eq.1 heq ▸ hname
  · exact fun hmem => ⟨hostname, hmem, beq_self_eq_true hostname⟩

theorem isIpDenied (h : Refines st s) (ip : Bytes) :
    isIpDenied st ip = true ↔ ∃ a ∈ s.addrs, ipOf ip = some a := by
  rw [SocksProxy.isIpDenied, h.addrs, List.any_map, List.any_eq_true]
  exact exists_congr fun a => and_congr_right fun _ => ipRuleMatch_rule

omit [Inet] in
/-- What `AclList.undeny` does to a list that holds the elements of a set. -/
theorem undeny {α : Type} [DecidableEq α] {l : AclList} {next : ℕ} {set : OrdSet α}
    {f : α → AclRule} (hrules : l.rules = set.toList.map f) (hwf : l.Wf next) {p : AclRule → Bool}
    {a : α} (hp : ∀ x, p (f x) = true ↔ x = a) :
    (l.undeny p = none ∧ set.erase a = (set, false)) ∨
    ∃ l', l.undeny p = some l' ∧ l'.rules = (set.erase a).1.toList.map f ∧ l'.Wf next ∧
      (set.erase a).2 = true := by
  rcases l.undeny_cases p with ⟨hnone, hall⟩ | ⟨pre, n, post, hnodes, -, hn, hsome⟩
  · refine .inl ⟨hnone, OrdSet.erase_of_notMem fun ha => ?_⟩
    have hmem : f a ∈ l.rules := hrules ▸ List.mem_map_of_mem ha
    obtain ⟨n, hn, hrule⟩ := List.mem_map.1 hmem
    have hmatch : p n.2 = true := hrule ▸ (hp a).2 rfl
    exact absurd (hall n hn) (by rw [hmatch]; decide)
  · have hsplit : set.toList.map f = pre.map (·.2) ++ n.2 :: post.map (·.2) := by
      rw [← hrules, AclList.rules, hnodes, List.map_append, List.map_cons]
    obtain ⟨pre', rest, hset, hpre, hrest⟩ := List.map_eq_append_iff.1 hsplit
    obtain ⟨x, post', rfl, hx, hpost⟩ := List.map_eq_cons_iff.1 hrest
    obtain rfl : x = a := (hp x).1 (hx ▸ hn)
    refine .inr ⟨_, hsome, ?_, hwf.remove hnodes, OrdSet.erase_snd.2 ?_⟩
    · rw [OrdSet.toList_erase_append hset, List.map_append, hpre, hpost, AclList.rules,
        List.map_append]
    · rw [OrdSet.mem_def, hset]
      exact List.mem_append_right _ List.mem_cons_self

/-! ## One operation -/

theorem denyHost (h : Refines st s) (hostname : Hostname) :
    Refines ((AclOp.denyHost hostname).apply st).1 ((AclOp.denyHost hostname).spec s).1 ∧
      ((AclOp.denyHost hostname).apply st).2 = ((AclOp.denyHost hostname).spec s).2 := by
  rw [AclOp.apply, AclOp.spec, storeDenyHost]
  by_cases hden : SocksProxy.isHostDenied st hostname.1 = true
  · rw [if_pos hden, OrdSet.insert_of_mem ((h.isHostDenied _).1 hden)]
    split
    · exact ⟨h, rfl⟩
    · exact ⟨h, rfl⟩
  rw [if_neg hden]
  by_cases hip : (Inet.pton4 hostname.1).isSome ∨ (Inet.pton6 hostname.1).isSome
  · rw [if_pos hip, if_pos ((ipOf_isSome _).2 hip)]
    exact ⟨h, rfl⟩
  · have hnew : hostname.1 ∉ s.hosts := fun hmem => hden ((h.isHostDenied _).2 hmem)
    rw [if_neg hip, if_neg (fun hs => hip ((ipOf_isSome _).1 hs))]
    refine ⟨⟨?_, h.addrs, h.hostsWf.addRule _, h.addrsWf.mono (Nat.le_succ _)⟩, ?_⟩
    · show (st.deniedHosts.addRule st.nextRule (.host hostname.1)).rules = _
      rw [AclList.addRule_eq h.hostsWf, AclList.rules, List.map_append, ← AclList.rules, h.hosts,
        OrdSet.toList_insert hnew, List.map_append]
      rfl
    · exact (OrdSet.insert_snd.2 hnew).symm

theorem denyIp (h : Refines st s) (ip : Bytes) :
    Refines ((AclOp.denyIp ip).apply st).1 ((AclOp.denyIp ip).spec s).1 ∧
      ((AclOp.denyIp ip).apply st).2 = ((AclOp.denyIp ip).spec s).2 := by
  rw [AclOp.apply, AclOp.spec, storeDenyIp]
  by_cases hden : SocksProxy.isIpDenied st ip = true
  · obtain ⟨a, ha, hip⟩ := (h.isIpDenied ip).1 hden
    rw [if_pos hden, hip]
    dsimp only
    rw [OrdSet.insert_of_mem ha]
    exact ⟨h, rfl⟩
  rw [if_neg hden]
  -- what is left is a new address, of one family or the other
  have hadd : ∀ a, ipOf ip = some a →
      Refines { st with
          deniedAddresses := st.deniedAddresses.addRule st.nextRule a.rule
          nextRule := st.nextRule + 1 } { s with addrs := (s.addrs.insert a).1 } ∧
        true = (s.addrs.insert a).2 := by
    intro a hip
    have hnew : a ∉ s.addrs := fun hmem => hden ((h.isIpDenied ip).2 ⟨a, hmem, hip⟩)
    refine ⟨⟨h.hosts, ?_, h.hostsWf.mono (Nat.le_succ _), h.addrsWf.addRule _⟩, ?_⟩
    · show (st.deniedAddresses.addRule st.nextRule a.rule).rules = _
      rw [AclList.addRule_eq h.addrsWf, AclList.rules, List.map_append, ← AclList.rules, h.addrs,
        OrdSet.toList_insert hnew, List.map_append]
      rfl
    · exact (OrdSet.insert_snd.2 hnew).symm
  dsimp only
  cases h4 : Inet.pton4 ip with
  | some a =>
    have hip : ipOf ip = some (.v4 a) := by rw [ipOf, h4]
    rw [hip]
    exact hadd _ hip
  | none =>
    cases h6 : Inet.pton6 ip with
    | some b =>
      have hip : ipOf ip = some (.v6 b) := by rw [ipOf, h4, h6]; rfl
      rw [hip]
      exact hadd _ hip
    | none =>
      have hip : ipOf ip = none := by rw [ipOf, h4, h6]; rfl
      rw [hip]
      exact ⟨h, rfl⟩

theorem undenyHost (h : Refines st s) (hostname : Bytes) :
    Refines ((AclOp.undenyHost hostname).apply st).1 ((AclOp.undenyHost hostname).spec s).1 ∧
      ((AclOp.undenyHost hostname).apply st).2 = ((AclOp.undenyHost hostname).spec s).2 := by
  rw [AclOp.apply, AclOp.spec, storeUndenyHost]
  rcases undeny h.hosts h.hostsWf (p := (hostRuleMatch · hostname)) (a := hostname)
    (fun x => beq_iff_eq) with ⟨hnone, hset⟩ | ⟨l', hsome, hrules, hwf, hset⟩
  · rw [hnone, hset]
    exact ⟨h, rfl⟩
  · rw [hsome, hset]
    exact ⟨⟨hrules, h.addrs, hwf, h.addrsWf⟩, rfl⟩

theorem undenyIp (h : Refines st s) (ip : Bytes) :
    Refines ((AclOp.undenyIp ip).apply st).1 ((AclOp.undenyIp ip).spec s).1 ∧
      ((AclOp.undenyIp ip).apply st).2 = ((AclOp.undenyIp ip).spec s).2 := by
  rw [AclOp.apply, AclOp.spec, storeUndenyIp]
  cases hip : ipOf ip with
  | none =>
    have hnone : st.deniedAddresses.undeny (ipRuleMatch · ip) = none := by
      rcases st.deniedAddresses.undeny_cases (ipRuleMatch · ip) with
        ⟨hnone, -⟩ | ⟨pre, n, post, hnodes, -, hn, -⟩
      · exact hnone
      · have hmem : n.2 ∈ st.deniedAddresses.rules := by
          rw [AclList.rules, hnodes, List.map_append]
          exact List.mem_append_right _ List.mem_cons_self
        rw [h.addrs] at hmem
        obtain ⟨a, -, ha⟩ := List.mem_map.1 hmem
        rw [← ha, ipRuleMatch_rule, hip] at hn
        exact absurd hn (by nofun)
    rw [hnone]
    exact ⟨h, rfl⟩
  | some a =>
    have hmatch : ∀ x : IpAddr, ipRuleMatch x.rule ip = true ↔ x = a := fun x => by
      rw [ipRuleMatch_rule, hip, Option.some.injEq, eq_comm]
    rcases undeny h.addrs h.addrsWf (p := (ipRuleMatch · ip)) hmatch with
      ⟨hnone, hset⟩ | ⟨l', hsome, hrules, hwf, hset⟩
    · rw [hnone]
      dsimp only
      rw [hset]
      exact ⟨h, rfl⟩
    · rw [hsome]
      dsimp only
      rw [hset]
      exact ⟨⟨h.hosts, hrules, h.hostsWf, hwf⟩, rfl⟩

/-- **One operation on the lists is the operation on the sets.** -/
theorem apply (h : Refines st s) (op : AclOp) :
    Refines (op.apply st).1 (op.spec s).1 ∧ (op.apply st).2 = (op.spec s).2 := by
  cases op with
  | denyHost hostname => exact h.denyHost hostname
  | denyIp ip => exact h.denyIp ip
  | undenyHost hostname => exact h.undenyHost hostname
  | undenyIp ip => exact h.undenyIp ip

theorem applyAll (h : Refines st s) (ops : List AclOp) :
    Refines (AclOp.applyAll st ops).1 (AclOp.specAll s ops).1 ∧
      (AclOp.applyAll st ops).2 = (AclOp.specAll s ops).2 := by
  induction ops generalizing st s with
  | nil => exact ⟨h, rfl⟩
  | cons op ops ih =>
    obtain ⟨hop, hret⟩ := h.apply op
    obtain ⟨hops, hrets⟩ := ih hop
    refine ⟨hops, ?_⟩
    rw [AclOp.applyAll, AclOp.specAll]
    exact congrArg₂ _ hret hrets

omit [Inet] in
theorem once (h : Refines st s) :
    st.deniedHosts.rules.Nodup ∧ st.deniedAddresses.rules.Nodup := by
  rw [h.hosts, h.addrs]
  exact ⟨s.hosts.nodup.map fun _ _ heq => AclRule.host.inj heq,
    s.addrs.nodup.map fun _ _ heq => IpAddr.rule_inj heq⟩

end Refines

/-- What a store with these sets of denied names and addresses looks like from outside, and that a
rule added to it is found. -/
structure MonitorStore.Denies (st : MonitorStore) (s : DenySets) : Prop where
  hosts : st.deniedHosts.rules = s.hosts.toList.map .host
  addrs : st.deniedAddresses.rules = s.addrs.toList.map IpAddr.rule
  isHostDenied : ∀ hostname, isHostDenied st hostname = true ↔ hostname ∈ s.hosts
  isIpDenied : ∀ ip, isIpDenied st ip = true ↔ ∃ a ∈ s.addrs, ipOf ip = some a
  /-- No element is stored twice. -/
  once : st.deniedHosts.rules.Nodup ∧ st.deniedAddresses.rules.Nodup
  /-- No two nodes share an address, so a pointer is to one node. -/
  nodup : (st.deniedHosts.nodes.map (·.1)).Nodup ∧ (st.deniedAddresses.nodes.map (·.1)).Nodup
  lastHost : st.deniedHosts.last = st.deniedHosts.nodes.getLast?.map (·.1)
  lastAddr : st.deniedAddresses.last = st.deniedAddresses.nodes.getLast?.map (·.1)

/-- **Through any sequence of operations the deny lists are two sets in the order of insertion.** -/
theorem denySets_refine (ops : List AclOp) :
    (AclOp.applyAll storeCreate ops).2 = (AclOp.specAll ⟨.empty, .empty⟩ ops).2 ∧
      (AclOp.applyAll storeCreate ops).1.Denies (AclOp.specAll ⟨.empty, .empty⟩ ops).1 := by
  obtain ⟨h, hret⟩ := Refines.storeCreate.applyAll ops
  refine ⟨hret, h.hosts, h.addrs, h.isHostDenied, h.isIpDenied, h.once, ?_, ?_, ?_⟩
  · exact ⟨h.hostsWf.nodup, h.addrsWf.nodup⟩
  · exact h.hostsWf.last
  · exact h.addrsWf.last

end SocksProxy
