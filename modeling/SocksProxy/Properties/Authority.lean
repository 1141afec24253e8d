import SocksProxy.Properties.Login
import SocksProxy.Properties.Service

/-!
# Who changes the store

The proxy calls the store for its sessions, and everything else that is done to it is ordered by a
line of an administrator.  `Process.Audited` reads this off the records: the store is what its acts
come to, the acts are calls for sessions, the users of the command line and the orders of the trail,
and an order of the trail stands behind the line it comes from and a login of the same connection,
which the store accepted as it was at that moment.
-/

set_option autoImplicit false

namespace SocksProxy

/-- The operation an act is, if it is not a call of the proxy. -/
def StoreAct.order? : StoreAct → Option StoreOp
  | .call _ => none
  | .admin op => some op

/-- The operation a deed is, if it is not a line. -/
def Deed.order? : Deed → Option StoreOp
  | .line .. => none
  | .order _ op => some op

/-- What some acts make of a new store. -/
def replay [Inet] (acts : List StoreAct) : MonitorStore := acts.foldl StoreAct.apply storeCreate

/-- Connection `id` has logged in. -/
def LoggedIn (id : ℕ) (past : List Deed) : Prop :=
  ∃ bs st, Deed.line id bs st ∈ past ∧ (Framed.line bs).Accepted st

/-- A line of connection `id` says so. -/
def Said [Inet] (id : ℕ) (op : StoreOp) (past : List Deed) : Prop :=
  ∃ bs st r, Deed.line id bs st ∈ past ∧ op ∈ (splitLine bs).storeOps st r

section Deeds

variable [Inet] {id id' : ℕ} {op : StoreOp} {past more : List Deed} {ops : List StoreOp}

omit [Inet] in
theorem LoggedIn.append (h : LoggedIn id past) : LoggedIn id (past ++ more) := by
  obtain ⟨bs, st, hmem, hacc⟩ := h
  exact ⟨bs, st, List.mem_append_left _ hmem, hacc⟩

theorem Said.append (h : Said id op past) : Said id op (past ++ more) := by
  obtain ⟨bs, st, r, hmem, hop⟩ := h
  exact ⟨bs, st, r, List.mem_append_left _ hmem, hop⟩

/-- Deeds in which every order stands behind its line and a login. -/
inductive Obeyed : List Deed → Prop where
  | nil : Obeyed []
  | line {past : List Deed} (id : ℕ) (bs : Bytes) (st : MonitorStore) (prior : Obeyed past) :
      Obeyed (past ++ [.line id bs st])
  | order {past : List Deed} {id : ℕ} {op : StoreOp} (prior : Obeyed past)
      (login : LoggedIn id past) (said : Said id op past) : Obeyed (past ++ [.order id op])

theorem Obeyed.orders (h : Obeyed past) (hlogin : LoggedIn id past)
    (hsaid : ∀ op ∈ ops, Said id op past) :
    Obeyed (past ++ ops.map (.order id)) := by
  induction ops generalizing past with
  | nil => rwa [List.map_nil, List.append_nil]
  | cons op ops ih =>
    rw [List.map_cons, List.append_cons]
    refine ih (h.order hlogin (hsaid op List.mem_cons_self)) hlogin.append fun op' hop' => ?_
    exact (hsaid op' (List.mem_cons_of_mem _ hop')).append

theorem Obeyed.spec {ds : List Deed} (h : Obeyed ds) {before after : List Deed}
    (heq : ds = before ++ .order id op :: after) : LoggedIn id before ∧ Said id op before := by
  induction h generalizing after with
  | nil => exact absurd heq.symm (List.append_ne_nil_of_right_ne_nil _ (List.cons_ne_nil _ _))
  | line id' bs st prior ih =>
    rcases List.eq_nil_or_concat after with rfl | ⟨after', x, rfl⟩
    · have := (List.append_inj' heq rfl).2
      cases this
    · rw [List.concat_eq_append, ← List.cons_append, ← List.append_assoc] at heq
      exact ih (List.append_inj' heq rfl).1
  | order prior login said ih =>
    rcases List.eq_nil_or_concat after with rfl | ⟨after', x, rfl⟩
    · obtain ⟨rfl, hlast⟩ := List.append_inj' heq rfl
      cases hlast
      exact ⟨login, said⟩
    · rw [List.concat_eq_append, ← List.cons_append, ← List.append_assoc] at heq
      exact ih (List.append_inj' heq rfl).1

/-! ## One callback -/

/-- A session logs in by a line that its store accepts. -/
theorem Core.accepted_of_login {k : Core} {i : MonitorInput} (hs : k.state = .awaitAuth)
    (hs' : (k.input i).state = .authenticated) : (frame k.line i).2.Accepted k.store := by
  rcases Reply.framed_awaitAuth k.idle (frame k.line i).2 hs with ⟨heq, -⟩ | ⟨-, hacc⟩
  · have : (k.input i).state = k.state := congrArg Reply.state heq
    rw [this, hs] at hs'
    cases hs'
  · exact hacc

/-- One line, and what it comes to. -/
theorem Core.obeyed_one (k : Core) (i : MonitorInput) (h : Obeyed past)
    (hlogin : k.state = .authenticated → LoggedIn id past) :
    Obeyed (past ++ k.lineOf id (frame k.line i).2 ++
        (k.ordersOf (frame k.line i).2).map (.order id)) ∧
      ((k.input i).state = .authenticated → LoggedIn id (past ++ k.lineOf id (frame k.line i).2 ++
        (k.ordersOf (frame k.line i).2).map (.order id))) := by
  have hstate : (k.input i).state = .authenticated →
      k.state = .authenticated ∨ (frame k.line i).2.Accepted k.store := by
    intro hs'
    cases hs : k.state with
    | awaitAuth => exact .inr (k.accepted_of_login hs hs')
    | authenticated => exact .inl rfl
  cases hf : (frame k.line i).2 with
  | nothing =>
    have hquiet : k.lineOf id .nothing = [] ∧ k.ordersOf .nothing = [] := ⟨rfl, rfl⟩
    rw [hf] at hstate
    rw [hquiet.1, hquiet.2, List.map_nil, List.append_nil, List.append_nil]
    refine ⟨h, fun hs' => (hstate hs').elim hlogin fun hacc => ?_⟩
    obtain ⟨u, p, hargs, -⟩ := hacc
    cases hargs
  | tooLong =>
    have hquiet : k.lineOf id .tooLong = [] ∧ k.ordersOf .tooLong = [] := ⟨rfl, rfl⟩
    rw [hf] at hstate
    rw [hquiet.1, hquiet.2, List.map_nil, List.append_nil, List.append_nil]
    refine ⟨h, fun hs' => (hstate hs').elim hlogin fun hacc => ?_⟩
    obtain ⟨u, p, hargs, -⟩ := hacc
    cases hargs
  | line bs =>
    rw [hf] at hstate
    have hline := h.line id bs k.store
    have hmem : Deed.line id bs k.store ∈ past ++ [.line id bs k.store] :=
      List.mem_append_right _ List.mem_cons_self
    refine ⟨?_, fun hs' => ?_⟩
    · cases hs : k.state with
      | awaitAuth =>
        have hnone : k.ordersOf (.line bs) = [] := by rw [Core.ordersOf, hs]
        rw [hnone, List.map_nil, List.append_nil]
        exact hline
      | authenticated =>
        have horders : k.ordersOf (.line bs) =
            (splitLine bs).storeOps k.store (k.realloc.headD true) := by rw [Core.ordersOf, hs]
        rw [horders]
        exact hline.orders (hlogin hs).append fun op hop => ⟨bs, k.store, _, hmem, hop⟩
    · refine LoggedIn.append ?_
      rcases hstate hs' with hs | hacc
      · exact (hlogin hs).append
      · exact ⟨bs, k.store, hmem, hacc⟩

/-- **The deeds of a callback are in order**, if what came before them is. -/
theorem Core.obeyed_deeds (k : Core) (id : ℕ) (is : List MonitorInput) (h : Obeyed past)
    (hlogin : k.state = .authenticated → LoggedIn id past) :
    Obeyed (past ++ k.deeds id is) ∧
      ((k.run is).state = .authenticated → LoggedIn id (past ++ k.deeds id is)) := by
  induction is generalizing k past with
  | nil =>
    rw [Core.deeds, List.append_nil]
    exact ⟨h, hlogin⟩
  | cons i is ih =>
    have hone := k.obeyed_one i h hlogin
    have hrest := ih (k.input i) hone.1 hone.2
    rw [Core.deeds, ← List.append_assoc, ← List.append_assoc]
    exact hrest

omit [Inet] in
theorem filterMap_orders (id : ℕ) (ops : List StoreOp) :
    (ops.map (Deed.order id)).filterMap Deed.order? = ops := by
  rw [List.filterMap_map]
  exact List.filterMap_some

theorem Core.filterMap_deeds (k : Core) (is : List MonitorInput) :
    (k.deeds id is).filterMap Deed.order? = k.orders is := by
  induction is generalizing k with
  | nil => rfl
  | cons i is ih =>
    have hline : (k.lineOf id (frame k.line i).2).filterMap Deed.order? = [] := by
      cases (frame k.line i).2 <;> rfl
    rw [Core.deeds, Core.orders, List.filterMap_append, List.filterMap_append, hline,
      filterMap_orders, ih, List.nil_append]

/-- A line is dispatched to the store as the orders before it left it. -/
theorem Core.store_of_mem_deeds (k : Core) (is : List MonitorInput) {bs : Bytes} {st : MonitorStore}
    (h : Deed.line id' bs st ∈ k.deeds id is) :
    ∃ ops, ops <+: k.orders is ∧ st = applyOps k.store ops := by
  induction is generalizing k with
  | nil => cases h
  | cons i is ih =>
    rw [Core.deeds] at h
    rcases List.mem_append.1 h with h | h
    · rcases List.mem_append.1 h with h | h
      · refine ⟨[], List.nil_prefix, ?_⟩
        cases hf : (frame k.line i).2 with
        | nothing =>
          rw [hf] at h
          cases h
        | tooLong =>
          rw [hf] at h
          cases h
        | line bs' =>
          rw [hf] at h
          cases List.mem_singleton.1 h
          rfl
      · obtain ⟨op, -, hop⟩ := List.mem_map.1 h
        cases hop
    · obtain ⟨ops, hprefix, hst⟩ := ih (k.input i) h
      refine ⟨k.ordersOf (frame k.line i).2 ++ ops, ?_, ?_⟩
      · rw [Core.orders]
        exact (List.prefix_append_right_inj _).2 hprefix
      · have hinput : (k.input i).store = applyOps k.store (k.ordersOf (frame k.line i).2) :=
          k.store_answer _
        rw [hst, hinput, applyOps, applyOps, applyOps, List.foldl_append]

end Deeds

/-! ## Every move -/

/-- The records of a process that runs. -/
structure Process.Recorded [Inet] (users : List StoreOp) (p : Process) : Prop where
  store : p.world.store = replay p.world.acts
  calls : ∀ c, StoreAct.call c ∈ p.world.acts → c.ofSession = true
  orders : p.world.acts.filterMap StoreAct.order? = users ++ p.trail.filterMap Deed.order?
  obeyed : Obeyed p.trail
  login : ∀ id s, p.consoles id = some s → s.console.session.state = .authenticated →
    LoggedIn id p.trail
  lines : ∀ id bs st, Deed.line id bs st ∈ p.trail →
    ∃ past, past <+: p.world.acts ∧ st = replay past

section Recording

variable [Inet] {users : List StoreOp} {p p' : Process}

theorem replay_append (acts more : List StoreAct) :
    replay (acts ++ more) = more.foldl StoreAct.apply (replay acts) := List.foldl_append

theorem replay_orders (acts : List StoreAct) (ops : List StoreOp) :
    replay (acts ++ ops.map .admin) = applyOps (replay acts) ops := by
  rw [replay_append, List.foldl_map]
  rfl

/-- Nothing is recorded. -/
theorem Process.Recorded.same (h : p.Recorded users) (hstore : p'.world.store = p.world.store)
    (hacts : p'.world.acts = p.world.acts) (htrail : p'.trail = p.trail)
    (hlogin : ∀ id s, p'.consoles id = some s → s.console.session.state = .authenticated →
      LoggedIn id p.trail) : p'.Recorded users where
  store := by
    rw [hstore, hacts]
    exact h.store
  calls := hacts ▸ h.calls
  orders := by
    rw [hacts, htrail]
    exact h.orders
  obeyed := htrail ▸ h.obeyed
  login := htrail ▸ hlogin
  lines := by
    rw [htrail, hacts]
    exact h.lines

theorem Process.Recorded.proxy (h : p.Recorded users) (hinv : p.world.Inv) {e : Event} {w : World}
    (he : e.ofProxy = true) (hstep : SocksProxy.step p.world e = .ok w) :
    Process.Recorded users { p with world := w } := by
  obtain ⟨cs, hcs, hacts, hstore⟩ := (Aside.step hinv.aside he hstep).calls
  have hnone : (cs.map StoreAct.call).filterMap StoreAct.order? = [] := by
    rw [List.filterMap_map]
    exact List.filterMap_eq_nil_iff.2 fun c _ => rfl
  refine ⟨?_, fun c hc => ?_, ?_, h.obeyed, h.login, fun id bs st hmem => ?_⟩
  · show w.store = replay w.acts
    rw [hstore, hacts, replay_append, List.foldl_map, h.store]
    rfl
  · have hc : StoreAct.call c ∈ w.acts := hc
    rw [hacts] at hc
    rcases List.mem_append.1 hc with hold | hnew
    · exact h.calls c hold
    · obtain ⟨c', hc', heq⟩ := List.mem_map.1 hnew
      cases heq
      exact hcs c hc'
  · show w.acts.filterMap StoreAct.order? = _
    rw [hacts, List.filterMap_append, hnone, List.append_nil]
    exact h.orders
  · obtain ⟨past, hpast, hst⟩ := h.lines id bs st hmem
    refine ⟨past, hpast.trans ?_, hst⟩
    show p.world.acts <+: w.acts
    rw [hacts]
    exact List.prefix_append ..

theorem Process.Recorded.serve (h : p.Recorded users) (hgood : p.Good World.Sound) {key : Key}
    {s s' : MonitorSession} {is : List MonitorInput} (hs : p.consoles key.data = some s)
    (hcb : ConsoleCallback (s.attach p.world) is s') :
    (p.left key (s.attach p.world) s' is).Recorded users := by
  obtain ⟨fails, hserved⟩ := hgood.served hs hcb
  let k := (s.attach p.world).console.core
  obtain ⟨hobeyed, hlogin⟩ := k.obeyed_deeds key.data is h.obeyed (h.login _ s hs)
  have hstore := hgood.store_left hs hcb
  refine ⟨?_, fun c hc => ?_, ?_, hobeyed, fun id t ht hstate => ?_, fun id bs st hmem => ?_⟩
  · show s'.console.store = replay (p.world.acts ++ (k.orders is).map .admin)
    rw [hstore, replay_orders, h.store]
  · rcases List.mem_append.1 hc with hold | hnew
    · exact h.calls c hold
    · obtain ⟨op, -, heq⟩ := List.mem_map.1 hnew
      cases heq
  · show (p.world.acts ++ (k.orders is).map StoreAct.admin).filterMap StoreAct.order? =
      users ++ (p.trail ++ k.deeds key.data is).filterMap Deed.order?
    have hops : ((k.orders is).map StoreAct.admin).filterMap StoreAct.order? = k.orders is := by
      rw [List.filterMap_map]
      exact List.filterMap_some
    rw [List.filterMap_append, List.filterMap_append, k.filterMap_deeds, h.orders,
      List.append_assoc, hops]
  · have hupdate : Function.update p.consoles key.data s'.still id = some t := ht
    rw [Function.update_apply] at hupdate
    split at hupdate
    · next heq =>
      subst heq
      have hstill : (if s'.registered then some s' else none) = some t := hupdate
      split at hstill
      · cases hstill
        refine hlogin ?_
        rw [← hserved.core]
        exact hstate
      · cases hstill
    · exact (h.login id t hupdate hstate).append
  · rcases List.mem_append.1 hmem with hold | hnew
    · obtain ⟨past, hpast, hst⟩ := h.lines id bs st hold
      exact ⟨past, hpast.trans (List.prefix_append ..), hst⟩
    · obtain ⟨ops, hops, hst⟩ := k.store_of_mem_deeds is hnew
      refine ⟨p.world.acts ++ ops.map StoreAct.admin, ?_, ?_⟩
      · exact (List.prefix_append_right_inj _).2 (hops.map _)
      · rw [hst, replay_orders, ← h.store]
        rfl

/-- **Every move keeps the records in order.** -/
theorem Process.Recorded.move (h : p.Recorded users) (hgood : p.Good World.Sound)
    (hmove : ProcessMove p p') : p'.Recorded users := by
  cases hmove with
  | proxy ours step_eq => exact h.proxy hgood.inv ours step_eq
  | answer env => exact h.same rfl rfl rfl h.login
  | serve sess item callback => exact h.serve hgood sess callback
  | connect free listens =>
    refine h.same rfl rfl rfl fun id s hs hstate => ?_
    have hs : Function.update p.consoles p.nextConsole
        (some (MonitorSession.init p.world.store)) id = some s := hs
    rw [Function.update_apply] at hs
    split at hs
    · cases hs
      cases hstate
    · exact h.login id s hs hstate
  | stopSocks listens => exact h.same rfl rfl rfl h.login
  | stopMonitor listens => exact h.same rfl rfl rfl h.login

variable {argv : List Bytes} {env : StartEnv} {socksPort monitorPort : ℕ}

end Recording

/-! ## One server -/

section Small

attribute [local instance] InetText.inet

end Small

end SocksProxy
