import SocksProxy.Server.Moves

/-!
# Both halves of the process

What holds of the proxy alone holds of it while the monitoring port runs beside it: a property that
is `Lasting` survives every event of the process.  For the other half, `Process.Tended` says how the
connections of the administrators, the listening sockets and the counter stand to the entries of the
selector table that are not sessions'.  An event of the proxy leaves those entries alone, and a
callback of the monitoring port changes the one it was called for.
-/

set_option autoImplicit false

namespace SocksProxy

/-! ## What the administrators order -/

section Orders

variable [Inet]

/-- The store after what is handed on. -/
theorem Core.store_answer (k : Core) (f : Framed) :
    (k.idle.framed f).store = applyOps k.store (k.ordersOf f) := by
  cases f with
  | nothing => rfl
  | tooLong => rfl
  | line bs =>
    show (k.idle.line bs).store = _
    rw [Reply.line, Core.ordersOf]
    by_cases hblank : (splitLine bs).cmd = []
    · rw [if_pos hblank]
      cases k.state with
      | awaitAuth => rfl
      | authenticated =>
        show k.store = applyOps k.store _
        rw [MonitorCmd.storeOps, hblank]
        rfl
    rw [if_neg hblank]
    show (k.idle.command _).store = _
    rw [Reply.command]
    cases hs : k.state with
    | awaitAuth =>
      rw [show k.idle.state = .awaitAuth from hs]
      dsimp only
      split
      · exact Reply.store_auth _ _
      · rfl
    | authenticated =>
      rw [show k.idle.state = .authenticated from hs]
      dsimp only
      split
      · next hauth =>
        show k.store = applyOps k.store _
        rw [MonitorCmd.storeOps, hauth]
        rfl
      · exact Reply.store_route _ _

/-- **The store after some inputs is the store after what they order.** -/
theorem Core.store_run (k : Core) (is : List MonitorInput) :
    (k.run is).store = applyOps k.store (k.orders is) := by
  induction is generalizing k with
  | nil => rfl
  | cons i is ih =>
    rw [Core.orders, applyOps, List.foldl_append]
    refine (ih (k.input i)).trans ?_
    exact congrArg (fun st => applyOps st _) (k.store_answer _)

end Orders

/-! ## What the rest of the process leaves alone -/

section Lasting

variable [Inet] {w w' : World} {fd : Fd} {item? : Option Item}

/-- What a property of the proxy has to survive to hold while the rest of the process runs: beside
the steps of the proxy, changes of an entry that is none of a session's. -/
structure Lasting (I : World → Prop) : Prop where
  step : ∀ {w w' : World} {e : Event}, I w → SocksProxy.step w e = .ok w' → I w'
  entry : ∀ {w : World} {fd : Fd} {item? : Option Item}, I w →
    (∀ item, w.fds fd = some item → item.foreign = true) →
    (∀ item, item? = some item → item.foreign = true) →
    I { w with fds := Function.update w.fds fd item? }
  env : ∀ {w : World} (env : Env), I w → I { w with env := env }

theorem Lasting.and {I J : World → Prop} (hI : Lasting I) (hJ : Lasting J) :
    Lasting fun w => I w ∧ J w where
  step h hs := ⟨hI.step h.1 hs, hJ.step h.2 hs⟩
  entry h hold hnew := ⟨hI.entry h.1 hold hnew, hJ.entry h.2 hold hnew⟩
  env env h := ⟨hI.env env h.1, hJ.env env h.2⟩

theorem Lasting.ordered {I : World → Prop} (hI : Lasting I) (h : I w) (ops : List StoreOp) :
    I (w.ordered ops) := by
  induction ops generalizing w with
  | nil =>
    rw [World.ordered, List.map_nil, List.append_nil]
    exact h
  | cons op ops ih =>
    have hone : I { w with store := op.apply w.store, acts := w.acts ++ [.admin op] } :=
      hI.step (e := .admin op) h rfl
    have := ih hone
    rw [World.ordered, List.append_assoc] at this
    exact this

theorem Lasting.of_steady {I : World → Prop} (hI : Steady I) : Lasting I where
  step h hs := hI.step h hs
  entry h _ _ := hI.other h
  env _ h := hI.other h

omit [Inet] in
/-- An entry that is none of a session's says nothing about one. -/
theorem interestOf_foreign {h : Handler} {sid : Sid} (hh : h = .client ∨ h = .origin)
    (hfd : ∀ item, w.fds fd = some item → item.foreign = true) :
    w.interestOf h sid fd = none := by
  rw [World.interestOf]
  cases hitem : w.fds fd with
  | none => rfl
  | some item =>
    have hf := hfd item hitem
    refine if_neg fun hk => ?_
    rw [Item.foreign, hk.1] at hf
    rcases hh with rfl | rfl <;> cases hf

omit [Inet] in
theorem slot_entry (hold : ∀ item, w.fds fd = some item → item.foreign = true)
    (hnew : ∀ item, item? = some item → item.foreign = true) (sid : Sid) :
    slot { w with fds := Function.update w.fds fd item? } sid = slot w sid := by
  have hreg : ∀ h, h = .client ∨ h = .origin → ∀ fd',
      World.interestOf { w with fds := Function.update w.fds fd item? } h sid fd' =
        w.interestOf h sid fd' := by
    intro h hh fd'
    by_cases hfd : fd' = fd
    · subst hfd
      rw [interestOf_foreign hh hold]
      refine interestOf_foreign hh fun item hitem => hnew item ?_
      rw [← hitem]
      exact (Function.update_self fd' item? w.fds).symm
    · rw [World.interestOf, World.interestOf]
      dsimp only
      rw [Function.update_of_ne hfd]
  rw [slot, slot, funext (hreg .client (.inl rfl)), funext (hreg .origin (.inr rfl))]

theorem lasting_inv : Lasting World.Inv where
  step h hs := (step_acts h hs).1
  entry := by
    intro w fd item? h hold hnew
    refine ⟨fun fd' item hitem => ?_, h.idle, h.bufferSize, fun sid => ?_⟩
    · dsimp only at hitem
      rw [Function.update_apply] at hitem
      split at hitem
      · have hf := hnew item hitem
        rw [World.Claimed]
        cases hh : item.handler <;> first | trivial | (rw [Item.foreign, hh] at hf; cases hf)
      · exact h.claimed fd' item hitem
    · rw [slot_entry hold hnew]
      exact h.slots sid
  env env h := ⟨h.claimed, h.idle, h.bufferSize, h.slots⟩

/-- What every step of a session keeps. -/
theorem lasting_slot {P : Slot → Prop} (sid : Sid)
    (hP : ∀ {mode sl sl'}, SessionStep mode sl sl' → sl.Ok → P sl → P sl') :
    Lasting fun w => w.Inv ∧ P (slot w sid) where
  step h hs := ⟨lasting_inv.step h.1 hs,
    SessionSteps.keeps hP ((step_acts h.1 hs).2 sid).steps (h.1.slots sid) h.2⟩
  entry h hold hnew := ⟨lasting_inv.entry h.1 hold hnew, by
    rw [slot_entry hold hnew]
    exact h.2⟩
  env env h := ⟨lasting_inv.env env h.1, h.2⟩

omit [Inet] in
/-- An entry is changed that is none of a session's. -/
theorem foreign_entry (hnew : ∀ item, item? = some item → item.foreign = true) :
    World.foreign { w with fds := Function.update w.fds fd item? } =
      Function.update w.foreign fd item? := by
  funext fd'
  show (Function.update w.fds fd item? fd').filter Item.foreign = _
  rw [Function.update_apply, Function.update_apply]
  split
  · cases item? with
    | none => rfl
    | some item => exact Option.filter_some_pos (hnew item rfl)
  · rfl

omit [Inet] in
theorem foreign_eq_some {item : Item} (h : w.fds fd = some item) (hf : item.foreign = true) :
    w.foreign fd = some item := by
  rw [World.foreign, h]
  exact Option.filter_some_pos hf

end Lasting

/-! ## The other half -/

/-- How the connections of the administrators, the listening sockets and the counter stand to the
entries `T` that are not sessions'. -/
structure Process.Tended (T : Fd → Option Item) (p : Process) : Prop where
  /-- An entry of a connection is that of an open one. -/
  console : ∀ fd i id, T fd = some ⟨.monitor, i, id + 1⟩ → ∃ s, p.consoles id = some s
  /-- An open connection has an entry, with its interest. -/
  socket : ∀ id s, p.consoles id = some s → ∃ fd, T fd = some ⟨.monitor, s.interest, id + 1⟩
  /-- It has no other. -/
  single : ∀ fd fd' i i' id, T fd = some ⟨.monitor, i, id + 1⟩ →
    T fd' = some ⟨.monitor, i', id + 1⟩ → fd = fd'
  ready : ∀ id s, p.consoles id = some s → s.registered = true ∧ s.Ready
  fresh : ∀ id s, p.consoles id = some s → id < p.nextConsole
  active : p.activeConsoles =
    (List.range p.nextConsole).countP fun id => (p.consoles id).isSome
  /-- The listening sockets are those of the servers. -/
  passive : ∀ fd i d, T fd = some ⟨.passive, i, d⟩ → p.socksListenFd = some fd
  listens : ∀ fd, p.socksListenFd = some fd → T fd = some ⟨.passive, opRead, 0⟩
  monitor : ∀ fd i, T fd = some ⟨.monitor, i, 0⟩ → p.monitorListenFd = some fd
  monitorListens : ∀ fd, p.monitorListenFd = some fd → T fd = some ⟨.monitor, opRead, 0⟩

namespace Process.Tended

variable {T : Fd → Option Item} {p p' : Process} {fd : Fd} {i : FdInterest} {id : ℕ}
  {s s' : MonitorSession}

/-- Nothing of this half has changed. -/
theorem same (h : p.Tended T) (hconsoles : p'.consoles = p.consoles)
    (hnext : p'.nextConsole = p.nextConsole) (hactive : p'.activeConsoles = p.activeConsoles)
    (hsocks : p'.socksListenFd = p.socksListenFd)
    (hmonitor : p'.monitorListenFd = p.monitorListenFd) : p'.Tended T where
  console := hconsoles ▸ h.console
  socket := hconsoles ▸ h.socket
  single := h.single
  ready := hconsoles ▸ h.ready
  fresh := by
    rw [hconsoles, hnext]
    exact h.fresh
  active := by
    rw [hactive, hnext, hconsoles]
    exact h.active
  passive := hsocks ▸ h.passive
  listens := hsocks ▸ h.listens
  monitor := hmonitor ▸ h.monitor
  monitorListens := hmonitor ▸ h.monitorListens

/-- A connection is accepted, closed, or stays with another interest: its entry, if it had one, is
replaced by the one it is to have. -/
theorem change (h : p.Tended T) (hT : T fd = (p.consoles id).map fun _ => consoleItem i id)
    {new : Option MonitorSession} (hnew : ∀ s, new = some s → s.registered = true ∧ s.Ready)
    (hconsoles : p'.consoles = Function.update p.consoles id new)
    (hid : id < p'.nextConsole) (hnext : p.nextConsole ≤ p'.nextConsole)
    (hactive : p'.activeConsoles =
      (List.range p'.nextConsole).countP fun id => (p'.consoles id).isSome)
    (hsocks : p'.socksListenFd = p.socksListenFd)
    (hmonitor : p'.monitorListenFd = p.monitorListenFd) :
    p'.Tended (Function.update T fd (new.map fun s => consoleItem s.interest id)) := by
  -- the entries are those of the table before, apart from the one that was replaced
  have hback : ∀ fd' i' id', Function.update T fd (new.map fun s => consoleItem s.interest id) fd' =
      some ⟨.monitor, i', id' + 1⟩ → fd' = fd ∧ id' = id ∧ new.isSome = true ∨
        fd' ≠ fd ∧ id' ≠ id ∧ T fd' = some ⟨.monitor, i', id' + 1⟩ := by
    intro fd' i' id' hfd'
    rw [Function.update_apply] at hfd'
    split at hfd'
    · next heq =>
      obtain ⟨s, rfl, hs⟩ := Option.map_eq_some_iff.1 hfd'
      cases hs
      exact .inl ⟨heq, rfl, rfl⟩
    · next hne =>
      refine .inr ⟨hne, ?_, hfd'⟩
      rintro rfl
      obtain ⟨s, hs⟩ := h.console _ _ _ hfd'
      rw [hs] at hT
      exact hne (h.single _ _ _ _ _ hfd' hT)
  have hother : ∀ fd' item, Function.update T fd (new.map fun s => consoleItem s.interest id) fd' =
      some item → (∀ i', item ≠ consoleItem i' id) → T fd' = some item := by
    intro fd' item hfd' hitem
    rw [Function.update_apply] at hfd'
    split at hfd'
    · obtain ⟨s, -, hs⟩ := Option.map_eq_some_iff.1 hfd'
      exact absurd hs.symm (hitem _)
    · exact hfd'
  have hlisten : ∀ fd' item, T fd' = some item → (∀ i', item ≠ consoleItem i' id) →
      Function.update T fd (new.map fun s => consoleItem s.interest id) fd' = some item := by
    intro fd' item hfd' hitem
    rw [Function.update_of_ne]
    · exact hfd'
    · rintro rfl
      rw [hT] at hfd'
      obtain ⟨s, -, hs⟩ := Option.map_eq_some_iff.1 hfd'
      exact hitem _ hs.symm
  refine ⟨?_, ?_, ?_, ?_, ?_, hactive, ?_, ?_, ?_, ?_⟩
  · intro fd' i' id' hfd'
    rw [hconsoles]
    rcases hback _ _ _ hfd' with ⟨-, rfl, hsome⟩ | ⟨-, hne, hold⟩
    · rw [Function.update_self]
      exact Option.isSome_iff_exists.1 hsome
    · rw [Function.update_of_ne hne]
      exact h.console _ _ _ hold
  · intro id' t ht
    rw [hconsoles, Function.update_apply] at ht
    split at ht
    · next heq =>
      refine ⟨fd, ?_⟩
      rw [Function.update_self, ht, heq]
      rfl
    · next hne =>
      obtain ⟨fd', hfd'⟩ := h.socket id' t ht
      refine ⟨fd', hlisten _ _ hfd' fun i' heq => ?_⟩
      cases heq
      exact hne rfl
  · intro fd₁ fd₂ i₁ i₂ id' h₁ h₂
    rcases hback _ _ _ h₁ with ⟨rfl, rfl, -⟩ | ⟨-, hne, hold₁⟩
    · rcases hback _ _ _ h₂ with ⟨rfl, -, -⟩ | ⟨-, hne, -⟩
      · rfl
      · exact absurd rfl hne
    · rcases hback _ _ _ h₂ with ⟨-, rfl, -⟩ | ⟨-, -, hold₂⟩
      · exact absurd rfl hne
      · exact h.single _ _ _ _ _ hold₁ hold₂
  · intro id' t ht
    rw [hconsoles, Function.update_apply] at ht
    split at ht
    · exact hnew t ht
    · exact h.ready id' t ht
  · intro id' t ht
    rw [hconsoles, Function.update_apply] at ht
    split at ht
    · next heq => exact heq ▸ hid
    · exact Nat.lt_of_lt_of_le (h.fresh id' t ht) hnext
  · intro fd' i' d hfd'
    rw [hsocks]
    exact h.passive fd' i' d (hother _ _ hfd' fun i'' heq => by cases heq)
  · intro fd' hfd'
    exact hlisten _ _ (h.listens fd' (hsocks ▸ hfd')) fun i' heq => by cases heq
  · intro fd' i' hfd'
    rw [hmonitor]
    exact h.monitor fd' i' (hother _ _ hfd' fun i'' heq => by cases heq)
  · intro fd' hfd'
    exact hlisten _ _ (h.monitorListens fd' (hmonitor ▸ hfd')) fun i' heq => by cases heq

/-- A listening socket is closed. -/
theorem drop (h : p.Tended T) {item : Item} (hT : T fd = some item)
    (hitem : ∀ i id, item ≠ consoleItem i id) (hconsoles : p'.consoles = p.consoles)
    (hnext : p'.nextConsole = p.nextConsole) (hactive : p'.activeConsoles = p.activeConsoles)
    (hsocks : ∀ fd', p'.socksListenFd = some fd' ↔ p.socksListenFd = some fd' ∧ fd' ≠ fd)
    (hmonitor : ∀ fd', p'.monitorListenFd = some fd' ↔ p.monitorListenFd = some fd' ∧ fd' ≠ fd) :
    p'.Tended (Function.update T fd none) := by
  have hback : ∀ fd' item', Function.update T fd none fd' = some item' →
      fd' ≠ fd ∧ T fd' = some item' := by
    intro fd' item' hfd'
    rw [Function.update_apply] at hfd'
    split at hfd'
    · cases hfd'
    · next hne => exact ⟨hne, hfd'⟩
  refine ⟨?_, ?_, ?_, ?_, ?_, ?_, ?_, ?_, ?_, ?_⟩
  · exact fun fd' i' id' hfd' => hconsoles ▸ h.console fd' i' id' (hback _ _ hfd').2
  · intro id' t ht
    obtain ⟨fd', hfd'⟩ := h.socket id' t (hconsoles ▸ ht)
    refine ⟨fd', ?_⟩
    rw [Function.update_of_ne]
    · exact hfd'
    · rintro rfl
      rw [hT] at hfd'
      cases hfd'
      exact hitem _ _ rfl
  · exact fun _ _ _ _ _ h₁ h₂ => h.single _ _ _ _ _ (hback _ _ h₁).2 (hback _ _ h₂).2
  · exact hconsoles ▸ h.ready
  · rw [hconsoles, hnext]
    exact h.fresh
  · rw [hactive, hnext, hconsoles]
    exact h.active
  · intro fd' i' d hfd'
    have hold := hback _ _ hfd'
    exact (hsocks fd').2 ⟨h.passive fd' i' d hold.2, hold.1⟩
  · intro fd' hfd'
    have hold := (hsocks fd').1 hfd'
    rw [Function.update_of_ne hold.2]
    exact h.listens fd' hold.1
  · intro fd' i' hfd'
    have hold := hback _ _ hfd'
    exact (hmonitor fd').2 ⟨h.monitor fd' i' hold.2, hold.1⟩
  · intro fd' hfd'
    have hold := (hmonitor fd').1 hfd'
    rw [Function.update_of_ne hold.2]
    exact h.monitorListens fd' hold.1

end Process.Tended

/-! ## Every move -/

/-- What holds between two events, of both halves. -/
structure Process.Good (I : World → Prop) (p : Process) : Prop where
  inv : p.world.Inv
  kept : I p.world
  tended : p.Tended p.world.foreign

namespace Process.Good

variable {I : World → Prop} {p p' : Process} {key : Key} {fd : Fd} {i : FdInterest} {id : ℕ}

/-- The entry of a connection names one that is open, and armed as it should be. -/
theorem found (h : p.Good I) (hfd : p.world.fds fd = some (consoleItem i id)) :
    ∃ s, p.consoles id = some s ∧ s.registered = true ∧ s.Ready := by
  obtain ⟨s, hs⟩ := h.tended.console fd i id (foreign_eq_some hfd rfl)
  exact ⟨s, hs, h.tended.ready _ _ hs⟩

variable [Inet]

/-- A callback of a connection serves what it hands to the commands. -/
theorem served (h : p.Good I) {s s' : MonitorSession} {is : List MonitorInput}
    (hs : p.consoles id = some s) (hcb : ConsoleCallback (s.attach p.world) is s') :
    ∃ fails, (s.attach p.world).Served fails is s' := by
  obtain ⟨hreg, hready⟩ := h.tended.ready _ _ hs
  have hready : (s.attach p.world).Ready := ⟨hready.rb_pending, hready.rb_read, hready.interest⟩
  cases hcb with
  | read ans wans => exact ⟨_, MonitorSession.served_read hready hreg ans wans⟩
  | write wans => exact ⟨_, MonitorSession.served_write hready hreg wans⟩

/-- The store, after a callback of a connection. -/
theorem store_left (h : p.Good I) {s s' : MonitorSession} {is : List MonitorInput}
    (hs : p.consoles id = some s) (hcb : ConsoleCallback (s.attach p.world) is s') :
    s'.console.store = applyOps p.world.store ((s.attach p.world).console.core.orders is) := by
  obtain ⟨fails, hserved⟩ := h.served hs hcb
  exact (congrArg Core.store hserved.core).trans (Core.store_run _ is)

variable (hI : Lasting I)
include hI

/-- The answers of the system are not part of anything. -/
theorem answered (h : p.Good I) (env : Env) : (p.answered env).Good I where
  inv := lasting_inv.env env h.inv
  kept := hI.env env h.kept
  tended := h.tended.same rfl rfl rfl rfl rfl

/-- **An event of the proxy leaves the other half alone.** -/
theorem proxy (h : p.Good I) {e : Event} {w : World} (he : e.ofProxy = true)
    (hstep : SocksProxy.step p.world e = .ok w) : Process.Good I { p with world := w } := by
  have hforeign : w.foreign = p.world.foreign := funext (Aside.step h.inv.aside he hstep).foreign
  refine ⟨lasting_inv.step h.inv hstep, hI.step h.kept hstep, ?_⟩
  rw [show ({ p with world := w } : Process).world.foreign = p.world.foreign from hforeign]
  exact h.tended.same rfl rfl rfl rfl rfl

/-- The entry of a connection is changed, and the store by what was ordered. -/
theorem change (h : p.Good I) (fd : Fd) (id : ℕ) (ops : List StoreOp)
    (new : Option MonitorSession)
    (hfd : p.world.foreign fd = (p.consoles id).map fun _ => consoleItem i id)
    (hfree : ∀ item, p.world.fds fd = some item → item.foreign = true)
    (hnew : ∀ s, new = some s → s.registered = true ∧ s.Ready)
    (hworld : p'.world = { p.world.ordered ops with
      fds := Function.update p.world.fds fd (new.map fun s => consoleItem s.interest id) })
    (hconsoles : p'.consoles = Function.update p.consoles id new)
    (hid : id < p'.nextConsole) (hnext : p.nextConsole ≤ p'.nextConsole)
    (hactive : p'.activeConsoles =
      (List.range p'.nextConsole).countP fun id => (p'.consoles id).isSome)
    (hsocks : p'.socksListenFd = p.socksListenFd)
    (hmonitor : p'.monitorListenFd = p.monitorListenFd) : p'.Good I := by
  have hentry : ∀ item, (new.map fun s => consoleItem s.interest id) = some item →
      item.foreign = true := by
    intro item hitem
    obtain ⟨s, -, rfl⟩ := Option.map_eq_some_iff.1 hitem
    rfl
  refine ⟨?_, ?_, ?_⟩
  · rw [hworld]
    exact lasting_inv.entry (lasting_inv.ordered h.inv ops) hfree hentry
  · rw [hworld]
    exact hI.entry (hI.ordered h.kept ops) hfree hentry
  · have hforeign : p'.world.foreign = Function.update p.world.foreign fd
        (new.map fun s => consoleItem s.interest id) := by
      rw [hworld]
      exact foreign_entry (w := p.world) hentry
    rw [hforeign]
    exact h.tended.change hfd hnew hconsoles hid hnext hactive hsocks hmonitor

/-- A callback of a connection. -/
theorem left (h : p.Good I) {s s' : MonitorSession} {is : List MonitorInput}
    (hs : p.consoles key.data = some s) (hfd : p.world.fds key.fd = some (consoleItem i key.data))
    (hcb : ConsoleCallback (s.attach p.world) is s') :
    (p.left key (s.attach p.world) s' is).Good I := by
  obtain ⟨fails, hserved⟩ := h.served hs hcb
  let ops := (s.attach p.world).console.core.orders is
  have hlt := h.tended.fresh _ _ hs
  have hcount := countP_range_update (f := p.consoles) (p := Option.isSome) hlt s'.still
  rw [hs] at hcount
  refine h.change hI (i := i) key.fd key.data ops s'.still ?_ ?_ ?_ ?_ rfl hlt (Nat.le_refl _) ?_
    rfl rfl
  · rw [hs]
    exact foreign_eq_some hfd rfl
  · intro item hitem
    rw [hfd] at hitem
    cases hitem
    rfl
  · intro t ht
    rw [MonitorSession.still] at ht
    split at ht
    · next hreg =>
      cases ht
      exact ⟨hreg, hserved.ready⟩
    · cases ht
  · rw [World.ordered, ← h.store_left hs hcb]
    rfl
  · show (if s'.registered then p.activeConsoles else p.activeConsoles - 1) =
      (List.range p.nextConsole).countP fun id =>
        (Function.update p.consoles key.data s'.still id).isSome
    rw [h.tended.active]
    rw [MonitorSession.still] at hcount ⊢
    cases hreg : s'.registered with
    | true =>
      rw [hreg] at hcount
      exact (Nat.add_right_cancel hcount).symm
    | false =>
      rw [hreg] at hcount
      simp only [Option.isSome_some, Option.isSome_none, if_true, Bool.false_eq_true,
        if_false] at hcount ⊢
      exact (Nat.eq_sub_of_add_eq hcount).symm

/-- An administrator connects. -/
theorem connected (h : p.Good I) (hfree : p.world.fds fd = none) : (p.connected fd).Good I := by
  have hnone : p.consoles p.nextConsole = none := by
    rw [← Option.not_isSome_iff_eq_none]
    intro hsome
    obtain ⟨t, ht⟩ := Option.isSome_iff_exists.1 hsome
    exact Nat.lt_irrefl _ (h.tended.fresh _ _ ht)
  let s := MonitorSession.init p.world.store
  refine h.change hI (i := opNoop) fd p.nextConsole [] (some s) ?_ ?_ ?_ ?_ rfl
    (Nat.lt_succ_self _) (Nat.le_succ _) ?_ rfl rfl
  · rw [World.foreign, hfree, hnone]
    rfl
  · intro item hitem
    rw [hfree] at hitem
    cases hitem
  · rintro t ht
    cases ht
    exact ⟨rfl, MonitorSession.ready_init _⟩
  · rw [World.ordered, List.map_nil, List.append_nil]
    rfl
  · have hold : ((List.range p.nextConsole).countP fun id =>
        (Function.update p.consoles p.nextConsole (some s) id).isSome) = p.activeConsoles := by
      rw [h.tended.active]
      refine List.countP_congr fun id' hid' => ?_
      rw [Function.update_of_ne (Nat.ne_of_lt (List.mem_range.1 hid'))]
    have hnew :
      (Function.update p.consoles p.nextConsole (some s) p.nextConsole).isSome = true := by
      rw [Function.update_self]
      rfl
    show p.activeConsoles + 1 = (List.range (p.nextConsole + 1)).countP fun id =>
      (Function.update p.consoles p.nextConsole (some s) id).isSome
    rw [List.range_succ, List.countP_append, hold, List.countP_singleton, if_pos hnew]

/-- A listening socket is closed. -/
theorem drop (h : p.Good I) {item : Item} (hfd : p.world.foreign fd = some item)
    (hitem : ∀ i id, item ≠ consoleItem i id) (hworld : p'.world = (p.unlisten fd).world)
    (hconsoles : p'.consoles = p.consoles) (hnext : p'.nextConsole = p.nextConsole)
    (hactive : p'.activeConsoles = p.activeConsoles)
    (hsocks : ∀ fd', p'.socksListenFd = some fd' ↔ p.socksListenFd = some fd' ∧ fd' ≠ fd)
    (hmonitor : ∀ fd', p'.monitorListenFd = some fd' ↔ p.monitorListenFd = some fd' ∧ fd' ≠ fd) :
    p'.Good I := by
  have hfree : ∀ item, p.world.fds fd = some item → item.foreign = true := by
    intro item' hitem'
    rw [World.foreign, hitem', Option.filter_some] at hfd
    split at hfd
    · assumption
    · cases hfd
  have hnone : ∀ item, (none : Option Item) = some item → item.foreign = true :=
    fun _ h => by cases h
  refine ⟨?_, ?_, ?_⟩
  · rw [hworld]
    exact lasting_inv.entry h.inv hfree hnone
  · rw [hworld]
    exact hI.entry h.kept hfree hnone
  · rw [hworld, Process.unlisten, foreign_entry hnone]
    exact h.tended.drop hfd hitem hconsoles hnext hactive hsocks hmonitor

theorem stopSocks (h : p.Good I) (hfd : p.socksListenFd = some fd) :
    Process.Good I { p.unlisten fd with socksListenFd := none } := by
  have hT := h.tended.listens fd hfd
  refine h.drop hI hT (fun i id heq => by cases heq) rfl rfl rfl rfl (fun fd' => ?_) fun fd' => ?_
  · simp only [hfd, reduceCtorEq, Option.some.injEq, false_iff, not_and, not_not]
    exact Eq.symm
  · refine (and_iff_left_of_imp fun hfd' => ?_).symm
    rintro rfl
    rw [h.tended.monitorListens fd' hfd'] at hT
    cases hT

theorem stopMonitor (h : p.Good I) (hfd : p.monitorListenFd = some fd) :
    Process.Good I { p.unlisten fd with monitorListenFd := none } := by
  have hT := h.tended.monitorListens fd hfd
  refine h.drop hI hT (fun i id heq => by cases heq) rfl rfl rfl rfl (fun fd' => ?_) fun fd' => ?_
  · refine (and_iff_left_of_imp fun hfd' => ?_).symm
    rintro rfl
    rw [h.tended.listens fd' hfd'] at hT
    cases hT
  · simp only [hfd, reduceCtorEq, Option.some.injEq, false_iff, not_and, not_not]
    exact Eq.symm

/-- **Every move keeps what holds of the process.** -/
theorem move (h : p.Good I) (hmove : ProcessMove p p') : p'.Good I := by
  cases hmove with
  | proxy ours step_eq => exact h.proxy hI ours step_eq
  | answer env => exact h.answered hI env
  | serve sess item callback => exact h.left hI sess item callback
  | connect free listens => exact h.connected hI free
  | stopSocks listens => exact h.stopSocks hI listens
  | stopMonitor listens => exact h.stopMonitor hI listens

theorem boot {socksFd monitorFd : Fd} (hne : socksFd ≠ monitorFd)
    (h0 : I (World.boot socksFd monitorFd)) (users : List StoreOp) :
    (Process.boot socksFd monitorFd users).Good I where
  inv := lasting_inv.ordered (boot_inv socksFd monitorFd) users
  kept := hI.ordered h0 users
  tended := by
    have hentries : ∀ fd item, (Process.boot socksFd monitorFd users).world.foreign fd = some item →
        fd = socksFd ∧ item = ⟨.passive, opRead, 0⟩ ∨
          fd = monitorFd ∧ item = ⟨.monitor, opRead, 0⟩ := by
      intro fd item hfd
      obtain ⟨hitem, -⟩ := Option.filter_eq_some_iff.1 hfd
      rw [show (Process.boot socksFd monitorFd users).world.fds fd = _ from
        Function.update_apply .., Function.update_apply] at hitem
      split at hitem
      · next heq => exact .inl ⟨heq, (Option.some.inj hitem).symm⟩
      · split at hitem
        · next heq => exact .inr ⟨heq, (Option.some.inj hitem).symm⟩
        · cases hitem
    have hno : ∀ fd i id, (Process.boot socksFd monitorFd users).world.foreign fd ≠
        some (consoleItem i id) := by
      intro fd i id hfd
      rcases hentries _ _ hfd with ⟨-, heq⟩ | ⟨-, heq⟩ <;> cases heq
    refine ⟨fun fd i id hfd => absurd hfd (hno fd i id), fun id s hs => (by cases hs),
      fun fd _ i _ id hfd => absurd hfd (hno fd i id), fun id s hs => (by cases hs),
      fun id s hs => (by cases hs), rfl, ?_, ?_, ?_, ?_⟩
    · intro fd i d hfd
      rcases hentries _ _ hfd with ⟨rfl, -⟩ | ⟨-, heq⟩
      · rfl
      · cases heq
    · rintro fd heq
      cases heq
      refine foreign_eq_some ?_ rfl
      exact Function.update_self ..
    · intro fd i hfd
      rcases hentries _ _ hfd with ⟨-, heq⟩ | ⟨rfl, -⟩
      · cases heq
      · rfl
    · rintro fd heq
      cases heq
      refine foreign_eq_some ?_ rfl
      exact (Function.update_of_ne hne.symm ..).trans (Function.update_self ..)

/-- **What is kept beside the rest of the process holds in every state of every run of it.** -/
theorem reaches {socksFd monitorFd : Fd} (hne : socksFd ≠ monitorFd)
    (h0 : I (World.boot socksFd monitorFd)) {users : List StoreOp}
    (h : Reaches processStep (Process.boot socksFd monitorFd users) p) : p.Good I :=
  keeps_of_moves (fun hp hmove => hp.move hI hmove) (moves_of_reaches h) (boot hI hne h0 users)

end Process.Good

end SocksProxy
