import SocksProxy.Selector.Loop

/-!
# The jump table of the selector

`selector_register` grows the table when the descriptor is greater than its size, and not when it is
equal, so the descriptor whose number is the size of the table is looked up just outside.
`selector_unregister_fd` and `selector_set_interest` compare the descriptor with the limit of the
platform only, and look up any descriptor below that.

`Inside` is the condition under which a step does neither.  In a run of the program every step is
served, that is, stays inside the table, registers exactly what it is told and keeps all other
entries, if and only if every step meets it.
-/

set_option autoImplicit false

namespace SocksProxy

namespace Selector

/-- What the program relies on when it takes a step. -/
structure Served (r : SelectorRun) (a : SelectorAct) : Prop where
  /-- Every access to the table is inside the array. -/
  inside : selectorStep r a ≠ .error .outOfRange
  /-- A successful registration holds what was given. -/
  exact : ∀ fd handler interest data alloc s,
    a = .register fd handler interest data alloc →
    selectorRegister r.sel fd handler interest data alloc = .ok (s, .success) →
    ∃ e, s.at fd = some e ∧ e.fd = fd ∧ e.handler = handler ∧ e.interest = interest ∧ e.data = data
  /-- A call that grows the table keeps every registered entry. -/
  kept : ∀ fd handler interest data alloc s ret,
    a = .register fd handler interest data alloc →
    selectorRegister r.sel fd handler interest data alloc = .ok (s, ret) →
    ∀ fd' e, r.sel.at fd' = some e → e.used = true → s.at fd' = some e
  /-- The entries it adds are unused, but for the one it may register. -/
  unused : ∀ fd handler interest data alloc s ret,
    a = .register fd handler interest data alloc →
    selectorRegister r.sel fd handler interest data alloc = .ok (s, ret) →
    ∀ fd' e, (fd' ≠ fd ∨ ret ≠ .success) → r.sel.at fd' = none → s.at fd' = some e →
      e.used = false

/-- A registration is not for the descriptor whose number is the size of the table, and only
descriptors inside the table are unregistered or given another interest. -/
def Inside (r : SelectorRun) : SelectorAct → Prop
  | .register fd handler _ _ _ => invalidFd fd = true ∨ handler = none ∨ fd.toNat ≠ r.sel.fdSize
  | .unregister fd => invalidFd fd = true ∨ fd.toNat < r.sel.fdSize
  | .setInterest fd _ => invalidFd fd = true ∨ fd.toNat < r.sel.fdSize
  | _ => True

instance (r : SelectorRun) (a : SelectorAct) : Decidable (Inside r a) := by
  cases a <;> unfold Inside <;> infer_instance

/-! ## What every state has -/

/-- The table has its size, and nothing that may be looked up later is outside it. -/
structure SelectorRun.Sound (r : SelectorRun) : Prop where
  sized : r.sel.Sized
  watched : ∀ fd ∈ r.sel.watched, fd = r.sel.eventFd ∨ r.sel.InTable fd
  stack : ∀ c ∈ r.stack, c.Within r.sel

variable {r r' : SelectorRun} {s s' : FdSelector} {fd : ℤ} {e : Entry} {a : SelectorAct}
  {events : List EpollEvent}

/-- A larger table, or the same one rewritten. -/
structure Extends (s s' : FdSelector) : Prop where
  sized : s'.Sized
  size : s.fdSize ≤ s'.fdSize
  eventFd : s'.eventFd = s.eventFd

theorem Extends.inTable (h : Extends s s') (hfd : s.InTable fd) : s'.InTable fd :=
  ⟨hfd.1, Nat.lt_of_lt_of_le hfd.2 h.size⟩

theorem Extends.known (h : Extends s s') {ev : EpollEvent} (hev : s.Known ev) : s'.Known ev := by
  rw [FdSelector.Known, h.eventFd]
  exact hev.imp_right h.inTable

theorem Extends.within (h : Extends s s') {c : Callback} (hc : c.Within s) : c.Within s' := by
  cases c with
  | close fd moved => exact h.inTable hc
  | read ev data moved rest => exact ⟨h.inTable hc.1, fun ev' hev' => h.known (hc.2 ev' hev')⟩
  | write rest => exact fun ev hev => h.known (hc ev hev)

theorem Grown.extends (h : Grown s s') : Extends s s' := ⟨h.sized, h.size, h.eventFd⟩

theorem extends_put (h : s.Sized) (fd : ℤ) (e : Entry) : Extends s (s.put fd e) :=
  ⟨h.put fd e, Nat.le_refl _, rfl⟩

/-- A change of the selector that lets the epoll instance watch at most one more descriptor. -/
theorem SelectorRun.Sound.extend (h : r.Sound) (hs : Extends r.sel s')
    (hw : ∀ fd ∈ s'.watched, fd ∈ r.sel.watched ∨ s'.InTable fd) :
    SelectorRun.Sound { r with sel := s' } where
  sized := hs.sized
  watched := by
    intro fd hfd
    rcases hw fd hfd with hold | hin
    · have := h.watched fd hold
      show fd = s'.eventFd ∨ s'.InTable fd
      rw [hs.eventFd]
      exact this.imp_right hs.inTable
    · exact .inr hin
  stack := fun c hc => hs.within (h.stack c hc)

theorem SelectorRun.Sound.push (h : r.Sound) {c : Callback} (hc : c.Within r.sel) :
    SelectorRun.Sound { r with stack := c :: r.stack } where
  sized := h.sized
  watched := h.watched
  stack := by
    intro c' hc'
    rcases List.mem_cons.1 hc' with rfl | hmem
    · exact hc
    · exact h.stack c' hmem

theorem SelectorRun.Sound.pop (h : r.Sound) {c : Callback} {stack : List Callback}
    (hs : r.stack = c :: stack) : SelectorRun.Sound { r with stack := stack } where
  sized := h.sized
  watched := h.watched
  stack := fun c' hc' => h.stack c' (by rw [hs]; exact List.mem_cons_of_mem _ hc')

theorem SelectorRun.Sound.enter (h : r.Sound) (ev : EpollEvent) (write : Bool) (data : ℕ)
    (e : Entry)
    {c : Callback} (hc : c.Within r.sel) : (r.enter ev write data e c).Sound :=
  ⟨h.sized, h.watched, (h.push hc).stack⟩

/-- The selector as it starts. -/
theorem sound_start {n : ℕ} {o : SelectorSetup} (h : selectorNew n o = some s) :
    (SelectorRun.start s).Sound := by
  obtain ⟨hsized, hwatched, -, -⟩ := selectorNew_spec h
  refine ⟨hsized, fun fd hfd => ?_, fun c hc => by cases hc⟩
  rw [SelectorRun.start, hwatched, List.mem_singleton] at hfd
  exact .inl hfd

/-! ## The loop stays inside -/

/-- A result of the loop is good: not outside the table, and sound if it is a state. -/
def GoodResult (x : Except SelectorFault SelectorRun) : Prop :=
  x ≠ .error .outOfRange ∧ ∀ r', x = .ok r' → r'.Sound

theorem goodResult_ok (h : r.Sound) : GoodResult (.ok r) :=
  ⟨nofun, fun r' hr => by cases hr; exact h⟩

theorem goodResult_stops {x : Except SelectorFault SelectorRun} (h : Stops x) : GoodResult x := by
  rcases h with rfl | rfl
  · exact ⟨nofun, nofun⟩
  · exact ⟨nofun, nofun⟩

theorem goodResult_handleIteration (h : r.Sound) (hk : ∀ ev ∈ events, r.sel.Known ev) :
    GoodResult (handleIteration r events) := by
  rcases handleIteration_cases h.sized hk with ⟨-, heq⟩ | ⟨ev, e, rest, -, -, hin, hsub, hd⟩
  · rw [heq]
    exact goodResult_ok h
  · have hrest : ∀ ev' ∈ rest, r.sel.Known ev' := fun ev' hev' => hk ev' (hsub ev' hev')
    generalize handleIteration r events = x at hd ⊢
    cases hd with
    | call write data c _ hc =>
      refine goodResult_ok (h.enter ev write data e ?_)
      rcases hc with rfl | rfl
      · exact hrest
      · exact ⟨hin, hrest⟩
    | stop hstop _ => exact goodResult_stops hstop

theorem goodResult_writeHalf (h : r.Sound) (ev : EpollEvent) (data : ℕ) (e : Entry)
    (hk : ∀ ev ∈ events, r.sel.Known ev) :
    GoodResult (writeHalf r ev data e events (handleIteration r events)) := by
  cases hw : ev.writable && e.interest.write with
  | false =>
    rw [writeHalf_eq_next hw]
    exact goodResult_handleIteration h hk
  | true =>
    cases hc : e.canWrite with
    | true =>
      rw [writeHalf_enter hw hc]
      exact goodResult_ok (h.enter ev true data e hk)
    | false => exact goodResult_stops (writeHalf_stops hw hc)

theorem goodResult_afterRead (h : r.Sound) (ev : EpollEvent) (data moved : ℕ)
    (hin : r.sel.InTable ev.fd) (hk : ∀ ev ∈ events, r.sel.Known ev) :
    GoodResult (afterRead r ev data moved events) := by
  rw [afterRead]
  split
  · exact goodResult_handleIteration h hk
  · split
    · exact ⟨nofun, nofun⟩
    · obtain ⟨e, he⟩ := h.sized.exists_at hin
      rw [he]
      exact goodResult_writeHalf h ev data e hk

theorem goodResult_afterClose (h : r.Sound) (fd : ℤ) (moved : ℕ) :
    GoodResult (afterClose r fd moved) := by
  rw [afterClose]
  split
  · exact ⟨nofun, nofun⟩
  · exact goodResult_ok (h.extend (extends_put h.sized fd _) fun fd hfd => .inl hfd)

/-! ## One step -/

theorem at_registered (h : s.Sized) (hfd : s.InTable fd) (handler : Option FdHandler)
    (interest : FdInterest) (data : ℕ) : (s.registered fd handler interest data).at fd =
      some ⟨fd, interest, handler, data, s.registrations⟩ :=
  h.at_put_self hfd _

theorem at_registered_ne {fd' : ℤ} (hne : fd' ≠ fd) (hfd : 0 ≤ fd) (handler : Option FdHandler)
    (interest : FdInterest) (data : ℕ) :
    (s.registered fd handler interest data).at fd' = s.at fd' :=
  s.at_put_ne hne hfd _

theorem extends_registered (h : s.Sized) (fd : ℤ) (handler : Option FdHandler)
    (interest : FdInterest) (data : ℕ) : Extends s (s.registered fd handler interest data) :=
  ⟨h.put fd _, Nat.le_refl _, rfl⟩

theorem Extends.trans {s'' : FdSelector} (h : Extends s s') (h' : Extends s' s'') : Extends s s'' :=
  ⟨h'.sized, Nat.le_trans h.size h'.size, h'.eventFd.trans h.eventFd⟩

/-- The table of a valid descriptor is looked up outside exactly when it is not inside. -/
theorem lookup_cases (h : s.Sized) (hv : invalidFd fd = false) :
    (fd.toNat < s.fdSize ∧ ∃ e, s.at fd = some e ∧ s.InTable fd) ∨
      (¬ fd.toNat < s.fdSize ∧ s.at fd = none) := by
  have hneg : 0 ≤ fd := by
    rw [invalidFd, Bool.or_eq_false_iff, decide_eq_false_iff_not] at hv
    omega
  by_cases hlt : fd.toNat < s.fdSize
  · obtain ⟨e, he⟩ := h.exists_at ⟨hneg, hlt⟩
    exact .inl ⟨hlt, e, he, hneg, hlt⟩
  · exact .inr ⟨hlt, h.at_eq_none_iff.2 fun hin => hlt hin.2⟩

theorem step_register (h : r.Sound) (fd : ℤ) (handler : Option FdHandler) (interest : FdInterest)
    (data : ℕ) (alloc : Bool) :
    let x := selectorStep r (.register fd handler interest data alloc)
    (x = .error .outOfRange ↔ ¬ Inside r (.register fd handler interest data alloc)) ∧
      ∀ r', x = .ok r' → r'.Sound := by
  rw [selectorStep, Inside]
  rcases selectorRegister_cases h.sized fd handler interest data alloc with
    ⟨s', ret, heq, -, hg, hin⟩ | ⟨s', item, heq, hg, hneg, hitem, -, hh, hne⟩ | ⟨heq, hv, hh, hedge⟩
  · rw [heq]
    refine ⟨iff_of_false nofun (not_not_intro hin), fun r' hr => ?_⟩
    cases hr
    exact h.extend hg.extends fun fd hfd => .inl (by rw [← hg.watched]; exact hfd)
  · rw [heq]
    refine ⟨iff_of_false nofun (not_not_intro (.inr (.inr hne))), fun r' hr => ?_⟩
    cases hr
    have hext := extends_registered hg.sized fd handler interest data
    refine h.extend (hg.extends.trans hext) fun fd' hfd' => ?_
    rcases List.mem_cons.1 hfd' with rfl | hold
    · exact .inr (hext.inTable (hg.sized.inTable hitem))
    · exact .inl (by rw [← hg.watched]; exact hold)
  · rw [heq]
    refine ⟨iff_of_true rfl ?_, fun r' hr => by cases hr⟩
    rintro (hbad | hnone | hne)
    · rw [hv] at hbad
      cases hbad
    · exact hh hnone
    · exact hne hedge

theorem step_setInterest (h : r.Sound) (fd : ℤ) (interest : FdInterest) :
    let x := selectorStep r (.setInterest fd interest)
    (x = .error .outOfRange ↔ ¬ Inside r (.setInterest fd interest)) ∧
      ∀ r', x = .ok r' → r'.Sound := by
  rw [selectorStep, Inside, selectorSetInterest]
  cases hv : invalidFd fd with
  | true =>
    refine ⟨iff_of_false nofun (not_not_intro (.inl rfl)), fun r' hr => ?_⟩
    cases hr
    exact h
  | false =>
    rw [if_neg Bool.false_ne_true]
    rcases lookup_cases h.sized hv with ⟨hlt, item, hitem, -⟩ | ⟨hge, hnone⟩
    · rw [hitem]
      refine ⟨iff_of_false ?_ (not_not_intro (.inr hlt)), fun r' hr => ?_⟩
      · dsimp only
        split <;> nofun
      · dsimp only at hr
        split at hr
        · cases hr
          exact h.extend (extends_put h.sized fd _) fun fd hfd => .inl hfd
        · cases hr
          exact h
    · rw [hnone]
      refine ⟨iff_of_true rfl ?_, fun r' hr => by cases hr⟩
      rintro (hbad | hlt)
      · cases hbad
      · exact hge hlt

theorem step_unregister (h : r.Sound) (fd : ℤ) :
    let x := selectorStep r (.unregister fd)
    (x = .error .outOfRange ↔ ¬ Inside r (.unregister fd)) ∧ ∀ r', x = .ok r' → r'.Sound := by
  rw [selectorStep, Inside, selectorUnregisterFd]
  cases hv : invalidFd fd with
  | true =>
    refine ⟨iff_of_false nofun (not_not_intro (.inl rfl)), fun r' hr => ?_⟩
    cases hr
    exact h
  | false =>
    rw [if_neg Bool.false_ne_true]
    rcases lookup_cases h.sized hv with ⟨hlt, item, hitem, hin⟩ | ⟨hge, hnone⟩
    · rw [hitem]
      dsimp only
      have hput : SelectorRun.Sound { r with sel := { r.sel.put fd { item with interest := opNoop }
          with watched := r.sel.watched.filter (· ≠ fd) } } :=
        h.extend ⟨h.sized.put fd _, Nat.le_refl _, rfl⟩
          fun fd' hfd' => .inl (List.mem_filter.1 hfd').1
      split
      · refine ⟨iff_of_false nofun (not_not_intro (.inr hlt)), fun r' hr => ?_⟩
        cases hr
        exact h
      · split
        · exact ⟨iff_of_false nofun (not_not_intro (.inr hlt)), fun r' hr => by cases hr⟩
        · split
          · refine ⟨iff_of_false nofun (not_not_intro (.inr hlt)), fun r' hr => ?_⟩
            cases hr
            exact hput.push (c := .close fd _) hin
          · refine ⟨iff_of_false nofun (not_not_intro (.inr hlt)), fun r' hr => ?_⟩
            cases hr
            exact hput.extend (extends_put hput.sized fd _) fun fd hfd => .inl hfd
    · rw [hnone]
      refine ⟨iff_of_true rfl ?_, fun r' hr => by cases hr⟩
      rintro (hbad | hlt)
      · cases hbad
      · exact hge hlt

/-- The main loop goes on. -/
theorem goodResult_loop (h : r.Sound) (ha : a = .ret ∨ ∃ events, a = .poll events) :
    GoodResult (selectorStep r a) := by
  rcases ha with rfl | ⟨events, rfl⟩
  · rw [selectorStep]
    split
    · exact goodResult_ok h
    · next fd moved stack hs => exact goodResult_afterClose (h.pop hs) fd moved
    · next ev data moved rest stack hs =>
      have hc := h.stack _ (by rw [hs]; exact List.mem_cons_self)
      exact goodResult_afterRead (h.pop hs) ev data moved hc.1 hc.2
    · next rest stack hs =>
      have hc := h.stack _ (by rw [hs]; exact List.mem_cons_self)
      exact goodResult_handleIteration (h.pop hs) hc
  · rw [selectorStep]
    split
    · exact goodResult_ok h
    · refine goodResult_handleIteration (r := { r with polled := r.sel })
        ⟨h.sized, h.watched, h.stack⟩
        fun ev hev => ?_
      have hmem := (List.mem_filter.1 hev).2
      exact h.watched ev.fd (by simpa using hmem)

/-- **A step goes outside the table exactly when it does not meet the condition**, and keeps the
state sound otherwise. -/
theorem step_spec (h : r.Sound) (a : SelectorAct) :
    (selectorStep r a = .error .outOfRange ↔ ¬ Inside r a) ∧
      ∀ r', selectorStep r a = .ok r' → r'.Sound := by
  cases a with
  | register fd handler interest data alloc => exact step_register h fd handler interest data alloc
  | unregister fd => exact step_unregister h fd
  | setInterest fd interest => exact step_setInterest h fd interest
  | poll events =>
    have hgood := goodResult_loop h (.inr ⟨events, rfl⟩)
    exact ⟨iff_of_false hgood.1 (not_not_intro trivial), hgood.2⟩
  | ret =>
    have hgood := goodResult_loop h (.inl rfl)
    exact ⟨iff_of_false hgood.1 (not_not_intro trivial), hgood.2⟩

theorem served_iff (h : r.Sound) (a : SelectorAct) : Served r a ↔ Inside r a := by
  have hiff := (step_spec h a).1
  constructor
  · intro hserved
    by_contra hno
    exact hserved.inside (hiff.2 hno)
  · intro hin
    refine ⟨fun hout => hiff.1 hout hin, ?_, ?_, ?_⟩
    · intro fd handler interest data alloc s _ hreg
      rcases selectorRegister_cases h.sized fd handler interest data alloc with
        ⟨s', ret, heq, hret, -⟩ | ⟨s', item, heq, hg, -, hitem, -⟩ | ⟨heq, -⟩
      · rw [heq] at hreg
        cases hreg
        exact absurd rfl hret
      · rw [heq] at hreg
        cases hreg
        exact ⟨_, at_registered hg.sized (hg.sized.inTable hitem) handler interest data, rfl, rfl,
          rfl, rfl⟩
      · rw [heq] at hreg
        cases hreg
    · intro fd handler interest data alloc s ret _ hreg fd' e he hu
      rcases selectorRegister_cases h.sized fd handler interest data alloc with
        ⟨s', ret', heq, -, hg, -⟩ | ⟨s', item, heq, hg, hneg, hitem, hfree, -⟩ | ⟨heq, -⟩
      · rw [heq] at hreg
        cases hreg
        exact hg.kept fd' e he
      · rw [heq] at hreg
        cases hreg
        have hkept := hg.kept fd' e he
        have hne : fd' ≠ fd := by
          rintro rfl
          rw [hitem] at hkept
          cases hkept
          rw [hfree] at hu
          cases hu
        rw [at_registered_ne hne hneg, hkept]
      · rw [heq] at hreg
        cases hreg
    · intro fd handler interest data alloc s ret _ hreg fd' e hwhich hnone he
      rcases selectorRegister_cases h.sized fd handler interest data alloc with
        ⟨s', ret', heq, -, hg, -⟩ | ⟨s', item, heq, hg, hneg, -⟩ | ⟨heq, -⟩
      · rw [heq] at hreg
        cases hreg
        exact (hg.unused fd' e hnone he).1
      · rw [heq] at hreg
        cases hreg
        have hne : fd' ≠ fd := hwhich.resolve_right (not_not_intro rfl)
        rw [at_registered_ne hne hneg] at he
        exact (hg.unused fd' e hnone he).1
      · rw [heq] at hreg
        cases hreg

/-! ## Runs -/

/-- **The table serves every step of a run exactly when every step is for a descriptor inside
it.** -/
theorem table_served_iff {n : ℕ} {o : SelectorSetup} {s : FdSelector} (h : selectorNew n o = some s)
    (acts : List SelectorAct) : Along selectorStep Served (.start s) acts ↔
      Along selectorStep Inside (.start s) acts := by
  have hstep : ∀ (r : SelectorRun) (a : SelectorAct) (r' : SelectorRun), r.Sound →
      selectorStep r a = .ok r' → r'.Sound := fun r a r' hr ha => (step_spec hr a).2 r' ha
  constructor
  · exact along_of_along (fun r a r' hr _ ha => hstep r a r' hr ha)
      (fun r a hr hserved => (served_iff hr a).1 hserved) (sound_start h)
  · exact along_of_along (fun r a r' hr _ ha => hstep r a r' hr ha)
      (fun r a hr hin => (served_iff hr a).2 hin) (sound_start h)

/-- Everything `selector_new` calls succeeds, and the event descriptor is 4. -/
def setupOk : SelectorSetup := ⟨true, true, some 4, true, true, true⟩

/-- A handler with all its callbacks. -/
def plainHandler : FdHandler := ⟨1, true, true, true⟩

/-- The selector of `selector_new(0)`. -/
def smallSelector : FdSelector :=
  ⟨some [Entry.zero.init, Entry.zero.init], 2, [4], 4, 0, 0⟩

theorem selectorNew_zero : selectorNew 0 setupOk = some smallSelector := rfl

theorem table_served_small :
    Along selectorStep Served (.start smallSelector)
        [.register 5 (some plainHandler) opRead 7 true, .unregister 5] ↔
      Along selectorStep Inside (.start smallSelector)
        [.register 5 (some plainHandler) opRead 7 true, .unregister 5] :=
  table_served_iff selectorNew_zero _

/-- The descriptor whose number is the size of the table is looked up outside it. -/
theorem table_outside :
    selectorNew 0 setupOk = some smallSelector ∧
      selectorStep (.start smallSelector) (.register 2 (some plainHandler) opRead 7 true) =
        .error .outOfRange ∧
      ¬ Served (.start smallSelector) (.register 2 (some plainHandler) opRead 7 true) := by
  have hout : selectorStep (.start smallSelector)
      (.register 2 (some plainHandler) opRead 7 true) = .error .outOfRange := by rfl
  exact ⟨selectorNew_zero, hout, fun h => h.inside hout⟩

end Selector

end SocksProxy
