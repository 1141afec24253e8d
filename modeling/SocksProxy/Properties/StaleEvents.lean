import SocksProxy.Properties.JumpTable

/-!
# Events of a registration that is gone

`handle_iteration` works through the events of one `epoll_wait` while its handlers close descriptors
and open others, and the kernel gives out the lowest free number.  All it asks of an event is that
the entry of the descriptor is in use with the right interest.  An event may so reach a registration
that was made after `epoll_wait` returned, for whoever owned the number before.

A registration has a serial number, and `Early` says of an entry that it was registered before
`epoll_wait` returned.  The handlers are called for the registrations that were live then, in every
state of a run, exactly when the run never comes back to the loop with the next wanted event on an
entry that is not early.
-/

set_option autoImplicit false

namespace SocksProxy

namespace Selector

/-- Every handler was called for the registration that was live when `epoll_wait` returned. -/
def SelectorRun.CalledLive (r : SelectorRun) : Prop :=
  ∀ c ∈ r.calls, c.polled = some c.registration

/-- The entry was registered before `epoll_wait` returned. -/
def SelectorRun.Early (r : SelectorRun) (e : Entry) : Prop := e.serial < r.polled.registrations

/-- The next event that the interest of a registered descriptor asks for is on an early entry. -/
def SelectorRun.NextEarly (r : SelectorRun) (events : List EpollEvent) : Prop :=
  ∀ ev e, events.find? r.sel.delivers = some ev → r.sel.at ev.fd = some e → e.answers ev = true →
    r.Early e

/-- When a handler returns to the loop, the rest of its event or else the next event that is wanted
is on an early entry. -/
def NotReused (r : SelectorRun) : SelectorAct → Prop
  | .ret =>
    match r.stack with
    | .read ev _ moved rest :: _ =>
      if ev.writable then
        moved = r.sel.moved → ∀ e, r.sel.at ev.fd = some e →
          if e.interest.write then e.canWrite = true → r.Early e else r.NextEarly rest
      else r.NextEarly rest
    | .write rest :: _ => r.NextEarly rest
    | _ => True
  | _ => True

/-- Serial numbers tell the registrations apart. -/
structure SelectorRun.Dated (r : SelectorRun) : Prop where
  serial : ∀ fd e, r.sel.at fd = some e → e.used = true → e.serial < r.sel.registrations
  idle : ∀ fd e, r.sel.at fd = some e → e.used = false → e.interest = opNoop
  polledSerial : ∀ fd k, r.polled.live fd = some k → k < r.polled.registrations
  polledLe : r.polled.registrations ≤ r.sel.registrations
  /-- An early entry has not changed hands since. -/
  kept : ∀ fd e, r.sel.at fd = some e → e.used = true → r.Early e → r.polled.live fd = some e.serial

variable {r r' : SelectorRun} {s s' : FdSelector} {fd : ℤ} {e : Entry} {ev : EpollEvent}
  {events : List EpollEvent} {data : ℕ}

/-! ## What happens to the registrations -/

/-- Every used entry was there before, under the same number, or is new. -/
structure Later (s s' : FdSelector) : Prop where
  registrations : s.registrations ≤ s'.registrations
  used : ∀ fd e', s'.at fd = some e' → e'.used = true →
    (∃ e, s.at fd = some e ∧ e.used = true ∧ e.serial = e'.serial) ∨
      s.registrations ≤ e'.serial ∧ e'.serial < s'.registrations
  idle : ∀ fd e', s'.at fd = some e' → e'.used = false → e'.interest = opNoop

theorem SelectorRun.Dated.later (h : r.Dated) (hl : Later r.sel s') :
    SelectorRun.Dated { r with sel := s' } where
  serial := by
    intro fd e' he' hu
    rcases hl.used fd e' he' hu with ⟨e, he, hue, hserial⟩ | ⟨-, hlt⟩
    · rw [← hserial]
      exact Nat.lt_of_lt_of_le (h.serial fd e he hue) hl.registrations
    · exact hlt
  idle := hl.idle
  polledSerial := h.polledSerial
  polledLe := Nat.le_trans h.polledLe hl.registrations
  kept := by
    intro fd e' he' hu hearly
    rcases hl.used fd e' he' hu with ⟨e, he, hue, hserial⟩ | ⟨hnew, -⟩
    · rw [← hserial]
      refine h.kept fd e he hue ?_
      rw [SelectorRun.Early, hserial]
      exact hearly
    · have hlt : e'.serial < r.polled.registrations := hearly
      have := h.polledLe
      omega

theorem Later.refl (h : r.Dated) : Later r.sel r.sel :=
  ⟨Nat.le_refl _, fun _ e he hu => .inl ⟨e, he, hu, rfl⟩, h.idle⟩

theorem later_grown (h : r.Dated) (hg : Grown r.sel s') : Later r.sel s' := by
  -- an entry of the larger table is an old one or unused
  have hold : ∀ fd e', s'.at fd = some e' →
      r.sel.at fd = some e' ∨ e'.used = false ∧ e'.interest = opNoop := by
    intro fd e' he'
    cases ho : r.sel.at fd with
    | none => exact .inr (hg.unused fd e' ho he')
    | some e =>
      rw [hg.kept fd e ho] at he'
      cases he'
      exact .inl rfl
  refine ⟨Nat.le_of_eq hg.registrations.symm, fun fd e' he' hu => ?_, fun fd e' he' hu => ?_⟩
  · rcases hold fd e' he' with ho | ⟨hno, -⟩
    · exact .inl ⟨e', ho, hu, rfl⟩
    · rw [hno] at hu
      cases hu
  · rcases hold fd e' he' with ho | ⟨-, hnoop⟩
    · exact h.idle fd e' ho hu
    · exact hnoop

/-- An entry is rewritten. -/
theorem Later.put (h : Later s s') (hs : s'.Sized) (hfd : s'.InTable fd) (n : ℕ)
    (hn : s'.registrations ≤ n)
    (hu : e.used = true → (∃ e₀, s.at fd = some e₀ ∧ e₀.used = true ∧ e₀.serial = e.serial) ∨
      s.registrations ≤ e.serial ∧ e.serial < n)
    (hi : e.used = false → e.interest = opNoop) {watched : List ℤ} :
    Later s { s'.put fd e with watched := watched, registrations := n } := by
  have hat : ∀ fd', (({ s'.put fd e with watched := watched, registrations := n } :
      FdSelector).at fd') = (s'.put fd e).at fd' := fun _ => rfl
  refine ⟨Nat.le_trans h.registrations hn, fun fd' e' he' hue' => ?_, fun fd' e' he' hue' => ?_⟩
  · rw [hat] at he'
    by_cases hff : fd' = fd
    · subst hff
      rw [hs.at_put_self hfd] at he'
      cases he'
      exact hu hue'
    · rw [s'.at_put_ne hff hfd.1] at he'
      exact (h.used fd' e' he' hue').imp_right fun hnew => ⟨hnew.1, Nat.lt_of_lt_of_le hnew.2 hn⟩
  · rw [hat] at he'
    by_cases hff : fd' = fd
    · subst hff
      rw [hs.at_put_self hfd] at he'
      cases he'
      exact hi hue'
    · rw [s'.at_put_ne hff hfd.1] at he'
      exact h.idle fd' e' he' hue'

theorem later_clear (h : r.Dated) (hs : r.sel.Sized) (hfd : r.sel.InTable fd) :
    Later r.sel (r.sel.clear fd) :=
  (Later.refl h).put hs hfd r.sel.registrations (Nat.le_refl _) (fun hu => absurd hu (by decide))
    fun _ => rfl

/-! ## The calls of the loop -/

theorem SelectorRun.Dated.live_iff (h : r.Dated) (he : r.sel.at fd = some e) (hu : e.used = true) :
    r.polled.live fd = some e.serial ↔ r.Early e :=
  ⟨h.polledSerial fd e.serial, h.kept fd e he hu⟩

/-- A handler is called for an entry. -/
theorem calledLive_enter (h : r.Dated) (hc : r.CalledLive) (he : r.sel.at ev.fd = some e)
    (hu : e.used = true) (write : Bool) (data : ℕ) (c : Callback) :
    (r.enter ev write data e c).CalledLive ↔ r.Early e := by
  rw [← h.live_iff he hu]
  constructor
  · intro hall
    exact hall ⟨ev.fd, write, data, e.serial, r.polled.live ev.fd⟩
      (List.mem_append_right _ List.mem_cons_self)
  · intro hlive c hmem
    rcases List.mem_append.1 hmem with hold | hnew
    · exact hc c hold
    · rw [List.mem_singleton.1 hnew]
      exact hlive

/-- What a step must satisfy: a state it leads to is dated, and has called the right handlers
exactly when `P` holds; and `P` holds if it leads to none. -/
structure Tells (P : Prop) (x : Except SelectorFault SelectorRun) : Prop where
  ok : ∀ r', x = .ok r' → r'.Dated ∧ (r'.CalledLive ↔ P)
  error : ∀ f, x = .error f → P

theorem Tells.of_stops {P : Prop} {x : Except SelectorFault SelectorRun} (h : Stops x) (hP : P) :
    Tells P x := by
  rcases h with rfl | rfl
  · exact ⟨nofun, fun _ _ => hP⟩
  · exact ⟨nofun, fun _ _ => hP⟩

theorem tells_ok {P : Prop} (h : r.Dated) (hc : r.CalledLive ↔ P) : Tells P (.ok r) :=
  ⟨fun r' hr => (by cases hr; exact ⟨h, hc⟩), nofun⟩

theorem SelectorRun.Dated.enter (h : r.Dated) (ev : EpollEvent) (write : Bool) (data : ℕ)
    (e : Entry)
    (c : Callback) : (r.enter ev write data e c).Dated :=
  ⟨h.serial, h.idle, h.polledSerial, h.polledLe, h.kept⟩

theorem used_of_delivers (h : r.sel.delivers ev = true) (he : r.sel.at ev.fd = some e) :
    e.used = true := by
  rw [FdSelector.delivers, he, Option.any_some, Bool.and_eq_true, Bool.and_eq_true] at h
  exact h.2.1

theorem tells_handleIteration (hs : r.Sound) (h : r.Dated) (hc : r.CalledLive)
    (hk : ∀ ev ∈ events, r.sel.Known ev) :
    Tells (r.NextEarly events) (handleIteration r events) := by
  rcases handleIteration_cases hs.sized hk with ⟨hnone, heq⟩ | ⟨ev, e, rest, hfind, he, -, -, hd⟩
  · rw [heq]
    refine tells_ok h (iff_of_true hc fun ev e hfind => ?_)
    rw [hnone] at hfind
    cases hfind
  · have hu := used_of_delivers (List.find?_some hfind) he
    have hnext : r.NextEarly events ↔ (e.answers ev = true → r.Early e) := by
      constructor
      · exact fun hall => hall ev e hfind he
      · intro hearly ev' e' hfind' he'
        rw [hfind] at hfind'
        cases hfind'
        rw [he] at he'
        cases he'
        exact hearly
    generalize handleIteration r events = x at hd ⊢
    cases hd with
    | call write data c hans _ =>
      refine tells_ok (h.enter ev write data e c) ?_
      rw [calledLive_enter h hc he hu, hnext]
      exact ⟨fun hearly _ => hearly, fun hall => hall hans⟩
    | stop hstop hsilent =>
      refine .of_stops hstop (hnext.2 fun hans => ?_)
      rw [hsilent] at hans
      cases hans

theorem tells_afterRead (hs : r.Sound) (h : r.Dated) (hc : r.CalledLive)
    (hin : r.sel.InTable ev.fd) (hk : ∀ ev ∈ events, r.sel.Known ev) (moved : ℕ) :
    Tells (if ev.writable then moved = r.sel.moved → ∀ e, r.sel.at ev.fd = some e →
        if e.interest.write then e.canWrite = true → r.Early e else r.NextEarly events
      else r.NextEarly events) (afterRead r ev data moved events) := by
  have hloop := tells_handleIteration hs h hc hk
  rw [afterRead]
  cases hw : ev.writable with
  | false =>
    rw [if_pos Bool.false_ne_true, if_neg Bool.false_ne_true]
    exact hloop
  | true =>
    rw [if_neg (not_not_intro rfl), if_pos rfl]
    by_cases hmoved : moved = r.sel.moved
    · rw [if_neg (not_not_intro hmoved)]
      obtain ⟨e, he⟩ := hs.sized.exists_at hin
      have hcond : (moved = r.sel.moved → ∀ e, r.sel.at ev.fd = some e →
          if e.interest.write then e.canWrite = true → r.Early e else r.NextEarly events) ↔
          if e.interest.write then e.canWrite = true → r.Early e else r.NextEarly events := by
        constructor
        · exact fun hall => hall hmoved e he
        · intro hone _ e' he'
          rw [he] at he'
          cases he'
          exact hone
      rw [hcond, he]
      dsimp only
      cases hi : e.interest.write with
      | false =>
        rw [writeHalf_eq_next (by rw [hi, Bool.and_false]), if_neg Bool.false_ne_true]
        exact hloop
      | true =>
        rw [if_pos rfl]
        have hboth : (ev.writable && e.interest.write) = true := by rw [hw, hi]; rfl
        -- an entry with an interest is in use
        have hu : e.used = true := by
          by_contra hno
          rw [h.idle ev.fd e he (Bool.eq_false_iff.2 hno)] at hi
          cases hi
        cases hcw : e.canWrite with
        | true =>
          rw [writeHalf_enter hboth hcw]
          refine tells_ok (h.enter ev true data e _) ?_
          rw [calledLive_enter h hc he hu]
          exact ⟨fun hearly _ => hearly, fun hall => hall rfl⟩
        | false =>
          exact .of_stops (writeHalf_stops hboth hcw) fun hcan => absurd hcan Bool.false_ne_true
    · rw [if_pos hmoved]
      exact ⟨by simp, fun _ _ heq => absurd heq hmoved⟩

/-! ## One step -/

/-- A step that calls no handler. -/
theorem tells_quiet {x : Except SelectorFault SelectorRun} (hc : r.CalledLive)
    (h : ∀ r', x = .ok r' → r'.Dated ∧ r'.calls = r.calls) : Tells True x where
  ok := fun r' hr => by
    obtain ⟨hd, hcalls⟩ := h r' hr
    refine ⟨hd, iff_of_true (fun c hmem => hc c ?_) trivial⟩
    rw [← hcalls]
    exact hmem
  error := fun _ _ => trivial

theorem tells_register (hs : r.Sound) (h : r.Dated) (hc : r.CalledLive) (fd : ℤ)
    (handler : Option FdHandler) (interest : FdInterest) (data : ℕ) (alloc : Bool) :
    Tells True (selectorStep r (.register fd handler interest data alloc)) := by
  refine tells_quiet hc fun r' hr => ?_
  rw [selectorStep] at hr
  rcases selectorRegister_cases hs.sized fd handler interest data alloc with
    ⟨s', ret, heq, -, hg, -⟩ | ⟨s', item, heq, hg, -, hitem, -⟩ | ⟨heq, -⟩
  · rw [heq] at hr
    cases hr
    exact ⟨h.later (later_grown h hg), rfl⟩
  · rw [heq] at hr
    cases hr
    refine ⟨h.later ?_, rfl⟩
    have hreg := hg.registrations
    refine (later_grown h hg).put hg.sized (hg.sized.inTable hitem)
      (s'.registrations + 1) (Nat.le_succ _) (fun _ => .inr ?_) fun hno => ?_
    · exact ⟨Nat.le_of_eq hreg.symm, Nat.lt_succ_self _⟩
    · -- a valid descriptor is not the mark of an unused entry
      rw [Entry.used, fdUnused, bne_eq_false_iff_eq] at hno
      have hlt := (hg.sized.inTable hitem).1
      have hfd : fd = -1 := hno
      omega
  · rw [heq] at hr
    cases hr

theorem tells_setInterest (hs : r.Sound) (h : r.Dated) (hc : r.CalledLive) (fd : ℤ)
    (interest : FdInterest) : Tells True (selectorStep r (.setInterest fd interest)) := by
  refine tells_quiet hc fun r' hr => ?_
  rw [selectorStep, selectorSetInterest] at hr
  split at hr
  · cases hr
    exact ⟨h, rfl⟩
  · split at hr
    · cases hr
    · next item hitem =>
      split at hr
      · next hu =>
        cases hr
        refine ⟨h.later ?_, rfl⟩
        exact (Later.refl h).put (e := { item with interest := interest }) hs.sized
          (hs.sized.inTable hitem) r.sel.registrations (Nat.le_refl _)
            (fun _ => .inl ⟨item, hitem, hu, rfl⟩)
          fun hno => (Bool.eq_false_iff.1 hno hu).elim
      · cases hr
        exact ⟨h, rfl⟩

theorem tells_unregister (hs : r.Sound) (h : r.Dated) (hc : r.CalledLive) (fd : ℤ) :
    Tells True (selectorStep r (.unregister fd)) := by
  refine tells_quiet hc fun r' hr => ?_
  rw [selectorStep, selectorUnregisterFd] at hr
  split at hr
  · cases hr
    exact ⟨h, rfl⟩
  · split at hr
    · cases hr
    · next item hitem =>
      have hin := hs.sized.inTable hitem
      dsimp only at hr
      split at hr
      · cases hr
        exact ⟨h, rfl⟩
      · next hu =>
        rw [not_not] at hu
        have hput : SelectorRun.Dated { r with
            sel := { r.sel.put fd { item with interest := opNoop } with
              watched := r.sel.watched.filter (· ≠ fd) } } :=
          h.later ((Later.refl h).put (e := { item with interest := opNoop }) hs.sized hin
            r.sel.registrations (Nat.le_refl _) (fun _ => .inl ⟨item, hitem, hu, rfl⟩) fun _ => rfl)
        split at hr
        · cases hr
        · split at hr
          · cases hr
            exact ⟨⟨hput.serial, hput.idle, hput.polledSerial, hput.polledLe, hput.kept⟩, rfl⟩
          · cases hr
            refine ⟨hput.later (later_clear hput ?_ hin), rfl⟩
            exact hs.sized.put fd _

theorem tells_poll (hs : r.Sound) (h : r.Dated) (hc : r.CalledLive) (events : List EpollEvent) :
    Tells True (selectorStep r (.poll events)) := by
  rw [selectorStep]
  split
  · exact tells_ok h (iff_of_true hc trivial)
  · have hpolled : SelectorRun.Dated { r with polled := r.sel } := by
      refine ⟨h.serial, h.idle, fun fd k hk => ?_, Nat.le_refl _, fun fd e he hu _ => ?_⟩
      · rw [FdSelector.live, Option.map_eq_some_iff] at hk
        obtain ⟨e, he, rfl⟩ := hk
        obtain ⟨he, hu⟩ := Option.filter_eq_some_iff.1 he
        exact h.serial fd e he hu
      · show r.sel.live fd = some e.serial
        rw [FdSelector.live, he, Option.filter_some, if_pos hu]
        rfl
    have hwatched : ∀ ev ∈ events.filter fun ev => r.sel.watched.contains ev.fd,
        r.sel.Known ev := fun ev hev =>
      hs.watched ev.fd (by simpa using (List.mem_filter.1 hev).2)
    have htells := tells_handleIteration (r := { r with polled := r.sel })
      ⟨hs.sized, hs.watched, hs.stack⟩ hpolled hc hwatched
    -- nothing has been registered since this `epoll_wait`
    have hearly : SelectorRun.NextEarly { r with polled := r.sel }
        (events.filter fun ev => r.sel.watched.contains ev.fd) := fun ev e hfind he _ =>
      h.serial ev.fd e he (used_of_delivers (r := r) (List.find?_some hfind) he)
    rw [eq_true hearly] at htells
    exact htells

/-- **A step calls a handler for the right registration exactly when it meets the condition.** -/
theorem tells_step (hs : r.Sound) (h : r.Dated) (hc : r.CalledLive) (a : SelectorAct) :
    Tells (NotReused r a) (selectorStep r a) := by
  cases a with
  | register fd handler interest data alloc =>
    exact tells_register hs h hc fd handler interest data alloc
  | unregister fd => exact tells_unregister hs h hc fd
  | setInterest fd interest => exact tells_setInterest hs h hc fd interest
  | poll events => exact tells_poll hs h hc events
  | ret =>
    rw [NotReused, selectorStep]
    cases hstack : r.stack with
    | nil => exact tells_ok h (iff_of_true hc trivial)
    | cons c stack =>
      have hin := hs.stack c (by rw [hstack]; exact List.mem_cons_self)
      have hd : SelectorRun.Dated { r with stack := stack } :=
        ⟨h.serial, h.idle, h.polledSerial, h.polledLe, h.kept⟩
      cases c with
      | close fd moved =>
        refine tells_quiet hc fun r' hr => ?_
        dsimp only at hr
        rw [afterClose] at hr
        split at hr
        · cases hr
        · cases hr
          exact ⟨hd.later (later_clear hd hs.sized hin), rfl⟩
      | read ev data moved rest => exact tells_afterRead (hs.pop hstack) hd hc hin.1 hin.2 moved
      | write rest => exact tells_handleIteration (hs.pop hstack) hd hc hin

/-! ## Runs -/

theorem dated_start {n : ℕ} {o : SelectorSetup} (h : selectorNew n o = some s) :
    (SelectorRun.start s).Dated := by
  obtain ⟨-, -, -, hidle⟩ := selectorNew_spec h
  have hno : ∀ fd e, s.at fd = some e → e.used = true → False := by
    intro fd e he hu
    rw [(hidle fd e he).1] at hu
    cases hu
  refine ⟨fun fd e he hu => (hno fd e he hu).elim, fun fd e he _ => (hidle fd e he).2,
    fun fd k hk => ?_, Nat.le_refl _, fun fd e he hu => (hno fd e he hu).elim⟩
  change s.live fd = some k at hk
  rw [FdSelector.live, Option.map_eq_some_iff] at hk
  obtain ⟨e, he, -⟩ := hk
  obtain ⟨he, hu⟩ := Option.filter_eq_some_iff.1 he
  exact (hno fd e he hu).elim

theorem calledLive_along (hs : r.Sound) (h : r.Dated) (hc : r.CalledLive)
    (acts : List SelectorAct) :
    Visits selectorStep SelectorRun.CalledLive r acts ↔ Along selectorStep NotReused r acts := by
  induction acts generalizing r with
  | nil => exact iff_of_true hc trivial
  | cons a acts ih =>
    have htells := tells_step hs h hc a
    have hnext : ∀ r', selectorStep r a = .ok r' → r'.Sound := (step_spec hs a).2
    constructor
    · rintro ⟨-, hrest⟩
      refine ⟨?_, fun r' ha => ?_⟩
      · cases hx : selectorStep r a with
        | ok r' => exact (htells.ok r' hx).2.1 (hrest r' hx).head
        | error f => exact htells.error f hx
      · exact (ih (hnext r' ha) (htells.ok r' ha).1 (hrest r' ha).head).1 (hrest r' ha)
    · rintro ⟨hcond, hrest⟩
      refine ⟨hc, fun r' ha => ?_⟩
      obtain ⟨hd, hiff⟩ := htells.ok r' ha
      exact (ih (hnext r' ha) hd (hiff.2 hcond)).2 (hrest r' ha)

/-- **Handlers are called for the registrations that were live when `epoll_wait` returned, exactly
in the runs that never come back to the loop with the next wanted event on a descriptor that was
registered since.** -/
theorem events_live_iff {n : ℕ} {o : SelectorSetup} {s : FdSelector} (h : selectorNew n o = some s)
    (acts : List SelectorAct) : Visits selectorStep SelectorRun.CalledLive (.start s) acts ↔
      Along selectorStep NotReused (.start s) acts :=
  calledLive_along (sound_start h) (dated_start h) (fun c hc => by cases hc) acts

/-- The event of a descriptor that is ready in both directions. -/
def ready (fd : ℤ) : EpollEvent := ⟨fd, true, true, false, false⟩

/-- A client on 5, its origin on 6 and another client on 7. -/
def reusedActs : List SelectorAct :=
  [.register 5 (some plainHandler) opRead 1 true, .register 6 (some plainHandler) opRead 1 true,
    .register 7 (some plainHandler) opRead 2 true, .poll [ready 5, ready 7, ready 6],
    -- the handler of 5 closes 5 and 6
    .unregister 5, .ret, .unregister 6, .ret, .ret,
    -- the handler of 7 connects to an origin, and the kernel gives it 6
    .register 6 (some plainHandler) opWrite 2 true, .ret]

theorem events_live_small :
    Visits selectorStep SelectorRun.CalledLive (.start smallSelector) (reusedActs.take 9) ↔
      Along selectorStep NotReused (.start smallSelector) (reusedActs.take 9) :=
  events_live_iff selectorNew_zero _

/-- The event of the old 6 reaches the handler of the new one. -/
theorem events_reach_reused :
    selectorNew 0 setupOk = some smallSelector ∧
      ∃ r, run selectorStep (.start smallSelector) reusedActs = .ok r ∧
        ⟨6, true, 2, 3, some 1⟩ ∈ r.calls ∧ ¬ r.CalledLive := by
  obtain ⟨r, hrun, hcall⟩ := exists_of_endsIn
    (r := run selectorStep (.start smallSelector) reusedActs)
    (show endsIn (fun r => r.calls.contains ⟨6, true, 2, 3, some 1⟩) _ = true by decide +kernel)
  have hmem : (⟨6, true, 2, 3, some 1⟩ : Call) ∈ r.calls := by simpa using hcall
  refine ⟨selectorNew_zero, r, hrun, hmem, fun hall => ?_⟩
  have := hall _ hmem
  cases this

end Selector

end SocksProxy
