import SocksProxy.Lib.Runs
import SocksProxy.Selector.Table

/-!
# The loop of the selector

`handle_iteration` goes through the events of one `epoll_wait` and calls the handlers, and while a
handler runs it may register, unregister and change any descriptor, from where `handle_close` of
other registrations is called in turn.  `selectorStep` is this as a machine: a step is one call of
the selector's interface, by the program or by the handler that is running, the return of the
running handler, or an `epoll_wait`.  The callbacks in progress are a stack, each with what its
caller will do when it returns, so every behaviour of the handlers is a list of steps.

Beside the selector the state keeps what `epoll_wait` found and the list of the callbacks that were
called: `Call.polled` is the registration that was live for the descriptor when `epoll_wait`
returned.
-/

set_option autoImplicit false

namespace SocksProxy

namespace Selector

/-- `struct epoll_event`. -/
structure EpollEvent where
  fd : ℤ
  epollIn : Bool
  epollOut : Bool
  epollErr : Bool
  epollHup : Bool
  deriving DecidableEq

/-- `ev->events & (EPOLLIN | EPOLLERR | EPOLLHUP)`. -/
def EpollEvent.readable (ev : EpollEvent) : Bool := ev.epollIn || ev.epollErr || ev.epollHup

/-- `ev->events & (EPOLLOUT | EPOLLERR | EPOLLHUP)`. -/
def EpollEvent.writable (ev : EpollEvent) : Bool := ev.epollOut || ev.epollErr || ev.epollHup

/-- A callback in progress. -/
inductive Callback where
  /-- `handle_close`, called by `selector_unregister_fd`, which keeps a pointer to the entry. -/
  | close (fd : ℤ) (moved : ℕ)
  /-- `handle_read`, called by `handle_iteration`, which keeps a pointer to the entry and the data
  it had, with the events that are left. -/
  | read (ev : EpollEvent) (data : ℕ) (moved : ℕ) (rest : List EpollEvent)
  /-- `handle_write`, called by `handle_iteration`, with the events that are left. -/
  | write (rest : List EpollEvent)
  deriving DecidableEq

/-- A call of `handle_read` or `handle_write` by `handle_iteration`. -/
structure Call where
  fd : ℤ
  write : Bool
  data : ℕ
  /-- The registration whose handler is called. -/
  registration : ℕ
  /-- The registration that was live for the descriptor when `epoll_wait` returned. -/
  polled : Option ℕ
  deriving DecidableEq

/-- The selector in a running program. -/
structure SelectorRun where
  sel : FdSelector
  stack : List Callback
  /-- The selector when `epoll_wait` last returned. -/
  polled : FdSelector
  calls : List Call

/-- The program has created a selector. -/
def SelectorRun.start (s : FdSelector) : SelectorRun := ⟨s, [], s, []⟩

/-- The registration of a descriptor. -/
def FdSelector.live (s : FdSelector) (fd : ℤ) : Option ℕ :=
  ((s.at fd).filter Entry.used).map Entry.serial

/-- A callback is called for an event. -/
def SelectorRun.enter (r : SelectorRun) (ev : EpollEvent) (write : Bool) (data : ℕ) (e : Entry)
    (c : Callback) : SelectorRun :=
  { r with
    stack := c :: r.stack
    calls := r.calls ++ [⟨ev.fd, write, data, e.serial, r.polled.live ev.fd⟩] }

/-- The second half of the body of the loop: `handle_write`, or on to the `next` event. -/
def writeHalf (r : SelectorRun) (ev : EpollEvent) (data : ℕ) (e : Entry) (rest : List EpollEvent)
    (next : Except SelectorFault SelectorRun) : Except SelectorFault SelectorRun :=
  if ev.writable && e.interest.write then
    match e.handler with
    | none => .error .nullHandler
    | some h =>
      if h.handleWrite then .ok (r.enter ev true data e (.write rest)) else .error .assertFailed
  else next

/-- The loop of `handle_iteration`, up to the next call of a handler. -/
def handleIteration (r : SelectorRun) : List EpollEvent → Except SelectorFault SelectorRun
  | [] => .ok r
  | ev :: rest =>
    if ev.fd = r.sel.eventFd then handleIteration r rest
    else match r.sel.at ev.fd with
      | none => .error .outOfRange
      | some e =>
        if ¬ e.used then handleIteration r rest
        else if ev.readable && e.interest.read then
          match e.handler with
          | none => .error .nullHandler
          | some h =>
            if h.handleRead then .ok (r.enter ev false e.data e (.read ev e.data r.sel.moved rest))
            else .error .assertFailed
        else writeHalf r ev e.data e rest (handleIteration r rest)

/-- The body of the loop once `handle_read` has returned. -/
def afterRead (r : SelectorRun) (ev : EpollEvent) (data moved : ℕ) (rest : List EpollEvent) :
    Except SelectorFault SelectorRun :=
  if ¬ ev.writable then handleIteration r rest
  else if moved ≠ r.sel.moved then .error .dangling
  else match r.sel.at ev.fd with
    | none => .error .outOfRange
    | some e => writeHalf r ev data e rest (handleIteration r rest)

/-- `selector_unregister_fd`, up to the call of `handle_close`. -/
def selectorUnregisterFd (r : SelectorRun) (fd : ℤ) :
    Except SelectorFault (SelectorRun × SelectorStatus) :=
  if invalidFd fd then .ok (r, .iargs)
  else match r.sel.at fd with
    | none => .error .outOfRange
    | some item =>
      if ¬ item.used then .ok (r, .iargs)
      else
        let sel := { r.sel.put fd { item with interest := opNoop } with
          watched := r.sel.watched.filter (· ≠ fd) }
        match item.handler with
        | none => .error .nullHandler
        | some h =>
          if h.handleClose then
            .ok ({ r with sel := sel, stack := .close fd sel.moved :: r.stack }, .success)
          else .ok ({ r with sel := sel.clear fd }, .success)

/-- `selector_unregister_fd` once `handle_close` has returned. -/
def afterClose (r : SelectorRun) (fd : ℤ) (moved : ℕ) : Except SelectorFault SelectorRun :=
  if moved ≠ r.sel.moved then .error .dangling else .ok { r with sel := r.sel.clear fd }

/-- What can happen. -/
inductive SelectorAct where
  /-- `selector_register`; `alloc` says whether an allocation succeeds. -/
  | register (fd : ℤ) (handler : Option FdHandler) (interest : FdInterest) (data : ℕ) (alloc : Bool)
  /-- `selector_unregister_fd`. -/
  | unregister (fd : ℤ)
  /-- `selector_set_interest`. -/
  | setInterest (fd : ℤ) (interest : FdInterest)
  /-- `epoll_wait` returns events, of descriptors it watches. -/
  | poll (events : List EpollEvent)
  /-- The running handler returns. -/
  | ret
  deriving DecidableEq

/-- One step.  Handlers do not call `selector_select`. -/
def selectorStep (r : SelectorRun) : SelectorAct → Except SelectorFault SelectorRun
  | .register fd handler interest data alloc =>
    (selectorRegister r.sel fd handler interest data alloc).map fun x => { r with sel := x.1 }
  | .unregister fd => (selectorUnregisterFd r fd).map (·.1)
  | .setInterest fd interest =>
    (selectorSetInterest r.sel fd interest).map fun x => { r with sel := x.1 }
  | .poll events =>
    if r.stack ≠ [] then .ok r
    else handleIteration { r with polled := r.sel }
      (events.filter fun ev => r.sel.watched.contains ev.fd)
  | .ret =>
    match r.stack with
    | [] => .ok r
    | .close fd moved :: stack => afterClose { r with stack := stack } fd moved
    | .read ev data moved rest :: stack =>
      afterRead { r with stack := stack } ev data moved rest
    | .write rest :: stack => handleIteration { r with stack := stack } rest

/-! ## The next handler -/

/-- The interest of an entry has the direction of an event. -/
def EpollEvent.wants (ev : EpollEvent) (e : Entry) : Bool :=
  ev.readable && e.interest.read || ev.writable && e.interest.write

/-- The descriptor of an event is registered with an interest in it. -/
def FdSelector.delivers (s : FdSelector) (ev : EpollEvent) : Bool :=
  ev.fd != s.eventFd && (s.at ev.fd).any fun e => e.used && ev.wants e

/-- The callback for the write half of an event is there. -/
def Entry.canWrite (e : Entry) : Bool := e.handler.any (·.handleWrite)

/-- The callback for an event is there. -/
def Entry.answers (e : Entry) (ev : EpollEvent) : Bool :=
  if ev.readable && e.interest.read then e.handler.any (·.handleRead) else e.canWrite

/-- The entry of an event's descriptor, and the events after it, are in the table. -/
def FdSelector.Known (s : FdSelector) (ev : EpollEvent) : Prop :=
  ev.fd = s.eventFd ∨ s.InTable ev.fd

/-- What a callback in progress comes back to is in the table. -/
def Callback.Within (s : FdSelector) : Callback → Prop
  | .close fd _ => s.InTable fd
  | .read ev _ _ rest => s.InTable ev.fd ∧ ∀ ev' ∈ rest, s.Known ev'
  | .write rest => ∀ ev ∈ rest, s.Known ev

section Next

variable {r : SelectorRun} {ev : EpollEvent} {e : Entry} {rest : List EpollEvent} {data : ℕ}
  {next : Except SelectorFault SelectorRun}

/-- The program stops because a callback is missing. -/
def Stops (x : Except SelectorFault SelectorRun) : Prop :=
  x = .error .nullHandler ∨ x = .error .assertFailed

theorem writeHalf_eq_next (h : (ev.writable && e.interest.write) = false) :
    writeHalf r ev data e rest next = next := by
  rw [writeHalf, h, if_neg Bool.false_ne_true]

theorem writeHalf_enter (h : (ev.writable && e.interest.write) = true) (hw : e.canWrite = true) :
    writeHalf r ev data e rest next = .ok (r.enter ev true data e (.write rest)) := by
  rw [writeHalf, h, if_pos rfl]
  obtain ⟨c, hc, hcw⟩ := (Option.any_eq_true _ _).1 hw
  rw [hc]
  exact if_pos hcw

theorem writeHalf_stops (h : (ev.writable && e.interest.write) = true) (hw : e.canWrite = false) :
    Stops (writeHalf r ev data e rest next) := by
  rw [writeHalf, h, if_pos rfl]
  rw [Entry.canWrite] at hw
  cases hc : e.handler with
  | none => exact .inl rfl
  | some c =>
    rw [hc, Option.any_some] at hw
    refine .inr ?_
    dsimp only
    rw [if_neg (by rw [hw]; exact Bool.false_ne_true)]

/-- What the loop does with the first event that some handler wants. -/
inductive Delivery (r : SelectorRun) (ev : EpollEvent) (e : Entry) (rest : List EpollEvent) :
    Except SelectorFault SelectorRun → Prop
  | call (write : Bool) (data : ℕ) (c : Callback) (answers : e.answers ev = true)
      (hc : c = .write rest ∨ c = .read ev data r.sel.moved rest) :
      Delivery r ev e rest (.ok (r.enter ev write data e c))
  | stop {x : Except SelectorFault SelectorRun} (h : Stops x) (silent : e.answers ev = false) :
      Delivery r ev e rest x

/-- **The loop passes over the events that no handler wants**, and then delivers one. -/
theorem handleIteration_cases {events : List EpollEvent} (hs : r.sel.Sized)
    (hknown : ∀ ev ∈ events, r.sel.Known ev) :
    (events.find? r.sel.delivers = none ∧ handleIteration r events = .ok r) ∨
    ∃ ev e rest, events.find? r.sel.delivers = some ev ∧ r.sel.at ev.fd = some e ∧
      r.sel.InTable ev.fd ∧ (∀ ev' ∈ rest, ev' ∈ events) ∧
      Delivery r ev e rest (handleIteration r events) := by
  induction events with
  | nil => exact .inl ⟨rfl, rfl⟩
  | cons ev events ih =>
    have ih := ih fun ev' hev' => hknown ev' (List.mem_cons_of_mem _ hev')
    have hpass : r.sel.delivers ev = false →
        handleIteration r (ev :: events) = handleIteration r events →
        ((ev :: events).find? r.sel.delivers = none ∧ handleIteration r (ev :: events) = .ok r) ∨
        ∃ ev' e rest, (ev :: events).find? r.sel.delivers = some ev' ∧ r.sel.at ev'.fd = some e ∧
          r.sel.InTable ev'.fd ∧ (∀ x ∈ rest, x ∈ ev :: events) ∧
          Delivery r ev' e rest (handleIteration r (ev :: events)) := by
      intro hno heq
      rw [heq, List.find?_cons_of_neg (by rw [hno]; exact Bool.false_ne_true)]
      refine ih.imp_right ?_
      rintro ⟨ev', e, rest, hfind, he, hin, hsub, hd⟩
      exact ⟨ev', e, rest, hfind, he, hin, fun x hx => List.mem_cons_of_mem _ (hsub x hx), hd⟩
    by_cases hev : ev.fd = r.sel.eventFd
    · refine hpass ?_ ?_
      · rw [FdSelector.delivers, hev, bne_self_eq_false, Bool.false_and]
      · rw [handleIteration, if_pos hev]
    · have hin : r.sel.InTable ev.fd := (hknown ev List.mem_cons_self).resolve_left hev
      obtain ⟨e, he⟩ := hs.exists_at hin
      have hdel : r.sel.delivers ev = (e.used && ev.wants e) := by
        rw [FdSelector.delivers, he, Option.any_some, bne_iff_ne.2 hev, Bool.true_and]
      have hloop : handleIteration r (ev :: events) =
          if ¬ e.used then handleIteration r events
          else if ev.readable && e.interest.read then
            match e.handler with
            | none => .error .nullHandler
            | some h =>
              if h.handleRead then
                .ok (r.enter ev false e.data e (.read ev e.data r.sel.moved events))
              else .error .assertFailed
          else writeHalf r ev e.data e events (handleIteration r events) := by
        rw [handleIteration, if_neg hev, he]
      cases hu : e.used with
      | false =>
        refine hpass (by rw [hdel, hu, Bool.false_and]) ?_
        rw [hloop, hu, if_pos Bool.false_ne_true]
      | true =>
        rw [hu, if_neg (not_not_intro rfl)] at hloop
        rw [hu, Bool.true_and] at hdel
        have hdeliver : r.sel.delivers ev = true →
            Delivery r ev e events (handleIteration r (ev :: events)) →
            ((ev :: events).find? r.sel.delivers = none ∧ handleIteration r (ev :: events) = .ok r) ∨
            ∃ ev' e rest, (ev :: events).find? r.sel.delivers = some ev' ∧
              r.sel.at ev'.fd = some e ∧ r.sel.InTable ev'.fd ∧ (∀ x ∈ rest, x ∈ ev :: events) ∧
              Delivery r ev' e rest (handleIteration r (ev :: events)) := fun hyes hd =>
          .inr ⟨ev, e, events, List.find?_cons_of_pos hyes, he, hin,
            fun x hx => List.mem_cons_of_mem _ hx, hd⟩
        cases hr : ev.readable && e.interest.read with
        | true =>
          rw [hr, if_pos rfl] at hloop
          have hans : e.answers ev = e.handler.any (·.handleRead) := by
            rw [Entry.answers, hr, if_pos rfl]
          refine hdeliver (by rw [hdel, EpollEvent.wants, hr, Bool.true_or]) ?_
          rw [hloop]
          cases hh : e.handler with
          | none => exact .stop (.inl rfl) (by rw [hans, hh, Option.any_none])
          | some h =>
            rw [hh, Option.any_some] at hans
            dsimp only
            cases hb : h.handleRead with
            | true =>
              rw [if_pos rfl]
              exact .call false e.data _ (by rw [hans, hb]) (.inr rfl)
            | false =>
              rw [if_neg Bool.false_ne_true]
              exact .stop (.inr rfl) (by rw [hans, hb])
        | false =>
          rw [hr, if_neg Bool.false_ne_true] at hloop
          have hans : e.answers ev = e.canWrite := by
            rw [Entry.answers, hr, if_neg Bool.false_ne_true]
          rw [EpollEvent.wants, hr, Bool.false_or] at hdel
          cases hw : ev.writable && e.interest.write with
          | false => exact hpass (hdel.trans hw) (hloop.trans (writeHalf_eq_next hw))
          | true =>
            refine hdeliver (hdel.trans hw) ?_
            rw [hloop]
            cases hc : e.canWrite with
            | true =>
              rw [writeHalf_enter hw hc]
              exact .call true e.data _ (by rw [hans, hc]) (.inl rfl)
            | false => exact .stop (writeHalf_stops hw hc) (by rw [hans, hc])

end Next

end Selector

end SocksProxy
