import SocksProxy.Lib.Fallible
import SocksProxy.Socks.System

/-!
# One session's view of the world

A callback works for one session and leaves every other session alone.  `slot w sid` is what belongs
to session `sid` in the world `w`: the session itself, the interest of its two registrations, its
place in the idle list and its history.  `view w sid` adds what all sessions share.

`Does H sid p v R E` is the judgement the callbacks are verified with.  It says that `p`, run for
session `sid` in any well-formed world that looks like `v` to that session, ends with a result and
a view that satisfy `R`, or stops with a fault that satisfies `E`; that the world stays well formed;
and that no other session notices (`Frame`).  `H` holds the descriptors the system may hand out.
Each primitive of `World.lean` has one rule here, stated on views only, so the callbacks are
executed without ever looking into a world.
-/

set_option autoImplicit false

namespace SocksProxy

/-- What belongs to one session. -/
structure Slot where
  sess : Option SocksSession
  /-- The interest of the client registration. -/
  client : Option FdInterest
  /-- The interest of the origin registration. -/
  origin : Option FdInterest
  /-- Whether the session is in the idle list. -/
  idle : Bool
  hist : List Obs
  /-- Whether the session was ever allocated. -/
  used : Bool

/-- What a callback of one session can see. -/
structure View extends Slot where
  env : Env
  store : MonitorStore
  /-- What was done to the store. -/
  acts : List StoreAct
  clock : ℕ
  /-- Whether a descriptor is unregistered. -/
  free : Fd → Bool
  active : ℕ
  threads : List DnsCtx

/-- The interest registered for a descriptor, if handler and session are these. -/
def World.interestOf (w : World) (h : Handler) (sid : Sid) (fd : Fd) : Option FdInterest :=
  match w.fds fd with
  | some item => if item.handler = h ∧ item.data = sid then some item.interest else none
  | none => none

/-- What belongs to a session in a world. -/
def slot (w : World) (sid : Sid) : Slot where
  sess := w.sessions sid
  client := (w.sessions sid).bind fun s => w.interestOf .client sid s.clientFd
  origin := (w.sessions sid).bind fun s => s.originFd.bind (w.interestOf .origin sid)
  idle := w.idle.mem sid
  hist := w.hist sid
  used := decide (sid < w.nextSid)

/-- What a callback of a session can see of a world. -/
def view (w : World) (sid : Sid) : View where
  toSlot := slot w sid
  env := w.env
  store := w.store
  acts := w.acts
  clock := w.clock
  free := fun fd => (w.fds fd).isNone
  active := w.activeSessions
  threads := w.threads

/-- A registration points at an open session that owns the descriptor. -/
def World.Claimed (w : World) (fd : Fd) (item : Item) : Prop :=
  match item.handler with
  | .client => ∃ s, w.sessions item.data = some s ∧ s.clientFd = fd
  | .origin => ∃ s, w.sessions item.data = some s ∧ s.originFd = some fd
  | _ => True

/-- The invariant that holds between any two primitives of a callback. -/
structure World.Wf (H : Set Fd) (w : World) : Prop where
  claimed : ∀ fd item, w.fds fd = some item → w.Claimed fd item
  idle : ∃ sids, w.idle.Repr sids
  bufferSize : 1024 ≤ w.store.settings.ioBufferSize
  socket : ∀ fd, some fd ∈ w.env.socket → fd ∈ H
  accept : ∀ fd, some fd ∈ w.env.accept → fd ∈ H

/-- What a callback of session `sid` cannot change. -/
structure Frame (H : Set Fd) (sid : Sid) (w w' : World) : Prop where
  others : ∀ sid', sid' ≠ sid → slot w' sid' = slot w sid'
  nextSid : w'.nextSid = w.nextSid
  clock : w'.clock = w.clock
  jobs : w'.resolutionJobs = w.resolutionJobs
  settings : w'.store.settings = w.store.settings
  kinds : ∀ fd, fd ∉ H → ∀ item', w'.fds fd = some item' →
    ∃ item, w.fds fd = some item ∧ item'.handler = item.handler ∧ item'.data = item.data

/-- `p`, run for session `sid` where it sees `v`, ends as `R` says or faults as `E` says. -/
def Does {α : Type} (H : Set Fd) (sid : Sid) (p : SocksM α) (v : View) (R : α → View → Prop)
    (E : Fault → Prop) : Prop :=
  ∀ w, w.Wf H → view w sid = v →
    Sat p w (fun a w' => w'.Wf H ∧ Frame H sid w w' ∧ R a (view w' sid)) E

/-! ## Worlds that look alike -/

section Slots

variable {w w' : World} {sid : Sid} {H : Set Fd}

theorem interestOf_eq_some {h : Handler} {fd : Fd} {i : FdInterest} :
    w.interestOf h sid fd = some i ↔ w.fds fd = some ⟨h, i, sid⟩ := by
  rw [World.interestOf]
  cases hfd : w.fds fd with
  | none => simp
  | some item =>
    obtain ⟨h', i', d'⟩ := item
    by_cases hk : h' = h ∧ d' = sid
    · obtain ⟨rfl, rfl⟩ := hk
      simp
    · simp only [if_neg hk, Option.some.injEq, Item.mk.injEq, reduceCtorEq, false_iff]
      exact fun ⟨h1, _, h2⟩ => hk ⟨h1, h2⟩

theorem slot_congr (h1 : w'.sessions sid = w.sessions sid)
    (h2 : ∀ h fd, w'.interestOf h sid fd = w.interestOf h sid fd)
    (h3 : w'.idle.mem sid = w.idle.mem sid) (h4 : w'.hist sid = w.hist sid)
    (h5 : w'.nextSid = w.nextSid) : slot w' sid = slot w sid := by
  have hclient : w'.interestOf .client sid = w.interestOf .client sid := funext (h2 _)
  have horigin : w'.interestOf .origin sid = w.interestOf .origin sid := funext (h2 _)
  rw [slot, slot, h1, hclient, horigin, h3, h4, h5]

/-- A descriptor that is free or belongs to `sid` is nothing to another session. -/
theorem interestOf_of_owned {sid' : Sid} (hne : sid' ≠ sid) {h : Handler} {fd : Fd}
    (hown : ∀ item, w.fds fd = some item → item.data = sid) : w.interestOf h sid' fd = none := by
  rw [World.interestOf]
  cases hfd : w.fds fd with
  | none => rfl
  | some item =>
    have := hown item hfd
    simp only [ite_eq_right_iff, reduceCtorEq, imp_false]
    exact fun hk => hne (hk.2.symm.trans this)

theorem Frame.refl : Frame H sid w w where
  others := fun _ _ => rfl
  nextSid := rfl
  clock := rfl
  jobs := rfl
  settings := rfl
  kinds := fun _ _ item' h => ⟨item', h, rfl, rfl⟩

theorem Frame.trans {w'' : World} (h1 : Frame H sid w w') (h2 : Frame H sid w' w'') :
    Frame H sid w w'' where
  others := fun sid' hne => (h2.others sid' hne).trans (h1.others sid' hne)
  nextSid := h2.nextSid.trans h1.nextSid
  clock := h2.clock.trans h1.clock
  jobs := h2.jobs.trans h1.jobs
  settings := h2.settings.trans h1.settings
  kinds := by
    intro fd hfd item'' h''
    obtain ⟨item', h', e1, e2⟩ := h2.kinds fd hfd item'' h''
    obtain ⟨item, h, e3, e4⟩ := h1.kinds fd hfd item' h'
    exact ⟨item, h, e1.trans e3, e2.trans e4⟩

/-- Worlds with the same table, sessions, idle list and history differ for no session. -/
theorem Frame.of_same (h1 : w'.fds = w.fds) (h2 : ∀ sid', sid' ≠ sid → w'.sessions sid' =
    w.sessions sid') (h3 : ∀ sid', sid' ≠ sid → w'.idle.mem sid' = w.idle.mem sid')
    (h4 : ∀ sid', sid' ≠ sid → w'.hist sid' = w.hist sid') (h5 : w'.nextSid = w.nextSid)
    (h6 : w'.clock = w.clock) (h7 : w'.resolutionJobs = w.resolutionJobs)
    (h8 : w'.store.settings = w.store.settings) : Frame H sid w w' where
  others := fun sid' hne => by
    refine slot_congr (h2 sid' hne) (fun h fd => ?_) (h3 sid' hne) (h4 sid' hne) h5
    rw [World.interestOf, h1, World.interestOf]
  nextSid := h5
  clock := h6
  jobs := h7
  settings := h8
  kinds := fun fd _ item' h => ⟨item', by rw [← h1]; exact h, rfl, rfl⟩

end Slots

/-! ## The rules -/

section Rules

variable {α β : Type} {H : Set Fd} {sid : Sid} {v : View} {E : Fault → Prop}

theorem does_pure {a : α} {R : α → View → Prop} (h : R a v) :
    Does H sid (pure a) v R E := by
  rintro w hw rfl
  exact ⟨hw, Frame.refl, h⟩

theorem does_bind {p : SocksM α} {f : α → SocksM β} {R : β → View → Prop}
    (h : Does H sid p v (fun a v' => Does H sid (f a) v' R E) E) :
    Does H sid (p >>= f) v R E := by
  intro w hw hv
  rw [sat_bind]
  refine (h w hw hv).mono ?_ fun _ hf => hf
  rintro a w' ⟨hw', hfr, hrest⟩
  refine (hrest w' hw' rfl).mono ?_ fun _ hf => hf
  rintro b w'' ⟨hw'', hfr', hR⟩
  exact ⟨hw'', hfr.trans hfr', hR⟩

theorem Does.mono {p : SocksM α} {R R' : α → View → Prop} {E' : Fault → Prop}
    (h : Does H sid p v R E) (hR : ∀ a v', R a v' → R' a v') (hE : ∀ f, E f → E' f) :
    Does H sid p v R' E' := by
  intro w hw hv
  refine (h w hw hv).mono ?_ hE
  rintro a w' ⟨hw', hfr, ha⟩
  exact ⟨hw', hfr, hR a _ ha⟩

/-- Two judgements about one program. -/
theorem Does.and {p : SocksM α} {R R' : α → View → Prop} {E' : Fault → Prop}
    (h : Does H sid p v R E) (h' : Does H sid p v R' E') :
    Does H sid p v (fun a v' => R a v' ∧ R' a v') fun f => E f ∧ E' f := by
  intro w hw hv
  refine ((h w hw hv).and (h' w hw hv)).mono ?_ fun _ hf => hf
  rintro a w' ⟨⟨hw', hfr, ha⟩, -, -, ha'⟩
  exact ⟨hw', hfr, ha, ha'⟩

theorem does_throw {f : Fault} {R : α → View → Prop} (h : E f) :
    Does H sid (throw f) v R E := fun _ _ _ => h

theorem does_deref {s : SocksSession} (hs : v.sess = some s) {R : SocksSession → View → Prop}
    (h : R s v) : Does H sid (deref sid) v R E := by
  rintro w hw rfl
  have hs : w.sessions sid = some s := hs
  have hd : deref sid w = .ok (s, w) := by rw [deref, hs]
  rw [sat_of_ok hd]
  exact ⟨hw, Frame.refl, h⟩

theorem does_deref_freed (hs : v.sess = none) {R : SocksSession → View → Prop}
    (h : E .useAfterFree) : Does H sid (deref sid) v R E := by
  rintro w hw rfl
  have hs : w.sessions sid = none := hs
  rw [sat_of_error (f := .useAfterFree) (by rw [deref, hs])]
  exact h

theorem does_assign_freed (hs : v.sess = none) {f : SocksSession → SocksSession}
    {R : Unit → View → Prop} (h : E .useAfterFree) : Does H sid (assign sid f) v R E := by
  rintro w hw rfl
  have hs : w.sessions sid = none := hs
  rw [sat_of_error (f := .useAfterFree) (by rw [assign, hs])]
  exact h

/-- A write to a session that leaves it its descriptors, or that changes the origin of a session
none of whose registrations is an origin's. -/
theorem does_assign_of {s : SocksSession} (hs : v.sess = some s) {f : SocksSession → SocksSession}
    (hc : (f s).clientFd = s.clientFd)
    (ho : (f s).originFd = s.originFd ∨
      v.origin = none ∧ ∀ fd, (f s).originFd = some fd → v.free fd = true)
    {R : Unit → View → Prop} (h : R () { v with sess := some (f s) }) :
    Does H sid (assign sid f) v R E := by
  rintro w hw rfl
  have hs : w.sessions sid = some s := hs
  rw [sat_of_ok (b := ()) (by rw [assign, hs])]
  refine ⟨?_, ?_, ?_⟩
  · refine ⟨fun fd item hfd => ?_, hw.idle, hw.bufferSize, hw.socket, hw.accept⟩
    have hcl := hw.claimed fd item hfd
    obtain ⟨hd, i, d⟩ := item
    rw [World.Claimed] at hcl ⊢
    by_cases hd' : d = sid
    · subst hd'
      cases hd with
      | client =>
        obtain ⟨t, ht, hfd'⟩ := hcl
        rw [hs] at ht
        cases ht
        exact ⟨f s, Function.update_self .., hc.trans hfd'⟩
      | origin =>
        obtain ⟨t, ht, hfd'⟩ := hcl
        rw [hs] at ht
        cases ht
        refine ⟨f s, Function.update_self .., ?_⟩
        rcases ho with ho | ⟨ho, -⟩
        · rw [ho, hfd']
        · have : w.interestOf .origin d fd = some i := interestOf_eq_some.2 hfd
          have ho :
              (w.sessions d).bind (fun s => s.originFd.bind (w.interestOf .origin d)) = none :=
            ho
          rw [hs, Option.bind_some, hfd', Option.bind_some, this] at ho
          cases ho
      | passive => trivial
      | monitor => trivial
    · have : Function.update w.sessions sid (some (f s)) d = w.sessions d :=
        Function.update_of_ne hd' ..
      simpa only [this] using hcl
  · refine Frame.of_same rfl (fun sid' hne => ?_) (fun _ _ => rfl) (fun _ _ => rfl) rfl rfl rfl rfl
    exact Function.update_of_ne hne ..
  · convert h using 1
    have hor : (f s).originFd.bind (w.interestOf .origin sid) =
        s.originFd.bind (w.interestOf .origin sid) := by
      rcases ho with ho | ⟨ho, hfree⟩
      · rw [ho]
      · have ho : (w.sessions sid).bind (fun s => s.originFd.bind (w.interestOf .origin sid)) =
          none := ho
        rw [hs, Option.bind_some] at ho
        rw [ho]
        cases hfd : (f s).originFd with
        | none => rfl
        | some fd =>
          have hn : w.fds fd = none := Option.isNone_iff_eq_none.1 (hfree fd hfd)
          rw [Option.bind_some, World.interestOf, hn]
    simp only [view, slot, Function.update_self, hs, Option.bind_some, hc, View.mk.injEq,
      Slot.mk.injEq, true_and, and_true]
    exact ⟨rfl, hor⟩

theorem does_assign {s : SocksSession} (hs : v.sess = some s) {f : SocksSession → SocksSession}
    (hc : (f s).clientFd = s.clientFd) (ho : (f s).originFd = s.originFd)
    {R : Unit → View → Prop} (h : R () { v with sess := some (f s) }) :
    Does H sid (assign sid f) v R E :=
  does_assign_of hs hc (.inl ho) h

theorem does_emit {o : Obs} {R : Unit → View → Prop} (h : R () { v with hist := v.hist ++ [o] }) :
    Does H sid (emit sid o) v R E := by
  rintro w hw rfl
  refine ⟨⟨hw.claimed, hw.idle, hw.bufferSize, hw.socket, hw.accept⟩, ?_, ?_⟩
  · refine Frame.of_same rfl (fun _ _ => rfl) (fun _ _ => rfl) (fun sid' hne => ?_) rfl rfl rfl rfl
    exact Function.update_of_ne hne ..
  · convert h using 1
    simp only [view, slot, Function.update_self]
    rfl

theorem does_srvStore {R : MonitorStore → View → Prop} (h : R v.store v) :
    Does H sid srvStore v R E := by
  rintro w hw rfl
  exact ⟨hw, Frame.refl, h⟩

theorem does_onStore {c : StoreCall} (hc : c.configures = false) {R : Unit → View → Prop}
    (h : R () { v with store := c.apply v.store, acts := v.acts ++ [.call c] }) :
    Does H sid (onStore c) v R E := by
  rintro w hw rfl
  have hset := settings_apply w.store hc
  refine ⟨⟨hw.claimed, hw.idle, hset.symm ▸ hw.bufferSize, hw.socket, hw.accept⟩, ?_, h⟩
  exact Frame.of_same rfl (fun _ _ => rfl) (fun _ _ => rfl) (fun _ _ => rfl) rfl rfl rfl hset

theorem does_sysTime {R : ℕ → View → Prop} (h : R v.clock v) : Does H sid sysTime v R E := by
  rintro w hw rfl
  exact ⟨hw, Frame.refl, h⟩

theorem does_inIdleList {R : Bool → View → Prop} (h : R v.idle v) :
    Does H sid (inIdleList sid) v R E := by
  rintro w hw rfl
  exact ⟨hw, Frame.refl, h⟩

theorem does_idleListPushTail {R : Unit → View → Prop} (h : R () { v with idle := true }) :
    Does H sid (idleListPushTail sid) v R E := by
  rintro w hw rfl
  obtain ⟨sids, hrepr⟩ := hw.idle
  refine ⟨⟨hw.claimed, ⟨_, hrepr.pushTail sid⟩, hw.bufferSize, hw.socket, hw.accept⟩, ?_, ?_⟩
  · refine Frame.of_same rfl (fun _ _ => rfl) (fun sid' hne => ?_) (fun _ _ => rfl) rfl rfl rfl rfl
    simp [hne]
  · convert h using 1
    simp only [view, slot, Linked.mem_pushTail, decide_true, Bool.or_true]
    rfl

theorem does_idleListRemove {R : Unit → View → Prop} (h : R () { v with idle := false }) :
    Does H sid (idleListRemove sid) v R E := by
  rintro w hw rfl
  obtain ⟨sids, hrepr⟩ := hw.idle
  refine ⟨⟨hw.claimed, ⟨_, hrepr.remove sid⟩, hw.bufferSize, hw.socket, hw.accept⟩, ?_, ?_⟩
  · refine Frame.of_same rfl (fun _ _ => rfl) (fun sid' hne => ?_) (fun _ _ => rfl) rfl rfl rfl rfl
    simp [hne]
  · convert h using 1
    simp only [view, slot, Linked.mem_remove, ne_eq, not_true, decide_false, Bool.and_false]
    rfl

theorem does_startThread {ctx : DnsCtx} {R : PUnit → View → Prop}
    (h : R ⟨⟩ { v with threads := ctx :: v.threads }) :
    Does H sid (modify fun w => { w with threads := ctx :: w.threads }) v R E := by
  rintro w hw rfl
  refine ⟨⟨hw.claimed, hw.idle, hw.bufferSize, hw.socket, hw.accept⟩, ?_, h⟩
  exact Frame.of_same rfl (fun _ _ => rfl) (fun _ _ => rfl) (fun _ _ => rfl) rfl rfl rfl rfl

/-! ### System calls -/

/-- A call that only takes an answer: `f` is the answer and `g` what is left of the answers. -/
theorem does_answer {p : SocksM α} (f : View → α) (g : Env → Env)
    (hp : ∀ w, p w = .ok (f (view w sid), { w with env := g w.env }))
    (hs : ∀ x, x ∈ (g v.env).socket → x ∈ v.env.socket)
    (ha : ∀ x, x ∈ (g v.env).accept → x ∈ v.env.accept)
    {R : α → View → Prop} (h : R (f v) { v with env := g v.env }) : Does H sid p v R E := by
  rintro w hw rfl
  rw [sat_of_ok (hp w)]
  refine ⟨⟨hw.claimed, hw.idle, hw.bufferSize, fun fd hfd => hw.socket fd (hs _ hfd),
    fun fd hfd => hw.accept fd (ha _ hfd)⟩, ?_, h⟩
  exact Frame.of_same rfl (fun _ _ => rfl) (fun _ _ => rfl) (fun _ _ => rfl) rfl rfl rfl rfl

theorem does_nextRead {R : ReadAns → View → Prop}
    (h : R (v.env.read.headD .again) { v with env := { v.env with read := v.env.read.tail } }) :
    Does H sid nextRead v R E :=
  does_answer (fun v => v.env.read.headD .again) (fun e => { e with read := e.read.tail })
    (fun _ => rfl) (fun _ hx => hx) (fun _ hx => hx) h

theorem does_nextWrite {R : WriteAns → View → Prop}
    (h : R (v.env.write.headD .again) { v with env := { v.env with write := v.env.write.tail } }) :
    Does H sid nextWrite v R E :=
  does_answer (fun v => v.env.write.headD .again) (fun e => { e with write := e.write.tail })
    (fun _ => rfl) (fun _ hx => hx) (fun _ hx => hx) h

theorem does_sysNio {R : Bool → View → Prop}
    (h : R (v.env.nio.headD true) { v with env := { v.env with nio := v.env.nio.tail } }) :
    Does H sid sysNio v R E :=
  does_answer (fun v => v.env.nio.headD true) (fun e => { e with nio := e.nio.tail })
    (fun _ => rfl) (fun _ hx => hx) (fun _ hx => hx) h

theorem does_sysConnect {R : Option Errno → View → Prop}
    (h : R (v.env.connect.headD none)
      { v with env := { v.env with connect := v.env.connect.tail } }) :
    Does H sid sysConnect v R E :=
  does_answer (fun v => v.env.connect.headD none) (fun e => { e with connect := e.connect.tail })
    (fun _ => rfl) (fun _ hx => hx) (fun _ hx => hx) h

theorem does_sysSoError {R : Option Errno → View → Prop}
    (h : R (v.env.soError.headD none)
      { v with env := { v.env with soError := v.env.soError.tail } }) :
    Does H sid sysSoError v R E :=
  does_answer (fun v => v.env.soError.headD none) (fun e => { e with soError := e.soError.tail })
    (fun _ => rfl) (fun _ hx => hx) (fun _ hx => hx) h

theorem does_sysAlloc {R : Bool → View → Prop}
    (h : R (v.env.alloc.headD true) { v with env := { v.env with alloc := v.env.alloc.tail } }) :
    Does H sid sysAlloc v R E :=
  does_answer (fun v => v.env.alloc.headD true) (fun e => { e with alloc := e.alloc.tail })
    (fun _ => rfl) (fun _ hx => hx) (fun _ hx => hx) h

theorem does_sysThread {R : Bool → View → Prop}
    (h : R (v.env.thread.headD true)
      { v with env := { v.env with thread := v.env.thread.tail } }) :
    Does H sid sysThread v R E :=
  does_answer (fun v => v.env.thread.headD true) (fun e => { e with thread := e.thread.tail })
    (fun _ => rfl) (fun _ hx => hx) (fun _ hx => hx) h

/-- The descriptor `socket()` returns, as a function of what the session sees. -/
def View.socketAns (v : View) : Option Fd := (v.env.socket.headD none).filter v.free

theorem does_sysSocket {R : Option Fd → View → Prop}
    (h : (∀ fd, v.socketAns = some fd → fd ∈ H) →
      R v.socketAns { v with env := { v.env with socket := v.env.socket.tail } }) :
    Does H sid sysSocket v R E := by
  intro w hw hv
  refine does_answer View.socketAns (fun e => { e with socket := e.socket.tail }) (fun _ => rfl)
    (fun _ hx => List.mem_of_mem_tail hx) (fun _ hx => hx) (h fun fd hfd => hw.socket fd ?_) w hw hv
  subst hv
  rw [View.socketAns, Option.filter_eq_some_iff] at hfd
  show some fd ∈ w.env.socket
  obtain ⟨hfd, -⟩ := hfd
  change w.env.socket.headD none = some fd at hfd
  cases hl : w.env.socket with
  | nil => rw [hl] at hfd; cases hfd
  | cons x xs =>
    rw [hl] at hfd
    exact List.mem_cons.2 (.inl hfd.symm)

/-- What `read()` of at most `n` bytes returns. -/
def View.readAns (v : View) (n : ℕ) : ReadAns :=
  match v.env.read.headD .again with
  | .data bs => .data (bs.take n)
  | r => r

/-- The view once `read()` has returned. -/
def View.didRead (v : View) : View :=
  { v with env := { v.env with read := v.env.read.tail } }

theorem does_sysRead {log : Bytes → Obs} {n : ℕ} {R : ReadAns → View → Prop}
    (hdata : ∀ bs, v.readAns n = .data bs → bs.length ≤ n →
      R (.data bs) { v.didRead with hist := v.hist ++ [log bs] })
    (hagain : v.readAns n = .again → R .again v.didRead)
    (herror : v.readAns n = .error → R .error v.didRead) :
    Does H sid (sysRead sid log n) v R E := by
  rw [sysRead]
  refine does_bind (does_nextRead ?_)
  rw [View.readAns] at hdata hagain herror
  cases hr : v.env.read.headD .again with
  | data bs =>
    rw [hr] at hdata
    exact does_bind (does_emit (does_pure (hdata _ rfl (List.length_take_le ..))))
  | again => rw [hr] at hagain; exact does_pure (hagain rfl)
  | error => rw [hr] at herror; exact does_pure (herror rfl)

/-- What the next `write()` returns. -/
def View.writeAns (v : View) : WriteAns := v.env.write.headD .again

/-- The view once a `write()` that took `bs` has returned. -/
def View.didWrite (v : View) (o : Obs) : View :=
  { v with
    env := { v.env with write := v.env.write.tail }
    hist := v.hist ++ [o] }

theorem does_sysWrite {log : Bytes → Obs} {bs : Bytes} {R : WriteAns → View → Prop}
    (hok : ∀ n, v.writeAns = .ok n → R (.ok (min n bs.length)) (v.didWrite (log (bs.take n))))
    (hagain : v.writeAns = .again → R .again (v.didWrite (log [])))
    (herror : v.writeAns = .error → R .error (v.didWrite (log []))) :
    Does H sid (sysWrite sid log bs) v R E := by
  rw [sysWrite]
  refine does_bind (does_nextWrite ?_)
  rw [View.writeAns] at hok hagain herror
  cases hr : v.env.write.headD .again with
  | ok n => exact does_bind (does_emit (does_pure (hok n hr)))
  | again => exact does_bind (does_emit (does_pure (hagain hr)))
  | error => exact does_bind (does_emit (does_pure (herror hr)))

end Rules

/-! ## Registrations -/

section Registrations

variable {H : Set Fd} {sid : Sid} {v : View} {E : Fault → Prop} {w : World}

/-- The table with one registration of the session set. -/
def World.setFd (w : World) (fd : Fd) (item? : Option Item) : World :=
  { w with fds := Function.update w.fds fd item? }

theorem fds_setFd (fd fd' : Fd) (item? : Option Item) :
    (w.setFd fd item?).fds fd' = if fd' = fd then item? else w.fds fd' :=
  Function.update_apply ..

theorem interestOf_setFd_of_ne {fd fd' : Fd} {item? : Option Item} {h : Handler}
    (hne : fd' ≠ fd) : (w.setFd fd item?).interestOf h sid fd' = w.interestOf h sid fd' := by
  rw [World.interestOf, fds_setFd, if_neg hne, World.interestOf]

theorem interestOf_setFd_self {fd : Fd} {h h' : Handler} {i : FdInterest} :
    (w.setFd fd (some ⟨h', i, sid⟩)).interestOf h sid fd = if h' = h then some i else none := by
  rw [World.interestOf, fds_setFd, if_pos rfl]
  simp

theorem interestOf_setFd_none {fd : Fd} {h : Handler} :
    (w.setFd fd none).interestOf h sid fd = none := by
  rw [World.interestOf, fds_setFd, if_pos rfl]

/-- Setting a descriptor that is free or the session's own is nothing to another session. -/
theorem slot_setFd_of_ne {sid' : Sid} (hne : sid' ≠ sid) (fd : Fd) (item? : Option Item)
    (hown : ∀ item, w.fds fd = some item → item.data = sid)
    (hown' : ∀ item, item? = some item → item.data = sid) :
    slot (w.setFd fd item?) sid' = slot w sid' := by
  refine slot_congr rfl (fun h fd' => ?_) rfl rfl rfl
  by_cases hfd : fd' = fd
  · subst hfd
    rw [interestOf_of_owned hne hown, interestOf_of_owned hne fun item hi => hown' item ?_]
    rwa [fds_setFd, if_pos rfl] at hi
  · exact interestOf_setFd_of_ne hfd

/-- The interest of one registration of the session changes. -/
theorem rearm {fd : Fd} {h : Handler} {i₀ : FdInterest} (hw : w.Wf H)
    (hfd : w.fds fd = some ⟨h, i₀, sid⟩) (i : FdInterest) :
    (w.setFd fd (some ⟨h, i, sid⟩)).Wf H ∧ Frame H sid w (w.setFd fd (some ⟨h, i, sid⟩)) ∧
      (fun fd' => ((w.setFd fd (some ⟨h, i, sid⟩)).fds fd').isNone) = (view w sid).free := by
  refine ⟨⟨fun fd' item hi => ?_, hw.idle, hw.bufferSize, hw.socket, hw.accept⟩, ?_, ?_⟩
  · rw [fds_setFd] at hi
    split at hi
    · subst fd'
      cases hi
      exact (hw.claimed fd ⟨h, i₀, sid⟩ hfd : _)
    · exact hw.claimed fd' item hi
  · refine ⟨fun sid' hne => slot_setFd_of_ne hne _ _ ?_ ?_, rfl, rfl, rfl, rfl, fun fd' _ item' hi => ?_⟩
    · intro item hi
      rw [hfd] at hi
      cases hi
      rfl
    · rintro item ⟨⟩
      rfl
    · rw [fds_setFd] at hi
      split at hi
      · subst fd'
        cases hi
        exact ⟨_, hfd, rfl, rfl⟩
      · exact ⟨item', hi, rfl, rfl⟩
  · funext fd'
    rw [fds_setFd]
    show _ = (w.fds fd').isNone
    split
    · subst fd'; rw [hfd]; rfl
    · rfl

theorem fds_of_client {s : SocksSession} {i : FdInterest} (hs : (view w sid).sess = some s)
    (hc : (view w sid).client = some i) : w.fds s.clientFd = some ⟨.client, i, sid⟩ := by
  have hs : w.sessions sid = some s := hs
  have hc : (w.sessions sid).bind (fun s => w.interestOf .client sid s.clientFd) = some i := hc
  rw [hs, Option.bind_some] at hc
  exact interestOf_eq_some.1 hc

theorem fds_of_origin {s : SocksSession} {i : FdInterest} {fd : Fd}
    (hs : (view w sid).sess = some s) (hfd : s.originFd = some fd)
    (hc : (view w sid).origin = some i) : w.fds fd = some ⟨.origin, i, sid⟩ := by
  have hs : w.sessions sid = some s := hs
  have hc : (w.sessions sid).bind (fun s => s.originFd.bind (w.interestOf .origin sid)) = some i :=
    hc
  rw [hs, Option.bind_some, hfd, Option.bind_some] at hc
  exact interestOf_eq_some.1 hc

theorem selectorSetInterest_of_some {fd : Fd} {h : Handler} {i₀ : FdInterest}
    (hfd : w.fds fd = some ⟨h, i₀, sid⟩) (i : FdInterest) :
    selectorSetInterest fd i w = .ok ((), w.setFd fd (some ⟨h, i, sid⟩)) := by
  rw [selectorSetInterest, bind_of_ok (p := get) rfl, hfd]
  rfl

theorem unregisterWith_of_some {close : Item → Key → SocksM Unit} {fd : Fd} {item : Item}
    (hfd : w.fds fd = some item) :
    unregisterWith close fd w = (do
      setItem fd (some { item with interest := opNoop })
      close item ⟨fd, item.data⟩
      setItem fd none : SocksM Unit) w := by
  rw [unregisterWith, bind_of_ok (p := get) rfl, hfd]

theorem view_setFd (fd : Fd) (item? : Option Item) :
    view (w.setFd fd item?) sid = { view w sid with
      client := (w.sessions sid).bind fun s => (w.setFd fd item?).interestOf .client sid s.clientFd
      origin := (w.sessions sid).bind fun s =>
        s.originFd.bind ((w.setFd fd item?).interestOf .origin sid)
      free := fun fd' => ((w.setFd fd item?).fds fd').isNone } := rfl

/-- A registration under one handler is none of the other. -/
theorem interestOf_setFd_other {fd : Fd} {h h' : Handler} {i₀ i : FdInterest}
    (hfd : w.fds fd = some ⟨h, i₀, sid⟩) (hne : h ≠ h') :
    (w.setFd fd (some ⟨h, i, sid⟩)).interestOf h' sid = w.interestOf h' sid := by
  funext fd'
  by_cases hfd' : fd' = fd
  · subst hfd'
    rw [interestOf_setFd_self, if_neg hne, World.interestOf, hfd]
    exact (if_neg fun hk => hne hk.1).symm
  · exact interestOf_setFd_of_ne hfd'

theorem does_setInterest_client {s : SocksSession} (hs : v.sess = some s) {i₀ i : FdInterest}
    (hc : v.client = some i₀) {R : Unit → View → Prop} (h : R () { v with client := some i }) :
    Does H sid (selectorSetInterest s.clientFd i) v R E := by
  rintro w hw rfl
  have hfd := fds_of_client hs hc
  obtain ⟨hw', hfr, hfree⟩ := rearm hw hfd i
  rw [sat_of_ok (selectorSetInterest_of_some hfd i)]
  refine ⟨hw', hfr, ?_⟩
  have hcl : (w.sessions sid).bind (fun s' =>
      (w.setFd s.clientFd (some ⟨.client, i, sid⟩)).interestOf .client sid s'.clientFd) =
      some i := by
    have hs : w.sessions sid = some s := hs
    rw [hs, Option.bind_some, interestOf_setFd_self, if_pos rfl]
  rw [view_setFd, hfree, hcl, interestOf_setFd_other hfd (by simp)]
  exact h

theorem does_setInterest_origin {s : SocksSession} (hs : v.sess = some s) {fd : Fd}
    (hfd : s.originFd = some fd) {i₀ i : FdInterest} (hc : v.origin = some i₀)
    {R : Unit → View → Prop} (h : R () { v with origin := some i }) :
    Does H sid (selectorSetInterest fd i) v R E := by
  rintro w hw rfl
  have hfd' := fds_of_origin hs hfd hc
  obtain ⟨hw', hfr, hfree⟩ := rearm hw hfd' i
  rw [sat_of_ok (selectorSetInterest_of_some hfd' i)]
  refine ⟨hw', hfr, ?_⟩
  have hor : (w.sessions sid).bind (fun s => s.originFd.bind
      ((w.setFd fd (some ⟨.origin, i, sid⟩)).interestOf .origin sid)) = some i := by
    have hs : w.sessions sid = some s := hs
    rw [hs, Option.bind_some, hfd, Option.bind_some, interestOf_setFd_self, if_pos rfl]
  rw [view_setFd, hfree, interestOf_setFd_other hfd' (by simp), hor]
  exact h

/-- Whether the selector takes one more registration, on this descriptor. -/
def View.hasRoom (v : View) (fd : Fd) : Bool :=
  decide (fd < selectorItemsMaxSize) && v.env.room.headD true

/-- The view once `selector_register` has returned. -/
def View.didRegister (v : View) : View :=
  { v with env := { v.env with room := v.env.room.tail } }

theorem selectorRegister_eq (sid : Sid) {fd : Fd} {item : Item} (hfd : w.fds fd = none) :
    selectorRegister fd item w = .ok ((view w sid).hasRoom fd,
      if (view w sid).hasRoom fd then
        { w.setFd fd (some item) with env := { w.env with room := w.env.room.tail } }
      else { w with env := { w.env with room := w.env.room.tail } }) := by
  show (if selectorItemsMaxSize ≤ fd then (pure false : SocksM Bool)
    else if w.env.room.headD true = false then pure false
    else if (w.fds fd).isSome then pure false
    else do setItem fd (some item); pure true)
      { w with env := { w.env with room := w.env.room.tail } } = _
  have hr : (view w sid).hasRoom fd =
      (decide (fd < selectorItemsMaxSize) && w.env.room.headD true) := rfl
  rw [hr]
  by_cases h1 : selectorItemsMaxSize ≤ fd
  · rw [if_pos h1, decide_eq_false (Nat.not_lt.2 h1)]
    rfl
  · rw [if_neg h1, decide_eq_true (Nat.lt_of_not_le h1), Bool.true_and]
    cases h2 : w.env.room.headD true with
    | false => rfl
    | true =>
      rw [if_neg (by simp), if_neg (by simp [hfd])]
      rfl

/-- The registration of an origin just connected to. -/
theorem does_register_origin {s : SocksSession} (hs : v.sess = some s) {fd : Fd}
    (hfd : s.originFd = some fd) (hfree : v.free fd = true) (hH : fd ∈ H) {i : FdInterest}
    {R : Bool → View → Prop}
    (hok : v.hasRoom fd = true → R true
      { v.didRegister with origin := some i, free := Function.update v.free fd false })
    (hfull : v.hasRoom fd = false → R false v.didRegister) :
    Does H sid (selectorRegister fd ⟨.origin, i, sid⟩) v R E := by
  rintro w hw rfl
  have hn : w.fds fd = none := Option.isNone_iff_eq_none.1 hfree
  have hs : w.sessions sid = some s := hs
  rw [sat_of_ok (selectorRegister_eq sid hn)]
  cases hroom : (view w sid).hasRoom fd with
  | false =>
    rw [if_neg (by simp)]
    refine ⟨⟨hw.claimed, hw.idle, hw.bufferSize, hw.socket, hw.accept⟩, ?_, hfull hroom⟩
    exact Frame.of_same rfl (fun _ _ => rfl) (fun _ _ => rfl) (fun _ _ => rfl) rfl rfl rfl rfl
  | true =>
    rw [if_pos rfl]
    refine ⟨⟨fun fd' item hi => ?_, hw.idle, hw.bufferSize, hw.socket, hw.accept⟩, ?_, ?_⟩
    · replace hi : (w.setFd fd (some ⟨.origin, i, sid⟩)).fds fd' = some item := hi
      rw [fds_setFd] at hi
      split at hi
      · subst fd'
        cases hi
        exact ⟨s, hs, hfd⟩
      · exact hw.claimed fd' item hi
    · refine ⟨fun sid' hne => ?_, rfl, rfl, rfl, rfl, fun fd' hfd' item' hi => ?_⟩
      · refine (slot_setFd_of_ne (w := w) hne fd (some ⟨.origin, i, sid⟩) ?_ ?_ : _)
        · intro item hi
          rw [hn] at hi
          cases hi
        · rintro item ⟨⟩
          rfl
      · replace hi : (w.setFd fd (some ⟨.origin, i, sid⟩)).fds fd' = some item' := hi
        have hne : fd' ≠ fd := fun h => hfd' (h ▸ hH)
        rw [fds_setFd, if_neg hne] at hi
        exact ⟨item', hi, rfl, rfl⟩
    · have hor : (w.sessions sid).bind (fun s => s.originFd.bind
          ((w.setFd fd (some ⟨.origin, i, sid⟩)).interestOf .origin sid)) = some i := by
        rw [hs, Option.bind_some, hfd, Option.bind_some, interestOf_setFd_self, if_pos rfl]
      have hcl : (w.setFd fd (some ⟨.origin, i, sid⟩)).interestOf .client sid =
          w.interestOf .client sid := by
        funext fd'
        by_cases hne : fd' = fd
        · subst hne
          rw [interestOf_setFd_self, if_neg (by simp), World.interestOf, hn]
        · exact interestOf_setFd_of_ne hne
      have hfr : (fun fd' => ((w.setFd fd (some ⟨.origin, i, sid⟩)).fds fd').isNone) =
          Function.update (view w sid).free fd false := by
        funext fd'
        rw [fds_setFd, Function.update_apply]
        split
        · rfl
        · rfl
      have hv : view (w.setFd fd (some ⟨.origin, i, sid⟩)) sid = _ := view_setFd fd _
      rw [hor, hcl, hfr] at hv
      have := hok hroom
      convert this using 1
      exact congrArg (fun v : View => { v with env := { w.env with room := w.env.room.tail } }) hv

/-! ### Closing -/

theorem unregister_origin_eq {fd : Fd} {i : FdInterest} {s : SocksSession}
    (hfd : w.fds fd = some ⟨.origin, i, sid⟩) (hs : w.sessions sid = some s) :
    unregisterWith handleCloseOther fd w = .ok ((), { w.setFd fd none with
      sessions := Function.update w.sessions sid (some { s with originFd := none }) }) := by
  rw [unregisterWith_of_some hfd]
  show ((assign sid fun s => { s with originFd := none }) >>= fun _ => setItem fd none)
    (w.setFd fd (some ⟨.origin, opNoop, sid⟩)) = _
  have ha : (assign sid fun s => { s with originFd := none })
      (w.setFd fd (some ⟨.origin, opNoop, sid⟩)) =
      .ok ((), { w.setFd fd (some ⟨.origin, opNoop, sid⟩) with
        sessions := Function.update w.sessions sid (some { s with originFd := none }) }) := by
    rw [assign, show (w.setFd fd (some ⟨.origin, opNoop, sid⟩)).sessions sid = some s from hs]
    rfl
  rw [bind_of_ok ha, setItem, World.setFd, World.setFd]
  simp only [Function.update_idem]

/-- The view of a session whose origin is gone. -/
def View.noOrigin (v : View) (s : SocksSession) : View :=
  { v with
    sess := some { s with originFd := none }
    origin := none
    free := match s.originFd with
      | some fd => Function.update v.free fd true
      | none => v.free }

theorem does_destroyOrigin {s : SocksSession} (hs : v.sess = some s)
    (ho : ∀ fd, s.originFd = some fd → v.origin ≠ none) {R : Unit → View → Prop}
    (h : R () (v.noOrigin s)) : Does H sid (socksSessionDestroyOrigin sid) v R E := by
  rw [socksSessionDestroyOrigin]
  refine does_bind (does_deref hs ?_)
  cases hfd : s.originFd with
  | none =>
    rintro w hw rfl
    refine does_pure ?_ w hw rfl
    have hor : (view w sid).origin = none := by
      have hs : w.sessions sid = some s := hs
      show (w.sessions sid).bind (fun s => s.originFd.bind (w.interestOf .origin sid)) = none
      rw [hs, Option.bind_some, hfd, Option.bind_none]
    have hsess : ({ s with originFd := none } : SocksSession) = s := by rw [← hfd]
    rw [View.noOrigin, hsess, hfd, ← hs, ← hor] at h
    exact h
  | some fd =>
    dsimp only
    refine does_bind (R := R) (fun w hw hv => ?_)
    subst hv
    obtain ⟨i, hi⟩ := Option.ne_none_iff_exists'.1 (ho fd hfd)
    have hfd' := fds_of_origin hs hfd hi
    have hs' : w.sessions sid = some s := hs
    rw [sat_of_ok (unregister_origin_eq hfd' hs')]
    refine ⟨⟨fun fd' item hit => ?_, hw.idle, hw.bufferSize, hw.socket, hw.accept⟩, ?_, ?_⟩
    · replace hit : (w.setFd fd none).fds fd' = some item := hit
      rw [fds_setFd] at hit
      split at hit
      · cases hit
      · have hcl := hw.claimed fd' item hit
        obtain ⟨hd, i', d⟩ := item
        rw [World.Claimed] at hcl ⊢
        by_cases hd' : d = sid
        · subst hd'
          cases hd with
          | client =>
            obtain ⟨t, ht, htfd⟩ := hcl
            rw [hs'] at ht
            cases ht
            exact ⟨_, Function.update_self .., htfd⟩
          | origin =>
            obtain ⟨t, ht, htfd⟩ := hcl
            rw [hs'] at ht
            cases ht
            rw [hfd] at htfd
            cases htfd
            contradiction
          | passive => trivial
          | monitor => trivial
        · have : Function.update w.sessions sid (some { s with originFd := none }) d =
            w.sessions d := Function.update_of_ne hd' ..
          simpa only [this] using hcl
    · refine ⟨fun sid' hne => ?_, rfl, rfl, rfl, rfl, fun fd' _ item' hit => ?_⟩
      · have := slot_setFd_of_ne (w := w) hne fd none
          (fun item hi => by rw [hfd'] at hi; cases hi; rfl) (fun _ h => by cases h)
        rw [← this]
        exact slot_congr (Function.update_of_ne hne ..) (fun _ _ => rfl) rfl rfl rfl
      · replace hit : (w.setFd fd none).fds fd' = some item' := hit
        rw [fds_setFd] at hit
        split at hit
        · cases hit
        · exact ⟨item', hit, rfl, rfl⟩
    · refine does_assign (s := { s with originFd := none }) ?_ rfl rfl ?_
      · exact Function.update_self ..
      · convert h using 1
        have hcl : (w.setFd fd none).interestOf .client sid = w.interestOf .client sid := by
          funext fd'
          by_cases hne : fd' = fd
          · subst hne
            rw [interestOf_setFd_none, World.interestOf, hfd']
            simp
          · exact interestOf_setFd_of_ne hne
        have hfree : (fun fd' => ((w.setFd fd none).fds fd').isNone) =
            Function.update (view w sid).free fd true := by
          funext fd'
          rw [fds_setFd, Function.update_apply]
          split
          · rfl
          · rfl
        have hcl' : (view w sid).client = w.interestOf .client sid s.clientFd := by
          show (w.sessions sid).bind _ = _
          rw [hs', Option.bind_some]
        simp only [View.noOrigin, hfd, hcl', ← hcl, ← hfree]
        simp only [view, slot, Function.update_self, Option.bind_some, Option.bind_none]
        rfl

/-- What `socks_client_close` reports to the store. -/
def closeStore (now : ℕ) (s : SocksSession) (st : MonitorStore) : MonitorStore :=
  if s.storeId ≠ storeSessionInvalid then
    if s.ttlExpired then storeSessionMarkTtlExpired st now s.storeId
    else storeSessionEnd st s.storeId
  else st

/-- The calls `socks_client_close` makes to the store. -/
def closeActs (now : ℕ) (s : SocksSession) : List StoreAct :=
  if s.storeId ≠ storeSessionInvalid then
    if s.ttlExpired then [.call (.markTtlExpired now s.storeId)] else [.call (.finish s.storeId)]
  else []

/-- The view of a session once it is closed. -/
def View.closed (v : View) (s : SocksSession) : View :=
  { v with
    sess := none
    client := none
    origin := none
    idle := false
    hist := v.hist ++ [.closed]
    store := closeStore v.clock s v.store
    acts := v.acts ++ closeActs v.clock s
    active := v.active - 1
    free := Function.update (v.noOrigin s).free s.clientFd true }

/-- The session is freed and the client descriptor given up. -/
theorem does_release {s : SocksSession} (hs : v.sess = some s) {i : FdInterest}
    (hc : v.client = some i) (ho : s.originFd = none) {R : Unit → View → Prop}
    (h : R () { v with
      sess := none, client := none, origin := none, active := v.active - 1
      free := Function.update v.free s.clientFd true }) :
    Does H sid (do
      modify fun w => { w with
        activeSessions := w.activeSessions - 1
        sessions := Function.update w.sessions sid none }
      setItem s.clientFd none) v R E := by
  rintro w hw rfl
  have hfd := fds_of_client hs hc
  have hs' : w.sessions sid = some s := hs
  show World.Wf H { w.setFd s.clientFd none with
    activeSessions := w.activeSessions - 1
    sessions := Function.update w.sessions sid none } ∧ _ ∧ _
  refine ⟨⟨fun fd' item hit => ?_, hw.idle, hw.bufferSize, hw.socket, hw.accept⟩, ?_, ?_⟩
  · replace hit : (w.setFd s.clientFd none).fds fd' = some item := hit
    rw [fds_setFd] at hit
    split at hit
    · cases hit
    · have hcl := hw.claimed fd' item hit
      obtain ⟨hd, i', d⟩ := item
      rw [World.Claimed] at hcl ⊢
      by_cases hd' : d = sid
      · subst hd'
        cases hd with
        | client =>
          obtain ⟨t, ht, htfd⟩ := hcl
          rw [hs'] at ht
          cases ht
          exact absurd htfd.symm ‹_›
        | origin =>
          obtain ⟨t, ht, htfd⟩ := hcl
          rw [hs'] at ht
          cases ht
          rw [ho] at htfd
          cases htfd
        | passive => trivial
        | monitor => trivial
      · have : Function.update w.sessions sid none d = w.sessions d :=
          Function.update_of_ne hd' ..
        simpa only [this] using hcl
  · refine ⟨fun sid' hne => ?_, rfl, rfl, rfl, rfl, fun fd' _ item' hit => ?_⟩
    · have := slot_setFd_of_ne (w := w) hne s.clientFd none
        (fun item hi => by rw [hfd] at hi; cases hi; rfl) (fun _ h => by cases h)
      rw [← this]
      exact slot_congr (Function.update_of_ne hne ..) (fun _ _ => rfl) rfl rfl rfl
    · replace hit : (w.setFd s.clientFd none).fds fd' = some item' := hit
      rw [fds_setFd] at hit
      split at hit
      · cases hit
      · exact ⟨item', hit, rfl, rfl⟩
  · convert h using 1
    have hfree : (fun fd' => ((w.setFd s.clientFd none).fds fd').isNone) =
        Function.update (view w sid).free s.clientFd true := by
      funext fd'
      rw [fds_setFd, Function.update_apply]
      split
      · rfl
      · rfl
    simp only [← hfree]
    simp only [view, slot, Function.update_self, Option.bind_none]
    rfl

theorem does_close {s : SocksSession} (hs : v.sess = some s) {i : FdInterest}
    (hc : v.client = some i) (ho : ∀ fd, s.originFd = some fd → v.origin ≠ none)
    {R : Unit → View → Prop} (h : R () (v.closed s)) :
    Does H sid (selectorUnregisterFd s.clientFd) v R E := by
  have hbody : Does H sid (do
      selectorSetInterest s.clientFd opNoop
      socksClientClose ⟨s.clientFd, sid⟩
      setItem s.clientFd none) v R E := by
    refine does_bind (does_setInterest_client hs hc ?_)
    simp only [socksClientClose, bind_assoc]
    refine does_bind (does_idleListRemove (does_bind (does_deref (by exact hs) ?_)))
    refine does_bind (does_sysTime ?_)
    -- the report to the store changes nothing else but the session's `store_id`
    have hrest : ∀ id, Does H sid (do
        socksSessionDestroyOrigin sid
        assign sid fun s => { s with dnsResult := [], dnsCursor := [] }
        emit sid .closed
        modify fun w => { w with
          activeSessions := w.activeSessions - 1
          sessions := Function.update w.sessions sid none }
        setItem s.clientFd none)
        { v with
          sess := some { s with storeId := id }, client := some opNoop, idle := false
          store := closeStore v.clock s v.store, acts := v.acts ++ closeActs v.clock s } R E := by
      intro id
      refine does_bind (does_destroyOrigin rfl (by exact ho) ?_)
      refine does_bind (does_assign rfl rfl rfl ?_)
      refine does_bind (does_emit ?_)
      exact does_release (s := { s with
        storeId := id, originFd := none, dnsResult := [], dnsCursor := [] }) rfl rfl rfl h
    by_cases hid : s.storeId = storeSessionInvalid
    · rw [if_neg (not_not.2 hid)]
      simp only [bind_assoc]
      have := hrest s.storeId
      rw [closeStore, closeActs, if_neg (not_not.2 hid), if_neg (not_not.2 hid), List.append_nil,
        ← hs] at this
      exact this
    · rw [if_pos hid]
      have := hrest storeSessionInvalid
      rw [closeStore, closeActs, if_pos hid, if_pos hid] at this
      by_cases httl : s.ttlExpired = true
      · rw [if_pos httl, if_pos httl] at this
        rw [if_pos httl]
        simp only [bind_assoc]
        exact does_bind (does_onStore rfl (does_bind (does_assign (by exact hs) rfl rfl this)))
      · rw [if_neg httl, if_neg httl] at this
        rw [if_neg httl]
        simp only [bind_assoc]
        exact does_bind (does_onStore rfl (does_bind (does_assign (by exact hs) rfl rfl this)))
  rintro w hw rfl
  have hfd := fds_of_client hs hc
  have heq : selectorUnregisterFd s.clientFd w = (do
      selectorSetInterest s.clientFd opNoop
      socksClientClose ⟨s.clientFd, sid⟩
      setItem s.clientFd none : SocksM Unit) w := by
    rw [bind_of_ok (selectorSetInterest_of_some hfd opNoop), selectorUnregisterFd,
      unregisterWith_of_some hfd]
    rfl
  have := hbody w hw rfl
  rw [Sat, ← heq] at this
  exact this

end Registrations

end SocksProxy
