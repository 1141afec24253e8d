import SocksProxy.Socks.Machine
import SocksProxy.Store.Slots

/-!
# Properties that every callback keeps

Some properties of the process depend on how the callbacks touch it and not on what they are for:
that the idle list is in the order of last use, that the two counters of connections agree, or that
a history only grows.  `Steady I` asks of such a property that it survive each of the few things a
callback does to the process.  Some of them are transactions: the property may fail in between.  A
use of a session changes `last_activity` and then the idle list; a refusal gives the slot of the
session back and then forgets it; a session is opened by a call to the store, an allocation and a
registration, any of which can fail; and closing takes the session apart piece by piece.

Every callback then keeps a steady property, by the rules of `Maintains`, and so does every event
(`Steady.step`).  A property that does not look at the store has less to survive: `Durable`.
-/

set_option autoImplicit false

namespace SocksProxy

/-! ## What the callbacks do -/

/-- The session is used now, and goes to the end of the idle list if it is there. -/
def World.touched (w : World) (sid : Sid) (s : SocksSession) : World :=
  { w with
    sessions := Function.update w.sessions sid (some { s with lastActivity := w.clock })
    idle := if w.idle.mem sid then w.idle.pushTail sid else w.idle }

/-- A new session is used now and goes to the end of the idle list. -/
def World.opened (w : World) (sid : Sid) (s : SocksSession) : World :=
  { w with sessions := Function.update w.sessions sid (some s), idle := w.idle.pushTail sid }

/-- The store is called. -/
def World.onStore (w : World) (c : StoreCall) : World :=
  { w with store := c.apply w.store, acts := w.acts ++ [.call c] }

/-- The slot of a session is given back because its request failed. -/
def World.refused (w : World) (sid : Sid) (s : SocksSession) : World :=
  { w.onStore (.markFailed w.clock s.storeId) with
    sessions := Function.update w.sessions sid (some { s with storeId := storeSessionInvalid }) }

/-- A session is closed, and its slot given back if it still has one. -/
def World.closed (w : World) (sid : Sid) (s : SocksSession) : World :=
  { w with
    store := closeStore w.clock s w.store
    acts := w.acts ++ closeActs w.clock s
    activeSessions := w.activeSessions - 1
    sessions := Function.update w.sessions sid none }

/-- A connection is accepted: the store has a slot, and the session is used now. -/
def World.admitted (w : World) (s : SocksSession) : World :=
  { (w.onStore .begin).opened w.nextSid s with
    nextSid := w.nextSid + 1
    activeSessions := w.activeSessions + 1 }

/-- A connection is accepted, and its slot given back at once. -/
def World.undone (w : World) : World :=
  (w.onStore .begin).onStore (.finish (storeSessionBegin w.store).2)

/-- A connection is accepted and its session allocated, and both are given back at once. -/
def World.discarded (w : World) : World :=
  { w.undone with
    nextSid := w.nextSid + 1
    sessions := Function.update w.sessions w.nextSid none }

/-- A property of worlds that the callbacks keep, if each of these is taken as a whole. -/
structure Steady (I : World → Prop) : Prop where
  /-- It is not about the selector table, the resolver or the answers of the system. -/
  other : ∀ {w : World} {fds : Fd → Option Item} {threads : List DnsCtx}
    {jobs : List BlockingJob} {env : Env}, I w →
    I { w with fds := fds, threads := threads, resolutionJobs := jobs, env := env }
  assigned : ∀ {w : World} {sid : Sid} {s s' : SocksSession}, I w → w.sessions sid = some s →
    s'.lastActivity = s.lastActivity → s'.storeId = s.storeId →
    I { w with sessions := Function.update w.sessions sid (some s') }
  emitted : ∀ {w : World} (sid : Sid) (o : Obs), I w →
    I { w with hist := Function.update w.hist sid (w.hist sid ++ [o]) }
  touched : ∀ {w : World} {sid : Sid} {s : SocksSession}, I w → w.sessions sid = some s →
    I (w.touched sid s)
  removed : ∀ {w : World} (sid : Sid), I w → I { w with idle := w.idle.remove sid }
  called : ∀ {w : World} {c : StoreCall}, I w → c.describes = true → I (w.onStore c)
  refused : ∀ {w : World} {sid : Sid} {s : SocksSession}, I w → w.sessions sid = some s →
    s.storeId ≠ storeSessionInvalid → I (w.refused sid s)
  closed : ∀ {w : World} {sid : Sid} {s : SocksSession}, I w → w.sessions sid = some s →
    I (w.closed sid s)
  turnedAway : ∀ {w : World}, I w → (storeSessionBegin w.store).2 = storeSessionInvalid →
    I (w.onStore .begin)
  undone : ∀ {w : World}, I w → (storeSessionBegin w.store).2 ≠ storeSessionInvalid → I w.undone
  discarded : ∀ {w : World}, I w → (storeSessionBegin w.store).2 ≠ storeSessionInvalid →
    I w.discarded
  admitted : ∀ {w : World} {s : SocksSession}, I w →
    (storeSessionBegin w.store).2 ≠ storeSessionInvalid →
    s.storeId = (storeSessionBegin w.store).2 → s.lastActivity = w.clock → I (w.admitted s)
  ticked : ∀ {w : World} (n : ℕ), I w → I { w with clock := w.clock + n }
  administered : ∀ [Inet] {w : World} (op : StoreOp), I w →
    I { w with store := op.apply w.store, acts := w.acts ++ [.admin op] }

/-- A property of the sessions, the idle list, the clock and the histories that survives every use
of a session. -/
structure Durable (I : World → Prop) : Prop where
  /-- It is about the sessions, the idle list, the clock and the histories. -/
  same : ∀ {w w' : World}, I w → w'.sessions = w.sessions → w'.idle = w.idle → w'.clock = w.clock →
    w'.hist = w.hist → I w'
  assigned : ∀ {w : World} {sid : Sid} {s s' : SocksSession}, I w → w.sessions sid = some s →
    s'.lastActivity = s.lastActivity →
    I { w with sessions := Function.update w.sessions sid (some s') }
  emitted : ∀ {w : World} (sid : Sid) (o : Obs), I w →
    I { w with hist := Function.update w.hist sid (w.hist sid ++ [o]) }
  touched : ∀ {w : World} {sid : Sid} {s : SocksSession}, I w → w.sessions sid = some s →
    I (w.touched sid s)
  removed : ∀ {w : World} (sid : Sid), I w → I { w with idle := w.idle.remove sid }
  freed : ∀ {w : World} (sid : Sid), I w →
    I { w with sessions := Function.update w.sessions sid none }
  opened : ∀ {w : World} (sid : Sid) {s : SocksSession}, I w → s.lastActivity = w.clock →
    I (w.opened sid s)
  ticked : ∀ {w : World} (n : ℕ), I w → I { w with clock := w.clock + n }

/-- **What does not look at the store is steady** as soon as it is durable. -/
theorem Durable.steady {I : World → Prop} (hI : Durable I) : Steady I where
  other h := hI.same h rfl rfl rfl rfl
  assigned h hs hact _ := hI.assigned h hs hact
  emitted := hI.emitted
  touched := hI.touched
  removed := hI.removed
  called h _ := hI.same h rfl rfl rfl rfl
  refused := by
    intro w sid s h hs _
    have hforget : I { w with
        sessions := Function.update w.sessions sid (some { s with storeId := storeSessionInvalid }) } :=
      hI.assigned h hs rfl
    exact hI.same hforget rfl rfl rfl rfl
  closed h _ := hI.same (hI.freed _ h) rfl rfl rfl rfl
  turnedAway h _ := hI.same h rfl rfl rfl rfl
  undone h _ := hI.same h rfl rfl rfl rfl
  discarded h _ := hI.same (hI.freed _ h) rfl rfl rfl rfl
  admitted h _ _ hact := hI.same (hI.opened _ h hact) rfl rfl rfl rfl
  ticked := hI.ticked
  administered _ h := hI.same h rfl rfl rfl rfl

section Primitives

variable {I : World → Prop} {sid : Sid} {fd : Fd}

/-- A program that begins by reading a session. -/
theorem keeps_deref_bind {α : Type} {f : SocksSession → SocksM α}
    (hf : ∀ w s, I w → w.sessions sid = some s →
      Sat (f s) w (fun _ w' => I w') fun _ => True) : Maintains I (deref sid >>= f) := by
  intro w h
  rw [sat_bind]
  cases hs : w.sessions sid with
  | none =>
    rw [sat_of_error (f := .useAfterFree) (by rw [deref, hs])]
    trivial
  | some s =>
    rw [sat_of_ok (show deref sid w = .ok (s, w) by rw [deref, hs])]
    exact hf w s h hs

theorem keeps_deref : Maintains I (deref sid) := by
  intro w h
  rw [Sat, deref]
  cases w.sessions sid with
  | some s => exact h
  | none => trivial

theorem keeps_srvStore : Maintains I srvStore := fun _ h => h
theorem keeps_sysTime : Maintains I sysTime := fun _ h => h

/-! ## Taking a session apart -/

/-- What the parts of closing a session ask of a property. -/
structure Gentle (I : World → Prop) : Prop where
  entered : ∀ {w : World} {fds : Fd → Option Item}, I w → I { w with fds := fds }
  assigned : ∀ {w : World} {sid : Sid} {s s' : SocksSession}, I w → w.sessions sid = some s →
    s'.lastActivity = s.lastActivity → s'.storeId = s.storeId →
    I { w with sessions := Function.update w.sessions sid (some s') }
  emitted : ∀ {w : World} (sid : Sid) (o : Obs), I w →
    I { w with hist := Function.update w.hist sid (w.hist sid ++ [o]) }

namespace Gentle

variable (hI : Gentle I) {key : Key}

include hI

theorem keeps_assign {f : SocksSession → SocksSession}
    (hf : ∀ s, (f s).lastActivity = s.lastActivity ∧ (f s).storeId = s.storeId) :
    Maintains I (assign sid f) := by
  intro w h
  rw [Sat, assign]
  cases hs : w.sessions sid with
  | some s => exact hI.assigned h hs (hf s).1 (hf s).2
  | none => trivial

theorem keeps_emit (o : Obs) : Maintains I (emit sid o) := fun _ h => hI.emitted sid o h

theorem keeps_setItem (item? : Option Item) : Maintains I (setItem fd item?) :=
  fun _ h => hI.entered h

theorem keeps_unregisterWith {close : Item → Key → SocksM Unit}
    (hclose : ∀ item key, Maintains I (close item key)) :
    Maintains I (unregisterWith close fd) := by
  refine .bind .look fun w => ?_
  cases w.fds fd with
  | none => exact .pure _
  | some item =>
    exact .bind (hI.keeps_setItem _) fun _ => .bind (hclose _ _) fun _ => hI.keeps_setItem _

theorem keeps_handleCloseOther (item : Item) : Maintains I (handleCloseOther item key) := by
  rw [handleCloseOther]
  cases item.handler with
  | origin => exact hI.keeps_assign fun _ => ⟨rfl, rfl⟩
  | client => exact .pure _
  | passive => exact .pure _
  | monitor => exact .pure _

theorem keeps_destroyOrigin : Maintains I (socksSessionDestroyOrigin sid) := by
  refine .bind keeps_deref fun s => ?_
  cases s.originFd with
  | none => exact .pure _
  | some fd =>
    exact .bind (hI.keeps_unregisterWith fun item key => hI.keeps_handleCloseOther item)
      fun _ => hI.keeps_assign fun _ => ⟨rfl, rfl⟩

end Gentle

/-- The world without a session. -/
def World.without (w : World) (sid : Sid) : World :=
  { w with
    activeSessions := w.activeSessions - 1
    sessions := Function.update w.sessions sid none }

/-! ## The primitives -/

namespace Steady

variable (hI : Steady I)

include hI

theorem quiet : Gentle I := ⟨hI.other, hI.assigned, hI.emitted⟩

/-- A session that is about to be freed can be taken apart. -/
theorem quiet_without (sid : Sid) : Gentle fun w => I (w.without sid) where
  entered h := hI.other h
  emitted sid' o h := hI.emitted sid' o h
  assigned := by
    intro w sid' s s' h hs hact hid
    show I { w.without sid with
      sessions := Function.update (Function.update w.sessions sid' (some s')) sid none }
    by_cases hne : sid' = sid
    · subst hne
      rw [Function.update_idem]
      exact h
    · have hs' : (w.without sid).sessions sid' = some s := by
        show Function.update w.sessions sid none sid' = some s
        rw [Function.update_of_ne hne]
        exact hs
      rw [Function.update_comm hne]
      exact hI.assigned h hs' hact hid

theorem keeps_assign {f : SocksSession → SocksSession}
    (hf : ∀ s, (f s).lastActivity = s.lastActivity ∧ (f s).storeId = s.storeId) :
    Maintains I (assign sid f) := hI.quiet.keeps_assign hf

theorem keeps_emit (o : Obs) : Maintains I (emit sid o) := hI.quiet.keeps_emit o

theorem keeps_onStore {c : StoreCall} (hc : c.describes = true) : Maintains I (onStore c) :=
  fun _ h => hI.called h hc

theorem keeps_idleListRemove : Maintains I (idleListRemove sid) := fun _ h => hI.removed sid h

theorem keeps_nextRead : Maintains I nextRead := fun _ h => hI.other h
theorem keeps_nextWrite : Maintains I nextWrite := fun _ h => hI.other h
theorem keeps_sysSocket : Maintains I sysSocket := fun _ h => hI.other h
theorem keeps_sysAccept : Maintains I sysAccept := fun _ h => hI.other h
theorem keeps_sysNio : Maintains I sysNio := fun _ h => hI.other h
theorem keeps_sysConnect : Maintains I sysConnect := fun _ h => hI.other h
theorem keeps_sysSoError : Maintains I sysSoError := fun _ h => hI.other h
theorem keeps_sysAlloc : Maintains I sysAlloc := fun _ h => hI.other h
theorem keeps_sysThread : Maintains I sysThread := fun _ h => hI.other h

theorem keeps_sysRead (log : Bytes → Obs) (n : ℕ) : Maintains I (sysRead sid log n) := by
  refine .bind hI.keeps_nextRead fun ans => ?_
  cases ans with
  | data bs => exact .bind (hI.keeps_emit _) fun _ => .pure _
  | again => exact .pure _
  | error => exact .pure _

theorem keeps_sysWrite (log : Bytes → Obs) (bs : Bytes) : Maintains I (sysWrite sid log bs) := by
  refine .bind hI.keeps_nextWrite fun ans => ?_
  cases ans with
  | ok n => exact .bind (hI.keeps_emit _) fun _ => .pure _
  | again => exact .bind (hI.keeps_emit _) fun _ => .pure _
  | error => exact .bind (hI.keeps_emit _) fun _ => .pure _

theorem keeps_selectorRegister (item : Item) : Maintains I (selectorRegister fd item) := by
  refine .look_bind fun w h => ?_
  rw [sat_bind, sat_set]
  have hw : I { w with env := { w.env with room := w.env.room.tail } } := hI.other (w := w) h
  split
  · exact hw
  split
  · exact hw
  split
  · exact hw
  · exact hI.other (w := w) h

theorem keeps_selectorSetInterest (i : FdInterest) : Maintains I (selectorSetInterest fd i) := by
  refine .look_bind fun w h => ?_
  cases w.fds fd with
  | none => exact h
  | some item => exact hI.quiet.keeps_setItem _ w h

theorem keeps_touch : Maintains I (socksSessionTouch sid) := by
  intro w h
  cases hs : w.sessions sid with
  | none =>
    rw [socksSessionTouch, sat_bind, sat_of_ok (show sysTime w = .ok (w.clock, w) from rfl),
      sat_bind, sat_of_error (f := .useAfterFree) (by rw [assign]; simp only [hs])]
    trivial
  | some s =>
    have hw := hI.touched h hs
    rw [World.touched] at hw
    have hassign : assign sid (fun s => { s with lastActivity := w.clock }) w =
        .ok ((), { w with
          sessions := Function.update w.sessions sid (some { s with lastActivity := w.clock }) }) := by
      rw [assign]
      simp only [hs]
    rw [socksSessionTouch, sat_bind, sat_of_ok (show sysTime w = .ok (w.clock, w) from rfl),
      sat_bind, sat_of_ok hassign, sat_bind,
      sat_of_ok (show inIdleList sid _ = .ok (_, _) from rfl)]
    dsimp only
    by_cases hm : w.idle.mem sid = true
    · rw [if_pos hm] at hw ⊢
      exact hw
    · rw [if_neg hm] at hw ⊢
      exact hw

/-! ## Closing and flushing -/

variable {key : Key}

theorem keeps_handleFirst : Maintains I (handleFirst sid) :=
  hI.keeps_assign fun _ => ⟨rfl, rfl⟩

theorem keeps_jump (next : SocksState) : Maintains I (jump sid next) :=
  hI.keeps_assign fun _ => ⟨rfl, rfl⟩

omit hI in
theorem keeps_socksStubStay : Maintains I (socksStubStay sid) :=
  .bind keeps_deref fun _ => .pure _

theorem keeps_stmHandlerWrite : Maintains I (stmHandlerWrite sid) :=
  .bind hI.keeps_handleFirst fun _ => .bind keeps_socksStubStay fun _ => hI.keeps_jump _

theorem keeps_o2cAppend (data : Bytes) : Maintains I (socksO2cAppend sid data) := by
  refine .bind keeps_deref fun s => .ite ?_ ?_
  · refine .look_bind fun w h => ?_
    dsimp only
    split
    · trivial
    · exact h
  · exact .bind (hI.keeps_assign fun _ => ⟨rfl, rfl⟩) fun _ =>
      .bind (hI.keeps_emit _) fun _ => .pure _

/-- The end of `socks_client_close`, once the slot is given back. -/
theorem sat_takeApart {w : World} (h : I (w.without sid)) :
    Sat (do
      socksSessionDestroyOrigin sid
      assign sid fun s => { s with dnsResult := [], dnsCursor := [] }
      emit sid .closed
      modify fun w => { w with
        activeSessions := w.activeSessions - 1
        sessions := Function.update w.sessions sid none }) w (fun _ w' => I w')
      fun _ => True := by
  have hq := hI.quiet_without sid
  rw [sat_bind]
  refine (hq.keeps_destroyOrigin w h).mono (fun _ w₁ h₁ => ?_) fun _ _ => trivial
  rw [sat_bind]
  have hassign : Maintains (fun w => I (w.without sid))
      (assign sid fun s => { s with dnsResult := [], dnsCursor := [] }) :=
    hq.keeps_assign fun _ => ⟨rfl, rfl⟩
  refine (hassign w₁ h₁).mono (fun _ w₂ h₂ => ?_) fun _ _ => trivial
  rw [sat_bind]
  exact (hq.keeps_emit _ w₂ h₂).mono (fun _ _ h₃ => h₃) fun _ _ => trivial

theorem keeps_clientClose : Maintains I (socksClientClose key) := by
  refine .bind hI.keeps_idleListRemove fun _ => keeps_deref_bind fun w s h hs => ?_
  have hclosed := hI.closed h hs
  rw [World.closed, closeStore, closeActs] at hclosed
  rw [sat_bind, sat_of_ok (show sysTime w = .ok (w.clock, w) from rfl)]
  -- the slot is given back, and the session forgets it
  have hforget : ∀ c : StoreCall, I ((w.onStore c).without key.data) →
      Sat (do
        onStore c
        assign key.data fun s => { s with storeId := storeSessionInvalid }) w
        (fun _ w' => I (w'.without key.data)) fun _ => True := by
    intro c hc
    have hassign : assign key.data (fun s => { s with storeId := storeSessionInvalid })
        (w.onStore c) = .ok ((), { w.onStore c with
          sessions := Function.update w.sessions key.data
            (some { s with storeId := storeSessionInvalid }) }) := by
      rw [assign, show (w.onStore c).sessions key.data = some s from hs]
      rfl
    rw [sat_bind, sat_of_ok (show onStore c w = .ok ((), w.onStore c) from rfl), sat_of_ok hassign]
    rw [World.without, Function.update_idem]
    exact hc
  by_cases hid : s.storeId = storeSessionInvalid
  · rw [if_neg (not_not_intro hid), if_neg (not_not_intro hid), List.append_nil] at hclosed
    rw [if_neg (not_not_intro hid)]
    exact hI.sat_takeApart hclosed
  · rw [if_pos hid, if_pos hid] at hclosed
    rw [if_pos hid]
    by_cases httl : s.ttlExpired = true
    · rw [if_pos httl, if_pos httl] at hclosed
      rw [if_pos httl]
      have := hforget (.markTtlExpired w.clock s.storeId) hclosed
      rw [sat_bind] at this
      rw [sat_bind]
      refine this.mono (fun _ w₁ h₁ => ?_) fun _ _ => trivial
      rw [sat_bind]
      exact h₁.mono (fun _ w₂ h₂ => hI.sat_takeApart h₂) fun _ _ => trivial
    · rw [if_neg httl, if_neg httl] at hclosed
      rw [if_neg httl]
      have := hforget (.finish s.storeId) hclosed
      rw [sat_bind] at this
      rw [sat_bind]
      refine this.mono (fun _ w₁ h₁ => ?_) fun _ _ => trivial
      rw [sat_bind]
      exact h₁.mono (fun _ w₂ h₂ => hI.sat_takeApart h₂) fun _ _ => trivial

theorem keeps_handleClose (item : Item) : Maintains I (handleClose item key) := by
  rw [handleClose]
  cases item.handler with
  | client => exact hI.keeps_clientClose
  | origin => exact hI.quiet.keeps_handleCloseOther item
  | passive => exact hI.quiet.keeps_handleCloseOther item
  | monitor => exact hI.quiet.keeps_handleCloseOther item

theorem keeps_selectorUnregisterFd : Maintains I (selectorUnregisterFd fd) :=
  hI.quiet.keeps_unregisterWith fun item _ => hI.keeps_handleClose item

theorem keeps_closeFromOrigin : Maintains I (socksSessionCloseFromOrigin sid) :=
  .bind keeps_deref fun _ => hI.keeps_selectorUnregisterFd

theorem keeps_flushClient : Maintains I (socksFlushClient sid) := by
  refine .bind keeps_deref fun s => .ite (.pure _) ?_
  refine .bind (hI.keeps_sysWrite _ _) fun ans => ?_
  cases ans with
  | again => exact .pure _
  | error => exact .bind hI.keeps_selectorUnregisterFd fun _ => .pure _
  | ok n =>
    exact .bind (hI.keeps_assign fun _ => ⟨rfl, rfl⟩) fun _ => .bind hI.keeps_touch fun _ =>
      .bind hI.keeps_stmHandlerWrite fun _ => .pure _

theorem keeps_closeIfFlushed : Maintains I (socksCloseIfFlushed sid) :=
  .bind keeps_deref fun _ => .ite (.pure _) <|
    .bind hI.keeps_selectorUnregisterFd fun _ => .pure _

theorem keeps_flushOrigin : Maintains I (socksFlushOrigin sid) := by
  refine .bind keeps_deref fun s => .ite (.pure _) ?_
  refine .bind (hI.keeps_sysWrite _ _) fun ans => ?_
  cases ans with
  | again => exact .pure _
  | error => exact .bind hI.keeps_closeFromOrigin fun _ => .pure _
  | ok n =>
    exact .bind (hI.keeps_assign fun _ => ⟨rfl, rfl⟩) fun _ => .bind hI.keeps_touch fun _ =>
      .bind keeps_deref fun s => .ite (.bind (hI.keeps_onStore rfl) fun _ => .pure _)
        (.pure _)

/-! ## Refusing and connecting -/

theorem keeps_failRequest (rep : UInt8) : Maintains I (socksFailRequest key rep) := by
  have hrest : Maintains I (do
      if ← socksSendConnectReply key.data rep then
        assign key.data fun s => { s with closeAfterFlush := true, stm := some .done }
        if ← socksFlushClient key.data then
          let s ← deref key.data
          selectorSetInterest s.clientFd (socksClientInterest s)
      else
        selectorUnregisterFd key.fd) := by
    refine .bind (hI.keeps_o2cAppend _) fun b => .ite ?_ hI.keeps_selectorUnregisterFd
    refine .bind (hI.keeps_assign fun _ => ⟨rfl, rfl⟩) fun _ => ?_
    exact .bind hI.keeps_flushClient fun _ => .ite (.bind keeps_deref fun _ =>
      hI.keeps_selectorSetInterest _) (.pure _)
  refine keeps_deref_bind fun w s h hs => ?_
  rw [sat_bind, sat_of_ok (show sysTime w = .ok (w.clock, w) from rfl)]
  split
  · next hid =>
    have hassign : assign key.data (fun s => { s with storeId := storeSessionInvalid })
        (w.onStore (.markFailed w.clock s.storeId)) = .ok ((), w.refused key.data s) := by
      rw [assign, show (w.onStore _).sessions key.data = some s from hs]
      rfl
    rw [sat_bind, sat_of_ok (show onStore _ w = .ok ((), w.onStore _) from rfl), sat_bind,
      sat_of_ok hassign]
    exact hrest _ (hI.refused h hs hid)
  · exact hrest w h

/-- A refusal that ends in a state. -/
theorem keeps_failWith (rep : UInt8) (st : SocksState) :
    Maintains I (do socksFailRequest key rep; return st) :=
  .bind (hI.keeps_failRequest rep) fun _ => .pure _

theorem keeps_startDnsResolve : Maintains I (socksStartDnsResolve key) := by
  refine .bind hI.keeps_sysAlloc fun _ => .ite ?_ (hI.keeps_failWith _ _)
  refine .bind (hI.keeps_assign fun _ => ⟨rfl, rfl⟩) fun _ => .bind keeps_deref fun s => ?_
  refine .bind hI.keeps_sysThread fun _ => .ite ?_ (hI.keeps_failWith _ _)
  exact .bind (hI.keeps_emit _) fun _ =>
    .bind (.update fun _ h => hI.other h) fun _ => .pure _

section Inet

variable [Inet]

theorem keeps_checkDestAddr (addr : SockAddr) : Maintains I (checkDestAddr sid addr) :=
  .bind keeps_srvStore fun _ => .bind (hI.keeps_emit _) fun _ => .pure _

theorem keeps_connectAttempt {retry : SocksM SocksState} (hretry : Maintains I retry) :
    Maintains I (socksConnectAttempt key retry) := by
  refine .bind keeps_deref fun s => ?_
  cases s.connectAddr with
  | none => exact hI.keeps_failWith _ _
  | some addr =>
    refine .bind (hI.keeps_checkDestAddr addr) fun _ => .ite (hI.keeps_failWith _ _) ?_
    refine .bind hI.keeps_sysSocket fun fd? => ?_
    cases fd? with
    | none => exact hI.keeps_failWith _ _
    | some fd =>
      refine .bind hI.keeps_sysNio fun _ => .ite ?_ (hI.keeps_failWith _ _)
      refine .bind keeps_srvStore fun _ => .bind (hI.keeps_emit _) fun _ => ?_
      refine .bind hI.keeps_sysConnect fun err? => ?_
      cases err? with
      | some err =>
        dsimp only
        split
        · exact .bind (hI.keeps_assign fun _ => ⟨rfl, rfl⟩) fun _ => hretry
        · exact hI.keeps_failWith _ _
      | none =>
        refine .bind (hI.keeps_assign fun _ => ⟨rfl, rfl⟩) fun _ => ?_
        refine .bind (hI.keeps_selectorRegister _) fun _ => .ite ?_ ?_
        · exact .bind (hI.keeps_assign fun _ => ⟨rfl, rfl⟩) fun _ => .pure _
        · exact .bind (hI.keeps_assign fun _ => ⟨rfl, rfl⟩) fun _ => hI.keeps_failWith _ _

theorem keeps_connectRetry (n : ℕ) : Maintains I (socksConnectRetry key n) := by
  induction n with
  | zero => exact hI.keeps_connectAttempt (.pure _)
  | succ n ih => exact hI.keeps_connectAttempt ih

theorem keeps_beginOriginConnect : Maintains I (socksBeginOriginConnect key) :=
  .bind keeps_deref fun _ => hI.keeps_connectRetry _

/-! ## The parsing states -/

omit [Inet] in
theorem keeps_appendOrClose (data : Bytes) {next : SocksM SocksState} (hnext : Maintains I next) :
    Maintains I (appendOrClose key data next) :=
  .bind (hI.keeps_o2cAppend data) fun _ => .ite hnext <|
    .bind hI.keeps_selectorUnregisterFd fun _ => .pure _

omit [Inet] in
theorem keeps_refuse : Maintains I (refuse sid) :=
  .bind (hI.keeps_assign fun _ => ⟨rfl, rfl⟩) fun _ => .pure _

omit [Inet] in
theorem keeps_authStoreUser : Maintains I (socksAuthStoreUser sid) :=
  .bind keeps_deref fun _ => .ite (hI.keeps_onStore rfl) (.pure _)

omit [Inet] in
theorem keeps_greetingLoop (n : ℕ) : Maintains I (greetingLoop key n) := by
  induction n with
  | zero => exact .pure _
  | succ n ih =>
    refine .bind keeps_deref fun s => ?_
    cases s.c2o.pending with
    | nil => exact .pure _
    | cons byte rest =>
      refine .bind (hI.keeps_assign fun _ => ⟨rfl, rfl⟩) fun _ => ?_
      cases (greetingParserFeed s.greeting byte).2 with
      | needMore => exact ih
      | reject => exact hI.keeps_appendOrClose _ hI.keeps_refuse
      | accept =>
        exact hI.keeps_appendOrClose _ <| .bind (hI.keeps_emit _) fun _ =>
          .ite (.pure _) <| .bind (hI.keeps_onStore rfl) fun _ =>
            .bind (hI.keeps_onStore rfl) fun _ => .pure _

omit [Inet] in
theorem keeps_authLoop (n : ℕ) : Maintains I (authLoop key n) := by
  induction n with
  | zero => exact .pure _
  | succ n ih =>
    refine .bind keeps_deref fun s => ?_
    cases s.c2o.pending with
    | nil => exact .pure _
    | cons byte rest =>
      refine .bind (hI.keeps_assign fun _ => ⟨rfl, rfl⟩) fun _ => ?_
      cases (authParserFeed s.auth byte).2 with
      | needMore => exact ih
      | reject => exact hI.keeps_appendOrClose _ hI.keeps_refuse
      | parsed =>
        refine .bind keeps_srvStore fun _ => .ite ?_
          (hI.keeps_appendOrClose _ hI.keeps_refuse)
        exact .bind (hI.keeps_emit _) fun _ => .bind hI.keeps_authStoreUser fun _ =>
          .bind (hI.keeps_onStore rfl) fun _ => hI.keeps_appendOrClose _ (.pure _)

theorem keeps_requestDecided (s : SocksSession) (p : RequestParser) (status : RequestStatus) :
    Maintains I (requestDecided key s p status) := by
  cases status with
  | parsedFqdn =>
    exact .bind keeps_srvStore fun _ => .ite (hI.keeps_failWith _ _) <|
      .bind (hI.keeps_onStore rfl) fun _ => hI.keeps_startDnsResolve
  | parsedAddr =>
    have hconnect : ∀ denied : Bool, Maintains I (if denied = true then do
        socksFailRequest key socksRepDeniedByRuleset
        return .done
      else do
        onStore (.setPhase s.storeId .connecting)
        assign key.data fun s => { s with destAddr := s.request.destAddr }
        socksBeginOriginConnect key) := fun denied =>
      .ite (hI.keeps_failWith _ _) <| .bind (hI.keeps_onStore rfl) fun _ =>
        .bind (hI.keeps_assign fun _ => ⟨rfl, rfl⟩) fun _ => hI.keeps_beginOriginConnect
    rw [requestDecided]
    cases p.destAddr with
    | none => exact .bind (.pure _) hconnect
    | some addr => exact .bind (hI.keeps_checkDestAddr addr) hconnect
  | needMore => exact hI.keeps_failWith _ _
  | reject => exact hI.keeps_failWith _ _
  | rejectCmd => exact hI.keeps_failWith _ _
  | rejectAtyp => exact hI.keeps_failWith _ _

theorem keeps_requestLoop (n : ℕ) : Maintains I (requestLoop key n) := by
  induction n with
  | zero => exact .pure _
  | succ n ih =>
    refine .bind keeps_deref fun s => ?_
    cases s.c2o.pending with
    | nil => exact .pure _
    | cons byte rest =>
      refine .bind (hI.keeps_assign fun _ => ⟨rfl, rfl⟩) fun _ => ?_
      cases (requestParserFeed s.request byte).2 with
      | needMore => exact ih
      | parsedAddr => exact hI.keeps_requestDecided _ _ _
      | parsedFqdn => exact hI.keeps_requestDecided _ _ _
      | reject => exact hI.keeps_requestDecided _ _ _
      | rejectCmd => exact hI.keeps_requestDecided _ _ _
      | rejectAtyp => exact hI.keeps_requestDecided _ _ _

theorem keeps_stmHandlerRead : Maintains I (stmHandlerRead key) := by
  refine .bind hI.keeps_handleFirst fun _ => .bind keeps_deref fun s => ?_
  have hjump : ∀ ret, Maintains I (jump key.data ret) := fun ret => hI.keeps_jump ret
  cases stmState s with
  | authGreeting =>
    exact .bind (.bind keeps_deref fun _ => hI.keeps_greetingLoop _) hjump
  | authUserpass =>
    exact .bind (.bind keeps_deref fun _ => hI.keeps_authLoop _) hjump
  | request => exact .bind (.bind keeps_deref fun _ => hI.keeps_requestLoop _) hjump
  | resolving => exact .bind keeps_socksStubStay hjump
  | originConnecting => exact .bind keeps_socksStubStay hjump
  | relay => exact .bind keeps_socksStubStay hjump
  | done => exact .bind keeps_socksStubStay hjump

/-! ## Resolution and connection -/

theorem keeps_stmHandlerBlock : Maintains I (stmHandlerBlock key) := by
  refine .bind hI.keeps_handleFirst fun _ => .bind keeps_deref fun s => ?_
  refine .ite (.bind ?_ fun ret => hI.keeps_jump ret) (.throw _)
  refine .bind keeps_deref fun s => .ite (.pure _) ?_
  exact .ite (hI.keeps_failWith _ _) <| .bind (hI.keeps_assign fun _ => ⟨rfl, rfl⟩) fun _ =>
    hI.keeps_beginOriginConnect

theorem keeps_recordDest : Maintains I (socksSessionRecordDest sid) :=
  .bind keeps_deref fun _ => .bind keeps_sysTime fun _ => .ite
    (.bind (hI.keeps_onStore rfl) fun _ => hI.keeps_assign fun _ => ⟨rfl, rfl⟩) (.pure _)

theorem keeps_connectComplete : Maintains I (socksOriginConnectComplete key) := by
  refine .bind hI.keeps_sysSoError fun err? => ?_
  cases err? with
  | some err =>
    refine .bind hI.quiet.keeps_destroyOrigin fun _ => .bind keeps_deref fun s => ?_
    split
    · exact .bind (hI.keeps_assign fun _ => ⟨rfl, rfl⟩) fun _ =>
        .bind hI.keeps_beginOriginConnect fun state => hI.keeps_jump state
    · exact .bind (hI.keeps_failRequest _) fun _ =>
        .bind hI.keeps_closeIfFlushed fun _ => .pure _
  | none =>
    refine .bind (hI.keeps_o2cAppend _) fun _ => .ite ?_ hI.keeps_selectorUnregisterFd
    refine .bind hI.keeps_recordDest fun _ => .bind (hI.keeps_jump _) fun _ => ?_
    refine .bind hI.keeps_flushClient fun _ => .ite ?_ (.pure _)
    refine .bind keeps_deref fun s => ?_
    have hclient : Maintains I (selectorSetInterest s.clientFd (socksClientInterest s)) :=
      hI.keeps_selectorSetInterest _
    split
    · exact .bind (hI.keeps_selectorSetInterest _) fun _ => hclient
    · exact hclient

/-! ## The selector callbacks -/

theorem keeps_drainLoop (n : ℕ) : Maintains I (drainLoop key n) := by
  induction n with
  | zero => exact .pure _
  | succ n ih =>
    exact .bind keeps_deref fun _ => .ite
      (.bind hI.keeps_stmHandlerRead fun _ => ih) (.pure _)

omit [Inet] in
theorem keeps_settle : Maintains I (settle key) :=
  .bind hI.keeps_closeIfFlushed fun _ => .ite (.bind keeps_deref fun _ =>
    hI.keeps_selectorSetInterest _) (.pure _)

theorem keeps_clientRead : Maintains I (socksClientRead key) := by
  refine .bind keeps_deref fun s => .ite (hI.keeps_selectorSetInterest _) ?_
  refine .bind (hI.keeps_sysRead _ _) fun ans => ?_
  cases ans with
  | again => exact .bind keeps_deref fun _ => hI.keeps_selectorSetInterest _
  | error => exact hI.keeps_selectorUnregisterFd
  | data bs =>
    refine .ite hI.keeps_selectorUnregisterFd ?_
    refine .bind (hI.keeps_assign fun _ => ⟨rfl, rfl⟩) fun _ => .bind hI.keeps_touch fun _ => ?_
    refine .bind keeps_deref fun s => .ite ?_ ?_
    · cases s.originFd with
      | none => exact hI.keeps_settle
      | some fd =>
        exact .bind hI.keeps_flushOrigin fun _ => .ite (.bind keeps_deref fun _ =>
          .bind (hI.keeps_selectorSetInterest _) fun _ => hI.keeps_settle) (.pure _)
    · refine .bind (hI.keeps_drainLoop _) fun _ => .bind keeps_deref fun s => ?_
      exact .ite (.bind hI.keeps_flushClient fun _ => .ite hI.keeps_settle
        (.pure _)) hI.keeps_settle

omit [Inet] in
theorem keeps_clientWrite : Maintains I (socksClientWrite key) :=
  .bind hI.keeps_flushClient fun _ => .ite hI.keeps_settle (.pure _)

theorem keeps_clientBlock : Maintains I (socksClientBlock key) :=
  .bind hI.keeps_stmHandlerBlock fun _ => .bind hI.keeps_flushClient fun _ =>
    .ite hI.keeps_settle (.pure _)

omit [Inet] in
theorem keeps_originRead : Maintains I (socksOriginRead key) := by
  refine .bind keeps_deref fun s => .ite (hI.keeps_selectorSetInterest _) ?_
  refine .bind (hI.keeps_sysRead _ _) fun ans => ?_
  cases ans with
  | again => exact .bind keeps_deref fun _ => hI.keeps_selectorSetInterest _
  | error => exact hI.keeps_closeFromOrigin
  | data bs =>
    have hrest : Maintains I (do
        if ← socksFlushClient key.data then
          let s ← deref key.data
          selectorSetInterest s.clientFd (socksClientInterest s)
          selectorSetInterest key.fd (socksOriginInterest s)) :=
      .bind hI.keeps_flushClient fun _ => .ite (.bind keeps_deref fun _ =>
        .bind (hI.keeps_selectorSetInterest _) fun _ => hI.keeps_selectorSetInterest _)
        (.pure _)
    refine .ite hI.keeps_closeFromOrigin ?_
    refine .bind (hI.keeps_assign fun _ => ⟨rfl, rfl⟩) fun _ => .bind hI.keeps_touch fun _ => ?_
    exact .bind keeps_deref fun _ =>
      .ite (.bind (hI.keeps_onStore rfl) fun _ => hrest) hrest

theorem keeps_originWrite : Maintains I (socksOriginWrite key) := by
  refine .bind keeps_deref fun s => .ite hI.keeps_connectComplete ?_
  exact .bind hI.keeps_flushOrigin fun _ => .ite (.bind keeps_deref fun _ =>
    .bind (hI.keeps_selectorSetInterest _) fun _ => hI.keeps_selectorSetInterest _)
    (.pure _)

/-! ## Accepting and expiring -/

/-- Between the call of the store and the registration of an accepted connection: the store has
begun session `id` in a world that had the property. -/
def Begun (I : World → Prop) (id : UInt32) (w' : World) : Prop :=
  ∃ w, I w ∧ (storeSessionBegin w.store).2 = id ∧ id ≠ storeSessionInvalid ∧ w' = w.onStore .begin

omit [Inet] in
theorem sat_undo {id : UInt32} {w : World} (h : Begun I id w) :
    Sat (onStore (.finish id)) w (fun _ w' => I w') fun _ => True := by
  obtain ⟨w, h, rfl, hid, rfl⟩ := h
  exact hI.undone h hid

omit [Inet] in
theorem keeps_begun_sysAlloc {id : UInt32} : Maintains (Begun I id) sysAlloc := by
  rintro _ ⟨w, h, hid, hne, rfl⟩
  exact ⟨{ w with env := { w.env with alloc := w.env.alloc.tail } }, hI.other (w := w) h, hid, hne,
    rfl⟩

omit [Inet] hI in
/-- Registering a descriptor changes the selector table and nothing else. -/
theorem sat_selectorRegister_same {w : World} (item : Item) :
    Sat (selectorRegister fd item) w (fun _ w' => ∃ fds env, w' = { w with fds := fds, env := env })
      fun _ => True := by
  rw [selectorRegister, sat_bind, sat_get, sat_bind, sat_set]
  split
  · exact ⟨_, _, rfl⟩
  split
  · exact ⟨_, _, rfl⟩
  split
  · exact ⟨_, _, rfl⟩
  · exact ⟨_, _, rfl⟩

omit [Inet] in
/-- The last part of `socks_passive_read`. -/
theorem sat_openSession {id : UInt32} {w : World} (h : Begun I id w) :
    Sat (do
      let w ← get
      let sid := w.nextSid
      set { w with
        nextSid := sid + 1
        sessions := Function.update w.sessions sid (some (socksSessionInit fd
          (storeConfigGet w.store .ioBufferSize) w.clock id)) }
      if ← selectorRegister fd ⟨.client, opRead, sid⟩ then
        modify fun w => { w with
          activeSessions := w.activeSessions + 1
          idle := w.idle.pushTail sid }
      else
        onStore (.finish id)
        modify fun w => { w with sessions := Function.update w.sessions sid none } :
        SocksM Unit) w (fun _ w' => I w') fun _ => True := by
  obtain ⟨w, h, rfl, hid, rfl⟩ := h
  rw [sat_bind, sat_get, sat_bind, sat_set, sat_bind]
  refine (sat_selectorRegister_same _).mono ?_ fun _ _ => trivial
  rintro b _ ⟨fds, env, rfl⟩
  cases b with
  | true =>
    rw [if_pos rfl, sat_modify]
    exact hI.other (hI.admitted h hid rfl rfl)
  | false =>
    have hw := hI.discarded h hid
    rw [World.discarded, ← Function.update_idem (a := w.nextSid)] at hw
    rw [if_neg (by simp), sat_bind, sat_of_ok (show onStore _ _ = .ok (_, _) from rfl), sat_modify]
    exact hI.other hw

omit [Inet] in
theorem keeps_acceptOne : Maintains I (acceptOne fd) := by
  refine .bind hI.keeps_sysNio fun _ => .ite (.look_bind fun w h => ?_) (.pure _)
  rw [sat_bind, sat_of_ok (show onStore .begin w = .ok ((), w.onStore .begin) from rfl)]
  split
  · next hid => exact hI.turnedAway h hid
  next hid =>
  have hbegun : Begun I (storeSessionBegin w.store).2 (w.onStore .begin) := ⟨w, h, rfl, hid, rfl⟩
  rw [sat_bind]
  refine (hI.keeps_begun_sysAlloc _ hbegun).mono (fun b w₁ h₁ => ?_) fun _ _ => trivial
  split
  · rw [sat_bind]
    refine (hI.keeps_begun_sysAlloc _ h₁).mono (fun b w₂ h₂ => ?_) fun _ _ => trivial
    rw [sat_bind]
    refine (hI.keeps_begun_sysAlloc _ h₂).mono (fun b' w₃ h₃ => ?_) fun _ _ => trivial
    split
    · exact hI.sat_openSession h₃
    · exact hI.sat_undo h₃
  · exact hI.sat_undo h₁

omit [Inet] in
theorem keeps_acceptLoop (n : ℕ) : Maintains I (acceptLoop n) := by
  induction n with
  | zero => exact .pure _
  | succ n ih =>
    refine .bind hI.keeps_sysAccept fun fd? => ?_
    cases fd? with
    | none => exact .pure _
    | some fd => exact .bind hI.keeps_acceptOne fun _ => ih

omit [Inet] in
theorem keeps_expirePreRelay : Maintains I (socksExpireSessionPreRelay sid) := by
  refine .bind (hI.keeps_o2cAppend _) fun _ => .ite ?_ hI.keeps_closeFromOrigin
  refine .bind (hI.keeps_assign fun _ => ⟨rfl, rfl⟩) fun _ => ?_
  refine .bind hI.keeps_flushClient fun _ => .ite ?_ (.pure _)
  exact .bind hI.keeps_closeIfFlushed fun _ => .ite (.bind keeps_deref fun _ =>
    hI.keeps_selectorSetInterest _) (.pure _)

omit [Inet] in
/-- The end of a turn of the loop of `socks_server_expire_idle`. -/
theorem keeps_expireEnd (s : SocksSession) :
    Maintains I (if stmState s = .relay then selectorUnregisterFd s.clientFd
      else socksExpireSessionPreRelay sid) :=
  .ite hI.keeps_selectorUnregisterFd hI.keeps_expirePreRelay

omit [Inet] in
theorem keeps_expireLoop (now timeout n : ℕ) : Maintains I (expireLoop now timeout n) := by
  induction n with
  | zero => exact .pure _
  | succ n ih =>
    refine .bind .look fun w => ?_
    cases w.idle.head with
    | none => exact .pure _
    | some sid =>
      refine .bind keeps_deref fun s => .ite (.pure _) ?_
      refine .bind (hI.keeps_assign fun _ => ⟨rfl, rfl⟩) fun _ => ?_
      refine .bind hI.keeps_idleListRemove fun _ => .bind (hI.keeps_emit _) fun _ => ?_
      exact .ite (.bind hI.keeps_selectorUnregisterFd fun _ => ih)
        (.bind hI.keeps_expirePreRelay fun _ => ih)

/-! ## Events -/

theorem keeps_dispatchRead : Maintains I (dispatchRead fd) := by
  refine .bind .look fun w => ?_
  cases w.fds fd with
  | none => exact .pure _
  | some item =>
    refine .ite ?_ (.pure _)
    cases item.handler with
    | client => exact hI.keeps_clientRead
    | origin => exact hI.keeps_originRead
    | passive => exact .bind .look fun _ => hI.keeps_acceptLoop _
    | monitor => exact .pure _

theorem keeps_dispatchWrite : Maintains I (dispatchWrite fd) := by
  refine .bind .look fun w => ?_
  cases w.fds fd with
  | none => exact .pure _
  | some item =>
    refine .ite ?_ (.pure _)
    cases item.handler with
    | client => exact hI.keeps_clientWrite
    | origin => exact hI.keeps_originWrite
    | passive => exact .pure _
    | monitor => exact .pure _

omit [Inet] in
theorem keeps_dnsThread (i : ℕ) (rc : GaiRc) (result : List SockAddr) (posted : Bool) :
    Maintains I (socksDnsThread i rc result posted) := by
  refine .look_bind fun w h => ?_
  cases w.threads[i]? with
  | none => exact h
  | some ctx =>
    rw [sat_bind, sat_set]
    have hrest : Maintains I (do
        assign ctx.session fun s => { s with
          dnsResolving := false, dnsGaiRc := rc, dnsResult := if rc = .ok then result else [] }
        if posted then
          modify fun w => { w with
            resolutionJobs := ⟨ctx.notifyFd, ctx.session⟩ :: w.resolutionJobs }) :=
      .bind (hI.keeps_assign fun _ => ⟨rfl, rfl⟩) fun _ =>
        .ite (.update fun _ h => hI.other h) (.pure _)
    exact hrest _ (hI.other h)

theorem keeps_handleJob (job : BlockingJob) : Maintains I (handleJob job) := by
  refine .bind .look fun w => ?_
  cases w.fds job.fd with
  | none => exact .pure _
  | some item =>
    exact .ite (.bind keeps_deref fun _ => .bind (hI.keeps_emit _) fun _ =>
      hI.keeps_clientBlock) (.throw _)

theorem keeps_handleJobs (jobs : List BlockingJob) : Maintains I (handleJobs jobs) := by
  induction jobs with
  | nil => exact .pure _
  | cons job jobs ih => exact .bind (hI.keeps_handleJob job) fun _ => ih

theorem keeps_program (e : Event) : Maintains I e.program := by
  have henv : ∀ env : Env, Maintains I (modify ({ · with env := env }) : SocksM Unit) := fun env =>
    .update fun _ h => hI.other h
  cases e with
  | readable fd env => exact .bind (henv env) fun _ => hI.keeps_dispatchRead
  | writable fd env => exact .bind (henv env) fun _ => hI.keeps_dispatchWrite
  | resolved i rc result posted => exact hI.keeps_dnsThread i rc result posted
  | notifications env =>
    exact .bind (henv env) fun _ => .bind .look fun w =>
      .bind (hI.keeps_handleJobs _) fun _ => .update fun _ h => hI.other h
  | expire env =>
    exact .bind (henv env) fun _ => .bind .look fun w =>
      .ite (.pure _) (hI.keeps_expireLoop _ _ _)
  | tick n => exact .update fun _ h => hI.ticked n h
  | admin op => exact fun _ h => hI.administered op h
  | monitorOpen fd i =>
    refine .bind .look fun w => ?_
    cases w.freshFd (some fd) with
    | none => exact .pure _
    | some fd => exact .ite (hI.quiet.keeps_setItem _) (.pure _)
  | monitorClose fd =>
    refine .bind .look fun w => ?_
    split
    · exact hI.quiet.keeps_setItem _
    · exact .pure _

/-- **A steady property is kept by every step of the proxy.** -/
theorem step {w w' : World} {e : Event} (h : I w) (hstep : SocksProxy.step w e = .ok w') : I w' :=
  step_of_sat (hI.keeps_program e w h) hstep

end Inet

end Steady

/-! ## Durable properties -/

namespace Durable

variable (hI : Durable I)

include hI

theorem keeps_assign {f : SocksSession → SocksSession}
    (hf : ∀ s, (f s).lastActivity = s.lastActivity) : Maintains I (assign sid f) := by
  intro w h
  rw [Sat, assign]
  cases hs : w.sessions sid with
  | some s => exact hI.assigned h hs (hf s)
  | none => trivial

theorem keeps_emit (o : Obs) : Maintains I (emit sid o) := hI.steady.keeps_emit o

theorem keeps_idleListRemove : Maintains I (idleListRemove sid) := hI.steady.keeps_idleListRemove

theorem keeps_expireEnd (s : SocksSession) :
    Maintains I (if stmState s = .relay then selectorUnregisterFd s.clientFd
      else socksExpireSessionPreRelay sid) := hI.steady.keeps_expireEnd s

/-- **A durable property is kept by every step of the proxy.** -/
theorem step [Inet] {w w' : World} {e : Event} (h : I w) (hstep : SocksProxy.step w e = .ok w') :
    I w' := hI.steady.step h hstep

end Durable

end Primitives

end SocksProxy
