import SocksProxy.Shared.InetText
import SocksProxy.Monitor.Lines

/-!
# Before the login

Until an `AUTH` line has been accepted a monitoring session answers from the line alone and from
what `store_admin_authenticate` says about it.  So two stores that agree on the `AUTH` lines of a
stream cannot be told apart, nothing is written to either, and the one way out is an `AUTH` line
that the store accepts at the moment it is handed on.

A `Turn` is a step of such a session: an input of the client, some bytes of `wb` taken by the
socket, or another callback that leaves the store changed.
-/

set_option autoImplicit false

namespace SocksProxy

/-- The credentials of a line `AUTH u p …`. -/
def authArgs (bs : Bytes) : Option (Bytes × Bytes) :=
  let cmd := splitLine bs
  if cmd.cmd = ascii "AUTH" ∧ 3 ≤ cmd.argc then some (cmd.arg 1, cmd.arg 2) else none

/-- The credentials of what is handed on. -/
def Framed.authArgs : Framed → Option (Bytes × Bytes)
  | .line bs => SocksProxy.authArgs bs
  | _ => none

/-- A store accepts what is handed on. -/
def Framed.Accepted (st : MonitorStore) (f : Framed) : Prop :=
  ∃ u p, f.authArgs = some (u, p) ∧ storeAdminAuthenticate st u p = .ok

/-- A line was accepted when it was handed on. -/
def MonitorObs.Accepted : MonitorObs → Prop
  | .line bs st => (Framed.line bs).Accepted st
  | .tooLong => False

/-- A step of a session. -/
inductive Turn where
  | input (i : MonitorInput)
  /-- The socket took `n` bytes of `wb`. -/
  | taken (n : ℕ)
  /-- Another callback left this store. -/
  | other (st : MonitorStore)

/-- The inputs among some steps. -/
def Turn.inputs (ts : List Turn) : List MonitorInput :=
  ts.filterMap fun
    | .input i => some i
    | _ => none

section

variable [Inet]

/-- A step of a session. -/
def Console.turn (c : Console) : Turn → Console
  | .input i => c.input i
  | .taken n => { c with session := c.session.consume n }
  | .other st => { c with store := st }

/-- Steps of a session. -/
def Console.turns (c : Console) (ts : List Turn) : Console := ts.foldl Console.turn c

end

/-! ## What is answered before the login -/

/-- The answer to a line that is not accepted, from what is said about its credentials. -/
def refusal (verdict : Bytes → Bytes → StoreAuthResult) : Framed → List Bytes
  | .nothing => []
  | .tooLong => [ascii "-ERR line too long\n", ascii ".\n"]
  | .line bs =>
    let cmd := splitLine bs
    if cmd.cmd = [] then []
    else if cmd.cmd = ascii "AUTH" then
      if cmd.argc < 3 then [ascii "-ERR syntax error\n", ascii ".\n"]
      else match verdict (cmd.arg 1) (cmd.arg 2) with
        | .notAdmin => [ascii "-ERR not admin\n", ascii ".\n"]
        | _ => [ascii "-ERR invalid credentials\n", ascii ".\n"]
    else [ascii "-ERR not authenticated\n", ascii ".\n"]

/-- Only the credentials of the line are asked about. -/
theorem refusal_congr {v v' : Bytes → Bytes → StoreAuthResult} {f : Framed}
    (h : ∀ u p, f.authArgs = some (u, p) → v u p = v' u p) : refusal v f = refusal v' f := by
  cases f with
  | nothing => rfl
  | tooLong => rfl
  | line bs =>
    rw [refusal, refusal]
    by_cases hauth : (splitLine bs).cmd = ascii "AUTH"
    · by_cases hargc : (splitLine bs).argc < 3
      · simp only [hargc, if_true]
      · have := h ((splitLine bs).arg 1) ((splitLine bs).arg 2) (by
          simp only [Framed.authArgs, authArgs]
          rw [if_pos ⟨hauth, by omega⟩])
        simp only [this]
    · simp only [hauth, if_false]

theorem accepted_line_iff {st : MonitorStore} {bs : Bytes} :
    (Framed.line bs).Accepted st ↔ (splitLine bs).cmd = ascii "AUTH" ∧ 3 ≤ (splitLine bs).argc ∧
      storeAdminAuthenticate st ((splitLine bs).arg 1) ((splitLine bs).arg 2) = .ok := by
  simp only [Framed.Accepted, Framed.authArgs, authArgs]
  constructor
  · rintro ⟨u, p, hargs, hok⟩
    split at hargs
    · rename_i h
      cases hargs
      exact ⟨h.1, h.2, hok⟩
    · cases hargs
  · rintro ⟨hauth, hargc, hok⟩
    exact ⟨_, _, if_pos ⟨hauth, hargc⟩, hok⟩

section

variable [Inet] (r : Reply)

/-- Before the login nothing changes but the line gathered, and the answer is a refusal, unless an
`AUTH` line is accepted. -/
theorem Reply.framed_awaitAuth (f : Framed) (hs : r.state = .awaitAuth) :
    r.framed f = r.tells (refusal (storeAdminAuthenticate r.store) f) ∧ ¬ f.Accepted r.store ∨
      r.framed f = { r with state := .authenticated }.tells [ascii "+OK\n", ascii ".\n"] ∧
        f.Accepted r.store := by
  have htell (r : Reply) (s t : String) : (r.tell s).tell t = r.tells [ascii s, ascii t] := by
    simp only [Reply.tell, Reply.tells, List.append_assoc, List.singleton_append]
  cases f with
  | nothing =>
    refine .inl ⟨?_, ?_⟩
    · simp only [Reply.framed, Reply.tells, refusal, List.append_nil]
    · rintro ⟨u, p, h, -⟩
      cases h
  | tooLong =>
    refine .inl ⟨htell r _ _, ?_⟩
    rintro ⟨u, p, h, -⟩
    cases h
  | line bs =>
    rw [Reply.framed, Reply.line, refusal, accepted_line_iff]
    by_cases hauth : (splitLine bs).cmd = ascii "AUTH"
    · have hne : ¬ ascii "AUTH" = [] := by decide
      by_cases hargc : (splitLine bs).argc < 3
      · refine .inl ⟨?_, fun h => absurd h.2.1 (by omega)⟩
        simp only [hauth, hne, if_false, Reply.command, hs, if_true, Reply.auth, hargc, htell]
      · cases hv : storeAdminAuthenticate r.store ((splitLine bs).arg 1) ((splitLine bs).arg 2) with
        | ok =>
          refine .inr ⟨?_, hauth, by omega, rfl⟩
          simp only [hauth, hne, if_false, Reply.command, hs, if_true, Reply.auth, hargc, hv, htell]
        | invalid =>
          refine .inl ⟨?_, fun h => by cases h.2.2⟩
          simp only [hauth, hne, if_false, Reply.command, hs, if_true, Reply.auth, hargc, hv, htell]
        | notAdmin =>
          refine .inl ⟨?_, fun h => by cases h.2.2⟩
          simp only [hauth, hne, if_false, Reply.command, hs, if_true, Reply.auth, hargc, hv, htell]
    · refine .inl ⟨?_, fun h => hauth h.1⟩
      by_cases hne : (splitLine bs).cmd = []
      · simp only [hne, if_true, Reply.tells, List.append_nil]
      · simp only [hne, if_false, Reply.command, hs, hauth, htell]

/-! ## After the login -/

section State

variable (cmd : MonitorCmd)

omit [Inet] in
@[simp] theorem Reply.state_tells (lines : List Bytes) : (r.tells lines).state = r.state := rfl

omit [Inet] in
@[simp] theorem Reply.state_tell (text : String) : (r.tell text).state = r.state := rfl

omit [Inet] in
theorem Reply.state_config : (r.config cmd).state = r.state := by
  rw [Reply.config]
  split
  · rfl
  · split
    · rfl
    · split
      · rfl
      · simp only [apply_ite Reply.state, Reply.state_tell]
        rcases storeConfigSet r.store _ ((strtol (cmd.arg 2)).1.toNat % 2 ^ 32)
          (r.realloc.headD true) with ⟨st, res⟩
        cases res <;> simp only [Reply.state_tell, ite_self]

omit [Inet] in
theorem Reply.state_addUser : (r.addUser cmd).state = r.state := by
  rw [Reply.addUser]
  dsimp only
  split
  · rfl
  · split <;> rfl

omit [Inet] in
theorem Reply.state_delUser : (r.delUser cmd).state = r.state := by
  rw [Reply.delUser]
  dsimp only
  split
  · rfl
  · split <;> rfl

/-- No command takes the login back. -/
theorem Reply.state_route : (r.route cmd).state = r.state := by
  simp only [Reply.route, apply_ite Reply.state, Reply.stats, Reply.connections, Reply.users,
    Reply.lists, Reply.accessLog, Reply.setPassword, Reply.deny, Reply.undeny, Reply.denyList,
    Reply.quits, Reply.state_tells, Reply.state_tell, r.state_config, r.state_addUser,
    r.state_delUser, ite_self]

end State

theorem Reply.framed_authenticated (f : Framed) (hs : r.state = .authenticated) :
    (r.framed f).state = .authenticated := by
  cases f with
  | nothing => exact hs
  | tooLong => exact hs
  | line bs =>
    rw [Reply.framed, Reply.line]
    split
    · exact hs
    · rw [Reply.command, hs]
      dsimp only
      split
      · exact hs
      · exact (r.state_route _).trans hs

/-! ## Two stores -/

/-- What a refused input leaves. -/
structure Console.Refused (c : Console) (i : MonitorInput) (c' : Console) : Prop where
  state : c'.session.state = .awaitAuth
  line : c'.session.line = (frame c.session.line i).1
  close : c'.session.closeAfterFlush = c.session.closeAfterFlush
  wb : c'.session.wb = c.session.wb.offer
    (refusal (storeAdminAuthenticate c.store) (frame c.session.line i).2)
  store : c'.store = c.store
  realloc : c'.realloc = c.realloc

theorem Console.input_refused (c : Console) (i : MonitorInput)
    (hs : c.session.state = .awaitAuth) (hno : ¬ (frame c.session.line i).2.Accepted c.store) :
    c.Refused i (c.input i) := by
  have hm := c.input_moved i
  have hr : c.core.answer i = c.core.idle.tells
      (refusal (storeAdminAuthenticate c.store) (frame c.session.line i).2) :=
    ((Reply.framed_awaitAuth c.core.idle (frame c.core.line i).2 hs).resolve_right
      fun h => hno h.2).1
  have hcore := hm.core
  have hwb := hm.wb
  rw [hr] at hwb
  rw [Core.input, hr] at hcore
  simp only [Console.core, Core.mk.injEq] at hcore
  obtain ⟨hline, hstate, hstore, hrealloc, hclose⟩ := hcore
  exact ⟨hstate.trans hs, hline, hclose, hwb, hstore, hrealloc⟩

/-- Two consoles with one session over two stores. -/
structure Twins (st₁ st₂ : MonitorStore) (c₁ c₂ : Console) : Prop where
  session : c₁.session = c₂.session
  state : c₁.session.state = .awaitAuth
  store₁ : c₁.store = st₁
  store₂ : c₂.store = st₂

/-- The stores agree on a line and the first does not accept it. -/
structure Framed.Agreed (st₁ st₂ : MonitorStore) (f : Framed) : Prop where
  verdict : ∀ u p, f.authArgs = some (u, p) →
    storeAdminAuthenticate st₁ u p = storeAdminAuthenticate st₂ u p
  refused : ¬ f.Accepted st₁

variable {st₁ st₂ : MonitorStore} {c₁ c₂ : Console}

theorem Twins.input (h : Twins st₁ st₂ c₁ c₂) (i : MonitorInput)
    (hf : (frame c₁.session.line i).2.Agreed st₁ st₂) :
    Twins st₁ st₂ (c₁.input i) (c₂.input i) := by
  obtain ⟨hsession, hstate, rfl, rfl⟩ := h
  have h1 := c₁.input_refused i hstate hf.refused
  have h2 := c₂.input_refused i (by rw [← hsession, hstate]) (by
    rintro ⟨u, p, hargs, hok⟩
    rw [← hsession] at hargs
    exact hf.refused ⟨u, p, hargs, (hf.verdict u p hargs).trans hok⟩)
  refine ⟨?_, h1.state, h1.store, h2.store⟩
  ext1
  · rw [h1.state, h2.state]
  · rw [h1.wb, h2.wb, ← hsession, refusal_congr hf.verdict]
  · rw [h1.line, h2.line, hsession]
  · rw [h1.close, h2.close, hsession]

theorem Twins.turns {ts : List Turn} (h : Twins st₁ st₂ c₁ c₂) (hother : ∀ st, .other st ∉ ts)
    (hf : ∀ f ∈ framed c₁.session.line (Turn.inputs ts), f.Agreed st₁ st₂) :
    Twins st₁ st₂ (c₁.turns ts) (c₂.turns ts) := by
  induction ts generalizing c₁ c₂ with
  | nil => exact h
  | cons t ts ih =>
    have hrest : ∀ st, .other st ∉ ts := fun st hm => hother st (List.mem_cons_of_mem _ hm)
    cases t with
    | input i =>
      have hi := hf (frame c₁.session.line i).2 (List.mem_cons_self ..)
      refine ih (h.input i hi) hrest fun f hm => hf f (List.mem_cons_of_mem _ ?_)
      have hline := (c₁.input_refused i h.state (h.store₁ ▸ hi.refused)).line
      rw [Console.turn, hline] at hm
      exact hm
    | taken n =>
      refine ih ⟨?_, h.state, h.store₁, h.store₂⟩ hrest hf
      rw [Console.turn, Console.turn, h.session]
    | other st => exact absurd (List.mem_cons_self ..) (hother st)

/-! ## The way in -/

omit [Inet] in
theorem accepted_observed (c : Console) (i : MonitorInput) :
    (∃ o ∈ c.observed i, o.Accepted) ↔ (frame c.session.line i).2.Accepted c.store := by
  rw [Console.observed]
  cases (frame c.session.line i).2 with
  | nothing =>
    constructor
    · rintro ⟨o, ho, _⟩
      cases ho
    · rintro ⟨u, p, h, _⟩
      cases h
  | line bs =>
    constructor
    · rintro ⟨o, ho, hacc⟩
      rw [List.mem_singleton.1 ho] at hacc
      exact hacc
    · exact fun h => ⟨_, List.mem_singleton_self _, h⟩
  | tooLong =>
    constructor
    · rintro ⟨o, ho, hacc⟩
      rw [List.mem_singleton.1 ho] at hacc
      exact hacc.elim
    · rintro ⟨u, p, h, _⟩
      cases h

/-- The session is authenticated if and only if a line of its past was accepted. -/
def Console.Entitled (c : Console) : Prop :=
  c.session.state = .authenticated ↔ ∃ o ∈ c.hist, o.Accepted

theorem Console.Entitled.turn {c : Console} (h : c.Entitled) (t : Turn) : (c.turn t).Entitled := by
  cases t with
  | taken n => exact h
  | other st => exact h
  | input i =>
    have hm := c.input_moved i
    have hstate : (c.input i).session.state
        = (c.core.idle.framed (frame c.session.line i).2).state := congrArg Core.state hm.core
    rw [Console.turn, Console.Entitled, hm.hist, hstate]
    have hor : (∃ o ∈ c.hist ++ c.observed i, o.Accepted) ↔
        (∃ o ∈ c.hist, o.Accepted) ∨ (frame c.session.line i).2.Accepted c.store := by
      rw [← accepted_observed]
      simp only [List.mem_append, or_and_right, exists_or]
    have hpast : c.session.state = .authenticated ↔ ∃ o ∈ c.hist, o.Accepted := h
    rw [hor, ← hpast]
    cases hs : c.session.state with
    | authenticated =>
      exact iff_of_true (Reply.framed_authenticated c.core.idle _ hs) (.inl rfl)
    | awaitAuth =>
      rcases Reply.framed_awaitAuth c.core.idle (frame c.session.line i).2 hs with
        ⟨hr, hno⟩ | ⟨hr, hyes⟩
      · rw [hr, Reply.state_tells, show c.core.idle.state = .awaitAuth from hs]
        exact iff_of_false (by decide) (by rintro (h | h); cases h; exact hno h)
      · rw [hr]
        exact iff_of_true rfl (.inr hyes)

theorem Console.Entitled.turns {c : Console} (h : c.Entitled) (ts : List Turn) :
    (c.turns ts).Entitled := by
  induction ts generalizing c with
  | nil => exact h
  | cons t ts ih => exact ih (h.turn t)

end

section Runs

attribute [local instance] InetText.inet

end Runs

end SocksProxy
