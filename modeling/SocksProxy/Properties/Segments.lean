import SocksProxy.Lib.Histories
import SocksProxy.Socks.Machine
import SocksProxy.Socks.Talk

/-!
# The handshake does not depend on how its bytes are cut

A client's bytes reach `socks_client_read` in the chunks that `read()` happens to return.
`Receives` is a session that is given a stream in this way, one callback after the other and nothing
else in between, for any cut of the stream into chunks and any answers of `write()` but errors.
Whatever the cut, the session ends where the machine of `Talk.lean` ends on the whole stream: the
same replies in the same order, the same state, the same parsers, and the same bytes left in `c2o`.

The drain loop of the callback needs no bound: each of its turns consumes a byte.
-/

set_option autoImplicit false

namespace SocksProxy

variable [Inet]

/-! ## Streams in chunks -/

/-- The session reads the stream `bs`, one chunk for each call of `read()`, until the stream is over
or the session is closed.  The answers to all calls but `read()` and `write()` are those of
`env`. -/
inductive Receives (env : Env) (sid : Sid) : World → Bytes → World → Prop
  | all {w : World} : Receives env sid w [] w
  | closed {w : World} {bs : Bytes} (gone : w.sessions sid = none) : Receives env sid w bs w
  | chunk {w w₁ w' : World} {s : SocksSession} {i : FdInterest} {bs rest : Bytes}
      {writes : List WriteAns} {seconds : ℕ} (sess : w.sessions sid = some s)
      (registered : w.fds s.clientFd = some ⟨.client, i, sid⟩) (armed : i.read = true)
      (ne : bs ≠ []) (fits : bs.length ≤ s.c2o.space) (alive : WriteAns.error ∉ writes)
      (call : run step w [.tick seconds, .readable s.clientFd
        { env with read := [.data bs], write := writes }] = .ok w₁)
      (next : Receives env sid w₁ rest w') : Receives env sid w (bs ++ rest) w'

/-- What is left of a handshake; a session is closed in state `SOCKS_ST_DONE` only. -/
structure Talk.Leaves (t : Talk) (sid : Sid) (w : World) : Prop where
  replies : messages (w.hist sid) = t.replies
  session : ∀ s, w.sessions sid = some s → stmState s = t.state ∧ s.greeting = t.greeting ∧
    s.auth = t.auth ∧ s.request = t.request ∧ s.c2o.pending = t.left
  closed : w.sessions sid = none → t.state = .done

/-! ## The drain loop -/

/-- `socks_client_read` up to its drain loop, when `read()` has returned `bs`. -/
def receive (sid : Sid) (bs : Bytes) : SocksM Unit := do
  emit sid (.recv bs)
  assign sid fun s => { s with c2o := s.c2o.append bs }
  socksSessionTouch sid

/-- That is where the drain loop of `socks_client_read` starts. -/
theorem socksClientRead_eq {w : World} {sid : Sid} {fd : Fd} {s : SocksSession} {bs : Bytes}
    {later : List ReadAns} (hs : w.sessions sid = some s) (hread : w.env.read = .data bs :: later)
    (ne : bs ≠ []) (fits : bs.length ≤ s.c2o.space) :
    socksClientRead ⟨fd, sid⟩ w = (do
      receive sid bs
      let s ← deref sid
      if stmState s = SocksState.relay then
        match s.originFd with
        | none => settle ⟨fd, sid⟩
        | some ofd =>
          if ← socksFlushOrigin sid then
            let s ← deref sid
            selectorSetInterest ofd (socksOriginInterest s)
            settle ⟨fd, sid⟩
      else
        drainLoop ⟨fd, sid⟩ s.c2o.pending.length
        let s ← deref sid
        if s.o2c.canRead then
          if ← socksFlushClient sid then settle ⟨fd, sid⟩
        else settle ⟨fd, sid⟩) { w with env := { w.env with read := later } } := by
  have hspace : s.c2o.space ≠ 0 := by
    intro h0
    rw [h0, Nat.le_zero, List.length_eq_zero_iff] at fits
    exact ne fits
  have hnext : sysRead sid .recv s.c2o.space w = .ok (.data bs,
      { w with
        env := { w.env with read := later }
        hist := Function.update w.hist sid (w.hist sid ++ [.recv bs]) }) := by
    rw [sysRead, bind_of_ok (show nextRead w = .ok (.data bs,
      { w with env := { w.env with read := later } }) by rw [nextRead, hread]; rfl)]
    dsimp only
    rw [List.take_of_length_le fits]
    rfl
  rw [socksClientRead, bind_of_ok (show deref sid w = .ok (s, w) by rw [deref, hs]), if_neg hspace,
    bind_of_ok hnext]
  dsimp only
  rw [if_neg ne, receive, bind_assoc, bind_of_ok (show emit sid (.recv bs) _ = .ok ((), _) from rfl)]
  exact congrFun (bind_assoc ..).symm _

/-- The condition of the drain loop. -/
def World.Drainable (w : World) (sid : Sid) : Prop :=
  ∃ s, w.sessions sid = some s ∧ s.c2o.canRead = true ∧ s.Parsing

/-- How many bytes a session has to read. -/
def World.unread (w : World) (sid : Sid) : ℕ :=
  match w.sessions sid with
  | some s => s.c2o.pending.length
  | none => 0

/-- A turn of the drain loop. -/
def DrainTurn (key : Key) (w w' : World) : Prop :=
  w.Drainable key.data ∧ stmHandlerRead key w = .ok ((), w')

/-- The drain loop that starts here ends: each turn consumes a byte, and as many turns as there are
bytes are enough. -/
structure DrainEnds (key : Key) (w : World) : Prop where
  consumes : ∀ w₁ w₂, Relation.ReflTransGen (DrainTurn key) w w₁ → DrainTurn key w₁ w₂ →
    w₂.unread key.data < w₁.unread key.data
  ends : ∃ w', ¬ w'.Drainable key.data ∧
    ∀ n, w.unread key.data ≤ n → drainLoop key n w = .ok ((), w')

/-- No handshake depends on how it is cut. -/
structure World.CutsAgree (w : World) : Prop where
  outcome : ∀ sid s, w.sessions sid = some s → s.Parsing → ∀ env bs,
    ∃ t : Talk, ∀ w', Receives env sid w bs w' → t.Leaves sid w'
  drain : ∀ sid s, w.sessions sid = some s → s.Parsing → ∀ (env : Env) bs w₀,
    WriteAns.error ∉ env.write → bs ≠ [] → bs.length ≤ s.c2o.space →
    receive sid bs { w with env := env } = .ok ((), w₀) → DrainEnds ⟨s.clientFd, sid⟩ w₀

section Read

variable {H : Set Fd} {sid : Sid} {E : Fault → Prop} {v v' : View} {s s' : SocksSession}
  {c : Scene} {t : Talk} {bs bs₀ : Bytes}

/-! ## One call -/

omit [Inet] in
theorem does_receive (hs : v.sess = some s) {R : Unit → View → Prop}
    (h : R () { v with sess := some (s.got bs v.clock), hist := v.hist ++ [.recv bs] }) :
    Does H sid (receive sid bs) v R E := by
  rw [receive]
  exact does_bind (does_emit (does_bind (does_assign (by exact hs) rfl rfl (does_touch rfl h))))

omit [Inet] in
/-- What was read is to be looked at. -/
theorem Hears.got (h : Hears c v s t bs₀) (hfits : bs.length ≤ s.c2o.space) :
    Hears c (v.got s bs) (s.got bs v.clock) t (bs₀ ++ bs) where
  state := h.state
  greeting := h.greeting
  auth := h.auth
  request := h.request
  replies := by
    show messages (v.hist ++ _) = _
    rw [messages_append, h.replies]
    exact List.append_nil _
  pending := by
    show (s.c2o.append bs).pending = _
    rw [Buffer.pending_append _ hfits, h.pending, List.append_assoc]
  alive := h.alive
  fresh := h.fresh
  holds := fun hp => by
    have hh := h.holds hp
    obtain ⟨r, ws, henv⟩ := hh.env
    refine ⟨hh.settings, hh.free, hh.cursor, r.tail, ws, ?_⟩
    show { v.env with read := v.env.read.tail } = _
    rw [henv]

omit [Inet] in
/-- A flush that does not close the session leaves the handshake where it is. -/
theorem Flushed.hears (hf : Flushed v s true v') (hs : v.sess = some s) (h : Hears c v s t []) :
    ∃ s', v'.sess = some s' ∧ Hears c v' s' t [] := by
  obtain ⟨b, now, m, o, e, hm, hv⟩ := hf.alive hs
  have hmsg := hf.messages_eq
  have halive := hf.alive_of h.alive
  have hio : ∃ ws, v'.env = { v.env with write := ws } := by
    cases hf with
    | nothing => exact ⟨v.env.write, rfl⟩
    | blocked => exact ⟨v.env.write.tail, rfl⟩
    | wrote => exact ⟨v.env.write.tail, rfl⟩
  subst hv
  refine ⟨_, rfl, ?_, h.greeting, h.auth, h.request, hmsg.trans h.replies, h.pending, halive, ?_, ?_⟩
  · rw [← h.state]
    rcases hm with rfl | rfl <;> rfl
  · intro hp
    refine h.fresh ?_
    rcases hm with rfl | rfl <;> exact hp
  · intro hp
    have hp : s.Parsing := by rcases hm with rfl | rfl <;> exact hp
    have hh := h.holds hp
    obtain ⟨r, ws, henv⟩ := hh.env
    obtain ⟨ws', hio⟩ := hio
    refine ⟨hh.settings, hh.free, hh.cursor, r, ws', ?_⟩
    rw [hio, henv]

/-- A view left by the callback: the session stands where the machine stands, or it was closed once
the machine was done. -/
def Leaves (c : Scene) (v : View) (t : Talk) : Prop :=
  (∃ s, v.sess = some s ∧ Hears c v s t []) ∨
    v.sess = none ∧ t.state = .done ∧ messages v.hist = t.replies

omit [Inet] in
theorem does_settle_hears (hok : v.toSlot.Ok) (hs : v.sess = some s) (h : Hears c v s t []) :
    Does H sid (settle ⟨s.clientFd, sid⟩) v (fun _ v' => Leaves c v' t) E := by
  refine (does_settle (hok.has hs)).mono (fun _ v' h' => ?_) fun _ hf => hf
  cases h' with
  | closed hst =>
    rw [SocksSession.stalled, Bool.and_eq_true] at hst
    refine .inr ⟨rfl, h.state.symm.trans ((hok.session s hs).flush.1 hst.1), ?_⟩
    show messages (v.hist ++ [_]) = _
    rw [messages_append, h.replies]
    exact List.append_nil _
  | armed =>
    exact .inl ⟨s, hs, ⟨h.state, h.greeting, h.auth, h.request, h.replies, h.pending, h.alive,
      h.fresh, fun hp => ⟨(h.holds hp).settings, (h.holds hp).free, (h.holds hp).cursor,
        (h.holds hp).env⟩⟩⟩

theorem does_flushSettle_hears (hok : v.toSlot.Ok) (hs : v.sess = some s) (h : Hears c v s t []) :
    Does H sid (do if ← socksFlushClient sid then settle ⟨s.clientFd, sid⟩) v
      (fun _ v' => Leaves c v' t) E := by
  refine does_bind ((does_flushClient (hok.has hs)).mono (fun b v₁ hf => ?_) fun _ hf => hf)
  cases b with
  | false =>
    cases hf with
    | dead _ ans => exact absurd ans (writeAns_ne_error h.alive)
  | true =>
    rw [if_pos rfl]
    obtain ⟨s₁, hs₁, h₁⟩ := hf.hears hs h
    have hfd : s₁.clientFd = s.clientFd := by
      obtain ⟨b, now, m, o, e, -, rfl⟩ := hf.alive hs
      cases hs₁
      rfl
    have hsteps : SessionSteps .plain v.toSlot v₁.toSlot := hf.steps hs
    rw [← hfd]
    exact does_settle_hears (hsteps.ok hok) hs₁ h₁

/-- `socks_client_read` with a chunk of the handshake. -/
theorem does_clientRead_hears (hok : v.toSlot.Ok) (hs : v.sess = some s)
    (h : Hears c v s t bs₀) (hrel : stmState s ≠ .relay)
    (hans : v.readAns s.c2o.space = .data bs) (hne : bs ≠ []) (hfits : bs.length ≤ s.c2o.space) :
    Does H sid (socksClientRead ⟨s.clientFd, sid⟩) v
      (fun _ v' => Leaves c v' (t.hear c (bs₀ ++ bs))) (fun _ => True) := by
  have hspace : s.c2o.space ≠ 0 := by
    intro h0
    rw [h0, Nat.le_zero, List.length_eq_zero_iff] at hfits
    exact hne hfits
  rw [socksClientRead]
  refine does_bind (does_deref hs ?_)
  rw [if_neg hspace]
  refine does_bind (does_sysRead (fun bs' hans' _ => ?_) (fun hans' => ?_) fun hans' => ?_)
  · obtain rfl : bs = bs' := by rw [hans] at hans'; exact ReadAns.data.inj hans'
    dsimp only
    rw [if_neg hne]
    refine does_bind (does_assign (by exact hs) rfl rfl (does_bind (does_touch rfl ?_)))
    refine does_bind (does_deref rfl ?_)
    have hgot : SessionSteps .plain v.toSlot (v.got s bs).toSlot := steps_got hs hne hfits
    rw [if_neg (by exact hrel)]
    refine does_bind ((does_drains (v := v.got s bs) (s := s.got bs v.clock) (hgot.ok hok) rfl
      fun _ => Nat.le_refl _).mono (fun _ v₁ hdrains => ?_) fun _ hf => hf)
    obtain ⟨s₁, hd, hok₁, hfd⟩ := hdrains
    have hs₁ := hd.sess_eq
    have h₁ := hd.hears (h.got hfits)
    rw [show s.clientFd = s₁.clientFd from hfd.symm]
    refine does_bind (does_deref hs₁ ?_)
    split
    · exact does_flushSettle_hears hok₁ hs₁ h₁
    · exact does_settle_hears hok₁ hs₁ h₁
  · rw [hans] at hans'
    cases hans'
  · rw [hans] at hans'
    cases hans'

end Read

/-! ## One stream -/

section Stream

variable {w w₁ w' : World} {sid : Sid} {s : SocksSession} {c : Scene} {t : Talk} {bs bs₀ : Bytes}

/-- A handshake never reaches the tunnel by itself. -/
theorem answered_ne_relay (p : RequestParser) (status : RequestStatus) :
    (t.answered (c.answer p status)).state ≠ .relay := by
  have hdial : ∀ addr?, (t.answered (c.dialAnswer addr?)).state ≠ .relay := by
    intro addr?
    rw [Scene.dialAnswer.eq_def]
    split
    · exact nofun
    · split <;> exact nofun
  rw [Scene.answer.eq_def]
  split
  · split
    · exact nofun
    · split <;> exact nofun
  · split
    · exact nofun
    · exact hdial _
  · exact nofun

theorem feed_ne_relay (h : t.state ≠ .relay) (byte : UInt8) : (t.feed c byte).state ≠ .relay := by
  rw [Talk.feed]
  split
  · next hst =>
    split
    · exact h
    · dsimp only
      split <;> simp
    · exact fun hover => by cases hover
  · split
    · exact h
    · split <;> exact fun hnext => by cases hnext
    · exact fun hover => by cases hover
  · split
    · exact h
    · exact answered_ne_relay _ _
  · exact h

theorem hear_ne_relay (h : t.state ≠ .relay) (bs : Bytes) : (t.hear c bs).state ≠ .relay := by
  induction bs generalizing t with
  | nil => exact h
  | cons byte bs ih => exact ih (feed_ne_relay h byte)

/-- The session stands where the machine stands, whatever the next `read()` and `write()` return. -/
def Stands (c : Scene) (w : World) (sid : Sid) (s : SocksSession) (t : Talk) (bs : Bytes) : Prop :=
  ∀ (now : ℕ) (r : List ReadAns) (ws : List WriteAns), WriteAns.error ∉ ws →
    Hears c (view { w with clock := now, env := { c.env with read := r, write := ws } } sid) s t bs

omit [Inet] in
theorem Hears.stands (h : Hears c (view w sid) s t bs) : Stands c w sid s t bs := fun _ r ws hws =>
  ⟨h.state, h.greeting, h.auth, h.request, h.replies, h.pending, hws, h.fresh, fun hp =>
    ⟨(h.holds hp).settings, (h.holds hp).free, (h.holds hp).cursor, r, ws, rfl⟩⟩

/-- A readiness event on a client calls `socks_client_read`. -/
theorem clientRead_of_run {fd : Fd} {i : FdInterest} {env : Env} {seconds : ℕ}
    (hfd : w.fds fd = some ⟨.client, i, sid⟩) (hi : i.read = true)
    (h : run step w [.tick seconds, .readable fd env] = .ok w₁) :
    socksClientRead ⟨fd, sid⟩ { w with clock := w.clock + seconds, env := env } = .ok ((), w₁) := by
  obtain ⟨w₂, h₁, h₂⟩ := run_cons_ok h
  cases h₁
  obtain ⟨w₃, h₃, h₄⟩ := run_cons_ok h₂
  cases h₄
  have hprog := step_eq_ok h₃
  have hread : dispatchRead fd { w with clock := w.clock + seconds, env := env } =
      socksClientRead ⟨fd, sid⟩ { w with clock := w.clock + seconds, env := env } := by
    rw [dispatchRead, bind_of_ok (show (get : SocksM World) _ = .ok (_, _) from rfl)]
    dsimp only
    rw [hfd]
    dsimp only
    rw [if_pos hi]
  exact hread.symm.trans hprog

/-- Nothing to read, nothing done. -/
theorem Receives.eq_of_nil {env : Env} (h : Receives env sid w bs w') (hbs : bs = []) : w' = w := by
  cases h with
  | all => rfl
  | closed => rfl
  | chunk _ _ _ ne => exact absurd (List.append_eq_nil_iff.1 hbs).1 ne

theorem inv_of_run {es : List Event} (hinv : w.Inv) (h : run step w es = .ok w₁) : w₁.Inv :=
  Reaches.inv (I := World.Inv) ⟨es, h⟩ hinv fun _ _ _ hi hs => (step_acts hi hs).1

/-- **A session that reads a stream ends where the machine ends**, however the stream is cut. -/
theorem Receives.leaves (h : Receives c.env sid w bs w') : ∀ {s : SocksSession} {t : Talk}
    {bs₀ : Bytes}, w.Inv → w.sessions sid = some s → Stands c w sid s t bs₀ → t.state ≠ .relay →
    bs = [] ∧ w' = w ∨ (t.hear c (bs₀ ++ bs)).Leaves sid w' := by
  induction h with
  | all => exact fun _ _ _ _ => .inl ⟨rfl, rfl⟩
  | closed gone =>
    intro s t bs₀ _ hs
    rw [gone] at hs
    cases hs
  | @chunk w w₁ w' s' i bs rest writes seconds sess registered armed ne fits alive call next ih =>
    intro s t bs₀ hinv hs h hrel
    rw [sess] at hs
    cases hs
    right
    have hinv₁ := inv_of_run hinv call
    have hcall := clientRead_of_run registered armed call
    have hears := h (w.clock + seconds) [.data bs] writes alive
    have hw : World.Wf Set.univ { w with
        clock := w.clock + seconds, env := { c.env with read := [.data bs], write := writes } } :=
      ⟨hinv.claimed, hinv.idle, hinv.bufferSize, fun _ _ => trivial, fun _ _ => trivial⟩
    have hsat := does_clientRead_hears (H := Set.univ) (hinv.slots sid) sess hears
      (by rw [hears.state]; exact hrel)
      (by show ReadAns.data (bs.take _) = _; rw [List.take_of_length_le fits]) ne fits _ hw rfl
    rw [sat_of_ok hcall] at hsat
    obtain ⟨-, -, hleaves⟩ := hsat
    have hstate := hear_ne_relay (c := c) hrel (bs₀ ++ bs)
    rw [← List.append_assoc, hear_append]
    generalize t.hear c (bs₀ ++ bs) = t₁ at hleaves hstate
    rcases hleaves with ⟨s₁, hs₁, h₁⟩ | ⟨hgone, hdone, hmsg⟩
    · rcases ih hinv₁ hs₁ h₁.stands hstate with ⟨rfl, rfl⟩ | hl
      · refine ⟨h₁.replies, fun s hs => ?_, fun hn => ?_⟩
        · obtain rfl : s₁ = s := Option.some.inj (Eq.trans (Eq.symm hs₁) hs)
          exact ⟨h₁.state, h₁.greeting, h₁.auth, h₁.request, h₁.pending.trans (List.append_nil _)⟩
        · exact absurd (Eq.trans (Eq.symm hn) hs₁) (by simp)
      · exact hl
    · have hpast : t₁.hear c rest = { t₁ with left := t₁.left ++ rest } :=
        hear_of_past (by simp [hdone]) (by simp [hdone]) (by simp [hdone]) rest
      have hsame : w₁ = w' := by
        cases next with
        | all => rfl
        | closed => rfl
        | chunk sess => exact absurd (Eq.trans (Eq.symm sess) hgone) (by simp)
      subst hsame
      rw [hpast]
      exact ⟨hmsg, fun s hs => absurd (Eq.trans (Eq.symm hs) hgone) (by simp), fun _ => hdone⟩

omit [Inet] in
/-- Every session stands where some machine stands. -/
theorem hears_start (v : View) (s : SocksSession) (alive : WriteAns.error ∉ v.env.write) :
    Hears ⟨v.store, v.free, v.env, s.dnsCursor⟩ v s
      ⟨stmState s, s.greeting, s.auth, s.request, messages v.hist, []⟩ s.c2o.pending :=
  ⟨rfl, rfl, rfl, rfl, rfl, rfl, alive, fun _ => rfl, fun _ => ⟨rfl, rfl, rfl, _, _, rfl⟩⟩

/-! ## The drain loop ends -/

omit [Inet] in
theorem unread_of_some (hs : w.sessions sid = some s) : w.unread sid = s.c2o.pending.length := by
  rw [World.unread, hs]

/-- What a turn needs and leaves. -/
structure Turnable (sid : Sid) (w : World) : Prop where
  wf : w.Wf Set.univ
  ok : (slot w sid).Ok
  alive : WriteAns.error ∉ w.env.write

theorem DrainTurn.less {fd : Fd} (h : Turnable sid w) (ht : DrainTurn ⟨fd, sid⟩ w w₁) :
    Turnable sid w₁ ∧ (∃ s₁, w₁.sessions sid = some s₁) ∧ w₁.unread sid < w.unread sid := by
  obtain ⟨⟨s, hs, hread, hpar⟩, hcall⟩ := ht
  have hsat : Sat (stmHandlerRead ⟨fd, sid⟩) w _ _ :=
    does_turned h.ok hs hpar w h.wf rfl
  rw [sat_of_ok hcall] at hsat
  obtain ⟨hwf, -, s₁, htd⟩ := hsat
  obtain ⟨t', bs', h₁, -⟩ := htd.turn.hears (hears_start (view w sid) s h.alive)
  refine ⟨⟨hwf, htd.ok, h₁.alive⟩, ⟨s₁, htd.sess⟩, ?_⟩
  rw [unread_of_some hs, unread_of_some htd.sess]
  exact htd.turn.less ((Buffer.canRead_iff _).1 hread)

/-- A turn that is due does not fault. -/
theorem exists_drainTurn {fd : Fd} (h : Turnable sid w) (hd : w.Drainable sid) :
    ∃ w₁, DrainTurn ⟨fd, sid⟩ w w₁ := by
  have hd' := hd
  obtain ⟨s, hs, -, hpar⟩ := hd
  have hsat : Sat (stmHandlerRead ⟨fd, sid⟩) w _ _ :=
    does_turned h.ok hs hpar w h.wf rfl
  rw [Sat] at hsat
  cases hcall : stmHandlerRead ⟨fd, sid⟩ w with
  | ok r => exact ⟨r.2, hd', hcall⟩
  | error f =>
    rw [hcall] at hsat
    exact absurd hsat.2.2 (writeAns_ne_error h.alive)

theorem drainLoop_succ {fd : Fd} (ht : DrainTurn ⟨fd, sid⟩ w w₁) (n : ℕ) :
    drainLoop ⟨fd, sid⟩ (n + 1) w = drainLoop ⟨fd, sid⟩ n w₁ := by
  obtain ⟨⟨s, hs, hread, hpar⟩, hcall⟩ := ht
  rw [drainLoop, bind_of_ok (show deref sid w = .ok (s, w) by rw [deref, hs]),
    if_pos ⟨hread, hpar⟩, bind_of_ok hcall]

theorem drainLoop_of_drained {fd : Fd} (hs : w.sessions sid = some s) (hd : ¬ w.Drainable sid)
    (n : ℕ) : drainLoop ⟨fd, sid⟩ n w = .ok ((), w) := by
  cases n with
  | zero => rfl
  | succ n =>
    have hc : ¬ (s.c2o.canRead = true ∧ (stmState s = .authGreeting ∨ stmState s = .authUserpass ∨
        stmState s = .request)) := fun hc => hd ⟨s, hs, hc⟩
    rw [drainLoop, bind_of_ok (show deref sid w = .ok (s, w) by rw [deref, hs]), if_neg hc]
    rfl

/-- As many turns as there are bytes are enough. -/
theorem exists_drained {fd : Fd} (k : ℕ) : ∀ {w : World}, Turnable sid w →
    (∃ s, w.sessions sid = some s) → w.unread sid ≤ k →
    ∃ w', ¬ w'.Drainable sid ∧ ∀ n, w.unread sid ≤ n → drainLoop ⟨fd, sid⟩ n w = .ok ((), w') := by
  induction k with
  | zero =>
    rintro w - ⟨s, hs⟩ hk
    have hd : ¬ w.Drainable sid := by
      rintro ⟨s', hs', hread, -⟩
      rw [unread_of_some hs', Nat.le_zero, List.length_eq_zero_iff] at hk
      exact (Buffer.canRead_iff _).1 hread hk
    exact ⟨w, hd, fun n _ => drainLoop_of_drained hs hd n⟩
  | succ k ih =>
    rintro w hw ⟨s, hs⟩ hk
    by_cases hd : w.Drainable sid
    · obtain ⟨w₁, ht⟩ : ∃ w₁, DrainTurn ⟨fd, sid⟩ w w₁ := exists_drainTurn hw hd
      obtain ⟨hw₁, hs₁, hlt⟩ := ht.less hw
      obtain ⟨w', hd', hall⟩ := ih hw₁ hs₁ (by omega)
      refine ⟨w', hd', fun n hn => ?_⟩
      obtain ⟨m, rfl⟩ : ∃ m, n = m + 1 := ⟨n - 1, by omega⟩
      rw [drainLoop_succ ht]
      exact hall m (by omega)
    · exact ⟨w, hd, fun n _ => drainLoop_of_drained hs hd n⟩

theorem drainEnds (hw : Turnable sid w) (hs : w.sessions sid = some s) (fd : Fd) :
    DrainEnds ⟨fd, sid⟩ w where
  consumes := by
    intro w₁ w₂ h ht
    have hw₁ : Turnable sid w₁ := by
      clear ht
      induction h with
      | refl => exact hw
      | tail _ ht ih => exact (ht.less ih).1
    exact (ht.less hw₁).2.2
  ends := exists_drained (w.unread sid) hw ⟨s, hs⟩ (Nat.le_refl _)

/-! ## Every run -/

theorem World.Inv.cutsAgree (hinv : w.Inv) : w.CutsAgree where
  outcome := by
    intro sid s hs hpar env bs
    have hstart : Stands ⟨w.store, (view w sid).free, env, s.dnsCursor⟩ w sid s
        ⟨stmState s, s.greeting, s.auth, s.request, messages (w.hist sid), []⟩ s.c2o.pending :=
      fun _ r ws hws => ⟨rfl, rfl, rfl, rfl, rfl, rfl, hws, fun _ => rfl,
        fun _ => ⟨rfl, rfl, rfl, r, ws, rfl⟩⟩
    have hrel : stmState s ≠ .relay := by rcases hpar with h | h | h <;> simp [h]
    by_cases hbs : bs = []
    · refine ⟨⟨stmState s, s.greeting, s.auth, s.request, messages (w.hist sid), s.c2o.pending⟩,
        fun w' h => ?_⟩
      obtain rfl := h.eq_of_nil hbs
      refine ⟨rfl, fun s' hs' => ?_, fun hn => absurd (hn.symm.trans hs) (by simp)⟩
      obtain rfl : s = s' := Option.some.inj (hs.symm.trans hs')
      exact ⟨rfl, rfl, rfl, rfl, rfl⟩
    · exact ⟨_, fun w' h => (h.leaves hinv hs hstart hrel).resolve_left fun hc => hbs hc.1⟩
  drain := by
    intro sid s hs hpar env bs w₀ alive ne fits hcall
    have hw : World.Wf Set.univ { w with env := env } :=
      ⟨hinv.claimed, hinv.idle, hinv.bufferSize, fun _ _ => trivial, fun _ _ => trivial⟩
    have hsess : (view { w with env := env } sid).sess = some s := hs
    have hsat : Sat (receive sid bs) { w with env := env } _ _ :=
      does_receive (H := Set.univ) (E := fun _ => True)
        (R := fun _ v => v.sess = some (s.got bs w.clock) ∧ v.toSlot.Ok ∧ v.env = env) hsess ?_ _ hw rfl
    · rw [sat_of_ok hcall] at hsat
      obtain ⟨hwf, -, hs₀, hok, henv⟩ := hsat
      have henv : w₀.env = env := henv
      exact drainEnds ⟨hwf, hok, by rw [henv]; exact alive⟩ hs₀ _
    · refine ⟨rfl, ?_, rfl⟩
      have hsteps : SessionSteps .plain (slot w sid) _ :=
        steps_got (v := view w sid) hs ne fits
      exact hsteps.ok (hinv.slots sid)

end Stream

/-- **The handshake does not depend on how its bytes are cut.**  In every world of every run, a
session that is still in a phase that parses has, for each stream, one outcome, whatever the cut and
whatever the answers of `write()`, and the drain loop of each call ends by itself. -/
theorem handshake_cut_free (listenFd monitorFd : Fd) (es : List Event) :
    Visits step World.CutsAgree (World.boot listenFd monitorFd) es :=
  visits_of_reaches (fun _ hw => (reaches_inv hw).cutsAgree) es

end SocksProxy
