import SocksProxy.Socks.Dial

/-!
# Answering a CONNECT request

A request is answered in three situations (`Deciding`), and the code does the same two things in
each: it refuses with `socks_fail_request`, or it dials.  `Answers` says how that ends once the
state it returns has been jumped to.  `socks_fail_request` does not tell its caller that the session
is gone, so one of the two ends is a freed session: exactly when the request is refused and the
first `write()` to the client fails.
-/

set_option autoImplicit false

namespace SocksProxy

variable [Inet]

/-- Whether dialling ends in a refusal. -/
def View.dialRefuses (v : View) (addr? : Option SockAddr) (others : List SockAddr) : Bool :=
  match addr? with
  | none => true
  | some addr =>
    match (v.dial addr others).outcome with
    | .error _ => true
    | .ok _ => false

section Congr

variable {v v' : View}

/-- The dialling of one view is that of another with the same rules, descriptors and answers. -/
theorem dial_congr (he : v'.env = v.env) (hf : v'.free = v.free)
    (hs : v'.store.settings = v.store.settings) (addr : SockAddr) (others : List SockAddr) :
    v'.dial addr others = v.dial addr others := by
  have hd : v'.store.deniedAddresses = v.store.deniedAddresses :=
    congrArg StoreSettings.deniedAddresses hs
  rw [View.dial, View.dial, he, hf, hd]

theorem dialRefuses_congr (he : v'.env = v.env) (hf : v'.free = v.free)
    (hs : v'.store.settings = v.store.settings) (addr? : Option SockAddr)
    (others : List SockAddr) : v'.dialRefuses addr? others = v.dialRefuses addr? others := by
  cases addr? with
  | none => rfl
  | some addr =>
    simp only [View.dialRefuses, dial_congr he hf hs]

end Congr

/-- `jump`, on a view. -/
def View.jumped (v : View) (s : SocksSession) (st : SocksState) : View :=
  { v with sess := some { s with stm := some st } }

/-- How the answer to a request ends; `refused` says whether it is a refusal. -/
def Answers (v : View) (s : SocksSession) (refused : Bool) (ret : SocksState) (v' : View) : Prop :=
  (∃ s', v'.sess = some s' ∧ SessionSteps .plain v.toSlot (v'.jumped s' ret).toSlot ∧
    s'.clientFd = s.clientFd ∧ (ret = .originConnecting ∨ ret = .done) ∧
    v'.threads = v.threads ∧ ¬ (refused = true ∧ v.writeAns = .error) ∧
    (s'.stalled = true → refused = true ∧
      ∃ n, v.writeAns = .ok n ∧ s.o2c.pending.length + 10 ≤ n)) ∨
  (v'.sess = none ∧ refused = true ∧ v.writeAns = .error)

/-- A view reached from `v` while its request is being answered. -/
structure Answering (v : View) (s : SocksSession) (obs : List Obs) (v₁ : View)
    (s₁ s₂ : SocksSession) : Prop where
  sess : v.sess = some s
  ok : v.toSlot.Ok
  deciding : Deciding s s₁
  sess₂ : v₁.sess = some s₂
  client : v₁.client = v.client
  origin : v₁.origin = none
  idle : v₁.idle = v.idle
  used : v₁.used = v.used
  hist : v₁.hist = v.hist ++ obs
  threads : v₁.threads = v.threads
  writeAns : v₁.writeAns = v.writeAns
  session : s₂ = { s₁ with
    destAddr := s₂.destAddr, dnsResult := s₂.dnsResult, dnsCursor := s₂.dnsCursor
    dnsGaiRc := s₂.dnsGaiRc, dnsResolving := s₂.dnsResolving, storeId := s₂.storeId }

section Answer

variable {H : Set Fd} {sid : Sid} {E : Fault → Prop} {v v₁ : View} {s s₁ s₂ : SocksSession}
  {obs : List Obs}

namespace Answering

omit [Inet]

theorem originFd_eq (h : Answering v s obs v₁ s₁ s₂) : s₂.originFd = none := by
  rw [h.session]
  exact h.deciding.originFd_eq (h.ok.session s h.sess)

theorem o2c_eq (h : Answering v s obs v₁ s₁ s₂) : s₂.o2c = s.o2c := by
  rw [h.session]
  exact h.deciding.o2c_eq

theorem clientFd_eq (h : Answering v s obs v₁ s₁ s₂) : s₂.clientFd = s.clientFd := by
  rw [h.session]
  exact h.deciding.clientFd_eq

theorem closeAfterFlush_eq (h : Answering v s obs v₁ s₁ s₂) : s₂.closeAfterFlush = false := by
  have hflush := (h.ok.session s h.sess).flush
  have hp := h.deciding.isPast_eq
  rw [h.session]
  show s₁.closeAfterFlush = false
  rw [h.deciding.closeAfterFlush_eq, ← Bool.not_eq_true, hflush]
  intro hd
  rw [hd] at hp
  cases hp

theorem room (h : Answering v s obs v₁ s₁ s₂) : 10 ≤ s₂.o2c.space := by
  rw [h.o2c_eq]
  exact (h.ok.session s h.sess).room h.deciding.isPast_eq (by omega)

theorem has (h : Answering v s obs v₁ s₁ s₂) : v₁.Has s₂ where
  sess := h.sess₂
  client := by rw [h.client]; exact (h.ok.session s h.sess).client
  origin := iff_of_true h.originFd_eq h.origin

end Answering

/-- Answering with a failure reply. -/
theorem does_failDone (h : Answering v s obs v₁ s₁ s₂) {fd : Fd} {rep : UInt8}
    (hobs : Refusal obs rep) (hne : rep ≠ socksRepSucceeded) :
    Does H sid (failDone ⟨fd, sid⟩ rep) v₁ (Answers v s true) E := by
  rw [failDone]
  refine does_bind ((does_failRequest h.has h.room).mono (fun _ v' hf => does_pure ?_)
    fun _ hf => hf)
  rcases hf.cases h.room with ⟨hn, herr⟩ | ⟨s', hs'⟩
  · exact .inr ⟨hn, rfl, h.writeAns ▸ herr⟩
  · refine .inl ⟨s', hs'.has.sess, ?_, hs'.clientFd.trans h.clientFd_eq, .inr rfl,
      hs'.threads.trans h.threads, fun hc => hs'.writeAns (h.writeAns.trans hc.2), fun hst => ?_⟩
    · have hstep : SessionStep .plain v.toSlot _ := step_refused h.sess h.deciding hobs hne h.hist
        h.client h.origin h.idle h.used h.session
      refine Relation.ReflTransGen.tail (.trans (.single hstep) hf.steps) ?_
      exact .booked hs'.has.sess rfl rfl (.inr (by rw [hs'.state]))
    · obtain ⟨n, hn, hle⟩ := hs'.stalled hst
      rw [h.o2c_eq] at hle
      exact ⟨rfl, n, h.writeAns ▸ hn, hle⟩

/-- Answering by dialling. -/
theorem does_dialling (h : Answering v s obs v₁ s₁ s₂) {fd : Fd} (hobs : Probes obs) :
    Does H sid (socksBeginOriginConnect ⟨fd, sid⟩) v₁
      (Answers v s (v₁.dialRefuses s₂.connectAddr s₂.dnsCursor.tail)) E := by
  refine does_beginOriginConnect (by rfl) h.has h.originFd_eq ?_ ?_ ?_
  · intro hnone
    rw [hnone, View.dialRefuses]
    exact does_failDone h (.inl ⟨hobs, .inr (by decide)⟩) (by decide)
  · intro addr rep haddr hout
    rw [haddr, View.dialRefuses]
    simp only [hout]
    obtain ⟨hne, hrefusal⟩ := dial_error hout
    have h' : Answering v s (obs ++ (v₁.dial addr s₂.dnsCursor.tail).obs)
        (v₁.tried s₂ (v₁.dial addr s₂.dnsCursor.tail)) s₁
        { s₂ with
          dnsCursor := s₂.cursorAfter (v₁.dial addr s₂.dnsCursor.tail).addr
            (v₁.dial addr s₂.dnsCursor.tail).others } := {
      sess := h.sess
      ok := h.ok
      deciding := h.deciding
      sess₂ := rfl
      client := h.client
      origin := h.origin
      idle := h.idle
      used := h.used
      hist := by
        show v₁.hist ++ _ = _
        rw [h.hist, List.append_assoc]
      threads := h.threads
      writeAns := by
        rw [← h.writeAns]
        show (v₁.dial addr s₂.dnsCursor.tail).env.write.headD .again = v₁.env.write.headD .again
        rw [View.dial, dial_env]
      session := by rw [h.session] }
    exact does_failDone h' (hrefusal.append hobs (dial_obs_ne_nil _ _ _)) hne
  · intro addr fd' haddr hout hfree hfd'
    rw [haddr, View.dialRefuses]
    simp only [hout]
    refine .inl ⟨_, rfl, .single ?_, h.clientFd_eq, .inl rfl, h.threads, by simp, fun hst => ?_⟩
    · have hall : Probes (obs ++ (v₁.dial addr s₂.dnsCursor.tail).obs) := hobs.append (dial_ok hout)
      have hends : ∃ obs' a rules, obs ++ (v₁.dial addr s₂.dnsCursor.tail).obs =
          obs' ++ [.connect a rules] := by
        obtain ⟨obs', a, rules, heq⟩ := dial_ends hout
        exact ⟨obs ++ obs', a, rules, by rw [List.append_assoc, ← heq]; rfl⟩
      have := @SessionStep.dial _ .plain _ _ _ _ fd' s₂.storeId
        (some (v₁.dial addr s₂.dnsCursor.tail).addr)
        s₂.dnsResult (s₂.cursorAfter (v₁.dial addr s₂.dnsCursor.tail).addr
          (v₁.dial addr s₂.dnsCursor.tail).others) s₂.dnsGaiRc s₂.dnsResolving h.sess h.deciding
            hall hends
      rw [← List.append_assoc, ← h.hist, ← h.client, ← h.idle, ← h.used] at this
      convert this using 1
      rw [View.jumped, View.dialled, View.tried, h.session]
    · rw [SocksSession.stalled, Bool.and_eq_true] at hst
      exact absurd (hst.1.symm.trans h.closeAfterFlush_eq) (by simp)

end Answer

end SocksProxy
