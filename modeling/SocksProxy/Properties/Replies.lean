import SocksProxy.Lib.Histories
import SocksProxy.Properties.Streams

/-!
# What the server says

The server answers the greeting, the credentials and the CONNECT request, each once and in this
order; `ServerWord` lists what a whole conversation can be.  The hooks of the states keep to it.
`socks_expire_session_pre_relay` does not: it answers a CONNECT request in whatever state it finds
the session, so a client that has not finished the handshake, or was already refused, is told more
than the protocol has words for.
-/

set_option autoImplicit false

namespace SocksProxy

/-- What the server can say to a client, up to the tunnel. -/
inductive ServerWord : Bytes → Prop
  | noMethod : ServerWord [0x05, 0xFF]
  | noAuth (rep : UInt8) : ServerWord ([0x05, 0x00] ++ connectReply rep)
  | badAuth : ServerWord ([0x05, 0x02] ++ [0x01, 0x01])
  | auth (rep : UInt8) : ServerWord ([0x05, 0x02] ++ [0x01, 0x00] ++ connectReply rep)

/-- What the server said is the beginning of a word. -/
def Grammatical (t : List Obs) : Prop := ∃ word, ServerWord word ∧ replies t <+: word

/-- The states in which an expiry has a CONNECT reply to give, or none to give. -/
def SocksState.mayExpire : SocksState → Bool
  | .request => true
  | .resolving => true
  | .originConnecting => true
  | .relay => true
  | _ => false

/-- The session was not expired in `SOCKS_ST_AUTH_GREETING`, `SOCKS_ST_AUTH_USERPASS` or
`SOCKS_ST_DONE`. -/
def Timely (t : List Obs) : Prop := ∀ st, Obs.expired st ∈ t → st.mayExpire = true

/-- What the server has said to a session, given its state. -/
def SocksState.Said : SocksState → Bytes → Prop
  | .authGreeting, r => r = []
  | .authUserpass, r => r = [0x05, 0x02]
  | .relay, r => ServerWord r
  | .done, r => ServerWord r
  | _, r => r = [0x05, 0x00] ∨ r = [0x05, 0x02] ++ [0x01, 0x00]

section

variable {st : SocksState} {r bs : Bytes} {t t' : List Obs}

theorem SocksState.Said.word (h : st.Said r) : ∃ word, ServerWord word ∧ r <+: word := by
  have hpre : r = [0x05, 0x00] ∨ r = [0x05, 0x02] ++ [0x01, 0x00] →
      ∃ word, ServerWord word ∧ r <+: word := by
    rintro (rfl | rfl)
    · exact ⟨_, .noAuth 0, List.prefix_append ..⟩
    · exact ⟨_, .auth 0, List.prefix_append ..⟩
  cases st with
  | authGreeting => exact ⟨_, .noMethod, by rw [show r = [] from h]; exact List.nil_prefix⟩
  | authUserpass => exact ⟨_, .badAuth, by rw [show r = _ from h]; exact List.prefix_append ..⟩
  | request => exact hpre h
  | resolving => exact hpre h
  | originConnecting => exact hpre h
  | relay => exact ⟨r, h, List.prefix_rfl⟩
  | done => exact ⟨r, h, List.prefix_rfl⟩

/-- Where a CONNECT request can be answered, the answer completes a word. -/
theorem SocksState.Said.reply (h : st.Said r) (hst : st.isPast = false) (hst' : st.mayExpire = true)
    (rep : UInt8) : ServerWord (r ++ connectReply rep) := by
  have hpre : r = [0x05, 0x00] ∨ r = [0x05, 0x02] ++ [0x01, 0x00] := by
    cases st with
    | authGreeting | authUserpass => cases hst'
    | relay | done => cases hst
    | request | resolving | originConnecting => exact h
  rcases hpre with rfl | rfl
  · exact .noAuth rep
  · exact .auth rep

/-- A word is not the beginning of another. -/
theorem ServerWord.eq_nil_of_append {word : Bytes} (h : ServerWord r) (hw : ServerWord word)
    (hle : r ++ bs <+: word) : bs = [] := by
  cases h <;> cases hw <;> simp_all [connectReply]

/-- Anywhere else, an expiry says one thing too many. -/
theorem SocksState.Said.not_expired (h : st.Said r) (hst : st.mayExpire = false) :
    ¬ ∃ word, ServerWord word ∧ r ++ connectReply socksRepTtlExpired <+: word := by
  rintro ⟨word, hword, hle⟩
  cases st with
  | authGreeting =>
    rw [show r = [] from h] at hle
    cases hword <;> simp [connectReply, socksRepTtlExpired] at hle
  | authUserpass =>
    rw [show r = _ from h] at hle
    cases hword <;> simp [connectReply, socksRepTtlExpired] at hle
  | done =>
    have hnil := ServerWord.eq_nil_of_append h hword hle
    cases hnil
  | request | resolving | originConnecting | relay => cases hst

theorem Grammatical.of_append (h : Grammatical (t ++ t')) : Grammatical t := by
  obtain ⟨word, hword, hle⟩ := h
  rw [replies_append] at hle
  exact ⟨word, hword, (List.prefix_append ..).trans hle⟩

theorem Timely.of_append (h : Timely (t ++ t')) : Timely t :=
  fun st hst => h st (List.mem_append_left _ hst)

theorem Timely.append (h : Timely t) (h' : Timely t') : Timely (t ++ t') := fun st hst =>
  (List.mem_append.1 hst).elim (h st) (h' st)

end

/-- The server said what it should if and only if the session was not expired out of turn. -/
structure Slot.SpeechOk (sl : Slot) : Prop where
  said : ∀ s, sl.sess = some s → Timely sl.hist → (stmState s).Said (replies sl.hist)
  exact : Grammatical sl.hist ↔ Timely sl.hist

namespace Slot.SpeechOk

variable {sl sl' : Slot} {s s' : SocksSession} {obs : List Obs}

/-- A step that does not expire the session. -/
theorem grow (h : sl.SpeechOk) (hs : sl.sess = some s) (hs' : sl'.sess = some s')
    (hh : sl'.hist = sl.hist ++ obs) (hobs : Timely obs)
    (hsaid : (stmState s).Said (replies sl.hist) →
      (stmState s').Said (replies sl.hist ++ replies obs)) : sl'.SpeechOk := by
  have hsaid' : Timely sl'.hist → (stmState s').Said (replies sl'.hist) := by
    rw [hh, replies_append]
    intro ht
    exact hsaid (h.said s hs ht.of_append)
  refine ⟨fun s₁ hs₁ => ?_, fun hg => ?_, fun ht => (hsaid' ht).word⟩
  · rw [hs'] at hs₁
    cases hs₁
    exact hsaid'
  · rw [hh] at hg ⊢
    exact (h.exact.1 hg.of_append).append hobs

/-- A step that says nothing. -/
theorem silent (h : sl.SpeechOk) (hs : sl.sess = some s) (hs' : sl'.sess = some s')
    (hh : sl'.hist = sl.hist ++ obs) (hobs : Timely obs) (hr : replies obs = [])
    (hst : (stmState s).Said (replies sl.hist) → (stmState s').Said (replies sl.hist)) :
    sl'.SpeechOk := by
  refine h.grow hs hs' hh hobs ?_
  rw [hr, List.append_nil]
  exact hst

/-- The session is closed. -/
theorem close (h : sl.SpeechOk) (hs' : sl'.sess = none) (hh : sl'.hist = sl.hist ++ obs)
    (hobs : Timely obs) (hr : replies obs = []) : sl'.SpeechOk := by
  refine ⟨fun s hs => absurd hs (by simp [hs']), ?_⟩
  rw [hh]
  have heq : Grammatical (sl.hist ++ obs) ↔ Grammatical sl.hist := by
    rw [Grammatical, Grammatical, replies_append, hr, List.append_nil]
  rw [heq, h.exact]
  exact ⟨fun ht => ht.append hobs, Timely.of_append⟩

end Slot.SpeechOk

theorem timely_probes {obs : List Obs} (h : ∀ o ∈ obs, o.isProbe = true) : Timely obs :=
  fun _ hst => by cases h _ hst

theorem replies_probes {obs : List Obs} (h : ∀ o ∈ obs, o.isProbe = true) : replies obs = [] := by
  rw [← replies_down, filter_probes isDown_not_probe h]
  rfl

theorem timely_of_none {obs : List Obs} (h : ∀ st, Obs.expired st ∉ obs) : Timely obs :=
  fun st hst => absurd hst (h st)

theorem Deciding.mayExpire {s s₁ : SocksSession} (h : Deciding s s₁) :
    (stmState s).mayExpire = true := by
  cases h with
  | request st => rw [st]; rfl
  | resolving st => rw [st]; rfl
  | connecting st => rw [st]; rfl

theorem Deciding.said {s s₁ : SocksSession} {r : Bytes} (h : Deciding s s₁)
    (hs : (stmState s).Said r) : SocksState.originConnecting.Said r := by
  cases h with
  | request st => rw [st] at hs; exact hs
  | resolving st => rw [st] at hs; exact hs
  | connecting st => rw [st] at hs; exact hs

theorem SessionStep.speechOk [Inet] {mode : Mode} {sl sl' : Slot} (h : SessionStep mode sl sl')
    (hok : sl.Ok) (hp : sl.SpeechOk) : sl'.SpeechOk := by
  cases h with
  | accept fresh =>
    refine ⟨?_, hp.exact⟩
    rintro s ⟨⟩ -
    show replies sl.hist = []
    rw [hok.fresh fresh]
    rfl
  | discard => exact ⟨hp.said, hp.exact⟩
  | book sess stm_eq =>
    refine hp.silent sess rfl (List.append_nil _).symm nofun rfl ?_
    rcases stm_eq with rfl | rfl <;> exact id
  | greetMore sess | authMore sess | requestMore sess | resolved sess =>
    exact hp.silent sess rfl (List.append_nil _).symm nofun rfl id
  | armClient sess | armOrigin sess =>
    exact hp.silent sess sess (List.append_nil _).symm nofun rfl id
  | recv sess | send sess | forward sess | fetch sess =>
    exact hp.silent sess rfl rfl (timely_of_none (by simp)) rfl id
  | sendBlocked sess | forwardBlocked sess | block _ _ sess =>
    exact hp.silent sess sess rfl (timely_of_none (by simp)) rfl id
  | @greetAccept s _ _ p sess st pending feed =>
    refine hp.grow sess rfl rfl (timely_of_none (by simp)) fun hs => ?_
    rw [st] at hs
    rw [show replies sl.hist = [] from hs]
    show SocksState.Said (if p.chosenMethod = socksMethodUserpass then _ else _)
      [0x05, p.chosenMethod]
    split
    · next hm => rw [hm]; rfl
    · next hm => rw [(chosenMethod_of_accept feed).resolve_left hm]; exact .inl rfl
  | greetReject sess st =>
    refine hp.grow sess rfl rfl (timely_of_none (by simp)) fun hs => ?_
    rw [st] at hs
    rw [show replies sl.hist = [] from hs]
    exact .noMethod
  | authAccept sess st =>
    refine hp.grow sess rfl rfl (timely_of_none (by simp)) fun hs => ?_
    rw [st] at hs
    rw [show replies sl.hist = _ from hs]
    exact .inr rfl
  | authReject sess st =>
    refine hp.grow sess rfl rfl (timely_of_none (by simp)) fun hs => ?_
    rw [st] at hs
    rw [show replies sl.hist = _ from hs]
    exact .badAuth
  | refuse sess deciding refusal =>
    refine hp.grow sess rfl (List.append_assoc ..) ?_ fun hs => ?_
    · exact (timely_probes refusal.isProbe).append (timely_of_none (by simp))
    · rw [replies_append, replies_probes refusal.isProbe]
      exact hs.reply deciding.isPast_eq deciding.mayExpire _
  | lookup sess st =>
    refine hp.silent sess rfl rfl (timely_of_none (by simp)) rfl fun hs => ?_
    rw [st] at hs
    exact hs
  | dial sess deciding allowed =>
    have hprobe := allowed.isProbe
    exact hp.silent sess rfl rfl (timely_probes hprobe) (replies_probes hprobe) deciding.said
  | connected sess st =>
    refine hp.grow sess rfl rfl (timely_of_none (by simp)) fun hs => ?_
    rw [st] at hs
    exact hs.reply rfl rfl _
  | @expire s sess idle st =>
    cases hm : (stmState s).mayExpire with
    | true =>
      refine hp.grow sess rfl rfl (by simp [Timely, hm]) fun hs => hs.reply ?_ hm _
      cases hst : stmState s <;> simp_all [SocksState.isPast, SocksState.mayExpire]
    | false =>
      have hlate : ¬ Timely (sl.hist ++
          [.expired (stmState s), .reply (connectReply socksRepTtlExpired)]) := by
        intro ht
        have := ht (stmState s) (by simp)
        rw [hm] at this
        cases this
      refine ⟨fun _ _ ht => absurd ht hlate, iff_of_false (fun hg => ?_) hlate⟩
      have ht := hp.exact.1 hg.of_append
      obtain ⟨word, hword, hle⟩ := hg
      rw [replies_append] at hle
      exact (hp.said s sess ht).not_expired hm ⟨word, hword, hle⟩
  | close sess ending =>
    refine hp.close rfl (List.append_assoc ..) ?_ ?_
    · cases ending <;> simp [Timely, SocksState.mayExpire]
    · cases ending <;> rfl

/-- **The server speaks its protocol exactly as long as no session expires out of turn.**  In every
run, what the server itself said to a session is at every moment the beginning of a word of its
grammar, if and only if the session was never found due in `SOCKS_ST_AUTH_GREETING`,
`SOCKS_ST_AUTH_USERPASS` or `SOCKS_ST_DONE`. -/
theorem replies_grammatical_iff [Inet] (listenFd monitorFd : Fd) (es : List Event) :
    Visits step (fun w => ∀ sid,
      (∀ t, t <+: w.hist sid → Grammatical t) ↔ Timely (w.hist sid))
      (World.boot listenFd monitorFd) es := by
  refine visits_of_reaches (fun w hw sid => ?_) es
  have hp : (slot w sid).SpeechOk := by
    refine slots_of_reaches (fun hstep hok hp => hstep.speechOk hok hp) ⟨?_, ?_⟩ hw sid
    · rintro s ⟨⟩
    · exact iff_of_true (show SocksState.authGreeting.Said [] from rfl).word
        (timely_of_none (by simp [Slot.unused]))
  refine ⟨fun h => hp.exact.1 (h _ List.prefix_rfl), fun ht t hle => ?_⟩
  obtain ⟨rest, hrest⟩ := hle
  have hg := hp.exact.2 ht
  rw [show (slot w sid).hist = t ++ rest from hrest.symm] at hg
  exact hg.of_append

section Runs

attribute [local instance] InetText.inet

/-- A client connects and says nothing, until its time is up. -/
def timedOut : List Event :=
  [.admin (.config .timeout 60 true), .readable 3 { accept := [some 7] }, .tick 60, .expire {}]

/-- The first thing this client hears is a CONNECT reply. -/
theorem replies_ungrammatical_timedOut :
    ∃ w, run step (World.boot 3 4) timedOut = .ok w ∧ ¬ Grammatical (w.hist 0) := by
  obtain ⟨w, hrun, htest⟩ := exists_of_endsIn (r := run step (World.boot 3 4) timedOut)
    (show endsIn (fun w => decide (replies (w.hist 0) = connectReply socksRepTtlExpired)) _ = true
      by decide +kernel)
  refine ⟨w, hrun, fun hg => ?_⟩
  rw [Grammatical, of_decide_eq_true htest] at hg
  exact (show SocksState.authGreeting.Said [] from rfl).not_expired rfl hg

end Runs

end SocksProxy
