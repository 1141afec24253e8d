import SocksProxy.Properties.Streams

/-!
# What an end of file leaves behind

When `read()` returns 0 on either socket of a tunnel, both are closed at once.  Whether the other
side was sent everything by then depends on the buffer in between, and the history of the session
tells: a buffer is empty when the last thing that happened to it is a `write()` that took all of it.
`c2o` is also empty when the client sent nothing after its CONNECT request.
-/

set_option autoImplicit false

namespace SocksProxy

/-- The client was sent all the server answered and all the origin sent. -/
def DeliveredDown (t : List Obs) : Prop := clientOut t = replies t ++ originIn t

/-- The origin was sent all that follows the CONNECT request. -/
def DeliveredUp (t : List Obs) : Prop := afterConnect (clientIn t) = some (originOut t)

/-- After the last reply and the last bytes of the origin, a `write()` to the client took all it was
offered. -/
def settledDown (t : List Obs) : Bool := (t.filter Obs.isDown).getLast?.all Obs.complete

/-- After the last bytes of the client, a `write()` to the origin took all it was offered. -/
def settledUp (t : List Obs) : Bool := (t.filter Obs.isUp).getLast?.any Obs.complete

/-- An end of file. -/
def Obs.isEof : Obs → Bool
  | .recv bs => bs.isEmpty
  | .fetched bs => bs.isEmpty
  | _ => false

/-- An open session has met no end of file, and once it was told of its tunnel it is in it. -/
structure Slot.LiveOk (sl : Slot) : Prop where
  live : sl.sess ≠ none → ∀ o ∈ sl.hist, o.isEof = false
  tunnel : ∀ s, sl.sess = some s → Obs.reply (connectReply socksRepSucceeded) ∈ sl.hist →
    stmState s = .relay

namespace Slot.LiveOk

variable {sl sl' : Slot} {s s' : SocksSession}

theorem of_closed (hs : sl.sess = none) : sl.LiveOk where
  live := fun hne => absurd hs hne
  tunnel := fun s hs' => by rw [hs] at hs'; cases hs'

theorem grow {obs : List Obs} (h : sl.LiveOk) (hs : sl.sess = some s) (hs' : sl'.sess = some s')
    (hh : sl'.hist = sl.hist ++ obs) (heof : ∀ o ∈ obs, o.isEof = false)
    (htun : stmState s = .relay ∨ Obs.reply (connectReply socksRepSucceeded) ∈ obs →
      stmState s' = .relay) : sl'.LiveOk where
  live := by
    rw [hh]
    intro _ o ho
    exact (List.mem_append.1 ho).elim (h.live (by simp [hs]) o) (heof o)
  tunnel := by
    rw [hh, hs']
    rintro _ ⟨⟩ hr
    exact htun ((List.mem_append.1 hr).imp_left (h.tunnel s hs))

/-- A step that leaves the state alone. -/
theorem stay {obs : List Obs} (h : sl.LiveOk) (hs : sl.sess = some s) (hs' : sl'.sess = some s')
    (hh : sl'.hist = sl.hist ++ obs) (heof : ∀ o ∈ obs, o.isEof = false)
    (hr : Obs.reply (connectReply socksRepSucceeded) ∉ obs) (hst : stmState s' = stmState s) :
    sl'.LiveOk :=
  h.grow hs hs' hh heof fun hor => hst.trans (hor.resolve_right hr)

/-- A step out of a state that is not the tunnel. -/
theorem leave {obs : List Obs} (h : sl.LiveOk) (hs : sl.sess = some s) (hs' : sl'.sess = some s')
    (hh : sl'.hist = sl.hist ++ obs) (heof : ∀ o ∈ obs, o.isEof = false)
    (hr : Obs.reply (connectReply socksRepSucceeded) ∉ obs) (hst : stmState s ≠ .relay) :
    sl'.LiveOk :=
  h.grow hs hs' hh heof fun hor => absurd (hor.resolve_right hr) hst

end Slot.LiveOk

theorem isEof_of_isProbe {o : Obs} (h : o.isProbe = true) : o.isEof = false := by
  cases o <;> first | rfl | cases h

theorem not_relay_of_isPast {s : SocksSession} (h : (stmState s).isPast = false) :
    stmState s ≠ .relay := fun hr => by rw [hr] at h; cases h

theorem SessionStep.liveOk [Inet] {mode : Mode} {sl sl' : Slot} (h : SessionStep mode sl sl')
    (hok : sl.Ok) (hl : sl.LiveOk) : sl'.LiveOk := by
  cases h with
  | accept fresh =>
    have hnil := hok.fresh fresh
    refine ⟨fun _ o ho => ?_, fun s _ hr => ?_⟩
    · rw [show sl.hist = [] from hnil] at ho
      cases ho
    · rw [show sl.hist = [] from hnil] at hr
      cases hr
  | discard => exact ⟨hl.live, hl.tunnel⟩
  | book sess stm_eq =>
    refine hl.stay sess rfl (List.append_nil _).symm (by simp) (by simp) ?_
    rcases stm_eq with rfl | rfl <;> rfl
  | recv sess ne | fetch sess _ _ _ ne =>
    exact hl.stay sess rfl rfl (by simp [Obs.isEof, ne]) (by simp) rfl
  | greetMore sess | authMore sess | requestMore sess | resolved sess =>
    exact hl.stay sess rfl (List.append_nil _).symm (by simp) (by simp) rfl
  | armClient sess | armOrigin sess =>
    exact hl.stay sess sess (List.append_nil _).symm (by simp) (by simp) rfl
  | send sess | forward sess => exact hl.stay sess rfl rfl (by simp [Obs.isEof]) (by simp) rfl
  | sendBlocked sess | forwardBlocked sess | block _ _ sess =>
    exact hl.stay sess sess rfl (by simp [Obs.isEof]) (by simp) rfl
  | greetAccept sess st | greetReject sess st | authAccept sess st | authReject sess st =>
    exact hl.leave sess rfl rfl (by simp [Obs.isEof]) (by simp [connectReply]) (by simp [st])
  | lookup sess st =>
    exact hl.leave sess rfl rfl (by simp [Obs.isEof]) (by simp) (by simp [st])
  | refuse sess deciding refusal rep_ne =>
    refine hl.leave sess rfl (List.append_assoc ..) (fun o ho => ?_) (fun hr => ?_)
      (not_relay_of_isPast deciding.isPast_eq)
    · rcases List.mem_append.1 ho with ho | ho
      · exact isEof_of_isProbe (refusal.isProbe o ho)
      · rw [List.mem_singleton.1 ho]
        rfl
    · rcases List.mem_append.1 hr with hr | hr
      · cases refusal.isProbe _ hr
      · simp [connectReply] at hr
        exact rep_ne hr.symm
  | dial sess deciding allowed =>
    refine hl.leave sess rfl rfl (fun o ho => isEof_of_isProbe (allowed.isProbe o ho))
      (fun hr => ?_)
      (not_relay_of_isPast deciding.isPast_eq)
    cases allowed.isProbe _ hr
  | connected sess st => exact hl.grow sess rfl rfl (by simp [Obs.isEof]) fun _ => rfl
  | expire sess _ st =>
    exact hl.leave sess rfl rfl (by simp [Obs.isEof])
      (by simp [connectReply, socksRepSucceeded, socksRepTtlExpired]) st
  | close => exact .of_closed rfl

/-! ## The two ends of file -/

/-- What the history of a session that met an end of file says. -/
structure Slot.EofOk (sl : Slot) : Prop where
  origin : ∀ pre, sl.hist = pre ++ [.fetched [], .closed] →
    (DeliveredDown pre ↔ settledDown pre = true)
  client : ∀ pre, sl.hist = pre ++ [.recv [], .closed] →
    Obs.reply (connectReply socksRepSucceeded) ∈ pre →
    (DeliveredUp pre ↔ settledUp pre = true ∨ afterConnect (clientIn pre) = some [])

section

variable {sl : Slot} {s : SocksSession}

/-- A history that ends in an end of file is not that of an open session. -/
theorem Slot.EofOk.of_open (h : sl.LiveOk) (hs : sl.sess ≠ none) : sl.EofOk where
  origin := fun pre hpre => absurd (h.live hs (.fetched []) (by simp [hpre])) (by simp [Obs.isEof])
  client := fun pre hpre => absurd (h.live hs (.recv []) (by simp [hpre])) (by simp [Obs.isEof])

theorem Slot.DownOk.delivered_iff (h : sl.DownOk) (hs : sl.sess = some s) :
    DeliveredDown sl.hist ↔ settledDown sl.hist = true := by
  have hd := h.down s hs
  have hb := hd.balance
  rw [clientOut_down, replies_down, originIn_down] at hb
  rw [DeliveredDown, settledDown, ← hd.settled, ← hb]
  exact List.self_eq_append_right

theorem Slot.UpOk.delivered_iff (h : sl.UpOk) (hs : sl.sess = some s) (hst : stmState s = .relay) :
    DeliveredUp sl.hist ↔
      settledUp sl.hist = true ∨ afterConnect (clientIn sl.hist) = some [] := by
  have hstream := h.stream s hs (.inl (by simp [hst])) []
  obtain ⟨hset, hempty⟩ := h.settled s hs
  rw [toCome_of_not_handshake (congrArg SocksState.isHandshake hst)] at hstream
  simp only [List.append_nil, clientIn_up, originOut_up] at hstream hempty
  rw [DeliveredUp, hstream, Option.some_inj, Option.some_inj, List.append_right_eq_self,
    List.append_eq_nil_iff]
  refine ⟨fun hp => (hempty hp).imp id fun ho => ⟨ho, hp⟩, ?_⟩
  rintro (hc | ⟨-, hp⟩)
  · exact hset hc
  · exact hp

/-- A session that closes on an end of file closes with its history as it was. -/
theorem Ending.eof {why pre : List Obs} {o : Obs} (h : Ending sl s why)
    (hl : ∀ o ∈ sl.hist, o.isEof = false) (ho : o.isEof = true)
    (heq : sl.hist ++ why ++ [.closed] = pre ++ [o, .closed]) : sl.hist = pre := by
  have heq : sl.hist ++ why = pre ++ [o] := by
    rw [← List.append_left_inj [Obs.closed], heq, List.append_assoc]
    rfl
  cases h with
  | plain =>
    have := hl o (by rw [← List.append_nil sl.hist, heq]; simp)
    rw [ho] at this
    cases this
  | clientEof | originEof => exact (List.append_inj' heq rfl).1
  | expired =>
    have := (List.append_inj' heq rfl).2
    cases this
    cases ho

end

theorem SessionStep.eofOk [Inet] {mode : Mode} {sl sl' : Slot} (h : SessionStep mode sl sl')
    (hok : sl.Ok) (hl : sl.LiveOk) (hd : sl.DownOk) (hu : sl.UpOk) (he : sl.EofOk) : sl'.EofOk := by
  have hl' := h.liveOk hok hl
  by_cases hs' : sl'.sess = none
  · cases h with
    | discard => exact ⟨he.origin, he.client⟩
    | close sess ending =>
      have hlive := hl.live (by simp [sess])
      refine ⟨fun pre hpre => ?_, fun pre hpre hr => ?_⟩
      · obtain rfl := ending.eof hlive rfl hpre
        exact hd.delivered_iff sess
      · obtain rfl := ending.eof hlive rfl hpre
        exact hu.delivered_iff sess (hl.tunnel _ sess hr)
    | sendBlocked sess | forwardBlocked sess | armClient sess | armOrigin sess | block _ _ sess =>
      rw [show sl.sess = none from hs'] at sess
      cases sess
    | _ => cases hs'
  · exact .of_open hl' hs'

/-- **An end of file delivers everything exactly when the buffers are settled.**  In every run: a
session closed by the end of its origin's stream had sent its client everything if and only if the
last thing that happened to `o2c` was a `write()` that took all of it; a tunnel closed by the end of
its client's stream had sent the origin everything if and only if the last thing that happened to
`c2o` was such a `write()`, or the client sent nothing after its request. -/
theorem eof_delivers_iff [Inet] (listenFd monitorFd : Fd) (es : List Event) :
    Visits step (fun w => ∀ sid pre,
      (w.hist sid = pre ++ [.fetched [], .closed] → (DeliveredDown pre ↔ settledDown pre = true)) ∧
        (w.hist sid = pre ++ [.recv [], .closed] →
          Obs.reply (connectReply socksRepSucceeded) ∈ pre →
          (DeliveredUp pre ↔ settledUp pre = true ∨ afterConnect (clientIn pre) = some [])))
      (World.boot listenFd monitorFd) es := by
  refine visits_of_reaches (fun w hw sid pre => ?_) es
  have hall : ((slot w sid).LiveOk ∧ (slot w sid).DownOk ∧ (slot w sid).UpOk) ∧
      (slot w sid).EofOk := by
    refine slots_of_reaches (P := fun sl => (sl.LiveOk ∧ sl.DownOk ∧ sl.UpOk) ∧ sl.EofOk)
      (fun hstep hok hp => ?_) ?_ hw sid
    · obtain ⟨⟨hl, hd, hu⟩, he⟩ := hp
      exact ⟨⟨hstep.liveOk hok hl, hstep.downOk hok hd, hstep.upOk hok hu⟩,
        hstep.eofOk hok hl hd hu he⟩
    · exact ⟨⟨.of_closed rfl, .unused, .unused⟩, fun pre h => by simp [Slot.unused] at h,
        fun pre h => by simp [Slot.unused] at h⟩
  exact ⟨hall.2.origin pre, hall.2.client pre⟩

section Runs

attribute [local instance] InetText.inet

/-- The origin sends three bytes that the client does not take, and ends its stream. -/
def originGone : List Event :=
  tunnelled ++ [.readable 8 { read := [.data [1, 2, 3]], write := [.again] },
    .readable 8 { read := [.data []] }]

/-- The client sends three bytes that the origin does not take, and ends its stream. -/
def clientGone : List Event :=
  tunnelled ++ [.readable 7 { read := [.data [1, 2, 3]], write := [.again] },
    .readable 7 { read := [.data []] }]

/-- The history before its last two entries. -/
def cut (t : List Obs) : List Obs := t.take (t.length - 2)

/-- An end of file of the origin. -/
def isOriginEof : List Obs → Bool
  | [.fetched [], .closed] => true
  | _ => false

/-- An end of file of the client. -/
def isClientEof : List Obs → Bool
  | [.recv [], .closed] => true
  | _ => false

/-- The client was told of its tunnel. -/
def tellsTunnel (t : List Obs) : Bool :=
  t.any fun | .reply bs => decide (bs = connectReply socksRepSucceeded) | _ => false

/-- Both ends of file lose bytes. -/
theorem eof_loses_bytes :
    (∃ w pre, run step (World.boot 3 4) originGone = .ok w ∧
      w.hist 0 = pre ++ [.fetched [], .closed] ∧ ¬ DeliveredDown pre) ∧
    (∃ w pre, run step (World.boot 3 4) clientGone = .ok w ∧
      w.hist 0 = pre ++ [.recv [], .closed] ∧
        Obs.reply (connectReply socksRepSucceeded) ∈ pre ∧ ¬ DeliveredUp pre) := by
  constructor
  · obtain ⟨w, hrun, htest⟩ := exists_of_endsIn (r := run step (World.boot 3 4) originGone)
      (show endsIn (fun w => isOriginEof ((w.hist 0).drop ((w.hist 0).length - 2)) &&
        decide (clientOut (cut (w.hist 0)) ≠ replies (cut (w.hist 0)) ++ originIn (cut (w.hist 0))))
        _ = true by decide +kernel)
    rw [Bool.and_eq_true, decide_eq_true_eq] at htest
    refine ⟨w, cut (w.hist 0), hrun, ?_, htest.2⟩
    have heof := htest.1
    unfold isOriginEof at heof
    split at heof
    · next hdrop => rw [← hdrop, cut, List.take_append_drop]
    · cases heof
  · obtain ⟨w, hrun, htest⟩ := exists_of_endsIn (r := run step (World.boot 3 4) clientGone)
      (show endsIn (fun w => isClientEof ((w.hist 0).drop ((w.hist 0).length - 2)) &&
        (tellsTunnel (cut (w.hist 0)) &&
        decide (afterConnect (clientIn (cut (w.hist 0))) ≠ some (originOut (cut (w.hist 0))))))
        _ = true by decide +kernel)
    rw [Bool.and_eq_true, Bool.and_eq_true, decide_eq_true_eq] at htest
    obtain ⟨heof, htell, hlost⟩ := htest
    refine ⟨w, cut (w.hist 0), hrun, ?_, ?_, hlost⟩
    · unfold isClientEof at heof
      split at heof
      · next hdrop => rw [← hdrop, cut, List.take_append_drop]
      · cases heof
    · obtain ⟨o, ho, ht⟩ := List.any_eq_true.1 htell
      split at ht
      · next bs => rw [← of_decide_eq_true ht]; exact ho
      · cases ht

end Runs

end SocksProxy
