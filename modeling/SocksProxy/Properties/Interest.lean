import SocksProxy.Socks.Machine
import SocksProxy.Shared.InetText

/-!
# What holds between two callbacks

Two promises the callbacks keep to each other.  In the tunnel, the interest registered for each
socket is the one the buffers call for, so that whatever can move is waited for.  And a session that
was refused does not outlive its last reply: no callback leaves it open with nothing to send.

Both are broken.  `socks_client_write` drains `o2c` without arming the origin again, so a tunnel
whose `o2c` was full stays deaf to the origin (`World.InterestsInStep` fails).  The retry branch of
`socks_origin_connect_complete` does not call `socks_close_if_flushed`, and neither does
`socks_origin_read` (`World.NoneStalled` fails).  The theorems say that there is no other way.
-/

set_option autoImplicit false

namespace SocksProxy

section Theorems

variable [Inet]

/-! ## The interests of a tunnel -/

omit [Inet] in
/-- Every open session in `SOCKS_ST_RELAY` has the interests its buffers call for. -/
def World.InterestsInStep (w : World) : Prop :=
  ∀ sid s, w.sessions sid = some s → stmState s = .relay →
    (w.fds s.clientFd).map Item.interest = some (socksClientInterest s) ∧
      (s.originFd.bind w.fds).map Item.interest = some (socksOriginInterest s)

omit [Inet] in
/-- The origin of a tunnel is waited for whenever there is room for what it sends or something to
send to it. -/
def World.TunnelsAwake (w : World) : Prop :=
  ∀ sid s, w.sessions sid = some s → stmState s = .relay →
    ∃ i, (s.originFd.bind w.fds).map Item.interest = some i ∧
      (s.o2c.canWrite = true → i.read = true) ∧ (s.c2o.canRead = true → i.write = true)

omit [Inet] in
/-- What is registered for a client, as the session's slot has it. -/
theorem interest_of_client {w : World} {sid : Sid} {s : SocksSession} {i : FdInterest}
    (hs : w.sessions sid = some s) (hc : (slot w sid).client = some i) :
    (w.fds s.clientFd).map Item.interest = some i := by
  rw [fds_of_client hs hc]
  rfl

omit [Inet] in
/-- What is registered for an origin, as the session's slot has it. -/
theorem interest_of_origin {w : World} {sid : Sid} {s : SocksSession} {i : FdInterest}
    (hs : w.sessions sid = some s) (ho : (slot w sid).origin = some i) :
    (s.originFd.bind w.fds).map Item.interest = some i := by
  have hor : (w.sessions sid).bind (fun s => s.originFd.bind (w.interestOf .origin sid)) =
    some i := ho
  rw [hs, Option.bind_some] at hor
  cases hfd : s.originFd with
  | none => rw [hfd] at hor; cases hor
  | some fd =>
    rw [Option.bind_some, fds_of_origin hs hfd ho]
    rfl

omit [Inet] in
theorem interestsInStep_of_synced {w : World} (h : ∀ sid, (slot w sid).Synced) :
    w.InterestsInStep := fun sid s hs hst =>
  ⟨interest_of_client hs (h sid s hs hst).1, interest_of_origin hs (h sid s hs hst).2⟩

omit [Inet] in
theorem World.InterestsInStep.awake {w : World} (h : w.InterestsInStep) : w.TunnelsAwake := by
  intro sid s hs hst
  refine ⟨_, (h sid s hs hst).2, fun hw => ?_, fun hr => ?_⟩
  · rw [socksOriginInterest]
    simp [hw]
  · rw [socksOriginInterest]
    simp [hr]

/-- **The tunnel is never deaf, unless `socks_client_write` drains a full `o2c`.**  In every run in
which no `write()` of `socks_client_write` takes bytes out of a full `o2c` of a session in
`SOCKS_ST_RELAY`, every world has the interests the buffers call for. -/
theorem interests_in_step_along (listenFd monitorFd : Fd) (es : List Event)
    (h : Along step (fun w e => e.lags w = false) (World.boot listenFd monitorFd) es) :
    Visits step (fun w => w.InterestsInStep ∧ w.TunnelsAwake) (World.boot listenFd monitorFd) es := by
  have hvisits : Visits step (fun w => ∀ sid, (slot w sid).Synced)
      (World.boot listenFd monitorFd) es := by
    refine visits_of_along (I := World.Inv) (fun w e w' hinv hstep => (step_acts hinv hstep).1)
      (fun w e w' hinv hsync hlag hstep sid => ?_) (boot_inv ..) (fun sid => ?_) h
    · exact ((step_acts hinv hstep).2 sid).synced hlag (hsync sid)
    · exact synced_of_none rfl
  refine hvisits.mono fun w hw => ?_
  have hstep := interestsInStep_of_synced hw
  exact ⟨hstep, hstep.awake⟩

/-! ## Sessions that were refused -/

omit [Inet] in
/-- No open session waits to be closed with nothing left to send. -/
def World.NoneStalled (w : World) : Prop :=
  ∀ sid s, w.sessions sid = some s → ¬ (s.closeAfterFlush = true ∧ s.o2c.pending = [])

/-- **A refused session is closed with its last byte, unless one of two callbacks forgets it.**  In
every run in which no retry of `socks_origin_connect_complete` fails with its reply sent at once,
and no `socks_origin_read` sends the rest of a refused session's `o2c`, no world has a session that
waits to be closed with nothing left to send. -/
theorem none_stalled_along (listenFd monitorFd : Fd) (es : List Event)
    (h : Along step (fun w e => e.stalls w = false) (World.boot listenFd monitorFd) es) :
    Visits step World.NoneStalled (World.boot listenFd monitorFd) es := by
  have hvisits : Visits step (fun w => ∀ sid, ¬ (slot w sid).Stalled)
      (World.boot listenFd monitorFd) es := by
    refine visits_of_along (I := World.Inv) (fun w e w' hinv hstep => (step_acts hinv hstep).1)
      (fun w e w' hinv hnone hstall hstep sid => ?_) (boot_inv ..) (fun sid => ?_) h
    · exact ((step_acts hinv hstep).2 sid).unstalled hstall (hnone sid)
    · exact not_stalled_of_none rfl
  refine hvisits.mono fun w hw sid s hs hst => hw sid ⟨s, hs, ?_⟩
  simp [SocksSession.stalled, hst.1, s.o2c.canRead_eq_false_iff.2 hst.2]

end Theorems

section Runs

attribute [local instance] InetText.inet

/-! ## Concrete runs -/

/-- A tunnel whose `o2c` was filled by the origin while the client took nothing, and then drained by
one byte. -/
def deafened : List Event :=
  tunnelled ++ [.readable 8 { read := [.data (List.replicate 4096 0)], write := [.again] },
    .writable 7 { write := [.ok 1] }]

/-- A name with two addresses: the first connection fails, and there is no socket for the second. -/
def stalled : List Event :=
  greeted ++ [.readable 7 { read := [.data [5, 1, 0, 3, 1, 97, 0, 80]] },
    .resolved 0 .ok homes true,
    .notifications { socket := [some 8] },
    .writable 8 { soError := [some .connRefused], socket := [none], write := [.ok 10] }]

theorem interests_in_step_tunnelled :
    Along step (fun w e => e.lags w = false) (World.boot 3 4) tunnelled ∧
      Visits step (fun w => w.InterestsInStep ∧ w.TunnelsAwake) (World.boot 3 4) tunnelled :=
  have h : Along step (fun w e => e.lags w = false) (World.boot 3 4) tunnelled :=
    along_of_meets (by decide +kernel)
  ⟨h, interests_in_step_along 3 4 tunnelled h⟩

/-- The origin of this tunnel has room for what it would send, and nobody waits for it. -/
theorem interests_out_of_step_deafened :
    ∃ w, run step (World.boot 3 4) deafened = .ok w ∧ ¬ w.InterestsInStep ∧ ¬ w.TunnelsAwake := by
  obtain ⟨w, hrun, hdeaf⟩ := exists_of_endsIn (r := run step (World.boot 3 4) deafened)
    (show endsIn (fun w => (w.sessions 0).any fun s => decide (stmState s = .relay) &&
      s.o2c.canWrite && decide ((s.originFd.bind w.fds).map Item.interest = some opNoop)) _ = true
      by decide +kernel)
  obtain ⟨s, hs, hdeaf⟩ := (Option.any_eq_true ..).1 hdeaf
  simp only [Bool.and_eq_true, decide_eq_true_eq] at hdeaf
  have hasleep : ¬ w.TunnelsAwake := by
    intro h
    obtain ⟨i, hi, hread, -⟩ := h 0 s hs hdeaf.1.1
    rw [hdeaf.2] at hi
    cases hi
    cases hread hdeaf.1.2
  exact ⟨w, hrun, fun h => hasleep h.awake, hasleep⟩

theorem none_stalled_tunnelled :
    Along step (fun w e => e.stalls w = false) (World.boot 3 4) tunnelled ∧
      Visits step World.NoneStalled (World.boot 3 4) tunnelled :=
  have h : Along step (fun w e => e.stalls w = false) (World.boot 3 4) tunnelled :=
    along_of_meets (by decide +kernel)
  ⟨h, none_stalled_along 3 4 tunnelled h⟩

/-- The reply to this client is out, and its connection stays. -/
theorem some_stalled_retry :
    ∃ w, run step (World.boot 3 4) stalled = .ok w ∧ ¬ w.NoneStalled := by
  obtain ⟨w, hrun, hstalled⟩ := exists_of_endsIn (r := run step (World.boot 3 4) stalled)
    (show endsIn (fun w => (w.sessions 0).any fun s => s.closeAfterFlush &&
      decide (s.o2c.pending = [])) _ = true by decide +kernel)
  obtain ⟨s, hs, hstalled⟩ := (Option.any_eq_true ..).1 hstalled
  simp only [Bool.and_eq_true, decide_eq_true_eq] at hstalled
  exact ⟨w, hrun, fun h => h 0 s hs hstalled⟩

end Runs

end SocksProxy
