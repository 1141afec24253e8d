import SocksProxy.Socks.Machine
import SocksProxy.Shared.InetText

/-!
# Freed sessions

A callback can close the session it runs for, deep inside the helpers it calls.  The helpers say so
by returning false, and the callers stop; only `socks_fail_request` returns nothing.  Its callers go
on as if the session were there, and the one thing that can remove it is a `write()` of the failure
reply that fails for good.  So three callbacks touch a freed session, each exactly when it refuses a
request and the client is gone.
-/

set_option autoImplicit false

namespace SocksProxy

/-- A call of the selector into a session, or of the main loop into all of them. -/
inductive Callback where
  | read (fd : Fd)
  | write (fd : Fd)
  | block (job : BlockingJob)
  | expireIdle

section

variable [Inet]

/-- What is called. -/
def Callback.program : Callback → SocksM Unit
  | .read fd => dispatchRead fd
  | .write fd => dispatchWrite fd
  | .block job => handleJob job
  | .expireIdle => socksServerExpireIdle

/-- `socks_client_block` refuses a request while the client is gone. -/
def World.deadBlock (w : World) (fd : Fd) : Bool :=
  (w.called .client (fun _ => true) fd).any fun p =>
    decide (stmState p.2 = .resolving) && (view w p.1).refusesBlock p.2 &&
      decide ((view w p.1).writeAns = .error)

/-- The callback refuses a request, and the `write()` of the refusal fails. -/
def Callback.dead (w : World) : Callback → Bool
  | .read fd => w.deadRead fd
  | .write fd => w.deadWrite fd
  | .block job => w.deadBlock job.fd
  | .expireIdle => false

/-- The callbacks that an event in `w` makes, each with the world it finds. -/
inductive Calls (w : World) : Event → World → Callback → Prop
  | readable (fd : Fd) (env : Env) : Calls w (.readable fd env) { w with env := env } (.read fd)
  | writable (fd : Fd) (env : Env) : Calls w (.writable fd env) { w with env := env } (.write fd)
  | expire (env : Env) : Calls w (.expire env) { w with env := env } .expireIdle
  | block {env : Env} {jobs rest : List BlockingJob} {job : BlockingJob} {w₁ : World}
      (queue : w.resolutionJobs = jobs ++ job :: rest)
      (handled : handleJobs jobs { w with env := env } = .ok ((), w₁)) :
      Calls w (.notifications env) w₁ (.block job)

variable {H : Set Fd} {w w₁ : World} {e : Event} {c : Callback} {job : BlockingJob}

/-- A callback finds the process in order. -/
theorem Calls.wf (h : Calls w e w₁ c) (hinv : w.Inv) :
    w₁.Wf Set.univ ∧ ∀ sid, (slot w₁ sid).Ok := by
  cases h with
  | readable fd env => exact ⟨hinv.wf env.handsOut_univ, hinv.slots⟩
  | writable fd env => exact ⟨hinv.wf env.handsOut_univ, hinv.slots⟩
  | expire env => exact ⟨hinv.wf env.handsOut_univ, hinv.slots⟩
  | @block env _ _ _ _ queue handled =>
    obtain ⟨hw₁, hc⟩ := (sat_of_ok handled).1
      (sat_handleJobs (hinv.wf env.handsOut_univ) hinv.slots)
    exact ⟨hw₁, hc.ok hinv.slots⟩

/-- When `handle_block` touches a freed session. -/
theorem handleJob_freed_iff (hw : w.Wf H) (hok : ∀ sid, (slot w sid).Ok) :
    handleJob job w = .error .useAfterFree ↔ w.deadBlock job.fd = true := by
  refine Sat.error_iff ((sat_handleJob hw hok).mono ?_ ?_)
  · rintro _ w' ⟨-, hd⟩
    cases hd with
    | dropped free => simp [World.deadBlock, called_of_none free]
    | @delivered i sid s item sess _ _ unblocks =>
      have hnot : ¬ ((view w sid).refusesBlock s = true ∧ (view w sid).writeAns = .error) :=
        unblocks.notDead
      rw [World.deadBlock, called_of_eq item rfl sess]
      simpa [unblocks.state] using hnot
  · intro f hf
    cases hf with
    | @nullHandler fault item registered handler =>
      obtain ⟨h, i, sid⟩ := item
      rw [World.deadBlock, called_of_ne registered handler, fault]
      exact iff_of_false nofun (by simp)
    | block item sess fault =>
      rw [World.deadBlock, called_of_eq item rfl sess]
      rcases fault with ⟨rfl, hst⟩ | ⟨rfl, hst, hr, he⟩
      · exact iff_of_false nofun (by simp [hst])
      · exact iff_of_true rfl (by simp [hst, hr, he])

/-- When a callback touches a freed session. -/
theorem Callback.freed_iff (hw : w.Wf Set.univ) (hok : ∀ sid, (slot w sid).Ok) :
    c.program w = .error .useAfterFree ↔ c.dead w = true := by
  cases c with
  | read fd =>
    refine Sat.error_iff ((sat_dispatchRead hw hok).mono ?_ ?_)
    · rintro _ w' ⟨-, hdead⟩
      simp [Callback.dead, hdead]
    · rintro f ⟨rfl, hdead⟩
      exact iff_of_true rfl hdead
  | write fd =>
    refine Sat.error_iff ((sat_dispatchWrite hw hok).mono ?_ ?_)
    · rintro _ w' ⟨-, hdead⟩
      simp [Callback.dead, hdead]
    · rintro f ⟨rfl, hdead⟩
      exact iff_of_true rfl hdead
  | block job => exact handleJob_freed_iff hw hok
  | expireIdle =>
    refine Sat.error_iff ((sat_expireIdle hw hok).mono ?_ fun _ hf => hf)
    intro _ w' _
    simp [Callback.dead]

end

/-- **A callback touches a freed session exactly when it refuses a request and the client is gone.**
In every world of every run, for every callback an event can make there: it accesses a session that
was closed under it if and only if it refuses a CONNECT request and the `write()` of the refusal
fails. -/
theorem callback_freed_iff [Inet] (listenFd monitorFd : Fd) (es : List Event) :
    Visits step (fun w => ∀ e w₁ c, Calls w e w₁ c →
      (c.program w₁ = .error .useAfterFree ↔ c.dead w₁ = true))
      (World.boot listenFd monitorFd) es := by
  refine visits_of_reaches (fun w hw e w₁ c hc => ?_) es
  obtain ⟨hw₁, hok₁⟩ := hc.wf (reaches_inv hw)
  exact c.freed_iff hw₁ hok₁

section Runs

attribute [local instance] InetText.inet

/-- The answers for a client that asks for the impossible command and is gone. -/
def goneEnv : Env := { read := [.data [5, 2]], write := [.error] }

/-- A client that is gone is refused. -/
theorem callback_freed_gone :
    ∃ w, run step (World.boot 3 4) greeted = .ok w ∧
      Calls w (.readable 7 goneEnv) { w with env := goneEnv } (.read 7) ∧
      (Callback.read 7).program { w with env := goneEnv } = .error .useAfterFree := by
  obtain ⟨w, hrun, htest⟩ := exists_of_endsIn (r := run step (World.boot 3 4) greeted)
    (show endsIn (fun w => match dispatchRead 7 { w with env := goneEnv } with
      | .ok _ => false
      | .error f => decide (f = .useAfterFree)) _ = true by decide +kernel)
  refine ⟨w, hrun, .readable 7 goneEnv, ?_⟩
  show dispatchRead 7 { w with env := goneEnv } = _
  split at htest
  · cases htest
  · next heq => rw [heq, of_decide_eq_true htest]

end Runs

end SocksProxy
