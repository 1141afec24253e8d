import SocksProxy.Socks.Machine

/-!
# The replies of the server find room

What the server itself says is put behind what is already waiting in the buffer towards the client,
by `socks_o2c_append`, and that buffer is never compacted for it.  Every caller provides for the
case in which the reply does not fit, by unregistering a descriptor; two of them would take the
origin's for the client's.

None of these branches is ever taken.  Until the tunnel is open nothing but replies goes into the
buffer, and they are few: the method, the answer to the password, one reply to the request, and
the reply of an expiry, which is the last one.  That is the bound kept by `Slot.Ok`, and a buffer
has at least 1024 bytes whatever the administrator configures.

An environment can assert that a reply finds room (`Env.asserts`): then the first one that does not
stops the process with `noRoom`.  No run of the proxy stops so.
-/

set_option autoImplicit false

namespace SocksProxy

/-! ## What is asserted -/

section Append

variable {sid : Sid} {data : Bytes} {w : World}

/-- A reply finds no room. -/
def World.Lacks (w : World) (sid : Sid) (data : Bytes) : Prop :=
  ∃ s, w.sessions sid = some s ∧ s.o2c.space < data.length

/-- A reply that finds no room is refused, or stops the process where that is asserted. -/
theorem o2cAppend_of_lacks (h : w.Lacks sid data) :
    socksO2cAppend sid data w =
      if w.env.asserts = true then .error .noRoom else .ok (false, w) := by
  obtain ⟨s, hs, hroom⟩ := h
  rw [socksO2cAppend, bind_of_ok (show deref sid w = .ok (s, w) by rw [deref, hs]), if_pos hroom]
  cases ha : w.env.asserts with
  | true =>
    show (if w.env.asserts = true then _ else _ : SocksM Bool) w = _
    rw [ha]
    rfl
  | false =>
    show (if w.env.asserts = true then _ else _ : SocksM Bool) w = _
    rw [ha]
    rfl

/-- One that finds room is put into the buffer. -/
theorem o2cAppend_of_not_lacks (h : ¬ w.Lacks sid data) {s : SocksSession}
    (hs : w.sessions sid = some s) : ∃ w', socksO2cAppend sid data w = .ok (true, w') := by
  have hroom : ¬ s.o2c.space < data.length := fun hroom => h ⟨s, hs, hroom⟩
  rw [socksO2cAppend, bind_of_ok (show deref sid w = .ok (s, w) by rw [deref, hs]), if_neg hroom]
  exact ⟨_, bind_of_ok (by rw [assign, hs])⟩

end Append

/-! ## No step fails the assertion -/

section Steps

variable [Inet] {w w' : World} {e : Event} {f : Fault}

theorem JobFault.ne_noRoom {job : BlockingJob} (h : JobFault w job f) : f ≠ .noRoom := by
  rcases h with rfl | ⟨-, -, ⟨rfl, -⟩ | ⟨rfl, -⟩⟩ <;> exact nofun

/-- **From a world in order, no step runs out of room.** -/
theorem World.Inv.step_ne_noRoom (hinv : w.Inv) (h : step w e = .error f) : f ≠ .noRoom := by
  cases e with
  | readable fd env =>
    have hsat : Sat (Event.program (.readable fd env)) w _ _ := (sat_bind ..).2 ((sat_modify _).2
      (sat_dispatchRead (hinv.wf env.handsOut_univ) hinv.slots))
    rw [(fault_of_sat hsat h).1]
    exact nofun
  | writable fd env =>
    have hsat : Sat (Event.program (.writable fd env)) w _ _ := (sat_bind ..).2 ((sat_modify _).2
      (sat_dispatchWrite (hinv.wf env.handsOut_univ) hinv.slots))
    rw [(fault_of_sat hsat h).1]
    exact nofun
  | resolved i rc result posted =>
    have hsat : Sat (Event.program (.resolved i rc result posted)) w _ _ := sat_dnsThread
    rw [(fault_of_sat hsat h).1]
    exact nofun
  | notifications env =>
    have hsat : Sat (Event.program (.notifications env)) w _ _ := (sat_bind ..).2
      ((sat_modify _).2 (sat_notifications (hinv.wf env.handsOut_univ) hinv.slots))
    obtain ⟨w₁, job, hfault⟩ := fault_of_sat hsat h
    exact hfault.ne_noRoom
  | expire env =>
    have hsat : Sat (Event.program (.expire env)) w _ (fun _ => False) := (sat_bind ..).2
      ((sat_modify _).2 (sat_expireIdle (hinv.wf env.handsOut_univ) hinv.slots))
    exact (fault_of_sat hsat h).elim
  | tick n => cases h
  | admin op => cases h
  | monitorOpen fd i =>
    have hsat : Sat (Event.program (.monitorOpen fd i)) w
        (fun _ w' => w' = w ∨ w.fds fd = none ∧ w' = w.setFd fd (some ⟨.monitor, i, 0⟩))
        (fun _ => False) := sat_monitorAccept
    exact (fault_of_sat hsat h).elim
  | monitorClose fd =>
    have hsat : Sat (Event.program (.monitorClose fd)) w
        (fun _ w' => w' = w ∨ (∃ i sid, w.fds fd = some ⟨.monitor, i, sid⟩) ∧ w' = w.setFd fd none)
        (fun _ => False) := sat_monitorRelease
    exact (fault_of_sat hsat h).elim

/-- **Every reply of the server finds room.**  Whatever the clients and origins send, whatever the
system answers, whenever sessions expire and whatever buffer size the administrator sets, no run of
the proxy stops at a reply that finds no room. -/
theorem replies_find_room (listenFd monitorFd : Fd) (es : List Event) :
    run step (World.boot listenFd monitorFd) es ≠ .error .noRoom := by
  intro h
  obtain ⟨w, e, hreach, hstep⟩ := exists_step_of_run_error h
  exact (reaches_inv hreach).step_ne_noRoom hstep rfl

end Steps

end SocksProxy
