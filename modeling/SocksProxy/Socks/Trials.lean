import SocksProxy.Socks.Machine

/-!
# A record of the addresses tried

`getaddrinfo` gives a session a list of addresses, and the session works its way down this list in
two places: `socks_begin_origin_connect` goes on to the next address when `connect()` fails at once,
and `socks_origin_connect_complete` when the answer of `getsockopt(SO_ERROR)` tells that it failed
later.  The history of a session says which addresses were taken up; it does not say what came of
them, because that is an answer of the system.

`tried` reads this off a run: for each event, from the world before it and the answers the event
comes with, what was tried for one session and how it went.  No program looks at this record.
`dialTrials` is the part of it that belongs to `dial`, and `dialTrials_ends` says how the two agree.
-/

set_option autoImplicit false

namespace SocksProxy

/-! ## What can happen to an address -/

/-- An entry of the record. -/
inductive Trial where
  /-- `getaddrinfo` returned these addresses. -/
  | listed (addrs : List SockAddr)
  /-- The address is denied. -/
  | denied (addr : SockAddr)
  /-- `socket()` failed. -/
  | noSocket (addr : SockAddr)
  /-- `selector_fd_set_nio()` failed. -/
  | blocking (addr : SockAddr)
  /-- `connect()` failed at once. -/
  | refused (addr : SockAddr) (err : Errno)
  /-- `connect()` did not fail, and `selector_register()` did. -/
  | unregistered (addr : SockAddr)
  /-- The connection is under way. -/
  | underway (addr : SockAddr)
  /-- The connection under way failed, as `SO_ERROR` tells. -/
  | failed (addr : SockAddr) (err : Errno)
  /-- The connection under way is up. -/
  | connected (addr : SockAddr)
  deriving DecidableEq

/-- The address this entry takes up. -/
def Trial.begins : Trial → Option SockAddr
  | .denied a => some a
  | .noSocket a => some a
  | .blocking a => some a
  | .refused a _ => some a
  | .unregistered a => some a
  | .underway a => some a
  | _ => none

/-- The address that failed with this entry, by `socket()`, by the non-blocking set-up, by
`connect()` or by `SO_ERROR`. -/
def Trial.gaveUp : Trial → Option SockAddr
  | .noSocket a => some a
  | .blocking a => some a
  | .refused a _ => some a
  | .failed a _ => some a
  | _ => none

/-- The addresses taken up, in order. -/
def begun (ts : List Trial) : List SockAddr := ts.filterMap Trial.begins

/-- The addresses that failed, in order. -/
def gaveUp (ts : List Trial) : List SockAddr := ts.filterMap Trial.gaveUp

/-- The last try ended for a reason of the server's own: a registration that found no room, or a
`socket()` or a non-blocking set-up that failed while there were addresses left. -/
inductive CutShort (addrs : List SockAddr) : List Trial → Prop
  | unregistered {ts : List Trial} {a : SockAddr} : CutShort addrs (ts ++ [.unregistered a])
  | noSocket {ts : List Trial} {a : SockAddr} (left : begun (ts ++ [.noSocket a]) ≠ addrs) :
      CutShort addrs (ts ++ [.noSocket a])
  | blocking {ts : List Trial} {a : SockAddr} (left : begun (ts ++ [.blocking a]) ≠ addrs) :
      CutShort addrs (ts ++ [.blocking a])

/-- The addresses are taken up in order, each once and only after the one before it has failed. -/
structure InOrder (addrs : List SockAddr) (ts : List Trial) : Prop where
  begun : begun ts <+: addrs
  gaveUp : gaveUp ts <+: SocksProxy.begun ts
  behind : (SocksProxy.begun ts).length ≤ (SocksProxy.gaveUp ts).length + 1

/-- What a reply to the request may tell, given the record. -/
structure Warrants (addrs : List SockAddr) (ts : List Trial) (rep : UInt8) : Prop where
  success : rep = socksRepSucceeded →
    ∃ ts' a, ts = ts' ++ [.connected a] ∧ (begun ts).getLast? = some a
  failure : rep ≠ socksRepSucceeded → rep ≠ socksRepDeniedByRuleset → rep ≠ socksRepTtlExpired →
    gaveUp ts = addrs ∨ CutShort addrs ts

/-- The addresses that were asked about at the deny list, according to the history. -/
def attempted (t : List Obs) : List SockAddr :=
  t.filterMap fun
    | .attempt a _ => some a
    | _ => none

theorem attempted_append (t t' : List Obs) : attempted (t ++ t') = attempted t ++ attempted t' :=
  List.filterMap_append ..

theorem begun_append (ts ts' : List Trial) : begun (ts ++ ts') = begun ts ++ begun ts' :=
  List.filterMap_append ..

theorem gaveUp_append (ts ts' : List Trial) : gaveUp (ts ++ ts') = gaveUp ts ++ gaveUp ts' :=
  List.filterMap_append ..

/-- A list that is found in a record is found in its first part or in its second. -/
theorem listed_append {ts ts' pre us : List Trial} {addrs : List SockAddr}
    (h : ts ++ ts' = pre ++ .listed addrs :: us) :
    (∃ us', ts = pre ++ .listed addrs :: us' ∧ us = us' ++ ts') ∨
      ∃ mid, ts' = mid ++ .listed addrs :: us := by
  rcases List.append_eq_append_iff.1 h with ⟨mid, -, h'⟩ | ⟨_ | ⟨t, us'⟩, h', htail⟩
  · exact .inr ⟨mid, h'⟩
  · exact .inr ⟨[], htail.symm⟩
  · obtain ⟨rfl, rfl⟩ := List.cons.inj htail
    exact .inl ⟨us', h', rfl⟩

/-! ## Addresses given up one after another -/

/-- All of these addresses failed by `connect()`, at once or later, one after another. -/
inductive Gave : List SockAddr → List Trial → Prop
  | nil : Gave [] []
  | refused {as : List SockAddr} {ts : List Trial} {a : SockAddr} {err : Errno} (h : Gave as ts) :
      Gave (as ++ [a]) (ts ++ [.refused a err])
  | failed {as : List SockAddr} {ts : List Trial} {a : SockAddr} {err : Errno} (h : Gave as ts) :
      Gave (as ++ [a]) (ts ++ [.underway a] ++ [.failed a err])

section Gave

variable {as rest addrs : List SockAddr} {ts : List Trial} {a : SockAddr} {t : Trial}

theorem Gave.begun_eq (h : Gave as ts) : begun ts = as := by
  induction h with
  | nil => rfl
  | refused _ ih => rw [begun_append, ih]; rfl
  | failed _ ih =>
    rw [begun_append, begun_append, ih, List.append_assoc]
    rfl

theorem Gave.gaveUp_eq (h : Gave as ts) : gaveUp ts = as := by
  induction h with
  | nil => rfl
  | refused _ ih => rw [gaveUp_append, ih]; rfl
  | failed _ ih =>
    rw [gaveUp_append, gaveUp_append, ih, List.append_assoc]
    rfl

theorem Gave.begun_concat (h : Gave as ts) (ht : t.begins = some a) :
    begun (ts ++ [t]) = as ++ [a] := by
  have : begun [t] = [a] := List.filterMap_cons_some ht
  rw [begun_append, h.begun_eq, this]

theorem Gave.gaveUp_concat (h : Gave as ts) (ht : t.gaveUp = some a) :
    gaveUp (ts ++ [t]) = as ++ [a] := by
  have : gaveUp [t] = [a] := List.filterMap_cons_some ht
  rw [gaveUp_append, h.gaveUp_eq, this]

/-- After those that failed, the next address may be in any shape. -/
theorem Gave.inOrder (h : Gave as ts) (haddrs : addrs = as ++ a :: rest) (hb : t.begins = some a)
    (hf : t.gaveUp = none ∨ t.gaveUp = some a) : InOrder addrs (ts ++ [t]) := by
  have hbegun := h.begun_concat hb
  have hgave : gaveUp (ts ++ [t]) = as ∨ gaveUp (ts ++ [t]) = as ++ [a] := by
    refine hf.imp (fun hf => ?_) h.gaveUp_concat
    have : gaveUp [t] = [] := List.filterMap_cons_none hf
    rw [gaveUp_append, h.gaveUp_eq, this, List.append_nil]
  refine ⟨?_, ?_, ?_⟩
  · rw [hbegun, haddrs, show as ++ a :: rest = (as ++ [a]) ++ rest by simp]
    exact List.prefix_append ..
  · rw [hbegun]
    rcases hgave with heq | heq
    · rw [heq]
      exact List.prefix_append ..
    · exact heq ▸ List.prefix_rfl
  · have hge : as.length ≤ (gaveUp (ts ++ [t])).length := by
      rcases hgave with heq | heq <;> simp [heq]
    calc (begun (ts ++ [t])).length = as.length + 1 := by simp [hbegun]
      _ ≤ (gaveUp (ts ++ [t])).length + 1 := Nat.succ_le_succ hge

/-- When all that were taken up have failed, they are in order. -/
theorem Gave.inOrder_self (h : Gave as ts) (haddrs : as <+: addrs) : InOrder addrs ts where
  begun := by rw [h.begun_eq]; exact haddrs
  gaveUp := (h.gaveUp_eq.trans h.begun_eq.symm) ▸ List.prefix_rfl
  behind :=
    calc (begun ts).length = (gaveUp ts).length := by rw [h.begun_eq, h.gaveUp_eq]
      _ ≤ (gaveUp ts).length + 1 := Nat.le_succ _

/-- A connection that comes up takes up nothing new. -/
theorem inOrder_connected (h : InOrder addrs ts) : InOrder addrs (ts ++ [.connected a]) := by
  have hb : begun (ts ++ [.connected a]) = begun ts := by
    rw [begun_append]
    exact List.append_nil _
  have hg : gaveUp (ts ++ [.connected a]) = gaveUp ts := by
    rw [gaveUp_append]
    exact List.append_nil _
  exact ⟨hb ▸ h.begun, by rw [hb, hg]; exact h.gaveUp, by rw [hb, hg]; exact h.behind⟩

/-- An address that could not even be tried warrants a refusal: it was the last, or the search was
cut short. -/
theorem Gave.warrants_local (h : Gave as ts) (hb : t.begins = some a) (hg : t.gaveUp = some a)
    (hcut : begun (ts ++ [t]) ≠ addrs → CutShort addrs (ts ++ [t])) {rep : UInt8}
    (hne : rep ≠ socksRepSucceeded) : Warrants addrs (ts ++ [t]) rep where
  success := fun heq => absurd heq hne
  failure := fun _ _ _ => by
    by_cases hall : begun (ts ++ [t]) = addrs
    · left
      rw [h.gaveUp_concat hg, ← h.begun_concat hb, hall]
    · exact .inr (hcut hall)

end Gave

/-! ## Dialling -/

section Dial

variable [Inet]

/-- The entry for one attempt of `socks_begin_origin_connect`. -/
def attemptTrial (rules : List AclRule) (free : Fd → Bool) (addr : SockAddr) (env : Env) : Trial :=
  if addrDenied rules addr then .denied addr
  else
    match (env.socket.headD none).filter free with
    | none => .noSocket addr
    | some fd =>
      if env.nio.headD true then
        match env.connect.headD none with
        | some err => .refused addr err
        | none =>
          if decide (fd < selectorItemsMaxSize) && env.room.headD true then .underway addr
          else .unregistered addr
      else .blocking addr

/-- The entries of `socks_begin_origin_connect`. -/
def dialTrials (rules : List AclRule) (free : Fd → Bool) :
    SockAddr → List SockAddr → Env → List Trial
  | addr, [], env => [attemptTrial rules free addr env]
  | addr, next :: rest, env =>
    attemptTrial rules free addr env ::
      match attempt rules free addr env with
      | (env', _, .failed _) => dialTrials rules free next rest env'
      | _ => []

variable {rules : List AclRule} {free : Fd → Bool} {addr : SockAddr} {env env' : Env}
  {obs : List Obs}

theorem attemptTrial_failed {err : Errno}
    (h : attempt rules free addr env = (env', obs, .failed err)) :
    attemptTrial rules free addr env = .refused addr err := by
  rw [attempt] at h
  rw [attemptTrial]
  split at h
  · simp at h
  · next hd =>
    rw [if_neg hd]
    cases hs : (env.socket.headD none).filter free with
    | none =>
      rw [hs] at h
      cases h
    | some fd =>
      simp only [hs] at h
      dsimp only
      split at h
      · next hn =>
        rw [if_pos hn]
        cases hc : env.connect.headD none with
        | none =>
          simp only [hc, Prod.mk.injEq] at h
          obtain ⟨-, -, h⟩ := h
          split at h <;> cases h
        | some err' =>
          simp only [hc, Prod.mk.injEq, Attempt.failed.injEq] at h
          rw [h.2.2]
      · simp at h

theorem attemptTrial_connecting {fd : Fd}
    (h : attempt rules free addr env = (env', obs, .connecting fd)) :
    attemptTrial rules free addr env = .underway addr := by
  rw [attempt] at h
  rw [attemptTrial]
  split at h
  · simp at h
  · next hd =>
    rw [if_neg hd]
    cases hs : (env.socket.headD none).filter free with
    | none =>
      rw [hs] at h
      cases h
    | some fd' =>
      simp only [hs] at h
      dsimp only
      split at h
      · next hn =>
        rw [if_pos hn]
        cases hc : env.connect.headD none with
        | none =>
          simp only [hc, Prod.mk.injEq] at h
          obtain ⟨-, -, h⟩ := h
          split at h
          · next hr => exact if_pos hr
          · cases h
        | some err =>
          rw [hc] at h
          cases h
      · simp at h

/-- An attempt that is refused was not allowed, or failed for a reason of the server's own. -/
theorem attemptTrial_refused {rep : UInt8}
    (h : attempt rules free addr env = (env', obs, .refused rep)) :
    rep = socksRepDeniedByRuleset ∧ attemptTrial rules free addr env = .denied addr ∨
      rep = socksRepGeneralFailure ∧
        (attemptTrial rules free addr env = .noSocket addr ∨
          attemptTrial rules free addr env = .blocking addr ∨
          attemptTrial rules free addr env = .unregistered addr) := by
  rw [attempt] at h
  rw [attemptTrial]
  split at h
  · next hd =>
    simp only [Prod.mk.injEq, Attempt.refused.injEq] at h
    exact .inl ⟨h.2.2.symm, if_pos hd⟩
  · next hd =>
    rw [if_neg hd]
    right
    cases hs : (env.socket.headD none).filter free with
    | none =>
      simp only [hs, Prod.mk.injEq, Attempt.refused.injEq] at h
      exact ⟨h.2.2.symm, .inl rfl⟩
    | some fd =>
      simp only [hs] at h
      dsimp only
      split at h
      · next hn =>
        rw [if_pos hn]
        cases hc : env.connect.headD none with
        | none =>
          simp only [hc, Prod.mk.injEq] at h
          obtain ⟨-, -, h⟩ := h
          split at h
          · cases h
          · next hr =>
            cases h
            exact ⟨rfl, .inr (.inr (if_neg hr))⟩
        | some err =>
          rw [hc] at h
          cases h
      · next hn =>
        simp only [Prod.mk.injEq, Attempt.refused.injEq] at h
        exact ⟨h.2.2.symm, .inr (.inl (if_neg hn))⟩

/-- An attempt takes its address up. -/
theorem attemptTrial_begins : (attemptTrial rules free addr env).begins = some addr := by
  rw [attemptTrial]
  repeat' split
  all_goals rfl

/-- Dialling is given no list. -/
theorem listed_notMem_dialTrials {addrs others : List SockAddr} :
    Trial.listed addrs ∉ dialTrials rules free addr others env := by
  have hone : ∀ {addr env}, Trial.listed addrs ≠ attemptTrial rules free addr env := by
    intro addr env heq
    have hb : (attemptTrial rules free addr env).begins = some addr := attemptTrial_begins
    rw [← heq] at hb
    cases hb
  induction others generalizing addr env with
  | nil =>
    rw [dialTrials, List.mem_singleton]
    exact hone
  | cons next rest ih =>
    rw [dialTrials, List.mem_cons, not_or]
    refine ⟨hone, ?_⟩
    split
    · exact ih
    · exact List.not_mem_nil

theorem attempted_attempt {result : Attempt}
    (h : attempt rules free addr env = (env', obs, result)) : attempted obs = [addr] := by
  have hall : attempted (attempt rules free addr env).2.1 = [addr] := by
    rw [attempt]
    repeat' split
    all_goals rfl
  rw [h] at hall
  exact hall

/-- The record and the history agree on what was taken up. -/
theorem attempted_dial (others : List SockAddr) :
    attempted (dial rules free addr others env).obs =
      begun (dialTrials rules free addr others env) := by
  induction others generalizing addr env with
  | nil =>
    obtain ⟨env', obs, result, ha⟩ : ∃ e o r, attempt rules free addr env = (e, o, r) :=
      ⟨_, _, _, rfl⟩
    have hone := attempted_attempt ha
    have hbegun : begun [attemptTrial rules free addr env] = [addr] :=
      List.filterMap_cons_some attemptTrial_begins
    rw [dialTrials, dial, ha, hbegun]
    cases result <;> exact hone
  | cons next rest ih =>
    obtain ⟨env', obs, result, ha⟩ : ∃ e o r, attempt rules free addr env = (e, o, r) :=
      ⟨_, _, _, rfl⟩
    have hone := attempted_attempt ha
    have hbegun : ∀ ts, begun (attemptTrial rules free addr env :: ts) = addr :: begun ts :=
      fun ts => List.filterMap_cons_some attemptTrial_begins
    rw [dialTrials, dial, ha, hbegun]
    cases result with
    | refused rep => exact hone
    | failed err =>
      rw [← ih]
      show attempted (obs ++ _) = _
      rw [attempted_append, hone]
      rfl
    | connecting fd => exact hone

/-- How dialling the addresses of a list ends: a connection is under way to one of them, those
before it having failed, or the record warrants the refusal. -/
inductive DialEnds (addrs : List SockAddr) (ts : List Trial) (d : Dialled) : Prop
  | underway {as : List SockAddr} {ts' : List Trial} {fd : Fd} (outcome : d.outcome = .ok fd)
      (gave : Gave as ts') (left : addrs = as ++ d.addr :: d.others)
      (record : ts = ts' ++ [.underway d.addr])
  | refused {rep : UInt8} (outcome : d.outcome = .error rep) (order : InOrder addrs ts)
      (warrants : Warrants addrs ts rep)

/-- An attempt that is refused ends the search. -/
theorem dialEnds_refused {addrs as others : List SockAddr} {ts : List Trial} {d : Dialled}
    {rep : UInt8} (hg : Gave as ts) (haddrs : addrs = as ++ addr :: others)
    (ha : attempt rules free addr env = (env', obs, .refused rep)) (hd : d.outcome = .error rep) :
    DialEnds addrs (ts ++ [attemptTrial rules free addr env]) d := by
  rcases attemptTrial_refused ha with ⟨rfl, heq⟩ | ⟨rfl, heq | heq | heq⟩ <;> rw [heq]
  · refine .refused hd (hg.inOrder haddrs rfl (.inl rfl)) ⟨fun h => ?_, fun _ h => absurd rfl h⟩
    exact absurd h (by decide)
  · exact .refused hd (hg.inOrder haddrs rfl (.inr rfl))
      (hg.warrants_local rfl rfl .noSocket (by decide))
  · exact .refused hd (hg.inOrder haddrs rfl (.inr rfl))
      (hg.warrants_local rfl rfl .blocking (by decide))
  · refine .refused hd (hg.inOrder haddrs rfl (.inl rfl)) ⟨fun h => ?_, fun _ _ _ => ?_⟩
    · exact absurd h (by decide)
    · exact .inr .unregistered

/-- **Dialling takes the addresses up in order.** -/
theorem dialTrials_ends {addrs as others : List SockAddr} {ts : List Trial} (hg : Gave as ts)
    (haddrs : addrs = as ++ addr :: others) :
    DialEnds addrs (ts ++ dialTrials rules free addr others env)
      (dial rules free addr others env) := by
  induction others generalizing as ts addr env with
  | nil =>
    obtain ⟨env', obs, result, ha⟩ : ∃ e o r, attempt rules free addr env = (e, o, r) :=
      ⟨_, _, _, rfl⟩
    rw [dialTrials, dial, ha]
    cases result with
    | refused rep => exact dialEnds_refused hg haddrs ha rfl
    | failed err =>
      rw [attemptTrial_failed ha]
      refine .refused rfl (hg.inOrder haddrs rfl (.inr rfl)) ⟨fun h => ?_, fun _ _ _ => .inl ?_⟩
      · exact absurd h (socksErrnoToRep_ne err)
      · rw [hg.gaveUp_concat rfl, haddrs]
    | connecting fd => exact .underway rfl hg haddrs (by rw [attemptTrial_connecting ha])
  | cons next rest ih =>
    obtain ⟨env', obs, result, ha⟩ : ∃ e o r, attempt rules free addr env = (e, o, r) :=
      ⟨_, _, _, rfl⟩
    rw [dialTrials, dial, ha]
    cases result with
    | refused rep => exact dialEnds_refused hg haddrs ha rfl
    | failed err =>
      -- the address joins those given up, and the search goes on from the next one
      have hg' : Gave (as ++ [addr]) (ts ++ [.refused addr err]) := hg.refused
      have hrest : DialEnds addrs (ts ++ [.refused addr err] ++
          dialTrials rules free next rest env') (dial rules free next rest env') :=
        ih hg' (by rw [haddrs]; simp)
      rw [List.append_assoc, List.singleton_append] at hrest
      rw [attemptTrial_failed ha]
      cases hrest with
      | underway hout hg₁ hleft hrec => exact .underway hout hg₁ hleft hrec
      | refused hout hord hw => exact .refused hout hord hw
    | connecting fd => exact .underway rfl hg haddrs (by rw [attemptTrial_connecting ha])

end Dial

/-! ## The record of a run -/

section Record

variable [Inet]

/-- The entries of dialling from a view. -/
def View.dialTrials (v : View) (addr : SockAddr) (others : List SockAddr) : List Trial :=
  SocksProxy.dialTrials v.store.deniedAddresses.rules v.free addr others v.env

/-- The entries of `socks_on_block_resolving`. -/
def View.resolvedTrials (v : View) (s : SocksSession) : List Trial :=
  if s.dnsResolving = false ∧ s.dnsGaiRc = .ok then
    match s.dnsResult with
    | [] => []
    | addr :: others => .listed (addr :: others) :: v.dialTrials addr others
  else []

/-- The entries of `socks_origin_connect_complete`, for the address of a list. -/
def View.completedTrials (v : View) (s : SocksSession) : List Trial :=
  match s.dnsCursor with
  | [] => []
  | addr :: others =>
    match v.env.soError.headD none with
    | none => [.connected addr]
    | some err =>
      .failed addr err ::
        match others with
        | [] => []
        | next :: rest => (v.connectFailed s).dialTrials next rest

/-- The entries for session `sid` of `socks_origin_write`, called for `fd`. -/
def World.writeTrials (w : World) (fd : Fd) (sid : Sid) : List Trial :=
  match w.called .origin FdInterest.write fd with
  | some (sid', s) =>
    if sid' = sid ∧ stmState s = .originConnecting then (view w sid).completedTrials s else []
  | none => []

/-- The entries for session `sid` of one turn of `handle_block_notifications`. -/
def World.jobTrials (w : World) (job : BlockingJob) (sid : Sid) : List Trial :=
  match w.called .client (fun _ => true) job.fd with
  | some (sid', s) =>
    if sid' = sid ∧ stmState s = .resolving then (view w sid).resolvedTrials s else []
  | none => []

/-- The entries for session `sid` of `handle_block_notifications`. -/
def jobsTrials (sid : Sid) : List BlockingJob → World → List Trial
  | [], _ => []
  | job :: jobs, w =>
    w.jobTrials job sid ++
      match handleJob job w with
      | .ok (_, w') => jobsTrials sid jobs w'
      | .error _ => []

/-- The entries for session `sid` of one event. -/
def Event.trials (sid : Sid) (w : World) : Event → List Trial
  | .writable fd env => World.writeTrials { w with env := env } fd sid
  | .notifications env => jobsTrials sid w.resolutionJobs { w with env := env }
  | _ => []

/-- What was tried for session `sid`, in a run. -/
def tried (sid : Sid) : World → List Event → List Trial
  | _, [] => []
  | w, e :: es =>
    e.trials sid w ++
      match step w e with
      | .ok w' => tried sid w' es
      | .error _ => []

end Record

end SocksProxy
