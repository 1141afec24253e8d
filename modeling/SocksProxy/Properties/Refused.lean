import SocksProxy.Monitor.Operations

/-!
# Commands that fail

A command is checked in two places: the handler looks at the number of its words and at the range of
a number, and the store looks at what is in its tables.  Whichever of them says no, the
administrator is told `-ERR`, and what he relies on is that nothing happened.

Every operation of the store returns the store it was given when it does not return `OK`, so a
handler either leaves the store alone or has nothing to say but `+OK` (`Reply.Commits`).  The
listings and questions do not touch the store at all.
-/

set_option autoImplicit false

namespace SocksProxy

/-! ## The operations of the store -/

section Store

variable {st : MonitorStore}

theorem storeUserAdd_of_ne_ok {u p : Bytes} {a : Bool} (h : (storeUserAdd st u p a).2 ≠ .ok) :
    (storeUserAdd st u p a).1 = st := by
  rw [storeUserAdd] at h ⊢
  split
  · rfl
  · next hnew =>
    rw [if_neg hnew] at h
    split
    · next hslot =>
      rw [hslot] at h
      exact absurd rfl h
    · rfl

theorem storeUserDelete_of_ne_ok {u : Bytes} (h : (storeUserDelete st u).2 ≠ .ok) :
    (storeUserDelete st u).1 = st := by
  rw [storeUserDelete] at h ⊢
  split
  · rfl
  · next hfind =>
    rw [hfind] at h
    dsimp only at h
    split
    · rfl
    · next hlast =>
      rw [if_neg hlast] at h
      exact absurd rfl h

theorem storeUserSetPassword_of_ne_ok {u p : Bytes} (h : (storeUserSetPassword st u p).2 ≠ .ok) :
    (storeUserSetPassword st u p).1 = st := by
  rw [storeUserSetPassword] at h ⊢
  split
  · rfl
  · next hfind =>
    rw [hfind] at h
    exact absurd rfl h

/-- A reallocation that fails leaves the table as it is. -/
theorem storeGrowSessionsSlots_of_ne_ok {n : ℕ} {realloc : Bool}
    (h : (storeGrowSessionsSlots st n realloc).2 ≠ .ok) :
    (storeGrowSessionsSlots st n realloc).1 = st := by
  rw [storeGrowSessionsSlots] at h ⊢
  split
  · rfl
  · next hsize =>
    rw [if_neg hsize] at h
    split
    · next hr =>
      rw [if_pos hr] at h
      exact absurd rfl h
    · rfl

theorem storeConfigSet_of_ne_ok {key : StoreConfigKey} {value : ℕ} {realloc : Bool}
    (h : (storeConfigSet st key value realloc).2 ≠ .ok) :
    (storeConfigSet st key value realloc).1 = st := by
  cases key with
  | timeout =>
    rw [storeConfigSet] at h ⊢
    by_cases hv : value > 86400
    · rw [if_pos hv]
    · rw [if_neg hv] at h
      exact absurd rfl h
  | sessionsCap =>
    rw [storeConfigSet] at h ⊢
    by_cases hrange : value < storeSessionsCapMin ∨ value > storeSessionsCapMax
    · rw [if_pos hrange]
    rw [if_neg hrange] at h ⊢
    by_cases hopen : value < st.metrics.concurrentConnections
    · rw [if_pos hopen]
    rw [if_neg hopen] at h ⊢
    by_cases hup : value > st.sessionsCap
    · rw [if_pos hup] at h ⊢
      have hgrow := @storeGrowSessionsSlots_of_ne_ok st value realloc
      rcases hg : storeGrowSessionsSlots st value realloc with ⟨st', r⟩
      rw [hg] at h hgrow
      cases r with
      | ok => exact absurd rfl h
      | unknownKey => exact hgrow (by simp)
      | invalidValue => exact hgrow (by simp)
    · rw [if_neg hup] at h
      exact absurd rfl h
  | ioBufferSize =>
    rw [storeConfigSet] at h ⊢
    by_cases hrange : value < 1024 ∨ value > 65536
    · rw [if_pos hrange]
    · rw [if_neg hrange] at h
      exact absurd rfl h

variable [Inet]

theorem storeDenyHost_of_false {h : Bytes} (hr : (storeDenyHost st h).2 ≠ true) :
    (storeDenyHost st h).1 = st := by
  rw [storeDenyHost] at hr ⊢
  split
  · rfl
  · next hnew =>
    rw [if_neg hnew] at hr
    split
    · rfl
    · next hname =>
      rw [if_neg hname] at hr
      exact absurd rfl hr

theorem storeDenyIp_of_false {ip : Bytes} (hr : (storeDenyIp st ip).2 ≠ true) :
    (storeDenyIp st ip).1 = st := by
  rw [storeDenyIp] at hr ⊢
  split
  · rfl
  · next hnew =>
    rw [if_neg hnew] at hr
    dsimp only at hr ⊢
    cases h4 : Inet.pton4 ip with
    | some a =>
      rw [h4] at hr
      exact absurd rfl hr
    | none =>
      rw [h4] at hr
      cases h6 : Inet.pton6 ip with
      | some b =>
        rw [h6] at hr
        exact absurd rfl hr
      | none => rfl

omit [Inet] in
theorem storeUndenyHost_of_false {h : Bytes} (hr : (storeUndenyHost st h).2 ≠ true) :
    (storeUndenyHost st h).1 = st := by
  rw [storeUndenyHost] at hr ⊢
  split
  · rfl
  · next hu =>
    rw [hu] at hr
    exact absurd rfl hr

theorem storeUndenyIp_of_false {ip : Bytes} (hr : (storeUndenyIp st ip).2 ≠ true) :
    (storeUndenyIp st ip).1 = st := by
  rw [storeUndenyIp] at hr ⊢
  split
  · rfl
  · next hu =>
    rw [hu] at hr
    exact absurd rfl hr

end Store

/-! ## The handlers -/

namespace Reply

variable {r r' : Reply} {cmd : MonitorCmd}

/-- Either the store is left alone, or there is nothing to say but `+OK`. -/
def Commits (r r' : Reply) : Prop :=
  ∃ lines, r'.lines = r.lines ++ lines ∧ (r'.store = r.store ∨ lines = [ascii "+OK\n"])

/-- Something is said, and the store left alone. -/
theorem Commits.keeps {lines : List Bytes} (hl : r'.lines = r.lines ++ lines)
    (hs : r'.store = r.store) : r.Commits r' := ⟨lines, hl, .inl hs⟩

theorem commits_tells (lines : List Bytes) : r.Commits (r.tells lines) := .keeps rfl rfl

theorem commits_tell (text : String) : r.Commits (r.tell text) := .keeps rfl rfl

/-- An operation of the store that did not succeed, and what is said of it. -/
theorem commits_of_same {st : MonitorStore} (rs : List Bool) (text : String) (h : st = r.store) :
    r.Commits ({ r with store := st, realloc := rs : Reply }.tell text) := .keeps rfl h

/-- An operation of the store that succeeded. -/
theorem commits_ok (st : MonitorStore) (rs : List Bool) :
    r.Commits ({ r with store := st, realloc := rs : Reply }.tell "+OK\n") := ⟨_, rfl, .inr rfl⟩

theorem commits_auth : r.Commits (r.auth cmd) := by
  rw [auth]
  split
  · exact commits_tell _
  · split <;> exact .keeps rfl rfl

theorem commits_config : r.Commits (r.config cmd) := by
  rw [config]
  by_cases h2 : cmd.argc < 2
  · rw [if_pos h2]
    exact commits_tell _
  rw [if_neg h2]
  cases storeConfigKeyFromName (cmd.arg 1) with
  | none => exact commits_tell _
  | some key =>
    dsimp only
    by_cases h3 : cmd.argc = 2
    · rw [if_pos h3]
      exact commits_tells _
    rw [if_neg h3]
    split
    · exact commits_tell _
    split
    · exact commits_tell _
    split
    · exact commits_tell _
    split
    · exact commits_tell _
    -- the store has the last word
    have hfail := @storeConfigSet_of_ne_ok r.store key ((strtol (cmd.arg 2)).1.toNat % 2 ^ 32)
      (r.realloc.headD true)
    rcases hset : storeConfigSet r.store key ((strtol (cmd.arg 2)).1.toNat % 2 ^ 32)
      (r.realloc.headD true) with ⟨st, res⟩
    rw [hset] at hfail
    cases res with
    | ok => exact commits_ok st _
    | unknownKey => exact commits_of_same _ _ (hfail (by simp))
    | invalidValue => exact commits_of_same _ _ (hfail (by simp))

theorem commits_accessLog : r.Commits (r.accessLog cmd) := by
  rw [accessLog]
  split
  · split
    · exact commits_tells _
    · exact commits_tell _
  · exact commits_tells _

theorem commits_addUser : r.Commits (r.addUser cmd) := by
  rw [addUser]
  dsimp only
  by_cases h3 : cmd.argc < 3
  · rw [if_pos h3]
    exact commits_tell _
  rw [if_neg h3]
  have hfail := @storeUserAdd_of_ne_ok r.store (cmd.arg 1) (cmd.arg 2)
    (decide (cmd.argc ≥ 4 ∧ cmd.arg 3 = ascii "admin"))
  rcases hadd : storeUserAdd r.store (cmd.arg 1) (cmd.arg 2)
    (decide (cmd.argc ≥ 4 ∧ cmd.arg 3 = ascii "admin")) with ⟨st, res⟩
  rw [hadd] at hfail
  cases res with
  | ok => exact commits_ok st r.realloc
  | «exists» => exact commits_of_same r.realloc _ (hfail (by simp))
  | tableFull => exact commits_of_same r.realloc _ (hfail (by simp))
  | notFound => exact commits_of_same r.realloc _ (hfail (by simp))
  | lastAdmin => exact commits_of_same r.realloc _ (hfail (by simp))

theorem commits_delUser : r.Commits (r.delUser cmd) := by
  rw [delUser]
  by_cases h2 : cmd.argc < 2
  · rw [if_pos h2]
    exact commits_tell _
  rw [if_neg h2]
  have hfail := @storeUserDelete_of_ne_ok r.store (cmd.arg 1)
  rcases hdel : storeUserDelete r.store (cmd.arg 1) with ⟨st, res⟩
  rw [hdel] at hfail
  cases res with
  | ok => exact commits_ok st r.realloc
  | notFound => exact commits_of_same r.realloc _ (hfail (by simp))
  | lastAdmin => exact commits_of_same r.realloc _ (hfail (by simp))
  | «exists» => exact commits_of_same r.realloc _ (hfail (by simp))
  | tableFull => exact commits_of_same r.realloc _ (hfail (by simp))

theorem commits_setPassword : r.Commits (r.setPassword cmd) := by
  rw [setPassword]
  by_cases h3 : cmd.argc < 3
  · rw [if_pos h3]
    exact commits_tell _
  rw [if_neg h3]
  dsimp only
  by_cases hok : (storeUserSetPassword r.store (cmd.arg 1) (cmd.arg 2)).2 = .ok
  · rw [if_pos hok]
    exact commits_ok _ r.realloc
  · rw [if_neg hok]
    exact commits_of_same r.realloc _ (storeUserSetPassword_of_ne_ok hok)

/-- `DENY_HOST` and `DENY_IP`, of an operation that returns the store it was given when it fails. -/
theorem commits_deny {isDenied : MonitorStore → Bytes → Bool}
    {deny : MonitorStore → Bytes → MonitorStore × Bool} {already : String}
    (hfail : ∀ st h, (deny st h).2 ≠ true → (deny st h).1 = st) :
    r.Commits (r.deny cmd isDenied deny already) := by
  rw [Reply.deny]
  by_cases h2 : cmd.argc < 2
  · rw [if_pos h2]
    exact commits_tell _
  rw [if_neg h2]
  split
  · exact commits_tell _
  dsimp only
  by_cases hok : (deny r.store (cmd.arg 1)).2 = true
  · rw [if_pos hok]
    exact commits_ok _ r.realloc
  · rw [if_neg hok]
    exact commits_of_same r.realloc _ (hfail _ _ hok)

variable [Inet]

theorem commits_undeny : r.Commits (r.undeny cmd) := by
  rw [undeny]
  by_cases h2 : cmd.argc < 2
  · rw [if_pos h2]
    exact commits_tell _
  rw [if_neg h2]
  dsimp only
  by_cases hhost : (storeUndenyHost r.store (cmd.arg 1)).2 = true
  · rw [if_pos hhost]
    exact commits_ok _ r.realloc
  rw [if_neg hhost, storeUndenyHost_of_false hhost]
  by_cases hip : (storeUndenyIp r.store (cmd.arg 1)).2 = true
  · rw [if_pos hip]
    exact commits_ok _ r.realloc
  · rw [if_neg hip]
    exact commits_of_same r.realloc _ (storeUndenyIp_of_false hip)

theorem commits_route : r.Commits (r.route cmd) := by
  rw [route]
  by_cases h : cmd.cmd = ascii "STATS"
  · rw [if_pos h]
    exact commits_tells _
  rw [if_neg h]
  by_cases h : cmd.cmd = ascii "CONNECTIONS"
  · rw [if_pos h]
    exact commits_tells _
  rw [if_neg h]
  by_cases h : cmd.cmd = ascii "USERS"
  · rw [if_pos h]
    exact commits_tells _
  rw [if_neg h]
  by_cases h : cmd.cmd = ascii "CONFIG"
  · rw [if_pos h]
    exact commits_config
  rw [if_neg h]
  by_cases h : cmd.cmd = ascii "ACCESS_LOG"
  · rw [if_pos h]
    exact commits_accessLog
  rw [if_neg h]
  by_cases h : cmd.cmd = ascii "ADD_USER"
  · rw [if_pos h]
    exact commits_addUser
  rw [if_neg h]
  by_cases h : cmd.cmd = ascii "DEL_USER"
  · rw [if_pos h]
    exact commits_delUser
  rw [if_neg h]
  by_cases h : cmd.cmd = ascii "SET_PASSWORD"
  · rw [if_pos h]
    exact commits_setPassword
  rw [if_neg h]
  by_cases h : cmd.cmd = ascii "DENY_HOST"
  · rw [if_pos h]
    exact commits_deny fun _ _ => storeDenyHost_of_false
  rw [if_neg h]
  by_cases h : cmd.cmd = ascii "DENY_IP"
  · rw [if_pos h]
    exact commits_deny fun _ _ => storeDenyIp_of_false
  rw [if_neg h]
  by_cases h : cmd.cmd = ascii "UNDENY"
  · rw [if_pos h]
    exact commits_undeny
  rw [if_neg h]
  by_cases h : cmd.cmd = ascii "DENY_LIST"
  · rw [if_pos h]
    exact commits_tells _
  rw [if_neg h]
  by_cases h : cmd.cmd = ascii "QUIT"
  · rw [if_pos h]
    exact .keeps rfl rfl
  rw [if_neg h]
  exact commits_tell _

/-- **Every command commits or leaves the store alone.** -/
theorem commits_command : r.Commits (r.command cmd) := by
  rw [command]
  cases r.state with
  | awaitAuth =>
    dsimp only
    split
    · exact commits_auth
    · exact commits_tell _
  | authenticated =>
    dsimp only
    split
    · exact commits_tell _
    · exact commits_route

end Reply

/-! ## Lines -/

/-- The words of a line ask for nothing to be changed: one of the listings and questions, `CONFIG`
without a value, `QUIT`, `AUTH`, or no command at all. -/
def MonitorCmd.ReadOnly (cmd : MonitorCmd) : Prop :=
  cmd.cmd ∉ [ascii "ADD_USER", ascii "DEL_USER", ascii "SET_PASSWORD", ascii "DENY_HOST",
    ascii "DENY_IP", ascii "UNDENY"] ∧ (cmd.cmd = ascii "CONFIG" → cmd.argc ≤ 2)

variable [Inet]

/-- Such words come to no operation of the store. -/
theorem MonitorCmd.ReadOnly.storeOps {cmd : MonitorCmd} (h : cmd.ReadOnly) (st : MonitorStore)
    (realloc : Bool) : cmd.storeOps st realloc = [] := by
  obtain ⟨hne, hconfig⟩ := h
  simp only [List.mem_cons, List.not_mem_nil, or_false, not_or] at hne
  obtain ⟨hadd, hdel, hset, hhost, hip, hundeny⟩ := hne
  rw [MonitorCmd.storeOps, if_neg hadd, if_neg hdel, if_neg hset, if_neg hhost, if_neg hip,
    if_neg hundeny]
  by_cases hcfg : cmd.cmd = ascii "CONFIG"
  · rw [if_pos hcfg, MonitorCmd.configOps, if_pos (Nat.lt_succ_of_le (hconfig hcfg))]
    simp only [ite_self]
  · rw [if_neg hcfg]
    simp only [ite_self]

omit [Inet] in
/-- What a buffer takes of the lines it is offered. -/
theorem Buffer.pending_offer (b : Buffer) (lines : List Bytes) :
    ∃ out : List Bytes, out.Sublist lines ∧ (b.offer lines).pending = b.pending ++ out.flatten := by
  induction lines generalizing b with
  | nil => exact ⟨[], .refl _, (List.append_nil _).symm⟩
  | cons text lines ih =>
    show ∃ out : List Bytes, _ ∧ ((if text.length ≥ monitorBufferSize ∨ b.space < text.length then b
      else b.append text).offer lines).pending = _
    by_cases hdrop : text.length ≥ monitorBufferSize ∨ b.space < text.length
    · rw [if_pos hdrop]
      obtain ⟨out, hsub, hp⟩ := ih b
      exact ⟨out, hsub.cons _, hp⟩
    · rw [if_neg hdrop]
      obtain ⟨out, hsub, hp⟩ := ih (b.append text)
      refine ⟨text :: out, hsub.cons_cons _, ?_⟩
      rw [hp, b.pending_append (by omega), List.flatten_cons, List.append_assoc]

/-- **A command that fails has no effect.**  Over every session and every store, what is sent in
answer to a line is some of the lines of its reply; if one of these is an `-ERR` line, the store is
what it was before, and so it is whenever the line asks for nothing to be changed. -/
theorem refused_keeps_store (c : Console) (line : Bytes) :
    (∃ out : List Bytes, out.Sublist (c.idle.line line).lines ∧
      (dispatchLine c line).session.wb.pending = c.session.wb.pending ++ out.flatten) ∧
    ((∃ text ∈ (c.idle.line line).lines, ascii "-ERR" <+: text) →
      (dispatchLine c line).store = c.store) ∧
    ((splitLine line).ReadOnly → (dispatchLine c line).store = c.store) := by
  refine ⟨?_, ?_, fun h => ?_⟩
  · rw [dispatchLine_eq, Console.obey_wb]
    exact Buffer.pending_offer _ _
  · rintro ⟨text, htext, herr⟩
    rw [dispatchLine_eq, Console.obey_store]
    rw [Reply.line] at htext ⊢
    split at htext
    · cases htext
    · next hcmd =>
      rw [if_neg hcmd]
      obtain ⟨lines, hlines, hstore | rfl⟩ :=
        @Reply.commits_command c.idle (splitLine line) _
      · exact hstore
      · -- there is no `-ERR` in this answer
        rw [Reply.tell, Reply.tells, hlines] at htext
        simp only [Console.idle, List.nil_append, List.mem_append, List.mem_singleton] at htext
        rcases htext with rfl | rfl <;> exact absurd herr (by decide)
  · rw [dispatchLine_store, Console.storeOps]
    cases c.session.state with
    | awaitAuth => rfl
    | authenticated =>
      dsimp only
      rw [h.storeOps]
      rfl

end SocksProxy
