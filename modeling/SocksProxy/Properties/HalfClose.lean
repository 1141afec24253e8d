import SocksProxy.Monitor.Orders
import SocksProxy.Properties.Fields

/-!
# The end of file instead of a newline

A client may close its side without ending its last line, and `monitor_commands_flush_on_eof` then
hands the pending line on.  It repeats the end of `process_byte`, but for two things: the carriage
return before the end stays where it is, and a line of exactly `MONITOR_LINE_MAX` bytes is not
refused.

What that amounts to depends on the line.  A return behind the last word is a word of its own, or
the end of the last one, and the command may not read that word, or not that far.  `halfClose_iff`
says exactly which lines make no difference to any session: those shorter than the limit that ask
for the same with the return and without it.
-/

set_option autoImplicit false

namespace SocksProxy

/-! ## A return at the end of a line -/

/-- The last word has got a return, or the return is a word. -/
def CrAdded (ws ws' : List Bytes) : Prop :=
  ws' = ws ++ [[13]] ∨ ∃ init w, ws = init ++ [w] ∧ ws' = init ++ [w ++ [13]]

theorem splitOn_snoc (line : Bytes) :
    ∃ init last, line.splitOn 32 = init ++ [last] ∧
      (line ++ [13]).splitOn 32 = init ++ [last ++ [13]] := by
  induction line with
  | nil => exact ⟨[], [], rfl, rfl⟩
  | cons b line ih =>
    obtain ⟨init, last, hline, hcr⟩ := ih
    rw [List.cons_append, List.splitOn_cons_eq_if_modifyHead, List.splitOn_cons_eq_if_modifyHead,
      hline, hcr]
    by_cases hb : (b == 32) = true
    · rw [if_pos hb, if_pos hb]
      exact ⟨[] :: init, last, rfl, rfl⟩
    · rw [if_neg hb, if_neg hb]
      cases init with
      | nil => exact ⟨[], b :: last, rfl, rfl⟩
      | cons w init => exact ⟨(b :: w) :: init, last, rfl, rfl⟩

theorem tokens_snoc (line : Bytes) : CrAdded (tokens line) (tokens (line ++ [13])) := by
  obtain ⟨init, last, hline, hcr⟩ := splitOn_snoc line
  have hword : [last ++ [13]].filter (· ≠ []) = [last ++ [13]] := by simp
  rw [tokens, tokens, hline, hcr, List.filter_append, List.filter_append, hword]
  by_cases hlast : last = []
  · rw [hlast]
    refine .inl ?_
    simp
  · refine .inr ⟨_, last, ?_, rfl⟩
    simp [hlast]

/-- What the return does to the words of a line: nothing when there are eight before it, or when the
line as a C string ends before it. -/
theorem splitLine_snoc (line : Bytes) :
    (splitLine (line ++ [13])).args = (splitLine line).args ∨
      CrAdded (splitLine line).args (splitLine (line ++ [13])).args := by
  by_cases h0 : 0 ∈ line
  · refine .inl ?_
    have hcstr : cstr (line ++ [13]) = cstr line := by
      have hlen : ¬ (line.takeWhile (· != 0)).length = line.length := fun hlen => by
        have hself := (List.takeWhile_prefix (p := (· != 0)) (l := line)).eq_of_length hlen
        exact absurd (List.takeWhile_eq_self_iff.1 hself 0 h0) (by decide)
      rw [cstr, List.takeWhile_append, if_neg hlen]
      rfl
    rw [splitLine, splitLine, hcstr]
  · have hne : ∀ b ∈ line, (b != 0) = true := fun b hb => bne_iff_ne.2 fun heq => h0 (heq ▸ hb)
    have hcstr : cstr line = line := List.takeWhile_eq_self_iff.2 hne
    have hcr : cstr (line ++ [13]) = line ++ [13] := by
      rw [cstr, List.takeWhile_append_of_pos hne]
      rfl
    rw [splitLine, splitLine, hcstr, hcr]
    dsimp only
    rcases tokens_snoc line with h | ⟨init, w, hline, h⟩
    · rw [h]
      by_cases h8 : (tokens line).length < 8
      · rw [List.take_of_length_le (by simp; omega), List.take_of_length_le (by omega)]
        exact .inr (.inl rfl)
      · rw [List.take_append_of_le_length (by omega)]
        exact .inl rfl
    · rw [h, hline]
      by_cases h8 : init.length < 8
      · rw [List.take_of_length_le (by simp; omega), List.take_of_length_le (by simp; omega)]
        exact .inr (.inr ⟨init, w, rfl, rfl⟩)
      · rw [List.take_append_of_le_length (by omega), List.take_append_of_le_length (by omega)]
        exact .inl rfl

/-- A number with a return behind it is not a number. -/
theorem strtol_snoc (s : Bytes) : (strtol (s ++ [13])).2 ≠ [] := by
  have hdrop : ∀ (u : Bytes) (q : UInt8 → Bool), q 13 = false → (u ++ [13]).dropWhile q ≠ [] := by
    intro u q hq
    rw [List.dropWhile_append]
    split
    · rw [List.dropWhile_cons_of_neg (by rw [hq]; exact Bool.false_ne_true)]
      exact List.cons_ne_nil _ _
    · exact List.append_ne_nil_of_right_ne_nil _ (List.cons_ne_nil _ _)
  rw [strtol, List.dropWhile_append]
  cases hs : s.dropWhile isSpace with
  | nil =>
    rw [List.isEmpty_nil, if_pos rfl]
    exact List.append_ne_nil_of_right_ne_nil _ (List.cons_ne_nil _ _)
  | cons b t =>
    rw [List.isEmpty_cons, if_neg Bool.false_ne_true]
    dsimp only
    split
    · split
      · exact List.append_ne_nil_of_right_ne_nil _ (List.cons_ne_nil _ _)
      · exact hdrop t isDigit (by decide)
    · split
      · exact List.append_ne_nil_of_right_ne_nil _ (List.cons_ne_nil _ _)
      · exact hdrop (b :: t) isDigit (by decide)

/-! ## Orders that no session tells apart -/

/-- What an empty buffer makes of a reply. -/
def Reply.said (r : Reply) : Bytes := ((Buffer.init monitorBufferSize).offer r.lines).pending

/-- Lines that fit are said one after the other. -/
theorem Reply.said_eq {r : Reply} {lines : List Bytes} (h : r.lines = lines)
    (hfit : lines.flatten.length < monitorBufferSize) : r.said = lines.flatten := by
  have hshort : ∀ text ∈ lines, text.length < monitorBufferSize := fun text htext =>
    Nat.lt_of_le_of_lt (List.Sublist.length_le (List.sublist_flatten_of_mem htext)) hfit
  rw [said, h, ((Buffer.init monitorBufferSize).offer_fits hshort _).1, Buffer.pending_init,
    List.nil_append]
  rw [Buffer.space_of_read_eq_zero _ rfl, Buffer.pending_init]
  exact Nat.le_of_lt hfit

/-- A reply over a store, with nothing in it yet. -/
def blankReply (st : MonitorStore) (state : MonitorCommandsState) : Reply :=
  ⟨[], st, [], state, false⟩

section Alike

variable [Inet]

/-- No session, whatever its store, tells two orders apart. -/
structure Alike (o o' : Order) : Prop where
  said : ∀ st : MonitorStore, st.Sized → ∀ state,
    ((blankReply st state).order o).said = ((blankReply st state).order o').said
  store : ∀ st : MonitorStore, st.Sized → ∀ state,
    ((blankReply st state).order o).store = ((blankReply st state).order o').store

/-- An order is answered with some lines, and the terminator. -/
def RepliesWith (st : MonitorStore) (state : MonitorCommandsState) (o : Order) (ls : List Bytes) :
    Prop :=
  ((blankReply st state).order o).lines = ls ++ [ascii ".\n"] ∧ ls.flatten.length < 4000

theorem repliesWith_perform {st : MonitorStore} {o : Order} (ho : o.routed = true) {ls : List Bytes}
    (h : ((blankReply st .authenticated).perform o).lines = ls) (hfit : ls.flatten.length < 4000) :
    RepliesWith st .authenticated o ls := by
  refine ⟨?_, hfit⟩
  rw [Reply.order_of_ne (Reply.ne_nothing_of_routed ho), ← h]
  rfl

namespace Alike

variable {o o' : Order} {st : MonitorStore}

theorem symm (h : Alike o o') : Alike o' o :=
  ⟨fun st hs state => (h.said st hs state).symm, fun st hs state => (h.store st hs state).symm⟩

/-- They are answered with the same lines. -/
theorem lines (h : Alike o o') (hs : st.Sized) {state : MonitorCommandsState} {ls ls' : List Bytes}
    (hl : RepliesWith st state o ls) (hl' : RepliesWith st state o' ls') : ls.flatten = ls'.flatten := by
  have hlen : (ascii ".\n").length = 2 := by decide
  have hsaid := h.said st hs state
  rw [Reply.said_eq hl.1, Reply.said_eq hl'.1, List.flatten_append, List.flatten_append] at hsaid
  · exact List.append_cancel_right hsaid
  · rw [List.flatten_append, List.length_append, List.flatten_singleton, hlen]
    exact Nat.lt_of_lt_of_le (Nat.add_lt_add_right hl'.2 2) (by decide)
  · rw [List.flatten_append, List.length_append, List.flatten_singleton, hlen]
    exact Nat.lt_of_lt_of_le (Nat.add_lt_add_right hl.2 2) (by decide)

/-- They are answered with the same line. -/
theorem text (h : Alike o o') (ho : o.routed = true) (ho' : o'.routed = true) (hs : st.Sized)
    {t t' : Bytes} (hl : ((blankReply st .authenticated).perform o).lines = [t])
    (hl' : ((blankReply st .authenticated).perform o').lines = [t'])
    (hfit : t.length < 4000) (hfit' : t'.length < 4000) : t = t' := by
  have hflat := h.lines hs (repliesWith_perform ho hl (by rwa [List.flatten_singleton]))
    (repliesWith_perform ho' hl' (by rwa [List.flatten_singleton]))
  rwa [List.flatten_singleton, List.flatten_singleton] at hflat

/-- They leave the same store. -/
theorem stored (h : Alike o o') (ho : o.routed = true) (ho' : o'.routed = true) (hs : st.Sized) :
    ((blankReply st .authenticated).perform o).store =
      ((blankReply st .authenticated).perform o').store := by
  have hstore := h.store st hs .authenticated
  rwa [Reply.order_of_ne (Reply.ne_nothing_of_routed ho),
    Reply.order_of_ne (Reply.ne_nothing_of_routed ho')] at hstore

end Alike

/-! ### Stores to tell them apart by -/

omit [Inet] in
theorem sized_storeCreate : storeCreate.Sized := by
  intro u hu
  rw [List.eq_of_mem_replicate hu]
  decide

/-- A store with a single user. -/
def onlyUser (user : Username) (password : Password) (role : StoreRole) : MonitorStore :=
  { storeCreate with
    users := ⟨true, user.1, password.1, role⟩ :: List.replicate 255 .zero
    userCount := 1 }

section OnlyUser

variable (user : Username) (password : Password) (role : StoreRole)

omit [Inet] in
theorem sized_onlyUser : (onlyUser user password role).Sized := by
  intro u hu
  rcases List.mem_cons.1 hu with rfl | hu
  · exact ⟨user.2, password.2⟩
  · rw [List.eq_of_mem_replicate hu]
    decide

omit [Inet] in
theorem storeFindUser_onlyUser (name : Bytes) :
    storeFindUser (onlyUser user password role) name = if user.1 = name then some 0 else none := by
  rw [storeFindUser, onlyUser, List.findIdx?_cons]
  dsimp only
  rw [Bool.true_and]
  by_cases hname : user.1 = name
  · rw [if_pos (beq_iff_eq.2 hname), if_pos hname]
  · rw [if_neg (fun h => hname (beq_iff_eq.1 h)), if_neg hname, Option.map_eq_none_iff,
      List.findIdx?_eq_none_iff]
    intro u hu
    rw [List.eq_of_mem_replicate hu]
    rfl

omit [Inet] in
theorem storeUserExists_onlyUser (name : Bytes) :
    storeUserExists (onlyUser user password role) name = decide (user.1 = name) := by
  rw [storeUserExists, onlyUser, List.any_cons]
  have hrest : (List.replicate 255 StoreUser.zero).any (fun u => u.used && u.username == name) =
      false := by
    rw [List.any_eq_false]
    intro u hu
    rw [List.eq_of_mem_replicate hu]
    exact Bool.false_ne_true
  rw [hrest, Bool.or_false, Bool.true_and, beq_eq_decide]

omit [Inet] in
theorem storeAdminAuthenticate_onlyUser (name pass : Bytes) :
    storeAdminAuthenticate (onlyUser user password .admin) name pass =
      if user.1 = name ∧ password.1 = pass then .ok else .invalid := by
  rw [storeAdminAuthenticate, onlyUser]
  dsimp only
  rw [List.find?_cons]
  dsimp only
  rw [Bool.true_and]
  by_cases hname : user.1 = name
  · rw [beq_iff_eq.2 hname]
    dsimp only
    by_cases hpass : password.1 = pass
    · rw [if_neg (not_not_intro hpass), if_pos rfl, if_pos ⟨hname, hpass⟩]
    · rw [if_pos hpass, if_neg fun h => hpass h.2]
  · rw [beq_eq_false_iff_ne.2 hname, if_neg fun h => hname h.1]
    dsimp only
    have hrest : (List.replicate 255 StoreUser.zero).find? (fun u => u.used && u.username == name) =
        none := by
      rw [List.find?_eq_none]
      intro u hu
      rw [List.eq_of_mem_replicate hu]
      exact Bool.false_ne_true
    rw [hrest]

end OnlyUser

omit [Inet] in
/-- Nobody is registered in a new store. -/
theorem storeFindUser_storeCreate (name : Bytes) : storeFindUser storeCreate name = none := by
  rw [storeFindUser, List.findIdx?_eq_none_iff]
  intro u hu
  rw [List.eq_of_mem_replicate hu]
  rfl

omit [Inet] in
theorem storeAdminAuthenticate_storeCreate (name password : Bytes) :
    storeAdminAuthenticate storeCreate name password = .invalid := by
  have hnone : storeCreate.users.find? (fun u => u.used && u.username == name) = none := by
    rw [List.find?_eq_none]
    intro u hu
    rw [List.eq_of_mem_replicate hu]
    exact Bool.false_ne_true
  rw [storeAdminAuthenticate, hnone]

omit [Inet] in
/-- A new store has room for a user. -/
theorem storeUserAdd_storeCreate (name password : Bytes) (isAdmin : Bool) :
    storeUserAdd storeCreate name password isAdmin =
      ({ storeCreate with
          users := ⟨true, strncpyTerm name storeMaxUsername, strncpyTerm password storeMaxPassword,
            if isAdmin then .admin else .user⟩ :: List.replicate 255 .zero
          userCount := 1 }, .ok) := by
  have hslot : storeCreate.users.findIdx? (!·.used) = some 0 := rfl
  rw [storeUserAdd, storeFindUser_storeCreate, hslot]
  rfl

omit [Inet] in
theorem storeUserExists_storeCreate (name : Bytes) : storeUserExists storeCreate name = false := by
  rw [storeUserExists, List.any_eq_false]
  intro u hu
  rw [List.eq_of_mem_replicate hu]
  exact Bool.false_ne_true

omit [Inet] in
theorem storeUserDelete_onlyUser (user : Username) (password : Password) (name : Bytes) :
    (storeUserDelete (onlyUser user password .user) name).2 =
      if user.1 = name then .ok else .notFound := by
  rw [storeUserDelete, storeFindUser_onlyUser]
  by_cases hname : user.1 = name
  · rw [if_pos hname, if_pos hname]
    dsimp only
    rw [if_neg fun h => by cases h.1]
  · rw [if_neg hname, if_neg hname]

omit [Inet] in
theorem storeUserSetPassword_onlyUser (user : Username) (password : Password) (role : StoreRole)
    (name pass : Bytes) : (storeUserSetPassword (onlyUser user password role) name pass).2 =
      if user.1 = name then .ok else .notFound := by
  rw [storeUserSetPassword, storeFindUser_onlyUser]
  by_cases hname : user.1 = name
  · rw [if_pos hname, if_pos hname]
  · rw [if_neg hname, if_neg hname]

/-! ### What the commands say -/

section Lines

variable (r : Reply) (cmd : MonitorCmd)

/-- The answer to `AUTH`. -/
def authText : StoreAuthResult → Bytes
  | .ok => ascii "+OK\n"
  | .notAdmin => ascii "-ERR not admin\n"
  | .invalid => ascii "-ERR invalid credentials\n"

/-- The answer to `DEL_USER`. -/
def delUserText : StoreUserResult → Bytes
  | .ok => ascii "+OK\n"
  | .notFound => ascii "-ERR user not found\n"
  | .lastAdmin => ascii "-ERR cannot delete last admin\n"
  | _ => ascii "-ERR syntax error\n"

/-- The answer to `CONFIG` with a value. -/
def setConfigText : StoreConfigResult → Bytes
  | .ok => ascii "+OK\n"
  | .unknownKey => ascii "-ERR unknown param\n"
  | .invalidValue => ascii "-ERR invalid value\n"

omit [Inet] in
theorem lines_auth (h : 3 ≤ cmd.argc) : (r.auth cmd).lines =
    r.lines ++ [authText (storeAdminAuthenticate r.store (cmd.arg 1) (cmd.arg 2))] := by
  rw [Reply.auth, if_neg (Nat.not_lt.2 h)]
  cases storeAdminAuthenticate r.store (cmd.arg 1) (cmd.arg 2) <;> rfl

/-- The answer to `ADD_USER`. -/
def addUserText : StoreUserResult → Bytes
  | .ok => ascii "+OK\n"
  | .exists => ascii "-ERR user exists\n"
  | .tableFull => ascii "-ERR user table full\n"
  | _ => ascii "-ERR syntax error\n"

omit [Inet] in
theorem lines_addUser (h : 3 ≤ cmd.argc) : (r.addUser cmd).lines =
    r.lines ++ [addUserText (storeUserAdd r.store (cmd.arg 1) (cmd.arg 2)
      (decide (cmd.argc ≥ 4 ∧ cmd.arg 3 = ascii "admin"))).2] := by
  rw [Reply.addUser]
  dsimp only
  rw [if_neg (Nat.not_lt.2 h)]
  cases (storeUserAdd r.store (cmd.arg 1) (cmd.arg 2)
    (decide (cmd.argc ≥ 4 ∧ cmd.arg 3 = ascii "admin"))).2 <;> rfl

omit [Inet] in
theorem store_addUser (h : 3 ≤ cmd.argc) : (r.addUser cmd).store =
    (storeUserAdd r.store (cmd.arg 1) (cmd.arg 2)
      (decide (cmd.argc ≥ 4 ∧ cmd.arg 3 = ascii "admin"))).1 := by
  rw [Reply.addUser]
  dsimp only
  rw [if_neg (Nat.not_lt.2 h)]
  cases (storeUserAdd r.store (cmd.arg 1) (cmd.arg 2)
    (decide (cmd.argc ≥ 4 ∧ cmd.arg 3 = ascii "admin"))).2 <;> rfl

omit [Inet] in
theorem lines_delUser (h : 2 ≤ cmd.argc) : (r.delUser cmd).lines =
    r.lines ++ [delUserText (storeUserDelete r.store (cmd.arg 1)).2] := by
  rw [Reply.delUser, if_neg (Nat.not_lt.2 h)]
  dsimp only
  cases (storeUserDelete r.store (cmd.arg 1)).2 <;> rfl

omit [Inet] in
theorem lines_setPassword (h : 3 ≤ cmd.argc) : (r.setPassword cmd).lines =
    r.lines ++ [if (storeUserSetPassword r.store (cmd.arg 1) (cmd.arg 2)).2 = .ok
      then ascii "+OK\n" else ascii "-ERR user not found\n"] := by
  rw [Reply.setPassword, if_neg (Nat.not_lt.2 h)]
  dsimp only
  split <;> rfl

omit [Inet] in
theorem store_setPassword (h : 3 ≤ cmd.argc) : (r.setPassword cmd).store =
    (storeUserSetPassword r.store (cmd.arg 1) (cmd.arg 2)).1 := by
  rw [Reply.setPassword, if_neg (Nat.not_lt.2 h)]
  dsimp only
  split <;> rfl

omit [Inet] in
theorem lines_setConfig (key : StoreConfigKey) (value : ℕ) : (r.setConfig key value).lines =
    r.lines ++ [setConfigText (storeConfigSet r.store key value (r.realloc.headD true)).2] := by
  rw [Reply.setConfig]
  cases (storeConfigSet r.store key value (r.realloc.headD true)).2 <;> rfl

omit [Inet] in
theorem lines_accessLog (h : 2 ≤ cmd.argc) (hlog : r.store.logCount = 0) : (r.accessLog cmd).lines =
    r.lines ++ [if storeUserExists r.store (cmd.arg 1)
      then ascii "+OK Access log for user " ++ cmd.arg 1 ++ ascii ":\n"
      else ascii "-ERR user not found\n"] := by
  rw [Reply.accessLog, if_pos h, storeLogEntries, hlog]
  split <;> rfl

omit [Inet] in
theorem lines_deny (h : 2 ≤ cmd.argc) (isDenied : MonitorStore → Bytes → Bool)
    (deny : MonitorStore → Bytes → MonitorStore × Bool) (already : String) :
    (r.deny cmd isDenied deny already).lines =
      r.lines ++ [if isDenied r.store (cmd.arg 1) then ascii already
        else if (deny r.store (cmd.arg 1)).2 then ascii "+OK\n"
        else ascii "-ERR failed to add rule\n"] := by
  rw [Reply.deny, if_neg (Nat.not_lt.2 h)]
  split
  · rfl
  · dsimp only
    split <;> rfl

theorem lines_undeny (h : 2 ≤ cmd.argc) : (r.undeny cmd).lines =
    r.lines ++ [if (storeUndenyHost r.store (cmd.arg 1)).2 then ascii "+OK\n"
      else if (storeUndenyIp (storeUndenyHost r.store (cmd.arg 1)).1 (cmd.arg 1)).2
      then ascii "+OK\n" else ascii "-ERR rule not present\n"] := by
  rw [Reply.undeny, if_neg (Nat.not_lt.2 h)]
  dsimp only
  split
  · rfl
  · split <;> rfl

end Lines

/-! ### Telling the arguments of a command apart -/

section Shapes

variable {α : Type}

omit [Inet] in
/-- An argument is missing, or stands for nothing, or for something. -/
theorem option_option_inj {R : Option (Option α) → Option (Option α) → Prop}
    (hsymm : ∀ a b, R a b → R b a) (hmissing : ∀ x, ¬ R none (some x))
    (hnothing : ∀ u, ¬ R (some none) (some (some u)))
    (hsome : ∀ u v, R (some (some u)) (some (some v)) → u = v) {a b : Option (Option α)}
    (h : R a b) : a = b := by
  rcases a with _ | _ | u <;> rcases b with _ | _ | v
  · rfl
  · exact absurd h (hmissing _)
  · exact absurd h (hmissing _)
  · exact absurd (hsymm _ _ h) (hmissing _)
  · rfl
  · exact absurd h (hnothing v)
  · exact absurd (hsymm _ _ h) (hmissing _)
  · exact absurd (hsymm _ _ h) (hnothing u)
  · rw [hsome u v h]

omit [Inet] in
/-- An argument is missing, or there. -/
theorem option_inj {R : Option α → Option α → Prop} (hsymm : ∀ a b, R a b → R b a)
    (hmissing : ∀ x, ¬ R none (some x)) (hsome : ∀ u v, R (some u) (some v) → u = v)
    {a b : Option α} (h : R a b) : a = b := by
  rcases a with _ | u <;> rcases b with _ | v
  · rfl
  · exact absurd h (hmissing v)
  · exact absurd (hsymm _ _ h) (hmissing u)
  · rw [hsome u v h]

end Shapes

namespace Alike

variable {st : MonitorStore}

/-! The arguments of `AUTH` are those of a session that has not authenticated. -/

theorem repliesWith_auth (st : MonitorStore) (user : Username) (password : Password) :
    RepliesWith st .awaitAuth (.auth (some (some (user, password))))
      [authText (storeAdminAuthenticate st user.1 password.1)] := by
  refine ⟨?_, ?_⟩
  · have hlines := lines_auth (blankReply st .awaitAuth)
      ⟨[ascii "AUTH", user.1, password.1]⟩ (Nat.le_refl 3)
    rw [Reply.order_of_ne fun heq => by cases heq]
    show ((blankReply st .awaitAuth).auth _).lines ++ [ascii ".\n"] = _
    rw [hlines]
    rfl
  · cases storeAdminAuthenticate st user.1 password.1 <;> decide

theorem auth_inj {a a' : Option (Option (Username × Password))} (h : Alike (.auth a) (.auth a')) :
    a = a' := by
  have hmissing (st : MonitorStore) : RepliesWith st .awaitAuth (.auth none)
      [ascii "-ERR syntax error\n"] := ⟨rfl, by decide⟩
  have hnobody (st : MonitorStore) : RepliesWith st .awaitAuth (.auth (some none))
      [ascii "-ERR invalid credentials\n"] := ⟨rfl, by decide⟩
  have hin (user : Username) (password : Password) :
      RepliesWith (onlyUser user password .admin) .awaitAuth
      (.auth (some (some (user, password)))) [ascii "+OK\n"] := by
    have hans := repliesWith_auth (onlyUser user password .admin) user password
    rwa [storeAdminAuthenticate_onlyUser, if_pos ⟨rfl, rfl⟩] at hans
  refine option_option_inj (R := fun a a' => Alike (.auth a) (.auth a'))
    (fun _ _ => symm) (fun x h => ?_) (fun u h => ?_) (fun u u' h => ?_) h
  · have hnew : RepliesWith storeCreate .awaitAuth (.auth (some x))
        [ascii "-ERR invalid credentials\n"] := by
      cases x with
      | none => exact hnobody storeCreate
      | some u =>
        have hans := repliesWith_auth storeCreate u.1 u.2
        rwa [storeAdminAuthenticate_storeCreate] at hans
    exact absurd (h.lines sized_storeCreate (hmissing _) hnew) (by decide)
  · exact absurd (h.lines (sized_onlyUser u.1 u.2 .admin) (hnobody _) (hin u.1 u.2)) (by decide)
  · by_contra hne
    have hans := repliesWith_auth (onlyUser u.1 u.2 .admin) u'.1 u'.2
    rw [storeAdminAuthenticate_onlyUser, if_neg fun heq =>
      hne (Prod.ext (Subtype.ext heq.1) (Subtype.ext heq.2))] at hans
    exact absurd (h.lines (sized_onlyUser u.1 u.2 .admin) (hin u.1 u.2) hans) (by decide)

theorem perform_delUser (st : MonitorStore) (user : Username) :
    ((blankReply st .authenticated).perform (.delUser (some (some user)))).lines =
      [delUserText (storeUserDelete st user.1).2] :=
  lines_delUser (blankReply st .authenticated) ⟨[ascii "DEL_USER", user.1]⟩ (Nat.le_refl 2)

theorem delUser_inj {a a' : Option (Option Username)} (h : Alike (.delUser a) (.delUser a')) :
    a = a' := by
  have hin : ∀ user user' : Username,
      (storeUserDelete (onlyUser user ⟨[], Nat.zero_le _⟩ .user) user'.1).2 =
        if user.1 = user'.1 then .ok else .notFound :=
    fun user user' => storeUserDelete_onlyUser user _ user'.1
  refine option_option_inj (R := fun a a' => Alike (.delUser a) (.delUser a'))
    (fun _ _ => symm) (fun x h => ?_) (fun user h => ?_) (fun user user' h => ?_) h
  · have hnew : ((blankReply storeCreate .authenticated).perform (.delUser (some x))).lines =
        [ascii "-ERR user not found\n"] := by
      cases x with
      | none => rfl
      | some user =>
        rw [perform_delUser, storeUserDelete, storeFindUser_storeCreate]
        rfl
    exact absurd (h.text rfl rfl sized_storeCreate rfl hnew (by decide) (by decide)) (by decide)
  · have hok := (hin user user).trans (if_pos rfl)
    have hsaid := perform_delUser (onlyUser user ⟨[], Nat.zero_le _⟩ .user) user
    rw [hok] at hsaid
    exact absurd (h.text rfl rfl (sized_onlyUser user _ _) rfl hsaid (by decide) (by decide))
      (by decide)
  · have hok := (hin user user).trans (if_pos rfl)
    have hsaid := perform_delUser (onlyUser user ⟨[], Nat.zero_le _⟩ .user) user
    have hsaid' := perform_delUser (onlyUser user ⟨[], Nat.zero_le _⟩ .user) user'
    rw [hok] at hsaid
    by_contra hne
    rw [(hin user user').trans (if_neg fun heq => hne (Subtype.ext heq))] at hsaid'
    exact absurd (h.text rfl rfl (sized_onlyUser user _ _) hsaid hsaid' (by decide) (by decide))
      (by decide)

theorem perform_setPassword (st : MonitorStore) (user : Username) (password : Password) :
    ((blankReply st .authenticated).perform (.setPassword (some (some (user, password))))).lines =
      [if (storeUserSetPassword st user.1 password.1).2 = .ok
        then ascii "+OK\n" else ascii "-ERR user not found\n"] :=
  lines_setPassword (blankReply st .authenticated)
    ⟨[ascii "SET_PASSWORD", user.1, password.1]⟩ (Nat.le_refl 3)

theorem store_perform_setPassword (st : MonitorStore) (user : Username) (password : Password) :
    ((blankReply st .authenticated).perform (.setPassword (some (some (user, password))))).store =
      (storeUserSetPassword st user.1 password.1).1 :=
  store_setPassword (blankReply st .authenticated)
    ⟨[ascii "SET_PASSWORD", user.1, password.1]⟩ (Nat.le_refl 3)

theorem setPassword_inj {a a' : Option (Option (Username × Password))}
    (h : Alike (.setPassword a) (.setPassword a')) : a = a' := by
  have hin : ∀ (user user' : Username) (password : Password),
      ((blankReply (onlyUser user ⟨[], Nat.zero_le _⟩ .user) .authenticated).perform
        (.setPassword (some (some (user', password))))).lines =
          [if user.1 = user'.1 then ascii "+OK\n" else ascii "-ERR user not found\n"] := by
    intro user user' password
    rw [perform_setPassword, storeUserSetPassword_onlyUser]
    split <;> rfl
  refine option_option_inj (R := fun a a' => Alike (.setPassword a) (.setPassword a'))
    (fun _ _ => symm) (fun x h => ?_) (fun u h => ?_) (fun u u' h => ?_) h
  · have hnew : ((blankReply storeCreate .authenticated).perform (.setPassword (some x))).lines =
        [ascii "-ERR user not found\n"] := by
      cases x with
      | none => rfl
      | some u =>
        rw [show u = (u.1, u.2) from rfl, perform_setPassword, storeUserSetPassword,
          storeFindUser_storeCreate]
        rfl
    exact absurd (h.text rfl rfl sized_storeCreate rfl hnew (by decide) (by decide)) (by decide)
  · have hsaid := (hin u.1 u.1 u.2).trans (by rw [if_pos rfl])
    exact absurd (h.text rfl rfl (sized_onlyUser u.1 _ _) rfl hsaid (by decide) (by decide))
      (by decide)
  · have hsaid := (hin u.1 u.1 u.2).trans (by rw [if_pos rfl])
    have huser : u.1 = u'.1 := by
      by_contra hne
      have hsaid' := (hin u.1 u'.1 u'.2).trans
        (by rw [if_neg fun heq => hne (Subtype.ext heq)])
      exact absurd (h.text rfl rfl (sized_onlyUser u.1 _ _) hsaid hsaid' (by decide) (by decide))
        (by decide)
    have hkept : ∀ password : Password, ((blankReply (onlyUser u.1 ⟨[], Nat.zero_le _⟩ .user)
        .authenticated).perform (.setPassword (some (some (u.1, password))))).store.users.head?.map
          (·.password) = some password.1 := by
      intro password
      rw [store_perform_setPassword, storeUserSetPassword, storeFindUser_onlyUser, if_pos rfl]
      show some (strncpyTerm password.1 storeMaxPassword) = some password.1
      rw [strncpyTerm, List.take_of_length_le password.2]
    have hstored := h.stored rfl rfl (sized_onlyUser u.1 ⟨[], Nat.zero_le _⟩ .user)
    have hpass := (hkept u.2).symm.trans (congrArg (·.users.head?.map (·.password)) hstored)
    rw [show u' = (u.1, u'.2) from Prod.ext huser.symm rfl, hkept] at hpass
    exact Prod.ext huser (Subtype.ext (Option.some.inj hpass))

theorem perform_accessLog (hlog : st.logCount = 0) (user : Username) :
    ((blankReply st .authenticated).perform (.accessLog (some (some user)))).lines =
      [if storeUserExists st user.1 then ascii "+OK Access log for user " ++ user.1 ++ ascii ":\n"
        else ascii "-ERR user not found\n"] :=
  lines_accessLog (blankReply st .authenticated) ⟨[ascii "ACCESS_LOG", user.1]⟩ (Nat.le_refl 2) hlog

theorem accessLog_inj {a a' : Option (Option Username)} (h : Alike (.accessLog a) (.accessLog a')) :
    a = a' := by
  have hin : ∀ user user' : Username,
      ((blankReply (onlyUser user ⟨[], Nat.zero_le _⟩ .user) .authenticated).perform
        (.accessLog (some (some user')))).lines = [if user.1 = user'.1
          then ascii "+OK Access log for user " ++ user'.1 ++ ascii ":\n"
          else ascii "-ERR user not found\n"] := by
    intro user user'
    rw [perform_accessLog rfl, storeUserExists_onlyUser]
    split <;> simp_all
  have hfit : ∀ user : Username,
      (ascii "+OK Access log for user " ++ user.1 ++ ascii ":\n").length < 4000 := by
    intro user
    have hprefix : (ascii "+OK Access log for user ").length = 24 := by decide
    have hend : (ascii ":\n").length = 2 := by decide
    have huser : user.1.length ≤ 64 := user.2
    rw [List.length_append, List.length_append, hprefix, hend]
    omega
  -- the first byte says whether the user is there
  have hne : ∀ user : Username, ascii "+OK Access log for user " ++ user.1 ++ ascii ":\n" ≠
      ascii "-ERR user not found\n" := fun user heq =>
    absurd (congrArg List.head? heq) (by
      show some (43 : UInt8) ≠ some 45
      decide)
  refine option_option_inj (R := fun a a' => Alike (.accessLog a) (.accessLog a'))
    (fun _ _ => symm) (fun x h => ?_) (fun user h => ?_) (fun user user' h => ?_) h
  · have hnew : ((blankReply storeCreate .authenticated).perform (.accessLog (some x))).lines =
        [ascii "-ERR user not found\n"] := by
      cases x with
      | none => rfl
      | some user =>
        rw [perform_accessLog rfl, storeUserExists_storeCreate]
        rfl
    have hall : ((blankReply storeCreate .authenticated).perform (.accessLog none)).lines =
        [ascii "+OK Access log for all users:\n"] := rfl
    exact absurd (h.text rfl rfl sized_storeCreate hall hnew (by decide) (by decide)) (by decide)
  · have hsaid := (hin user user).trans (by rw [if_pos rfl])
    exact hne user (h.text rfl rfl (sized_onlyUser user _ _) rfl hsaid (by decide) (hfit user)).symm
  · by_contra hdiff
    have hsaid := (hin user user).trans (by rw [if_pos rfl])
    have hsaid' := (hin user user').trans (by rw [if_neg fun heq => hdiff (Subtype.ext heq)])
    exact hne user (h.text rfl rfl (sized_onlyUser user _ _) hsaid hsaid' (hfit user) (by decide))

theorem denyHost_inj {a a' : Option Bytes} (h : Alike (.denyHost a) (.denyHost a')) : a = a' := by
  have hperform : ∀ (st : MonitorStore) (hostname : Bytes),
      ((blankReply st .authenticated).perform (.denyHost (some hostname))).lines =
        [if isHostDenied st hostname then ascii "-ERR host already denied\n"
          else if (storeDenyHost st hostname).2 then ascii "+OK\n"
          else ascii "-ERR failed to add rule\n"] := fun st hostname =>
    lines_deny (blankReply st .authenticated) ⟨[ascii "DENY_HOST", hostname]⟩ (Nat.le_refl 2) _ _ _
  refine option_inj (R := fun a a' => Alike (.denyHost a) (.denyHost a'))
    (fun _ _ => symm) (fun hostname h => ?_) (fun hostname hostname' h => ?_) h
  · refine absurd (h.text rfl rfl sized_storeCreate rfl (hperform _ hostname) (by decide) ?_) ?_
    · split_ifs <;> decide
    · split_ifs <;> decide
  · by_contra hne
    let st : MonitorStore := { storeCreate with deniedHosts := ⟨[(0, .host hostname)], some 0⟩ }
    have hst : st.Sized := sized_storeCreate
    have hden : ∀ name, isHostDenied st name = true ↔ hostname = name := fun name => by
      show ((hostname == name) || false) = true ↔ _
      rw [Bool.or_false, beq_iff_eq]
    have hsaid := (hperform st hostname).trans (by rw [if_pos ((hden hostname).2 rfl)])
    have hsaid' := (hperform st hostname').trans
      (by rw [if_neg fun hd => hne ((hden hostname').1 hd)])
    refine absurd (h.text rfl rfl hst hsaid hsaid' (by decide) ?_) ?_
    · split <;> decide
    · split <;> decide

theorem denyIp_inj {a a' : Option (Option IpAddr)} (h : Alike (.denyIp a) (.denyIp a')) :
    a = a' := by
  have hnew : ∀ addr : IpAddr,
      ((blankReply storeCreate .authenticated).perform (.denyIp (some (some addr)))).lines =
        [ascii "+OK\n"] := fun addr => by
    rw [Reply.perform, Reply.denyAddr, if_neg (by exact List.not_mem_nil)]
    rfl
  have hrules : ∀ addr : IpAddr,
      ((blankReply storeCreate .authenticated).perform
        (.denyIp (some (some addr)))).store.deniedAddresses.rules = [addr.rule] := fun addr => by
    rw [Reply.perform, Reply.denyAddr, if_neg (by exact List.not_mem_nil)]
    rfl
  refine option_option_inj (R := fun a a' => Alike (.denyIp a) (.denyIp a'))
    (fun _ _ => symm) (fun x h => ?_) (fun addr h => ?_) (fun addr addr' h => ?_) h
  · cases x with
    | none =>
      exact absurd (h.text rfl rfl sized_storeCreate rfl rfl (by decide) (by decide)) (by decide)
    | some addr =>
      exact absurd (h.text rfl rfl sized_storeCreate rfl (hnew addr) (by decide) (by decide))
        (by decide)
  · exact absurd (h.text rfl rfl sized_storeCreate rfl (hnew addr) (by decide) (by decide))
      (by decide)
  · have hstored := congrArg (·.deniedAddresses.rules) (h.stored rfl rfl sized_storeCreate)
    have heq := (hrules addr).symm.trans (hstored.trans (hrules addr'))
    exact IpAddr.rule_inj (List.cons.inj heq).1

theorem undeny_inj {a a' : Option Bytes} (h : Alike (.undeny a) (.undeny a')) : a = a' := by
  have hperform : ∀ (st : MonitorStore) (rule : Bytes),
      ((blankReply st .authenticated).perform (.undeny (some rule))).lines =
        [if (storeUndenyHost st rule).2 then ascii "+OK\n"
          else if (storeUndenyIp (storeUndenyHost st rule).1 rule).2 then ascii "+OK\n"
          else ascii "-ERR rule not present\n"] := fun st rule =>
    lines_undeny (blankReply st .authenticated) ⟨[ascii "UNDENY", rule]⟩ (Nat.le_refl 2)
  refine option_inj (R := fun a a' => Alike (.undeny a) (.undeny a'))
    (fun _ _ => symm) (fun rule h => ?_) (fun rule rule' h => ?_) h
  · refine absurd (h.text rfl rfl sized_storeCreate rfl (hperform _ rule) (by decide) ?_) ?_
    · split_ifs <;> decide
    · split_ifs <;> decide
  · by_contra hne
    let st : MonitorStore := { storeCreate with deniedHosts := ⟨[(0, .host rule)], some 0⟩ }
    have hst : st.Sized := sized_storeCreate
    have hhost : (storeUndenyHost st rule).2 = true := by
      simp [st, storeUndenyHost, AclList.undeny, hostRuleMatch]
    have hother : storeUndenyHost st rule' = (st, false) := by
      simp [st, storeUndenyHost, AclList.undeny, hostRuleMatch, hne]
    have hip : (storeUndenyIp st rule').2 = false := by
      simp [st, storeUndenyIp, AclList.undeny, storeCreate]
    have hsaid := (hperform st rule).trans (by rw [if_pos hhost])
    have hsaid' := hperform st rule'
    rw [hother] at hsaid'
    dsimp only at hsaid'
    rw [hip, if_neg Bool.false_ne_true, if_neg Bool.false_ne_true] at hsaid'
    exact absurd (h.text rfl rfl hst hsaid hsaid' (by decide) (by decide))
      (by decide)

theorem denyList_inj {hosts ips hosts' ips' : Bool}
    (h : Alike (.denyList hosts ips) (.denyList hosts' ips')) :
    Order.denyList hosts ips = .denyList hosts' ips' := by
  have hlines : ∀ hosts ips : Bool, RepliesWith storeCreate .authenticated (.denyList hosts ips)
      ((if hosts then [ascii "+OK Denied hosts:\n"] else []) ++
        (if ips then [ascii "+OK Denied IPs:\n"] else [])) := fun hosts ips =>
    repliesWith_perform rfl rfl (by cases hosts <;> cases ips <;> decide)
  have hflat := h.lines sized_storeCreate (hlines hosts ips) (hlines hosts' ips')
  revert hflat
  cases hosts <;> cases ips <;> cases hosts' <;> cases ips' <;> decide

theorem perform_addUser (st : MonitorStore) (name : Bytes) (password : Password) (isAdmin : Bool) :
    ((blankReply st .authenticated).perform (.addUser (some (name, password, isAdmin)))).lines =
        [addUserText (storeUserAdd st name password.1 isAdmin).2] ∧
      ((blankReply st .authenticated).perform (.addUser (some (name, password, isAdmin)))).store =
        (storeUserAdd st name password.1 isAdmin).1 := by
  cases isAdmin with
  | false =>
    exact ⟨lines_addUser (blankReply st .authenticated)
        ⟨[ascii "ADD_USER", name, password.1, []]⟩ (Nat.le_succ 3),
      store_addUser (blankReply st .authenticated)
        ⟨[ascii "ADD_USER", name, password.1, []]⟩ (Nat.le_succ 3)⟩
  | true =>
    exact ⟨lines_addUser (blankReply st .authenticated)
        ⟨[ascii "ADD_USER", name, password.1, ascii "admin"]⟩ (Nat.le_succ 3),
      store_addUser (blankReply st .authenticated)
        ⟨[ascii "ADD_USER", name, password.1, ascii "admin"]⟩ (Nat.le_succ 3)⟩

/-- `ADD_USER` with the same name. -/
theorem addUser_inj {name : Bytes} {password password' : Password} {isAdmin isAdmin' : Bool}
    (h : Alike (.addUser (some (name, password, isAdmin)))
      (.addUser (some (name, password', isAdmin')))) :
    password = password' ∧ isAdmin = isAdmin' := by
  have hkept : ∀ (password : Password) (isAdmin : Bool),
      ((blankReply storeCreate .authenticated).perform
        (.addUser (some (name, password, isAdmin)))).store.users.head?.map
          (fun u => (u.password, u.role)) = some
            (password.1, if isAdmin then .admin else .user) := by
    intro password isAdmin
    rw [(perform_addUser _ _ _ _).2, storeUserAdd_storeCreate]
    show some (strncpyTerm password.1 storeMaxPassword, _) = _
    rw [strncpyTerm, List.take_of_length_le password.2]
  have hstored := congrArg (·.users.head?.map fun u => (u.password, u.role))
    (h.stored rfl rfl sized_storeCreate)
  have heq := Option.some.inj ((hkept _ _).symm.trans (hstored.trans (hkept _ _)))
  refine ⟨Subtype.ext (Prod.ext_iff.1 heq).1, ?_⟩
  have hrole := (Prod.ext_iff.1 heq).2
  cases isAdmin <;> cases isAdmin' <;> first | rfl | cases hrole

/-- `ADD_USER` with too few words. -/
theorem addUser_missing (name : Bytes) (password : Password) (isAdmin : Bool) :
    ¬ Alike (.addUser none) (.addUser (some (name, password, isAdmin))) := by
  intro h
  have hnew : ((blankReply storeCreate .authenticated).perform
      (.addUser (some (name, password, isAdmin)))).lines = [ascii "+OK\n"] := by
    rw [(perform_addUser _ _ _ _).1, storeUserAdd_storeCreate]
    rfl
  exact absurd (h.text rfl rfl sized_storeCreate rfl hnew (by decide) (by decide)) (by decide)

theorem perform_setConfig (key : StoreConfigKey) (value : ℕ) :
    ((blankReply storeCreate .authenticated).perform (.config (.set key value))).lines =
      [setConfigText (storeConfigSet storeCreate key value true).2] :=
  lines_setConfig (blankReply storeCreate .authenticated) key value

omit [Inet] in
/-- The orders of a known parameter with a word for a value. -/
theorem configOrder_value {cmd : MonitorCmd} {key : StoreConfigKey} (h : 3 ≤ cmd.argc)
    (hkey : storeConfigKeyFromName (cmd.arg 1) = some key) :
    cmd.configOrder = .invalidValue ∨
      ∃ value, cmd.configOrder = .set key value ∧ (storeConfigSet storeCreate key value true).2 = .ok := by
  rw [MonitorCmd.configOrder, if_neg (by omega), hkey]
  dsimp only
  rw [if_neg (by omega)]
  by_cases hnum : (strtol (cmd.arg 2)).2 = cmd.arg 2 ∨ (strtol (cmd.arg 2)).2 ≠ [] ∨
      (strtol (cmd.arg 2)).1 < 0
  · exact .inl (if_pos hnum)
  rw [if_neg hnum]
  have hnonneg : 0 ≤ (strtol (cmd.arg 2)).1 := by omega
  split
  · exact .inl rfl
  next htimeout =>
  split
  · exact .inl rfl
  next hcap =>
  split
  · exact .inl rfl
  next hsize =>
  refine .inr ⟨_, rfl, ?_⟩
  generalize (strtol (cmd.arg 2)).1 = value at hnonneg htimeout hcap hsize ⊢
  rw [storeConfigKeyFromName] at hkey
  by_cases hname : cmd.arg 1 = ascii "timeout"
  · rw [if_pos hname] at hkey
    obtain rfl := Option.some.inj hkey
    have hmax : ¬ value > 86400 := fun hv => htimeout ⟨hname, hv⟩
    rw [storeConfigSet, if_neg (by omega)]
  rw [if_neg hname] at hkey
  by_cases hname : cmd.arg 1 = ascii "max_connections"
  · rw [if_pos hname] at hkey
    obtain rfl := Option.some.inj hkey
    have hrange : ¬ (value < storeSessionsCapMin ∨ value > storeSessionsCapMax) :=
      fun hv => hcap ⟨hname, hv⟩
    have hmin : storeSessionsCapMin = 1 := rfl
    have hmax : storeSessionsCapMax = 16384 := rfl
    have hgrow : ∀ n, (storeGrowSessionsSlots storeCreate n true).2 = .ok := fun n => by
      rw [storeGrowSessionsSlots]
      split
      · rfl
      · rfl
    rw [storeConfigSet, if_neg (by omega),
      if_neg (show ¬ _ < storeCreate.metrics.concurrentConnections from Nat.not_lt_zero _)]
    split
    · split
      · rfl
      · next hne heq => exact absurd ((congrArg Prod.snd heq).symm.trans (hgrow _)) hne
    · rfl
  rw [if_neg hname] at hkey
  by_cases hname : cmd.arg 1 = ascii "io_buffer_size"
  · rw [if_pos hname] at hkey
    obtain rfl := Option.some.inj hkey
    have hrange : ¬ (value < 1024 ∨ value > 65536) := fun hv => hsize ⟨hname, hv⟩
    rw [storeConfigSet, if_neg (by omega)]
  · rw [if_neg hname] at hkey
    cases hkey

end Alike

omit [Inet] in
/-- What becomes of the words of a command. -/
theorem crAdded_args {cmd cmd' : MonitorCmd} (h : CrAdded cmd.args cmd'.args) :
    (cmd'.argc = cmd.argc + 1 ∧ (∀ i < cmd.argc, cmd'.arg i = cmd.arg i) ∧
        cmd'.arg cmd.argc = [13]) ∨
      (0 < cmd.argc ∧ cmd'.argc = cmd.argc ∧ (∀ i, i + 1 < cmd.argc → cmd'.arg i = cmd.arg i) ∧
        cmd'.arg (cmd.argc - 1) = cmd.arg (cmd.argc - 1) ++ [13]) := by
  simp only [MonitorCmd.argc, MonitorCmd.arg, List.getD_eq_getElem?_getD]
  rcases h with h | ⟨init, w, hw, hw'⟩
  · rw [h]
    refine .inl ⟨List.length_append, fun i hi => ?_, ?_⟩
    · rw [List.getElem?_append_left hi]
    · rw [List.getElem?_concat_length]
      rfl
  · rw [hw, hw']
    refine .inr ⟨by simp, by simp, fun i hi => ?_, ?_⟩
    · rw [List.length_append, List.length_singleton] at hi
      rw [List.getElem?_append_left (by omega), List.getElem?_append_left (by omega)]
    · rw [List.length_append, List.length_singleton, Nat.add_sub_cancel,
        List.getElem?_concat_length, List.getElem?_concat_length]
      rfl

omit [Inet] in
/-- No parameter has a return at its end. -/
theorem storeConfigKeyFromName_snoc (w : Bytes) : storeConfigKeyFromName (w ++ [13]) = none := by
  have hne : ∀ name : String, (ascii name).getLast? ≠ some 13 → w ++ [13] ≠ ascii name := by
    intro name hlast heq
    exact hlast (heq ▸ List.getLast?_concat)
  rw [storeConfigKeyFromName, if_neg (hne _ (by decide)), if_neg (hne _ (by decide)),
    if_neg (hne _ (by decide))]

omit [Inet] in
/-- A value with a return at its end is none. -/
theorem configOrder_snoc {cmd : MonitorCmd} {key : StoreConfigKey} (h : 3 ≤ cmd.argc)
    (hkey : storeConfigKeyFromName (cmd.arg 1) = some key) {w : Bytes}
    (harg : cmd.arg 2 = w ++ [13]) :
    cmd.configOrder = .invalidValue := by
  rw [MonitorCmd.configOrder, if_neg (by omega), hkey]
  dsimp only
  rw [if_neg (by omega)]
  exact if_pos (.inr (.inl (harg ▸ strtol_snoc w)))

omit [Inet] in
theorem configOrder_congr {cmd cmd' : MonitorCmd} (h : 3 ≤ cmd.argc) (h' : 3 ≤ cmd'.argc)
    (h1 : cmd'.arg 1 = cmd.arg 1) (h2 : cmd'.arg 2 = cmd.arg 2) :
    cmd.configOrder = cmd'.configOrder := by
  rw [MonitorCmd.configOrder, MonitorCmd.configOrder, if_neg (by omega), if_neg (by omega), h1, h2]
  cases storeConfigKeyFromName (cmd.arg 1) with
  | none => rfl
  | some key =>
    dsimp only
    rw [if_neg (show ¬ cmd.argc = 2 by omega), if_neg (show ¬ cmd'.argc = 2 by omega)]

omit [Inet] in
theorem configOrder_none {cmd : MonitorCmd} (h : 2 ≤ cmd.argc)
    (hkey : storeConfigKeyFromName (cmd.arg 1) = none) : cmd.configOrder = .unknownParam := by
  rw [MonitorCmd.configOrder, if_neg (by omega), hkey]

omit [Inet] in
theorem configOrder_get {cmd : MonitorCmd} {key : StoreConfigKey} (h : cmd.argc = 2)
    (hkey : storeConfigKeyFromName (cmd.arg 1) = some key) : cmd.configOrder = .get key := by
  rw [MonitorCmd.configOrder, if_neg (by omega), hkey]
  exact if_pos h

omit [Inet] in
theorem cmd_eq_arg (cmd : MonitorCmd) : cmd.cmd = cmd.arg 0 := by
  rw [MonitorCmd.cmd, MonitorCmd.arg]
  cases cmd.args <;> rfl

/-- `ADD_USER` has the same name before and after, whenever it has a password. -/
theorem Alike.addUser_args {cmd cmd' : MonitorCmd} (hcr : CrAdded cmd.args cmd'.args)
    (h : Alike (.addUser (if cmd.argc < 3 then none
        else some (cmd.arg 1, cutPassword (cmd.arg 2),
          decide (cmd.argc ≥ 4 ∧ cmd.arg 3 = ascii "admin"))))
      (.addUser (if cmd'.argc < 3 then none
        else some (cmd'.arg 1, cutPassword (cmd'.arg 2),
          decide (cmd'.argc ≥ 4 ∧ cmd'.arg 3 = ascii "admin"))))) :
    (if cmd.argc < 3 then none
      else some (cmd.arg 1, cutPassword (cmd.arg 2),
        decide (cmd.argc ≥ 4 ∧ cmd.arg 3 = ascii "admin"))) =
    (if cmd'.argc < 3 then none
      else some (cmd'.arg 1, cutPassword (cmd'.arg 2),
        decide (cmd'.argc ≥ 4 ∧ cmd'.arg 3 = ascii "admin"))) := by
  by_cases hfew : cmd.argc < 3
  · rw [if_pos hfew] at h ⊢
    by_cases hfew' : cmd'.argc < 3
    · rw [if_pos hfew']
    · rw [if_neg hfew'] at h
      exact absurd h (addUser_missing _ _ _)
  · have hargc : 3 ≤ cmd'.argc ∧ cmd'.arg 1 = cmd.arg 1 := by
      rcases crAdded_args hcr with ⟨hargc, hsame, -⟩ | ⟨-, hargc, hsame, -⟩
      · exact ⟨by omega, hsame 1 (by omega)⟩
      · exact ⟨by omega, hsame 1 (by omega)⟩
    rw [if_neg hfew, if_neg (Nat.not_lt.2 hargc.1), hargc.2] at h ⊢
    obtain ⟨hpassword, hadmin⟩ := h.addUser_inj
    rw [hpassword, hadmin]

theorem Alike.config_inj {cmd cmd' : MonitorCmd} (hcr : CrAdded cmd.args cmd'.args)
    (hhead : cmd'.arg 0 = cmd.arg 0)
    (h : Alike (.config cmd.configOrder) (.config cmd'.configOrder)) :
    cmd.configOrder = cmd'.configOrder := by
  have hsaid : ∀ {o o' : ConfigOrder} {t t' : Bytes}, Alike (.config o) (.config o') →
      ((blankReply storeCreate .authenticated).perform (.config o)).lines = [t] →
      ((blankReply storeCreate .authenticated).perform (.config o')).lines = [t'] →
      t.length < 4000 → t'.length < 4000 → t = t' :=
    fun h => h.text rfl rfl sized_storeCreate
  rcases crAdded_args hcr with ⟨hargc, hsame, hlast⟩ | ⟨hpos, hargc, hsame, hlast⟩
  · -- the return is a word
    rcases (by omega : cmd.argc = 0 ∨ cmd.argc = 1 ∨ cmd.argc = 2 ∨ 3 ≤ cmd.argc) with
      hn | hn | hn | hn
    · rw [hn, hhead] at hlast
      have hnil : cmd.args = [] := List.length_eq_zero_iff.1 hn
      rw [MonitorCmd.arg, hnil] at hlast
      cases hlast
    · rw [hn] at hlast hargc
      have hfew : cmd.configOrder = .tooFew := if_pos (by omega)
      have hnone :
          cmd'.configOrder = .unknownParam := configOrder_none (by omega) (by rw [hlast]; rfl)
      rw [hfew, hnone] at h
      exact absurd (hsaid h rfl rfl (by decide) (by decide)) (by decide)
    · have h1 := hsame 1 (by omega)
      rw [hn] at hlast
      cases hkey : storeConfigKeyFromName (cmd.arg 1) with
      | none => rw [configOrder_none (by omega) hkey, configOrder_none (by omega) (h1 ▸ hkey)]
      | some key =>
        rw [configOrder_get hn hkey, configOrder_snoc (w := []) (by omega) (h1 ▸ hkey) hlast] at h
        cases key
        · exact absurd (hsaid h rfl rfl (by decide) (by decide)) (by decide)
        · exact absurd (hsaid h rfl rfl (by decide) (by decide)) (by decide)
        · exact absurd (hsaid h rfl rfl (by decide) (by decide)) (by decide)
    · exact configOrder_congr hn (by omega) (hsame 1 (by omega)) (hsame 2 (by omega))
  · -- the return ends the last word
    rcases (by omega : cmd.argc = 1 ∨ cmd.argc = 2 ∨ cmd.argc = 3 ∨ 4 ≤ cmd.argc) with
      hn | hn | hn | hn
    · rw [hn, hhead] at hlast
      exact absurd hlast (by simp)
    · rw [hn] at hlast hargc
      have hnone : cmd'.configOrder = .unknownParam :=
        configOrder_none (by omega) (hlast ▸ storeConfigKeyFromName_snoc _)
      cases hkey : storeConfigKeyFromName (cmd.arg 1) with
      | none => rw [configOrder_none (by omega) hkey, hnone]
      | some key =>
        rw [configOrder_get hn hkey, hnone] at h
        cases key
        · exact absurd (hsaid h rfl rfl (by decide) (by decide)) (by decide)
        · exact absurd (hsaid h rfl rfl (by decide) (by decide)) (by decide)
        · exact absurd (hsaid h rfl rfl (by decide) (by decide)) (by decide)
    · have h1 := hsame 1 (by omega)
      rw [hn] at hlast hargc
      cases hkey : storeConfigKeyFromName (cmd.arg 1) with
      | none => rw [configOrder_none (by omega) hkey, configOrder_none (by omega) (h1 ▸ hkey)]
      | some key =>
        have hbad := configOrder_snoc (by omega) (h1 ▸ hkey) hlast
        rcases Alike.configOrder_value (by omega) hkey with hval | ⟨value, hval, hok⟩
        · rw [hval, hbad]
        · rw [hval, hbad] at h
          have hset := Alike.perform_setConfig key value
          rw [hok] at hset
          exact absurd (hsaid h hset rfl (by decide) (by decide)) (by decide)
    · exact configOrder_congr (by omega) (by omega) (hsame 1 (by omega)) (hsame 2 (by omega))

/-- Two commands of the same name, the one with a return more than the other. -/
theorem Alike.routeOrder_inj {cmd cmd' : MonitorCmd} (hcr : CrAdded cmd.args cmd'.args)
    (hhead : cmd'.arg 0 = cmd.arg 0) (h : Alike cmd.routeOrder cmd'.routeOrder) :
    cmd.routeOrder = cmd'.routeOrder := by
  have hcmd : cmd'.cmd = cmd.cmd := by rw [cmd_eq_arg, cmd_eq_arg, hhead]
  rw [MonitorCmd.routeOrder, MonitorCmd.routeOrder, hcmd] at h ⊢
  by_cases hc : cmd.cmd = ascii "STATS"
  · rw [if_pos hc, if_pos hc]
  rw [if_neg hc, if_neg hc] at h ⊢
  by_cases hc : cmd.cmd = ascii "CONNECTIONS"
  · rw [if_pos hc, if_pos hc]
  rw [if_neg hc, if_neg hc] at h ⊢
  by_cases hc : cmd.cmd = ascii "USERS"
  · rw [if_pos hc, if_pos hc]
  rw [if_neg hc, if_neg hc] at h ⊢
  by_cases hc : cmd.cmd = ascii "CONFIG"
  · rw [if_pos hc, if_pos hc] at h ⊢
    rw [h.config_inj hcr hhead]
  rw [if_neg hc, if_neg hc] at h ⊢
  by_cases hc : cmd.cmd = ascii "ACCESS_LOG"
  · rw [if_pos hc, if_pos hc] at h ⊢
    rw [h.accessLog_inj]
  rw [if_neg hc, if_neg hc] at h ⊢
  by_cases hc : cmd.cmd = ascii "ADD_USER"
  · rw [if_pos hc, if_pos hc] at h ⊢
    rw [h.addUser_args hcr]
  rw [if_neg hc, if_neg hc] at h ⊢
  by_cases hc : cmd.cmd = ascii "DEL_USER"
  · rw [if_pos hc, if_pos hc] at h ⊢
    rw [h.delUser_inj]
  rw [if_neg hc, if_neg hc] at h ⊢
  by_cases hc : cmd.cmd = ascii "SET_PASSWORD"
  · rw [if_pos hc, if_pos hc] at h ⊢
    rw [h.setPassword_inj]
  rw [if_neg hc, if_neg hc] at h ⊢
  by_cases hc : cmd.cmd = ascii "DENY_HOST"
  · rw [if_pos hc, if_pos hc] at h ⊢
    rw [h.denyHost_inj]
  rw [if_neg hc, if_neg hc] at h ⊢
  by_cases hc : cmd.cmd = ascii "DENY_IP"
  · rw [if_pos hc, if_pos hc] at h ⊢
    rw [h.denyIp_inj]
  rw [if_neg hc, if_neg hc] at h ⊢
  by_cases hc : cmd.cmd = ascii "UNDENY"
  · rw [if_pos hc, if_pos hc] at h ⊢
    rw [h.undeny_inj]
  rw [if_neg hc, if_neg hc] at h ⊢
  by_cases hc : cmd.cmd = ascii "DENY_LIST"
  · rw [if_pos hc, if_pos hc] at h ⊢
    exact h.denyList_inj
  rw [if_neg hc, if_neg hc]

omit [Inet] in
/-- No command has a return at its end. -/
theorem order_snoc [Inet] {cmd : MonitorCmd} {w : Bytes} (h : cmd.cmd = w ++ [13]) :
    cmd.order = .unknown := by
  have hne : ∀ name : String, (ascii name).getLast? ≠ some 13 → ¬ cmd.cmd = ascii name := by
    intro name hlast heq
    exact hlast (heq ▸ h ▸ List.getLast?_concat)
  rw [MonitorCmd.order, if_neg (h ▸ List.append_ne_nil_of_right_ne_nil w (List.cons_ne_nil _ _)),
    if_neg (hne _ (by decide)), MonitorCmd.routeOrder, if_neg (hne _ (by decide)),
    if_neg (hne _ (by decide)), if_neg (hne _ (by decide)), if_neg (hne _ (by decide)),
    if_neg (hne _ (by decide)), if_neg (hne _ (by decide)), if_neg (hne _ (by decide)),
    if_neg (hne _ (by decide)), if_neg (hne _ (by decide)), if_neg (hne _ (by decide)),
    if_neg (hne _ (by decide)), if_neg (hne _ (by decide)), if_neg (hne _ (by decide))]

theorem repliesWith_unknown : RepliesWith storeCreate .authenticated .unknown
    [ascii "-ERR unknown command\n"] := ⟨rfl, by decide⟩

theorem not_alike_nothing : ¬ Alike .nothing .unknown := by
  intro h
  have hsaid := h.said storeCreate sized_storeCreate .authenticated
  rw [Reply.said_eq repliesWith_unknown.1 (by decide), Reply.said,
    show ((blankReply storeCreate .authenticated).order .nothing).lines = [] from rfl,
    Buffer.offer_nil, Buffer.pending_init] at hsaid
  exact absurd hsaid (by decide)

omit [Inet] in
theorem storeActiveSessions_storeCreate : storeActiveSessions storeCreate = [] := by
  have hnone : storeCreate.sessions.filter (·.active) = [] := by
    rw [List.filter_eq_nil_iff]
    intro node hnode
    rw [List.eq_of_mem_replicate hnode]
    exact Bool.false_ne_true
  rw [storeActiveSessions, hnone]
  rfl

omit [Inet] in
theorem storeUsers_storeCreate : storeUsers storeCreate = [] := by
  have hnone : storeCreate.users.filter (·.used) = [] := by
    rw [List.filter_eq_nil_iff]
    intro u hu
    rw [List.eq_of_mem_replicate hu]
    exact Bool.false_ne_true
  rw [storeUsers, hnone]
  rfl

omit [Inet] in
theorem lines_lists {α : Type} {items : List α} (text : α → Bytes) (h : items = []) :
    ((blankReply storeCreate .authenticated).lists items text).lines = [ascii "+OK\n"] := by
  rw [Reply.lists, if_pos h]
  rfl

theorem perform_stats : ((blankReply storeCreate .authenticated).perform .stats).lines =
    [ascii "+OK total_connections=" ++ decimal 0 ++ ascii " concurrent_connections=" ++ decimal 0 ++
      ascii " bytes_up=" ++ decimal 0 ++ ascii " bytes_down=" ++ decimal 0 ++ ascii "\n"] := rfl

/-- A command without arguments says something else than that it is not known. -/
theorem Alike.unknown {cmd : MonitorCmd} (hargc : cmd.argc = 1) (h : Alike cmd.order .unknown) :
    cmd.order = .unknown := by
  have hsay : ∀ {o : Order} {ls : List Bytes}, Alike o .unknown →
      RepliesWith storeCreate .authenticated o ls → ls.flatten = ascii "-ERR unknown command\n" :=
    fun h hans => (h.lines sized_storeCreate hans repliesWith_unknown).trans List.flatten_singleton
  rw [MonitorCmd.order] at h ⊢
  by_cases hc : cmd.cmd = []
  · rw [if_pos hc] at h
    exact absurd h not_alike_nothing
  rw [if_neg hc] at h ⊢
  by_cases hc : cmd.cmd = ascii "AUTH"
  · rw [if_pos hc, if_pos (by omega)] at h
    have hans : RepliesWith storeCreate .authenticated (.auth none)
        [ascii "-ERR already authenticated\n"] := ⟨rfl, by decide⟩
    exact absurd (hsay h hans) (by decide)
  rw [if_neg hc, MonitorCmd.routeOrder] at h ⊢
  have hfew : ∀ {o : Order}, o.routed = true → Alike o .unknown →
      ((blankReply storeCreate .authenticated).perform o).lines ≠ [ascii "-ERR syntax error\n"] :=
    fun ho h hl => absurd (hsay h (repliesWith_perform ho hl (by decide))) (by decide)
  have hok : ∀ {o : Order}, o.routed = true → Alike o .unknown →
      ((blankReply storeCreate .authenticated).perform o).lines ≠ [ascii "+OK\n"] :=
    fun ho h hl => absurd (hsay h (repliesWith_perform ho hl (by decide))) (by decide)
  by_cases hc : cmd.cmd = ascii "STATS"
  · rw [if_pos hc] at h
    have hl : ((blankReply storeCreate .authenticated).perform .stats).lines = [ascii
        "+OK total_connections=0 concurrent_connections=0 bytes_up=0 bytes_down=0\n"] := by
      rw [perform_stats]
      decide +kernel
    exact absurd (hsay h (repliesWith_perform rfl hl (by decide +kernel))) (by decide +kernel)
  rw [if_neg hc] at h ⊢
  by_cases hc : cmd.cmd = ascii "CONNECTIONS"
  · rw [if_pos hc] at h
    refine absurd ?_ (hok rfl h)
    show ((blankReply storeCreate .authenticated).lists (storeActiveSessions storeCreate)
      connectionText).lines = _
    exact lines_lists connectionText storeActiveSessions_storeCreate
  rw [if_neg hc] at h ⊢
  by_cases hc : cmd.cmd = ascii "USERS"
  · rw [if_pos hc] at h
    refine absurd ?_ (hok rfl h)
    show ((blankReply storeCreate .authenticated).lists (storeUsers storeCreate) userText).lines = _
    exact lines_lists userText storeUsers_storeCreate
  rw [if_neg hc] at h ⊢
  by_cases hc : cmd.cmd = ascii "CONFIG"
  · rw [if_pos hc, show cmd.configOrder = .tooFew from if_pos (by omega)] at h
    exact absurd rfl (hfew rfl h)
  rw [if_neg hc] at h ⊢
  by_cases hc : cmd.cmd = ascii "ACCESS_LOG"
  · rw [if_pos hc, if_pos (by omega)] at h
    have hl : ((blankReply storeCreate .authenticated).perform (.accessLog none)).lines =
        [ascii "+OK Access log for all users:\n"] := rfl
    exact absurd (hsay h (repliesWith_perform rfl hl (by decide))) (by decide)
  rw [if_neg hc] at h ⊢
  by_cases hc : cmd.cmd = ascii "ADD_USER"
  · rw [if_pos hc, if_pos (by omega)] at h
    exact absurd rfl (hfew rfl h)
  rw [if_neg hc] at h ⊢
  by_cases hc : cmd.cmd = ascii "DEL_USER"
  · rw [if_pos hc, if_pos (by omega)] at h
    exact absurd rfl (hfew rfl h)
  rw [if_neg hc] at h ⊢
  by_cases hc : cmd.cmd = ascii "SET_PASSWORD"
  · rw [if_pos hc, if_pos (by omega)] at h
    exact absurd rfl (hfew rfl h)
  rw [if_neg hc] at h ⊢
  by_cases hc : cmd.cmd = ascii "DENY_HOST"
  · rw [if_pos hc, if_pos (by omega)] at h
    exact absurd rfl (hfew rfl h)
  rw [if_neg hc] at h ⊢
  by_cases hc : cmd.cmd = ascii "DENY_IP"
  · rw [if_pos hc, if_pos (by omega)] at h
    exact absurd rfl (hfew rfl h)
  rw [if_neg hc] at h ⊢
  by_cases hc : cmd.cmd = ascii "UNDENY"
  · rw [if_pos hc, if_pos (by omega)] at h
    exact absurd rfl (hfew rfl h)
  rw [if_neg hc] at h ⊢
  by_cases hc : cmd.cmd = ascii "DENY_LIST"
  · rw [if_pos hc, decide_eq_true (.inl (by omega)), decide_eq_true (.inl (by omega))] at h
    have hl : ((blankReply storeCreate .authenticated).perform (.denyList true true)).lines =
        [ascii "+OK Denied hosts:\n", ascii "+OK Denied IPs:\n"] := rfl
    exact absurd (hsay h (repliesWith_perform rfl hl (by decide))) (by decide)
  rw [if_neg hc] at h ⊢
  by_cases hc : cmd.cmd = ascii "QUIT"
  · rw [if_pos hc] at h
    exact absurd rfl (hok rfl h)
  · rw [if_neg hc]

/-- **A return makes no difference to any session only when it makes none to the order.** -/
theorem Alike.order_inj {cmd cmd' : MonitorCmd} (hcr : CrAdded cmd.args cmd'.args)
    (h : Alike cmd.order cmd'.order) : cmd.order = cmd'.order := by
  by_cases hhead : cmd'.arg 0 = cmd.arg 0
  · have hcmd : cmd'.cmd = cmd.cmd := by rw [cmd_eq_arg, cmd_eq_arg, hhead]
    rw [MonitorCmd.order, MonitorCmd.order, hcmd] at h ⊢
    by_cases hc : cmd.cmd = []
    · rw [if_pos hc, if_pos hc]
    rw [if_neg hc, if_neg hc] at h ⊢
    by_cases hc : cmd.cmd = ascii "AUTH"
    · rw [if_pos hc, if_pos hc] at h ⊢
      rw [h.auth_inj]
    · rw [if_neg hc, if_neg hc] at h ⊢
      exact h.routeOrder_inj hcr hhead
  -- otherwise the return is in the first word
  have hfirst : cmd.argc ≤ 1 ∧ cmd'.cmd = cmd.cmd ++ [13] := by
    rw [cmd_eq_arg, cmd_eq_arg]
    rcases crAdded_args hcr with ⟨hargc, hsame, hlast⟩ | ⟨hpos, hargc, hsame, hlast⟩
    · have h0 : cmd.argc = 0 := by
        by_contra hne
        exact hhead (hsame 0 (by omega))
      have hnil : cmd.args = [] := List.length_eq_zero_iff.1 h0
      have harg : cmd.arg 0 = [] := by rw [MonitorCmd.arg, hnil]; rfl
      rw [h0] at hlast
      rw [hlast, harg]
      exact ⟨by omega, rfl⟩
    · have h1 : cmd.argc = 1 := by
        by_contra hne
        exact hhead (hsame 0 (by omega))
      rw [h1] at hlast
      exact ⟨by omega, hlast⟩
  have hunknown := order_snoc hfirst.2
  rw [hunknown] at h ⊢
  by_cases h0 : cmd.argc = 0
  · have hnil : cmd.args = [] := List.length_eq_zero_iff.1 h0
    have hcmd : cmd.cmd = [] := by rw [MonitorCmd.cmd, hnil]; rfl
    rw [MonitorCmd.order, if_pos hcmd] at h
    exact absurd h not_alike_nothing
  · exact h.unknown (by omega)

end Alike

/-! ## The fields of the users keep their size -/

section Sized

variable [Inet]

/-- Names and passwords are written within their fields. -/
theorem user_inBounds {op : StoreOp} {st : MonitorStore} {w : FieldWrite}
    (hw : w ∈ op.stringWrites st) (hf : w.field ≠ .ruleHost) : w.InBounds := by
  by_cases hop : ∀ h, op ≠ .denyHost h
  · exact op.inBounds st hop w hw
  · obtain ⟨hostname, hdeny⟩ := not_forall.1 hop
    obtain rfl := not_not.1 hdeny
    rw [StoreOp.stringWrites] at hw
    split at hw
    · exact absurd hw List.not_mem_nil
    split at hw
    · exact absurd hw List.not_mem_nil
    · exact absurd (congrArg FieldWrite.field (List.mem_singleton.1 hw)) hf

theorem texts_lt_apply {op : StoreOp} {st : MonitorStore} {f : StringField} (hf : f ≠ .ruleHost)
    (h : ∀ t ∈ st.texts f, t.length < f.size) : ∀ t ∈ (op.apply st).texts f, t.length < f.size := by
  intro t ht
  rcases texts_apply op ht with ht | ⟨w, hw, rfl, rfl⟩
  · exact h t ht
  · have hin := FieldWrite.inBounds_iff.1 (user_inBounds hw hf)
    obtain ⟨zeros, hz⟩ := w.write.bytes_eq
    rw [hz, List.length_append, List.length_cons] at hin
    omega

omit [Inet] in
theorem sized_iff {st : MonitorStore} :
    st.Sized ↔ ∀ f, f ≠ .ruleHost → ∀ t ∈ st.texts f, t.length < f.size := by
  constructor
  · intro h f hf t ht
    cases f with
    | username =>
      obtain ⟨u, hu, rfl⟩ := List.mem_map.1 ht
      exact Nat.lt_succ_of_le (h u hu).1
    | password =>
      obtain ⟨u, hu, rfl⟩ := List.mem_map.1 ht
      exact Nat.lt_succ_of_le (h u hu).2
    | ruleHost => exact absurd rfl hf
  · intro h u hu
    exact ⟨Nat.le_of_lt_succ (h .username (by nofun) _ (List.mem_map_of_mem hu)),
      Nat.le_of_lt_succ (h .password (by nofun) _ (List.mem_map_of_mem hu))⟩

theorem MonitorStore.Sized.applyOps {st : MonitorStore} (h : st.Sized) (ops : List StoreOp) :
    (applyOps st ops).Sized := by
  induction ops generalizing st with
  | nil => exact h
  | cons op ops ih =>
    exact ih (sized_iff.2 fun f hf => texts_lt_apply hf (sized_iff.1 h f hf))

theorem sized_processByte {c : Console} (h : c.store.Sized) (ch : UInt8) :
    (processByte c ch).store.Sized := by
  have hdispatch :
      ∀ (c : Console) (line : Bytes), c.store.Sized → (dispatchLine c line).store.Sized :=
    fun c line h => dispatchLine_store c line ▸ h.applyOps _
  rw [processByte]
  split
  · exact h
  split
  · dsimp only
    split
    · exact hdispatch _ _ h
    · exact h
  · exact h

theorem sized_monitorCommandsFeed {c : Console} (h : c.store.Sized) (x : Bytes) :
    (monitorCommandsFeed c x).store.Sized := by
  induction x generalizing c with
  | nil => exact h
  | cons ch x ih => exact ih (sized_processByte h ch)

end Sized

/-! ## The end of the input -/

/-- Two consoles of the same session and store, whatever was recorded of them. -/
structure SameEffect (c c' : Console) : Prop where
  wb : c.session.wb = c'.session.wb
  line : c.session.line = c'.session.line
  state : c.session.state = c'.session.state
  closeAfterFlush : c.session.closeAfterFlush = c'.session.closeAfterFlush
  store : c.store = c'.store

/-- What can be pending. -/
abbrev PendingLine : Type := {line : Bytes // line.length ≤ monitorLineMax}

section HalfClose

variable [Inet]

/-- The end of file with a line pending. -/
theorem answer_eof (k : Core) (h : k.line ≠ []) : k.answer .eof = k.idle.line k.line := by
  rw [Core.answer, frame, if_neg h]
  rfl

/-- A newline with a line pending that has room for one more byte. -/
theorem answer_newline (k : Core) (h : k.line ≠ []) (hlt : k.line.length < monitorLineMax) :
    k.answer (.byte 10) = k.idle.line (stripCr k.line) := by
  rw [Core.answer, frame, if_neg (Nat.not_le.2 hlt), if_pos rfl, if_neg h]
  rfl

omit [Inet] in
theorem frame_fst_of_end (line : Bytes) :
    (frame line .eof).1 = [] ∧ (frame line (.byte 10)).1 = [] := by
  refine ⟨rfl, ?_⟩
  rw [frame]
  split
  · rfl
  · rfl

/-- Two inputs that end a line have the same effect when they are answered alike. -/
theorem sameEffect_of_answer {c : Console}
    (h : c.core.answer .eof = c.core.answer (.byte 10)) :
    SameEffect (c.input .eof) (c.input (.byte 10)) := by
  have hcore : (c.input .eof).core = (c.input (.byte 10)).core := by
    rw [(c.input_moved .eof).core, (c.input_moved (.byte 10)).core, Core.input, Core.input, h,
      (frame_fst_of_end _).1, (frame_fst_of_end _).2]
  refine ⟨?_, congrArg Core.line hcore, congrArg Core.state hcore, congrArg Core.quit hcore,
    congrArg Core.store hcore⟩
  rw [(c.input_moved .eof).wb, (c.input_moved (.byte 10)).wb, h]

/-- A session with an empty buffer and a line pending. -/
def pendingConsole (st : MonitorStore) (state : MonitorCommandsState) (line : PendingLine) :
    Console where
  session := { MonitorCommandsSession.init with state := state, line := line.1, line_le := line.2 }
  store := st
  realloc := []
  hist := []

/-- The session says and stores the same at the end of file and at a newline. -/
theorem said_of_sameEffect {st : MonitorStore} {state : MonitorCommandsState} {line : PendingLine}
    (h : SameEffect ((pendingConsole st state line).input .eof)
      ((pendingConsole st state line).input (.byte 10))) :
    ((pendingConsole st state line).core.answer .eof).said =
        ((pendingConsole st state line).core.answer (.byte 10)).said ∧
      ((pendingConsole st state line).core.answer .eof).store =
        ((pendingConsole st state line).core.answer (.byte 10)).store := by
  have hwb := h.wb
  rw [((pendingConsole st state line).input_moved .eof).wb,
    ((pendingConsole st state line).input_moved (.byte 10)).wb] at hwb
  have hstore : ((pendingConsole st state line).input .eof).core.store =
      ((pendingConsole st state line).input (.byte 10)).core.store := h.store
  rw [((pendingConsole st state line).input_moved .eof).core,
    ((pendingConsole st state line).input_moved (.byte 10)).core] at hstore
  exact ⟨congrArg Buffer.pending hwb, hstore⟩

/-- What a session answers that has not authenticated, over a store without users. -/
theorem repliesWith_awaitAuth (o : Order) :
    o = .nothing ∨ ∃ t, RepliesWith storeCreate .awaitAuth o [t] ∧
    t ∈ [ascii "-ERR syntax error\n", ascii "-ERR invalid credentials\n",
      ascii "-ERR not authenticated\n"] := by
  by_cases ho : o.routed = true
  · refine .inr ⟨ascii "-ERR not authenticated\n", ⟨?_, by decide⟩, by decide⟩
    rw [Reply.order_of_ne (Reply.ne_nothing_of_routed ho)]
    show ((blankReply storeCreate .awaitAuth).awaiting o).lines ++ [ascii ".\n"] = _
    rw [Reply.admit_of_routed ho]
    rfl
  · cases o with
    | nothing => exact .inl rfl
    | auth credentials =>
      rcases credentials with _ | _ | ⟨user, password⟩
      · exact .inr ⟨ascii "-ERR syntax error\n", ⟨rfl, by decide⟩, by decide⟩
      · exact .inr ⟨ascii "-ERR invalid credentials\n", ⟨rfl, by decide⟩, by decide⟩
      · have hans := Alike.repliesWith_auth storeCreate user password
        rw [storeAdminAuthenticate_storeCreate] at hans
        exact .inr ⟨ascii "-ERR invalid credentials\n", hans, by decide⟩
    | _ => exact absurd rfl ho

/-- A new session never says that a line is too long because of what the line asks for. -/
theorem said_awaitAuth_ne (o : Order) :
    ((blankReply storeCreate .awaitAuth).order o).said ≠ ascii "-ERR line too long\n.\n" := by
  rcases repliesWith_awaitAuth o with rfl | ⟨t, hans, ht⟩
  · show ((Buffer.init monitorBufferSize).offer []).pending ≠ _
    rw [Buffer.offer_nil, Buffer.pending_init]
    decide
  · rcases List.mem_cons.1 ht with rfl | ht
    · rw [Reply.said_eq hans.1 (by decide)]
      decide
    rcases List.mem_cons.1 ht with rfl | ht
    · rw [Reply.said_eq hans.1 (by decide)]
      decide
    · rw [List.mem_singleton.1 ht] at hans
      rw [Reply.said_eq hans.1 (by decide)]
      decide

/-- **The end of file and a newline do the same to every session exactly when the pending line is
shorter than the limit and asks for the same without its return.** -/
theorem halfClose_iff (line : PendingLine) :
    (∀ (c : Console) (x : Bytes), c.store.Sized → (monitorCommandsFeed c x).session.line = line.1 →
      SameEffect (monitorCommandsFlushOnEof (monitorCommandsFeed c x))
        (monitorCommandsFeed c (x ++ [10]))) ↔
      line.1.length < monitorLineMax ∧ orderOf line.1 = orderOf (stripCr line.1) := by
  constructor
  · intro h
    -- the sessions with an empty buffer are enough
    have hsaid : ∀ (st : MonitorStore), st.Sized → ∀ state,
        ((pendingConsole st state line).core.answer .eof).said =
            ((pendingConsole st state line).core.answer (.byte 10)).said ∧
          ((pendingConsole st state line).core.answer .eof).store =
            ((pendingConsole st state line).core.answer (.byte 10)).store :=
      fun st hs state => said_of_sameEffect (h (pendingConsole st state line) [] hs rfl)
    have hlt : line.1.length < monitorLineMax := by
      by_contra hfull
      have hne : line.1 ≠ [] := fun hnil => hfull (by rw [hnil]; decide)
      have htwo := (hsaid storeCreate sized_storeCreate .awaitAuth).1
      have heof : (pendingConsole storeCreate .awaitAuth line).core.answer .eof =
          (blankReply storeCreate .awaitAuth).order (orderOf line.1) :=
        (answer_eof _ hne).trans (Reply.line_eq sized_storeCreate line.1)
      have hnl : ((pendingConsole storeCreate .awaitAuth line).core.answer (.byte 10)).lines =
          [ascii "-ERR line too long\n", ascii ".\n"] := by
        rw [Core.answer, frame, if_pos (show (pendingConsole storeCreate .awaitAuth line).core.line.length
          ≥ monitorLineMax from Nat.not_lt.1 hfull)]
        rfl
      rw [heof, Reply.said_eq hnl (by decide)] at htwo
      exact said_awaitAuth_ne _ (htwo.trans (by decide))
    refine ⟨hlt, ?_⟩
    by_cases hcr : line.1.getLast? = some 13
    · have hne : line.1 ≠ [] := fun hnil => by rw [hnil] at hcr; cases hcr
      have hline : line.1.dropLast ++ [13] = line.1 := List.dropLast_append_getLast? 13 hcr
      -- what the sessions show of the two orders
      have halike : Alike (orderOf (stripCr line.1)) (orderOf line.1) := by
        have heof : ∀ st, st.Sized → ∀ state, (pendingConsole st state line).core.answer .eof =
            (blankReply st state).order (orderOf line.1) := fun st hs state =>
          (answer_eof _ hne).trans (Reply.line_eq hs line.1)
        have hnl : ∀ st, st.Sized → ∀ state, (pendingConsole st state line).core.answer (.byte 10) =
            (blankReply st state).order (orderOf (stripCr line.1)) := fun st hs state =>
          (answer_newline _ hne hlt).trans (Reply.line_eq hs (stripCr line.1))
        refine ⟨fun st hs state => ?_, fun st hs state => ?_⟩
        · rw [← heof st hs, ← hnl st hs]
          exact (hsaid st hs state).1.symm
        · rw [← heof st hs, ← hnl st hs]
          exact (hsaid st hs state).2.symm
      rw [stripCr, if_pos hcr] at halike ⊢
      have hsplit := splitLine_snoc line.1.dropLast
      rw [hline] at hsplit
      rcases hsplit with hsame | hadded
      · rw [orderOf, orderOf, show splitLine line.1 = splitLine line.1.dropLast from
          congrArg MonitorCmd.mk hsame]
      · exact (halike.order_inj hadded).symm
    · rw [stripCr, if_neg hcr]
  · rintro ⟨hlt, horder⟩ c x hs hline
    have hfeed : monitorCommandsFeed c (x ++ [10]) = (monitorCommandsFeed c x).input (.byte 10) :=
      List.foldl_append
    rw [hfeed]
    refine sameEffect_of_answer ?_
    have hsized := sized_monitorCommandsFeed hs x
    generalize monitorCommandsFeed c x = c at hline hsized
    have hcore : c.core.line = line.1 := hline
    by_cases hnil : line.1 = []
    · rw [Core.answer, Core.answer, frame, frame, hcore, hnil]
      rfl
    · rw [answer_eof _ (hcore ▸ hnil), answer_newline _ (hcore ▸ hnil) (hcore ▸ hlt), hcore,
        Reply.line_eq hsized, Reply.line_eq hsized, horder]

end HalfClose

section Partial

attribute [local instance] InetText.inet

/-- **A return before the end of file makes the command another one.** -/
theorem return_at_eof_differs :
    ¬ ∀ (c : Console) (x : Bytes),
      SameEffect (monitorCommandsFlushOnEof (monitorCommandsFeed c x))
        (monitorCommandsFeed c (x ++ [10])) := by
  intro h
  have hwb := congrArg Buffer.pending (h (Console.loggedIn storeCreate) (ascii "STATS\r")).wb
  exact absurd hwb (by decide +kernel)

end Partial

end SocksProxy
