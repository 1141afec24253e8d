import SocksProxy.Monitor.Commands

/-!
# What a command is to answer

`Reply.line` says, for a line and the state it finds, what the lines of the response are and what
becomes of the store and of the session, without the buffer the response has to go through.  A
listing is the list of its items, one line for each.  `dispatchLine_eq` is the connection with the
code: `dispatch_line` does to a console what `Reply.line` says and offers the lines to `wb` one
after the other.
-/

set_option autoImplicit false

namespace SocksProxy

/-- What a line is to do: the lines of the response, and what it leaves. -/
structure Reply where
  lines : List Bytes
  store : MonitorStore
  realloc : List Bool
  state : MonitorCommandsState
  quit : Bool

namespace Reply

variable (r : Reply)

/-- More lines. -/
def tells (lines : List Bytes) : Reply := { r with lines := r.lines ++ lines }

/-- One more line, of the source. -/
def tell (text : String) : Reply := r.tells [ascii text]

/-- `AUTH`. -/
def auth (cmd : MonitorCmd) : Reply :=
  if cmd.argc < 3 then r.tell "-ERR syntax error\n"
  else match storeAdminAuthenticate r.store (cmd.arg 1) (cmd.arg 2) with
    | .ok => { r with state := .authenticated }.tell "+OK\n"
    | .notAdmin => r.tell "-ERR not admin\n"
    | .invalid => r.tell "-ERR invalid credentials\n"

/-- `STATS`. -/
def stats : Reply :=
  let metrics := r.store.metrics
  r.tells [ascii "+OK total_connections=" ++ decimal metrics.totalConnections ++
    ascii " concurrent_connections=" ++ decimal metrics.concurrentConnections ++
    ascii " bytes_up=" ++ decimal metrics.bytesUp.toNat ++
    ascii " bytes_down=" ++ decimal metrics.bytesDown.toNat ++ ascii "\n"]

/-- A listing with one line for each item, and a bare `+OK` when there is none. -/
def lists {α : Type} (items : List α) (text : α → Bytes) : Reply :=
  r.tells (if items = [] then [ascii "+OK\n"] else items.map text)

/-- `CONNECTIONS`. -/
def connections : Reply := r.lists (storeActiveSessions r.store) connectionText

/-- `USERS`. -/
def users : Reply := r.lists (storeUsers r.store) userText

/-- `CONFIG`. -/
def config (cmd : MonitorCmd) : Reply :=
  if cmd.argc < 2 then r.tell "-ERR syntax error\n"
  else match storeConfigKeyFromName (cmd.arg 1) with
    | none => r.tell "-ERR unknown param\n"
    | some key =>
      if cmd.argc = 2 then
        r.tells [ascii "+OK " ++ decimal (storeConfigGet r.store key) ++ ascii "\n"]
      else
        let (value, rest) := strtol (cmd.arg 2)
        if rest = cmd.arg 2 ∨ rest ≠ [] ∨ value < 0 then r.tell "-ERR invalid value\n"
        else if cmd.arg 1 = ascii "timeout" ∧ value > 86400 then
          r.tell "-ERR invalid value\n"
        else if cmd.arg 1 = ascii "max_connections" ∧
            (value < storeSessionsCapMin ∨ value > storeSessionsCapMax) then
          r.tell "-ERR invalid value\n"
        else if cmd.arg 1 = ascii "io_buffer_size" ∧ (value < 1024 ∨ value > 65536) then
          r.tell "-ERR invalid value\n"
        else
          let set := storeConfigSet r.store key (value.toNat % 2 ^ 32) (r.realloc.headD true)
          let r := { r with store := set.1, realloc := r.realloc.tail }
          match set.2 with
          | .ok => r.tell "+OK\n"
          | .unknownKey => r.tell "-ERR unknown param\n"
          | .invalidValue => r.tell "-ERR invalid value\n"

/-- `ACCESS_LOG`. -/
def accessLog (cmd : MonitorCmd) : Reply :=
  if cmd.argc ≥ 2 then
    if storeUserExists r.store (cmd.arg 1) then
      r.tells ((ascii "+OK Access log for user " ++ cmd.arg 1 ++ ascii ":\n") ::
        (storeLogEntries r.store (some (cmd.arg 1))).map logEntryText)
    else r.tell "-ERR user not found\n"
  else
    r.tells (ascii "+OK Access log for all users:\n" ::
      (storeLogEntries r.store none).map logEntryText)

/-- `ADD_USER`. -/
def addUser (cmd : MonitorCmd) : Reply :=
  let isAdmin := decide (cmd.argc ≥ 4 ∧ cmd.arg 3 = ascii "admin")
  if cmd.argc < 3 then r.tell "-ERR syntax error\n"
  else
    let add := storeUserAdd r.store (cmd.arg 1) (cmd.arg 2) isAdmin
    let r := { r with store := add.1 }
    match add.2 with
    | .ok => r.tell "+OK\n"
    | .exists => r.tell "-ERR user exists\n"
    | .tableFull => r.tell "-ERR user table full\n"
    | _ => r.tell "-ERR syntax error\n"

/-- `DEL_USER`. -/
def delUser (cmd : MonitorCmd) : Reply :=
  if cmd.argc < 2 then r.tell "-ERR syntax error\n"
  else
    let del := storeUserDelete r.store (cmd.arg 1)
    let r := { r with store := del.1 }
    match del.2 with
    | .ok => r.tell "+OK\n"
    | .notFound => r.tell "-ERR user not found\n"
    | .lastAdmin => r.tell "-ERR cannot delete last admin\n"
    | _ => r.tell "-ERR syntax error\n"

/-- `SET_PASSWORD`. -/
def setPassword (cmd : MonitorCmd) : Reply :=
  if cmd.argc < 3 then r.tell "-ERR syntax error\n"
  else
    let set := storeUserSetPassword r.store (cmd.arg 1) (cmd.arg 2)
    let r := { r with store := set.1 }
    if set.2 = .ok then r.tell "+OK\n" else r.tell "-ERR user not found\n"

/-- `QUIT`. -/
def quits : Reply := { r with quit := true }.tell "+OK\n"

/-- `DENY_HOST` and `DENY_IP`. -/
def deny (cmd : MonitorCmd) (isDenied : MonitorStore → Bytes → Bool)
    (deny : MonitorStore → Bytes → MonitorStore × Bool) (already : String) : Reply :=
  if cmd.argc < 2 then r.tell "-ERR syntax error\n"
  else if isDenied r.store (cmd.arg 1) then r.tell already
  else
    let res := deny r.store (cmd.arg 1)
    let r := { r with store := res.1 }
    if res.2 then r.tell "+OK\n" else r.tell "-ERR failed to add rule\n"

variable [Inet]

/-- `UNDENY`. -/
def undeny (cmd : MonitorCmd) : Reply :=
  if cmd.argc < 2 then r.tell "-ERR syntax error\n"
  else
    let host := storeUndenyHost r.store (cmd.arg 1)
    if host.2 then { r with store := host.1 }.tell "+OK\n"
    else
      let ip := storeUndenyIp host.1 (cmd.arg 1)
      let r := { r with store := ip.1 }
      if ip.2 then r.tell "+OK\n" else r.tell "-ERR rule not present\n"

/-- `DENY_LIST`. -/
def denyList (cmd : MonitorCmd) : Reply :=
  r.tells ((if cmd.argc < 2 ∨ cmd.arg 1 = ascii "host" then
      ascii "+OK Denied hosts:\n" :: r.store.deniedHosts.rules.map ruleText else []) ++
    (if cmd.argc < 2 ∨ cmd.arg 1 = ascii "ip" then
      ascii "+OK Denied IPs:\n" :: r.store.deniedAddresses.rules.map ruleText else []))

/-- The command of an authenticated session, `AUTH` apart. -/
def route (cmd : MonitorCmd) : Reply :=
  if cmd.cmd = ascii "STATS" then r.stats
  else if cmd.cmd = ascii "CONNECTIONS" then r.connections
  else if cmd.cmd = ascii "USERS" then r.users
  else if cmd.cmd = ascii "CONFIG" then r.config cmd
  else if cmd.cmd = ascii "ACCESS_LOG" then r.accessLog cmd
  else if cmd.cmd = ascii "ADD_USER" then r.addUser cmd
  else if cmd.cmd = ascii "DEL_USER" then r.delUser cmd
  else if cmd.cmd = ascii "SET_PASSWORD" then r.setPassword cmd
  else if cmd.cmd = ascii "DENY_HOST" then
    r.deny cmd isHostDenied storeDenyHost "-ERR host already denied\n"
  else if cmd.cmd = ascii "DENY_IP" then
    r.deny cmd isIpDenied storeDenyIp "-ERR address already denied\n"
  else if cmd.cmd = ascii "UNDENY" then r.undeny cmd
  else if cmd.cmd = ascii "DENY_LIST" then r.denyList cmd
  else if cmd.cmd = ascii "QUIT" then r.quits
  else r.tell "-ERR unknown command\n"

/-- A non-blank line, before the terminator. -/
def command (cmd : MonitorCmd) : Reply :=
  match r.state with
  | .awaitAuth =>
    if cmd.cmd = ascii "AUTH" then r.auth cmd else r.tell "-ERR not authenticated\n"
  | .authenticated =>
    if cmd.cmd = ascii "AUTH" then r.tell "-ERR already authenticated\n" else r.route cmd

/-- **What a line is to do.**  A blank line does nothing; any other is answered, and the answer ends
with the terminator. -/
def line (bs : Bytes) : Reply :=
  if (splitLine bs).cmd = [] then r else (r.command (splitLine bs)).tell ".\n"

end Reply

/-! ## What a console makes of a reply -/

/-- What a buffer makes of the lines it is offered: each goes in whole or not at all. -/
def Buffer.offer (b : Buffer) (lines : List Bytes) : Buffer :=
  lines.foldl (fun b text =>
    if text.length ≥ monitorBufferSize ∨ b.space < text.length then b else b.append text) b

@[simp] theorem Buffer.offer_nil (b : Buffer) : b.offer [] = b := rfl

theorem Buffer.offer_append (b : Buffer) (ls ms : List Bytes) :
    b.offer (ls ++ ms) = (b.offer ls).offer ms := by
  rw [offer, List.foldl_append]
  rfl

@[simp] theorem Buffer.limit_offer (b : Buffer) (lines : List Bytes) :
    (b.offer lines).limit = b.limit := by
  induction lines generalizing b with
  | nil => rfl
  | cons text lines ih =>
    refine (ih _).trans ?_
    dsimp only
    split
    · rfl
    · rfl

/-- Short lines that fit together all go in. -/
theorem Buffer.offer_fits (b : Buffer) {lines : List Bytes}
    (hshort : ∀ text ∈ lines, text.length < monitorBufferSize)
    (hfit : lines.flatten.length ≤ b.space) :
    (b.offer lines).pending = b.pending ++ lines.flatten ∧
      (b.offer lines).space = b.space - lines.flatten.length := by
  induction lines generalizing b with
  | nil => exact ⟨(List.append_nil _).symm, rfl⟩
  | cons text lines ih =>
    rw [List.flatten_cons, List.length_append] at hfit
    have htext : text.length ≤ b.space := by omega
    have hstep : b.offer (text :: lines) = (b.append text).offer lines := by
      show (if text.length ≥ monitorBufferSize ∨ b.space < text.length then b
        else b.append text).offer lines = _
      rw [if_neg]
      have := hshort text (List.mem_cons_self ..)
      omega
    have hspace := b.space_append htext
    obtain ⟨hp, hs⟩ := ih (b.append text) (fun t ht => hshort t (List.mem_cons_of_mem _ ht))
      (by omega)
    rw [hstep, hp, hs, b.pending_append htext, hspace, List.flatten_cons, List.length_append,
      List.append_assoc]
    exact ⟨rfl, by omega⟩

namespace Console

variable (c : Console)

/-- A reply that has done nothing yet. -/
def idle : Reply := ⟨[], c.store, c.realloc, c.session.state, c.session.closeAfterFlush⟩

/-- The lines are offered to `wb` one after the other. -/
def sayAll (lines : List Bytes) : Console := lines.foldl appendf c

/-- What a reply leaves, its lines apart. -/
def adopt (r : Reply) : Console :=
  { c with
    session := { c.session with state := r.state, closeAfterFlush := r.quit }
    store := r.store
    realloc := r.realloc }

/-- The console after a reply. -/
def obey (r : Reply) : Console := (c.adopt r).sayAll r.lines

@[simp] theorem adopt_idle : c.adopt c.idle = c := rfl

theorem sayAll_append (ls ms : List Bytes) : c.sayAll (ls ++ ms) = (c.sayAll ls).sayAll ms := by
  rw [sayAll, List.foldl_append]
  rfl

theorem append_eq_sayAll {text : Bytes} (h : text.length < monitorBufferSize) :
    c.append text = c.sayAll [text] := by
  show _ = { c with session := (commandsWbAppendf c.session text).1 }
  rw [commandsWbAppendf, if_neg (Nat.not_le_of_lt h)]
  rfl

theorem sayAll_map {α : Type} (text : α → Bytes) (items : List α) :
    c.sayAll (items.map text) = items.foldl (fun c a => c.appendf (text a)) c := by
  rw [sayAll, List.foldl_map]

theorem adopt_appendf (text : Bytes) (r : Reply) :
    (c.appendf text).adopt r = (c.adopt r).appendf text := by
  simp only [appendf, adopt, commandsWbAppendf, commandsWbAppend]
  by_cases hlong : text.length ≥ monitorBufferSize
  · simp only [hlong, if_true]
  · by_cases hfull : c.session.wb.space < text.length
    · simp only [hlong, hfull, if_true, if_false]
    · simp only [hlong, hfull, if_false]

/-- Whether the session is moved before or after the lines are offered makes no difference. -/
theorem adopt_sayAll (lines : List Bytes) (r : Reply) :
    (c.sayAll lines).adopt r = (c.adopt r).sayAll lines := by
  induction lines generalizing c with
  | nil => rfl
  | cons text lines ih => exact (ih _).trans (by rw [adopt_appendf]; rfl)

theorem obey_tells (r : Reply) (lines : List Bytes) :
    c.obey (r.tells lines) = (c.obey r).sayAll lines := by
  show (c.adopt r).sayAll (r.lines ++ lines) = _
  rw [sayAll_append]
  rfl

/-- Nothing differs but `wb`. -/
structure SameButWb (c c' : Console) : Prop where
  state : c'.session.state = c.session.state
  line : c'.session.line = c.session.line
  close : c'.session.closeAfterFlush = c.session.closeAfterFlush
  store : c'.store = c.store
  realloc : c'.realloc = c.realloc
  hist : c'.hist = c.hist

theorem sameButWb_appendf (text : Bytes) : c.SameButWb (c.appendf text) := by
  simp only [appendf, commandsWbAppendf, commandsWbAppend]
  split
  · exact ⟨rfl, rfl, rfl, rfl, rfl, rfl⟩
  · split <;> exact ⟨rfl, rfl, rfl, rfl, rfl, rfl⟩

theorem sameButWb_sayAll (lines : List Bytes) : c.SameButWb (c.sayAll lines) := by
  induction lines generalizing c with
  | nil => exact ⟨rfl, rfl, rfl, rfl, rfl, rfl⟩
  | cons text lines ih =>
    have h1 := c.sameButWb_appendf text
    have h2 := ih (c.appendf text)
    exact ⟨h2.state.trans h1.state, h2.line.trans h1.line, h2.close.trans h1.close,
      h2.store.trans h1.store, h2.realloc.trans h1.realloc, h2.hist.trans h1.hist⟩

theorem sayAll_wb (lines : List Bytes) :
    (c.sayAll lines).session.wb = c.session.wb.offer lines := by
  induction lines generalizing c with
  | nil => rfl
  | cons text lines ih =>
    refine (ih (c.appendf text)).trans ?_
    show _ = (if text.length ≥ monitorBufferSize ∨ c.session.wb.space < text.length then
      c.session.wb else c.session.wb.append text).offer lines
    congr 1
    simp only [appendf, commandsWbAppendf, commandsWbAppend]
    by_cases hlong : text.length ≥ monitorBufferSize
    · simp only [hlong, if_true, true_or]
    · by_cases hfull : c.session.wb.space < text.length
      · simp only [hlong, hfull, if_true, if_false, or_true]
      · simp only [hlong, hfull, if_false, or_self]

@[simp] theorem obey_wb (r : Reply) : (c.obey r).session.wb = c.session.wb.offer r.lines :=
  (c.adopt r).sayAll_wb r.lines

@[simp] theorem obey_state (r : Reply) : (c.obey r).session.state = r.state :=
  ((c.adopt r).sameButWb_sayAll r.lines).state

@[simp] theorem obey_line (r : Reply) : (c.obey r).session.line = c.session.line :=
  ((c.adopt r).sameButWb_sayAll r.lines).line

@[simp] theorem obey_close (r : Reply) :
    (c.obey r).session.closeAfterFlush = r.quit :=
  ((c.adopt r).sameButWb_sayAll r.lines).close

@[simp] theorem obey_store (r : Reply) : (c.obey r).store = r.store :=
  ((c.adopt r).sameButWb_sayAll r.lines).store

@[simp] theorem obey_realloc (r : Reply) : (c.obey r).realloc = r.realloc :=
  ((c.adopt r).sameButWb_sayAll r.lines).realloc

@[simp] theorem obey_hist (r : Reply) : (c.obey r).hist = c.hist :=
  ((c.adopt r).sameButWb_sayAll r.lines).hist

/-- Lines of the source are short. -/
theorem obey_tell (r : Reply) (text : String) (h : (ascii text).length < monitorBufferSize) :
    c.obey (r.tell text) = (c.obey r).append (ascii text) := by
  rw [Reply.tell, obey_tells, append_eq_sayAll _ h]

@[simp] theorem obey_idle : c.obey c.idle = c := by
  rw [obey, adopt_idle]
  rfl

end Console

/-! ## The handlers -/

theorem foreach_any {α : Type} (l : List α) :
    foreach (fun (_ : α) (_ : Bool) => (true, true)) l false = !l.isEmpty := by
  cases l with
  | nil => rfl
  | cons a l =>
    rw [foreach_true, List.isEmpty_cons, Bool.not_false]
    induction l with
    | nil => rfl
    | cons b l ih => exact ih

section Handlers

variable (c : Console) (cmd : MonitorCmd)

theorem handleStats_eq : handleStats c = c.obey c.idle.stats := by
  rw [Reply.stats, Console.obey_tells, Console.obey_idle]
  rfl

/-- The two passes of a listing. -/
theorem listing_eq {α : Type} (items : List α) (text : α → Bytes) :
    (if (!foreach (fun (_ : α) (_ : Bool) => (true, true)) items false) = true
      then c.append (ascii "+OK\n")
      else foreach (fun a (c : Console) => (c.appendf (text a), true)) items c)
      = c.obey (c.idle.lists items text) := by
  rw [foreach_any, Bool.not_not, Reply.lists, Console.obey_tells, Console.obey_idle]
  cases items with
  | nil =>
    rw [List.isEmpty_nil, if_pos rfl, if_pos rfl, Console.append_eq_sayAll _ (by decide)]
  | cons a items =>
    rw [List.isEmpty_cons, if_neg Bool.false_ne_true, if_neg (List.cons_ne_nil a items),
      Console.sayAll_map, foreach_true fun a (c : Console) => c.appendf (text a)]

theorem handleConnections_eq : handleConnections c = c.obey c.idle.connections :=
  listing_eq c (storeActiveSessions c.store) connectionText

theorem handleUsers_eq : handleUsers c = c.obey c.idle.users :=
  listing_eq c (storeUsers c.store) userText

/-- A single line of the source. -/
theorem append_eq_obey (text : String) (h : (ascii text).length < monitorBufferSize) :
    c.append (ascii text) = c.obey (c.idle.tell text) := by
  rw [Console.obey_tell _ _ _ h, Console.obey_idle]

/-- The same after a call that moved the store. -/
theorem store_append_eq_obey (st : MonitorStore) (rs : List Bool) (text : String)
    (h : (ascii text).length < monitorBufferSize) :
    { c with store := st, realloc := rs : Console }.append (ascii text)
      = c.obey ({ c.idle with store := st, realloc := rs : Reply }.tell text) := by
  rw [Console.obey_tell _ _ _ h]
  rfl

theorem handleConfig_eq : handleConfig c cmd = c.obey (c.idle.config cmd) := by
  rw [handleConfig, Reply.config]
  by_cases h2 : cmd.argc < 2
  · rw [if_pos h2, if_pos h2]
    exact append_eq_obey c _ (by decide)
  rw [if_neg h2, if_neg h2]
  cases storeConfigKeyFromName (cmd.arg 1) with
  | none => exact append_eq_obey c _ (by decide)
  | some key =>
    dsimp only
    by_cases h3 : cmd.argc = 2
    · rw [if_pos h3, if_pos h3, Console.obey_tells, Console.obey_idle]
      rfl
    rw [if_neg h3, if_neg h3]
    -- the four checks of the value answer alike
    have hbad := append_eq_obey c "-ERR invalid value\n" (by decide)
    by_cases hnum : (strtol (cmd.arg 2)).2 = cmd.arg 2 ∨ (strtol (cmd.arg 2)).2 ≠ [] ∨
        (strtol (cmd.arg 2)).1 < 0
    · rw [if_pos hnum, if_pos hnum, hbad]
    rw [if_neg hnum, if_neg hnum]
    by_cases ht : cmd.arg 1 = ascii "timeout" ∧ (strtol (cmd.arg 2)).1 > 86400
    · rw [if_pos ht, if_pos ht, hbad]
    rw [if_neg ht, if_neg ht]
    by_cases hm : cmd.arg 1 = ascii "max_connections" ∧
        ((strtol (cmd.arg 2)).1 < storeSessionsCapMin ∨ (strtol (cmd.arg 2)).1 > storeSessionsCapMax)
    · rw [if_pos hm, if_pos hm, hbad]
    rw [if_neg hm, if_neg hm]
    by_cases hi : cmd.arg 1 = ascii "io_buffer_size" ∧
        ((strtol (cmd.arg 2)).1 < 1024 ∨ (strtol (cmd.arg 2)).1 > 65536)
    · rw [if_pos hi, if_pos hi, hbad]
    rw [if_neg hi, if_neg hi]
    simp only [Console.idle]
    rcases storeConfigSet c.store key ((strtol (cmd.arg 2)).1.toNat % 2 ^ 32)
      (c.realloc.headD true) with ⟨st, res⟩
    cases res <;> exact store_append_eq_obey c st _ _ (by decide)

theorem handleAccessLog_eq : handleAccessLog c cmd = c.obey (c.idle.accessLog cmd) := by
  have hall (c' : Console) (l : List StoreLogEntry) :
      foreach appendLogEntry l c' = c'.sayAll (l.map logEntryText) := by
    rw [Console.sayAll_map]
    exact foreach_true (fun e (c : Console) => c.appendf (logEntryText e)) l c'
  rw [handleAccessLog, Reply.accessLog]
  by_cases h2 : cmd.argc ≥ 2
  · simp only [h2, if_true]
    by_cases hu : storeUserExists c.store (cmd.arg 1) = true
    · rw [if_pos hu, if_pos (show storeUserExists c.idle.store (cmd.arg 1) = true from hu),
        Console.obey_tells, Console.obey_idle, storeLogForeach, hall]
      rfl
    · rw [if_neg hu, if_neg (show ¬ storeUserExists c.idle.store (cmd.arg 1) = true from hu)]
      exact append_eq_obey c _ (by decide)
  · simp only [h2, if_false]
    rw [Console.obey_tells, Console.obey_idle, storeLogForeach, hall,
      Console.append_eq_sayAll _ (by decide)]
    rfl

theorem handleAddUser_eq : handleAddUser c cmd = c.obey (c.idle.addUser cmd) := by
  rw [handleAddUser, Reply.addUser]
  by_cases h3 : cmd.argc < 3
  · simp only [h3, if_true]
    exact append_eq_obey c _ (by decide)
  · simp only [h3, if_false, Console.idle]
    rcases storeUserAdd c.store (cmd.arg 1) (cmd.arg 2)
      (decide (cmd.argc ≥ 4 ∧ cmd.arg 3 = ascii "admin")) with ⟨st, res⟩
    cases res <;> exact store_append_eq_obey c st c.realloc _ (by decide)

theorem handleDelUser_eq : handleDelUser c cmd = c.obey (c.idle.delUser cmd) := by
  rw [handleDelUser, Reply.delUser]
  by_cases h2 : cmd.argc < 2
  · simp only [h2, if_true]
    exact append_eq_obey c _ (by decide)
  · simp only [h2, if_false, Console.idle]
    rcases storeUserDelete c.store (cmd.arg 1) with ⟨st, res⟩
    cases res <;> exact store_append_eq_obey c st c.realloc _ (by decide)

theorem handleSetPassword_eq : handleSetPassword c cmd = c.obey (c.idle.setPassword cmd) := by
  rw [handleSetPassword, Reply.setPassword]
  by_cases h3 : cmd.argc < 3
  · simp only [h3, if_true]
    exact append_eq_obey c _ (by decide)
  · simp only [h3, if_false]
    by_cases hres : (storeUserSetPassword c.store (cmd.arg 1) (cmd.arg 2)).2 = .ok
    · rw [if_pos hres, if_pos (id hres : (storeUserSetPassword c.idle.store _ _).2 = .ok)]
      exact store_append_eq_obey c _ c.realloc _ (by decide)
    · rw [if_neg hres, if_neg (id hres : ¬ (storeUserSetPassword c.idle.store _ _).2 = .ok)]
      exact store_append_eq_obey c _ c.realloc _ (by decide)

theorem handleDeny_eq (isDenied : MonitorStore → Bytes → Bool)
    (deny : MonitorStore → Bytes → MonitorStore × Bool) (already : String)
    (h : (ascii already).length < monitorBufferSize) :
    handleDeny c cmd isDenied deny (ascii already)
      = c.obey (c.idle.deny cmd isDenied deny already) := by
  rw [handleDeny, Reply.deny]
  by_cases h2 : cmd.argc < 2
  · simp only [h2, if_true]
    exact append_eq_obey c _ (by decide)
  · simp only [h2, if_false]
    by_cases hd : isDenied c.store (cmd.arg 1) = true
    · rw [if_pos hd, if_pos (id hd : isDenied c.idle.store _ = true)]
      exact append_eq_obey c _ h
    · rw [if_neg hd, if_neg (id hd : ¬ isDenied c.idle.store _ = true)]
      by_cases hres : (deny c.store (cmd.arg 1)).2 = true
      · rw [if_pos hres, if_pos (id hres : (deny c.idle.store _).2 = true)]
        exact store_append_eq_obey c _ c.realloc _ (by decide)
      · rw [if_neg hres, if_neg (id hres : ¬ (deny c.idle.store _).2 = true)]
        exact store_append_eq_obey c _ c.realloc _ (by decide)

theorem handleQuit_eq : handleQuit c = c.obey c.idle.quits := by
  have h := Console.adopt_sayAll c [ascii "+OK\n"] { c.idle with quit := true }
  rw [handleQuit, Console.append_eq_sayAll _ (by decide), Reply.quits, Reply.tell,
    Console.obey_tells]
  refine Eq.trans ?_ h
  have hsame := c.sameButWb_sayAll [ascii "+OK\n"]
  simp only [Console.adopt, Console.idle, ← hsame.state, ← hsame.store, ← hsame.realloc]

theorem handleAuth_eq (h : c.session.state = .awaitAuth) :
    handleAuth c cmd = c.obey (c.idle.auth cmd) := by
  rw [handleAuth, Reply.auth, h, if_neg (by decide)]
  by_cases h3 : cmd.argc < 3
  · simp only [h3, if_true]
    exact append_eq_obey c _ (by decide)
  · simp only [h3, if_false, Console.idle]
    cases storeAdminAuthenticate c.store (cmd.arg 1) (cmd.arg 2) with
    | ok =>
      rw [Console.obey_tell _ _ _ (by decide)]
      rfl
    | invalid => exact append_eq_obey c _ (by decide)
    | notAdmin => exact append_eq_obey c _ (by decide)

variable [Inet]

theorem handleUndeny_eq : handleUndeny c cmd = c.obey (c.idle.undeny cmd) := by
  rw [handleUndeny, Reply.undeny]
  by_cases h2 : cmd.argc < 2
  · simp only [h2, if_true]
    exact append_eq_obey c _ (by decide)
  · simp only [h2, if_false]
    by_cases hhost : (storeUndenyHost c.store (cmd.arg 1)).2 = true
    · rw [if_pos hhost, if_pos (id hhost : (storeUndenyHost c.idle.store _).2 = true)]
      exact store_append_eq_obey c _ c.realloc _ (by decide)
    · rw [if_neg hhost, if_neg (id hhost : ¬ (storeUndenyHost c.idle.store _).2 = true)]
      by_cases hip : (storeUndenyIp (storeUndenyHost c.store (cmd.arg 1)).1 (cmd.arg 1)).2 = true
      · rw [if_pos hip,
          if_pos (id hip : (storeUndenyIp (storeUndenyHost c.idle.store _).1 _).2 = true)]
        exact store_append_eq_obey c _ c.realloc _ (by decide)
      · rw [if_neg hip,
          if_neg (id hip : ¬ (storeUndenyIp (storeUndenyHost c.idle.store _).1 _).2 = true)]
        exact store_append_eq_obey c _ c.realloc _ (by decide)

/-- A header with its rules, or nothing. -/
theorem appendRules_eq (p : Prop) [Decidable p] (header : String) (rules : List AclRule)
    (h : (ascii header).length < monitorBufferSize) :
    (if p then appendRules (c.append (ascii header)) rules else c)
      = c.sayAll (if p then ascii header :: rules.map ruleText else []) := by
  split
  · rw [appendRules, Console.append_eq_sayAll _ h, ← Console.sayAll_map]
    exact (Console.sayAll_append c [ascii header] _).symm
  · rfl

theorem handleDenyList_eq : handleDenyList c cmd = c.obey (c.idle.denyList cmd) := by
  rw [Reply.denyList, Console.obey_tells, Console.obey_idle, Console.sayAll_append]
  simp only [handleDenyList, decide_eq_true_eq]
  rw [appendRules_eq c _ _ _ (by decide), appendRules_eq _ _ _ _ (by decide),
    (c.sameButWb_sayAll _).store]
  rfl

/-! ## Dispatch -/

theorem routeCommand_eq : routeCommand c cmd = c.obey (c.idle.route cmd) := by
  rw [routeCommand, Reply.route]
  by_cases h : cmd.cmd = ascii "STATS"
  · rw [if_pos h, if_pos h, handleStats_eq]
  rw [if_neg h, if_neg h]
  by_cases h : cmd.cmd = ascii "CONNECTIONS"
  · rw [if_pos h, if_pos h, handleConnections_eq]
  rw [if_neg h, if_neg h]
  by_cases h : cmd.cmd = ascii "USERS"
  · rw [if_pos h, if_pos h, handleUsers_eq]
  rw [if_neg h, if_neg h]
  by_cases h : cmd.cmd = ascii "CONFIG"
  · rw [if_pos h, if_pos h, handleConfig_eq]
  rw [if_neg h, if_neg h]
  by_cases h : cmd.cmd = ascii "ACCESS_LOG"
  · rw [if_pos h, if_pos h, handleAccessLog_eq]
  rw [if_neg h, if_neg h]
  by_cases h : cmd.cmd = ascii "ADD_USER"
  · rw [if_pos h, if_pos h, handleAddUser_eq]
  rw [if_neg h, if_neg h]
  by_cases h : cmd.cmd = ascii "DEL_USER"
  · rw [if_pos h, if_pos h, handleDelUser_eq]
  rw [if_neg h, if_neg h]
  by_cases h : cmd.cmd = ascii "SET_PASSWORD"
  · rw [if_pos h, if_pos h, handleSetPassword_eq]
  rw [if_neg h, if_neg h]
  by_cases h : cmd.cmd = ascii "DENY_HOST"
  · rw [if_pos h, if_pos h]
    exact handleDeny_eq c cmd _ _ _ (by decide)
  rw [if_neg h, if_neg h]
  by_cases h : cmd.cmd = ascii "DENY_IP"
  · rw [if_pos h, if_pos h]
    exact handleDeny_eq c cmd _ _ _ (by decide)
  rw [if_neg h, if_neg h]
  by_cases h : cmd.cmd = ascii "UNDENY"
  · rw [if_pos h, if_pos h, handleUndeny_eq]
  rw [if_neg h, if_neg h]
  by_cases h : cmd.cmd = ascii "DENY_LIST"
  · rw [if_pos h, if_pos h, handleDenyList_eq]
  rw [if_neg h, if_neg h]
  by_cases h : cmd.cmd = ascii "QUIT"
  · rw [if_pos h, if_pos h, handleQuit_eq]
  rw [if_neg h, if_neg h]
  exact append_eq_obey c _ (by decide)

/-- **A line does what its reply says.** -/
theorem dispatchLine_eq (line : Bytes) : dispatchLine c line = c.obey (c.idle.line line) := by
  rw [dispatchLine, Reply.line]
  by_cases hblank : (splitLine line).cmd = []
  · rw [if_pos hblank, if_pos hblank, Console.obey_idle]
  rw [if_neg hblank, if_neg hblank, Console.obey_tell _ _ _ (by decide), Reply.command]
  cases hs : c.session.state with
  | awaitAuth =>
    rw [if_pos rfl, show c.idle.state = .awaitAuth from hs]
    by_cases ha : (splitLine line).cmd = ascii "AUTH"
    · rw [if_pos ha, handleAuth_eq _ _ hs]
      dsimp only
      rw [if_pos ha]
    · rw [if_neg ha, append_eq_obey c _ (by decide)]
      dsimp only
      rw [if_neg ha]
  | authenticated =>
    rw [if_neg (by decide), show c.idle.state = .authenticated from hs]
    by_cases ha : (splitLine line).cmd = ascii "AUTH"
    · rw [if_pos ha, append_eq_obey c _ (by decide)]
      dsimp only
      rw [if_pos ha]
    · rw [if_neg ha, routeCommand_eq]
      dsimp only
      rw [if_neg ha]

end Handlers

/-- A response ends with the terminator, if there is one. -/
theorem Reply.lines_line [Inet] (r : Reply) (bs : Bytes) (h : (splitLine bs).cmd ≠ []) :
    (r.line bs).lines = (r.command (splitLine bs)).lines ++ [ascii ".\n"] := by
  rw [Reply.line, if_neg h]
  rfl

/-- A response that ends with the terminator and is not longer than the free space goes in whole. -/
theorem Buffer.offer_terminated (b : Buffer) {lines : List Bytes} {term : Bytes}
    (hb : b.limit = monitorBufferSize) (hterm : term.length = 2)
    (hfit : (lines ++ [term]).flatten.length ≤ b.space) :
    (b.offer (lines ++ [term])).pending = b.pending ++ (lines ++ [term]).flatten ∧
      (b.offer (lines ++ [term])).space = b.space - (lines ++ [term]).flatten.length := by
  refine b.offer_fits (fun text ht => ?_) hfit
  have hle : b.space ≤ monitorBufferSize := by rw [Buffer.space, hb]; omega
  rw [List.flatten_append, List.length_append] at hfit
  have hone : [term].flatten.length = 2 := by simpa using hterm
  rcases List.mem_append.1 ht with ht | ht
  · have := (List.sublist_flatten_of_mem ht).length_le
    omega
  · rw [List.mem_singleton.1 ht, hterm]
    decide

end SocksProxy
