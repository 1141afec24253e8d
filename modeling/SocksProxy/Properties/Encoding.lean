import SocksProxy.Client.Protocol
import SocksProxy.Monitor.Lines
import SocksProxy.Shared.InetText

/-!
# What the client sends is what the server reads

The client pastes what was typed between blanks, and the server splits its lines at blanks.  A
`UserCommand` is a command about a user as either side understands it: `UserCommand.line` is what
`cmd_auth`, `cmd_add_user`, `cmd_del_user` and `cmd_set_password` write for it, `MonitorCmd.decoded`
is what the handlers take out of the words of a line, and `Reply.command_of_decoded` says that they
take out nothing else.

The two agree as long as nothing typed holds a blank and the line does not end in a carriage return
of its own, which `input_line` and `input_password` never let through.  The lengths are no obstacle:
the longest line stays below the limit of the server, and four words are fewer than eight.
-/

set_option autoImplicit false

namespace SocksProxy

/-- A command about a user. -/
inductive UserCommand where
  | auth (user pass : Bytes)
  | addUser (user pass : Bytes) (admin : Bool)
  | delUser (user : Bytes)
  | setPassword (user pass : Bytes)
  deriving DecidableEq

namespace UserCommand

/-- What was typed. -/
def values : UserCommand → List Bytes
  | .auth user pass => [user, pass]
  | .addUser user pass _ => [user, pass]
  | .delUser user => [user]
  | .setPassword user pass => [user, pass]

/-- What the client writes. -/
def line : UserCommand → Bytes
  | .auth user pass => authLine user pass
  | .addUser user pass admin => addUserLine user pass admin
  | .delUser user => delUserLine user
  | .setPassword user pass => setPasswordLine user pass

/-- The words the line is made of. -/
def words : UserCommand → List Bytes
  | .auth user pass => [ascii "AUTH", user, pass]
  | .addUser user pass true => [ascii "ADD_USER", user, pass, ascii "admin"]
  | .addUser user pass false => [ascii "ADD_USER", user, pass]
  | .delUser user => [ascii "DEL_USER", user]
  | .setPassword user pass => [ascii "SET_PASSWORD", user, pass]

end UserCommand

/-- What the handlers of `AUTH`, `ADD_USER`, `DEL_USER` and `SET_PASSWORD` read. -/
def MonitorCmd.decoded (cmd : MonitorCmd) : Option UserCommand :=
  if cmd.cmd = ascii "AUTH" then
    if cmd.argc < 3 then none else some (.auth (cmd.arg 1) (cmd.arg 2))
  else if cmd.cmd = ascii "ADD_USER" then
    if cmd.argc < 3 then none
    else some (.addUser (cmd.arg 1) (cmd.arg 2)
      (decide (cmd.argc ≥ 4 ∧ cmd.arg 3 = ascii "admin")))
  else if cmd.cmd = ascii "DEL_USER" then
    if cmd.argc < 2 then none else some (.delUser (cmd.arg 1))
  else if cmd.cmd = ascii "SET_PASSWORD" then
    if cmd.argc < 3 then none else some (.setPassword (cmd.arg 1) (cmd.arg 2))
  else none

/-- A text the screens can pass on: not empty, shorter than `MAX_INPUT_LEN`, without a newline.  It
is a C string. -/
structure Typable (text : Bytes) : Prop where
  ne_nil : text ≠ []
  short : text.length < maxInputLen
  newline : 10 ∉ text
  nul : 0 ∉ text

/-- Nothing typed holds a blank, and the line has no carriage return before its newline. -/
structure UserCommand.Plain (u : UserCommand) : Prop where
  blank : ∀ v ∈ u.values, 32 ∉ v
  cr : ∀ w ∈ u.words.getLast?, w.getLast? ≠ some 13

/-- What the client writes for a command is one line to the server, which reads that command in
it. -/
def Console.Decodes [Inet] (c : Console) (u : UserCommand) : Prop :=
  let c' := monitorCommandsFeed c u.line
  c'.session.line = [] ∧
    ∃ line, c'.hist = c.hist ++ [.line line c.store] ∧ (splitLine line).decoded = some u

/-! ## What the screens pass on -/

theorem mem_trimEol {text : Bytes} {b : UInt8} (h : b ∈ trimEol text) : b ∈ text := by
  rw [trimEol, List.mem_reverse] at h
  exact List.mem_reverse.1 ((List.dropWhile_sublist _).mem h)

theorem length_trimEol_le (text : Bytes) : (trimEol text).length ≤ text.length := by
  rw [trimEol, List.length_reverse]
  exact (List.dropWhile_sublist _).length_le.trans_eq List.length_reverse

theorem getLast?_trimEol (text : Bytes) : (trimEol text).getLast? ≠ some 13 := by
  rw [trimEol, List.getLast?_reverse]
  intro h
  have hd := List.head?_dropWhile_not (fun b : UInt8 => b == 10 || b == 13) text.reverse
  rw [h] at hd
  exact absurd hd (by decide)

theorem trimEol_newline (text : Bytes) : trimEol (text ++ [10]) = trimEol text := by
  rw [trimEol, List.reverse_append, List.reverse_singleton, List.singleton_append,
    List.dropWhile_cons_of_pos (by decide)]
  rfl

/-- A line of the input ends at its first newline. -/
theorem fgets_takes (max : ℕ) (stdin : Bytes) :
    (fgets max stdin).1 <+: stdin.takeWhile (· != 10) ++ [10] := by
  refine (List.take_prefix_take_left (Nat.min_le_right ..)).trans ?_
  have htake : stdin.take ((stdin.takeWhile (· != 10)).length + 1)
      = stdin.takeWhile (· != 10) ++ (stdin.dropWhile (· != 10)).take 1 := by
    rw [← List.take_length_add_append, List.takeWhile_append_dropWhile]
  rw [htake]
  refine (List.prefix_append_right_inj _).2 ?_
  rcases hd : stdin.dropWhile (· != 10) with - | ⟨b, bs⟩
  · exact List.nil_prefix
  · -- what comes after the line is its newline
    have hb := List.head?_dropWhile_not (fun b : UInt8 => b != 10) stdin
    rw [hd] at hb
    have : b = 10 := by simpa using hb
    rw [this]
    exact List.prefix_rfl

theorem newline_notMem_trimEol {text pre : Bytes} (hpre : 10 ∉ pre) (h : text <+: pre ++ [10]) :
    10 ∉ trimEol text := by
  intro hmem
  rcases List.prefix_concat_iff.1 h with rfl | h
  · rw [trimEol_newline] at hmem
    exact hpre (mem_trimEol hmem)
  · exact hpre (h.subset (mem_trimEol hmem))

/-- What the screens pass on is typable, and has no carriage return at its end. -/
theorem inputLine_typable {max : ℕ} (hmax : max ≤ maxInputLen) (stdin : Bytes)
    (h : (inputLine max stdin).1 ≠ []) :
    Typable (inputLine max stdin).1 ∧ (inputLine max stdin).1.getLast? ≠ some 13 := by
  have hcstr : cstr (fgets max stdin).1 <+: (fgets max stdin).1 := List.takeWhile_prefix _
  refine ⟨⟨h, ?_, ?_, ?_⟩, getLast?_trimEol _⟩
  · have hlen : (inputLine max stdin).1.length ≤ max - 1 :=
      calc (inputLine max stdin).1.length ≤ (cstr (fgets max stdin).1).length :=
            length_trimEol_le _
        _ ≤ (fgets max stdin).1.length := hcstr.length_le
        _ ≤ max - 1 := by
          rw [fgets, List.length_take]
          omega
    have hpos := List.length_pos_iff.2 h
    omega
  · exact newline_notMem_trimEol (fun hm => absurd (List.mem_takeWhile_imp hm) (by decide))
      (hcstr.trans (fgets_takes max stdin))
  · intro hm
    exact absurd (List.mem_takeWhile_imp (mem_trimEol hm)) (by decide)

theorem trimEol_of_getLast? {text : Bytes} (h10 : 10 ∉ text) (hcr : text.getLast? ≠ some 13) :
    trimEol text = text := by
  rw [trimEol, ← List.reverse_reverse text, List.reverse_reverse text.reverse]
  congr 1
  rcases hr : text.reverse with - | ⟨b, bs⟩
  · rfl
  · rw [← List.head?_reverse, hr] at hcr
    have hb : b ≠ 10 := by
      rintro rfl
      exact h10 (List.mem_reverse.1 (hr ▸ List.mem_cons_self ..))
    have hb' : b ≠ 13 := fun h => hcr (congrArg some h)
    exact List.dropWhile_cons_of_neg (by simp [hb, hb'])

/-- A typable text without a carriage return at its end is passed on as it is. -/
theorem inputLine_of_typable {text : Bytes} (h : Typable text) (hcr : text.getLast? ≠ some 13) :
    (inputLine maxInputLen (text ++ [10])).1 = text := by
  have hline : (text ++ [10]).takeWhile (· != 10) = text := by
    rw [List.takeWhile_append_of_pos (fun b hb => by
      have : b ≠ 10 := fun h10 => h.newline (h10 ▸ hb)
      simpa using this), List.takeWhile_cons_of_neg (by decide), List.append_nil]
  have hpre : text <+: (fgets maxInputLen (text ++ [10])).1 := by
    rw [fgets, hline]
    refine (List.prefix_take_iff).2 ⟨List.prefix_append .., ?_⟩
    have := h.short
    dsimp only [maxInputLen] at this ⊢
    omega
  have hle : (fgets maxInputLen (text ++ [10])).1 <+: text ++ [10] := List.take_prefix ..
  have hnul : 0 ∉ (fgets maxInputLen (text ++ [10])).1 := by
    intro hm
    rcases List.mem_append.1 (hle.subset hm) with hm | hm
    · exact h.nul hm
    · exact absurd hm (by decide)
  show trimEol (cstr (fgets maxInputLen (text ++ [10])).1) = text
  rw [cstr_of_notMem hnul]
  rcases List.prefix_concat_iff.1 hle with heq | hle
  · rw [heq, trimEol_newline, trimEol_of_getLast? h.newline hcr]
  · rw [hle.eq_of_length_le hpre.length_le, trimEol_of_getLast? h.newline hcr]

/-! ## Words -/

/-- Words joined by blanks are found again, but for the empty ones. -/
theorem tokens_intercalate {ws : List Bytes} (hws : ∀ w ∈ ws, 32 ∉ w) (hne : ws ≠ []) :
    tokens ([32].intercalate ws) = ws.filter (· ≠ []) := by
  rw [tokens, List.splitOn_intercalate 32 hws hne]

theorem notMem_of_mem_splitOn {a : UInt8} {line word : Bytes} (h : word ∈ line.splitOn a) :
    a ∉ word := by
  induction line generalizing word with
  | nil =>
    rw [List.splitOn_nil, List.mem_singleton] at h
    rw [h]
    exact List.not_mem_nil
  | cons b line ih =>
    rw [List.splitOn_cons_eq_if_modifyHead] at h
    split at h
    · rcases List.mem_cons.1 h with rfl | h
      · exact List.not_mem_nil
      · exact ih h
    · rename_i hb
      rcases hs : line.splitOn a with - | ⟨w, ws⟩
      · exact absurd hs (List.splitOn_ne_nil a line)
      · rw [hs] at h ih
        rcases List.mem_cons.1 h with rfl | h
        · intro hm
          rcases List.mem_cons.1 hm with rfl | hm
          · exact hb (beq_self_eq_true _)
          · exact ih (List.mem_cons_self ..) hm
        · exact ih (List.mem_cons_of_mem _ h)

theorem notMem_of_mem_args {line word : Bytes} (h : word ∈ (splitLine line).args) : 32 ∉ word :=
  notMem_of_mem_splitOn (List.mem_of_mem_filter (List.mem_of_mem_take h))

/-- The last of some joined words ends the text. -/
theorem intercalate_concat (sep : Bytes) (ws : List Bytes) :
    ∃ pre, ∀ w, sep.intercalate (ws ++ [w]) = pre ++ w := by
  induction ws with
  | nil => exact ⟨[], fun w => List.intercalate_singleton⟩
  | cons v ws ih =>
    obtain ⟨pre, hpre⟩ := ih
    refine ⟨v ++ sep ++ pre, fun w => ?_⟩
    rw [List.cons_append, List.intercalate_cons_of_ne_nil (by simp), hpre, List.append_assoc,
      List.append_assoc, List.append_assoc]

theorem mem_intercalate {sep : Bytes} {ws : List Bytes} {b : UInt8} (h : b ∈ sep.intercalate ws) :
    b ∈ sep ∨ ∃ w ∈ ws, b ∈ w := by
  induction ws with
  | nil => cases h
  | cons v ws ih =>
    by_cases hws : ws = []
    · rw [hws, List.intercalate_singleton] at h
      exact .inr ⟨v, List.mem_cons_self .., h⟩
    · rw [List.intercalate_cons_of_ne_nil hws, List.mem_append, List.mem_append] at h
      rcases h with (h | h) | h
      · exact .inr ⟨v, List.mem_cons_self .., h⟩
      · exact .inl h
      · rcases ih h with h | ⟨w, hw, h⟩
        · exact .inl h
        · exact .inr ⟨w, List.mem_cons_of_mem _ hw, h⟩

/-! ## What is read in a line -/

namespace UserCommand

variable (u : UserCommand)

theorem values_subset_words : u.values ⊆ u.words := by
  intro v hv
  rcases u with _ | ⟨_, _, _ | _⟩ | _ | _ <;>
    first
    | exact List.mem_cons_of_mem _ hv
    | exact List.mem_cons_of_mem _ (List.mem_append_left [ascii "admin"] hv)

theorem words_concat : ∃ ws w, u.words = ws ++ [w] := by
  refine (List.eq_nil_or_concat' u.words).resolve_left ?_
  rcases u with _ | ⟨_, _, _ | _⟩ | _ | _ <;> exact List.cons_ne_nil _ _

theorem length_words_le : u.words.length ≤ 8 := by
  rcases u with _ | ⟨_, _, _ | _⟩ | _ | _ <;> simp [words]

/-- The words of a command are read as that command. -/
theorem decoded_words : (⟨u.words⟩ : MonitorCmd).decoded = some u := by
  rcases u with _ | ⟨_, _, _ | _⟩ | _ | _ <;> rfl

end UserCommand

namespace MonitorCmd

variable {cmd : MonitorCmd}

theorem take_args_two (h : 2 ≤ cmd.argc) : cmd.args.take 2 = [cmd.cmd, cmd.arg 1] := by
  rcases cmd with ⟨_ | ⟨a, _ | ⟨b, args⟩⟩⟩
  · exact absurd h (by decide)
  · exact absurd h (by decide : ¬ 2 ≤ 1)
  · rfl

theorem take_args_three (h : 3 ≤ cmd.argc) :
    cmd.args.take 3 = [cmd.cmd, cmd.arg 1, cmd.arg 2] := by
  rcases cmd with ⟨_ | ⟨a, _ | ⟨b, _ | ⟨c, args⟩⟩⟩⟩
  · exact absurd h (by decide)
  · exact absurd h (by decide : ¬ 3 ≤ 1)
  · exact absurd h (by decide : ¬ 3 ≤ 2)
  · rfl

theorem take_args_four (h : 4 ≤ cmd.argc) :
    cmd.args.take 4 = [cmd.cmd, cmd.arg 1, cmd.arg 2, cmd.arg 3] := by
  rcases cmd with ⟨_ | ⟨a, _ | ⟨b, _ | ⟨c, _ | ⟨d, args⟩⟩⟩⟩⟩
  · exact absurd h (by decide)
  · exact absurd h (by decide : ¬ 4 ≤ 1)
  · exact absurd h (by decide : ¬ 4 ≤ 2)
  · exact absurd h (by decide : ¬ 4 ≤ 3)
  · rfl

/-- What is read in a line are its first words. -/
theorem words_prefix_of_decoded {u : UserCommand} (h : cmd.decoded = some u) :
    u.words <+: cmd.args := by
  unfold decoded at h
  split at h
  · rename_i hname
    split at h
    · cases h
    · rename_i hargc
      cases h
      rw [UserCommand.words, ← hname, ← take_args_three (Nat.le_of_not_lt hargc)]
      exact List.take_prefix ..
  split at h
  · rename_i hname
    split at h
    · cases h
    · rename_i hargc
      cases h
      by_cases hadmin : cmd.argc ≥ 4 ∧ cmd.arg 3 = ascii "admin"
      · rw [decide_eq_true hadmin, UserCommand.words, ← hname, ← hadmin.2,
          ← take_args_four hadmin.1]
        exact List.take_prefix ..
      · rw [decide_eq_false hadmin, UserCommand.words, ← hname,
          ← take_args_three (Nat.le_of_not_lt hargc)]
        exact List.take_prefix ..
  split at h
  · rename_i hname
    split at h
    · cases h
    · rename_i hargc
      cases h
      rw [UserCommand.words, ← hname, ← take_args_two (Nat.le_of_not_lt hargc)]
      exact List.take_prefix ..
  split at h
  · rename_i hname
    split at h
    · cases h
    · rename_i hargc
      cases h
      rw [UserCommand.words, ← hname, ← take_args_three (Nat.le_of_not_lt hargc)]
      exact List.take_prefix ..
  · cases h

end MonitorCmd

/-! ## What the server does with it -/

section

variable [Inet] (r : Reply) {cmd : MonitorCmd}

theorem Reply.command_of_cmd (name : Bytes) (hauth : name ≠ ascii "AUTH") (cmd' : MonitorCmd)
    (hcmd : cmd.cmd = name) (hcmd' : cmd'.cmd = name) (hroute : r.route cmd = r.route cmd') :
    r.command cmd = r.command cmd' := by
  rw [command, command, hcmd, hcmd', if_neg hauth, if_neg hauth, if_neg hauth, if_neg hauth, hroute]

theorem Reply.route_addUser (h : cmd.cmd = ascii "ADD_USER") : r.route cmd = r.addUser cmd := by
  rw [route, h]
  rfl

theorem Reply.route_delUser (h : cmd.cmd = ascii "DEL_USER") : r.route cmd = r.delUser cmd := by
  rw [route, h]
  rfl

theorem Reply.route_setPassword (h : cmd.cmd = ascii "SET_PASSWORD") :
    r.route cmd = r.setPassword cmd := by
  rw [route, h]
  rfl

/-- **The handlers look at nothing but what is decoded.** -/
theorem Reply.command_of_decoded {u : UserCommand} (h : cmd.decoded = some u) :
    r.command cmd = r.command ⟨u.words⟩ := by
  have hargs := MonitorCmd.words_prefix_of_decoded h
  obtain ⟨args⟩ := cmd
  obtain ⟨rest, rfl⟩ := hargs
  -- the words of the command are all there, whatever follows them
  have hargc : ∀ {n : ℕ}, n ≤ u.words.length →
      ¬ (⟨u.words ++ rest⟩ : MonitorCmd).argc < n := by
    intro n hn
    rw [MonitorCmd.argc, List.length_append]
    omega
  cases u with
  | auth user pass =>
    have hr : r.auth ⟨(UserCommand.auth user pass).words ++ rest⟩
        = r.auth ⟨(UserCommand.auth user pass).words⟩ := by
      rw [auth, auth, if_neg (hargc (Nat.le_refl 3))]
      rfl
    rw [command, command]
    cases r.state with
    | awaitAuth => exact hr
    | authenticated => rfl
  | addUser user pass admin =>
    have hadmin : decide ((⟨(UserCommand.addUser user pass admin).words ++ rest⟩ :
        MonitorCmd).argc ≥ 4 ∧ (⟨(UserCommand.addUser user pass admin).words ++ rest⟩ :
          MonitorCmd).arg 3 = ascii "admin") = admin := by
      cases admin with
      | true => exact decide_eq_true ⟨Nat.le_of_not_lt (hargc (Nat.le_refl 4)), rfl⟩
      | false =>
        -- a fourth word would have been read
        have hd : (⟨(UserCommand.addUser user pass false).words ++ rest⟩ : MonitorCmd).decoded
            = if (⟨(UserCommand.addUser user pass false).words ++ rest⟩ : MonitorCmd).argc < 3
              then none else some (.addUser user pass _) := rfl
        rw [hd, if_neg (hargc (Nat.le_refl 3))] at h
        injection h with h
        injection h
    have hr : r.addUser ⟨(UserCommand.addUser user pass admin).words ++ rest⟩
        = r.addUser ⟨(UserCommand.addUser user pass admin).words⟩ := by
      rw [addUser, addUser, hadmin]
      cases admin with
      | true =>
        rw [if_neg (hargc (by decide : 3 ≤ 4))]
        rfl
      | false =>
        rw [if_neg (hargc (Nat.le_refl 3))]
        rfl
    cases admin <;>
      exact r.command_of_cmd (ascii "ADD_USER") (by decide) _ rfl rfl
        (by rw [route_addUser r rfl, route_addUser r rfl, hr])
  | delUser user =>
    have hr : r.delUser ⟨(UserCommand.delUser user).words ++ rest⟩
        = r.delUser ⟨(UserCommand.delUser user).words⟩ := by
      rw [delUser, delUser, if_neg (hargc (Nat.le_refl 2))]
      rfl
    exact r.command_of_cmd (ascii "DEL_USER") (by decide) _ rfl rfl
      (by rw [route_delUser r rfl, route_delUser r rfl, hr])
  | setPassword user pass =>
    have hr : r.setPassword ⟨(UserCommand.setPassword user pass).words ++ rest⟩
        = r.setPassword ⟨(UserCommand.setPassword user pass).words⟩ := by
      rw [setPassword, setPassword, if_neg (hargc (Nat.le_refl 3))]
      rfl
    exact r.command_of_cmd (ascii "SET_PASSWORD") (by decide) _ rfl rfl
      (by rw [route_setPassword r rfl, route_setPassword r rfl, hr])

/-- A line is served as the command that is read in it. -/
theorem Console.dispatchLine_of_decoded (c : Console) {line : Bytes} {u : UserCommand}
    (h : (splitLine line).decoded = some u) :
    dispatchLine c line = c.obey ((c.idle.command ⟨u.words⟩).tell ".\n") := by
  have hcmd : (splitLine line).cmd ≠ [] := by
    intro h0
    rw [MonitorCmd.decoded, h0] at h
    cases (h : none = some u)
  rw [dispatchLine_eq, Reply.line, if_neg hcmd, Reply.command_of_decoded _ h]

end

/-! ## The line of a command -/

namespace UserCommand

variable (u : UserCommand)

/-- The line without its newline. -/
def body : Bytes := [32].intercalate u.words

variable {u}

/-- The words are what was typed and the words of the protocol. -/
theorem forall_words {P : Bytes → Prop} (hv : ∀ v ∈ u.values, P v)
    (hname : ∀ w ∈ ["AUTH", "ADD_USER", "DEL_USER", "SET_PASSWORD", "admin"], P (ascii w)) :
    ∀ w ∈ u.words, P w := by
  intro w hw
  rcases u with ⟨user, pass⟩ | ⟨user, pass, _ | _⟩ | user | ⟨user, pass⟩
  case auth | addUser.false | delUser | setPassword =>
    rcases List.mem_cons.1 hw with rfl | hw
    · exact hname _ (by decide)
    · exact hv w hw
  case addUser.true =>
    rcases List.mem_cons.1 hw with rfl | hw
    · exact hname _ (by decide)
    · rcases List.mem_append.1 (show w ∈ [user, pass] ++ [ascii "admin"] from hw) with hw | hw
      · exact hv w hw
      · rw [List.mem_singleton.1 hw]
        exact hname _ (by decide)

variable (hu : ∀ v ∈ u.values, Typable v)

include hu

theorem words_wf : ∀ w ∈ u.words, w ≠ [] ∧ 10 ∉ w ∧ 0 ∉ w :=
  forall_words (fun v hv => ⟨(hu v hv).ne_nil, (hu v hv).newline, (hu v hv).nul⟩) (by decide)

/-- Nothing that is written is cut off, and the line is short enough for the server. -/
theorem line_eq : u.line = u.body ++ [10] ∧ u.body.length < monitorLineMax := by
  have hlen : ∀ v ∈ u.values, v.length < 200 := fun v hv => (hu v hv).short
  have hfit : ∀ text : Bytes, text.length < monitorLineMax →
      snprintf lineBufSize (text ++ [10]) = text ++ [10] := by
    intro text h
    refine List.take_of_length_le ?_
    dsimp only [monitorLineMax, lineBufSize] at h ⊢
    rw [List.length_append, List.length_singleton]
    omega
  have hline : ∀ text : Bytes, u.line = snprintf lineBufSize (text ++ [10]) → text = u.body →
      text.length < monitorLineMax → u.line = u.body ++ [10] ∧ u.body.length < monitorLineMax := by
    rintro text hl rfl ht
    exact ⟨hl.trans (hfit _ ht), ht⟩
  rcases u with ⟨user, pass⟩ | ⟨user, pass, _ | _⟩ | user | ⟨user, pass⟩
  case auth =>
    have huser := hlen user (by simp [values])
    have hpass := hlen pass (by simp [values])
    refine hline (ascii "AUTH " ++ user ++ ascii " " ++ pass) rfl ?_ ?_
    · simp [body, words, List.intercalate_cons_cons, ascii]
    · simp [ascii, monitorLineMax]
      omega
  case addUser.false =>
    have huser := hlen user (by simp [values])
    have hpass := hlen pass (by simp [values])
    refine hline (ascii "ADD_USER " ++ user ++ ascii " " ++ pass) rfl ?_ ?_
    · simp [body, words, List.intercalate_cons_cons, ascii]
    · simp [ascii, monitorLineMax]
      omega
  case addUser.true =>
    have huser := hlen user (by simp [values])
    have hpass := hlen pass (by simp [values])
    refine hline (ascii "ADD_USER " ++ user ++ ascii " " ++ pass ++ ascii " admin") ?_ ?_ ?_
    · rw [List.append_assoc _ (ascii " admin")]
      rfl
    · simp [body, words, List.intercalate_cons_cons, ascii]
    · simp [ascii, monitorLineMax]
      omega
  case delUser =>
    have huser := hlen user (by simp [values])
    refine hline (ascii "DEL_USER " ++ user) rfl ?_ ?_
    · simp [body, words, List.intercalate_cons_cons, ascii]
    · simp [ascii, monitorLineMax]
      omega
  case setPassword =>
    have huser := hlen user (by simp [values])
    have hpass := hlen pass (by simp [values])
    refine hline (ascii "SET_PASSWORD " ++ user ++ ascii " " ++ pass) rfl ?_ ?_
    · simp [body, words, List.intercalate_cons_cons, ascii]
    · simp [ascii, monitorLineMax]
      omega

theorem notMem_body : 10 ∉ u.body ∧ 0 ∉ u.body := by
  constructor <;> intro h <;> rcases mem_intercalate h with h | ⟨w, hw, h⟩
  · exact absurd h (by decide)
  · exact (words_wf hu w hw).2.1 h
  · exact absurd h (by decide)
  · exact (words_wf hu w hw).2.2 h

end UserCommand

section

variable [Inet] (c : Console)

/-- Bytes below the limit are gathered. -/
theorem Console.feed_gathers {seg : Bytes} (h10 : 10 ∉ seg)
    (hlen : c.session.line.length + seg.length ≤ monitorLineMax) :
    let c' := c.inputs (seg.map .byte)
    c'.session.line = c.session.line ++ seg ∧ c'.hist = c.hist ∧ c'.store = c.store := by
  induction seg generalizing c with
  | nil => exact ⟨(List.append_nil _).symm, rfl, rfl⟩
  | cons b seg ih =>
    rw [List.length_cons] at hlen
    rw [List.mem_cons, not_or] at h10
    have hb : c.input (.byte b) = { c with session := { c.session with
        line := c.session.line ++ [b]
        line_le := by
          rw [List.length_append, List.length_singleton]
          omega } } := by
      rw [input, processByte, dif_neg (by omega), if_neg (Ne.symm h10.1)]
    obtain ⟨hline, hhist, hstore⟩ := ih (c.input (.byte b)) h10.2 (by
      rw [hb, List.length_append, List.length_singleton]
      omega)
    refine ⟨hline.trans ?_, hhist.trans ?_, hstore.trans ?_⟩
    · rw [hb, List.append_assoc]
      rfl
    · rw [hb]
    · rw [hb]

/-- A line below the limit is handed on. -/
theorem Console.feed_line (hline : c.session.line = []) {seg : Bytes} (h10 : 10 ∉ seg)
    (hne : seg ≠ []) (hlen : seg.length < monitorLineMax) :
    let c' := monitorCommandsFeed c (seg ++ [10])
    c'.session.line = [] ∧ c'.hist = c.hist ++ [.line (stripCr seg) c.store] := by
  obtain ⟨hg, hhist, hstore⟩ := c.feed_gathers h10 (by
    rw [hline]
    exact (Nat.zero_add _).trans_le (Nat.le_of_lt hlen))
  rw [hline, List.nil_append] at hg
  have hf : frame seg (.byte 10) = ([], .line (stripCr seg)) := by
    rw [frame, if_neg (Nat.not_le_of_lt hlen), if_pos rfl, if_neg hne]
  have hm := (c.inputs (seg.map .byte)).input_moved (.byte 10)
  rw [monitorCommandsFeed_eq, List.map_append, inputs_append]
  refine ⟨(congrArg Core.line hm.core).trans ?_, hm.hist.trans ?_⟩
  · show (frame (c.inputs (seg.map .byte)).session.line (.byte 10)).1 = []
    rw [hg, hf]
  · rw [observed, hg, hf, hhist, hstore]

end

/-! ## When the two sides agree -/

section

variable {u : UserCommand} (hu : ∀ v ∈ u.values, Typable v)

include hu

/-- The last word ends the line. -/
theorem UserCommand.body_eq {ws : List Bytes} {w : Bytes} (hws : u.words = ws ++ [w]) :
    ∃ pre, u.body = pre ++ w ∧ w ≠ [] ∧ ∀ v, [32].intercalate (ws ++ [v]) = pre ++ v := by
  obtain ⟨pre, hpre⟩ := intercalate_concat [32] ws
  refine ⟨pre, ?_, ?_, hpre⟩
  · rw [body, hws, hpre]
  · exact (words_wf hu w (hws ▸ List.mem_append_right _ (List.mem_singleton_self w))).1

theorem UserCommand.body_ne_nil : u.body ≠ [] := by
  obtain ⟨ws, w, hws⟩ := u.words_concat
  obtain ⟨pre, hbody, hw, -⟩ := body_eq hu hws
  rw [hbody]
  exact List.append_ne_nil_of_right_ne_nil _ hw

/-- What arrives is one line, whatever it says. -/
theorem Console.decodes_iff [Inet] (c : Console) (hline : c.session.line = []) :
    c.Decodes u ↔ (splitLine (stripCr u.body)).decoded = some u := by
  obtain ⟨hu_line, hlen⟩ := UserCommand.line_eq hu
  obtain ⟨hrest, hhist⟩ := c.feed_line hline (UserCommand.notMem_body hu).1
    (UserCommand.body_ne_nil hu) hlen
  rw [Decodes, hu_line]
  constructor
  · rintro ⟨-, line, hl, hd⟩
    have h := List.append_cancel_left (hhist.symm.trans hl)
    injection h with h
    injection h with h
    rw [h]
    exact hd
  · intro hd
    exact ⟨hrest, _, hhist, hd⟩

/-- The words of the line that is handed on. -/
theorem UserCommand.args_stripCr :
    (splitLine (stripCr u.body)).args = (tokens (stripCr u.body)).take 8 := by
  have hnul : 0 ∉ stripCr u.body := by
    intro h
    refine (notMem_body hu).2 ?_
    rw [stripCr] at h
    split at h
    · exact List.dropLast_subset _ h
    · exact h
  rw [splitLine, cstr_of_notMem hnul]

/-- A plain command arrives as its words. -/
theorem UserCommand.Plain.args (h : u.Plain) : splitLine (stripCr u.body) = ⟨u.words⟩ := by
  obtain ⟨ws, w, hws⟩ := u.words_concat
  obtain ⟨pre, hbody, hw, -⟩ := body_eq hu hws
  have hcr : stripCr u.body = u.body := by
    refine if_neg ?_
    rw [hbody, List.getLast?_append_of_ne_nil _ hw]
    exact h.cr w (by rw [hws, List.getLast?_concat]; rfl)
  have hblank : ∀ w ∈ u.words, 32 ∉ w := forall_words h.blank (by decide)
  have htokens : tokens u.body = u.words := by
    rw [body, tokens_intercalate hblank (by rw [hws]; simp), List.filter_eq_self]
    intro w hw
    exact decide_eq_true (words_wf hu w hw).1
  have hargs := args_stripCr hu
  rw [hcr, htokens, List.take_of_length_le u.length_words_le] at hargs
  rw [hcr]
  exact congrArg MonitorCmd.mk hargs

/-- A command that arrives is plain. -/
theorem UserCommand.plain_of_decoded (h : (splitLine (stripCr u.body)).decoded = some u) :
    u.Plain := by
  have hpre := MonitorCmd.words_prefix_of_decoded h
  have hblank : ∀ w ∈ u.words, 32 ∉ w := fun w hw => notMem_of_mem_args (hpre.subset hw)
  refine ⟨fun v hv => hblank v (u.values_subset_words hv), ?_⟩
  obtain ⟨ws, w, hws⟩ := u.words_concat
  obtain ⟨pre, hbody, hne, hjoin⟩ := body_eq hu hws
  intro w' hw' hcr
  obtain rfl : w = w' := by
    rw [hws, List.getLast?_concat] at hw'
    injection hw'
  -- the carriage return is taken for the end of the line, so the last word loses it
  have hstrip : stripCr u.body = [32].intercalate (ws ++ [w.dropLast]) := by
    rw [stripCr, if_pos (by rw [hbody, List.getLast?_append_of_ne_nil _ hne, hcr]), hbody, hjoin,
      List.dropLast_append_of_ne_nil hne]
  have htokens : tokens (stripCr u.body) = ws ++ [w.dropLast].filter (· ≠ []) := by
    rw [hstrip, tokens_intercalate _ (by simp), List.filter_append]
    · congr 1
      rw [List.filter_eq_self]
      intro v hv
      exact decide_eq_true (words_wf hu v (hws ▸ List.mem_append_left _ hv)).1
    · intro v hv
      rcases List.mem_append.1 hv with hv | hv
      · exact hblank v (hws ▸ List.mem_append_left _ hv)
      · rw [List.mem_singleton.1 hv]
        exact fun h => hblank w (hws ▸ List.mem_append_right _ (List.mem_singleton_self w))
          (List.dropLast_subset _ h)
  rw [args_stripCr hu, htokens, hws] at hpre
  have hw := (List.prefix_append_right_inj ws).1 (hpre.trans (List.take_prefix ..))
  have hmem : w ∈ [w.dropLast] := List.mem_of_mem_filter (hw.subset (List.mem_singleton_self w))
  have hlen := congrArg List.length (List.mem_singleton.1 hmem)
  rw [List.length_dropLast] at hlen
  have := List.length_pos_iff.2 hne
  omega

end

/-- **Client and server agree on a command about a user exactly when it is plain.**  Whatever is
typed, and whatever the state of a session that is at the start of a line: the line the client
writes is handed to `dispatch_line` as one line, and the command read in it is the one that was
meant with the texts that were typed and the role that was chosen, if and only if none of the texts
holds a blank and the last one does not end in a carriage return. -/
theorem encoding_agrees_iff [Inet] (c : Console) (hline : c.session.line = []) (u : UserCommand)
    (hu : ∀ v ∈ u.values, Typable v) : c.Decodes u ↔ u.Plain := by
  rw [c.decodes_iff hu hline]
  constructor
  · exact UserCommand.plain_of_decoded hu
  · intro h
    rw [h.args hu]
    exact u.decoded_words

attribute [local instance] InetText.inet

theorem typable_of_decide {text : Bytes}
    (h : text ≠ [] ∧ text.length < maxInputLen ∧ 10 ∉ text ∧ 0 ∉ text) : Typable text :=
  ⟨h.1, h.2.1, h.2.2.1, h.2.2.2⟩

theorem encoding_agrees_small :
    (Console.loggedIn storeCreate).Decodes (.addUser (ascii "bob") (ascii "x") true) ↔
      (UserCommand.addUser (ascii "bob") (ascii "x") true).Plain :=
  encoding_agrees_iff (Console.loggedIn storeCreate) rfl (.addUser (ascii "bob") (ascii "x") true)
    (List.forall_mem_cons.2 ⟨typable_of_decide (by decide), List.forall_mem_singleton.2
      (typable_of_decide (by decide))⟩)

/-- A plain user whose password was typed as "x admin" becomes an administrator with the password
"x". -/
theorem encoding_grants_admin :
    (∀ v ∈ (UserCommand.addUser (ascii "bob") (ascii "x admin") false).values, Typable v) ∧
      ¬ (Console.loggedIn storeCreate).Decodes (.addUser (ascii "bob") (ascii "x admin") false) ∧
      (splitLine (UserCommand.addUser (ascii "bob") (ascii "x admin") false).body).decoded
        = some (.addUser (ascii "bob") (ascii "x") true) := by
  have htyped : ∀ v ∈ (UserCommand.addUser (ascii "bob") (ascii "x admin") false).values,
      Typable v := List.forall_mem_cons.2 ⟨typable_of_decide (by decide),
    List.forall_mem_singleton.2 (typable_of_decide (by decide))⟩
  refine ⟨htyped, ?_, by decide +kernel⟩
  rw [Console.decodes_iff htyped _ rfl]
  decide +kernel

end SocksProxy
