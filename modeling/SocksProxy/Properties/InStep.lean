import SocksProxy.Client.Protocol

/-!
# The client stays in step with the server

A call of the client reads its response up to the line `.` or up to as many lines as its caller has
room for, whichever comes first.  `cmd_simple`, `cmd_stats` and `cmd_config_get` have room for two,
the listings for as many as they are given, and only `cmd_quit` reads on until the end.  What a call
leaves behind is what the next one takes for its answer.

`in_step_iff` is about whole sequences of calls: every one of them takes its own response and
nothing else if and only if each response has fewer lines than its call has room for, and every line
of it is read as a line: `read_line` gives up on the longest ones, and takes a carriage return at
the end for a part of the newline.
-/

set_option autoImplicit false

namespace SocksProxy

/-- A call of the client. -/
inductive ClientCall where
  | simple (cmd : Bytes) (errSz : ℕ)
  | auth (user pass : Bytes) (errSz : ℕ)
  | stats
  | list (cmd : Bytes) (maxLines : ℕ)
  | connections (maxLines : ℕ)
  | users (maxLines : ℕ)
  | accessLog (filter : Bytes) (maxLines : ℕ)
  | configGet (param : Bytes) (errSz : ℕ)
  | config (param : Bytes) (value : UInt32) (errSz : ℕ)
  | addUser (user pass : Bytes) (admin : Bool) (errSz : ℕ)
  | delUser (user : Bytes) (errSz : ℕ)
  | setPassword (user pass : Bytes) (errSz : ℕ)
  | denyHost (hostname : Bytes) (errSz : ℕ)
  | denyIp (ip : Bytes) (errSz : ℕ)
  | undeny (target : Bytes) (errSz : ℕ)
  | denyList (maxLines : ℕ)
  | quit

/-- What a call returns. -/
inductive ClientResult where
  | simple (res : Except Bytes Unit)
  | stats (res : Option (List ℕ))
  | lines (res : Option (List Bytes))
  | config (res : Except Bytes ℕ)
  | quit

namespace ClientCall

/-- The call is made. -/
def perform (link : MonitorLink) : ClientCall → MonitorLink × ClientResult
  | .simple cmd errSz => (link.cmdSimple cmd errSz).map id .simple
  | .auth user pass errSz => (link.cmdAuth user pass errSz).map id .simple
  | .stats => link.cmdStats.map id .stats
  | .list cmd maxLines => (link.cmdList cmd maxLines).map id .lines
  | .connections maxLines => (link.cmdConnections maxLines).map id .lines
  | .users maxLines => (link.cmdUsers maxLines).map id .lines
  | .accessLog filter maxLines => (link.cmdAccessLog filter maxLines).map id .lines
  | .configGet param errSz => (link.cmdConfigGet param errSz).map id .config
  | .config param value errSz => (link.cmdConfig param value errSz).map id .simple
  | .addUser user pass admin errSz => (link.cmdAddUser user pass admin errSz).map id .simple
  | .delUser user errSz => (link.cmdDelUser user errSz).map id .simple
  | .setPassword user pass errSz => (link.cmdSetPassword user pass errSz).map id .simple
  | .denyHost hostname errSz => (link.cmdDenyHost hostname errSz).map id .simple
  | .denyIp ip errSz => (link.cmdDenyIp ip errSz).map id .simple
  | .undeny target errSz => (link.cmdUndeny target errSz).map id .simple
  | .denyList maxLines => (link.cmdDenyList maxLines).map id .lines
  | .quit => (link.cmdQuit, .quit)

/-- The line the call writes. -/
def text : ClientCall → Bytes
  | .simple cmd _ => cmd
  | .auth user pass _ => authLine user pass
  | .stats => ascii "STATS\n"
  | .list cmd _ => cmd
  | .connections _ => ascii "CONNECTIONS\n"
  | .users _ => ascii "USERS\n"
  | .accessLog filter _ => accessLogLine filter
  | .configGet param _ => configGetLine param
  | .config param value _ => configLine param value
  | .addUser user pass admin _ => addUserLine user pass admin
  | .delUser user _ => delUserLine user
  | .setPassword user pass _ => setPasswordLine user pass
  | .denyHost hostname _ => denyHostLine hostname
  | .denyIp ip _ => denyIpLine ip
  | .undeny target _ => undenyLine target
  | .denyList _ => ascii "DENY_LIST\n"
  | .quit => ascii "QUIT\n"

/-- How many lines the call reads at most; `cmd_quit` reads any number. -/
def room : ClientCall → Option ℕ
  | .list _ maxLines | .connections maxLines | .users maxLines | .accessLog _ maxLines
  | .denyList maxLines => some maxLines
  | .quit => none
  | _ => some 2

/-- What the call returns when these lines are what it read. -/
def make (lines : Option (List Bytes)) : ClientCall → ClientResult
  | .simple _ errSz | .auth _ _ errSz | .config _ _ errSz | .addUser _ _ _ errSz | .delUser _ errSz
  | .setPassword _ _ errSz | .denyHost _ errSz | .denyIp _ errSz | .undeny _ errSz =>
    .simple (simpleResult errSz lines)
  | .stats => .stats (statsResult lines)
  | .list .. | .connections .. | .users .. | .accessLog .. | .denyList .. => .lines lines
  | .configGet _ errSz => .config (configResult errSz lines)
  | .quit => .quit

end ClientCall

/-- A well-formed response: any number of lines, each shorter than the line buffer and none of them
the terminator. -/
structure Response where
  lines : List Bytes
  line_wf : ∀ l ∈ lines, 10 ∉ l ∧ l.length < lineBufSize ∧ l ≠ ascii "."

/-- Lines as they are sent, the terminator last. -/
def wireLines (lines : List Bytes) : Bytes := lines.flatMap (· ++ [10]) ++ ascii ".\n"

/-- What `buf` holds after the line was read. -/
def lineText (l : Bytes) : Bytes := cstr (stripCr l)

namespace Response

/-- A response as it is sent. -/
def wire (r : Response) : Bytes := wireLines r.lines

/-- What a call keeps of the lines. -/
def kept (r : Response) : List Bytes := r.lines.map fun l => respLine (lineText l)

end Response

/-- Each of the lines fits `buf` with its newline, and is not read as the terminator. -/
def Legible (lines : List Bytes) : Prop :=
  ∀ l ∈ lines, l.length + 1 < lineBufSize ∧ lineText l ≠ ascii "."

/-- The call has room for the response and can read it. -/
structure ClientCall.Suits (call : ClientCall) (r : Response) : Prop where
  room : ∀ n ∈ call.room, r.lines.length < n
  legible : Legible r.lines

/-- Each call of a sequence writes its command, reads the whole of its own response and nothing
else, and returns what that response says. -/
def InStep : MonitorLink → List (ClientCall × Response) → Prop
  | _, [] => True
  | link, (call, r) :: xs =>
    (call.perform link).1.sent = link.sent ++ [call.text] ∧ (call.perform link).1.incoming = [] ∧
      (call.perform link).2 = call.make (some r.kept) ∧ InStep (call.perform link).1 xs

/-- A connection on which the calls are going to be answered with the responses. -/
def MonitorLink.awaiting (xs : List (ClientCall × Response)) : MonitorLink :=
  ⟨[], [], xs.map (·.2.wire)⟩

/-! ## Reading a line -/

section

variable {l rest : Bytes} (hl : 10 ∉ l)

include hl

theorem readLineFrom_short {bufLen : ℕ} {buf : Bytes} (h : buf.length + l.length + 1 < bufLen) :
    readLineFrom bufLen buf (l ++ 10 :: rest) = (some (lineText (buf ++ l)), rest) := by
  induction l generalizing buf with
  | nil =>
    rw [List.length_nil] at h
    rw [List.nil_append, readLineFrom, if_pos h, if_pos rfl, List.append_nil, lineText]
  | cons b l ih =>
    rw [List.mem_cons, not_or] at hl
    rw [List.length_cons] at h
    rw [List.cons_append, readLineFrom, if_pos (by omega), if_neg (Ne.symm hl.1), ih hl.2 (by
      rw [List.length_append, List.length_singleton]
      omega), List.append_assoc]
    rfl

/-- A line that does not fit leaves its newline behind. -/
theorem readLineFrom_long {bufLen : ℕ} {buf : Bytes} (h : bufLen ≤ buf.length + l.length + 1) :
    ∃ pre, readLineFrom bufLen buf (l ++ 10 :: rest) = (none, pre ++ 10 :: rest) := by
  induction l generalizing buf with
  | nil =>
    rw [List.length_nil] at h
    rw [List.nil_append, readLineFrom, if_neg (Nat.not_lt_of_le h)]
    exact ⟨[], rfl⟩
  | cons b l ih =>
    rw [List.mem_cons, not_or] at hl
    rw [List.length_cons] at h
    rw [List.cons_append, readLineFrom]
    split
    · rw [if_neg (Ne.symm hl.1)]
      exact ih hl.2 (by
        rw [List.length_append, List.length_singleton]
        omega)
    · exact ⟨b :: l, rfl⟩

end

/-- One line of a response. -/
theorem readLine_of_fits {l rest : Bytes} (hl : 10 ∉ l) (h : l.length + 1 < lineBufSize) :
    readLine lineBufSize (l ++ 10 :: rest) = (some (lineText l), rest) :=
  readLineFrom_short hl (by
    rw [List.length_nil]
    omega)

theorem readLine_of_long {l rest : Bytes} (hl : 10 ∉ l) (h : ¬ l.length + 1 < lineBufSize) :
    ∃ pre, readLine lineBufSize (l ++ 10 :: rest) = (none, pre ++ 10 :: rest) :=
  readLineFrom_long hl (by
    rw [List.length_nil]
    omega)

theorem readLine_dot (rest : Bytes) :
    readLine lineBufSize (ascii ".\n" ++ rest) = (some (ascii "."), rest) := rfl

/-! ## Reading a response -/

/-- The terminator of a response is still to be read. -/
def Behind (rest left : Bytes) : Prop := ∃ pre, left = pre ++ ascii ".\n" ++ rest

theorem behind_wireLines (lines : List Bytes) (rest : Bytes) :
    Behind rest (wireLines lines ++ rest) := ⟨_, rfl⟩

theorem Behind.append {rest left : Bytes} (h : Behind rest left) (as : Bytes) :
    Behind rest (as ++ left) := by
  obtain ⟨pre, rfl⟩ := h
  exact ⟨as ++ pre, by simp only [List.append_assoc]⟩

theorem Behind.ne_nil {rest left : Bytes} (h : Behind rest left) : left ≠ [] := by
  obtain ⟨pre, rfl⟩ := h
  simp [ascii]

theorem wireLines_cons (l : Bytes) (ls : List Bytes) (rest : Bytes) :
    wireLines (l :: ls) ++ rest = l ++ 10 :: (wireLines ls ++ rest) := by
  simp [wireLines]

section

variable {lines : List Bytes} (hwf : ∀ l ∈ lines, 10 ∉ l)

include hwf

/-- As many lines are taken as there is room for, and the terminator with them if they are fewer. -/
theorem readResponse_legible (h : Legible lines) (n : ℕ) (rest : Bytes) :
    readResponse n (wireLines lines ++ rest)
      = (some ((lines.take n).map fun l => respLine (lineText l)),
        if lines.length < n then rest else wireLines (lines.drop n) ++ rest) := by
  induction lines generalizing n with
  | nil =>
    cases n with
    | zero => rfl
    | succ n =>
      rw [readResponse, show wireLines [] ++ rest = ascii ".\n" ++ rest from rfl, readLine_dot]
      rfl
  | cons l ls ih =>
    cases n with
    | zero => rfl
    | succ n =>
      rw [List.forall_mem_cons] at hwf
      obtain ⟨hl, hls⟩ := List.forall_mem_cons.1 h
      rw [readResponse, wireLines_cons, readLine_of_fits hwf.1 hl.1]
      dsimp only
      rw [if_neg hl.2, ih hwf.2 hls]
      simp only [List.take_succ_cons, List.map_cons, Option.map_some, List.length_cons,
        List.drop_succ_cons, Nat.succ_lt_succ_iff]

/-- Where a line cannot be read, the terminator stays behind. -/
theorem readResponse_illegible (h : ¬ Legible lines) (n : ℕ) (rest : Bytes) :
    Behind rest (readResponse n (wireLines lines ++ rest)).2 := by
  induction lines generalizing n with
  | nil => exact absurd (fun _ hl => absurd hl List.not_mem_nil) h
  | cons l ls ih =>
    cases n with
    | zero => exact behind_wireLines _ _
    | succ n =>
      rw [List.forall_mem_cons] at hwf
      rw [readResponse, wireLines_cons]
      by_cases hfits : l.length + 1 < lineBufSize
      · rw [readLine_of_fits hwf.1 hfits]
        by_cases hdot : lineText l = ascii "."
        · dsimp only
          rw [if_pos hdot]
          exact behind_wireLines _ _
        · dsimp only
          rw [if_neg hdot]
          exact ih hwf.2 (fun hls => h (List.forall_mem_cons.2 ⟨⟨hfits, hdot⟩, hls⟩)) n
      · obtain ⟨pre, hlong⟩ := readLine_of_long hwf.1 hfits
        rw [hlong]
        exact ((behind_wireLines ls rest).append [10]).append pre

theorem skipResponse_legible (h : Legible lines) (rest : Bytes) :
    skipResponse (wireLines lines ++ rest) = rest := by
  induction lines with
  | nil =>
    rw [skipResponse]
    rfl
  | cons l ls ih =>
    rw [List.forall_mem_cons] at hwf
    obtain ⟨hl, hls⟩ := List.forall_mem_cons.1 h
    rw [skipResponse]
    split
    · rename_i hread
      rw [wireLines_cons, readLine_of_fits hwf.1 hl.1] at hread
      cases hread
    · rename_i hread
      rw [wireLines_cons, readLine_of_fits hwf.1 hl.1] at hread
      cases hread
      rw [if_neg hl.2]
      exact ih hwf.2 hls

theorem skipResponse_illegible (h : ¬ Legible lines) (rest : Bytes) :
    Behind rest (skipResponse (wireLines lines ++ rest)) := by
  induction lines with
  | nil => exact absurd (fun _ hl => absurd hl List.not_mem_nil) h
  | cons l ls ih =>
    rw [List.forall_mem_cons] at hwf
    rw [skipResponse]
    by_cases hfits : l.length + 1 < lineBufSize
    · split
      · rename_i hread
        rw [wireLines_cons, readLine_of_fits hwf.1 hfits] at hread
        cases hread
      · rename_i hread
        rw [wireLines_cons, readLine_of_fits hwf.1 hfits] at hread
        cases hread
        by_cases hdot : lineText l = ascii "."
        · rw [if_pos hdot]
          exact behind_wireLines _ _
        · rw [if_neg hdot]
          exact ih hwf.2 (fun hls => h (List.forall_mem_cons.2 ⟨⟨hfits, hdot⟩, hls⟩))
    · obtain ⟨pre, hlong⟩ := readLine_of_long hwf.1 hfits
      split
      · rename_i hread
        rw [wireLines_cons, hlong] at hread
        cases hread
        exact ((behind_wireLines ls rest).append [10]).append pre
      · rename_i hread
        rw [wireLines_cons, hlong] at hread
        cases hread

end

/-! ## A call -/

namespace ClientCall

variable (call : ClientCall) {link : MonitorLink} {answer : Bytes} {answers : List Bytes}
  (hlink : link.answers = answer :: answers)

include hlink

/-- Every call but `QUIT` writes its line, reads as much as it has room for and makes something of
it. -/
theorem perform_eq {n : ℕ} (hroom : call.room = some n) :
    call.perform link = (⟨link.sent ++ [call.text], (readResponse n (link.incoming ++ answer)).2,
      answers⟩, call.make (readResponse n (link.incoming ++ answer)).1) := by
  have hwrite : ∀ data, link.writeAll data
      = some ⟨link.sent ++ [data], link.incoming ++ answer, answers⟩ := by
    intro data
    rw [MonitorLink.writeAll, hlink]
  have hsimple : ∀ cmd errSz, link.cmdSimple cmd errSz
      = (⟨link.sent ++ [cmd], (readResponse 2 (link.incoming ++ answer)).2, answers⟩,
        simpleResult errSz (readResponse 2 (link.incoming ++ answer)).1) := by
    intro cmd errSz
    rw [MonitorLink.cmdSimple, hwrite]
    rfl
  have hlist : ∀ cmd maxLines, link.cmdList cmd maxLines
      = (⟨link.sent ++ [cmd], (readResponse maxLines (link.incoming ++ answer)).2, answers⟩,
        (readResponse maxLines (link.incoming ++ answer)).1) := by
    intro cmd maxLines
    rw [MonitorLink.cmdList, hwrite]
    rfl
  cases call with
  | simple | auth | config | addUser | delUser | setPassword | denyHost | denyIp | undeny =>
    cases hroom
    exact congrArg (Prod.map id ClientResult.simple) (hsimple _ _)
  | stats =>
    cases hroom
    rw [perform, MonitorLink.cmdStats, hwrite]
    rfl
  | configGet =>
    cases hroom
    rw [perform, MonitorLink.cmdConfigGet, hwrite]
    rfl
  | list | connections | users | accessLog | denyList =>
    cases hroom
    exact congrArg (Prod.map id ClientResult.lines) (hlist _ _)
  | quit => cases hroom

theorem quit_perform :
    perform link .quit = (⟨link.sent ++ [text .quit], skipResponse (link.incoming ++ answer),
      answers⟩, .quit) := by
  rw [perform, MonitorLink.cmdQuit, MonitorLink.writeAll, hlink]
  rfl

end ClientCall

section

variable {call : ClientCall} {r : Response} {link : MonitorLink} {answers : List Bytes}
  (hlink : link.answers = r.wire :: answers) (hin : link.incoming = [])

include hlink hin

/-- A call that suits its response takes the whole of it. -/
theorem ClientCall.Suits.perform (h : call.Suits r) :
    call.perform link = (⟨link.sent ++ [call.text], [], answers⟩, call.make (some r.kept)) := by
  have hwf : ∀ l ∈ r.lines, 10 ∉ l := fun l hl => (r.line_wf l hl).1
  rcases hroom : call.room with - | n
  · -- `cmd_quit`
    obtain rfl : call = .quit := by
      cases call <;> first | rfl | cases hroom
    rw [quit_perform hlink, hin, List.nil_append, ← List.append_nil r.wire, Response.wire,
      skipResponse_legible hwf h.legible]
    rfl
  · have hlt := h.room n hroom
    rw [call.perform_eq hlink hroom, hin, List.nil_append, ← List.append_nil r.wire, Response.wire,
      readResponse_legible hwf h.legible, if_pos hlt, List.take_of_length_le (Nat.le_of_lt hlt)]
    rfl

/-- A call that does not suit its response leaves the terminator behind. -/
theorem ClientCall.incoming_perform_of_not_suits (h : ¬ call.Suits r) :
    (call.perform link).1.incoming ≠ [] := by
  have hwf : ∀ l ∈ r.lines, 10 ∉ l := fun l hl => (r.line_wf l hl).1
  have hbehind : Behind [] (call.perform link).1.incoming := by
    rcases hroom : call.room with - | n
    · obtain rfl : call = .quit := by
        cases call <;> first | rfl | cases hroom
      rw [quit_perform hlink, hin, List.nil_append, ← List.append_nil r.wire]
      refine skipResponse_illegible hwf (fun hl => h ⟨?_, hl⟩) []
      rintro n ⟨⟩
    · rw [call.perform_eq hlink hroom, hin, List.nil_append, ← List.append_nil r.wire]
      by_cases hl : Legible r.lines
      · have hle : ¬ r.lines.length < n := by
          intro hlt
          refine h ⟨?_, hl⟩
          rintro m hm
          rw [hroom] at hm
          cases hm
          exact hlt
        dsimp only
        rw [Response.wire, readResponse_legible hwf hl, if_neg hle]
        exact behind_wireLines _ _
      · exact readResponse_illegible hwf hl n []
  exact hbehind.ne_nil

end

/-! ## Whole sequences -/

theorem inStep_iff_of_link {xs : List (ClientCall × Response)} {link : MonitorLink}
    (hlink : link.answers = xs.map (·.2.wire)) (hin : link.incoming = []) :
    InStep link xs ↔ ∀ x ∈ xs, x.1.Suits x.2 := by
  induction xs generalizing link with
  | nil => exact iff_of_true trivial (fun _ hx => absurd hx List.not_mem_nil)
  | cons x xs ih =>
    obtain ⟨call, r⟩ := x
    rw [List.forall_mem_cons, InStep]
    by_cases h : call.Suits r
    · rw [h.perform hlink hin, ih rfl rfl]
      exact ⟨fun hs => ⟨h, hs.2.2.2⟩, fun hs => ⟨rfl, rfl, rfl, hs.2⟩⟩
    · refine iff_of_false (fun hs => ?_) (fun hs => h hs.1)
      exact ClientCall.incoming_perform_of_not_suits hlink hin h hs.2.1

/-- **The client stays in step exactly when every call suits its response.**  For every sequence of
calls and well-formed responses: each call reads its own response up to and including the
terminator, nothing more and nothing less, and what it returns is made of that response, if and only
if each response has fewer lines than its call has room for, no line of it is one byte short of the
line buffer, and none reads as the terminator. -/
theorem in_step_iff (xs : List (ClientCall × Response)) :
    InStep (MonitorLink.awaiting xs) xs ↔ ∀ x ∈ xs, x.1.Suits x.2 :=
  inStep_iff_of_link rfl rfl

/-- The answer to `DENY_LIST` with the hosts "aa", "ab" and so on, 510 of them. -/
def denyListing : Response where
  lines := ascii "+OK Denied hosts:" :: (List.range 510).map (fun n =>
    ascii "+OK " ++ [UInt8.ofNat (97 + n / 26), UInt8.ofNat (97 + n % 26)]) ++
    [ascii "+OK Denied IPs:"]
  line_wf := by decide +kernel

/-- The answer to `CONFIG timeout`. -/
def timeoutZero : Response where
  lines := [ascii "+OK 0"]
  line_wf := by decide

/-- With 510 rules the listing fills the array of the client, and the next call takes what was left
of it for a lost connection. -/
theorem in_step_deny_list :
    let listing := ClientCall.denyList maxRespLines
    let timeout := ClientCall.configGet (ascii "timeout") maxRespLineLen
    let link := MonitorLink.awaiting [(listing, denyListing), (timeout, timeoutZero)]
    ¬ InStep link [(listing, denyListing), (timeout, timeoutZero)] ∧
      (timeout.perform (listing.perform link).1).2
        = .config (.error (ascii "Conexion perdida")) := by
  intro listing timeout link
  have hwf : ∀ l ∈ denyListing.lines, 10 ∉ l := fun l hl => (denyListing.line_wf l hl).1
  have hlegible : Legible denyListing.lines := by
    unfold Legible
    decide +kernel
  have hfirst : (listing.perform link).1
      = ⟨[listing.text], ascii ".\n", [timeoutZero.wire]⟩ := by
    have hlen : denyListing.lines.length = maxRespLines := by decide +kernel
    have hread := readResponse_legible hwf hlegible maxRespLines []
    rw [if_neg (by rw [hlen]; exact Nat.lt_irrefl _), List.append_nil, List.append_nil,
      List.drop_eq_nil_of_le (Nat.le_of_eq hlen)] at hread
    have hperform := listing.perform_eq (show link.answers = denyListing.wire :: _ from rfl) rfl
    rw [hperform, show link.incoming = [] from rfl, List.nil_append, Response.wire, hread]
    rfl
  constructor
  · rintro ⟨-, hin, -⟩
    rw [hfirst] at hin
    cases hin
  · rw [hfirst]
    rfl

end SocksProxy
