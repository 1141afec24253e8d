import SocksProxy.Monitor.Commands

/-!
# The monitor client

`client/protocol.c` with the input functions of `client/ui.c` that feed it.  A command is a text
formatted into a buffer of `LINE_BUF_SIZE` bytes, written to the server, and followed by a call of
`read_response`, which gathers lines until the line `.` or until the caller has no room for more.

A `MonitorLink` is the connection as the client sees it.  The server answers a command once it is
written, so `writeAll` is where an answer arrives; a `read` that finds nothing is a lost connection.
Interrupted calls are repeated and leave no trace.
-/

set_option autoImplicit false

namespace SocksProxy

def lineBufSize : ℕ := 4096
def maxRespLines : ℕ := 512
def maxRespLineLen : ℕ := 256
def maxInputLen : ℕ := 200

/-- `snprintf` into `size` bytes, given the formatted text. -/
def snprintf (size : ℕ) (text : Bytes) : Bytes := text.take (size - 1)

/-! ## What the user types -/

/-- What `fgets(buf, max, stdin)` stores and what it leaves, for `max` at least two. -/
def fgets (max : ℕ) (stdin : Bytes) : Bytes × Bytes :=
  let n := min (max - 1) ((stdin.takeWhile (· != 10)).length + 1)
  (stdin.take n, stdin.drop n)

/-- Trailing `'\n'` and `'\r'` removed. -/
def trimEol (text : Bytes) : Bytes :=
  (text.reverse.dropWhile fun b => b == 10 || b == 13).reverse

/-- `input_line` and `input_password`; at the end of the input `buf` is empty. -/
def inputLine (max : ℕ) (stdin : Bytes) : Bytes × Bytes :=
  let (buf, rest) := fgets max stdin
  (trimEol (cstr buf), rest)

/-! ## The connection -/

/-- The connection to the server. -/
structure MonitorLink where
  /-- The commands written. -/
  sent : List Bytes
  /-- What has arrived and is not read yet. -/
  incoming : Bytes
  /-- What arrives upon each of the next commands; where there is none, the write fails. -/
  answers : List Bytes

/-- `write_all`, or `none` when it fails. -/
def MonitorLink.writeAll (link : MonitorLink) (data : Bytes) : Option MonitorLink :=
  match link.answers with
  | [] => none
  | answer :: answers => some ⟨link.sent ++ [data], link.incoming ++ answer, answers⟩

/-- The loop of `read_line` with `buf` filled up to `pos`: the text read, and what is left. -/
def readLineFrom (bufLen : ℕ) (buf : Bytes) : Bytes → Option Bytes × Bytes
  | [] => (none, [])
  | ch :: rest =>
    if buf.length + 1 < bufLen then
      if ch = 10 then (some (cstr (stripCr buf)), rest)
      else readLineFrom bufLen (buf ++ [ch]) rest
    else (none, ch :: rest)

/-- `read_line`. -/
def readLine (bufLen : ℕ) (incoming : Bytes) : Option Bytes × Bytes :=
  readLineFrom bufLen [] incoming

/-- What a slot of `lines` keeps of a text. -/
def respLine (buf : Bytes) : Bytes := buf.take (maxRespLineLen - 1)

/-- `read_response` with room for so many more lines. -/
def readResponse : ℕ → Bytes → Option (List Bytes) × Bytes
  | 0, incoming => (some [], incoming)
  | n + 1, incoming =>
    match readLine lineBufSize incoming with
    | (none, rest) => (none, rest)
    | (some buf, rest) =>
      if buf = ascii "." then (some [], rest)
      else
        let (lines, rest) := readResponse n rest
        (lines.map (respLine buf :: ·), rest)

/-- A line takes at least its newline. -/
theorem length_readLineFrom {bufLen : ℕ} {buf incoming text rest : Bytes}
    (h : readLineFrom bufLen buf incoming = (some text, rest)) : rest.length < incoming.length := by
  induction incoming generalizing buf with
  | nil => cases h
  | cons ch incoming ih =>
    rw [readLineFrom] at h
    split at h
    · split at h
      · cases h
        exact Nat.lt_succ_self _
      · exact Nat.lt_trans (ih h) (Nat.lt_succ_self _)
    · cases h

/-- The loop of `cmd_quit`, and of `main` over the greeting: what is left after the line `.`. -/
def skipResponse (incoming : Bytes) : Bytes :=
  match h : readLine lineBufSize incoming with
  | (none, rest) => rest
  | (some buf, rest) =>
    have : rest.length < incoming.length := length_readLineFrom h
    if buf = ascii "." then rest else skipResponse rest
termination_by incoming.length

/-- `read_response`, on the connection. -/
def MonitorLink.readResponse (link : MonitorLink) (maxLines : ℕ) :
    Option (List Bytes) × MonitorLink :=
  let (lines, rest) := SocksProxy.readResponse maxLines link.incoming
  (lines, { link with incoming := rest })

/-! ## What the answers are read for -/

/-- A directive of a `sscanf` format: a text, blanks, or an unsigned number of so many bits. -/
inductive Directive where
  | text (bs : Bytes)
  | blank
  | unsigned (bits : ℕ)

/-- The number at the start of `s` as `strtoull` reads it, and what follows. -/
def strtoull (s : Bytes) : Option (ℕ × Bytes) :=
  let t := s.dropWhile isSpace
  let negative := t.head? == some 45
  let u := if negative || t.head? == some 43 then t.tail else t
  let digits := u.takeWhile isDigit
  if digits = [] then none
  else
    let magnitude : ℕ := digits.foldl (fun n d => n * 10 + (d.toNat - 48)) 0
    let value := if magnitude ≥ 2 ^ 64 then 2 ^ 64 - 1
      else if negative then (2 ^ 64 - magnitude) % 2 ^ 64 else magnitude
    some (value, u.dropWhile isDigit)

/-- `sscanf`: the values assigned. -/
def sscanf : List Directive → Bytes → List ℕ
  | [], _ => []
  | .text t :: format, s => if t.isPrefixOf s then sscanf format (s.drop t.length) else []
  | .blank :: format, s => sscanf format (s.dropWhile isSpace)
  | .unsigned bits :: format, s =>
    match strtoull s with
    | none => []
    | some (value, s) => value % 2 ^ bits :: sscanf format s

/-- The test of `cmd_simple` and `cmd_config_get` for a refusal: the message after `-ERR`. -/
def refusalText (line : Bytes) : Option Bytes :=
  if (ascii "-ERR").isPrefixOf line then
    let msg := line.drop 4
    some (if msg.head? = some 32 then msg.tail else msg)
  else none

/-- What `cmd_simple` makes of a response. -/
def simpleResult (errSz : ℕ) : Option (List Bytes) → Except Bytes Unit
  | some (line :: _) =>
    match refusalText line with
    | some msg => .error (snprintf errSz msg)
    | none => .ok ()
  | _ => .error (snprintf errSz (ascii "Conexion perdida"))

/-- What `cmd_stats` makes of a response: the numbers it could read. -/
def statsResult : Option (List Bytes) → Option (List ℕ)
  | some (line :: _) =>
    if line.head? = some 45 then none
    else some (sscanf [.text (ascii "+OK"),
      .blank, .text (ascii "total_connections="), .unsigned 64,
      .blank, .text (ascii "concurrent_connections="), .unsigned 64,
      .blank, .text (ascii "bytes_up="), .unsigned 64,
      .blank, .text (ascii "bytes_down="), .unsigned 64] line)
  | _ => none

/-- What `cmd_config_get` makes of a response. -/
def configResult (errSz : ℕ) : Option (List Bytes) → Except Bytes ℕ
  | some (line :: _) =>
    match refusalText line with
    | some msg => .error (snprintf errSz msg)
    | none =>
      match sscanf [.text (ascii "+OK"), .blank, .unsigned 32] line with
      | [parsed] => .ok parsed
      | _ => .error (snprintf errSz (ascii "respuesta invalida"))
  | _ => .error (snprintf errSz (ascii "Conexion perdida"))

/-! ## The lines written -/

/-- The line of `cmd_auth`. -/
def authLine (user pass : Bytes) : Bytes :=
  snprintf lineBufSize (ascii "AUTH " ++ user ++ ascii " " ++ pass ++ ascii "\n")

/-- The line of `cmd_access_log`; no filter and an empty one are the same. -/
def accessLogLine (filter : Bytes) : Bytes :=
  if filter ≠ [] then snprintf lineBufSize (ascii "ACCESS_LOG " ++ filter ++ ascii "\n")
  else ascii "ACCESS_LOG\n"

/-- The line of `cmd_config_get`. -/
def configGetLine (param : Bytes) : Bytes :=
  snprintf lineBufSize (ascii "CONFIG " ++ param ++ ascii "\n")

/-- The line of `cmd_config`. -/
def configLine (param : Bytes) (value : UInt32) : Bytes :=
  snprintf lineBufSize (ascii "CONFIG " ++ param ++ ascii " " ++ decimal value.toNat ++ ascii "\n")

/-- The line of `cmd_add_user`. -/
def addUserLine (user pass : Bytes) (admin : Bool) : Bytes :=
  if admin then
    snprintf lineBufSize (ascii "ADD_USER " ++ user ++ ascii " " ++ pass ++ ascii " admin\n")
  else snprintf lineBufSize (ascii "ADD_USER " ++ user ++ ascii " " ++ pass ++ ascii "\n")

/-- The line of `cmd_del_user`. -/
def delUserLine (user : Bytes) : Bytes :=
  snprintf lineBufSize (ascii "DEL_USER " ++ user ++ ascii "\n")

/-- The line of `cmd_set_password`. -/
def setPasswordLine (user pass : Bytes) : Bytes :=
  snprintf lineBufSize (ascii "SET_PASSWORD " ++ user ++ ascii " " ++ pass ++ ascii "\n")

/-- The line of `cmd_deny_host`. -/
def denyHostLine (hostname : Bytes) : Bytes :=
  snprintf lineBufSize (ascii "DENY_HOST " ++ hostname ++ ascii "\n")

/-- The line of `cmd_deny_ip`. -/
def denyIpLine (ip : Bytes) : Bytes :=
  snprintf lineBufSize (ascii "DENY_IP " ++ ip ++ ascii "\n")

/-- The line of `cmd_undeny`. -/
def undenyLine (target : Bytes) : Bytes :=
  snprintf lineBufSize (ascii "UNDENY " ++ target ++ ascii "\n")

/-! ## The commands -/

namespace MonitorLink

variable (link : MonitorLink)

/-- `cmd_simple`. -/
def cmdSimple (cmd : Bytes) (errSz : ℕ) : MonitorLink × Except Bytes Unit :=
  match link.writeAll cmd with
  | none => (link, .error (snprintf errSz (ascii "Error de escritura")))
  | some link =>
    let (lines, link) := link.readResponse 2
    (link, simpleResult errSz lines)

/-- `cmd_auth`. -/
def cmdAuth (user pass : Bytes) (errSz : ℕ) := link.cmdSimple (authLine user pass) errSz

/-- `cmd_stats`. -/
def cmdStats : MonitorLink × Option (List ℕ) :=
  match link.writeAll (ascii "STATS\n") with
  | none => (link, none)
  | some link =>
    let (lines, link) := link.readResponse 2
    (link, statsResult lines)

/-- `cmd_list`. -/
def cmdList (cmd : Bytes) (maxLines : ℕ) : MonitorLink × Option (List Bytes) :=
  match link.writeAll cmd with
  | none => (link, none)
  | some link =>
    let (lines, link) := link.readResponse maxLines
    (link, lines)

/-- `cmd_connections`. -/
def cmdConnections (maxLines : ℕ) := link.cmdList (ascii "CONNECTIONS\n") maxLines

/-- `cmd_users`. -/
def cmdUsers (maxLines : ℕ) := link.cmdList (ascii "USERS\n") maxLines

/-- `cmd_access_log`. -/
def cmdAccessLog (filter : Bytes) (maxLines : ℕ) := link.cmdList (accessLogLine filter) maxLines

/-- `cmd_config_get`. -/
def cmdConfigGet (param : Bytes) (errSz : ℕ) : MonitorLink × Except Bytes ℕ :=
  match link.writeAll (configGetLine param) with
  | none => (link, .error (snprintf errSz (ascii "Error de escritura")))
  | some link =>
    let (lines, link) := link.readResponse 2
    (link, configResult errSz lines)

/-- `cmd_config`. -/
def cmdConfig (param : Bytes) (value : UInt32) (errSz : ℕ) :=
  link.cmdSimple (configLine param value) errSz

/-- `cmd_add_user`. -/
def cmdAddUser (user pass : Bytes) (admin : Bool) (errSz : ℕ) :=
  link.cmdSimple (addUserLine user pass admin) errSz

/-- `cmd_del_user`. -/
def cmdDelUser (user : Bytes) (errSz : ℕ) := link.cmdSimple (delUserLine user) errSz

/-- `cmd_set_password`. -/
def cmdSetPassword (user pass : Bytes) (errSz : ℕ) :=
  link.cmdSimple (setPasswordLine user pass) errSz

/-- `cmd_deny_host`. -/
def cmdDenyHost (hostname : Bytes) (errSz : ℕ) := link.cmdSimple (denyHostLine hostname) errSz

/-- `cmd_deny_ip`. -/
def cmdDenyIp (ip : Bytes) (errSz : ℕ) := link.cmdSimple (denyIpLine ip) errSz

/-- `cmd_undeny`. -/
def cmdUndeny (target : Bytes) (errSz : ℕ) := link.cmdSimple (undenyLine target) errSz

/-- `cmd_deny_list`. -/
def cmdDenyList (maxLines : ℕ) := link.cmdList (ascii "DENY_LIST\n") maxLines

/-- `cmd_quit`; whether the command could be written is not looked at. -/
def cmdQuit : MonitorLink :=
  let link := (link.writeAll (ascii "QUIT\n")).getD link
  { link with incoming := skipResponse link.incoming }

end MonitorLink

end SocksProxy
