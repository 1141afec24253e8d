import SocksProxy.Lib.Scanner
import SocksProxy.Socks.Session

/-!
# The handshake as a function of the client's bytes

The three parsers are run one after the other on the same stream, each from where the one before
it stopped.  `SocksSession.parse valid s bs` is what a session in the middle of this makes of the
bytes `bs` that are still to come: the parsed CONNECT request with its status and the bytes that
follow it, or none when the stream does not get that far.  Every step of a parsing state either
keeps what is to come or ends it; these are the `parse_*` lemmas.
-/

set_option autoImplicit false

namespace SocksProxy

/-- Feed a greeting parser until it decides. -/
def parseGreeting : GreetingParser → Bytes → Option (GreetingParser × GreetingStatus × Bytes) :=
  scan greetingParserFeed .needMore

/-- Feed an authentication parser until it decides. -/
def parseAuth : AuthParser → Bytes → Option (AuthParser × AuthStatus × Bytes) :=
  scan authParserFeed .needMore

/-- Feed a request parser until it decides. -/
def parseRequest : RequestParser → Bytes → Option (RequestParser × RequestStatus × Bytes) :=
  scan requestParserFeed .needMore

/-- Authentication, and then the request. -/
def parseFromAuth (valid : AuthParser → Bool) (a : AuthParser) (p : RequestParser) (bs : Bytes) :
    Option (RequestParser × RequestStatus × Bytes) :=
  match parseAuth a bs with
  | some (a', .parsed, rest) => if valid a' then parseRequest p rest else none
  | _ => none

/-- The greeting, authentication if it was chosen, and then the request. -/
def parseFromGreeting (valid : AuthParser → Bool) (g : GreetingParser) (a : AuthParser)
    (p : RequestParser) (bs : Bytes) : Option (RequestParser × RequestStatus × Bytes) :=
  match parseGreeting g bs with
  | some (g', .accept, rest) =>
    if g'.chosenMethod = socksMethodUserpass then parseFromAuth valid a p rest
    else parseRequest p rest
  | _ => none

/-- What a session makes of the bytes to come: the request and what follows it. -/
def SocksSession.parse (valid : AuthParser → Bool) (s : SocksSession) (bs : Bytes) :
    Option (RequestParser × RequestStatus × Bytes) :=
  match stmState s with
  | .authGreeting => parseFromGreeting valid s.greeting s.auth s.request bs
  | .authUserpass => parseFromAuth valid s.auth s.request bs
  | .request => parseRequest s.request bs
  | _ => none

/-- What follows the CONNECT request in a client's stream, whoever the client is. -/
def afterConnect (bs : Bytes) : Option Bytes :=
  (parseFromGreeting (fun _ => true) greetingParserInit authParserInit requestParserInit bs).map
    fun r => r.2.2

section Append

variable {valid : AuthParser → Bool} {g : GreetingParser} {a : AuthParser} {p p' : RequestParser}
  {status : RequestStatus} {bs rest : Bytes}

theorem parseFromAuth_append (h : parseFromAuth valid a p bs = some (p', status, rest))
    (late : Bytes) : parseFromAuth valid a p (bs ++ late) = some (p', status, rest ++ late) := by
  rw [parseFromAuth] at h
  split at h
  · next a' rest' ha =>
    split at h
    · next hv =>
      rw [parseFromAuth, show parseAuth a (bs ++ late) = _ from scan_append ha late]
      simp only [hv, if_true]
      exact scan_append h late
    · cases h
  · cases h

theorem parseFromGreeting_append
    (h : parseFromGreeting valid g a p bs = some (p', status, rest)) (late : Bytes) :
    parseFromGreeting valid g a p (bs ++ late) = some (p', status, rest ++ late) := by
  rw [parseFromGreeting] at h
  split at h
  · next g' rest' hg =>
    rw [parseFromGreeting, show parseGreeting g (bs ++ late) = _ from scan_append hg late]
    dsimp only
    split at h
    · next hm =>
      rw [if_pos hm]
      exact parseFromAuth_append h late
    · next hm =>
      rw [if_neg hm]
      exact scan_append h late
  · cases h

/-- Once the request is over, what comes later follows it. -/
theorem afterConnect_append (h : afterConnect bs = some rest) (late : Bytes) :
    afterConnect (bs ++ late) = some (rest ++ late) := by
  obtain ⟨⟨p', status, rest'⟩, hp, rfl⟩ := Option.map_eq_some_iff.1 h
  rw [afterConnect, parseFromGreeting_append hp late]
  rfl

end Append

section Steps

variable {valid : AuthParser → Bool} {s s' : SocksSession} {byte : UInt8} {bs : Bytes}

/-- Only the state and the parsers matter. -/
theorem parse_congr (hst : stmState s' = stmState s) (hg : s'.greeting = s.greeting)
    (ha : s'.auth = s.auth) (hr : s'.request = s.request) :
    s'.parse valid bs = s.parse valid bs := by
  rw [SocksSession.parse, SocksSession.parse, hst, hg, ha, hr]

theorem parse_greetMore {p : GreetingParser} (hst : stmState s = .authGreeting)
    (hst' : stmState s' = .authGreeting) (hg : s'.greeting = p) (ha : s'.auth = s.auth)
    (hr : s'.request = s.request) (h : greetingParserFeed s.greeting byte = (p, .needMore)) :
    s.parse valid (byte :: bs) = s'.parse valid bs := by
  simp only [SocksSession.parse, hst, hst', hg, ha, hr, parseFromGreeting, parseGreeting, scan_more h]

theorem parse_greetAccept {p : GreetingParser} (hst : stmState s = .authGreeting)
    (hst' : stmState s' =
      if p.chosenMethod = socksMethodUserpass then .authUserpass else .request)
    (ha : s'.auth = s.auth) (hr : s'.request = s.request)
    (h : greetingParserFeed s.greeting byte = (p, .accept)) :
    s.parse valid (byte :: bs) = s'.parse valid bs := by
  simp only [SocksSession.parse, hst, hst', ha, hr, parseFromGreeting, parseGreeting,
    scan_done h (show GreetingStatus.accept ≠ .needMore by simp)]
  split
  · rfl
  · rfl

theorem parse_greetReject {p : GreetingParser} (hst : stmState s = .authGreeting)
    (h : greetingParserFeed s.greeting byte = (p, .reject)) :
    s.parse valid (byte :: bs) = none := by
  simp only [SocksSession.parse, hst, parseFromGreeting, parseGreeting,
    scan_done h (show GreetingStatus.reject ≠ .needMore by simp)]

theorem parse_authMore {p : AuthParser} (hst : stmState s = .authUserpass)
    (hst' : stmState s' = .authUserpass) (ha : s'.auth = p) (hr : s'.request = s.request)
    (h : authParserFeed s.auth byte = (p, .needMore)) :
    s.parse valid (byte :: bs) = s'.parse valid bs := by
  simp only [SocksSession.parse, hst, hst', ha, hr, parseFromAuth, parseAuth, scan_more h]

theorem parse_authAccept {p : AuthParser} (hst : stmState s = .authUserpass)
    (hst' : stmState s' = .request) (hr : s'.request = s.request)
    (h : authParserFeed s.auth byte = (p, .parsed)) (hv : valid p = true) :
    s.parse valid (byte :: bs) = s'.parse valid bs := by
  simp only [SocksSession.parse, hst, hst', hr, parseFromAuth, parseAuth,
    scan_done h (show AuthStatus.parsed ≠ .needMore by simp), hv, if_true]

theorem parse_authReject {p : AuthParser} (hst : stmState s = .authUserpass)
    (h : authParserFeed s.auth byte = (p, .reject)) : s.parse valid (byte :: bs) = none := by
  simp only [SocksSession.parse, hst, parseFromAuth, parseAuth,
    scan_done h (show AuthStatus.reject ≠ .needMore by simp)]

theorem parse_authInvalid {p : AuthParser} (hst : stmState s = .authUserpass)
    (h : authParserFeed s.auth byte = (p, .parsed)) (hv : valid p = false) :
    s.parse valid (byte :: bs) = none := by
  simp [SocksSession.parse, hst, parseFromAuth, parseAuth,
    scan_done h (show AuthStatus.parsed ≠ .needMore by simp), hv]

theorem parse_requestMore {p : RequestParser} (hst : stmState s = .request)
    (hst' : stmState s' = .request) (hr : s'.request = p)
    (h : requestParserFeed s.request byte = (p, .needMore)) :
    s.parse valid (byte :: bs) = s'.parse valid bs := by
  simp only [SocksSession.parse, hst, hst', hr, parseRequest, scan_more h]

theorem parse_requestDone {p : RequestParser} {status : RequestStatus}
    (hst : stmState s = .request) (h : requestParserFeed s.request byte = (p, status))
    (hd : status ≠ .needMore) : s.parse valid (byte :: bs) = some (p, status, bs) := by
  simp only [SocksSession.parse, hst, parseRequest, scan_done h hd]

/-- No bytes, no request. -/
theorem parse_nil : s.parse valid [] = none := by
  rw [SocksSession.parse]
  split <;> rfl

/-- Only the parsing states parse. -/
theorem parse_eq_none (h1 : stmState s ≠ .authGreeting) (h2 : stmState s ≠ .authUserpass)
    (h3 : stmState s ≠ .request) : s.parse valid bs = none := by
  rw [SocksSession.parse]
  split
  · contradiction
  · contradiction
  · contradiction
  · rfl

end Steps

end SocksProxy
