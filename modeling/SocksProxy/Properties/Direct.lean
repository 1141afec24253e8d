import SocksProxy.Client.Answers
import SocksProxy.Monitor.Orders
import SocksProxy.Properties.Encoding
import SocksProxy.Properties.InStep

/-!
# A call of the client, made on the store

`ClientCall.direct` says what a call of the client is for: what it does to the store and what it
returns, as if client and server were one program.  Between the two lie a line of text and a text of
lines.  `splitLine_body` is about the way there: the words of the call are the words the server
finds.  `ClientCall.reply_direct` is about the way back: what the client makes of the lines the
server answers with is what the call is to return.
-/

set_option autoImplicit false

namespace SocksProxy

namespace ClientCall

/-! ## What a call is for -/

/-- The call returns a refusal. -/
def refused (text : String) : ClientCall → ClientResult
  | .simple _ errSz | .auth _ _ errSz | .config _ _ errSz | .addUser _ _ _ errSz | .delUser _ errSz
  | .setPassword _ _ errSz | .denyHost _ errSz | .denyIp _ errSz | .undeny _ errSz =>
    .simple (.error (snprintf errSz (ascii text)))
  | .stats => .stats none
  | .list .. | .connections .. | .users .. | .accessLog .. | .denyList .. =>
    .lines (some [ascii "-ERR " ++ ascii text])
  | .configGet _ errSz => .config (.error (snprintf errSz (ascii text)))
  | .quit => .quit

/-- What the client keeps of the lines of a listing. -/
def shown (texts : List Bytes) : List Bytes := texts.map fun t => respLine (lineText t.dropLast)

variable [Inet]

omit [Inet] in
/-- One line for each item, or a bare `+OK`. -/
def oneEach {α : Type} (items : List α) (text : α → Bytes) : List Bytes :=
  if items = [] then [ascii "+OK\n"] else items.map text

/-- The lines of a listing. -/
def listing (st : MonitorStore) : ClientCall → List Bytes
  | .connections _ => oneEach (storeActiveSessions st) connectionText
  | .users _ => oneEach (storeUsers st) userText
  | .accessLog filter _ =>
    if filter = [] then
      ascii "+OK Access log for all users:\n" :: (storeLogEntries st none).map logEntryText
    else if storeUserExists st filter then
      (ascii "+OK Access log for user " ++ filter ++ ascii ":\n") ::
        (storeLogEntries st (some filter)).map logEntryText
    else [ascii "-ERR user not found\n"]
  | .denyList _ =>
    ascii "+OK Denied hosts:\n" :: st.deniedHosts.rules.map ruleText ++
      ascii "+OK Denied IPs:\n" :: st.deniedAddresses.rules.map ruleText
  | _ => []

/-- The call, made by an administrator who has logged in. -/
def onStore (realloc : Bool) (st : MonitorStore) (call : ClientCall) :
    MonitorStore × ClientResult :=
  match call with
  | .simple .. | .list .. => (st, call.refused "unknown command")
  | .auth .. => (st, call.refused "already authenticated")
  | .stats =>
    (st, .stats (some [st.metrics.totalConnections, st.metrics.concurrentConnections,
      st.metrics.bytesUp.toNat, st.metrics.bytesDown.toNat]))
  | .connections _ | .users _ | .accessLog .. | .denyList _ =>
    (st, .lines (some (shown (call.listing st))))
  | .configGet param _ =>
    match storeConfigKeyFromName param with
    | none => (st, call.refused "unknown param")
    | some key => (st, .config (.ok (storeConfigGet st key)))
  | .config param value _ =>
    match storeConfigKeyFromName param with
    | none => (st, call.refused "unknown param")
    | some key =>
      match storeConfigSet st key value.toNat realloc with
      | (st, .ok) => (st, .simple (.ok ()))
      | (st, .unknownKey) => (st, call.refused "unknown param")
      | (st, .invalidValue) => (st, call.refused "invalid value")
  | .addUser user pass admin _ =>
    match storeUserAdd st user pass admin with
    | (st, .ok) => (st, .simple (.ok ()))
    | (st, .exists) => (st, call.refused "user exists")
    | (st, .tableFull) => (st, call.refused "user table full")
    | (st, _) => (st, call.refused "syntax error")
  | .delUser user _ =>
    match storeUserDelete st user with
    | (st, .ok) => (st, .simple (.ok ()))
    | (st, .notFound) => (st, call.refused "user not found")
    | (st, .lastAdmin) => (st, call.refused "cannot delete last admin")
    | (st, _) => (st, call.refused "syntax error")
  | .setPassword user pass _ =>
    match storeUserSetPassword st user pass with
    | (st, .ok) => (st, .simple (.ok ()))
    | (st, _) => (st, call.refused "user not found")
  | .denyHost hostname _ =>
    if isHostDenied st hostname then (st, call.refused "host already denied")
    else match storeDenyHost st hostname with
      | (st, true) => (st, .simple (.ok ()))
      | (st, false) => (st, call.refused "failed to add rule")
  | .denyIp ip _ =>
    if isIpDenied st ip then (st, call.refused "address already denied")
    else match storeDenyIp st ip with
      | (st, true) => (st, .simple (.ok ()))
      | (st, false) => (st, call.refused "failed to add rule")
  | .undeny target _ =>
    match storeUndenyHost st target with
    | (st, true) => (st, .simple (.ok ()))
    | (st, false) =>
      match storeUndenyIp st target with
      | (st, true) => (st, .simple (.ok ()))
      | (st, false) => (st, call.refused "rule not present")
  | .quit => (st, .quit)

/-- **The call, made on the store itself**: what becomes of the store and of the session, and what
is returned.  `realloc` says whether a reallocation succeeds. -/
def direct (realloc : Bool) (st : MonitorStore) (state : MonitorCommandsState) (call : ClientCall) :
    MonitorStore × MonitorCommandsState × ClientResult :=
  match state, call with
  | .awaitAuth, .auth user pass _ =>
    match storeAdminAuthenticate st user pass with
    | .ok => (st, .authenticated, .simple (.ok ()))
    | .notAdmin => (st, .awaitAuth, call.refused "not admin")
    | .invalid => (st, .awaitAuth, call.refused "invalid credentials")
  | .awaitAuth, call => (st, .awaitAuth, call.refused "not authenticated")
  | .authenticated, call =>
    ((call.onStore realloc st).1, .authenticated, (call.onStore realloc st).2)

/-! ## The words of a call -/

omit [Inet] in
/-- The words of the line the call writes; the helpers the other calls are made of have none. -/
def words : ClientCall → List Bytes
  | .simple .. | .list .. => []
  | .auth user pass _ => [ascii "AUTH", user, pass]
  | .stats => [ascii "STATS"]
  | .connections _ => [ascii "CONNECTIONS"]
  | .users _ => [ascii "USERS"]
  | .accessLog filter _ =>
    if filter = [] then [ascii "ACCESS_LOG"] else [ascii "ACCESS_LOG", filter]
  | .configGet param _ => [ascii "CONFIG", param]
  | .config param value _ => [ascii "CONFIG", param, decimal value.toNat]
  | .addUser user pass true _ => [ascii "ADD_USER", user, pass, ascii "admin"]
  | .addUser user pass false _ => [ascii "ADD_USER", user, pass]
  | .delUser user _ => [ascii "DEL_USER", user]
  | .setPassword user pass _ => [ascii "SET_PASSWORD", user, pass]
  | .denyHost hostname _ => [ascii "DENY_HOST", hostname]
  | .denyIp ip _ => [ascii "DENY_IP", ip]
  | .undeny target _ => [ascii "UNDENY", target]
  | .denyList _ => [ascii "DENY_LIST"]
  | .quit => [ascii "QUIT"]

omit [Inet] in
/-- The line of the call without its newline. -/
def body (call : ClientCall) : Bytes := [32].intercalate call.words

omit [Inet] in
/-- The call says what it means: its words are words, and the line is not longer than the server
takes. -/
structure Sendable (call : ClientCall) : Prop where
  ne_nil : call.words ≠ []
  word : ∀ w ∈ call.words, w ≠ [] ∧ 32 ∉ w ∧ 10 ∉ w ∧ 0 ∉ w
  cr : ∀ w ∈ call.words.getLast?, w.getLast? ≠ some 13
  short : call.body.length < monitorLineMax

omit [Inet] in
instance (call : ClientCall) : Decidable call.Sendable :=
  decidable_of_iff (call.words ≠ [] ∧ (∀ w ∈ call.words, w ≠ [] ∧ 32 ∉ w ∧ 10 ∉ w ∧ 0 ∉ w) ∧
    (∀ w ∈ call.words.getLast?, w.getLast? ≠ some 13) ∧ call.body.length < monitorLineMax)
    ⟨fun ⟨h₁, h₂, h₃, h₄⟩ => ⟨h₁, h₂, h₃, h₄⟩, fun ⟨h₁, h₂, h₃, h₄⟩ => ⟨h₁, h₂, h₃, h₄⟩⟩

end ClientCall

/-! ## The way there -/

section Words

variable {ws : List Bytes}

/-- The last of some words ends their line. -/
theorem getLast?_intercalate (hne : ws ≠ []) (hws : ∀ w ∈ ws, w ≠ []) :
    ([32].intercalate ws).getLast? = ws.getLast?.bind List.getLast? := by
  obtain ⟨init, w, rfl⟩ := (List.eq_nil_or_concat' ws).resolve_left hne
  obtain ⟨pre, hpre⟩ := intercalate_concat [32] init
  have hw := hws w (List.mem_append_right _ List.mem_cons_self)
  rw [hpre, List.getLast?_append_of_ne_nil _ hw, List.getLast?_concat, Option.bind_some]

/-- **The server finds the words that were written.** -/
theorem splitLine_intercalate (hne : ws ≠ [])
    (hws : ∀ w ∈ ws, w ≠ [] ∧ 32 ∉ w ∧ 10 ∉ w ∧ 0 ∉ w)
    (hcr : ∀ w ∈ ws.getLast?, w.getLast? ≠ some 13) (hlen : ws.length ≤ 8) :
    splitLine (stripCr ([32].intercalate ws)) = ⟨ws⟩ := by
  have hstrip : stripCr ([32].intercalate ws) = [32].intercalate ws := by
    refine if_neg ?_
    rw [getLast?_intercalate hne fun w hw => (hws w hw).1]
    intro h
    obtain ⟨w, hw, hlast⟩ := Option.bind_eq_some_iff.1 h
    exact hcr w hw hlast
  have hnul : 0 ∉ [32].intercalate ws := by
    intro h
    rcases mem_intercalate h with h | ⟨w, hw, h⟩
    · exact absurd h (by decide)
    · exact (hws w hw).2.2.2 h
  rw [hstrip, splitLine, cstr_of_notMem hnul,
    tokens_intercalate (fun w hw => (hws w hw).2.1) hne, List.filter_eq_self.2,
    List.take_of_length_le hlen]
  exact fun w hw => decide_eq_true (hws w hw).1

end Words

namespace ClientCall

variable {call : ClientCall}

theorem length_words_le (call : ClientCall) : call.words.length ≤ 8 := by
  cases call with
  | addUser user pass admin => cases admin <;> simp [words]
  | accessLog filter => by_cases h : filter = [] <;> simp [words, h]
  | _ => simp [words]

theorem Sendable.splitLine_body (h : call.Sendable) :
    splitLine (stripCr call.body) = ⟨call.words⟩ :=
  splitLine_intercalate h.ne_nil h.word h.cr call.length_words_le

theorem Sendable.body_ne_nil (h : call.Sendable) : call.body ≠ [] := by
  intro hnil
  obtain ⟨w, ws, hws⟩ := List.exists_cons_of_ne_nil h.ne_nil
  have hw := (h.word w (hws ▸ List.mem_cons_self)).1
  obtain ⟨b, bs, hb⟩ := List.exists_cons_of_ne_nil hw
  rw [body, hws, hb] at hnil
  cases ws with
  | nil => simp at hnil
  | cons v vs => simp [List.intercalate_cons_cons] at hnil

theorem Sendable.newline (h : call.Sendable) : 10 ∉ call.body := by
  intro hmem
  rcases mem_intercalate hmem with hmem | ⟨w, hw, hmem⟩
  · exact absurd hmem (by decide)
  · exact (h.word w hw).2.2.1 hmem

/-- The call writes its words and a newline. -/
theorem Sendable.text_eq (h : call.Sendable) : call.text = call.body ++ [10] := by
  have hfit : ∀ text : Bytes, text = call.body →
      snprintf lineBufSize (text ++ [10]) = call.body ++ [10] := by
    rintro text rfl
    refine List.take_of_length_le ?_
    have hshort := h.short
    dsimp only [monitorLineMax, lineBufSize] at hshort ⊢
    rw [List.length_append, List.length_singleton]
    omega
  cases call with
  | simple cmd errSz => exact absurd rfl h.ne_nil
  | list cmd maxLines => exact absurd rfl h.ne_nil
  | stats => rfl
  | connections maxLines => rfl
  | users maxLines => rfl
  | denyList maxLines => rfl
  | quit => rfl
  | auth user pass errSz =>
    exact hfit (ascii "AUTH " ++ user ++ ascii " " ++ pass)
      (by simp [body, words, List.intercalate_cons_cons, ascii])
  | accessLog filter maxLines =>
    rw [text, accessLogLine]
    by_cases hf : filter = []
    · simp [hf, body, words, ascii]
    · rw [if_pos hf]
      exact hfit (ascii "ACCESS_LOG " ++ filter)
        (by simp [hf, body, words, List.intercalate_cons_cons, ascii])
  | configGet param errSz =>
    exact hfit (ascii "CONFIG " ++ param)
      (by simp [body, words, List.intercalate_cons_cons, ascii])
  | config param value errSz =>
    exact hfit (ascii "CONFIG " ++ param ++ ascii " " ++ decimal value.toNat)
      (by simp [body, words, List.intercalate_cons_cons, ascii])
  | addUser user pass admin errSz =>
    rw [text, addUserLine]
    cases admin with
    | true =>
      have heq := hfit (ascii "ADD_USER " ++ user ++ ascii " " ++ pass ++ ascii " admin")
        (by simp [body, words, List.intercalate_cons_cons, ascii])
      rw [List.append_assoc _ (ascii " admin")] at heq
      exact heq
    | false =>
      exact hfit (ascii "ADD_USER " ++ user ++ ascii " " ++ pass)
        (by simp [body, words, List.intercalate_cons_cons, ascii])
  | delUser user errSz =>
    exact hfit (ascii "DEL_USER " ++ user)
      (by simp [body, words, List.intercalate_cons_cons, ascii])
  | setPassword user pass errSz =>
    exact hfit (ascii "SET_PASSWORD " ++ user ++ ascii " " ++ pass)
      (by simp [body, words, List.intercalate_cons_cons, ascii])
  | denyHost hostname errSz =>
    exact hfit (ascii "DENY_HOST " ++ hostname)
      (by simp [body, words, List.intercalate_cons_cons, ascii])
  | denyIp ip errSz =>
    exact hfit (ascii "DENY_IP " ++ ip)
      (by simp [body, words, List.intercalate_cons_cons, ascii])
  | undeny target errSz =>
    exact hfit (ascii "UNDENY " ++ target)
      (by simp [body, words, List.intercalate_cons_cons, ascii])

end ClientCall

/-! ## The way back -/

/-- A line that is not long, with no zero byte and no carriage return at its end, is kept as it
is. -/
theorem respLine_lineText {l : Bytes} (hlen : l.length < maxRespLineLen) (hnul : 0 ∉ l)
    (hcr : l.getLast? ≠ some 13) : respLine (lineText l) = l := by
  rw [lineText, stripCr, if_neg hcr, cstr_of_notMem hnul, respLine]
  exact List.take_of_length_le (by omega)

section Answers

variable [Inet]

/-- The answer can be read: the numbers of `STATS` and `CONFIG` have the width the client reads,
every line of a listing is a line, and a listing fits the buffer of the server and the array of
the client. -/
structure ClientCall.Answerable (st : MonitorStore) (call : ClientCall) : Prop where
  counted : call = .stats →
    st.metrics.totalConnections < 2 ^ 64 ∧ st.metrics.concurrentConnections < 2 ^ 64
  value : ∀ param errSz key, call = .configGet param errSz → storeConfigGet st key < 2 ^ 32
  line : ∀ t ∈ call.listing st, ∃ l, t = l ++ [10] ∧ 10 ∉ l ∧ lineText l ≠ ascii "."
  fits : (call.listing st).flatten.length + 2 ≤ monitorBufferSize
  room : ∀ n ∈ call.room, 1 < n ∧ (call.listing st).length < n

/-- The reply `r'` to a call that found `r` is what the call is for. -/
structure ClientCall.Told (call : ClientCall) (r r' : Reply) : Prop where
  direct : call.direct (r.realloc.headD true) r.store r.state =
    (r'.store, r'.state, call.make (some (ClientCall.shown r'.lines)))
  line : ∀ t ∈ r'.lines, ∃ l, t = l ++ [10] ∧ 10 ∉ l ∧ lineText l ≠ ascii "."
  fits : r'.lines.flatten.length + 2 ≤ monitorBufferSize
  room : ∀ n ∈ call.room, r'.lines.length < n

namespace ClientCall

variable {call : ClientCall} {r r' : Reply} {st : MonitorStore}

/-- A text that can stand in a line. -/
def Plain (text : Bytes) : Prop := text.length ≤ 200 ∧ 0 ∉ text ∧ 10 ∉ text ∧ 13 ∉ text

omit [Inet] in
instance (text : Bytes) : Decidable (Plain text) :=
  inferInstanceAs (Decidable (_ ∧ _))

omit [Inet] in
theorem shown_plain {l : Bytes} (h : Plain l) : shown [l ++ [10]] = [l] := by
  have hlen : l.length < maxRespLineLen := Nat.lt_of_le_of_lt h.1 (by decide)
  rw [shown, List.map_singleton, List.dropLast_concat,
    respLine_lineText hlen h.2.1 fun hlast => h.2.2.2 (List.mem_of_getLast? hlast)]

/-- One line. -/
theorem told_line {l : Bytes} (hlines : r'.lines = [l ++ [10]]) (hplain : Plain l)
    (hdot : l ≠ ascii ".") (hroom : ∀ n ∈ call.room, 1 < n)
    (hdirect : call.direct (r.realloc.headD true) r.store r.state =
      (r'.store, r'.state, call.make (some [l]))) : call.Told r r' where
  direct := by rw [hlines, shown_plain hplain, hdirect]
  line := by
    intro t ht
    rw [hlines, List.mem_singleton] at ht
    refine ⟨l, ht, hplain.2.2.1, ?_⟩
    rw [lineText, stripCr, if_neg fun hlast => hplain.2.2.2 (List.mem_of_getLast? hlast),
      cstr_of_notMem hplain.2.1]
    exact hdot
  fits := by
    rw [hlines, List.flatten_singleton, List.length_append, List.length_singleton]
    have hlen := hplain.1
    have hsize : monitorBufferSize = 4096 := rfl
    omega
  room := by
    rw [hlines]
    exact hroom

omit [Inet] in
/-- A refusal comes back as its text. -/
theorem make_refusal (text : String) :
    call.make (some [ascii "-ERR " ++ ascii text]) = call.refused text := by
  have hsimple : ∀ errSz, simpleResult errSz (some [ascii "-ERR " ++ ascii text]) =
      .error (snprintf errSz (ascii text)) := by
    intro errSz
    rw [simpleResult, refusalText_err]
  cases call with
  | stats => rfl
  | configGet param errSz =>
    rw [make, configResult, refusalText_err]
    rfl
  | quit => rfl
  | list | connections | users | accessLog | denyList => rfl
  | simple | auth | config | addUser | delUser | setPassword | denyHost | denyIp | undeny =>
    exact congrArg ClientResult.simple (hsimple _)

/-- A refusal of the source. -/
theorem told_refusal {full : String} (text : String) (hlines : r'.lines = [ascii full])
    (hfull : ascii full = ascii "-ERR " ++ ascii text ++ [10])
    (hplain : Plain (ascii "-ERR " ++ ascii text)) (hroom : ∀ n ∈ call.room, 1 < n)
    (hdirect : call.direct (r.realloc.headD true) r.store r.state =
      (r'.store, r'.state, call.refused text)) : call.Told r r' := by
  refine told_line (hlines.trans (congrArg (fun t => [t]) hfull)) hplain ?_ hroom ?_
  · intro h
    have := congrArg List.length h
    simp [ascii] at this
  · rw [make_refusal, hdirect]

/-- A bare `+OK`. -/
theorem told_ok (hlines : r'.lines = [ascii "+OK\n"]) (hroom : ∀ n ∈ call.room, 1 < n)
    (hdirect : call.direct (r.realloc.headD true) r.store r.state =
      (r'.store, r'.state, call.make (some [ascii "+OK"]))) : call.Told r r' :=
  told_line hlines (by decide) (by decide) hroom hdirect

/-- A listing. -/
theorem told_listing (h : call.Answerable r.store) (hlines : r'.lines = call.listing r.store)
    (hdirect : call.direct (r.realloc.headD true) r.store r.state =
      (r'.store, r'.state, call.make (some (shown (call.listing r.store))))) : call.Told r r' where
  direct := by rw [hlines, hdirect]
  line := hlines ▸ h.line
  fits := hlines ▸ h.fits
  room n hn := hlines ▸ (h.room n hn).2

/-! ## Every call -/

section LoggedIn

variable {rs : List Bool} {quit : Bool}

/-- A reply to an administrator who has logged in, that has done nothing yet. -/
def awaited (st : MonitorStore) (rs : List Bool) (quit : Bool) : Reply :=
  ⟨[], st, rs, .authenticated, quit⟩

theorem told_done (hlines : r'.lines = [ascii "+OK\n"]) (hstate : r'.state = .authenticated)
    (hroom : ∀ n ∈ call.room, 1 < n)
    (hon : call.onStore (rs.headD true) st = (r'.store, call.make (some [ascii "+OK"]))) :
    call.Told (awaited st rs quit) r' := by
  refine told_ok hlines hroom ?_
  have hdirect : call.direct (rs.headD true) st .authenticated =
      ((call.onStore (rs.headD true) st).1, .authenticated,
        (call.onStore (rs.headD true) st).2) := by
    cases call <;> rfl
  rw [hstate]
  exact hdirect.trans (by rw [hon])

theorem told_refused {full : String} (text : String) (hlines : r'.lines = [ascii full])
    (hstate : r'.state = .authenticated)
    (hfull : ascii full = ascii "-ERR " ++ ascii text ++ [10])
    (hplain : Plain (ascii "-ERR " ++ ascii text)) (hroom : ∀ n ∈ call.room, 1 < n)
    (hon : call.onStore (rs.headD true) st = (r'.store, call.refused text)) :
    call.Told (awaited st rs quit) r' := by
  refine told_refusal text hlines hfull hplain hroom ?_
  have hdirect : call.direct (rs.headD true) st .authenticated =
      ((call.onStore (rs.headD true) st).1, .authenticated,
        (call.onStore (rs.headD true) st).2) := by
    cases call <;> rfl
  rw [hstate]
  exact hdirect.trans (by rw [hon])

theorem told_addUser (user pass : Bytes) (admin : Bool) (errSz : ℕ) :
    (addUser user pass admin errSz).Told (awaited st rs quit)
      ((awaited st rs quit).command ⟨(addUser user pass admin errSz).words⟩) := by
  have hcommand : (awaited st rs quit).command ⟨(addUser user pass admin errSz).words⟩ =
      (awaited st rs quit).addUser ⟨(addUser user pass admin errSz).words⟩ := by
    cases admin <;> rfl
  have hadmin : decide ((⟨(addUser user pass admin errSz).words⟩ : MonitorCmd).argc ≥ 4 ∧
      (⟨(addUser user pass admin errSz).words⟩ : MonitorCmd).arg 3 = ascii "admin") = admin := by
    cases admin <;> rfl
  have hargs : (⟨(addUser user pass admin errSz).words⟩ : MonitorCmd).argc ≥ 3 ∧
      (⟨(addUser user pass admin errSz).words⟩ : MonitorCmd).arg 1 = user ∧
      (⟨(addUser user pass admin errSz).words⟩ : MonitorCmd).arg 2 = pass := by
    cases admin <;> exact ⟨by simp [MonitorCmd.argc, words], rfl, rfl⟩
  have hroom : ∀ n ∈ (addUser user pass admin errSz).room, 1 < n := by simp [room]
  rw [hcommand, Reply.addUser, hadmin, if_neg (Nat.not_lt_of_le hargs.1), hargs.2.1, hargs.2.2]
  have hstore : (awaited st rs quit).store = st := rfl
  rw [hstore]
  cases hadd : storeUserAdd st user pass admin with
  | mk st' res =>
    cases res with
    | ok => exact told_done rfl rfl hroom (by rw [onStore, hadd]; rfl)
    | «exists» =>
      exact told_refused "user exists" rfl rfl (by decide) (by decide) hroom
        (by rw [onStore, hadd]; rfl)
    | tableFull =>
      exact told_refused "user table full" rfl rfl (by decide) (by decide) hroom
        (by rw [onStore, hadd]; rfl)
    | notFound =>
      exact told_refused "syntax error" rfl rfl (by decide) (by decide) hroom
        (by rw [onStore, hadd]; rfl)
    | lastAdmin =>
      exact told_refused "syntax error" rfl rfl (by decide) (by decide) hroom
        (by rw [onStore, hadd]; rfl)

theorem told_delUser (user : Bytes) (errSz : ℕ) :
    (delUser user errSz).Told (awaited st rs quit)
      ((awaited st rs quit).command ⟨(delUser user errSz).words⟩) := by
  have hroom : ∀ n ∈ (delUser user errSz).room, 1 < n := by simp [room]
  show (delUser user errSz).Told _ ((awaited st rs quit).delUser ⟨[ascii "DEL_USER", user]⟩)
  rw [Reply.delUser, if_neg (by simp [MonitorCmd.argc])]
  have hstore : storeUserDelete (awaited st rs quit).store
      ((⟨[ascii "DEL_USER", user]⟩ : MonitorCmd).arg 1) = storeUserDelete st user := rfl
  rw [hstore]
  cases hdel : storeUserDelete st user with
  | mk st' res =>
    cases res with
    | ok => exact told_done rfl rfl hroom (by rw [onStore, hdel]; rfl)
    | notFound =>
      exact told_refused "user not found" rfl rfl (by decide) (by decide) hroom
        (by rw [onStore, hdel]; rfl)
    | lastAdmin =>
      exact told_refused "cannot delete last admin" rfl rfl (by decide) (by decide) hroom
        (by rw [onStore, hdel]; rfl)
    | «exists» =>
      exact told_refused "syntax error" rfl rfl (by decide) (by decide) hroom
        (by rw [onStore, hdel]; rfl)
    | tableFull =>
      exact told_refused "syntax error" rfl rfl (by decide) (by decide) hroom
        (by rw [onStore, hdel]; rfl)

theorem told_auth (user pass : Bytes) (errSz : ℕ) :
    (auth user pass errSz).Told (awaited st rs quit)
      ((awaited st rs quit).command ⟨(auth user pass errSz).words⟩) :=
  told_refused "already authenticated" rfl rfl (by decide) (by decide) (by simp [room]) rfl

theorem told_stats (h : stats.Answerable st) :
    stats.Told (awaited st rs quit) ((awaited st rs quit).command ⟨stats.words⟩) := by
  have hline : statsLine st.metrics.totalConnections st.metrics.concurrentConnections
      st.metrics.bytesUp.toNat st.metrics.bytesDown.toNat ++ [10] =
      ascii "+OK total_connections=" ++ decimal st.metrics.totalConnections ++
        ascii " concurrent_connections=" ++ decimal st.metrics.concurrentConnections ++
        ascii " bytes_up=" ++ decimal st.metrics.bytesUp.toNat ++
        ascii " bytes_down=" ++ decimal st.metrics.bytesDown.toNat ++ ascii "\n" := by
    simp [statsLine, ascii]
  obtain ⟨htotal, hnow⟩ := h.counted rfl
  have hup := st.metrics.bytesUp.toNat_lt
  have hdown := st.metrics.bytesDown.toNat_lt
  refine told_line (l := statsLine st.metrics.totalConnections st.metrics.concurrentConnections
      st.metrics.bytesUp.toNat st.metrics.bytesDown.toNat) ?_ ?_ ?_ (by simp [room]) ?_
  · rw [hline]
    rfl
  · refine ⟨length_statsLine_le htotal hnow hup hdown, ?_, ?_, ?_⟩ <;>
      simp [statsLine, ascii, notMem_decimal]
  · intro hdot
    cases hdot
  · rw [make, statsResult_statsLine htotal hnow hup hdown]
    rfl

theorem told_connections (maxLines : ℕ) (h : (connections maxLines).Answerable st) :
    (connections maxLines).Told (awaited st rs quit)
      ((awaited st rs quit).command ⟨(connections maxLines).words⟩) :=
  told_listing h rfl rfl

theorem told_users (maxLines : ℕ) (h : (users maxLines).Answerable st) :
    (users maxLines).Told (awaited st rs quit)
      ((awaited st rs quit).command ⟨(users maxLines).words⟩) :=
  told_listing h rfl rfl

theorem told_denyList (maxLines : ℕ) (h : (denyList maxLines).Answerable st) :
    (denyList maxLines).Told (awaited st rs quit)
      ((awaited st rs quit).command ⟨(denyList maxLines).words⟩) :=
  told_listing h rfl rfl

theorem told_accessLog (filter : Bytes) (maxLines : ℕ)
    (h : (accessLog filter maxLines).Answerable st) :
    (accessLog filter maxLines).Told (awaited st rs quit)
      ((awaited st rs quit).command ⟨(accessLog filter maxLines).words⟩) := by
  have hcommand : (awaited st rs quit).command ⟨(accessLog filter maxLines).words⟩ =
      (awaited st rs quit).tells ((accessLog filter maxLines).listing st) := by
    by_cases hf : filter = []
    · rw [words, if_pos hf, listing, if_pos hf]
      rfl
    · rw [words, if_neg hf, listing, if_neg hf]
      show (awaited st rs quit).accessLog ⟨[ascii "ACCESS_LOG", filter]⟩ = _
      rw [Reply.accessLog, if_pos (by simp [MonitorCmd.argc])]
      have huser : storeUserExists (awaited st rs quit).store
          ((⟨[ascii "ACCESS_LOG", filter]⟩ : MonitorCmd).arg 1) = storeUserExists st filter := rfl
      rw [huser]
      split <;> rfl
  rw [hcommand]
  exact told_listing h rfl rfl

theorem told_configGet (param : Bytes) (errSz : ℕ) (h : (configGet param errSz).Answerable st) :
    (configGet param errSz).Told (awaited st rs quit)
      ((awaited st rs quit).command ⟨(configGet param errSz).words⟩) := by
  have hroom : ∀ n ∈ (configGet param errSz).room, 1 < n := by simp [room]
  show (configGet param errSz).Told _ ((awaited st rs quit).config ⟨[ascii "CONFIG", param]⟩)
  rw [Reply.config, if_neg (by simp [MonitorCmd.argc])]
  have hparam : (⟨[ascii "CONFIG", param]⟩ : MonitorCmd).arg 1 = param := rfl
  rw [hparam]
  cases hkey : storeConfigKeyFromName param with
  | none =>
    refine told_refused "unknown param" rfl rfl (by decide) (by decide) hroom ?_
    rw [onStore, hkey]
    rfl
  | some key =>
    have hvalue := h.value param errSz key rfl
    have hlen := length_decimal_le (k := 10) (by decide)
      (Nat.lt_trans hvalue (by decide : 2 ^ 32 < 10 ^ 10))
    dsimp only
    rw [if_pos (show (⟨[ascii "CONFIG", param]⟩ : MonitorCmd).argc = 2 from rfl)]
    refine told_line (l := ascii "+OK " ++ decimal (storeConfigGet st key)) ?_ ?_ ?_ hroom ?_
    · rfl
    · refine ⟨?_, ?_, ?_, ?_⟩
      · simp only [ascii, List.length_append, List.length_map]
        simp
        omega
      all_goals simp [ascii, notMem_decimal]
    · intro hdot
      cases hdot
    · rw [make, configResult_decimal hvalue]
      refine Prod.ext ?_ (Prod.ext rfl ?_)
      · show ((configGet param errSz).onStore _ st).1 = _
        rw [onStore, hkey]
        rfl
      · show ((configGet param errSz).onStore _ st).2 = _
        rw [onStore, hkey]


omit [Inet] in
/-- The three parameters have a name each. -/
theorem storeConfigKeyFromName_eq_some {param : Bytes} {key : StoreConfigKey}
    (h : storeConfigKeyFromName param = some key) :
    param = ascii "timeout" ∧ key = .timeout ∨
      param = ascii "max_connections" ∧ key = .sessionsCap ∨
      param = ascii "io_buffer_size" ∧ key = .ioBufferSize := by
  rw [storeConfigKeyFromName] at h
  split_ifs at h with h₁ h₂ h₃
  · exact .inl ⟨h₁, (Option.some.inj h).symm⟩
  · exact .inr (.inl ⟨h₂, (Option.some.inj h).symm⟩)
  · exact .inr (.inr ⟨h₃, (Option.some.inj h).symm⟩)

omit [Inet] in
/-- The handler checks the value before the store does, and no differently. -/
theorem config_words (param : Bytes) (value : UInt32) {key : StoreConfigKey}
    (hkey : storeConfigKeyFromName param = some key) :
    (awaited st rs quit).config ⟨[ascii "CONFIG", param, decimal value.toNat]⟩ =
        (awaited st rs quit).setConfig key value.toNat ∨
      (awaited st rs quit).config ⟨[ascii "CONFIG", param, decimal value.toNat]⟩ =
          (awaited st rs quit).tell "-ERR invalid value\n" ∧
        ∀ realloc, storeConfigSet st key value.toNat realloc = (st, .invalidValue) := by
  have hlt : value.toNat < 2 ^ 32 := value.toNat_lt
  have hstrtol : strtol ((⟨[ascii "CONFIG", param, decimal value.toNat]⟩ : MonitorCmd).arg 2) =
      ((value.toNat : ℤ), []) := strtol_decimal (Nat.lt_trans hlt (by decide))
  have hmod : (value.toNat : ℤ).toNat % 2 ^ 32 = value.toNat := Nat.mod_eq_of_lt hlt
  have hparam : (⟨[ascii "CONFIG", param, decimal value.toNat]⟩ : MonitorCmd).arg 1 = param := rfl
  have hread : ¬ (
      ([] : Bytes) = (⟨[ascii "CONFIG", param, decimal value.toNat]⟩ : MonitorCmd).arg 2 ∨
      ([] : Bytes) ≠ [] ∨ (value.toNat : ℤ) < 0) := by
    rintro (h | h | h)
    · exact decimal_ne_nil _ h.symm
    · exact h rfl
    · omega
  rw [Reply.config, if_neg (by simp [MonitorCmd.argc]), hparam, hkey]
  dsimp only
  rw [if_neg (show ¬ (⟨[ascii "CONFIG", param, decimal value.toNat]⟩ : MonitorCmd).argc = 2 from
    by simp [MonitorCmd.argc]), hstrtol]
  dsimp only
  rw [if_neg hread, hmod]
  rcases storeConfigKeyFromName_eq_some hkey with ⟨rfl, rfl⟩ | ⟨rfl, rfl⟩ | ⟨rfl, rfl⟩
  · have hmax : ascii "timeout" ≠ ascii "max_connections" := by decide
    have hio : ascii "timeout" ≠ ascii "io_buffer_size" := by decide
    by_cases hout : (value.toNat : ℤ) > 86400
    · refine .inr ⟨if_pos ⟨rfl, hout⟩, fun _ => ?_⟩
      rw [storeConfigSet, if_pos (by omega)]
    · rw [if_neg (fun h => hout h.2), if_neg (fun h => hmax h.1), if_neg (fun h => hio h.1)]
      exact .inl rfl
  · have htime : ascii "max_connections" ≠ ascii "timeout" := by decide
    have hio : ascii "max_connections" ≠ ascii "io_buffer_size" := by decide
    rw [if_neg (fun h => htime h.1)]
    by_cases hout : (value.toNat : ℤ) < storeSessionsCapMin ∨
        (value.toNat : ℤ) > storeSessionsCapMax
    · have hbad : value.toNat < storeSessionsCapMin ∨ value.toNat > storeSessionsCapMax := by omega
      refine .inr ⟨if_pos ⟨rfl, hout⟩, fun _ => ?_⟩
      rw [storeConfigSet, if_pos hbad]
    · rw [if_neg (fun h => hout h.2), if_neg (fun h => hio h.1)]
      exact .inl rfl
  · have htime : ascii "io_buffer_size" ≠ ascii "timeout" := by decide
    have hmax : ascii "io_buffer_size" ≠ ascii "max_connections" := by decide
    rw [if_neg (fun h => htime h.1), if_neg (fun h => hmax h.1)]
    by_cases hout : (value.toNat : ℤ) < 1024 ∨ (value.toNat : ℤ) > 65536
    · refine .inr ⟨if_pos ⟨rfl, hout⟩, fun _ => ?_⟩
      rw [storeConfigSet, if_pos (by omega)]
    · rw [if_neg (fun h => hout h.2)]
      exact .inl rfl

theorem told_config (param : Bytes) (value : UInt32) (errSz : ℕ) :
    (config param value errSz).Told (awaited st rs quit)
      ((awaited st rs quit).command ⟨(config param value errSz).words⟩) := by
  have hroom : ∀ n ∈ (config param value errSz).room, 1 < n := by simp [room]
  show (config param value errSz).Told _
    ((awaited st rs quit).config ⟨[ascii "CONFIG", param, decimal value.toNat]⟩)
  cases hkey : storeConfigKeyFromName param with
  | none =>
    have hparam : (⟨[ascii "CONFIG", param, decimal value.toNat]⟩ : MonitorCmd).arg 1 = param := rfl
    rw [Reply.config, if_neg (by simp [MonitorCmd.argc]), hparam, hkey]
    refine told_refused "unknown param" rfl rfl (by decide) (by decide) hroom ?_
    rw [onStore, hkey]
    rfl
  | some key =>
    rcases config_words param value hkey with hconfig | ⟨hconfig, hset⟩
    case inr =>
      rw [hconfig]
      refine told_refused "invalid value" rfl rfl (by decide) (by decide) hroom ?_
      rw [onStore, hkey]
      dsimp only
      rw [hset]
      rfl
    have hstore : storeConfigSet (awaited st rs quit).store key value.toNat
        ((awaited st rs quit).realloc.headD true) =
        storeConfigSet st key value.toNat (rs.headD true) := rfl
    rw [hconfig, Reply.setConfig, hstore]
    cases hset : storeConfigSet st key value.toNat (rs.headD true) with
    | mk st' res =>
      cases res with
      | ok =>
        refine told_done rfl rfl hroom ?_
        rw [onStore, hkey]
        dsimp only
        rw [hset]
        rfl
      | unknownKey =>
        refine told_refused "unknown param" rfl rfl (by decide) (by decide) hroom ?_
        rw [onStore, hkey]
        dsimp only
        rw [hset]
        rfl
      | invalidValue =>
        refine told_refused "invalid value" rfl rfl (by decide) (by decide) hroom ?_
        rw [onStore, hkey]
        dsimp only
        rw [hset]
        rfl

theorem told_setPassword (user pass : Bytes) (errSz : ℕ) :
    (setPassword user pass errSz).Told (awaited st rs quit)
      ((awaited st rs quit).command ⟨(setPassword user pass errSz).words⟩) := by
  have hroom : ∀ n ∈ (setPassword user pass errSz).room, 1 < n := by simp [room]
  show (setPassword user pass errSz).Told _
    ((awaited st rs quit).setPassword ⟨[ascii "SET_PASSWORD", user, pass]⟩)
  rw [Reply.setPassword, if_neg (by simp [MonitorCmd.argc])]
  have hstore : storeUserSetPassword (awaited st rs quit).store
      ((⟨[ascii "SET_PASSWORD", user, pass]⟩ : MonitorCmd).arg 1)
      ((⟨[ascii "SET_PASSWORD", user, pass]⟩ : MonitorCmd).arg 2) =
      storeUserSetPassword st user pass := rfl
  rw [hstore]
  cases hset : storeUserSetPassword st user pass with
  | mk st' res =>
    cases res with
    | ok => exact told_done rfl rfl hroom (by rw [onStore, hset]; rfl)
    | _ =>
      exact told_refused "user not found" rfl rfl (by decide) (by decide) hroom
        (by rw [onStore, hset]; rfl)

theorem told_deny {isDenied : MonitorStore → Bytes → Bool}
    {deny : MonitorStore → Bytes → MonitorStore × Bool} {rule word : Bytes} {full : String}
    (already : String) (hroom : ∀ n ∈ call.room, 1 < n)
    (hfull : ascii full = ascii "-ERR " ++ ascii already ++ [10])
    (hplain : Plain (ascii "-ERR " ++ ascii already))
    (hdenied : isDenied st rule = true →
      call.onStore (rs.headD true) st = (st, call.refused already))
    (hok : ¬ isDenied st rule = true → (deny st rule).2 = true →
      call.onStore (rs.headD true) st = ((deny st rule).1, call.make (some [ascii "+OK"])))
    (hfail : ¬ isDenied st rule = true → ¬ (deny st rule).2 = true →
      call.onStore (rs.headD true) st = ((deny st rule).1, call.refused "failed to add rule")) :
    call.Told (awaited st rs quit)
      ((awaited st rs quit).deny ⟨[word, rule]⟩ isDenied deny full) := by
  have hrule : (⟨[word, rule]⟩ : MonitorCmd).arg 1 = rule := rfl
  have hstore : (awaited st rs quit).store = st := rfl
  rw [Reply.deny, if_neg (by simp [MonitorCmd.argc]), hrule, hstore]
  by_cases hden : isDenied st rule = true
  · rw [if_pos hden]
    exact told_refused already rfl rfl hfull hplain hroom (hdenied hden)
  · rw [if_neg hden]
    dsimp only
    by_cases hadd : (deny st rule).2 = true
    · rw [if_pos hadd]
      exact told_done rfl rfl hroom (hok hden hadd)
    · rw [if_neg hadd]
      exact told_refused "failed to add rule" rfl rfl (by decide) (by decide) hroom
        (hfail hden hadd)

theorem told_denyHost (hostname : Bytes) (errSz : ℕ) :
    (denyHost hostname errSz).Told (awaited st rs quit)
      ((awaited st rs quit).command ⟨(denyHost hostname errSz).words⟩) := by
  show (denyHost hostname errSz).Told _ ((awaited st rs quit).deny
    ⟨[ascii "DENY_HOST", hostname]⟩ isHostDenied storeDenyHost "-ERR host already denied\n")
  refine told_deny "host already denied" (by simp [room]) (by decide) (by decide) ?_ ?_ ?_
  · intro hden
    rw [onStore, if_pos hden]
  · intro hden hadd
    rw [onStore, if_neg hden]
    cases h : storeDenyHost st hostname with
    | mk st' ok =>
      rw [h] at hadd
      cases hadd
      rfl
  · intro hden hadd
    rw [onStore, if_neg hden]
    cases h : storeDenyHost st hostname with
    | mk st' ok =>
      rw [h, Bool.not_eq_true] at hadd
      cases hadd
      rfl

theorem told_denyIp (ip : Bytes) (errSz : ℕ) :
    (denyIp ip errSz).Told (awaited st rs quit)
      ((awaited st rs quit).command ⟨(denyIp ip errSz).words⟩) := by
  show (denyIp ip errSz).Told _ ((awaited st rs quit).deny
    ⟨[ascii "DENY_IP", ip]⟩ isIpDenied storeDenyIp "-ERR address already denied\n")
  refine told_deny "address already denied" (by simp [room]) (by decide) (by decide) ?_ ?_ ?_
  · intro hden
    rw [onStore, if_pos hden]
  · intro hden hadd
    rw [onStore, if_neg hden]
    cases h : storeDenyIp st ip with
    | mk st' ok =>
      rw [h] at hadd
      cases hadd
      rfl
  · intro hden hadd
    rw [onStore, if_neg hden]
    cases h : storeDenyIp st ip with
    | mk st' ok =>
      rw [h, Bool.not_eq_true] at hadd
      cases hadd
      rfl

theorem told_undeny (target : Bytes) (errSz : ℕ) :
    (undeny target errSz).Told (awaited st rs quit)
      ((awaited st rs quit).command ⟨(undeny target errSz).words⟩) := by
  have hroom : ∀ n ∈ (undeny target errSz).room, 1 < n := by simp [room]
  show (undeny target errSz).Told _ ((awaited st rs quit).undeny ⟨[ascii "UNDENY", target]⟩)
  have htarget : (⟨[ascii "UNDENY", target]⟩ : MonitorCmd).arg 1 = target := rfl
  have hstore : (awaited st rs quit).store = st := rfl
  rw [Reply.undeny, if_neg (by simp [MonitorCmd.argc]), htarget, hstore]
  cases hhost : storeUndenyHost st target with
  | mk st₁ found =>
    cases found with
    | true => exact told_done rfl rfl hroom (by rw [onStore, hhost]; rfl)
    | false =>
      dsimp only
      rw [if_neg Bool.false_ne_true]
      cases hip : storeUndenyIp st₁ target with
      | mk st₂ found =>
        cases found with
        | true =>
          refine told_done rfl rfl hroom ?_
          rw [onStore, hhost]
          dsimp only
          rw [hip]
          rfl
        | false =>
          refine told_refused "rule not present" rfl rfl (by decide) (by decide) hroom ?_
          rw [onStore, hhost]
          dsimp only
          rw [hip]
          rfl

theorem told_quit : ClientCall.quit.Told (awaited st rs quit)
    ((awaited st rs quit).command ⟨ClientCall.quit.words⟩) :=
  told_done rfl rfl (by simp [room]) rfl

/-- **What an administrator who has logged in is told.** -/
theorem told_loggedIn (hsend : call.Sendable) (h : call.Answerable st) :
    call.Told (awaited st rs quit) ((awaited st rs quit).command ⟨call.words⟩) := by
  cases call with
  | simple cmd errSz => exact absurd rfl hsend.ne_nil
  | list cmd maxLines => exact absurd rfl hsend.ne_nil
  | auth user pass errSz => exact told_auth user pass errSz
  | stats => exact told_stats h
  | connections maxLines => exact told_connections maxLines h
  | users maxLines => exact told_users maxLines h
  | accessLog filter maxLines => exact told_accessLog filter maxLines h
  | configGet param errSz => exact told_configGet param errSz h
  | config param value errSz => exact told_config param value errSz
  | addUser user pass admin errSz => exact told_addUser user pass admin errSz
  | delUser user errSz => exact told_delUser user errSz
  | setPassword user pass errSz => exact told_setPassword user pass errSz
  | denyHost hostname errSz => exact told_denyHost hostname errSz
  | denyIp ip errSz => exact told_denyIp ip errSz
  | undeny target errSz => exact told_undeny target errSz
  | denyList maxLines => exact told_denyList maxLines h
  | quit => exact told_quit


end LoggedIn

section AwaitAuth

variable {rs : List Bool} {quit : Bool}

/-- **What somebody is told who has not logged in.** -/
theorem told_awaitAuth (hsend : call.Sendable) (h : call.Answerable st) :
    call.Told ⟨[], st, rs, .awaitAuth, quit⟩
      (Reply.command ⟨[], st, rs, .awaitAuth, quit⟩ ⟨call.words⟩) := by
  have hroom : ∀ n ∈ call.room, 1 < n := fun n hn => (h.room n hn).1
  have hrefused : ∀ {r'},
      r' = (⟨[], st, rs, .awaitAuth, quit⟩ : Reply).tell "-ERR not authenticated\n" →
      call.direct (rs.headD true) st .awaitAuth =
        (st, .awaitAuth, call.refused "not authenticated") →
      call.Told ⟨[], st, rs, .awaitAuth, quit⟩ r' := by
    rintro r' rfl hdirect
    exact told_refusal "not authenticated" rfl (by decide) (by decide) hroom hdirect
  cases call with
  | simple cmd errSz => exact absurd rfl hsend.ne_nil
  | list cmd maxLines => exact absurd rfl hsend.ne_nil
  | auth user pass errSz =>
    show (auth user pass errSz).Told _
      (Reply.auth ⟨[], st, rs, .awaitAuth, quit⟩ ⟨[ascii "AUTH", user, pass]⟩)
    rw [Reply.auth, if_neg (by simp [MonitorCmd.argc])]
    have hstore : storeAdminAuthenticate
        (⟨[], st, rs, .awaitAuth, quit⟩ : Reply).store
        ((⟨[ascii "AUTH", user, pass]⟩ : MonitorCmd).arg 1)
        ((⟨[ascii "AUTH", user, pass]⟩ : MonitorCmd).arg 2) =
        storeAdminAuthenticate st user pass := rfl
    rw [hstore]
    cases hauth : storeAdminAuthenticate st user pass with
    | ok =>
      refine told_ok rfl hroom ?_
      rw [direct, hauth]
      rfl
    | notAdmin =>
      refine told_refusal "not admin" rfl (by decide) (by decide) hroom ?_
      rw [direct, hauth]
      rfl
    | invalid =>
      refine told_refusal "invalid credentials" rfl (by decide) (by decide) hroom ?_
      rw [direct, hauth]
      rfl
  | accessLog filter maxLines =>
    refine hrefused ?_ rfl
    by_cases hf : filter = []
    · rw [words, if_pos hf]
      rfl
    · rw [words, if_neg hf]
      rfl
  | addUser user pass admin errSz =>
    refine hrefused ?_ rfl
    cases admin <;> rfl
  | _ => exact hrefused rfl rfl

end AwaitAuth

/-- **What a call is told is what it is for.** -/
theorem told_command (hsend : call.Sendable) (hlines : r.lines = []) (h : call.Answerable r.store) :
    call.Told r (r.command ⟨call.words⟩) := by
  obtain ⟨lines, st, rs, state, quit⟩ := r
  obtain rfl : lines = [] := hlines
  cases state with
  | awaitAuth => exact told_awaitAuth hsend h
  | authenticated => exact told_loggedIn hsend h


end ClientCall

/-! ## Who has quit -/

namespace Reply

variable {r : Reply} {cmd : MonitorCmd}

omit [Inet] in
theorem quit_ite {c : Prop} [Decidable c] {r₁ r₂ : Reply} {quit : Bool} (h₁ : r₁.quit = quit)
    (h₂ : r₂.quit = quit) : (if c then r₁ else r₂).quit = quit := by
  split
  · exact h₁
  · exact h₂

/-- Only `QUIT` ends a session. -/
theorem quit_route (h : cmd.cmd ≠ ascii "QUIT") : (r.route cmd).quit = r.quit := by
  have hconfig : (r.config cmd).quit = r.quit := by
    rw [config]
    split
    · rfl
    split
    · rfl
    · split
      · rfl
      · dsimp only
        split_ifs <;> first | rfl | (split <;> rfl)
  have haccess : (r.accessLog cmd).quit = r.quit := by
    rw [accessLog]
    split_ifs <;> rfl
  have hadd : (r.addUser cmd).quit = r.quit := by
    rw [addUser]
    dsimp only
    split
    · rfl
    · split <;> rfl
  have hdel : (r.delUser cmd).quit = r.quit := by
    rw [delUser]
    split
    · rfl
    · dsimp only
      split <;> rfl
  have hset : (r.setPassword cmd).quit = r.quit := by
    rw [setPassword]
    split
    · rfl
    · dsimp only
      split <;> rfl
  have hdeny : ∀ isDenied deny already, (r.deny cmd isDenied deny already).quit = r.quit := by
    intro isDenied deny already
    rw [Reply.deny]
    dsimp only
    split_ifs <;> rfl
  have hundeny : (r.undeny cmd).quit = r.quit := by
    rw [undeny]
    dsimp only
    split_ifs <;> rfl
  rw [route, if_neg h]
  refine quit_ite rfl (quit_ite rfl (quit_ite rfl (quit_ite hconfig (quit_ite haccess
    (quit_ite hadd (quit_ite hdel (quit_ite hset (quit_ite (hdeny ..) (quit_ite (hdeny ..)
      (quit_ite hundeny (quit_ite rfl ?_)))))))))))
  rfl

theorem quit_command (h : cmd.cmd ≠ ascii "QUIT") : (r.command cmd).quit = r.quit := by
  rw [command]
  cases r.state with
  | awaitAuth =>
    dsimp only
    split
    · rw [auth]
      split
      · rfl
      · split <;> rfl
    · rfl
  | authenticated =>
    dsimp only
    split
    · rfl
    · exact quit_route h

end Reply

namespace ClientCall

omit [Inet] in
theorem cmd_words {call : ClientCall} (hsend : call.Sendable) (hne : call ≠ .quit) :
    (⟨call.words⟩ : MonitorCmd).cmd ≠ ascii "QUIT" := by
  cases call with
  | simple cmd errSz => exact absurd rfl hsend.ne_nil
  | list cmd maxLines => exact absurd rfl hsend.ne_nil
  | quit => exact absurd rfl hne
  | accessLog filter maxLines =>
    rw [words]
    split <;> exact fun h => by cases h
  | addUser user pass admin errSz =>
    cases admin <;> exact fun h => by cases h
  | _ => exact fun h => by cases h

end ClientCall

end Answers

end SocksProxy
