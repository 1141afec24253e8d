import SocksProxy.Monitor.Lines
import SocksProxy.Monitor.Operations

/-!
# What a line asks for

The handlers read few of the words they are given, and not every difference between two words
matters to them: a password is cut at 255 bytes, a name that is longer than any user's is nobody's,
a parameter is known or it is not.  An `Order` is what is left of a line when everything that no
handler could tell apart is made the same; `orderOf` finds it, and `line_eq` says that a line does
what its order says.

Names are compared with the users of the store, whose names and passwords are arrays of a fixed size
(`MonitorStore.Sized`).
-/

set_option autoImplicit false

namespace SocksProxy

/-- What `CONFIG` asks for. -/
inductive ConfigOrder where
  | tooFew
  | unknownParam
  | get (key : StoreConfigKey)
  | invalidValue
  | set (key : StoreConfigKey) (value : ℕ)
  deriving DecidableEq

/-- What a user can be called. -/
abbrev Username : Type := {name : Bytes // name.length ≤ storeMaxUsername}

/-- What a user can have for a password. -/
abbrev Password : Type := {password : Bytes // password.length ≤ storeMaxPassword}

/-- What a line asks for.  An argument that is `none` is missing; a user that is `none` is
nobody. -/
inductive Order where
  | nothing
  | auth (credentials : Option (Option (Username × Password)))
  | stats
  | connections
  | users
  | config (order : ConfigOrder)
  | accessLog (user : Option (Option Username))
  | addUser (user : Option (Bytes × Password × Bool))
  | delUser (user : Option (Option Username))
  | setPassword (user : Option (Option (Username × Password)))
  | denyHost (hostname : Option Bytes)
  | denyIp (ip : Option (Option IpAddr))
  | undeny (rule : Option Bytes)
  | denyList (hosts ips : Bool)
  | quit
  | unknown
  deriving DecidableEq

/-- An order that is neither empty nor `AUTH`. -/
def Order.routed : Order → Bool
  | .nothing => false
  | .auth _ => false
  | _ => true

theorem Order.routed_ite {p : Prop} [Decidable p] {a b : Order} (ha : a.routed = true)
    (hb : b.routed = true) : (if p then a else b).routed = true := by
  split
  · exact ha
  · exact hb

/-- The user a name can be that of. -/
def userNamed (name : Bytes) : Option Username :=
  if h : name.length ≤ storeMaxUsername then some ⟨name, h⟩ else none

/-- The credentials that two words can be. -/
def credentialsOf (name password : Bytes) : Option (Username × Password) :=
  if h : name.length ≤ storeMaxUsername ∧ password.length ≤ storeMaxPassword then
    some (⟨name, h.1⟩, ⟨password, h.2⟩)
  else none

/-- What is kept of a password. -/
def cutPassword (password : Bytes) : Password :=
  ⟨password.take storeMaxPassword, List.length_take_le _ _⟩

/-- The names and passwords of the users are those of arrays of their declared size. -/
def MonitorStore.Sized (st : MonitorStore) : Prop :=
  ∀ u ∈ st.users, u.username.length ≤ storeMaxUsername ∧ u.password.length ≤ storeMaxPassword

namespace MonitorCmd

variable (cmd : MonitorCmd)

/-- The order of `CONFIG`. -/
def configOrder : ConfigOrder :=
  if cmd.argc < 2 then .tooFew
  else match storeConfigKeyFromName (cmd.arg 1) with
    | none => .unknownParam
    | some key =>
      if cmd.argc = 2 then .get key
      else
        let (value, rest) := strtol (cmd.arg 2)
        if rest = cmd.arg 2 ∨ rest ≠ [] ∨ value < 0 then .invalidValue
        else if cmd.arg 1 = ascii "timeout" ∧ value > 86400 then .invalidValue
        else if cmd.arg 1 = ascii "max_connections" ∧
            (value < storeSessionsCapMin ∨ value > storeSessionsCapMax) then .invalidValue
        else if cmd.arg 1 = ascii "io_buffer_size" ∧ (value < 1024 ∨ value > 65536) then
          .invalidValue
        else .set key (value.toNat % 2 ^ 32)

/-- The order of an authenticated session, `AUTH` apart. -/
def routeOrder [Inet] : Order :=
  if cmd.cmd = ascii "STATS" then .stats
  else if cmd.cmd = ascii "CONNECTIONS" then .connections
  else if cmd.cmd = ascii "USERS" then .users
  else if cmd.cmd = ascii "CONFIG" then .config cmd.configOrder
  else if cmd.cmd = ascii "ACCESS_LOG" then
    .accessLog (if cmd.argc < 2 then none else some (userNamed (cmd.arg 1)))
  else if cmd.cmd = ascii "ADD_USER" then
    .addUser (if cmd.argc < 3 then none
      else some (cmd.arg 1, cutPassword (cmd.arg 2),
        decide (cmd.argc ≥ 4 ∧ cmd.arg 3 = ascii "admin")))
  else if cmd.cmd = ascii "DEL_USER" then
    .delUser (if cmd.argc < 2 then none else some (userNamed (cmd.arg 1)))
  else if cmd.cmd = ascii "SET_PASSWORD" then
    .setPassword (if cmd.argc < 3 then none
      else some ((userNamed (cmd.arg 1)).map (·, cutPassword (cmd.arg 2))))
  else if cmd.cmd = ascii "DENY_HOST" then
    .denyHost (if cmd.argc < 2 then none else some (cmd.arg 1))
  else if cmd.cmd = ascii "DENY_IP" then
    .denyIp (if cmd.argc < 2 then none else some (ipOf (cmd.arg 1)))
  else if cmd.cmd = ascii "UNDENY" then .undeny (if cmd.argc < 2 then none else some (cmd.arg 1))
  else if cmd.cmd = ascii "DENY_LIST" then
    .denyList (decide (cmd.argc < 2 ∨ cmd.arg 1 = ascii "host"))
      (decide (cmd.argc < 2 ∨ cmd.arg 1 = ascii "ip"))
  else if cmd.cmd = ascii "QUIT" then .quit
  else .unknown

/-- The order of some words. -/
def order [Inet] : Order :=
  if cmd.cmd = [] then .nothing
  else if cmd.cmd = ascii "AUTH" then
    .auth (if cmd.argc < 3 then none else some (credentialsOf (cmd.arg 1) (cmd.arg 2)))
  else cmd.routeOrder

theorem routeOrder_routed [Inet] : cmd.routeOrder.routed = true := by
  rw [routeOrder]
  iterate 13 refine Order.routed_ite rfl ?_
  rfl

end MonitorCmd

/-- The order of a line. -/
def orderOf [Inet] (line : Bytes) : Order := (splitLine line).order

/-! ## Carrying out an order -/

namespace Reply

variable [Inet] (r : Reply)

omit [Inet] in
/-- Setting a parameter. -/
def setConfig (key : StoreConfigKey) (value : ℕ) : Reply :=
  let set := storeConfigSet r.store key value (r.realloc.headD true)
  let r := { r with store := set.1, realloc := r.realloc.tail }
  match set.2 with
  | .ok => r.tell "+OK\n"
  | .unknownKey => r.tell "-ERR unknown param\n"
  | .invalidValue => r.tell "-ERR invalid value\n"

omit [Inet] in
/-- Adding a rule for an address. -/
def denyAddr (a : IpAddr) : Reply :=
  if a.rule ∈ r.store.deniedAddresses.rules then r.tell "-ERR address already denied\n"
  else { r with store := { r.store with
      deniedAddresses := r.store.deniedAddresses.addRule r.store.nextRule a.rule
      nextRule := r.store.nextRule + 1 } }.tell "+OK\n"

/-- The order of an authenticated session, `AUTH` apart. -/
def perform : Order → Reply
  | .nothing => r
  | .auth _ => r.tell "-ERR already authenticated\n"
  | .stats => r.stats
  | .connections => r.connections
  | .users => r.users
  | .config .tooFew => r.tell "-ERR syntax error\n"
  | .config .unknownParam => r.tell "-ERR unknown param\n"
  | .config (.get key) =>
    r.tells [ascii "+OK " ++ decimal (storeConfigGet r.store key) ++ ascii "\n"]
  | .config .invalidValue => r.tell "-ERR invalid value\n"
  | .config (.set key value) => r.setConfig key value
  | .accessLog none => r.accessLog ⟨[ascii "ACCESS_LOG"]⟩
  | .accessLog (some none) => r.tell "-ERR user not found\n"
  | .accessLog (some (some user)) => r.accessLog ⟨[ascii "ACCESS_LOG", user.1]⟩
  | .addUser none => r.tell "-ERR syntax error\n"
  | .addUser (some (user, password, isAdmin)) =>
    r.addUser ⟨[ascii "ADD_USER", user, password.1, if isAdmin then ascii "admin" else []]⟩
  | .delUser none => r.tell "-ERR syntax error\n"
  | .delUser (some none) => r.tell "-ERR user not found\n"
  | .delUser (some (some user)) => r.delUser ⟨[ascii "DEL_USER", user.1]⟩
  | .setPassword none => r.tell "-ERR syntax error\n"
  | .setPassword (some none) => r.tell "-ERR user not found\n"
  | .setPassword (some (some (user, password))) =>
    r.setPassword ⟨[ascii "SET_PASSWORD", user.1, password.1]⟩
  | .denyHost none => r.tell "-ERR syntax error\n"
  | .denyHost (some hostname) =>
    r.deny ⟨[ascii "DENY_HOST", hostname]⟩ isHostDenied storeDenyHost "-ERR host already denied\n"
  | .denyIp none => r.tell "-ERR syntax error\n"
  | .denyIp (some none) => r.tell "-ERR failed to add rule\n"
  | .denyIp (some (some a)) => r.denyAddr a
  | .undeny none => r.tell "-ERR syntax error\n"
  | .undeny (some rule) => r.undeny ⟨[ascii "UNDENY", rule]⟩
  | .denyList hosts ips =>
    r.tells ((if hosts then
        ascii "+OK Denied hosts:\n" :: r.store.deniedHosts.rules.map ruleText else []) ++
      (if ips then
        ascii "+OK Denied IPs:\n" :: r.store.deniedAddresses.rules.map ruleText else []))
  | .quit => r.quits
  | .unknown => r.tell "-ERR unknown command\n"

/-- The order of a session that has not authenticated. -/
def awaiting : Order → Reply
  | .auth none => r.tell "-ERR syntax error\n"
  | .auth (some none) => r.tell "-ERR invalid credentials\n"
  | .auth (some (some (user, password))) => r.auth ⟨[ascii "AUTH", user.1, password.1]⟩
  | _ => r.tell "-ERR not authenticated\n"

/-- What an order is to do. -/
def order (o : Order) : Reply :=
  if o = .nothing then r
  else (match r.state with
    | .awaitAuth => r.awaiting o
    | .authenticated => r.perform o).tell ".\n"

end Reply

/-! ## A line does what its order says -/

section Sized

variable {st : MonitorStore} (h : st.Sized)

include h

/-- Nobody has a name that long. -/
theorem storeFindUser_of_long {name : Bytes} (hname : ¬ name.length ≤ storeMaxUsername) :
    storeFindUser st name = none := by
  rw [storeFindUser, List.findIdx?_eq_none_iff]
  intro u hu
  have hne : u.username ≠ name := fun heq => hname (heq ▸ (h u hu).1)
  rw [beq_eq_false_iff_ne.2 hne, Bool.and_false]

theorem storeUserExists_of_long {name : Bytes} (hname : ¬ name.length ≤ storeMaxUsername) :
    storeUserExists st name = false := by
  rw [storeUserExists, List.any_eq_false]
  intro u hu
  have hne : u.username ≠ name := fun heq => hname (heq ▸ (h u hu).1)
  rw [beq_eq_false_iff_ne.2 hne, Bool.and_false]
  exact Bool.false_ne_true

/-- Nobody has such credentials. -/
theorem storeAdminAuthenticate_of_long {name password : Bytes}
    (hlong : ¬ (name.length ≤ storeMaxUsername ∧ password.length ≤ storeMaxPassword)) :
    storeAdminAuthenticate st name password = .invalid := by
  rw [storeAdminAuthenticate]
  split
  · rfl
  · next u hfind =>
    have hu := h u (List.mem_of_find?_eq_some hfind)
    have hname : u.username = name := by
      have hprop := List.find?_some hfind
      rw [Bool.and_eq_true, beq_iff_eq] at hprop
      exact hprop.2
    exact if_pos fun hpass : u.password = password => hlong ⟨hname ▸ hu.1, hpass ▸ hu.2⟩

end Sized

/-- The rest of a password is never looked at. -/
theorem strncpyTerm_take (src : Bytes) (n : ℕ) :
    strncpyTerm (src.take n) n = strncpyTerm src n := by
  rw [strncpyTerm, strncpyTerm, List.take_take, Nat.min_self]

namespace Reply

variable [Inet] {r : Reply} {cmd : MonitorCmd}

theorem config_eq : r.config cmd = r.perform (.config cmd.configOrder) := by
  rw [config, MonitorCmd.configOrder]
  by_cases h2 : cmd.argc < 2
  · rw [if_pos h2, if_pos h2]
    rfl
  rw [if_neg h2, if_neg h2]
  cases storeConfigKeyFromName (cmd.arg 1) with
  | none => rfl
  | some key =>
    dsimp only
    by_cases h3 : cmd.argc = 2
    · rw [if_pos h3, if_pos h3]
      rfl
    rw [if_neg h3, if_neg h3]
    split_ifs <;> rfl

omit [Inet] in
theorem auth_eq (h : r.store.Sized) : r.auth cmd = r.awaiting (.auth (if cmd.argc < 3 then none
    else some (credentialsOf (cmd.arg 1) (cmd.arg 2)))) := by
  rw [auth]
  by_cases h3 : cmd.argc < 3
  · rw [if_pos h3, if_pos h3]
    rfl
  rw [if_neg h3, if_neg h3, credentialsOf]
  by_cases hlong : (cmd.arg 1).length ≤ storeMaxUsername ∧ (cmd.arg 2).length ≤ storeMaxPassword
  · rw [dif_pos hlong]
    rfl
  · rw [storeAdminAuthenticate_of_long h hlong, dif_neg hlong]
    rfl

theorem accessLog_eq (h : r.store.Sized) : r.accessLog cmd =
    r.perform (.accessLog (if cmd.argc < 2 then none else some (userNamed (cmd.arg 1)))) := by
  rw [accessLog]
  by_cases h2 : cmd.argc < 2
  · rw [if_neg (Nat.not_le.2 h2), if_pos h2]
    rfl
  rw [if_pos (Nat.not_lt.1 h2), if_neg h2, userNamed]
  by_cases hname : (cmd.arg 1).length ≤ storeMaxUsername
  · rw [dif_pos hname]
    rfl
  · rw [storeUserExists_of_long h hname, dif_neg hname]
    rfl

theorem addUser_eq : r.addUser cmd = r.perform (.addUser (if cmd.argc < 3 then none
    else some (cmd.arg 1, cutPassword (cmd.arg 2),
      decide (cmd.argc ≥ 4 ∧ cmd.arg 3 = ascii "admin")))) := by
  rw [addUser]
  dsimp only
  split
  · rfl
  · have hadd : ∀ isAdmin, storeUserAdd r.store (cmd.arg 1) (cmd.arg 2) isAdmin =
        storeUserAdd r.store (cmd.arg 1) ((cmd.arg 2).take storeMaxPassword) isAdmin := by
      intro isAdmin
      rw [storeUserAdd, storeUserAdd, strncpyTerm_take]
    rw [hadd]
    by_cases hadmin : cmd.argc ≥ 4 ∧ cmd.arg 3 = ascii "admin"
    · rw [decide_eq_true hadmin]
      rfl
    · rw [decide_eq_false hadmin]
      rfl

theorem delUser_eq (h : r.store.Sized) : r.delUser cmd =
    r.perform (.delUser (if cmd.argc < 2 then none else some (userNamed (cmd.arg 1)))) := by
  rw [delUser]
  split
  · rfl
  rw [userNamed]
  split
  · rfl
  · next hname =>
    rw [storeUserDelete, storeFindUser_of_long h hname]
    rfl

theorem setPassword_eq (h : r.store.Sized) : r.setPassword cmd =
    r.perform (.setPassword (if cmd.argc < 3 then none
      else some ((userNamed (cmd.arg 1)).map (·, cutPassword (cmd.arg 2))))) := by
  rw [setPassword]
  split
  · rfl
  rw [userNamed]
  split
  · have hset : storeUserSetPassword r.store (cmd.arg 1) (cmd.arg 2) =
        storeUserSetPassword r.store (cmd.arg 1) ((cmd.arg 2).take storeMaxPassword) := by
      rw [storeUserSetPassword, storeUserSetPassword, strncpyTerm_take]
    rw [hset]
    rfl
  · next hname =>
    rw [storeUserSetPassword, storeFindUser_of_long h hname]
    rfl

theorem denyIp_eq : r.deny cmd isIpDenied storeDenyIp "-ERR address already denied\n" =
    r.perform (.denyIp (if cmd.argc < 2 then none else some (ipOf (cmd.arg 1)))) := by
  rw [deny]
  split
  · rfl
  rw [storeDenyIp]
  have hden : isIpDenied r.store (cmd.arg 1) = true ↔
      ∃ a, ipOf (cmd.arg 1) = some a ∧ a.rule ∈ r.store.deniedAddresses.rules := by
    rw [isIpDenied, List.any_eq_true]
    constructor
    · rintro ⟨rule, hrule, hmatch⟩
      obtain ⟨a, ha, rfl⟩ := ipRuleMatch_iff.1 hmatch
      exact ⟨a, ha, hrule⟩
    · rintro ⟨a, ha, hrule⟩
      exact ⟨a.rule, hrule, ipRuleMatch_rule.2 ha⟩
  cases hip : ipOf (cmd.arg 1) with
  | none =>
    have hnot : ¬ isIpDenied r.store (cmd.arg 1) = true := by
      rw [hden, hip]
      rintro ⟨a, ha, -⟩
      cases ha
    rw [if_neg hnot, if_neg hnot]
    obtain ⟨h4, h6⟩ := ipOf_eq_none.1 hip
    rw [h4, h6]
    rfl
  | some a =>
    by_cases hrule : a.rule ∈ r.store.deniedAddresses.rules
    · rw [if_pos (hden.2 ⟨a, hip, hrule⟩)]
      exact (if_pos hrule).symm
    · have hnot : ¬ isIpDenied r.store (cmd.arg 1) = true := by
        rw [hden, hip]
        rintro ⟨b, hb, hmem⟩
        cases hb
        exact hrule hmem
      rw [if_neg hnot, if_neg hnot]
      refine Eq.trans ?_ (if_neg hrule).symm
      rcases ipOf_eq_some.1 hip with ⟨b, h4, rfl⟩ | ⟨b, h4, h6, rfl⟩
      · rw [h4]
        rfl
      · rw [h4, h6]
        rfl

theorem undeny_eq : r.undeny cmd =
    r.perform (.undeny (if cmd.argc < 2 then none else some (cmd.arg 1))) := by
  rw [undeny]
  split <;> rfl

theorem denyHost_eq : r.deny cmd isHostDenied storeDenyHost "-ERR host already denied\n" =
    r.perform (.denyHost (if cmd.argc < 2 then none else some (cmd.arg 1))) := by
  rw [deny]
  split <;> rfl

theorem denyList_eq : r.denyList cmd =
    r.perform (.denyList (decide (cmd.argc < 2 ∨ cmd.arg 1 = ascii "host"))
      (decide (cmd.argc < 2 ∨ cmd.arg 1 = ascii "ip"))) := by
  rw [denyList, perform]
  simp only [decide_eq_true_eq]

theorem route_eq (h : r.store.Sized) : r.route cmd = r.perform cmd.routeOrder := by
  rw [route, MonitorCmd.routeOrder]
  by_cases hc : cmd.cmd = ascii "STATS"
  · rw [if_pos hc, if_pos hc]
    rfl
  rw [if_neg hc, if_neg hc]
  by_cases hc : cmd.cmd = ascii "CONNECTIONS"
  · rw [if_pos hc, if_pos hc]
    rfl
  rw [if_neg hc, if_neg hc]
  by_cases hc : cmd.cmd = ascii "USERS"
  · rw [if_pos hc, if_pos hc]
    rfl
  rw [if_neg hc, if_neg hc]
  by_cases hc : cmd.cmd = ascii "CONFIG"
  · rw [if_pos hc, if_pos hc]
    exact config_eq
  rw [if_neg hc, if_neg hc]
  by_cases hc : cmd.cmd = ascii "ACCESS_LOG"
  · rw [if_pos hc, if_pos hc]
    exact accessLog_eq h
  rw [if_neg hc, if_neg hc]
  by_cases hc : cmd.cmd = ascii "ADD_USER"
  · rw [if_pos hc, if_pos hc]
    exact addUser_eq
  rw [if_neg hc, if_neg hc]
  by_cases hc : cmd.cmd = ascii "DEL_USER"
  · rw [if_pos hc, if_pos hc]
    exact delUser_eq h
  rw [if_neg hc, if_neg hc]
  by_cases hc : cmd.cmd = ascii "SET_PASSWORD"
  · rw [if_pos hc, if_pos hc]
    exact setPassword_eq h
  rw [if_neg hc, if_neg hc]
  by_cases hc : cmd.cmd = ascii "DENY_HOST"
  · rw [if_pos hc, if_pos hc]
    exact denyHost_eq
  rw [if_neg hc, if_neg hc]
  by_cases hc : cmd.cmd = ascii "DENY_IP"
  · rw [if_pos hc, if_pos hc]
    exact denyIp_eq
  rw [if_neg hc, if_neg hc]
  by_cases hc : cmd.cmd = ascii "UNDENY"
  · rw [if_pos hc, if_pos hc]
    exact undeny_eq
  rw [if_neg hc, if_neg hc]
  by_cases hc : cmd.cmd = ascii "DENY_LIST"
  · rw [if_pos hc, if_pos hc]
    exact denyList_eq
  rw [if_neg hc, if_neg hc]
  by_cases hc : cmd.cmd = ascii "QUIT"
  · rw [if_pos hc, if_pos hc]
    rfl
  · rw [if_neg hc, if_neg hc]
    rfl

omit [Inet] in
/-- Who has not authenticated is not listened to. -/
theorem admit_of_routed {o : Order} (h : o.routed = true) :
    r.awaiting o = r.tell "-ERR not authenticated\n" := by
  cases o with
  | auth a => cases h
  | _ => rfl

omit [Inet] in
theorem ne_nothing_of_routed {o : Order} (h : o.routed = true) : o ≠ .nothing := by
  rintro rfl
  cases h

/-- Every order but the empty one is answered. -/
theorem order_of_ne {o : Order} (h : o ≠ .nothing) :
    r.order o = (match r.state with
      | .awaitAuth => r.awaiting o
      | .authenticated => r.perform o).tell ".\n" := if_neg h

/-- **A line does what its order says.** -/
theorem line_eq (h : r.store.Sized) (bs : Bytes) : r.line bs = r.order (orderOf bs) := by
  rw [line, orderOf]
  generalize splitLine bs = cmd
  by_cases hblank : cmd.cmd = []
  · have horder : cmd.order = .nothing := if_pos hblank
    rw [if_pos hblank, horder, order, if_pos rfl]
  rw [if_neg hblank, command]
  by_cases hc : cmd.cmd = ascii "AUTH"
  · have horder : cmd.order = .auth _ := (if_neg hblank).trans (if_pos hc)
    rw [horder, order_of_ne fun heq => by cases heq]
    cases r.state with
    | awaitAuth =>
      dsimp only
      rw [if_pos hc, auth_eq h]
    | authenticated =>
      dsimp only
      rw [if_pos hc]
      rfl
  · have horder : cmd.order = cmd.routeOrder := (if_neg hblank).trans (if_neg hc)
    rw [horder, order_of_ne (ne_nothing_of_routed cmd.routeOrder_routed)]
    cases r.state with
    | awaitAuth =>
      dsimp only
      rw [if_neg hc, admit_of_routed cmd.routeOrder_routed]
    | authenticated =>
      dsimp only
      rw [if_neg hc, route_eq h]

end Reply

end SocksProxy
