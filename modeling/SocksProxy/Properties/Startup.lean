import SocksProxy.Lib.Fallible
import SocksProxy.Monitor.Numbers
import SocksProxy.Shared.InetText
import SocksProxy.Server.Main
import SocksProxy.Store.Users

/-!
# Starting the server

What `main` makes of a command line: `CommandLine` is what can be asked for, `CommandLine.Of` says
which command lines ask for it, and `startup_iff` that the server comes up exactly for those, with
the accounts they name in the order they are named.  The one way to bring the process down with a
command line is `Overfull`: `get_flag_str_nth` has nothing to return for the 257th user.
-/

set_option autoImplicit false

namespace SocksProxy

/-- A user of the command line: name, password, and whether it is an administrator. -/
abbrev FlagUser := Bytes × Bytes × Bool

/-- The call of `store_user_add` for an account. -/
def FlagUser.op (a : FlagUser) : StoreOp := .addUser a.1 a.2.1 a.2.2

/-- What the table holds of an account. -/
def FlagUser.entry (a : FlagUser) : Bytes × (Bytes × StoreRole) :=
  (strncpyTerm a.1 storeMaxUsername, (strncpyTerm a.2.1 storeMaxPassword, roleOf a.2.2))

/-- The accounts can all be added, one after the other: no name is in the table already, and there
is room. -/
structure Enrolled (accounts : List FlagUser) : Prop where
  distinct : accounts.Pairwise fun a b => strncpyTerm a.1 storeMaxUsername ≠ b.1
  fits : accounts.length ≤ storeMaxUsers

/-- What a command line asks for. -/
structure CommandLine where
  socksPort : ℕ
  monitorPort : ℕ
  users : List (Bytes × Bytes)
  admins : List (Bytes × Bytes)

/-- The accounts with a role. -/
def accountsOf (isAdmin : Bool) (creds : List (Bytes × Bytes)) : List FlagUser :=
  creds.map fun c => (c.1, c.2, isAdmin)

/-- The accounts, in the order of the table. -/
def CommandLine.accounts (c : CommandLine) : List FlagUser :=
  accountsOf false c.users ++ accountsOf true c.admins

/-- The values of a flag in a command line. -/
def given (argv : List Bytes) (flag : UInt8) : List Bytes :=
  flagValues serverFlags flag (getopt serverFlags false argv.tail)

/-- The port a flag asks for. -/
def AsksPort (values : List Bytes) (default port : ℕ) : Prop :=
  match values.getLast? with
  | none => port = default
  | some value => (strtol value).1 = port ∧ 0 < port ∧ port ≤ 65535

/-- The credentials the values of a flag stand for. -/
def Names (values : List Bytes) (creds : List (Bytes × Bytes)) : Prop :=
  values.map splitUser = creds.map some

/-- The command line asks for `c`. -/
structure CommandLine.Of (argv : List Bytes) (c : CommandLine) : Prop where
  noHelp : given argv 104 = []
  socksPort : AsksPort (given argv 112) 1080 c.socksPort
  monitorPort : AsksPort (given argv 109) 8080 c.monitorPort
  users : Names (given argv 117) c.users
  admins : Names (given argv 97) c.admins
  someUser : c.users ≠ []
  someAdmin : c.admins ≠ []
  enrolled : Enrolled c.accounts

/-- The system gives the server what it needs: two sockets, and entries for them. -/
structure StartEnv.Grants (env : StartEnv) (socksFd monitorFd : Fd) : Prop where
  selectorInit : env.selectorInit = true
  selectorNew : env.selectorNew = true
  storeCreate : env.storeCreate = true
  socksListen : env.socksListen = some socksFd
  monitorListen : env.monitorListen = some monitorFd
  apart : socksFd ≠ monitorFd
  socksLt : socksFd < selectorItemsMaxSize
  monitorLt : monitorFd < selectorItemsMaxSize
  socksRoom : env.env.room.headD true = true
  monitorRoom : env.env.room.tail.headD true = true

/-- Nothing is wrong before the users are added. -/
structure WellFormed (argv : List Bytes) (env : StartEnv) : Prop where
  noHelp : given argv 104 = []
  socksPort : ∃ port, AsksPort (given argv 112) 1080 port
  monitorPort : ∃ port, AsksPort (given argv 109) 8080 port
  someUser : given argv 117 ≠ []
  someAdmin : given argv 97 ≠ []
  system : env.selectorInit = true ∧ env.selectorNew = true ∧ env.storeCreate = true

/-- More users are given than `flag_values` holds, and those it holds can all be added. -/
structure Overfull (argv : List Bytes) (env : StartEnv) : Prop where
  wellFormed : WellFormed argv env
  more : maxFlagRepeats < (given argv 117).length
  users : ∃ creds, Names ((given argv 117).take maxFlagRepeats) creds ∧
    Enrolled (accountsOf false creds)

/-- The options that ask for `c`. -/
def CommandLine.options (c : CommandLine) : List (UInt8 × Bytes) :=
  (112, decimal c.socksPort) :: (109, decimal c.monitorPort) ::
    (c.users.map (fun u => (117, u.1 ++ 58 :: u.2)) ++ c.admins.map fun a => (97, a.1 ++ 58 :: a.2))

/-- `c`, written as a command line. -/
def CommandLine.argv (program : Bytes) (c : CommandLine) : List Bytes :=
  program :: c.options.flatMap fun o => [[45, o.1], o.2]

/-- `c` can be asked for. -/
structure CommandLine.Valid (c : CommandLine) : Prop where
  socksPort : 0 < c.socksPort ∧ c.socksPort ≤ 65535
  monitorPort : 0 < c.monitorPort ∧ c.monitorPort ≤ 65535
  someUser : c.users ≠ []
  someAdmin : c.admins ≠ []
  /-- The first `:` is the one between the two. -/
  named : ∀ u ∈ c.users ++ c.admins, u.1 ≠ [] ∧ 58 ∉ u.1 ∧ u.2 ≠ []
  /-- No name or password is cut short. -/
  sized : ∀ u ∈ c.users ++ c.admins, u.1.length ≤ storeMaxUsername ∧ u.2.length ≤ storeMaxPassword
  distinct : ((c.users ++ c.admins).map Prod.fst).Nodup
  fits : c.users.length + c.admins.length ≤ storeMaxUsers

/-! ## The table -/

/-- The user table that holds these accounts. -/
def tableOf (accounts : List FlagUser) : List (Option (Bytes × (Bytes × StoreRole))) :=
  accounts.map (fun a => some a.entry) ++ List.replicate (storeMaxUsers - accounts.length) none

section Table

variable {st : MonitorStore} {accounts : List FlagUser}

theorem mem_tableOf {e : Bytes × (Bytes × StoreRole)} :
    some e ∈ tableOf accounts ↔ ∃ a ∈ accounts, a.entry = e := by
  simp [tableOf]

theorem storeFindUser_tableOf (h : st.slots = tableOf accounts) (name : Bytes) :
    storeFindUser st name = none ↔ ∀ a ∈ accounts, strncpyTerm a.1 storeMaxUsername ≠ name := by
  rw [storeFindUser_eq_none, h]
  constructor
  · intro hno a ha heq
    exact hno _ (mem_tableOf.2 ⟨a, ha, Prod.ext heq rfl⟩)
  · intro hno e he
    obtain ⟨a, ha, heq⟩ := mem_tableOf.1 he
    exact hno a ha (congrArg Prod.fst heq)

/-- The first free slot is the one behind the accounts. -/
theorem findIdx?_tableOf (h : st.slots = tableOf accounts) :
    st.users.findIdx? (!·.used) =
      if accounts.length < storeMaxUsers then some accounts.length else none := by
  have heq : st.users.findIdx? (!·.used) = st.slots.findIdx? Option.isNone := by
    rw [MonitorStore.slots, List.findIdx?_map]
    exact congrArg (st.users.findIdx? ·) (funext fun u => (isNone_entry u).symm)
  have hnone : (accounts.map fun a => some a.entry).findIdx? Option.isNone = none := by
    simp [List.findIdx?_eq_none_iff]
  rw [heq, h, tableOf, List.findIdx?_append, hnone, List.findIdx?_replicate]
  by_cases hlt : accounts.length < storeMaxUsers
  · simp [hlt]
  · simp [hlt]

/-- An account is added at the end. -/
theorem set_tableOf (hlt : accounts.length < storeMaxUsers) (a : FlagUser) :
    (tableOf accounts).set accounts.length (some a.entry) = tableOf (accounts ++ [a]) := by
  have hroom : storeMaxUsers - accounts.length = storeMaxUsers - (accounts.length + 1) + 1 := by
    omega
  rw [tableOf, List.set_append_right _ _ (by simp), List.length_map, Nat.sub_self, hroom,
    List.replicate_succ, List.set_cons_zero, tableOf, List.map_append, List.append_assoc,
    List.length_append]
  rfl

/-- `store_user_add` takes a new name as long as there is room. -/
theorem storeUserAdd_tableOf (h : st.slots = tableOf accounts) (a : FlagUser) :
    ((storeUserAdd st a.1 a.2.1 a.2.2).2 = .ok ↔
      (∀ b ∈ accounts, strncpyTerm b.1 storeMaxUsername ≠ a.1) ∧ accounts.length < storeMaxUsers) ∧
    ((storeUserAdd st a.1 a.2.1 a.2.2).2 = .ok →
      (storeUserAdd st a.1 a.2.1 a.2.2).1.slots = tableOf (accounts ++ [a])) := by
  rw [← storeFindUser_tableOf h, storeUserAdd, findIdx?_tableOf h]
  cases storeFindUser st a.1 with
  | some i => simp
  | none =>
    by_cases hlt : accounts.length < storeMaxUsers
    · rw [if_pos hlt]
      refine ⟨iff_of_true rfl ⟨rfl, hlt⟩, fun _ => ?_⟩
      rw [← set_tableOf hlt, ← h]
      exact List.map_set
    · simp [hlt]

/-! ## The loops over the users -/

theorem Enrolled.nil : Enrolled [] := ⟨List.Pairwise.nil, Nat.zero_le _⟩

theorem Enrolled.append_cons {more : List FlagUser} {a : FlagUser} :
    Enrolled (accounts ++ a :: more) ↔ Enrolled ((accounts ++ [a]) ++ more) := by
  rw [List.append_assoc, List.singleton_append]

theorem Enrolled.of_append {more : List FlagUser} (h : Enrolled (accounts ++ more)) :
    Enrolled accounts :=
  ⟨(List.pairwise_append.1 h.distinct).1,
    Nat.le_trans (by simp) h.fits⟩

theorem Enrolled.concat_iff {a : FlagUser} (h : Enrolled accounts) : Enrolled (accounts ++ [a]) ↔
    (∀ b ∈ accounts, strncpyTerm b.1 storeMaxUsername ≠ a.1) ∧ accounts.length < storeMaxUsers := by
  constructor
  · rintro ⟨hdistinct, hfits⟩
    refine ⟨fun b hb => (List.pairwise_append.1 hdistinct).2.2 b hb a List.mem_cons_self, ?_⟩
    exact Nat.lt_of_succ_le (by simpa using hfits)
  · rintro ⟨hdistinct, hfits⟩
    refine ⟨List.pairwise_append.2 ⟨h.distinct, List.pairwise_singleton .., ?_⟩, ?_⟩
    · intro b hb c hc
      rw [List.mem_singleton.1 hc]
      exact hdistinct b hb
    · simpa using Nat.succ_le_of_lt hfits

/-- Accounts that can all be added are all in the table. -/
theorem slots_applyOps [Inet] {more : List FlagUser} (h : st.slots = tableOf accounts)
    (hok : Enrolled (accounts ++ more)) :
    (applyOps st (more.map FlagUser.op)).slots = tableOf (accounts ++ more) := by
  induction more generalizing st accounts with
  | nil => rwa [List.append_nil]
  | cons a more ih =>
    have hone := Enrolled.append_cons.1 hok
    obtain ⟨hiff, hslots⟩ := storeUserAdd_tableOf h a
    have hadd := hslots (hiff.2 (hone.of_append.of_append.concat_iff.1 hone.of_append))
    rw [List.append_cons]
    exact ih hadd hone

variable [Inet] {w : World}

theorem ordered_append (ops more : List StoreOp) :
    (w.ordered ops).ordered more = w.ordered (ops ++ more) := by
  rw [World.ordered, World.ordered, World.ordered, applyOps, applyOps, applyOps, List.foldl_append,
    List.map_append, List.append_assoc]

theorem ordered_nil : w.ordered [] = w := by
  rw [World.ordered, List.map_nil, List.append_nil]
  rfl

/-- **The loop over the values of a flag** adds the accounts, or stops at the first that cannot be
added. -/
theorem addFlagUsers_append (hw : w.store.slots = tableOf accounts) (hok : Enrolled accounts)
    (isAdmin : Bool) (inputs : List Bytes) (rest : List (Option Bytes)) :
    (∃ creds, Names inputs creds ∧ Enrolled (accounts ++ accountsOf isAdmin creds) ∧
      (w.ordered ((accountsOf isAdmin creds).map FlagUser.op)).store.slots =
        tableOf (accounts ++ accountsOf isAdmin creds) ∧
      addFlagUsers isAdmin (inputs.map some ++ rest) w =
        addFlagUsers isAdmin rest (w.ordered ((accountsOf isAdmin creds).map FlagUser.op))) ∨
    (¬ ∃ creds, Names inputs creds ∧ Enrolled (accounts ++ accountsOf isAdmin creds)) ∧
      addFlagUsers isAdmin (inputs.map some ++ rest) w = .error .usage := by
  induction inputs generalizing w accounts with
  | nil =>
    refine .inl ⟨[], rfl, ?_, ?_, ?_⟩
    · rwa [accountsOf, List.map_nil, List.append_nil]
    · rwa [accountsOf, List.map_nil, List.append_nil]
    · exact congrArg (addFlagUsers isAdmin rest) ordered_nil.symm
  | cons input inputs ih =>
    rw [List.map_cons, List.cons_append, addFlagUsers]
    cases hsplit : splitUser input with
    | none =>
      refine .inr ⟨?_, rfl⟩
      rintro ⟨creds, hnames, -⟩
      rw [Names, List.map_cons, hsplit] at hnames
      cases creds with
      | nil => cases hnames
      | cons c creds => cases hnames
    | some c =>
      obtain ⟨user, password⟩ := c
      let a : FlagUser := (user, password, isAdmin)
      obtain ⟨hiff, hslots⟩ := storeUserAdd_tableOf hw a
      have hnames : ∀ {creds}, Names (input :: inputs) creds ↔
          ∃ creds', creds = (user, password) :: creds' ∧ Names inputs creds' := by
        intro creds
        rw [Names, List.map_cons, hsplit]
        cases creds with
        | nil => simp
        | cons c creds =>
          rw [List.map_cons, List.cons.injEq, Option.some.injEq]
          constructor
          · rintro ⟨rfl, h⟩
            exact ⟨creds, rfl, h⟩
          · rintro ⟨creds', heq, h⟩
            cases heq
            exact ⟨rfl, h⟩
      by_cases hadd : (storeUserAdd w.store user password isAdmin).2 = .ok
      · have hone := hok.concat_iff.2 (hiff.1 hadd)
        rcases ih (w := w.ordered [a.op]) (hslots hadd) hone with
      ⟨creds, hn, he, ht, hr⟩ | ⟨hno, hr⟩
        · refine .inl ⟨(user, password) :: creds, hnames.2 ⟨creds, rfl, hn⟩, ?_, ?_, ?_⟩
          · exact Enrolled.append_cons.2 he
          · rw [ordered_append] at ht
            exact ht.trans (congrArg tableOf (List.append_assoc ..))
          · refine (if_pos hadd).trans (hr.trans ?_)
            rw [ordered_append]
            rfl
        · refine .inr ⟨?_, (if_pos hadd).trans hr⟩
          rintro ⟨_, hn, he⟩
          obtain ⟨creds, rfl, hn'⟩ := hnames.1 hn
          exact hno ⟨creds, hn', Enrolled.append_cons.1 he⟩
      · refine .inr ⟨?_, if_neg hadd⟩
        rintro ⟨_, hn, he⟩
        obtain ⟨creds, rfl, -⟩ := hnames.1 hn
        exact hadd (hiff.2 (hok.concat_iff.1 (Enrolled.append_cons.1 he).of_append))

end Table

/-! ## The servers -/

section Servers

variable {w : World} {fd? : Option Fd} {fd : Fd} {item : Item}

/-- The system lets a server listen on `fd`. -/
def Granted (w : World) (fd? : Option Fd) (fd : Fd) : Prop :=
  fd? = some fd ∧ w.fds fd = none ∧ fd < selectorItemsMaxSize ∧ w.env.room.headD true = true

theorem selectorRegister_ite (w : World) (fd : Fd) (item : Item) :
    selectorRegister fd item w = .ok (
      if fd < selectorItemsMaxSize ∧ w.env.room.headD true = true ∧ w.fds fd = none then
        (true, { w with
          env := { w.env with room := w.env.room.tail }
          fds := Function.update w.fds fd (some item) })
      else (false, { w with env := { w.env with room := w.env.room.tail } })) := by
  show (if selectorItemsMaxSize ≤ fd then pure false
    else if w.env.room.headD true = false then pure false
    else if (w.fds fd).isSome then pure false
    else do
      setItem fd (some item)
      pure true : SocksM Bool) { w with env := { w.env with room := w.env.room.tail } } = _
  by_cases hlt : fd < selectorItemsMaxSize
  · rw [if_neg (Nat.not_le.2 hlt)]
    cases hroom : w.env.room.headD true with
    | false => simp [hlt]; rfl
    | true =>
      cases hfree : w.fds fd with
      | none => simp [hlt]; rfl
      | some item' => simp [hlt]; rfl
  · rw [if_pos (Nat.le_of_not_lt hlt), if_neg fun h => hlt h.1]
    rfl

theorem serverInit_cases (w : World) (fd? : Option Fd) (item : Item) :
    (∃ fd, Granted w fd? fd ∧ serverInit fd? item w = .ok (some fd, { w with
      env := { w.env with room := w.env.room.tail }
      fds := Function.update w.fds fd (some item) })) ∨
    (∀ fd, ¬ Granted w fd? fd) ∧ ∃ w', serverInit fd? item w = .ok (none, w') := by
  rw [serverInit, bind_of_ok (show (get : SocksM World) w = .ok (w, w) from rfl)]
  cases hfresh : w.freshFd fd? with
  | none =>
    refine .inr ⟨fun fd h => ?_, w, rfl⟩
    rw [World.freshFd, h.1, Option.filter_some_pos (by simp [h.2.1])] at hfresh
    cases hfresh
  | some fd =>
    obtain ⟨hfd, hfree⟩ := Option.filter_eq_some_iff.1 hfresh
    have hreg := selectorRegister_ite w fd item
    by_cases hok : fd < selectorItemsMaxSize ∧ w.env.room.headD true = true ∧ w.fds fd = none
    · rw [if_pos hok] at hreg
      exact .inl ⟨fd, ⟨hfd, hok.2.2, hok.1, hok.2.1⟩, bind_of_ok hreg⟩
    · rw [if_neg hok] at hreg
      refine .inr ⟨fun fd' h => hok ?_, _, bind_of_ok hreg⟩
      rw [h.1] at hfd
      cases hfd
      exact ⟨h.2.2.1, h.2.2.2, h.2.1⟩

variable [Inet]

/-- What the system grants, told of the environment. -/
theorem grants_iff {env : StartEnv} (ops : List StoreOp) {socksFd monitorFd : Fd} :
    env.Grants socksFd monitorFd ↔
      (env.selectorInit = true ∧ env.selectorNew = true ∧ env.storeCreate = true) ∧
      Granted { World.created.ordered ops with env := env.env } env.socksListen socksFd ∧
      Granted { World.created.ordered ops with
        env := { env.env with room := env.env.room.tail }
        fds := Function.update (fun _ => none) socksFd (some ⟨.passive, opRead, 0⟩) }
          env.monitorListen monitorFd := by
  constructor
  · intro h
    refine ⟨⟨h.selectorInit, h.selectorNew, h.storeCreate⟩,
      ⟨h.socksListen, rfl, h.socksLt, h.socksRoom⟩, h.monitorListen, ?_, h.monitorLt, h.monitorRoom⟩
    dsimp only
    rw [Function.update_of_ne (Ne.symm h.apart)]
  · rintro ⟨⟨h₁, h₂, h₃⟩, ⟨hs, -, hslt, hsroom⟩, hm, hfree, hmlt, hmroom⟩
    refine ⟨h₁, h₂, h₃, hs, hm, ?_, hslt, hmlt, hsroom, hmroom⟩
    rintro rfl
    dsimp only at hfree
    rw [Function.update_self] at hfree
    cases hfree

/-- **Both servers listen exactly if the system grants it.** -/
theorem startServers_cases (env : StartEnv) (ops : List StoreOp)
    (hinit : env.selectorInit = true ∧ env.selectorNew = true ∧ env.storeCreate = true) :
    (∃ socksFd monitorFd w', env.Grants socksFd monitorFd ∧
      startServers env (World.created.ordered ops) =
        .ok (some (Process.boot socksFd monitorFd ops), w')) ∨
    (∀ socksFd monitorFd, ¬ env.Grants socksFd monitorFd) ∧
      ∃ w', startServers env (World.created.ordered ops) = .ok (none, w') := by
  let w₀ : World := { World.created.ordered ops with env := env.env }
  have hset : (modify fun w => { w with env := env.env } : SocksM PUnit)
      (World.created.ordered ops) = .ok ((), w₀) := rfl
  rw [startServers, bind_of_ok hset]
  rcases serverInit_cases w₀ env.socksListen ⟨.passive, opRead, 0⟩ with
    ⟨socksFd, hsocks, heq⟩ | ⟨hno, w', heq⟩
  · rw [bind_of_ok heq]
    rcases serverInit_cases _ env.monitorListen ⟨.monitor, opRead, 0⟩ with
      ⟨monitorFd, hmonitor, heq'⟩ | ⟨hno, w', heq'⟩
    · have hgrants := (grants_iff ops).2 ⟨hinit, hsocks, hmonitor⟩
      refine .inl ⟨socksFd, monitorFd, (World.boot socksFd monitorFd).ordered ops, hgrants,
        (bind_of_ok heq').trans ?_⟩
      have hboot : World.boot socksFd monitorFd = { World.created with
          fds := Function.update (Function.update (fun _ => none) socksFd
            (some ⟨.passive, opRead, 0⟩)) monitorFd (some ⟨.monitor, opRead, 0⟩) } := by
        rw [World.boot, Function.update_comm hgrants.apart]
        rfl
      rw [Process.boot, hboot]
      rfl
    · refine .inr ⟨fun socksFd' monitorFd h => ?_, w', bind_of_ok heq'⟩
      obtain ⟨-, hsocks', hmonitor⟩ := (grants_iff ops).1 h
      obtain rfl : socksFd' = socksFd := Option.some.inj (hsocks'.1.symm.trans hsocks.1)
      exact hno monitorFd hmonitor
  · refine .inr ⟨fun socksFd monitorFd h => ?_, w', bind_of_ok heq⟩
    exact hno socksFd ((grants_iff ops).1 h).2.1

end Servers

/-! ## Logging in -/

section Login

variable {st : MonitorStore}

theorem storeUserValidate_slots {name password : Bytes} :
    storeUserValidate st name password = true ↔ ∃ r, some (name, (password, r)) ∈ st.slots := by
  rw [storeUserValidate, List.any_eq_true]
  simp only [mem_slots, Bool.and_eq_true, beq_iff_eq]
  constructor
  · rintro ⟨u, hu, ⟨hused, hname⟩, hpass⟩
    exact ⟨u.role, u, hu, hused, hname, hpass, rfl⟩
  · rintro ⟨r, u, hu, hused, hname, hpass, -⟩
    exact ⟨u, hu, ⟨hused, hname⟩, hpass⟩

/-- In a table without a name twice, an administrator is let in with what the table holds. -/
theorem storeAdminAuthenticate_slots (h : SlotTable.Distinct st.slots) {name password : Bytes} :
    storeAdminAuthenticate st name password = .ok ↔ some (name, (password, .admin)) ∈ st.slots := by
  rw [storeAdminAuthenticate]
  cases hfind : st.users.find? fun u => u.used && u.username == name with
  | none =>
    refine iff_of_false (fun h => by cases h) fun hmem => ?_
    obtain ⟨u, hu, hused, hname, -⟩ := mem_slots.1 hmem
    have := List.find?_eq_none.1 hfind u hu
    simp [hused, hname] at this
  | some u =>
    have hu : some (name, (u.password, u.role)) ∈ st.slots := by
      have hp := List.find?_some hfind
      rw [Bool.and_eq_true, beq_iff_eq] at hp
      exact mem_slots.2 ⟨u, List.mem_of_find?_eq_some hfind, hp.1, hp.2, rfl, rfl⟩
    -- the name stands in one slot only
    have hone : ∀ e, some (name, e) ∈ st.slots → e = (u.password, u.role) := by
      intro e he
      obtain ⟨i, hi⟩ := List.mem_iff_getElem?.1 he
      obtain ⟨j, hj⟩ := List.mem_iff_getElem?.1 hu
      obtain rfl := h i j _ _ _ hi hj
      rw [hi] at hj
      cases hj
      rfl
    dsimp only
    constructor
    · intro hok
      split at hok
      · cases hok
      · next hpass =>
        split at hok
        · next hrole => rwa [not_not.1 hpass, hrole] at hu
        · cases hok
    · intro hmem
      obtain ⟨hpass, hrole⟩ := Prod.mk.injEq .. ▸ hone _ hmem
      rw [if_neg (not_not_intro hpass.symm), if_pos hrole.symm]

end Login

/-! ## The command line -/

section CommandLine

variable {argv : List Bytes} {flag : UInt8}

/-- The flags of the server hold what the command line gives them. -/
theorem holds_given (argv : List Bytes) (flag : UInt8) (hflag : flag ≠ unknownFlag ∧ flag ≠ 58) :
    (Flags.setupFlags argv serverFlags).Holds flag (given argv flag) :=
  Flags.holds_setupFlags hflag argv

theorem portFlag_iff {flags : Flags} {values : List Bytes} (h : flags.Holds flag values)
    {default port : ℕ} :
    portFlag flags flag default = some port ↔ AsksPort values default port := by
  rw [portFlag, h.hasFlag, h.getFlagLong, AsksPort]
  cases hlast : values.getLast? with
  | none =>
    rw [List.getLast?_eq_none_iff.1 hlast]
    exact Option.some_inj.trans eq_comm
  | some value =>
    have hne : values.isEmpty = false := by
      cases values with
      | nil => cases hlast
      | cons => rfl
    rw [hne]
    show (if (strtol value).1 ≤ 0 ∨ 65535 < (strtol value).1 then none
      else some (strtol value).1.toNat) = some port ↔ _
    split
    · next hbad =>
      refine iff_of_false (fun h => by cases h) ?_
      rintro ⟨heq, hpos, hle⟩
      omega
    · next hok =>
      rw [Option.some_inj]
      omega

/-- The first values of a flag are there, the others are null pointers. -/
theorem flagInputs_eq {flags : Flags} {values : List Bytes} (h : flags.Holds flag values) :
    flagInputs flags flag = (values.take maxFlagRepeats).map some ++
      List.replicate (values.length - maxFlagRepeats) none := by
  refine List.ext_getElem? fun n => ?_
  rw [flagInputs, h.getFlagCount, List.getElem?_map]
  by_cases hn : n < values.length
  · rw [List.getElem?_range hn, Option.map_some, h.getFlagStrNth]
    by_cases hmax : n < maxFlagRepeats
    · rw [if_pos hmax, List.getElem?_append_left (by simp; omega), List.getElem?_map,
        List.getElem?_take_of_lt hmax, List.getElem?_eq_getElem hn]
      rfl
    · rw [if_neg hmax, List.getElem?_append_right (by simp; omega), List.getElem?_replicate,
        if_pos (by simp; omega)]
  · rw [List.getElem?_eq_none (by simpa using Nat.le_of_not_lt hn), List.getElem?_eq_none]
    · rfl
    · simp
      omega

theorem Names.length_eq {values : List Bytes} {creds : List (Bytes × Bytes)}
    (h : Names values creds) : values.length = creds.length := by
  simpa using congrArg List.length h

theorem Names.unique {values : List Bytes} {creds creds' : List (Bytes × Bytes)}
    (h : Names values creds) (h' : Names values creds') : creds = creds' :=
  List.map_injective_iff.2 (Option.some_injective _) (h.symm.trans h')

theorem length_accountsOf (isAdmin : Bool) (creds : List (Bytes × Bytes)) :
    (accountsOf isAdmin creds).length = creds.length := List.length_map _

/-- No more accounts can be added than `flag_values` holds. -/
theorem Enrolled.length_le {accounts : List FlagUser} {isAdmin : Bool}
    {creds : List (Bytes × Bytes)}
    (h : Enrolled (accounts ++ accountsOf isAdmin creds)) :
    accounts.length + creds.length ≤ maxFlagRepeats := by
  have := h.fits
  rwa [List.length_append, length_accountsOf] at this

variable [Inet]

/-- The loop over all values of a flag. -/
theorem addFlagUsers_cases {w : World} {accounts : List FlagUser} {flags : Flags}
    {values : List Bytes} (hw : w.store.slots = tableOf accounts) (hok : Enrolled accounts)
    (isAdmin : Bool) (hvalues : flags.Holds flag values) :
    (∃ creds, Names values creds ∧ Enrolled (accounts ++ accountsOf isAdmin creds) ∧
      (w.ordered ((accountsOf isAdmin creds).map FlagUser.op)).store.slots =
        tableOf (accounts ++ accountsOf isAdmin creds) ∧
      addFlagUsers isAdmin (flagInputs flags flag) w =
        .ok (w.ordered ((accountsOf isAdmin creds).map FlagUser.op))) ∨
    (¬ ∃ creds, Names values creds ∧ Enrolled (accounts ++ accountsOf isAdmin creds)) ∧
      ((∃ creds, maxFlagRepeats < values.length ∧ Names (values.take maxFlagRepeats) creds ∧
          Enrolled (accounts ++ accountsOf isAdmin creds)) ∧
          addFlagUsers isAdmin (flagInputs flags flag) w = .error .crashed ∨
        (¬ ∃ creds, maxFlagRepeats < values.length ∧ Names (values.take maxFlagRepeats) creds ∧
          Enrolled (accounts ++ accountsOf isAdmin creds)) ∧
          addFlagUsers isAdmin (flagInputs flags flag) w = .error .usage) := by
  rw [flagInputs_eq hvalues]
  by_cases hlen : values.length ≤ maxFlagRepeats
  · rw [List.take_of_length_le hlen, Nat.sub_eq_zero_of_le hlen, List.replicate_zero]
    rcases addFlagUsers_append hw hok isAdmin values [] with ⟨creds, hn, he, ht, hr⟩ | ⟨hno, hr⟩
    · exact .inl ⟨creds, hn, he, ht, hr⟩
    · refine .inr ⟨hno, .inr ⟨?_, hr⟩⟩
      rintro ⟨creds, hlt, -⟩
      exact absurd hlt (Nat.not_lt.2 hlen)
  · have hlt := Nat.lt_of_not_le hlen
    obtain ⟨k, hk⟩ := Nat.exists_eq_add_of_lt hlt
    have hnone : ¬ ∃ creds, Names values creds ∧ Enrolled (accounts ++ accountsOf isAdmin creds) := by
      rintro ⟨creds, hn, he⟩
      have := he.length_le
      rw [← hn.length_eq] at this
      omega
    rw [show values.length - maxFlagRepeats = k + 1 by omega, List.replicate_succ]
    refine .inr ⟨hnone, ?_⟩
    rcases addFlagUsers_append hw hok isAdmin (values.take maxFlagRepeats)
      (none :: List.replicate k none) with ⟨creds, hn, he, -, hr⟩ | ⟨hno, hr⟩
    · exact .inl ⟨⟨creds, hlt, hn, he⟩, hr⟩
    · refine .inr ⟨?_, hr⟩
      rintro ⟨creds, -, hn, he⟩
      exact hno ⟨creds, hn, he⟩

/-- What comes of the users and the servers, once the ports are known. -/
theorem startStore_cases {flags : Flags} {users admins : List Bytes}
    (hu : flags.Holds 117 users) (ha : flags.Holds 97 admins) (hsome : users ≠ [])
    {env : StartEnv} (henv : env.selectorInit = true ∧ env.selectorNew = true ∧
      env.storeCreate = true) (socksPort monitorPort : ℕ) :
    (∃ us as, Names users us ∧ Names admins as ∧
        Enrolled (accountsOf false us ++ accountsOf true as) ∧
        ((∃ socksFd monitorFd, env.Grants socksFd monitorFd ∧
          startStore flags env socksPort monitorPort = .serving socksPort monitorPort
            (Process.boot socksFd monitorFd ((accountsOf false us ++ accountsOf true as).map
              FlagUser.op))) ∨
        (∀ socksFd monitorFd, ¬ env.Grants socksFd monitorFd) ∧
          startStore flags env socksPort monitorPort = .failed)) ∨
    (¬ ∃ us as, Names users us ∧ Names admins as ∧
        Enrolled (accountsOf false us ++ accountsOf true as)) ∧
      ((∃ us, maxFlagRepeats < users.length ∧ Names (users.take maxFlagRepeats) us ∧
          Enrolled (accountsOf false us)) ∧
          startStore flags env socksPort monitorPort = .crashed ∨
        (¬ ∃ us, maxFlagRepeats < users.length ∧ Names (users.take maxFlagRepeats) us ∧
          Enrolled (accountsOf false us)) ∧
          startStore flags env socksPort monitorPort = .usage) := by
  have hempty : World.created.store.slots = tableOf [] := slots_storeCreate
  rw [startStore]
  rcases addFlagUsers_cases hempty Enrolled.nil false hu with
    ⟨us, hnu, heu, htu, hru⟩ | ⟨hno, hcrash⟩
  · rw [hru]
    rcases addFlagUsers_cases htu heu true ha with ⟨as, hna, hea, -, hra⟩ | ⟨hno, hrest⟩
    · refine .inl ⟨us, as, hnu, hna, hea, ?_⟩
      dsimp only
      rw [hra, ordered_append, ← List.map_append]
      rcases startServers_cases env ((accountsOf false us ++ accountsOf true as).map FlagUser.op)
        henv with ⟨socksFd, monitorFd, w', hgrants, heq⟩ | ⟨hno, w', heq⟩
      · exact .inl ⟨socksFd, monitorFd, hgrants, by dsimp only; rw [heq]⟩
      · exact .inr ⟨hno, by dsimp only; rw [heq]⟩
    · have hunique : ∀ us', Names users us' → us' = us := fun us' h => h.unique hnu
      refine .inr ⟨?_, .inr ⟨?_, ?_⟩⟩
      · rintro ⟨us', as, hnu', hna, he⟩
        obtain rfl := hunique us' hnu'
        exact hno ⟨as, hna, he⟩
      · rintro ⟨us', hlt, -⟩
        have := heu.length_le
        rw [← hnu.length_eq] at this
        exact absurd hlt (Nat.not_lt.2 (by simpa using this))
      · rcases hrest with ⟨⟨as, hlt, hna, he⟩, -⟩ | ⟨-, heq⟩
        · -- no room is left for so many administrators
          have := he.length_le
          rw [← hna.length_eq, List.length_take, Nat.min_eq_left hlt.le] at this
          have hpos : 0 < users.length := List.length_pos_iff.2 hsome
          have hlen : ([] ++ accountsOf false us).length = users.length := by
            rw [List.nil_append, length_accountsOf, hnu.length_eq]
          omega
        · dsimp only
          rw [heq]
  · refine .inr ⟨?_, ?_⟩
    · rintro ⟨us, as, hnu, -, he⟩
      exact hno ⟨us, hnu, he.of_append⟩
    · rcases hcrash with ⟨h, heq⟩ | ⟨h, heq⟩
      · exact .inl ⟨h, by rw [heq]⟩
      · exact .inr ⟨h, by rw [heq]⟩

omit [Inet] in
theorem AsksPort.unique {values : List Bytes} {default port port' : ℕ}
    (h : AsksPort values default port) (h' : AsksPort values default port') : port = port' := by
  rw [AsksPort] at h h'
  cases hlast : values.getLast? with
  | none =>
    rw [hlast] at h h'
    exact h.trans h'.symm
  | some value =>
    rw [hlast] at h h'
    exact Int.ofNat.inj (h.1.symm.trans h'.1)

omit [Inet] in
theorem portFlag_isSome {flags : Flags} {values : List Bytes} (h : flags.Holds flag values)
    {default : ℕ} : (∃ port, AsksPort values default port) ↔
      ∃ port, portFlag flags flag default = some port :=
  exists_congr fun _ => (portFlag_iff h).symm

/-- The users are only looked at if nothing is wrong before. -/
theorem startup_cases (argv : List Bytes) (env : StartEnv) :
    (∃ socksPort monitorPort, WellFormed argv env ∧ AsksPort (given argv 112) 1080 socksPort ∧
      AsksPort (given argv 109) 8080 monitorPort ∧ startup argv env =
        startStore (Flags.setupFlags argv serverFlags) env socksPort monitorPort) ∨
    ¬ WellFormed argv env ∧
      (startup argv env = .help ∨ startup argv env = .usage ∨ startup argv env = .failed) := by
  have hh := holds_given argv 104 (by decide)
  have hp := holds_given argv 112 (by decide)
  have hm := holds_given argv 109 (by decide)
  have hu := holds_given argv 117 (by decide)
  have ha := holds_given argv 97 (by decide)
  rw [startup]
  rw [hh.hasFlag, hu.getFlagCount, ha.getFlagCount]
  by_cases hhelp : given argv 104 = []
  swap
  · refine .inr ⟨fun h => hhelp h.noHelp, .inl (if_pos ?_)⟩
    simpa using hhelp
  rw [if_neg (by simp [hhelp])]
  cases hsp : portFlag (Flags.setupFlags argv serverFlags) 112 1080 with
  | none =>
    refine .inr ⟨fun h => ?_, .inr (.inl rfl)⟩
    obtain ⟨port, hport⟩ := (portFlag_isSome hp).1 h.socksPort
    rw [hport] at hsp
    cases hsp
  | some sp =>
  cases hmp : portFlag (Flags.setupFlags argv serverFlags) 109 8080 with
  | none =>
    refine .inr ⟨fun h => ?_, .inr (.inl rfl)⟩
    obtain ⟨port, hport⟩ := (portFlag_isSome hm).1 h.monitorPort
    rw [hport] at hmp
    cases hmp
  | some mp =>
  dsimp only
  by_cases hcount : (given argv 117).length < 1 ∨ (given argv 97).length < 1
  · refine .inr ⟨fun h => ?_, .inr (.inl (if_pos hcount))⟩
    rcases hcount with hlt | hlt
    · exact h.someUser (List.length_eq_zero_iff.1 (Nat.lt_one_iff.1 hlt))
    · exact h.someAdmin (List.length_eq_zero_iff.1 (Nat.lt_one_iff.1 hlt))
  rw [if_neg hcount]
  by_cases henv : env.selectorInit = true ∧ env.selectorNew = true ∧ env.storeCreate = true
  · rw [if_neg (by simp [henv.1, henv.2.1, henv.2.2])]
    refine .inl ⟨sp, mp, ⟨hhelp, (portFlag_isSome hp).2 ⟨sp, hsp⟩,
      (portFlag_isSome hm).2 ⟨mp, hmp⟩, fun h => hcount (.inl ?_), fun h => hcount (.inr ?_), henv⟩,
      (portFlag_iff hp).1 hsp, (portFlag_iff hm).1 hmp, rfl⟩
    · rw [h]
      exact Nat.zero_lt_one
    · rw [h]
      exact Nat.zero_lt_one
  · refine .inr ⟨fun h => henv h.system, .inr (.inr (if_pos ?_))⟩
    by_contra hall
    simp only [Bool.or_eq_true, Bool.not_eq_true', not_or, Bool.not_eq_false] at hall
    exact henv ⟨hall.1.1, hall.1.2, hall.2⟩

omit [Inet] in
/-- A command line that asks for something is well formed. -/
theorem CommandLine.Of.wellFormed {c : CommandLine} (h : CommandLine.Of argv c) {env : StartEnv}
    {socksFd monitorFd : Fd} (hg : env.Grants socksFd monitorFd) : WellFormed argv env where
  noHelp := h.noHelp
  socksPort := ⟨_, h.socksPort⟩
  monitorPort := ⟨_, h.monitorPort⟩
  someUser heq := h.someUser (List.length_eq_zero_iff.1 (by rw [← h.users.length_eq, heq]; rfl))
  someAdmin heq := h.someAdmin (List.length_eq_zero_iff.1 (by rw [← h.admins.length_eq, heq]; rfl))
  system := ⟨hg.selectorInit, hg.selectorNew, hg.storeCreate⟩

/-- The flags of a well-formed command line. -/
theorem startStore_given (argv : List Bytes) {env : StartEnv} (h : WellFormed argv env)
    (socksPort monitorPort : ℕ) :
    (∃ us as, Names (given argv 117) us ∧ Names (given argv 97) as ∧
        Enrolled (accountsOf false us ++ accountsOf true as) ∧
        ((∃ socksFd monitorFd, env.Grants socksFd monitorFd ∧
          startStore (Flags.setupFlags argv serverFlags) env socksPort monitorPort =
            .serving socksPort monitorPort (Process.boot socksFd monitorFd
              ((accountsOf false us ++ accountsOf true as).map FlagUser.op))) ∨
        (∀ socksFd monitorFd, ¬ env.Grants socksFd monitorFd) ∧
          startStore (Flags.setupFlags argv serverFlags) env socksPort monitorPort = .failed)) ∨
    (∀ c, ¬ CommandLine.Of argv c) ∧
      (Overfull argv env ∧
          startStore (Flags.setupFlags argv serverFlags) env socksPort monitorPort = .crashed ∨
        ¬ Overfull argv env ∧
          startStore (Flags.setupFlags argv serverFlags) env socksPort monitorPort = .usage) := by
  rcases startStore_cases (holds_given argv 117 (by decide)) (holds_given argv 97 (by decide))
    h.someUser h.system socksPort monitorPort with ⟨us, as, hu, ha, he, hservers⟩ | ⟨hno, hrest⟩
  · exact .inl ⟨us, as, hu, ha, he, hservers⟩
  · refine .inr ⟨fun c hof => hno ⟨c.users, c.admins, hof.users, hof.admins, hof.enrolled⟩, ?_⟩
    rcases hrest with ⟨⟨us, hlt, hn, he⟩, heq⟩ | ⟨hnone, heq⟩
    · exact .inl ⟨⟨h, hlt, us, hn, he⟩, heq⟩
    · refine .inr ⟨fun hover => ?_, heq⟩
      obtain ⟨us, hn, he⟩ := hover.users
      exact hnone ⟨us, hover.more, hn, he⟩

/-- A server that comes up was asked for, and granted. -/
theorem of_serving {argv : List Bytes} {env : StartEnv} {socksPort monitorPort : ℕ} {p : Process}
    (h : startup argv env = .serving socksPort monitorPort p) :
    ∃ c socksFd monitorFd, CommandLine.Of argv c ∧ env.Grants socksFd monitorFd ∧
      socksPort = c.socksPort ∧ monitorPort = c.monitorPort ∧
      p = Process.boot socksFd monitorFd (c.accounts.map FlagUser.op) := by
  rcases startup_cases argv env with ⟨sp, mp, hwf, hsp, hmp, heq⟩ | ⟨-, hend⟩
  · rw [heq] at h
    rcases startStore_given argv hwf sp mp with ⟨us, as, hnu, hna, he, hservers⟩ | ⟨-, hrest⟩
    · rcases hservers with ⟨socksFd, monitorFd, hg, hserve⟩ | ⟨-, hfail⟩
      · rw [hserve, Startup.serving.injEq] at h
        obtain ⟨rfl, rfl, rfl⟩ := h
        refine ⟨⟨sp, mp, us, as⟩, socksFd, monitorFd,
    ⟨hwf.noHelp, hsp, hmp, hnu, hna, ?_, ?_, he⟩, hg,
          rfl, rfl, rfl⟩
        · rintro rfl
          exact hwf.someUser (List.length_eq_zero_iff.1 hnu.length_eq)
        · rintro rfl
          exact hwf.someAdmin (List.length_eq_zero_iff.1 hna.length_eq)
      · rw [hfail] at h
        cases h
    · rcases hrest with ⟨-, heq'⟩ | ⟨-, heq'⟩ <;> rw [heq'] at h <;> cases h
  · rw [h] at hend
    rcases hend with h | h | h <;> cases h

/-- A server that is asked for and granted comes up. -/
theorem CommandLine.Of.serving {c : CommandLine} (h : CommandLine.Of argv c) {env : StartEnv}
    {socksFd monitorFd : Fd} (hg : env.Grants socksFd monitorFd) :
    startup argv env = .serving c.socksPort c.monitorPort
      (Process.boot socksFd monitorFd (c.accounts.map FlagUser.op)) := by
  rcases startup_cases argv env with ⟨sp, mp, hwf, hsp, hmp, heq⟩ | ⟨hbad, -⟩
  · obtain ⟨csp, cmp, cus, cas⟩ := c
    obtain rfl := h.socksPort.unique hsp
    obtain rfl := h.monitorPort.unique hmp
    rw [heq]
    rcases startStore_given argv hwf csp cmp with ⟨us, as, hnu, hna, -, hservers⟩ | ⟨hno, -⟩
    · obtain rfl := h.users.unique hnu
      obtain rfl := h.admins.unique hna
      rcases hservers with ⟨socksFd', monitorFd', hg', hserve⟩ | ⟨hnone, -⟩
      · obtain rfl := Option.some.inj (hg.socksListen.symm.trans hg'.socksListen)
        obtain rfl := Option.some.inj (hg.monitorListen.symm.trans hg'.monitorListen)
        exact hserve
      · exact absurd hg (hnone socksFd monitorFd)
    · exact absurd h (hno _)
  · exact absurd (h.wellFormed hg) hbad

/-- The table of a server that comes up holds the accounts, in the order they are named. -/
theorem slots_boot {c : CommandLine} (h : Enrolled c.accounts) (socksFd monitorFd : Fd) :
    (Process.boot socksFd monitorFd (c.accounts.map FlagUser.op)).world.store.slots =
      tableOf c.accounts := by
  have hempty : storeCreate.slots = tableOf [] := slots_storeCreate
  exact slots_applyOps hempty h

omit [Inet] in
/-- A flag with its argument in the next word. -/
theorem getopt_pair {flagIds : Bytes} {o : UInt8 × Bytes} (hflag : o.1 ≠ 45 ∧ o.1 ≠ 58)
    (htakes : findFlag o.1 flagIds = some true) (words : List Bytes) :
    getopt flagIds false ([45, o.1] :: o.2 :: words) = o :: getopt flagIds false words := by
  have hdash : ¬ ([45, o.1] : Bytes) = [45, 45] := fun h => hflag.1 (by simpa using h)
  have hoptions : optionsOf flagIds (some o.2) [o.1] = ([o], true) := by
    rw [optionsOf, if_neg hflag.2, htakes]
    rfl
  rw [getopt, if_neg hdash]
  show (optionsOf flagIds (some o.2) [o.1]).1 ++
    getopt flagIds (optionsOf flagIds (some o.2) [o.1]).2 (o.2 :: words) = _
  rw [hoptions]
  rfl

omit [Inet] in
theorem getopt_options {flagIds : Bytes} {os : List (UInt8 × Bytes)}
    (h : ∀ o ∈ os, (o.1 ≠ 45 ∧ o.1 ≠ 58) ∧ findFlag o.1 flagIds = some true) :
    getopt flagIds false (os.flatMap fun o => [[45, o.1], o.2]) = os := by
  induction os with
  | nil => rfl
  | cons o os ih =>
    have ho := h o List.mem_cons_self
    rw [List.flatMap_cons, List.cons_append, List.cons_append, List.nil_append,
      getopt_pair ho.1 ho.2, ih fun o' ho' => h o' (List.mem_cons_of_mem _ ho')]

omit [Inet] in
theorem splitUser_join {u : Bytes × Bytes} (h : u.1 ≠ [] ∧ 58 ∉ u.1 ∧ u.2 ≠ []) :
    splitUser (u.1 ++ 58 :: u.2) = some u := by
  have hname : ∀ b ∈ u.1, (b != 58) = true := by
    intro b hb
    rw [bne_iff_ne]
    rintro rfl
    exact h.2.1 hb
  have htake : (u.1 ++ 58 :: u.2).takeWhile (· != 58) = u.1 := by
    rw [List.takeWhile_append_of_pos hname, List.takeWhile_cons_of_neg (by simp), List.append_nil]
  have hdrop : (u.1 ++ 58 :: u.2).dropWhile (· != 58) = 58 :: u.2 := by
    rw [List.dropWhile_append_of_pos hname, List.dropWhile_cons_of_neg (by simp)]
  rw [splitUser, htake, hdrop]
  exact if_neg (not_or.2 ⟨h.1, h.2.2⟩)

omit [Inet] in
theorem CommandLine.given_argv (c : CommandLine) (program : Bytes) (flag : UInt8) :
    given (c.argv program) flag = (c.options.filter (·.1 == flag)).map Prod.snd := by
  have hoptions : ∀ o ∈ c.options,
      (o.1 ≠ 45 ∧ o.1 ≠ 58) ∧ findFlag o.1 serverFlags = some true := by
    intro o ho
    have hletter : o.1 = 112 ∨ o.1 = 109 ∨ o.1 = 117 ∨ o.1 = 97 := by
      simp only [options, List.mem_cons, List.mem_append, List.mem_map] at ho
      rcases ho with rfl | rfl | ⟨u, -, rfl⟩ | ⟨u, -, rfl⟩ <;> simp
    rcases hletter with heq | heq | heq | heq <;> rw [heq] <;> decide
  rw [given, argv, List.tail_cons, getopt_options hoptions, flagValues, ← List.filterMap_eq_map,
    List.filterMap_filter]
  refine List.filterMap_congr fun o ho => ?_
  rw [(hoptions o ho).2, if_pos rfl]
  by_cases hflag : o.1 = flag
  · simp [hflag]
  · simp [hflag]

section Valid

variable {c : CommandLine} (h : c.Valid) (program : Bytes)

include h

omit [Inet] in
theorem CommandLine.Valid.sized_account {a : FlagUser} (ha : a ∈ c.accounts) :
    a.1.length ≤ storeMaxUsername ∧ a.2.1.length ≤ storeMaxPassword := by
  simp only [accounts, accountsOf, List.mem_append, List.mem_map] at ha
  rcases ha with ⟨u, hu, rfl⟩ | ⟨u, hu, rfl⟩
  · exact h.sized u (List.mem_append_left _ hu)
  · exact h.sized u (List.mem_append_right _ hu)

omit [Inet] in
/-- **The command line written for `c` asks for `c`.** -/
theorem CommandLine.Valid.of : CommandLine.Of (c.argv program) c := by
  have hnames : ∀ us : List (Bytes × Bytes), (∀ u ∈ us, u ∈ c.users ++ c.admins) →
      Names (us.map fun u => u.1 ++ 58 :: u.2) us := by
    intro us hus
    rw [Names, List.map_map]
    refine List.map_congr_left fun u hu => ?_
    exact splitUser_join (h.named u (hus u hu))
  have hgiven := c.given_argv program
  have hport : ∀ port, port ≤ 65535 → (strtol (decimal port)).1 = port := by
    intro port hle
    rw [strtol_decimal (Nat.lt_of_le_of_lt hle (by decide))]
  refine ⟨?_, ?_, ?_, ?_, ?_, h.someUser, h.someAdmin, ?_, ?_⟩
  · rw [hgiven]
    simp [options, List.filter_map, Function.comp_def]
  · have heq : given (c.argv program) 112 = [decimal c.socksPort] := by
      rw [hgiven]
      simp [options, List.filter_map, Function.comp_def]
    rw [heq]
    exact ⟨hport _ h.socksPort.2, h.socksPort⟩
  · have heq : given (c.argv program) 109 = [decimal c.monitorPort] := by
      rw [hgiven]
      simp [options, List.filter_map, Function.comp_def]
    rw [heq]
    exact ⟨hport _ h.monitorPort.2, h.monitorPort⟩
  · have heq : given (c.argv program) 117 = c.users.map fun u => u.1 ++ 58 :: u.2 := by
      rw [hgiven]
      simp [options, List.filter_map, Function.comp_def]
    rw [heq]
    exact hnames _ fun u hu => List.mem_append_left _ hu
  · have heq : given (c.argv program) 97 = c.admins.map fun u => u.1 ++ 58 :: u.2 := by
      rw [hgiven]
      simp [options, List.filter_map, Function.comp_def]
    rw [heq]
    exact hnames _ fun u hu => List.mem_append_right _ hu
  · have hfst : c.accounts.map Prod.fst = (c.users ++ c.admins).map Prod.fst := by
      simp [accounts, accountsOf, Function.comp_def]
    have hnodup : (c.accounts.map Prod.fst).Nodup := hfst ▸ h.distinct
    refine (List.pairwise_map.1 hnodup).imp_of_mem fun {a b} ha _ hne heq => hne ?_
    rw [← heq, strncpyTerm, List.take_of_length_le (h.sized_account ha).1]
  · rw [accounts, List.length_append, length_accountsOf, length_accountsOf]
    exact h.fits

omit [Inet] in
theorem CommandLine.Valid.entry_eq {a : FlagUser} (ha : a ∈ c.accounts) :
    a.entry = (a.1, (a.2.1, roleOf a.2.2)) := by
  have hsized := h.sized_account ha
  rw [FlagUser.entry, strncpyTerm, strncpyTerm, List.take_of_length_le hsized.1,
    List.take_of_length_le hsized.2]

omit [Inet] in
theorem CommandLine.Valid.mem_tableOf {e : Bytes × (Bytes × StoreRole)} :
    some e ∈ tableOf c.accounts ↔ ∃ a ∈ c.accounts, (a.1, (a.2.1, roleOf a.2.2)) = e := by
  rw [SocksProxy.mem_tableOf]
  refine exists_congr fun a => and_congr_right fun ha => ?_
  rw [h.entry_eq ha]

omit [Inet] in
theorem CommandLine.Valid.distinct_tableOf : SlotTable.Distinct (tableOf c.accounts) := by
  have hnodup : ((c.accounts.map FlagUser.entry).map Prod.fst).Nodup := by
    have heq : (c.accounts.map FlagUser.entry).map Prod.fst =
      (c.users ++ c.admins).map Prod.fst := by
      rw [List.map_map]
      refine (List.map_congr_left fun a ha => congrArg Prod.fst (h.entry_eq ha)).trans ?_
      simp [accounts, accountsOf, Function.comp_def]
    exact heq ▸ h.distinct
  intro i j k v w hi hj
  have hlt : ∀ {i : ℕ} {e : Bytes × (Bytes × StoreRole)}, (tableOf c.accounts)[i]? = some (some e) →
      (c.accounts.map FlagUser.entry)[i]? = some e := by
    intro i e hi
    rw [tableOf, List.getElem?_append] at hi
    split at hi
    · simpa using hi
    · rw [List.getElem?_replicate] at hi
      split at hi <;> cases hi
  have hi' : ((c.accounts.map FlagUser.entry).map Prod.fst)[i]? = some k := by
    rw [List.getElem?_map, hlt hi]
    rfl
  have hj' : ((c.accounts.map FlagUser.entry).map Prod.fst)[j]? = some k := by
    rw [List.getElem?_map, hlt hj]
    rfl
  obtain ⟨hi'', -⟩ := List.getElem?_eq_some_iff.1 hi'
  exact (List.getElem?_inj hi'' hnodup).1 (hi'.trans hj'.symm)

omit [Inet] in
theorem CommandLine.Valid.reduceOption_tableOf : (tableOf c.accounts).reduceOption =
    c.accounts.map fun a => (a.1, (a.2.1, roleOf a.2.2)) := by
  have hentries : (c.accounts.map fun a => some a.entry).reduceOption =
      c.accounts.map FlagUser.entry := by
    rw [List.reduceOption, List.filterMap_map]
    exact congrFun (List.filterMap_eq_map (f := FlagUser.entry)) c.accounts
  rw [tableOf, List.reduceOption_append, List.reduceOption_replicate_none, List.append_nil, hentries]
  exact List.map_congr_left fun a ha => h.entry_eq ha

/-- **What is written into a command line is who can log in.** -/
theorem command_line_round_trip {env : StartEnv} {socksFd monitorFd : Fd}
    (hg : env.Grants socksFd monitorFd) : ∃ p,
      startup (c.argv program) env = .serving c.socksPort c.monitorPort p ∧
      (∀ name password, storeAdminAuthenticate p.world.store name password = .ok ↔
        (name, password) ∈ c.admins) ∧
      (∀ name password, storeUserValidate p.world.store name password = true ↔
        (name, password) ∈ c.users ++ c.admins) ∧
      storeUsers p.world.store =
        c.users.map (fun u => (u.1, StoreRole.user)) ++ c.admins.map fun a => (a.1, StoreRole.admin) := by
  let p := Process.boot socksFd monitorFd (c.accounts.map FlagUser.op)
  have hslots : p.world.store.slots = tableOf c.accounts :=
    slots_boot (h.of program).enrolled socksFd monitorFd
  refine ⟨p, (h.of program).serving hg, fun name password => ?_, fun name password => ?_, ?_⟩
  · have hdistinct : SlotTable.Distinct p.world.store.slots := hslots ▸ h.distinct_tableOf
    rw [storeAdminAuthenticate_slots hdistinct, hslots, h.mem_tableOf]
    simp [CommandLine.accounts, accountsOf, roleOf]
  · rw [storeUserValidate_slots, hslots]
    simp only [h.mem_tableOf]
    constructor
    · rintro ⟨r, a, ha, heq⟩
      cases heq
      simp only [CommandLine.accounts, accountsOf, List.mem_append, List.mem_map] at ha ⊢
      rcases ha with ⟨u, hu, rfl⟩ | ⟨u, hu, rfl⟩
      · exact .inl hu
      · exact .inr hu
    · intro hmem
      rcases List.mem_append.1 hmem with hu | hu
      · exact ⟨_, (name, password, false), List.mem_append_left _ (List.mem_map.2 ⟨_, hu, rfl⟩), rfl⟩
      · exact ⟨_, (name, password, true), List.mem_append_right _ (List.mem_map.2 ⟨_, hu, rfl⟩), rfl⟩
  · rw [storeUsers_eq, hslots, h.reduceOption_tableOf]
    simp [CommandLine.accounts, accountsOf, roleOf, Function.comp_def]

end Valid

end CommandLine

/-! ## One command line -/

section Small

attribute [local instance] InetText.inet

/-- `-p 1080 -m 8080 -u ana:sol -a root:key` -/
def smallCommandLine : CommandLine where
  socksPort := 1080
  monitorPort := 8080
  users := [(ascii "ana", ascii "sol")]
  admins := [(ascii "root", ascii "key")]

/-- The system grants two sockets. -/
def grantingEnv : StartEnv := ⟨true, true, true, some 3, some 4, {}⟩

theorem smallCommandLine_valid : smallCommandLine.Valid :=
  ⟨by decide, by decide, by decide, by decide, by decide, by decide, by decide, by decide⟩

theorem grantingEnv_grants : grantingEnv.Grants 3 4 :=
  ⟨rfl, rfl, rfl, rfl, rfl, by decide, by decide, by decide, rfl, rfl⟩

/-- A server with one user and one administrator. -/
theorem startup_small : startup (smallCommandLine.argv (ascii "server")) grantingEnv =
    .serving 1080 8080 (Process.boot 3 4 (smallCommandLine.accounts.map FlagUser.op)) :=
  (smallCommandLine_valid.of (ascii "server")).serving grantingEnv_grants

theorem command_line_round_trip_small : ∃ p,
    startup (smallCommandLine.argv (ascii "server")) grantingEnv = .serving 1080 8080 p ∧
    (∀ name password, storeAdminAuthenticate p.world.store name password = .ok ↔
      (name, password) ∈ smallCommandLine.admins) ∧
    (∀ name password, storeUserValidate p.world.store name password = true ↔
      (name, password) ∈ smallCommandLine.users ++ smallCommandLine.admins) ∧
    storeUsers p.world.store = smallCommandLine.users.map (fun u => (u.1, StoreRole.user)) ++
      smallCommandLine.admins.map fun a => (a.1, StoreRole.admin) :=
  command_line_round_trip smallCommandLine_valid (ascii "server") grantingEnv_grants

end Small

end SocksProxy
