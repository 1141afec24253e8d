import SocksProxy.Store.Users

/-!
# The directory behind the user table

What the user table is for: a finite map from a name to a password and a role, of at most
`STORE_MAX_USERS` entries.  `Directory` is that map with the three operations the administrators
have and the two questions the servers ask, in their own terms: nothing here searches or counts
slots.

`MonitorStore.Keeps st d` relates a store to its directory.  As long as names and passwords fit
their fields, each operation of the store is the operation of the directory, with the same result
(`Keeps.apply`), and the scans of `store.c` answer what the directory says (`Keeps.validate` and its
companions).
-/

set_option autoImplicit false

namespace SocksProxy

open SlotTable

/-- The users by name, each with a password and a role. -/
abbrev Directory := Finmap fun _ : Bytes => Bytes × StoreRole

namespace Directory

/-- The user is an administrator. -/
def IsAdmin (d : Directory) (name : Bytes) : Prop := ∃ p, d.lookup name = some (p, .admin)

/-- There is an administrator. -/
def HasAdmin (d : Directory) : Prop := ∃ name, d.IsAdmin name

open Classical in
/-- Adding a user. -/
noncomputable def add (d : Directory) (name password : Bytes) (isAdmin : Bool) :
    Directory × StoreUserResult :=
  if name ∈ d then (d, .exists)
  else if d.keys.card = storeMaxUsers then (d, .tableFull)
  else (d.insert name (password, roleOf isAdmin), .ok)

open Classical in
/-- Deleting a user. -/
noncomputable def delete (d : Directory) (name : Bytes) : Directory × StoreUserResult :=
  if name ∉ d then (d, .notFound)
  else if ∀ other, d.IsAdmin other ↔ other = name then (d, .lastAdmin)
  else (d.erase name, .ok)

/-- Giving a user another password. -/
def setPassword (d : Directory) (name newPassword : Bytes) : Directory × StoreUserResult :=
  match d.lookup name with
  | none => (d, .notFound)
  | some (_, role) => (d.insert name (newPassword, role), .ok)

/-- The directory after an operation, and its result. -/
noncomputable def apply (d : Directory) : UserOp → Directory × StoreUserResult
  | .add u p a => d.add u p a
  | .delete u => d.delete u
  | .setPassword u p => d.setPassword u p

/-- Who may administer the server. -/
def authenticate (d : Directory) (name password : Bytes) : StoreAuthResult :=
  match d.lookup name with
  | none => .invalid
  | some (p, role) => if p ≠ password then .invalid else if role = .admin then .ok else .notAdmin

variable {d : Directory} {name : Bytes}

/-- **No operation takes the last administrator away.** -/
theorem HasAdmin.apply (h : d.HasAdmin) (op : UserOp) : (d.apply op).1.HasAdmin := by
  obtain ⟨chief, p, hchief⟩ := h
  have hin : chief ∈ d := Finmap.mem_of_lookup_eq_some hchief
  cases op with
  | add u q a =>
    rw [Directory.apply, add]
    split
    · exact ⟨chief, p, hchief⟩
    · next hu =>
      split
      · exact ⟨chief, p, hchief⟩
      · refine ⟨chief, p, ?_⟩
        rw [Finmap.lookup_insert_of_ne _ fun he => hu (by rw [← he]; exact hin)]
        exact hchief
  | delete u =>
    rw [Directory.apply, delete]
    split
    · exact ⟨chief, p, hchief⟩
    · split
      · exact ⟨chief, p, hchief⟩
      · next hsole =>
        by_cases hu : chief = u
        · -- the deleted user is an administrator, so there is another one
          obtain ⟨other, hother, hne⟩ : ∃ other, d.IsAdmin other ∧ other ≠ u := by
            by_contra hno
            refine hsole fun other => ⟨fun ha => ?_, fun he => ?_⟩
            · by_contra hne
              exact hno ⟨other, ha, hne⟩
            · rw [he, ← hu]
              exact ⟨p, hchief⟩
          obtain ⟨q, hq⟩ := hother
          exact ⟨other, q, by rw [Finmap.lookup_erase_ne hne]; exact hq⟩
        · exact ⟨chief, p, by rw [Finmap.lookup_erase_ne hu]; exact hchief⟩
  | setPassword u q =>
    rw [Directory.apply, setPassword]
    split
    · exact ⟨chief, p, hchief⟩
    · next old role hu =>
      by_cases hcu : chief = u
      · subst hcu
        rw [hchief] at hu
        cases hu
        exact ⟨chief, q, Finmap.lookup_insert d⟩
      · exact ⟨chief, p, by rw [Finmap.lookup_insert_of_ne _ hcu]; exact hchief⟩

end Directory

/-! ## The store keeps a directory -/

/-- Names and passwords fit their fields. -/
def UserOp.Sized : UserOp → Prop
  | .add u p _ => u.length ≤ storeMaxUsername ∧ p.length ≤ storeMaxPassword
  | .delete u => u.length ≤ storeMaxUsername
  | .setPassword u p => u.length ≤ storeMaxUsername ∧ p.length ≤ storeMaxPassword

instance : DecidablePred UserOp.Sized
  | .add u p _ => inferInstanceAs (Decidable (u.length ≤ _ ∧ p.length ≤ _))
  | .delete u => inferInstanceAs (Decidable (u.length ≤ _))
  | .setPassword u p => inferInstanceAs (Decidable (u.length ≤ _ ∧ p.length ≤ _))

/-- The table of the store stands for the directory. -/
structure MonitorStore.Keeps (st : MonitorStore) (d : Directory) : Prop where
  repr : Repr st.slots d
  size : st.slots.length = storeMaxUsers
  count : st.userCount = d.keys.card

theorem storeCreate_keeps : storeCreate.Keeps ∅ where
  repr := by rw [slots_storeCreate]; exact .empty storeMaxUsers
  size := by rw [slots_storeCreate, List.length_replicate]
  count := by rw [Finmap.keys_empty]; rfl

theorem strncpyTerm_of_le {s : Bytes} {n : ℕ} (h : s.length ≤ n) : strncpyTerm s n = s :=
  List.take_of_length_le h

namespace MonitorStore.Keeps

variable {st : MonitorStore} {d : Directory} {name : Bytes}

/-- A name is found in the table when it is in the directory. -/
theorem find_none (h : st.Keeps d) (hf : storeFindUser st name = none) : name ∉ d := by
  rw [storeFindUser_eq] at hf
  rcases h.repr.findIdx? name with ⟨-, hno⟩ | ⟨i, v, hi, -⟩
  · exact Finmap.lookup_eq_none.1 hno
  · rw [hf] at hi
    cases hi

theorem find_some (h : st.Keeps d) (hf : (storeFindUser st name).isSome = true) : name ∈ d := by
  rw [storeFindUser_eq] at hf
  rcases h.repr.findIdx? name with ⟨hno, -⟩ | ⟨i, v, -, -, hv⟩
  · rw [hno] at hf
    cases hf
  · exact Finmap.mem_of_lookup_eq_some hv

/-- The table is full when the directory is. -/
theorem full_iff (h : st.Keeps d) : d.keys.card = storeMaxUsers ↔ none ∉ st.slots := by
  rw [← h.size, h.repr.card_eq_length_iff]

/-- The only administrator, by the count and by the directory. -/
theorem sole_iff (h : st.Keeps d) {i : ℕ} {p : Bytes} {r : StoreRole}
    (hi : st.slots[i]? = some (some (name, (p, r)))) :
    (r = .admin ∧ storeAdminCount st ≤ 1) ↔ ∀ other, d.IsAdmin other ↔ other = name := by
  have hlookup := h.repr.lookup_eq hi
  constructor
  · rintro ⟨rfl, hle⟩ other
    rw [storeAdminCount_eq] at hle
    constructor
    · rintro ⟨q, hq⟩
      exact (h.repr.countP_le_one_iff (p := fun e => e.2 == StoreRole.admin) hi rfl).1 hle _ _ hq
        rfl
    · rintro rfl
      exact ⟨p, hlookup⟩
  · intro hsole
    obtain ⟨q, hq⟩ := (hsole name).2 rfl
    rw [hlookup] at hq
    cases hq
    refine ⟨rfl, ?_⟩
    rw [storeAdminCount_eq]
    refine (h.repr.countP_le_one_iff (p := fun e => e.2 == StoreRole.admin) hi rfl).2 ?_
    rintro other ⟨q, r⟩ hother hr
    obtain rfl : r = .admin := by simpa using hr
    exact (hsole other).1 ⟨q, hother⟩

/-! ## The operations -/

/-- What a step of the store and the same step of the directory have in common. -/
structure Same (st : MonitorStore) (r : MonitorStore × StoreUserResult)
    (s : Directory × StoreUserResult) : Prop where
  keeps : r.1.Keeps s.1
  result : r.2 = s.2
  unchanged : r.2 ≠ .ok → r.1 = st

theorem refused (h : st.Keeps d) (res : StoreUserResult) : Same st (st, res) (d, res) where
  keeps := h
  result := rfl
  unchanged := fun _ => rfl

theorem add (h : st.Keeps d) {password : Bytes} (isAdmin : Bool)
    (hn : name.length ≤ storeMaxUsername) (hp : password.length ≤ storeMaxPassword) :
    Same st (storeUserAdd st name password isAdmin) (d.add name password isAdmin) := by
  rw [Directory.add]
  rcases storeUserAdd_cases st name password isAdmin with
    ⟨hf, heq⟩ | ⟨hf, hfull, heq⟩ | ⟨hf, i, hfree, hok, hslots, hcount⟩
  · rw [heq, if_pos (h.find_some hf)]
    exact h.refused _
  · rw [heq, if_neg (h.find_none hf), if_pos (h.full_iff.2 hfull)]
    exact h.refused _
  · have hnew := h.find_none hf
    rw [if_neg hnew, if_neg fun hfull => h.full_iff.1 hfull (List.mem_of_getElem? hfree)]
    rw [strncpyTerm_of_le hn, strncpyTerm_of_le hp] at hslots
    refine ⟨⟨?_, ?_, ?_⟩, hok, fun hne => absurd hok hne⟩
    · rw [hslots]
      exact h.repr.insert hfree hnew _
    · rw [hslots, List.length_set, h.size]
    · rw [hcount, h.count, keys_insert,
        Finset.card_insert_of_notMem fun hmem => hnew (Finmap.mem_keys.1 hmem)]

theorem delete (h : st.Keeps d) (name : Bytes) :
    Same st (storeUserDelete st name) (d.delete name) := by
  rw [Directory.delete]
  rcases storeUserDelete_cases st name with ⟨hf, heq⟩ | ⟨i, p, r, -, hi, hcase⟩
  · rw [heq, if_pos (h.find_none hf)]
    exact h.refused _
  · have hin : name ∈ d := Finmap.mem_of_lookup_eq_some (h.repr.lookup_eq hi)
    rw [if_neg (not_not_intro hin)]
    rcases hcase with ⟨hr, hle, heq⟩ | ⟨hmore, hok, hslots, hcount⟩
    · rw [heq, if_pos ((h.sole_iff hi).1 ⟨hr, hle⟩)]
      exact h.refused _
    · rw [if_neg fun hsole => hmore ((h.sole_iff hi).2 hsole)]
      refine ⟨⟨?_, ?_, ?_⟩, hok, fun hne => absurd hok hne⟩
      · rw [hslots]
        exact h.repr.erase hi
      · rw [hslots, List.length_set, h.size]
      · rw [hcount, h.count, Finmap.keys_erase, Finset.card_erase_of_mem (Finmap.mem_keys.2 hin)]

theorem setPassword (h : st.Keeps d) (name : Bytes) {newPassword : Bytes}
    (hp : newPassword.length ≤ storeMaxPassword) :
    Same st (storeUserSetPassword st name newPassword) (d.setPassword name newPassword) := by
  rw [Directory.setPassword]
  rcases storeUserSetPassword_cases st name newPassword with
    ⟨hf, heq⟩ | ⟨i, p, r, -, hi, hok, hslots, hcount⟩
  · rw [heq, Finmap.lookup_eq_none.2 (h.find_none hf)]
    exact h.refused _
  · have hin : name ∈ d := Finmap.mem_of_lookup_eq_some (h.repr.lookup_eq hi)
    rw [h.repr.lookup_eq hi]
    rw [strncpyTerm_of_le hp] at hslots
    refine ⟨⟨?_, ?_, ?_⟩, hok, fun hne => absurd hok hne⟩
    · rw [hslots]
      exact h.repr.replace hi _
    · rw [hslots, List.length_set, h.size]
    · rw [hcount, h.count, keys_insert, Finset.insert_eq_of_mem (Finmap.mem_keys.2 hin)]

/-- **Each operation of the store is the operation of the directory.** -/
theorem apply (h : st.Keeps d) {op : UserOp} (hop : op.Sized) :
    Same st (op.apply st) (d.apply op) := by
  cases op with
  | add u p a => exact h.add a hop.1 hop.2
  | delete u => exact h.delete u
  | setPassword u p => exact h.setPassword u hop.2

/-! ## The questions -/

theorem lookup_iff (h : st.Keeps d) {p : Bytes} {r : StoreRole} :
    d.lookup name = some (p, r) ↔
      ∃ u ∈ st.users, u.used = true ∧ u.username = name ∧ u.password = p ∧ u.role = r := by
  rw [h.repr.lookup, mem_slots]

theorem validate (h : st.Keeps d) (password : Bytes) :
    storeUserValidate st name password = true ↔ ∃ r, d.lookup name = some (password, r) := by
  simp only [storeUserValidate, List.any_eq_true, Bool.and_eq_true, beq_iff_eq, h.lookup_iff]
  constructor
  · rintro ⟨u, hu, ⟨hused, hn⟩, hp⟩
    exact ⟨u.role, u, hu, hused, hn, hp, rfl⟩
  · rintro ⟨r, u, hu, hused, hn, hp, -⟩
    exact ⟨u, hu, ⟨hused, hn⟩, hp⟩

theorem authenticate (h : st.Keeps d) (password : Bytes) :
    storeAdminAuthenticate st name password = d.authenticate name password := by
  rw [storeAdminAuthenticate, Directory.authenticate]
  cases hf : st.users.find? fun u => u.used && u.username == name with
  | none =>
    have hno : d.lookup name = none := by
      refine Option.eq_none_iff_forall_ne_some.2 fun v hv => ?_
      obtain ⟨u, hu, hused, hn, -⟩ := h.lookup_iff.1 hv
      have := List.find?_eq_none.1 hf u hu
      simp [hused, hn] at this
    rw [hno]
  | some u =>
    have hp := List.find?_some hf
    rw [Bool.and_eq_true, beq_iff_eq] at hp
    have hlookup : d.lookup name = some (u.password, u.role) :=
      h.lookup_iff.2 ⟨u, List.mem_of_find?_eq_some hf, hp.1, hp.2, rfl, rfl⟩
    rw [hlookup]

theorem exists_iff (h : st.Keeps d) : storeUserExists st name = true ↔ name ∈ d := by
  rw [storeUserExists_eq]
  refine ⟨h.find_some, fun hin => ?_⟩
  by_contra hno
  rw [Bool.not_eq_true, Option.isSome_eq_false_iff, Option.isNone_iff_eq_none] at hno
  exact h.find_none hno hin

theorem listed (h : st.Keeps d) :
    ((storeUsers st).map Prod.fst).Nodup ∧
      ∀ u r, (u, r) ∈ storeUsers st ↔ ∃ p, d.lookup u = some (p, r) := by
  obtain ⟨hnodup, hmem⟩ := h.repr.listed
  rw [storeUsers_eq]
  refine ⟨by rw [List.map_map]; exact hnodup, fun u r => ?_⟩
  rw [List.mem_map]
  constructor
  · rintro ⟨⟨k, p, r'⟩, he, heq⟩
    cases heq
    exact ⟨p, (hmem _ _).1 he⟩
  · rintro ⟨p, hp⟩
    exact ⟨(u, (p, r)), (hmem _ _).2 hp, rfl⟩

end MonitorStore.Keeps

end SocksProxy
