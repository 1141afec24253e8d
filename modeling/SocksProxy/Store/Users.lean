import SocksProxy.Lib.Runs
import SocksProxy.Lib.SlotTable
import SocksProxy.Store.Queries

/-!
# The user table

The users sit in an array of slots that is filled from the front and left with holes by deletions;
a freed slot keeps its role and is written over by the next user that gets it.  `MonitorStore.slots`
is that array as a `SlotTable`, in which a free slot holds nothing.

A user operation either leaves the store as it is or rewrites one slot: `storeUserAdd_cases`,
`storeUserDelete_cases` and `storeUserSetPassword_cases` say when it does which, in terms of the
slots alone.
-/

set_option autoImplicit false

namespace SocksProxy

/-- A user operation. -/
inductive UserOp where
  /-- `store_user_add`. -/
  | add (username password : Bytes) (isAdmin : Bool)
  /-- `store_user_delete`. -/
  | delete (username : Bytes)
  /-- `store_user_set_password`. -/
  | setPassword (username newPassword : Bytes)
  deriving DecidableEq

/-- The store after a user operation, and its result. -/
def UserOp.apply (st : MonitorStore) : UserOp → MonitorStore × StoreUserResult
  | .add u p a => storeUserAdd st u p a
  | .delete u => storeUserDelete st u
  | .setPassword u p => storeUserSetPassword st u p

/-- A run of the store is a list of user operations. -/
def userStep (st : MonitorStore) (op : UserOp) : Except Empty MonitorStore := .ok (op.apply st).1

/-- What a user slot holds. -/
def StoreUser.entry (u : StoreUser) : Option (Bytes × (Bytes × StoreRole)) :=
  if u.used then some (u.username, (u.password, u.role)) else none

/-- The user table. -/
def MonitorStore.slots (st : MonitorStore) : List (Option (Bytes × (Bytes × StoreRole))) :=
  st.users.map StoreUser.entry

/-- The role `store_user_add` gives. -/
def roleOf (isAdmin : Bool) : StoreRole := if isAdmin then .admin else .user

variable {st : MonitorStore}

theorem slots_storeCreate : storeCreate.slots = List.replicate storeMaxUsers none := by
  rw [MonitorStore.slots, storeCreate, List.map_replicate]
  rfl

theorem getElem?_slots {i : ℕ} {e : Option (Bytes × (Bytes × StoreRole))} :
    st.slots[i]? = some e ↔ ∃ u, st.users[i]? = some u ∧ u.entry = e := by
  rw [MonitorStore.slots, List.getElem?_map, Option.map_eq_some_iff]

theorem entry_eq_some {u : StoreUser} {e : Bytes × (Bytes × StoreRole)} :
    u.entry = some e ↔ u.used = true ∧ (u.username, (u.password, u.role)) = e := by
  rw [StoreUser.entry]
  cases u.used <;> simp

theorem mem_slots {u p : Bytes} {r : StoreRole} : some (u, (p, r)) ∈ st.slots ↔
    ∃ w ∈ st.users, w.used = true ∧ w.username = u ∧ w.password = p ∧ w.role = r := by
  rw [MonitorStore.slots, List.mem_map]
  constructor
  · rintro ⟨w, hw, he⟩
    obtain ⟨hused, he⟩ := entry_eq_some.1 he
    cases he
    exact ⟨w, hw, hused, rfl, rfl, rfl⟩
  · rintro ⟨w, hw, hused, rfl, rfl, rfl⟩
    exact ⟨w, hw, entry_eq_some.2 ⟨hused, rfl⟩⟩

/-! ## The scans, as searches of the slots -/

theorem any_entry (u : StoreUser) (name : Bytes) :
    (u.entry.any fun e => e.1 == name) = (u.used && u.username == name) := by
  rw [StoreUser.entry]
  cases u.used <;> rfl

theorem isNone_entry (u : StoreUser) : u.entry.isNone = !u.used := by
  rw [StoreUser.entry]
  cases u.used <;> rfl

theorem storeFindUser_eq (st : MonitorStore) (name : Bytes) :
    storeFindUser st name = st.slots.findIdx? fun o => o.any fun e => e.1 == name := by
  rw [storeFindUser, MonitorStore.slots, List.findIdx?_map]
  congr 1
  funext u
  exact (any_entry u name).symm

theorem storeUserExists_eq (st : MonitorStore) (name : Bytes) :
    storeUserExists st name = (storeFindUser st name).isSome := by
  rw [storeUserExists, storeFindUser, List.findIdx?_isSome]

theorem storeAdminCount_eq (st : MonitorStore) : storeAdminCount st =
    st.slots.countP fun o => o.any fun e => e.2.2 == StoreRole.admin := by
  rw [storeAdminCount, MonitorStore.slots, List.countP_map]
  congr 1
  funext u
  rw [Function.comp, StoreUser.entry]
  cases u.used <;> rfl

theorem storeUsers_eq (st : MonitorStore) :
    storeUsers st = st.slots.reduceOption.map fun e => (e.1, e.2.2) := by
  rw [storeUsers, MonitorStore.slots]
  induction st.users with
  | nil => rfl
  | cons u users ih =>
    rw [List.map_cons, StoreUser.entry]
    cases hu : u.used with
    | true =>
      rw [if_pos rfl, List.reduceOption_cons_of_some, List.filter_cons_of_pos hu, List.map_cons,
        List.map_cons, ih]
    | false =>
      rw [if_neg Bool.false_ne_true, List.reduceOption_cons_of_none,
        List.filter_cons_of_neg (by rw [hu]; exact Bool.false_ne_true), ih]

/-! ## What the operations do to the slots -/

/-- A free slot is found or there is none. -/
theorem findIdx?_unused (st : MonitorStore) :
    (st.users.findIdx? (!·.used) = none ∧ none ∉ st.slots) ∨
    ∃ i, st.users.findIdx? (!·.used) = some i ∧ st.slots[i]? = some none := by
  have heq : st.users.findIdx? (!·.used) = st.slots.findIdx? Option.isNone := by
    rw [MonitorStore.slots, List.findIdx?_map]
    congr 1
    funext u
    exact (isNone_entry u).symm
  rw [heq]
  cases hf : st.slots.findIdx? Option.isNone with
  | none =>
    left
    refine ⟨rfl, fun hmem => ?_⟩
    have := List.findIdx?_eq_none_iff.1 hf _ hmem
    cases this
  | some i =>
    right
    obtain ⟨hi, hp, -⟩ := List.findIdx?_eq_some_iff_getElem.1 hf
    refine ⟨i, rfl, ?_⟩
    rw [List.getElem?_eq_getElem hi, Option.isNone_iff_eq_none.1 hp]

theorem storeUserAdd_cases (st : MonitorStore) (name password : Bytes) (isAdmin : Bool) :
    ((storeFindUser st name).isSome = true ∧
      storeUserAdd st name password isAdmin = (st, .exists)) ∨
    (storeFindUser st name = none ∧ none ∉ st.slots ∧
      storeUserAdd st name password isAdmin = (st, .tableFull)) ∨
    (storeFindUser st name = none ∧ ∃ i, st.slots[i]? = some none ∧
      (storeUserAdd st name password isAdmin).2 = .ok ∧
      (storeUserAdd st name password isAdmin).1.slots =
        st.slots.set i (some (strncpyTerm name storeMaxUsername,
          (strncpyTerm password storeMaxPassword, roleOf isAdmin))) ∧
      (storeUserAdd st name password isAdmin).1.userCount = st.userCount + 1) := by
  rw [storeUserAdd]
  cases hf : storeFindUser st name with
  | some j => exact .inl ⟨rfl, rfl⟩
  | none =>
    rw [Option.isSome_none, if_neg Bool.false_ne_true]
    rcases findIdx?_unused st with ⟨hno, hfull⟩ | ⟨i, hi, hslot⟩
    · rw [hno]
      exact .inr (.inl ⟨rfl, hfull, rfl⟩)
    · rw [hi]
      exact .inr (.inr ⟨rfl, i, hslot, rfl, List.map_set, rfl⟩)

/-- The slot of a user that is found. -/
theorem storeFindUser_eq_some {name : Bytes} {i : ℕ} (h : storeFindUser st name = some i) :
    ∃ u, st.users[i]? = some u ∧ u.used = true ∧ u.username = name := by
  obtain ⟨hi, hp, -⟩ := List.findIdx?_eq_some_iff_getElem.1 h
  rw [Bool.and_eq_true, beq_iff_eq] at hp
  exact ⟨st.users[i], List.getElem?_eq_getElem hi, hp⟩

theorem storeUserDelete_cases (st : MonitorStore) (name : Bytes) :
    (storeFindUser st name = none ∧ storeUserDelete st name = (st, .notFound)) ∨
    ∃ i p r, storeFindUser st name = some i ∧ st.slots[i]? = some (some (name, (p, r))) ∧
      (r = .admin ∧ storeAdminCount st ≤ 1 ∧ storeUserDelete st name = (st, .lastAdmin) ∨
        ¬ (r = .admin ∧ storeAdminCount st ≤ 1) ∧ (storeUserDelete st name).2 = .ok ∧
        (storeUserDelete st name).1.slots = st.slots.set i none ∧
        (storeUserDelete st name).1.userCount = st.userCount - 1) := by
  rw [storeUserDelete]
  cases hf : storeFindUser st name with
  | none => exact .inl ⟨rfl, rfl⟩
  | some i =>
    right
    obtain ⟨u, hu, hused, hname⟩ := storeFindUser_eq_some hf
    refine ⟨i, u.password, u.role, rfl,
      getElem?_slots.2 ⟨u, hu, entry_eq_some.2 ⟨hused, by rw [hname]⟩⟩, ?_⟩
    dsimp only
    rw [hu, Option.map_some]
    by_cases hlast : u.role = .admin ∧ storeAdminCount st ≤ 1
    · rw [if_pos ⟨congrArg some hlast.1, hlast.2⟩]
      exact .inl ⟨hlast.1, hlast.2, rfl⟩
    · rw [if_neg fun h => hlast ⟨Option.some.inj h.1, h.2⟩]
      refine .inr ⟨hlast, rfl, ?_, rfl⟩
      rw [MonitorStore.slots, modify_eq_set_of_getElem? hu, List.map_set]
      rfl

theorem storeUserSetPassword_cases (st : MonitorStore) (name newPassword : Bytes) :
    (storeFindUser st name = none ∧ storeUserSetPassword st name newPassword = (st, .notFound)) ∨
    ∃ i p r, storeFindUser st name = some i ∧ st.slots[i]? = some (some (name, (p, r))) ∧
      (storeUserSetPassword st name newPassword).2 = .ok ∧
      (storeUserSetPassword st name newPassword).1.slots =
        st.slots.set i (some (name, (strncpyTerm newPassword storeMaxPassword, r))) ∧
      (storeUserSetPassword st name newPassword).1.userCount = st.userCount := by
  rw [storeUserSetPassword]
  cases hf : storeFindUser st name with
  | none => exact .inl ⟨rfl, rfl⟩
  | some i =>
    right
    obtain ⟨u, hu, hused, hname⟩ := storeFindUser_eq_some hf
    refine ⟨i, u.password, u.role, rfl,
      getElem?_slots.2 ⟨u, hu, entry_eq_some.2 ⟨hused, by rw [hname]⟩⟩, rfl, ?_, rfl⟩
    dsimp only
    rw [MonitorStore.slots, modify_eq_set_of_getElem? hu, List.map_set]
    congr 1
    rw [StoreUser.entry, if_pos hused, hname]

/-- A user that is not found has no slot. -/
theorem storeFindUser_eq_none {name : Bytes} :
    storeFindUser st name = none ↔ ∀ e, some (name, e) ∉ st.slots := by
  rw [storeFindUser_eq, List.findIdx?_eq_none_iff]
  constructor
  · intro h e hmem
    have := h _ hmem
    simp at this
  · intro h o ho
    rw [← Bool.not_eq_true]
    intro hp
    obtain ⟨⟨k, e⟩, rfl, hk⟩ := (Option.any_eq_true _ _).1 hp
    obtain rfl : k = name := by simpa using hk
    exact h e ho

end SocksProxy
