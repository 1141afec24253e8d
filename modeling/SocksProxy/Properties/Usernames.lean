import SocksProxy.Store.Users

/-!
# The names in the user table

`store_user_add` looks for the whole name among the names it stored, and stores the first
`STORE_MAX_USERNAME` bytes of it.  A longer name is therefore never found, and once its first bytes
are taken it takes a second slot under the same name.  The two checks of a password then disagree:
`store_user_validate` is content with any of the slots, while `store_admin_authenticate` looks at
the first one only.

The names stay distinct, and the checks agree, exactly in the runs in which no such name is added.
-/

set_option autoImplicit false

namespace SocksProxy

open SlotTable

/-- The names of the used slots are pairwise distinct. -/
def MonitorStore.NamesDistinct (st : MonitorStore) : Prop :=
  ∀ (i j : ℕ) (u w : StoreUser), st.users[i]? = some u → st.users[j]? = some w →
    u.used = true → w.used = true → u.username = w.username → i = j

/-- The check of the proxy and the check of the monitor agree. -/
def MonitorStore.ChecksAgree (st : MonitorStore) : Prop :=
  ∀ username password, storeUserValidate st username password = true ↔
    storeAdminAuthenticate st username password = .ok ∨
      storeAdminAuthenticate st username password = .notAdmin

/-- A name too long for its field is added only while nobody has its first bytes. -/
def Unclaimed (st : MonitorStore) : UserOp → Prop
  | .add name _ _ => storeMaxUsername < name.length → (∃ u ∈ st.users, u.used = false) →
      storeUserExists st (strncpyTerm name storeMaxUsername) = false
  | _ => True

/-- Every stored name fits its field. -/
def MonitorStore.NamesFit (st : MonitorStore) : Prop :=
  ∀ name e, some (name, e) ∈ st.slots → name.length ≤ storeMaxUsername

variable {st : MonitorStore}

theorem namesDistinct_iff : st.NamesDistinct ↔ Distinct st.slots := by
  constructor
  · intro h i j k v w hi hj
    obtain ⟨u, hu, he⟩ := getElem?_slots.1 hi
    obtain ⟨u', hu', he'⟩ := getElem?_slots.1 hj
    obtain ⟨hused, he⟩ := entry_eq_some.1 he
    obtain ⟨hused', he'⟩ := entry_eq_some.1 he'
    exact h i j u u' hu hu' hused hused'
      ((congrArg Prod.fst he).trans (congrArg Prod.fst he').symm)
  · intro h i j u w hi hj hu hw hname
    refine h i j u.username (u.password, u.role) (w.password, w.role)
      (getElem?_slots.2 ⟨u, hi, entry_eq_some.2 ⟨hu, rfl⟩⟩) ?_
    rw [hname]
    exact getElem?_slots.2 ⟨w, hj, entry_eq_some.2 ⟨hw, rfl⟩⟩

theorem free_iff : (∃ u ∈ st.users, u.used = false) ↔ none ∈ st.slots := by
  rw [MonitorStore.slots, List.mem_map]
  refine exists_congr fun u => and_congr_right fun _ => ?_
  rw [StoreUser.entry]
  cases u.used <;> simp

theorem storeUserExists_eq_false {name : Bytes} :
    storeUserExists st name = false ↔ ∀ e, some (name, e) ∉ st.slots := by
  rw [storeUserExists_eq, ← storeFindUser_eq_none, Option.isSome_eq_false_iff,
    Option.isNone_iff_eq_none]

/-- With distinct names the first slot of a name is the only one. -/
theorem checksAgree_of_distinct (h : Distinct st.slots) : st.ChecksAgree := by
  intro username password
  have hany : storeUserValidate st username password = true ↔
      ∃ u ∈ st.users, u.used = true ∧ u.username = username ∧ u.password = password := by
    simp only [storeUserValidate, List.any_eq_true, Bool.and_eq_true, beq_iff_eq, and_assoc]
  rw [hany, storeAdminAuthenticate]
  cases hf : st.users.find? fun u => u.used && u.username == username with
  | none =>
    refine ⟨fun ⟨u, hu, hused, hname, _⟩ => ?_, fun hr => ?_⟩
    · have := List.find?_eq_none.1 hf u hu
      simp [hused, hname] at this
    · rcases hr with hr | hr <;> cases hr
  | some first =>
    have hp := List.find?_some hf
    rw [Bool.and_eq_true, beq_iff_eq] at hp
    obtain ⟨i, hi⟩ := List.mem_iff_getElem?.1 (List.mem_of_find?_eq_some hf)
    have hiff : (∃ u ∈ st.users, u.used = true ∧ u.username = username ∧
        u.password = password) ↔ first.password = password := by
      constructor
      · rintro ⟨u, hu, hused, hname, hpass⟩
        obtain ⟨j, hj⟩ := List.mem_iff_getElem?.1 hu
        obtain rfl := namesDistinct_iff.2 h i j first u hi hj hp.1 hused (by rw [hp.2, hname])
        rw [hi] at hj
        cases hj
        exact hpass
      · intro hpass
        exact ⟨first, List.mem_of_getElem? hi, hp.1, hp.2, hpass⟩
    rw [hiff]
    dsimp only
    by_cases hpass : first.password = password
    · rw [if_neg (not_not_intro hpass)]
      split <;> simp [hpass]
    · rw [if_pos hpass]
      simp [hpass]

/-! ## One operation -/

theorem MonitorStore.NamesFit.apply (h : st.NamesFit) (op : UserOp) : (op.apply st).1.NamesFit := by
  -- a slot is only ever given a name that fits
  have hset : ∀ (st' : MonitorStore) (i : ℕ) (o : Option (Bytes × (Bytes × StoreRole))),
      (∀ name e, o = some (name, e) → name.length ≤ storeMaxUsername) →
      st'.slots = st.slots.set i o → st'.NamesFit := by
    intro st' i o ho heq name e hmem
    rw [heq] at hmem
    rcases List.mem_or_eq_of_mem_set hmem with hmem | he
    · exact h name e hmem
    · exact ho name e he.symm
  cases op with
  | add name password isAdmin =>
    rw [UserOp.apply]
    rcases storeUserAdd_cases st name password isAdmin with
      ⟨-, heq⟩ | ⟨-, -, heq⟩ | ⟨-, i, -, -, hslots, -⟩
    · rw [heq]
      exact h
    · rw [heq]
      exact h
    · refine hset _ _ _ (fun name' e he => ?_) hslots
      cases he
      exact List.length_take_le _ _
  | delete name =>
    rw [UserOp.apply]
    rcases storeUserDelete_cases st name with
      ⟨-, heq⟩ | ⟨i, p, r, -, -, ⟨-, -, heq⟩ | ⟨-, -, hslots, -⟩⟩
    · rw [heq]
      exact h
    · rw [heq]
      exact h
    · exact hset _ _ _ (fun _ _ he => by cases he) hslots
  | setPassword name newPassword =>
    rw [UserOp.apply]
    rcases storeUserSetPassword_cases st name newPassword with
      ⟨-, heq⟩ | ⟨i, p, r, -, hi, -, hslots, -⟩
    · rw [heq]
      exact h
    · refine hset _ _ _ (fun name' e he => ?_) hslots
      cases he
      exact h name _ (List.mem_of_getElem? hi)

/-- **An operation keeps the names distinct exactly when it adds no claimed name.** -/
theorem distinct_apply_iff (h : Distinct st.slots) (hfit : st.NamesFit) (op : UserOp) :
    Distinct (op.apply st).1.slots ↔ Unclaimed st op := by
  cases op with
  | add name password isAdmin =>
    rw [UserOp.apply, Unclaimed]
    rcases storeUserAdd_cases st name password isAdmin with
      ⟨hf, heq⟩ | ⟨-, hfull, heq⟩ | ⟨hf, i, hi, -, hslots, -⟩
    · -- a name that is found is not too long
      rw [heq]
      refine ⟨fun _ hlong => ?_, fun _ => h⟩
      by_contra hno
      rw [Option.isSome_iff_exists] at hf
      obtain ⟨j, hj⟩ := hf
      obtain ⟨u, hu, hused, rfl⟩ := storeFindUser_eq_some hj
      have hin : some (u.username, (u.password, u.role)) ∈ st.slots :=
        mem_slots.2 ⟨u, List.mem_of_getElem? hu, hused, rfl, rfl, rfl⟩
      exact absurd (hfit _ _ hin) (by omega)
    · rw [heq]
      exact ⟨fun _ _ hfree => absurd (free_iff.1 hfree) hfull, fun _ => h⟩
    · rw [hslots, storeUserExists_eq_false]
      constructor
      · intro hd _ _ e hmem
        obtain ⟨j, hj⟩ := List.mem_iff_getElem?.1 hmem
        have hji : i ≠ j := fun hij => by
          rw [← hij, hi] at hj
          cases hj
        have hlt := (List.getElem?_eq_some_iff.1 hi).1
        exact hji (hd i j _ _ e (List.getElem?_set_self hlt)
          (by rw [List.getElem?_set_ne hji]; exact hj))
      · intro hun
        refine h.set fun k v he j w hj => ?_
        cases he
        have hmem := List.mem_of_getElem? hj
        rcases Nat.lt_or_ge storeMaxUsername name.length with hlong | hshort
        · exact absurd hmem (hun hlong (free_iff.2 (List.mem_of_getElem? hi)) w)
        · rw [show strncpyTerm name storeMaxUsername = name from
            List.take_of_length_le hshort] at hmem
          exact absurd hmem (storeFindUser_eq_none.1 hf w)
  | delete name =>
    refine ⟨fun _ => trivial, fun _ => ?_⟩
    rw [UserOp.apply]
    rcases storeUserDelete_cases st name with
      ⟨-, heq⟩ | ⟨i, p, r, -, -, ⟨-, -, heq⟩ | ⟨-, -, hslots, -⟩⟩
    · rw [heq]
      exact h
    · rw [heq]
      exact h
    · rw [hslots]
      exact h.set fun _ _ he => by cases he
  | setPassword name newPassword =>
    refine ⟨fun _ => trivial, fun _ => ?_⟩
    rw [UserOp.apply]
    rcases storeUserSetPassword_cases st name newPassword with
      ⟨-, heq⟩ | ⟨i, p, r, -, hi, -, hslots, -⟩
    · rw [heq]
      exact h
    · rw [hslots]
      refine h.set fun k v he j w hj => ?_
      cases he
      exact h j i name w (p, r) hj hi

/-! ## Runs -/

theorem namesDistinct_along {ops : List UserOp} (h : Distinct st.slots) (hfit : st.NamesFit) :
    Visits userStep (fun st => Distinct st.slots) st ops ↔ Along userStep Unclaimed st ops := by
  induction ops generalizing st with
  | nil => exact iff_of_true h trivial
  | cons op ops ih =>
    have hop := distinct_apply_iff h hfit op
    constructor
    · rintro ⟨-, hrest⟩
      have hnext := hrest _ rfl
      refine ⟨hop.1 hnext.head, fun st' hs => ?_⟩
      cases hs
      exact (ih hnext.head (hfit.apply op)).1 hnext
    · rintro ⟨hc, hrest⟩
      refine ⟨h, fun st' hs => ?_⟩
      cases hs
      exact (ih (hop.2 hc) (hfit.apply op)).2 (hrest _ rfl)

/-- **The names stay distinct, and the checks agree, exactly as long as no claimed name is
added.** -/
theorem usernames_distinct_iff (ops : List UserOp) :
    Visits userStep (fun st => st.NamesDistinct ∧ st.ChecksAgree) storeCreate ops ↔
      Along userStep Unclaimed storeCreate ops := by
  have hempty : ∀ e, some e ∉ storeCreate.slots := by
    intro e hmem
    rw [slots_storeCreate] at hmem
    cases (List.mem_replicate.1 hmem).2
  rw [← namesDistinct_along (by rw [slots_storeCreate]; exact distinct_replicate _)
    fun name e hmem => absurd hmem (hempty _)]
  constructor
  · exact fun h => h.mono fun st hst => namesDistinct_iff.1 hst.1
  · exact fun h => h.mono fun st hst => ⟨namesDistinct_iff.2 hst, checksAgree_of_distinct hst⟩

/-- A name of 65 bytes. -/
def longName : Bytes := List.replicate 65 97

/-- The name is added twice, with different passwords. -/
def claimedOps : List UserOp := [.add longName [49] true, .add longName [50] false]

theorem usernames_repeat : ∃ st, run userStep storeCreate claimedOps = .ok st ∧
    ¬ st.NamesDistinct ∧ storeUserValidate st (longName.take 64) [50] = true ∧
    storeAdminAuthenticate st (longName.take 64) [50] = .invalid := by
  refine ⟨_, rfl, fun h => ?_, by decide +kernel, by decide +kernel⟩
  have : 0 = 1 := h 0 1 ⟨true, longName.take 64, [49], .admin⟩ ⟨true, longName.take 64, [50], .user⟩
    (by decide +kernel) (by decide +kernel) rfl rfl rfl
  cases this

end SocksProxy
