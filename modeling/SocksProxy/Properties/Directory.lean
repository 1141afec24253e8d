import SocksProxy.Store.Directory

/-!
# The user table is a finite map

For any sequence of user operations whose names and passwords fit their fields, the slot table goes
through the states of the directory it stands for: an addition, a deletion or a change of password
has the result the directory gives and does to the table what it does to the directory, one that is
refused changes nothing at all, and every scan of the table answers as the directory does.  Once
there is an administrator there always is one.
-/

set_option autoImplicit false

namespace SocksProxy

open SlotTable

/-- The directory the table stands for. -/
def MonitorStore.directory (st : MonitorStore) : Directory := toMap st.slots

/-- What `store_users_foreach` shows a callback that never stops it. -/
def usersShown (st : MonitorStore) : List (Bytes × StoreRole) :=
  storeUsersForeach st (fun u seen => (seen ++ [u], true)) []

/-- The scans of a store answer as its directory does. -/
structure MonitorStore.Mirrors (st : MonitorStore) : Prop where
  size : st.directory.keys.card ≤ storeMaxUsers
  count : st.userCount = st.directory.keys.card
  validate : ∀ name password, storeUserValidate st name password = true ↔
    ∃ role, st.directory.lookup name = some (password, role)
  authenticate : ∀ name password,
    storeAdminAuthenticate st name password = st.directory.authenticate name password
  exists_iff : ∀ name, storeUserExists st name = true ↔ name ∈ st.directory
  /-- Every entry is listed, and no name twice. -/
  listed : ∀ name role, (name, role) ∈ usersShown st ↔
    ∃ password, st.directory.lookup name = some (password, role)
  once : ((usersShown st).map Prod.fst).Nodup

/-- An operation does to the store what it does to the directory. -/
structure Simulates (st : MonitorStore) (op : UserOp) : Prop where
  result : (op.apply st).2 = (st.directory.apply op).2
  state : (op.apply st).1.directory = (st.directory.apply op).1
  /-- A refused operation changes nothing. -/
  unchanged : (op.apply st).2 ≠ .ok → (op.apply st).1 = st

namespace MonitorStore.Keeps

variable {st : MonitorStore} {d : Directory}

theorem directory_eq (h : st.Keeps d) : st.directory = d := h.repr.eq_toMap.symm

theorem mirrors (h : st.Keeps d) : st.Mirrors := by
  have hshown : usersShown st = storeUsers st := by
    rw [usersShown, storeUsersForeach, foreach_collect, List.nil_append]
  obtain rfl := h.directory_eq
  exact {
    size := by
      rw [← h.size]
      exact h.repr.card_le
    count := h.count
    validate := fun _ password => h.validate password
    authenticate := fun _ password => h.authenticate password
    exists_iff := fun _ => h.exists_iff
    listed := by
      rw [hshown]
      exact h.listed.2
    once := by
      rw [hshown]
      exact h.listed.1 }

theorem simulates (h : st.Keeps d) {op : UserOp} (hop : op.Sized) : Simulates st op := by
  obtain rfl := h.directory_eq
  have hsame := h.apply hop
  exact ⟨hsame.result, hsame.keeps.directory_eq, hsame.unchanged⟩

theorem hasAdmin_apply (h : st.Keeps d) {op : UserOp} (hop : op.Sized)
    (hadmin : st.directory.HasAdmin) : (op.apply st).1.directory.HasAdmin := by
  rw [(h.simulates hop).state]
  exact hadmin.apply op

end MonitorStore.Keeps

/-! ## Runs -/

/-- The store keeps a directory. -/
def MonitorStore.Kept (st : MonitorStore) : Prop := ∃ d, st.Keeps d

theorem MonitorStore.Kept.step {st st' : MonitorStore} {op : UserOp} (h : st.Kept) (hop : op.Sized)
    (hs : userStep st op = .ok st') : st'.Kept := by
  obtain ⟨d, hd⟩ := h
  cases hs
  exact ⟨_, (hd.apply hop).keeps⟩

theorem kept_of_run {ops : List UserOp} {st st' : MonitorStore} (h : ∀ op ∈ ops, op.Sized)
    (hst : st.Kept) (hrun : run userStep st ops = .ok st') : st'.Kept := by
  have halong : Along userStep (fun _ op => op.Sized) st ops := along_of_forall st h
  have hvisits := visits_of_along (I := fun _ => True) (fun _ _ _ _ _ => trivial)
    (fun _ _ _ _ hp hop hs => MonitorStore.Kept.step hp hop hs) trivial hst halong
  exact hvisits.last hrun

/-- **The user table refines a finite map.** -/
theorem users_refine_directory {ops : List UserOp} (h : ∀ op ∈ ops, op.Sized) :
    storeCreate.directory = ∅ ∧
      Visits userStep MonitorStore.Mirrors storeCreate ops ∧
      Along userStep Simulates storeCreate ops ∧
      ∀ (before after : List UserOp) (st : MonitorStore), ops = before ++ after →
        run userStep storeCreate before = .ok st → st.directory.HasAdmin →
        Visits userStep (fun st => st.directory.HasAdmin) st after := by
  have hinit : storeCreate.Kept := ⟨_, storeCreate_keeps⟩
  have halong : Along userStep (fun _ op => op.Sized) storeCreate ops :=
    along_of_forall storeCreate h
  refine ⟨storeCreate_keeps.directory_eq, ?_, ?_, ?_⟩
  · refine Visits.mono (P := MonitorStore.Kept) ?_ fun st ⟨d, hd⟩ => hd.mirrors
    exact visits_of_along (I := fun _ => True) (fun _ _ _ _ _ => trivial)
      (fun _ _ _ _ hp hop hs => MonitorStore.Kept.step hp hop hs) trivial hinit halong
  · exact along_of_along (I := MonitorStore.Kept) (fun _ _ _ hp hop hs => hp.step hop hs)
      (fun st op ⟨d, hd⟩ hop => hd.simulates hop) hinit halong
  · rintro before after st rfl hrun hadmin
    have hkept : st.Kept :=
      kept_of_run (fun op hop => h op (List.mem_append_left _ hop)) hinit hrun
    have hafter : Along userStep (fun _ op => op.Sized) st after :=
      along_of_forall st fun op hop => h op (List.mem_append_right before hop)
    refine Visits.mono (P := fun st => st.Kept ∧ st.directory.HasAdmin) ?_ fun _ h => h.2
    refine visits_of_along (I := fun _ => True) (fun _ _ _ _ _ => trivial) ?_ trivial
      ⟨hkept, hadmin⟩ hafter
    rintro s op s' - ⟨⟨d, hd⟩, ha⟩ hop hs
    refine ⟨MonitorStore.Kept.step ⟨d, hd⟩ hop hs, ?_⟩
    cases hs
    exact hd.hasAdmin_apply hop ha

/-- An administrator and a user; the administrator cannot be deleted, the user can. -/
def directoryOps : List UserOp :=
  [.add [97] [1] true, .add [98] [2] false, .setPassword [98] [3], .delete [97], .delete [98],
    .add [98] [4] false]

theorem users_refine_directory_small :
    storeCreate.directory = ∅ ∧
      Visits userStep MonitorStore.Mirrors storeCreate directoryOps ∧
      Along userStep Simulates storeCreate directoryOps ∧
      ∀ (before after : List UserOp) (st : MonitorStore), directoryOps = before ++ after →
        run userStep storeCreate before = .ok st → st.directory.HasAdmin →
        Visits userStep (fun st => st.directory.HasAdmin) st after :=
  users_refine_directory (by decide)

end SocksProxy
