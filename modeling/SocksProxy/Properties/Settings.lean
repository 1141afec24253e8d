import SocksProxy.Properties.Service

/-!
# The server stays operable

Administrators add and delete users, change passwords and set parameters, several of them at once
and while the proxy runs.  Whatever they order, the settings stay ones the server can run with
(`MonitorStore.Operable`): above all there is always an administrator left, who can log in unless
a name is in the table twice.
-/

set_option autoImplicit false

namespace SocksProxy

/-- The settings are ones the server can run with. -/
structure MonitorStore.Operable (st : MonitorStore) : Prop where
  slots : st.slots.length = storeMaxUsers
  /-- Somebody can administer the server. -/
  admin : 0 < storeAdminCount st
  sized : ∀ name password role, some (name, (password, role)) ∈ st.slots →
    name.length ≤ storeMaxUsername ∧ password.length ≤ storeMaxPassword
  timeout : st.timeout ≤ 86400
  sessionsCap : storeSessionsCapMin ≤ st.sessionsCap ∧ st.sessionsCap ≤ storeSessionsCapMax
  ioBufferSize : 1024 ≤ st.ioBufferSize ∧ st.ioBufferSize ≤ 65536

namespace MonitorStore.Operable

variable {st st' : MonitorStore}

/-- The users stay, and the parameters are in range. -/
theorem of_users (h : st.Operable) (husers : st'.users = st.users) (htimeout : st'.timeout ≤ 86400)
    (hcap : storeSessionsCapMin ≤ st'.sessionsCap ∧ st'.sessionsCap ≤ storeSessionsCapMax)
    (hio : 1024 ≤ st'.ioBufferSize ∧ st'.ioBufferSize ≤ 65536) : st'.Operable := by
  have hslots : st'.slots = st.slots := congrArg (List.map StoreUser.entry) husers
  refine ⟨hslots ▸ h.slots, ?_, hslots ▸ h.sized, htimeout, hcap, hio⟩
  rw [storeAdminCount_eq, hslots, ← storeAdminCount_eq]
  exact h.admin

/-- Nothing but the settings is looked at. -/
theorem congr (h : st.Operable) (hs : st'.settings = st.settings) : st'.Operable := by
  have husers : st'.users = st.users := congrArg StoreSettings.users hs
  have htimeout : st'.timeout = st.timeout := congrArg StoreSettings.timeout hs
  have hcap : st'.sessionsCap = st.sessionsCap := congrArg StoreSettings.sessionsCap hs
  have hio : st'.ioBufferSize = st.ioBufferSize := congrArg StoreSettings.ioBufferSize hs
  exact h.of_users husers (htimeout ▸ h.timeout) (hcap ▸ h.sessionsCap) (hio ▸ h.ioBufferSize)

/-! ## The user table -/

/-- A slot is rewritten, and an administrator remains. -/
theorem rewrite (h : st.Operable) {i : ℕ} {o : Option (Bytes × (Bytes × StoreRole))}
    (hslots : st'.slots = st.slots.set i o) (hadmin : 0 < storeAdminCount st')
    (hsized : ∀ name password role, o = some (name, (password, role)) →
      name.length ≤ storeMaxUsername ∧ password.length ≤ storeMaxPassword)
    (hrest : (st'.timeout, st'.sessionsCap, st'.ioBufferSize) =
      (st.timeout, st.sessionsCap, st.ioBufferSize)) : st'.Operable := by
  obtain ⟨htimeout, hcap, hio⟩ : st'.timeout = st.timeout ∧ st'.sessionsCap = st.sessionsCap ∧
      st'.ioBufferSize = st.ioBufferSize := by simpa using hrest
  refine ⟨?_, hadmin, fun name password role hmem => ?_, htimeout ▸ h.timeout, hcap ▸ h.sessionsCap,
    hio ▸ h.ioBufferSize⟩
  · rw [hslots, List.length_set, h.slots]
  · rw [hslots] at hmem
    rcases List.mem_or_eq_of_mem_set hmem with hold | hnew
    · exact h.sized name password role hold
    · exact hsized name password role hnew.symm

/-- How the number of administrators moves when a slot is rewritten. -/
theorem adminCount_set {i : ℕ} {o o' : Option (Bytes × (Bytes × StoreRole))}
    (hi : st.slots[i]? = some o) (hslots : st'.slots = st.slots.set i o') :
    storeAdminCount st' + (if o.any (fun e => e.2.2 == StoreRole.admin) then 1 else 0) =
      storeAdminCount st + (if o'.any (fun e => e.2.2 == StoreRole.admin) then 1 else 0) := by
  rw [storeAdminCount_eq, storeAdminCount_eq, hslots]
  exact countP_set_add hi o'

theorem length_strncpyTerm_le (src : Bytes) (n : ℕ) : (strncpyTerm src n).length ≤ n := by
  rw [strncpyTerm, List.length_take]
  exact Nat.min_le_left ..

theorem add (h : st.Operable) (name password : Bytes) (isAdmin : Bool) :
    (storeUserAdd st name password isAdmin).1.Operable := by
  rcases storeUserAdd_cases st name password isAdmin with ⟨-, heq⟩ | ⟨-, -, heq⟩ |
    ⟨-, i, hi, -, hslots, -⟩
  · rwa [heq]
  · rwa [heq]
  · refine h.rewrite hslots ?_ ?_ ?_
    · have hcount := adminCount_set hi hslots
      have hpos := h.admin
      rw [Option.any_none, if_neg Bool.false_ne_true, Nat.add_zero] at hcount
      rw [hcount]
      exact Nat.add_pos_left hpos _
    · intro name' password' role heq
      cases heq
      exact ⟨length_strncpyTerm_le .., length_strncpyTerm_le ..⟩
    · rw [storeUserAdd]
      split
      · rfl
      · split <;> rfl

/-- **The last administrator is not deleted.** -/
theorem delete (h : st.Operable) (name : Bytes) : (storeUserDelete st name).1.Operable := by
  rcases storeUserDelete_cases st name with ⟨-, heq⟩ | ⟨i, password, role, -, hi, hcases⟩
  · rwa [heq]
  · rcases hcases with ⟨-, -, heq⟩ | ⟨hlast, -, hslots, -⟩
    · rwa [heq]
    · refine h.rewrite hslots ?_ (fun name' password' role' heq => by cases heq) ?_
      · have hcount := adminCount_set hi hslots
        have hpos := h.admin
        rw [Option.any_none, if_neg Bool.false_ne_true, Nat.add_zero, Option.any_some] at hcount
        by_cases hrole : role = .admin
        · have hmany : ¬ storeAdminCount st ≤ 1 := fun hle => hlast ⟨hrole, hle⟩
          split at hcount <;> omega
        · rw [if_neg (by simpa using hrole)] at hcount
          omega
      · rw [storeUserDelete]
        split
        · rfl
        · split <;> rfl

theorem setPassword (h : st.Operable) (name password : Bytes) :
    (storeUserSetPassword st name password).1.Operable := by
  rcases storeUserSetPassword_cases st name password with
    ⟨-, heq⟩ | ⟨i, old, role, -, hi, -, hslots, -⟩
  · rwa [heq]
  · refine h.rewrite hslots ?_ ?_ ?_
    · have hcount := adminCount_set hi hslots
      have hpos := h.admin
      have hsame := Nat.add_right_cancel hcount
      exact hsame ▸ hpos
    · intro name' password' role' heq
      cases heq
      exact ⟨(h.sized _ _ _ (List.mem_of_getElem? hi)).1, length_strncpyTerm_le ..⟩
    · rw [storeUserSetPassword]
      split <;> rfl

/-! ## The parameters -/

/-- A parameter is only set to what is in its range. -/
theorem config (h : st.Operable) (key : StoreConfigKey) (value : ℕ) (realloc : Bool) :
    (storeConfigSet st key value realloc).1.Operable := by
  cases key with
  | timeout =>
    rw [storeConfigSet]
    split
    · exact h
    · next hle => exact h.of_users rfl (Nat.le_of_not_lt hle) h.sessionsCap h.ioBufferSize
  | ioBufferSize =>
    rw [storeConfigSet]
    split
    · exact h
    · next hrange => exact h.of_users rfl h.timeout h.sessionsCap (by dsimp only; omega)
  | sessionsCap =>
    rw [storeConfigSet]
    split
    · exact h
    · next hrange =>
      have hin : storeSessionsCapMin ≤ value ∧ value ≤ storeSessionsCapMax := by omega
      split
      · exact h
      · split
        · rw [storeGrowSessionsSlots]
          by_cases hle : value ≤ st.sessions.length
          · rw [if_pos hle]
            exact h.of_users rfl h.timeout hin h.ioBufferSize
          · rw [if_neg hle]
            cases realloc with
            | true => exact h.of_users rfl h.timeout hin h.ioBufferSize
            | false => exact h
        · exact h.of_users rfl h.timeout hin h.ioBufferSize

variable [Inet]

/-- **Every order keeps the server operable.** -/
theorem apply (h : st.Operable) (op : StoreOp) : (op.apply st).Operable := by
  have hother : ∀ {st' : MonitorStore}, st'.users = st.users → st'.timeout = st.timeout →
      st'.sessionsCap = st.sessionsCap → st'.ioBufferSize = st.ioBufferSize → st'.Operable := by
    intro st' husers htimeout hcap hio
    exact h.of_users husers (htimeout ▸ h.timeout) (hcap ▸ h.sessionsCap) (hio ▸ h.ioBufferSize)
  cases op with
  | addUser name password isAdmin => exact h.add name password isAdmin
  | deleteUser name => exact h.delete name
  | setPassword name password => exact h.setPassword name password
  | config key value realloc => exact h.config key value realloc
  | denyHost host =>
    rw [StoreOp.apply, storeDenyHost]
    split
    · exact h
    · split
      · exact h
      · exact hother rfl rfl rfl rfl
  | undenyHost host =>
    rw [StoreOp.apply, storeUndenyHost]
    split
    · exact h
    · exact hother rfl rfl rfl rfl
  | denyIp ip =>
    rw [StoreOp.apply, storeDenyIp]
    split
    · exact h
    · dsimp only
      split
      · exact hother rfl rfl rfl rfl
      · split
        · exact hother rfl rfl rfl rfl
        · exact h
  | undenyIp ip =>
    rw [StoreOp.apply, storeUndenyIp]
    split
    · exact h
    · exact hother rfl rfl rfl rfl

theorem applyOps (h : st.Operable) (ops : List StoreOp) : (applyOps st ops).Operable := by
  induction ops generalizing st with
  | nil => exact h
  | cons op ops ih => exact ih (h.apply op)

omit [Inet] in
/-- The calls of the proxy leave the settings alone. -/
theorem calls (h : st.Operable) {cs : List StoreCall} (hcs : ∀ c ∈ cs, c.ofSession = true) :
    (cs.foldl (fun st c => c.apply st) st).Operable := by
  induction cs generalizing st with
  | nil => exact h
  | cons c cs ih =>
    rw [List.forall_mem_cons] at hcs
    refine ih (h.congr (settings_apply st ?_)) hcs.2
    cases c with
    | configSet => cases hcs.1
    | _ => rfl

end MonitorStore.Operable

/-! ## Every run of the server -/

section Server

variable [Inet] {p p' : Process}

/-- **Every move keeps the server operable.** -/
theorem MonitorStore.Operable.move (h : p.world.store.Operable) (hgood : p.Good World.Sound)
    (hmove : ProcessMove p p') : p'.world.store.Operable := by
  cases hmove with
  | @proxy e w ours step_eq =>
    obtain ⟨cs, hcs, -, hstore⟩ := (Aside.step hgood.inv.aside ours step_eq).calls
    show w.store.Operable
    rw [hstore]
    exact h.calls hcs
  | answer env => exact h
  | @serve key i s s' is sess item callback =>
    have hstore := hgood.store_left sess callback
    show s'.console.store.Operable
    rw [hstore]
    exact h.applyOps _
  | connect free listens => exact h
  | stopSocks listens => exact h
  | stopMonitor listens => exact h

variable {argv : List Bytes} {env : StartEnv} {socksPort monitorPort : ℕ}

end Server

/-! ## One server -/

section Small

attribute [local instance] InetText.inet

end Small

end SocksProxy
