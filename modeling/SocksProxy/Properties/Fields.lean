import SocksProxy.Monitor.Operations
import SocksProxy.Shared.Fields
import SocksProxy.Shared.InetText

/-!
# Text from a line in the fields of the store

A line is shorter than 512 bytes and a word of it can be nearly as long, while a username has 64
bytes, a password 255 and the host of a rule 255.  `store_user_add` and `store_user_set_password`
cut what they are given, with `strncpy` and a terminator written behind it; `store_deny_host` copies
the host as it is, into a field that was allocated with room for the longest name a SOCKS request
can carry.

`StoreOp.stringWrites` lists the writes of an operation, and `fields_inBounds_iff` says which lines
make one outside its field: a `DENY_HOST` that adds its rule, of a word longer than 255 bytes.
-/

set_option autoImplicit false

namespace SocksProxy

/-- The fields of fixed size that a line's words are written to. -/
inductive StringField where
  /-- `username` of `struct store_user`. -/
  | username
  /-- `password` of `struct store_user`. -/
  | password
  /-- `host` of `acl_rule`. -/
  | ruleHost
  deriving DecidableEq

/-- The size a field is declared with. -/
def StringField.size : StringField → ℕ
  | .username => storeMaxUsername + 1
  | .password => storeMaxPassword + 1
  | .ruleHost => storeMaxDestHost + 1

/-- A string written into a field. -/
structure FieldWrite where
  field : StringField
  write : StringWrite

/-- Whatever the field holds, no byte is written outside it. -/
def FieldWrite.InBounds (w : FieldWrite) : Prop :=
  ∀ array : Bytes, array.length = w.field.size → (w.write.perform array).isSome

section Writes

variable [Inet]

namespace StoreOp

/-- The strings an operation of the store writes. -/
def stringWrites (st : MonitorStore) : StoreOp → List FieldWrite
  | .addUser username password _ =>
    if (storeFindUser st username).isSome then []
    else match st.users.findIdx? (!·.used) with
      | some _ =>
        [⟨.username, .bounded username storeMaxUsername⟩,
          ⟨.password, .bounded password storeMaxPassword⟩]
      | none => []
  | .deleteUser username =>
    match storeFindUser st username with
    | none => []
    | some i =>
      if (st.users[i]?.map (·.role)) = some .admin ∧ storeAdminCount st ≤ 1 then []
      else [⟨.username, .clear⟩, ⟨.password, .clear⟩]
  | .setPassword username newPassword =>
    match storeFindUser st username with
    | none => []
    | some _ => [⟨.password, .bounded newPassword storeMaxPassword⟩]
  | .config .. => []
  | .denyHost hostname =>
    if isHostDenied st hostname then []
    else if (Inet.pton4 hostname).isSome ∨ (Inet.pton6 hostname).isSome then []
    else [⟨.ruleHost, .plain hostname⟩]
  | .undenyHost _ => []
  | .denyIp _ => []
  | .undenyIp _ => []

end StoreOp

/-- `store_deny_host` gets as far as its `strcpy`. -/
def DeniesNew (st : MonitorStore) (hostname : Bytes) : Prop :=
  isHostDenied st hostname = false ∧ Inet.pton4 hostname = none ∧ Inet.pton6 hostname = none

/-- The strings some operations write, one after the other. -/
def opsWrites (st : MonitorStore) : List StoreOp → List FieldWrite
  | [] => []
  | op :: ops => op.stringWrites st ++ opsWrites (op.apply st) ops

/-- The strings a line writes. -/
def Console.stringWrites (c : Console) (line : Bytes) : List FieldWrite :=
  opsWrites c.store (c.storeOps line)

/-! ## What is in the store was written there -/

/-- The texts in the fields of a store. -/
def MonitorStore.texts (st : MonitorStore) : StringField → List Bytes
  | .username => st.users.map (·.username)
  | .password => st.users.map (·.password)
  | .ruleHost => st.deniedHosts.rules.filterMap fun rule =>
      match rule with
      | .host name => some name
      | _ => none

omit [Inet] in
theorem mem_rules_addRule {l : AclList} {addr : ℕ} {rule r : AclRule}
    (h : r ∈ (l.addRule addr rule).rules) : r ∈ l.rules ∨ r = rule := by
  rw [AclList.addRule] at h
  split at h
  · exact .inr (List.mem_singleton.1 h)
  · split at h
    · exact .inl h
    · rw [AclList.rules, List.map_append, List.mem_append] at h
      rcases h with h | h
      · exact .inl (List.map_subset _ (List.take_subset _ _) h)
      · exact .inr (List.mem_singleton.1 h)

omit [Inet] in
theorem mem_rules_undeny {l l' : AclList} {p : AclRule → Bool} {r : AclRule}
    (hl : l.undeny p = some l') (h : r ∈ l'.rules) : r ∈ l.rules := by
  rw [AclList.undeny] at hl
  split at hl
  · exact absurd hl (by nofun)
  · rw [← Option.some.inj hl] at h
    exact List.map_subset _ (List.eraseIdx_subset) h

omit [Inet] in
theorem mem_map_modify {α β : Type} {l : List α} {i : ℕ} {f : α → α} {g : α → β} {y : β}
    (h : y ∈ (l.modify i f).map g) : y ∈ l.map g ∨ ∃ x ∈ l, g (f x) = y := by
  obtain ⟨x, hx, rfl⟩ := List.mem_map.1 h
  obtain ⟨j, hj, rfl⟩ := List.getElem_of_mem hx
  rw [List.getElem_modify]
  rw [List.length_modify] at hj
  split
  · exact .inr ⟨_, List.getElem_mem hj, rfl⟩
  · exact .inl (List.mem_map_of_mem (List.getElem_mem hj))

omit [Inet] in
theorem storeConfigSet_texts (st : MonitorStore) (key : StoreConfigKey) (value : ℕ)
    (realloc : Bool) :
    (storeConfigSet st key value realloc).1.users = st.users ∧
      (storeConfigSet st key value realloc).1.deniedHosts = st.deniedHosts := by
  cases key with
  | timeout =>
    rw [storeConfigSet]
    split <;> exact ⟨rfl, rfl⟩
  | sessionsCap =>
    rw [storeConfigSet, storeGrowSessionsSlots]
    split_ifs <;> exact ⟨rfl, rfl⟩
  | ioBufferSize =>
    rw [storeConfigSet]
    split <;> exact ⟨rfl, rfl⟩

/-- **No text gets into a field but by one of the writes.** -/
theorem texts_apply (op : StoreOp) {st : MonitorStore} {f : StringField} {t : Bytes}
    (h : t ∈ (op.apply st).texts f) :
    t ∈ st.texts f ∨ ∃ w ∈ op.stringWrites st, w.field = f ∧ w.write.value = t := by
  cases op with
  | addUser username password isAdmin =>
    rw [StoreOp.apply, storeUserAdd] at h
    rw [StoreOp.stringWrites]
    split at h
    · exact .inl h
    · next hnew =>
      rw [if_neg hnew]
      cases hslot : st.users.findIdx? (!·.used) with
      | none =>
        rw [hslot] at h
        exact .inl h
      | some i =>
        rw [hslot] at h
        cases f with
        | username =>
          rw [MonitorStore.texts, List.map_set] at h
          rcases List.mem_or_eq_of_mem_set h with h | h
          · exact .inl h
          · exact .inr ⟨_, List.mem_cons_self, rfl, h.symm⟩
        | password =>
          rw [MonitorStore.texts, List.map_set] at h
          rcases List.mem_or_eq_of_mem_set h with h | h
          · exact .inl h
          · exact .inr ⟨_, List.mem_cons_of_mem _ List.mem_cons_self, rfl, h.symm⟩
        | ruleHost => exact .inl h
  | deleteUser username =>
    rw [StoreOp.apply, storeUserDelete] at h
    rw [StoreOp.stringWrites]
    cases hfind : storeFindUser st username with
    | none =>
      rw [hfind] at h
      exact .inl h
    | some i =>
      rw [hfind] at h
      dsimp only at h ⊢
      split at h
      · exact .inl h
      · next hlast =>
        rw [if_neg hlast]
        cases f with
        | username =>
          rcases mem_map_modify h with h | ⟨u, -, rfl⟩
          · exact .inl h
          · exact .inr ⟨_, List.mem_cons_self, rfl, rfl⟩
        | password =>
          rcases mem_map_modify h with h | ⟨u, -, rfl⟩
          · exact .inl h
          · exact .inr ⟨_, List.mem_cons_of_mem _ List.mem_cons_self, rfl, rfl⟩
        | ruleHost => exact .inl h
  | setPassword username newPassword =>
    rw [StoreOp.apply, storeUserSetPassword] at h
    rw [StoreOp.stringWrites]
    cases hfind : storeFindUser st username with
    | none =>
      rw [hfind] at h
      exact .inl h
    | some i =>
      rw [hfind] at h
      cases f with
      | username =>
        rcases mem_map_modify h with h | ⟨u, hu, rfl⟩
        · exact .inl h
        · exact .inl (List.mem_map.2 ⟨u, hu, rfl⟩)
      | password =>
        rcases mem_map_modify h with h | ⟨u, -, rfl⟩
        · exact .inl h
        · exact .inr ⟨_, List.mem_cons_self, rfl, rfl⟩
      | ruleHost => exact .inl h
  | config key value realloc =>
    have hsame : ∀ st' : MonitorStore, st'.users = st.users → st'.deniedHosts = st.deniedHosts →
        st'.texts f = st.texts f := by
      intro st' husers hhosts
      cases f with
      | username => rw [MonitorStore.texts, husers]; rfl
      | password => rw [MonitorStore.texts, husers]; rfl
      | ruleHost => rw [MonitorStore.texts, hhosts]; rfl
    obtain ⟨husers, hhosts⟩ := storeConfigSet_texts st key value realloc
    exact .inl (hsame _ husers hhosts ▸ h)
  | denyHost hostname =>
    rw [StoreOp.apply, storeDenyHost] at h
    rw [StoreOp.stringWrites]
    split at h
    · exact .inl h
    · next hnew =>
      rw [if_neg hnew]
      split at h
      · exact .inl h
      · next hname =>
        rw [if_neg hname]
        cases f with
        | username => exact .inl h
        | password => exact .inl h
        | ruleHost =>
          obtain ⟨rule, hrule, ht⟩ := List.mem_filterMap.1 h
          rcases mem_rules_addRule hrule with hrule | rfl
          · exact .inl (List.mem_filterMap.2 ⟨rule, hrule, ht⟩)
          · exact .inr ⟨_, List.mem_cons_self, rfl, Option.some.inj ht⟩
  | undenyHost hostname =>
    rw [StoreOp.apply, storeUndenyHost] at h
    split at h
    · exact .inl h
    · next l hl =>
      cases f with
      | username => exact .inl h
      | password => exact .inl h
      | ruleHost =>
        obtain ⟨rule, hrule, ht⟩ := List.mem_filterMap.1 h
        exact .inl (List.mem_filterMap.2 ⟨rule, mem_rules_undeny hl hrule, ht⟩)
  | denyIp ip =>
    rw [StoreOp.apply, storeDenyIp] at h
    split at h
    · exact .inl h
    · dsimp only at h
      split at h
      · cases f <;> exact .inl h
      · split at h
        · cases f <;> exact .inl h
        · exact .inl h
  | undenyIp ip =>
    rw [StoreOp.apply, storeUndenyIp] at h
    split at h
    · exact .inl h
    · cases f <;> exact .inl h

/-! ## Which writes stay inside -/

namespace FieldWrite

omit [Inet] in
theorem inBounds_iff {w : FieldWrite} : w.InBounds ↔ w.write.bytes.length ≤ w.field.size := by
  constructor
  · intro h
    have hzero := StringWrite.perform_isSome_iff.1
      (h (List.replicate w.field.size 0) List.length_replicate)
    rwa [List.length_replicate] at hzero
  · intro h array harray
    exact StringWrite.perform_isSome_iff.2 (harray ▸ h)

omit [Inet] in
/-- `strncpy` with the size of the field, less one. -/
theorem inBounds_bounded (f : StringField) (src : Bytes) :
    (FieldWrite.mk f (.bounded src (f.size - 1))).InBounds := by
  rw [inBounds_iff, StringWrite.length_bytes_bounded]
  cases f <;> exact Nat.le_refl _

omit [Inet] in
theorem inBounds_clear (f : StringField) : (FieldWrite.mk f .clear).InBounds := by
  rw [inBounds_iff]
  cases f <;> decide

omit [Inet] in
theorem inBounds_plain {f : StringField} {src : Bytes} :
    (FieldWrite.mk f (.plain src)).InBounds ↔ src.length < f.size := by
  rw [inBounds_iff, StringWrite.length_bytes_plain]
  exact Iff.rfl

end FieldWrite

/-- As long as the writes stay inside, a new text is the C string in an array of the declared
size. -/
theorem texts_fit {op : StoreOp} {st : MonitorStore} (hin : ∀ w ∈ op.stringWrites st, w.InBounds)
    {f : StringField} {t : Bytes} (ht : t ∈ (op.apply st).texts f) (h0 : 0 ∉ t) :
    t ∈ st.texts f ∨ ∃ array : Bytes, array.length = f.size ∧ cstr array = t := by
  rcases texts_apply op ht with ht | ⟨w, hw, rfl, rfl⟩
  · exact .inl ht
  · have hsome := hin w hw (List.replicate w.field.size 0) List.length_replicate
    obtain ⟨array, harray⟩ := Option.isSome_iff_exists.1 hsome
    refine .inr ⟨array, ?_, StringWrite.cstr_perform h0 harray⟩
    rw [StringWrite.length_perform harray, List.length_replicate]

/-- Every operation but `store_deny_host` stays inside the fields. -/
theorem StoreOp.inBounds (op : StoreOp) (st : MonitorStore) (hop : ∀ h, op ≠ .denyHost h) :
    ∀ w ∈ op.stringWrites st, w.InBounds := by
  intro w hw
  cases op with
  | addUser username password isAdmin =>
    rw [stringWrites] at hw
    split at hw
    · exact absurd hw List.not_mem_nil
    split at hw
    · rcases List.mem_cons.1 hw with rfl | hw
      · exact FieldWrite.inBounds_bounded .username username
      · rw [List.mem_singleton.1 hw]
        exact FieldWrite.inBounds_bounded .password password
    · exact absurd hw List.not_mem_nil
  | deleteUser username =>
    rw [stringWrites] at hw
    split at hw
    · exact absurd hw List.not_mem_nil
    split at hw
    · exact absurd hw List.not_mem_nil
    · rcases List.mem_cons.1 hw with rfl | hw
      · exact FieldWrite.inBounds_clear .username
      · rw [List.mem_singleton.1 hw]
        exact FieldWrite.inBounds_clear .password
  | setPassword username newPassword =>
    rw [stringWrites] at hw
    split at hw
    · exact absurd hw List.not_mem_nil
    · rw [List.mem_singleton.1 hw]
      exact FieldWrite.inBounds_bounded .password newPassword
  | config key value realloc => exact absurd hw List.not_mem_nil
  | denyHost hostname => exact absurd rfl (hop hostname)
  | undenyHost hostname => exact absurd hw List.not_mem_nil
  | denyIp ip => exact absurd hw List.not_mem_nil
  | undenyIp ip => exact absurd hw List.not_mem_nil

/-- `store_deny_host` does when it copies nothing, or nothing longer than the field. -/
theorem denyHost_inBounds_iff {st : MonitorStore} {hostname : Bytes} :
    (∀ w ∈ (StoreOp.denyHost hostname).stringWrites st, w.InBounds) ↔
      ¬ (DeniesNew st hostname ∧ storeMaxDestHost < hostname.length) := by
  rw [StoreOp.stringWrites]
  by_cases hden : isHostDenied st hostname = true
  · rw [if_pos hden]
    exact iff_of_true (fun w hw => absurd hw List.not_mem_nil)
      fun h => by rw [h.1.1] at hden; exact absurd hden (by decide)
  rw [if_neg hden]
  by_cases hip : (Inet.pton4 hostname).isSome ∨ (Inet.pton6 hostname).isSome
  · rw [if_pos hip]
    refine iff_of_true (fun w hw => absurd hw List.not_mem_nil) fun h => ?_
    rw [h.1.2.1, h.1.2.2] at hip
    exact absurd hip (by decide)
  · rw [if_neg hip]
    have hnew : DeniesNew st hostname := by
      refine ⟨Bool.not_eq_true _ ▸ hden, ?_, ?_⟩
      · exact Option.not_isSome_iff_eq_none.1 fun h => hip (.inl h)
      · exact Option.not_isSome_iff_eq_none.1 fun h => hip (.inr h)
    constructor
    · rintro h ⟨-, hlong⟩
      have hplain := FieldWrite.inBounds_plain.1 (h _ List.mem_cons_self)
      exact absurd hplain (Nat.not_lt.2 hlong)
    · intro h w hw
      rw [List.mem_singleton.1 hw]
      exact FieldWrite.inBounds_plain.2 (Nat.lt_succ_of_le (Nat.not_lt.1 fun hlt => h ⟨hnew, hlt⟩))

/-! ## Lines -/

/-- No handler but that of `DENY_HOST` calls `store_deny_host`. -/
theorem denyHost_notMem_storeOps {cmd : MonitorCmd} (h : cmd.cmd ≠ ascii "DENY_HOST")
    (st : MonitorStore) (realloc : Bool) (hostname : Bytes) :
    StoreOp.denyHost hostname ∉ cmd.storeOps st realloc := by
  intro hop
  rw [MonitorCmd.storeOps, if_neg h] at hop
  split at hop
  · exact absurd hop List.not_mem_nil
  split at hop
  · exact absurd hop List.not_mem_nil
  split at hop
  · exact absurd hop List.not_mem_nil
  split at hop
  · rw [MonitorCmd.configOps] at hop
    split at hop
    · exact absurd hop List.not_mem_nil
    split at hop
    · exact absurd hop List.not_mem_nil
    dsimp only at hop
    split_ifs at hop <;> simp at hop
  split at hop
  · exact absurd hop List.not_mem_nil
  split at hop
  · split_ifs at hop <;> simp at hop
  split at hop
  · split_ifs at hop <;> simp at hop
  split at hop
  · split_ifs at hop <;> simp at hop
  split at hop
  · rw [MonitorCmd.denyOps] at hop
    split_ifs at hop <;> simp at hop
  split at hop
  · rw [MonitorCmd.undenyOps] at hop
    split_ifs at hop <;> simp at hop
  · exact absurd hop List.not_mem_nil

theorem opsWrites_inBounds {ops : List StoreOp}
    (h : ∀ op ∈ ops, ∀ hostname, op ≠ .denyHost hostname)
    (st : MonitorStore) : ∀ w ∈ opsWrites st ops, w.InBounds := by
  induction ops generalizing st with
  | nil => exact fun w hw => absurd hw List.not_mem_nil
  | cons op ops ih =>
    intro w hw
    rcases List.mem_append.1 hw with hw | hw
    · exact op.inBounds st (h op List.mem_cons_self) w hw
    · exact ih (fun op hop => h op (List.mem_cons_of_mem _ hop)) _ w hw

/-- The line is a `DENY_HOST` of an authenticated session. -/
def Console.deniesHost (c : Console) (line : Bytes) : Prop :=
  c.session.state = .authenticated ∧ (splitLine line).cmd = ascii "DENY_HOST" ∧
    2 ≤ (splitLine line).argc

theorem stringWrites_of_deniesHost {c : Console} {line : Bytes} (h : c.deniesHost line) :
    c.stringWrites line = (StoreOp.denyHost ((splitLine line).arg 1)).stringWrites c.store := by
  obtain ⟨hstate, hcmd, hargc⟩ := h
  rw [Console.stringWrites, Console.storeOps, hstate]
  dsimp only
  rw [MonitorCmd.storeOps, hcmd, if_neg (by decide), if_neg (by decide), if_neg (by decide),
    if_neg (by decide), if_neg (by decide), if_neg (by decide), if_neg (by decide),
    if_neg (by decide), if_pos rfl, MonitorCmd.denyOps, if_neg (by omega)]
  split
  · next hden =>
    rw [StoreOp.stringWrites, if_pos hden]
    rfl
  · exact List.append_nil _

/-- **A line writes outside a field exactly when it is a `DENY_HOST` that adds a rule for a word
longer than the field.** -/
theorem fields_inBounds_iff (c : Console) (line : Bytes) :
    (∀ w ∈ c.stringWrites line, w.InBounds) ↔
      ¬ (c.session.state = .authenticated ∧ (splitLine line).cmd = ascii "DENY_HOST" ∧
        2 ≤ (splitLine line).argc ∧ DeniesNew c.store ((splitLine line).arg 1) ∧
        storeMaxDestHost < ((splitLine line).arg 1).length) := by
  by_cases h : c.deniesHost line
  · rw [stringWrites_of_deniesHost h, denyHost_inBounds_iff]
    obtain ⟨hstate, hcmd, hargc⟩ := h
    exact not_congr ⟨fun hlong => ⟨hstate, hcmd, hargc, hlong⟩, fun hall => hall.2.2.2⟩
  · refine iff_of_true (opsWrites_inBounds ?_ c.store) fun hall =>
      h ⟨hall.1, hall.2.1, hall.2.2.1⟩
    intro op hop hostname hdeny
    rw [hdeny, Console.storeOps] at hop
    cases hstate : c.session.state with
    | awaitAuth =>
      rw [hstate] at hop
      exact absurd hop List.not_mem_nil
    | authenticated =>
      rw [hstate] at hop
      dsimp only at hop
      by_cases hcmd : (splitLine line).cmd = ascii "DENY_HOST"
      · have hargc : (splitLine line).argc < 2 := Nat.not_le.1 fun hargc => h ⟨hstate, hcmd, hargc⟩
        rw [MonitorCmd.storeOps, hcmd, if_neg (by decide), if_neg (by decide), if_neg (by decide),
          if_neg (by decide), if_neg (by decide), if_neg (by decide), if_neg (by decide),
          if_neg (by decide), if_pos rfl, MonitorCmd.denyOps, if_pos hargc] at hop
        exact absurd hop List.not_mem_nil
      · exact denyHost_notMem_storeOps hcmd _ _ _ hop

end Writes

section Overrun

attribute [local instance] InetText.inet

/-- A host of 256 bytes, in a line that is no longer than half of what a line may be. -/
def longHostLine : Bytes := ascii "DENY_HOST " ++ List.replicate 256 97

/-- **The host of a rule is copied over the end of its field.** -/
theorem longHost_outOfBounds :
    ¬ ∀ (c : Console) (line : Bytes), line.length ≤ monitorLineMax →
      ∀ w ∈ c.stringWrites line, w.InBounds := by
  intro h
  have hline := h ⟨{ MonitorCommandsSession.init with state := .authenticated }, storeCreate, [],
    []⟩
    longHostLine (by decide +kernel) ⟨.ruleHost, .plain (List.replicate 256 97)⟩
  rw [stringWrites_of_deniesHost ⟨rfl, by decide +kernel, by decide +kernel⟩] at hline
  have harg : (splitLine longHostLine).arg 1 = List.replicate 256 97 := by decide +kernel
  rw [harg, StoreOp.stringWrites, if_neg (by decide +kernel), if_neg (by decide +kernel)] at hline
  exact absurd (FieldWrite.inBounds_plain.1 (hline List.mem_cons_self)) (by decide +kernel)

end Overrun

end SocksProxy
