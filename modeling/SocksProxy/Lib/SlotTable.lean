import SocksProxy.Lib.Cells
import Mathlib.Data.Finmap
import Mathlib.Data.List.ReduceOption
import Mathlib.Tactic.Common

/-!
# A finite map kept in an array of slots

A table is an array of slots, each free or holding a key with its value.  Nothing orders the slots:
a new key goes into any free one and an erased key leaves a hole, so the table is searched from the
front.  It stands for a finite map as long as no two slots hold the same key, which is `Distinct`.

`Repr slots m` says that the table stands for `m`.  `Repr.insert`, `Repr.replace` and `Repr.erase`
are the three ways of rewriting a slot, `Repr.findIdx?` is the search for a key, and `Repr.card` and
`Repr.listed` say what counting and listing the occupied slots gives.  `toMap` is the map itself.
-/

set_option autoImplicit false

namespace SocksProxy

namespace SlotTable

variable {κ ν : Type}

/-- No two slots hold the same key. -/
def Distinct (slots : List (Option (κ × ν))) : Prop :=
  ∀ (i j : ℕ) (k : κ) (v w : ν),
    slots[i]? = some (some (k, v)) → slots[j]? = some (some (k, w)) → i = j

variable {slots : List (Option (κ × ν))} {i : ℕ} {k : κ} {v : ν}

theorem distinct_replicate (n : ℕ) : Distinct (List.replicate n (none : Option (κ × ν))) := by
  intro i j k v w hi _
  have hmem := List.mem_of_getElem? hi
  cases (List.mem_replicate.1 hmem).2

theorem Distinct.tail {o : Option (κ × ν)} (h : Distinct (o :: slots)) : Distinct slots := by
  intro i j k v w hi hj
  have := h (i + 1) (j + 1) k v w (by simpa using hi) (by simpa using hj)
  omega

theorem Distinct.head (h : Distinct (some (k, v) :: slots)) (w : ν) : some (k, w) ∉ slots := by
  intro hmem
  obtain ⟨j, hj⟩ := List.mem_iff_getElem?.1 hmem
  have := h 0 (j + 1) k v w rfl (by simpa using hj)
  omega

/-- A slot may be rewritten if no other slot holds its new key. -/
theorem Distinct.set {o : Option (κ × ν)} (h : Distinct slots)
    (hfresh : ∀ k v, o = some (k, v) → ∀ (j : ℕ) (w : ν), slots[j]? = some (some (k, w)) → j = i) :
    Distinct (slots.set i o) := by
  intro a b k v w ha hb
  rw [List.getElem?_set] at ha hb
  split at ha
  · next hia =>
    split at hb
    · next hib => rw [← hia, ← hib]
    · split at ha
      · cases ha
        rw [← hia, hfresh k v rfl b w hb]
      · cases ha
  · split at hb
    · next hib =>
      split at hb
      · cases hb
        rw [← hib, hfresh k w rfl a v ha]
      · cases hb
    · exact h a b k v w ha hb

/-- The keys of the occupied slots, as a list, repeat nothing. -/
theorem Distinct.nodup (h : Distinct slots) : (slots.reduceOption.map Prod.fst).Nodup := by
  induction slots with
  | nil => exact List.nodup_nil
  | cons o slots ih =>
    cases o with
    | none =>
      rw [List.reduceOption_cons_of_none]
      exact ih h.tail
    | some e =>
      rw [List.reduceOption_cons_of_some, List.map_cons, List.nodup_cons]
      refine ⟨fun hmem => ?_, ih h.tail⟩
      obtain ⟨e', he', hk⟩ := List.mem_map.1 hmem
      have hslot := List.reduceOption_mem_iff.1 he'
      obtain ⟨k, v⟩ := e
      obtain ⟨k', w⟩ := e'
      cases hk
      exact h.head w hslot

/-! ## The map -/

variable [DecidableEq κ] {m : Finmap fun _ : κ => ν}

/-- The slots stand for the map. -/
structure Repr (slots : List (Option (κ × ν))) (m : Finmap fun _ : κ => ν) : Prop where
  distinct : Distinct slots
  lookup : ∀ k v, m.lookup k = some v ↔ some (k, v) ∈ slots

/-- The map of a table. -/
def toMap (slots : List (Option (κ × ν))) : Finmap fun _ : κ => ν :=
  (slots.reduceOption.map fun e => (⟨e.1, e.2⟩ : Σ _ : κ, ν)).toFinmap

theorem Distinct.repr (h : Distinct slots) : Repr slots (toMap slots) where
  distinct := h
  lookup := by
    intro k v
    have hkeys : (slots.reduceOption.map fun e => (⟨e.1, e.2⟩ : Σ _ : κ, ν)).NodupKeys := by
      rw [List.NodupKeys, List.keys, List.map_map]
      exact h.nodup
    rw [toMap, Finmap.dlookup_list_toFinmap, ← Option.mem_def, List.mem_dlookup_iff hkeys,
      List.mem_map]
    constructor
    · rintro ⟨e, he, heq⟩
      cases heq
      exact List.reduceOption_mem_iff.1 he
    · intro hmem
      exact ⟨(k, v), List.reduceOption_mem_iff.2 hmem, rfl⟩

/-- A table stands for one map only. -/
theorem Repr.eq_toMap (h : Repr slots m) : m = toMap slots := by
  refine Finmap.ext_lookup fun k => Option.ext fun v => ?_
  rw [h.lookup, h.distinct.repr.lookup]

theorem Repr.getElem? (h : Repr slots m) (hv : m.lookup k = some v) :
    ∃ i : ℕ, slots[i]? = some (some (k, v)) :=
  List.mem_iff_getElem?.1 ((h.lookup k v).1 hv)

theorem Repr.lookup_eq (h : Repr slots m) (hi : slots[i]? = some (some (k, v))) :
    m.lookup k = some v :=
  (h.lookup k v).2 (List.mem_of_getElem? hi)

theorem Repr.empty (n : ℕ) : Repr (List.replicate n (none : Option (κ × ν))) ∅ where
  distinct := distinct_replicate n
  lookup := by
    intro k v
    rw [Finmap.lookup_empty, List.mem_replicate]
    constructor
    · intro h
      cases h
    · intro h
      cases h.2

/-! ## Rewriting a slot -/

theorem mem_set_iff {α : Type} {l : List α} {x : α} (hi : l[i]? = some x) (y z : α) :
    z ∈ l.set i y ↔ z = y ∨ ∃ j : ℕ, j ≠ i ∧ l[j]? = some z := by
  have hlt := (List.getElem?_eq_some_iff.1 hi).1
  rw [List.mem_iff_getElem?]
  constructor
  · rintro ⟨j, hj⟩
    by_cases hij : i = j
    · subst hij
      rw [List.getElem?_set_self hlt] at hj
      cases hj
      exact .inl rfl
    · rw [List.getElem?_set_ne hij] at hj
      exact .inr ⟨j, fun hji => hij hji.symm, hj⟩
  · rintro (rfl | ⟨j, hne, hj⟩)
    · exact ⟨i, List.getElem?_set_self hlt⟩
    · exact ⟨j, by rw [List.getElem?_set_ne hne.symm, hj]⟩

/-- A new key goes into a free slot. -/
theorem Repr.insert (h : Repr slots m) (hi : slots[i]? = some none) (hk : k ∉ m) (v : ν) :
    Repr (slots.set i (some (k, v))) (m.insert k v) where
  distinct := by
    refine h.distinct.set fun k' v' he j w hj => ?_
    cases he
    exact absurd (Finmap.mem_of_lookup_eq_some (h.lookup_eq hj)) hk
  lookup := by
    intro k' v'
    rw [mem_set_iff hi]
    by_cases hkk : k' = k
    · subst hkk
      rw [Finmap.lookup_insert]
      constructor
      · intro he
        cases he
        exact .inl rfl
      · rintro (he | ⟨j, -, hj⟩)
        · cases he
          rfl
        · exact absurd (Finmap.mem_of_lookup_eq_some (h.lookup_eq hj)) hk
    · rw [Finmap.lookup_insert_of_ne _ hkk]
      constructor
      · intro hv
        obtain ⟨j, hj⟩ := h.getElem? hv
        refine .inr ⟨j, fun hji => ?_, hj⟩
        rw [hji, hi] at hj
        cases hj
      · rintro (he | ⟨j, -, hj⟩)
        · cases he
          exact absurd rfl hkk
        · exact h.lookup_eq hj

/-- The value of a key is replaced in its slot. -/
theorem Repr.replace (h : Repr slots m) {w : ν} (hi : slots[i]? = some (some (k, w))) (v : ν) :
    Repr (slots.set i (some (k, v))) (m.insert k v) where
  distinct := by
    refine h.distinct.set fun k' v' he j w' hj => ?_
    cases he
    exact h.distinct j i k w' w hj hi
  lookup := by
    intro k' v'
    rw [mem_set_iff hi]
    by_cases hkk : k' = k
    · subst hkk
      rw [Finmap.lookup_insert]
      constructor
      · intro he
        cases he
        exact .inl rfl
      · rintro (he | ⟨j, hne, hj⟩)
        · cases he
          rfl
        · exact absurd (h.distinct j i k' v' w hj hi) hne
    · rw [Finmap.lookup_insert_of_ne _ hkk]
      constructor
      · intro hv
        obtain ⟨j, hj⟩ := h.getElem? hv
        refine .inr ⟨j, fun hji => ?_, hj⟩
        rw [hji, hi] at hj
        cases hj
        exact hkk rfl
      · rintro (he | ⟨j, -, hj⟩)
        · cases he
          exact absurd rfl hkk
        · exact h.lookup_eq hj

/-- A key is erased by freeing its slot. -/
theorem Repr.erase (h : Repr slots m) (hi : slots[i]? = some (some (k, v))) :
    Repr (slots.set i none) (m.erase k) where
  distinct := h.distinct.set fun _ _ he => by cases he
  lookup := by
    intro k' v'
    rw [mem_set_iff hi]
    by_cases hkk : k' = k
    · subst hkk
      rw [Finmap.lookup_erase]
      constructor
      · intro he
        cases he
      · rintro (he | ⟨j, hne, hj⟩)
        · cases he
        · exact absurd (h.distinct j i k' v' v hj hi) hne
    · rw [Finmap.lookup_erase_ne hkk]
      constructor
      · intro hv
        obtain ⟨j, hj⟩ := h.getElem? hv
        refine .inr ⟨j, fun hji => ?_, hj⟩
        rw [hji, hi] at hj
        cases hj
        exact hkk rfl
      · rintro (he | ⟨j, -, hj⟩)
        · cases he
        · exact h.lookup_eq hj

/-! ## Searching, counting and listing -/

/-- The search for a key finds its slot, or the key is not there. -/
theorem Repr.findIdx? [BEq κ] [LawfulBEq κ] (h : Repr slots m) (k : κ) :
    (slots.findIdx? (fun o => o.any fun e => e.1 == k) = none ∧ m.lookup k = none) ∨
    ∃ i v, slots.findIdx? (fun o => o.any fun e => e.1 == k) = some i ∧
      slots[i]? = some (some (k, v)) ∧ m.lookup k = some v := by
  cases hf : slots.findIdx? (fun o => o.any fun e => e.1 == k) with
  | none =>
    left
    refine ⟨rfl, Option.eq_none_iff_forall_ne_some.2 fun v hv => ?_⟩
    have hno := List.findIdx?_eq_none_iff.1 hf _ ((h.lookup k v).1 hv)
    simp at hno
  | some i =>
    right
    obtain ⟨hi, hp, -⟩ := List.findIdx?_eq_some_iff_getElem.1 hf
    obtain ⟨e, he, hke⟩ := (Option.any_eq_true _ _).1 hp
    obtain ⟨k', v⟩ := e
    have hslot : slots[i]? = some (some (k, v)) := by
      rw [List.getElem?_eq_getElem hi, he, ← beq_iff_eq.1 hke]
    exact ⟨i, v, rfl, hslot, h.lookup_eq hslot⟩

theorem Repr.keys (h : Repr slots m) : m.keys = (slots.reduceOption.map Prod.fst).toFinset := by
  ext k
  rw [Finmap.mem_keys, Finmap.mem_iff, List.mem_toFinset, List.mem_map]
  constructor
  · rintro ⟨v, hv⟩
    exact ⟨(k, v), List.reduceOption_mem_iff.2 ((h.lookup k v).1 hv), rfl⟩
  · rintro ⟨⟨k', v⟩, he, hk⟩
    cases hk
    exact ⟨v, (h.lookup _ v).2 (List.reduceOption_mem_iff.1 he)⟩

theorem keys_insert (m : Finmap fun _ : κ => ν) (k : κ) (v : ν) :
    (m.insert k v).keys = Insert.insert k m.keys := by
  ext k'
  rw [Finmap.mem_keys, Finmap.mem_insert, Finset.mem_insert, Finmap.mem_keys]

/-- The map has as many entries as there are occupied slots. -/
theorem Repr.card (h : Repr slots m) : m.keys.card = slots.reduceOption.length := by
  rw [h.keys, List.toFinset_card_of_nodup h.distinct.nodup, List.length_map]

theorem Repr.card_le (h : Repr slots m) : m.keys.card ≤ slots.length := by
  rw [h.card]
  exact List.reduceOption_length_le slots

/-- The map is as large as the table when no slot is free. -/
theorem Repr.card_eq_length_iff (h : Repr slots m) :
    m.keys.card = slots.length ↔ none ∉ slots := by
  rw [h.card, List.reduceOption_length_eq_iff]
  constructor
  · intro hall hmem
    cases hall none hmem
  · intro hno o ho
    cases o with
    | none => exact absurd ho hno
    | some e => rfl

/-- A key whose value passes a test is the only such key when no more than one slot is counted. -/
theorem Repr.countP_le_one_iff (h : Repr slots m) {p : ν → Bool}
    (hi : slots[i]? = some (some (k, v))) (hp : p v = true) :
    slots.countP (fun o => o.any fun e => p e.2) ≤ 1 ↔
      ∀ k' v', m.lookup k' = some v' → p v' = true → k' = k := by
  have hcount := countP_set_add (p := fun o => o.any fun e => p e.2) hi none
  rw [if_pos (by simpa using hp), if_neg (by simp)] at hcount
  have hzero : slots.countP (fun o => o.any fun e => p e.2) ≤ 1 ↔
      (slots.set i none).countP (fun o => o.any fun e => p e.2) = 0 := by omega
  rw [hzero, List.countP_eq_zero]
  constructor
  · intro hnone k' v' hv' hp'
    obtain ⟨j, hj⟩ := h.getElem? hv'
    by_cases hji : j = i
    · rw [hji, hi] at hj
      cases hj
      rfl
    · exact absurd (by simpa using hp') (hnone _ ((mem_set_iff hi _ _).2 (.inr ⟨j, hji, hj⟩)))
  · intro hsole o ho hpo
    obtain ⟨⟨k', v'⟩, rfl, hp'⟩ := (Option.any_eq_true _ _).1 hpo
    rcases (mem_set_iff hi _ _).1 ho with he | ⟨j, hne, hj⟩
    · cases he
    · obtain rfl := hsole k' v' (h.lookup_eq hj) hp'
      exact hne (h.distinct j i k' v' v hj hi)

/-- The occupied slots list every entry of the map, each once. -/
theorem Repr.listed (h : Repr slots m) :
    (slots.reduceOption.map Prod.fst).Nodup ∧
      ∀ k v, (k, v) ∈ slots.reduceOption ↔ m.lookup k = some v :=
  ⟨h.distinct.nodup, fun k v => by rw [List.reduceOption_mem_iff, h.lookup]⟩

end SlotTable

end SocksProxy
