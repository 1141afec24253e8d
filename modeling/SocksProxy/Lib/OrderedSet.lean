import Mathlib.Data.List.Nodup

/-!
# Finite sets in the order of insertion

An `OrdSet` is a list without duplicates.  Inserting puts a new element at the end, erasing leaves
the others where they are, and both say whether they changed anything.

`insert_snd` and `erase_snd` are all that a client needs of the answers; the order is read off
`toList_insert` and `toList_erase`.
-/

set_option autoImplicit false

namespace SocksProxy

/-- A finite set with the order its elements came in. -/
@[ext] structure OrdSet (α : Type) where
  toList : List α
  nodup : toList.Nodup

namespace OrdSet

variable {α : Type}

/-- The set without elements. -/
def empty : OrdSet α := ⟨[], List.nodup_nil⟩

instance : Membership α (OrdSet α) := ⟨fun s a => a ∈ s.toList⟩

theorem mem_def {s : OrdSet α} {a : α} : a ∈ s ↔ a ∈ s.toList := Iff.rfl

variable [DecidableEq α]

instance (s : OrdSet α) (a : α) : Decidable (a ∈ s) := inferInstanceAs (Decidable (a ∈ s.toList))

/-- A new element goes to the end. -/
def insert (s : OrdSet α) (a : α) : OrdSet α × Bool :=
  if h : a ∈ s then (s, false)
  else (⟨s.toList ++ [a], List.nodup_append_comm.1 (List.nodup_cons.2 ⟨h, s.nodup⟩)⟩, true)

/-- The others stay in their order. -/
def erase (s : OrdSet α) (a : α) : OrdSet α × Bool :=
  (⟨s.toList.erase a, s.nodup.erase a⟩, decide (a ∈ s))

variable {s : OrdSet α} {a b : α}

theorem insert_of_mem (h : a ∈ s) : s.insert a = (s, false) := dif_pos h

theorem toList_insert (h : a ∉ s) : (s.insert a).1.toList = s.toList ++ [a] := by
  rw [insert, dif_neg h]

theorem insert_snd : (s.insert a).2 = true ↔ a ∉ s := by
  rw [insert]
  split
  · next h => exact iff_of_false Bool.false_ne_true (not_not_intro h)
  · next h => exact iff_of_true rfl h

theorem erase_of_notMem (h : a ∉ s) : s.erase a = (s, false) :=
  Prod.ext (OrdSet.ext (List.erase_of_not_mem h)) (decide_eq_false h)

theorem toList_erase : (s.erase a).1.toList = s.toList.erase a := rfl

theorem erase_snd : (s.erase a).2 = true ↔ a ∈ s := decide_eq_true_iff

/-- Where an element was, the list closes up. -/
theorem toList_erase_append {pre post : List α} (h : s.toList = pre ++ a :: post) :
    (s.erase a).1.toList = pre ++ post := by
  have hnodup : (pre ++ a :: post).Nodup := h ▸ s.nodup
  have hpre : a ∉ pre := fun ha =>
    (List.nodup_append.1 hnodup).2.2 a ha a List.mem_cons_self rfl
  rw [toList_erase, h, List.erase_append_right _ hpre, List.erase_cons_head]

end OrdSet

end SocksProxy
