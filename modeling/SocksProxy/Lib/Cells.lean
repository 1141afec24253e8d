import Mathlib.Data.List.Basic
import Mathlib.Data.UInt
import Mathlib.Logic.Function.Basic
import Mathlib.Tactic.Common

/-!
# Lists as arrays of cells

An array that is searched by a loop and written at an index is a list with `set` and `modify`.  The
lemmas here say what rewriting one cell does to a count or a sum over all of them, in additive form,
so that they can be used in both directions.  An array that is filled from the start by a countdown
is the part of it before the counter.
-/

set_option autoImplicit false

namespace SocksProxy

/-- Rewriting one element moves a count by what that element contributes. -/
theorem countP_set_add {α : Type} {p : α → Bool} {l : List α} {i : ℕ} {x : α}
    (h : l[i]? = some x) (a : α) :
    (l.set i a).countP p + (if p x then 1 else 0) = l.countP p + (if p a then 1 else 0) := by
  obtain ⟨hi, rfl⟩ := List.getElem?_eq_some_iff.1 h
  rw [List.countP_set hi]
  by_cases hp : p l[i] = true
  · have : 0 < l.countP p := List.countP_pos_iff.2 ⟨_, List.getElem_mem hi, hp⟩
    rw [if_pos hp]
    omega
  · rw [if_neg hp]
    omega

/-- The same for the values of a function below a bound. -/
theorem countP_range_update {α : Type} {f : ℕ → α} {p : α → Bool} {n i : ℕ} (h : i < n) (a : α) :
    ((List.range n).countP fun k => p (Function.update f i a k)) + (if p (f i) then 1 else 0) =
      ((List.range n).countP fun k => p (f k)) + if p a then 1 else 0 := by
  have hset : (List.range n).map (Function.update f i a) = ((List.range n).map f).set i a := by
    refine List.ext_getElem? fun k => ?_
    rw [List.getElem?_map, List.getElem?_set, List.getElem?_map, List.length_map, List.length_range]
    by_cases hk : i = k
    · subst hk
      simp [h]
    · rw [if_neg hk]
      by_cases hkn : k < n
      · simp [hkn, Function.update_of_ne (Ne.symm hk)]
      · simp [hkn]
  have := countP_set_add (p := p) (l := (List.range n).map f) (i := i) (x := f i) (by simp [h]) a
  rw [← hset, List.countP_map, List.countP_map] at this
  exact this

/-- Rewriting an element that is there. -/
theorem modify_eq_set_of_getElem? {α : Type} {l : List α} {i : ℕ} {x : α} (h : l[i]? = some x)
    (f : α → α) : l.modify i f = l.set i (f x) := by
  obtain ⟨hi, rfl⟩ := List.getElem?_eq_some_iff.1 h
  refine List.ext_getElem? fun j => ?_
  by_cases hij : i = j
  · subst hij
    rw [List.getElem?_modify_eq, List.getElem?_set_self hi, h]
    rfl
  · rw [List.getElem?_modify_ne _ _ hij, List.getElem?_set_ne hij]

/-- An array that is filled from the start: what is filled after one more element. -/
theorem take_succ_set {α : Type} {l : List α} {i : ℕ} (h : i < l.length) (a : α) :
    (l.set i a).take (i + 1) = l.take i ++ [a] := by
  rw [List.take_add_one, List.take_set_of_le (Nat.le_refl i), List.getElem?_set_self h]
  rfl

/-- What is added to one summand is added to the sum. -/
theorem sum_set_add {l : List UInt64} {i : ℕ} {x : UInt64} (h : l[i]? = some x) (y : UInt64) :
    (l.set i (x + y)).sum = l.sum + y := by
  induction l generalizing i with
  | nil => cases h
  | cons z l ih =>
    cases i with
    | zero =>
      cases h
      rw [List.set_cons_zero, List.sum_cons, List.sum_cons, UInt64.add_assoc, UInt64.add_assoc,
        UInt64.add_comm y]
    | succ i =>
      rw [List.set_cons_succ, List.sum_cons, List.sum_cons, ih (by simpa using h),
        UInt64.add_assoc]

/-! ## Counters of 8 bits -/

theorem toNat_pos {n : UInt8} (h : n ≠ 0) : 0 < n.toNat :=
  Nat.pos_of_ne_zero fun h0 => h (UInt8.toNat_inj.1 h0)

theorem toNat_pred {r : UInt8} (h : 0 < r.toNat) : (r - 1).toNat = r.toNat - 1 := by
  have := UInt8.toNat_lt r
  rw [UInt8.toNat_sub]
  simp
  omega

/-- An array that is filled where a countdown from `len` stands: what is filled after one more
element. -/
theorem take_countdown {α : Type} {l : List α} {len : ℕ} {remaining : UInt8} (hl : len ≤ l.length)
    (hpos : 0 < remaining.toNat) (hle : remaining.toNat ≤ len) (a : α) :
    (l.set (len - remaining.toNat) a).take (len - (remaining - 1).toNat) =
      l.take (len - remaining.toNat) ++ [a] := by
  have hnext : len - (remaining - 1).toNat = len - remaining.toNat + 1 := by
    rw [toNat_pred hpos]
    omega
  rw [hnext, take_succ_set (by omega)]

/-- A countdown that is over. -/
theorem toNat_eq_zero_of_not_pos {remaining : UInt8} (h : ¬ 0 < remaining) :
    remaining.toNat = 0 := by
  rw [UInt8.lt_iff_toNat_lt] at h
  exact Nat.eq_zero_of_not_pos h

end SocksProxy
