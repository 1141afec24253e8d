import Mathlib.Data.List.Nodup
import Mathlib.Data.List.Perm.Subperm
import Mathlib.Logic.Function.Basic
import Mathlib.Tactic.Common

/-!
# Intrusive doubly linked lists

A list threaded through its own elements: every element carries a `prev` and a `next` link and a
flag saying whether it is on the list, and the owner keeps the two ends.  `Linked α` holds the
links of all elements side by side, so a node is just a value of `α`.

`Linked.Repr l xs` says that the links of `l` spell out the list `xs`.  The two operations refine
the obvious ones on lists: unlinking is `List.erase` (`Repr.remove`) and linking at the tail is
erasing and appending (`Repr.pushTail`).
-/

set_option autoImplicit false

namespace SocksProxy

variable {α : Type} [DecidableEq α]

/-- The links of an intrusive doubly linked list. -/
structure Linked (α : Type) where
  /-- The first node. -/
  head : Option α
  /-- The last node. -/
  tail : Option α
  /-- The link towards the head. -/
  prev : α → Option α
  /-- The link towards the tail. -/
  next : α → Option α
  /-- Whether a node is on the list. -/
  mem : α → Bool

namespace Linked

/-- No node is on the list. -/
def empty : Linked α :=
  ⟨none, none, fun _ => none, fun _ => none, fun _ => false⟩

/-- Make `y?` the successor of `p?`, or the head when there is no `p?`. -/
def setNext (l : Linked α) (p? y? : Option α) : Linked α :=
  match p? with
  | some p => { l with next := Function.update l.next p y? }
  | none => { l with head := y? }

/-- Make `y?` the predecessor of `n?`, or the tail when there is no `n?`. -/
def setPrev (l : Linked α) (n? y? : Option α) : Linked α :=
  match n? with
  | some n => { l with prev := Function.update l.prev n y? }
  | none => { l with tail := y? }

/-- Clear the links of `x` itself. -/
def unlinkSelf (l : Linked α) (x : α) : Linked α :=
  { l with
    prev := Function.update l.prev x none
    next := Function.update l.next x none
    mem := Function.update l.mem x false }

/-- Unlink `x`; nothing happens when it is not on the list. -/
def remove (l : Linked α) (x : α) : Linked α :=
  if l.mem x then
    ((l.setNext (l.prev x) (l.next x)).setPrev (l.next x) (l.prev x)).unlinkSelf x
  else l

/-- Link `x`, which must not be on the list, after the tail. -/
def link (l : Linked α) (x : α) : Linked α :=
  let l' : Linked α := { l with
    prev := Function.update l.prev x l.tail
    next := Function.update l.next x none }
  { l'.setNext l.tail (some x) with
    tail := some x
    mem := Function.update l.mem x true }

/-- Move `x` to the tail, linking it if it was not on the list. -/
def pushTail (l : Linked α) (x : α) : Linked α :=
  if l.mem x then
    if l.tail = some x then l else (l.remove x).link x
  else l.link x

/-! ## One direction of the links

The forward and the backward links are the same structure read from the two ends, so unlinking and
linking are analysed once, for a start `h?` and a successor function `nx`. -/

omit [DecidableEq α] in
/-- From the start `h?`, the links `nx` run through `xs` and end there. -/
def Follows (h? : Option α) (nx : α → Option α) (xs : List α) : Prop :=
  h? = xs.head? ∧ ∀ as x bs, xs = as ++ x :: bs → nx x = bs.head?

omit [DecidableEq α] in
/-- Around a node in the middle of a duplicate-free list. -/
private theorem nodup_split {as bs : List α} {x : α} (h : (as ++ x :: bs).Nodup) :
    x ∉ as ∧ x ∉ bs ∧ ∀ y ∈ as, y ∉ bs := by
  rw [List.nodup_append, List.nodup_cons] at h
  obtain ⟨-, ⟨hxb, -⟩, hne⟩ := h
  exact ⟨fun hx => hne x hx x List.mem_cons_self rfl, hxb,
    fun y hy hyb => hne y hy y (List.mem_cons_of_mem _ hyb) rfl⟩

/-- The links of one direction after unlinking the node between `as` and `bs`. -/
theorem Follows.remove {h? : Option α} {nx : α → Option α} {as bs : List α} {x : α}
    (hnd : (as ++ x :: bs).Nodup) (h : Follows h? nx (as ++ x :: bs)) {h?' : Option α}
    {nx' : α → Option α} (hh : h?' = if as = [] then bs.head? else h?)
    (hnx : ∀ y, y ≠ x → nx' y = if as.getLast? = some y then bs.head? else nx y) :
    Follows h?' nx' (as ++ bs) := by
  obtain ⟨hxa, hxb, hab⟩ := nodup_split hnd
  refine ⟨?_, fun as' y bs' heq => ?_⟩
  · rw [hh]
    split
    · rename_i has; rw [has, List.nil_append]
    · rename_i has
      rw [h.1, List.head?_append_of_ne_nil _ has, List.head?_append_of_ne_nil _ has]
  · have hy : y ∈ as ++ bs := heq ▸ List.mem_append_right _ List.mem_cons_self
    have hyx : y ≠ x := by
      rintro rfl
      exact (List.mem_append.1 hy).elim hxa hxb
    rw [hnx y hyx]
    rcases List.append_eq_append_iff.1 heq with ⟨c, rfl, rfl⟩ | ⟨c, rfl, hc⟩
    · -- `y` lies behind `x`, so its link is untouched
      have hya : as.getLast? ≠ some y := fun hl => hab y (List.mem_of_getLast? hl) (by simp)
      rw [if_neg hya]
      exact h.2 (as ++ x :: c) y bs' (by simp)
    · rcases c with _ | ⟨z, c⟩
      · simp only [List.nil_append] at hc
        subst hc
        have hya : (as' ++ []).getLast? ≠ some y :=
          fun hl => hab y (List.mem_of_getLast? hl) List.mem_cons_self
        rw [if_neg hya]
        exact h.2 (as' ++ [x]) y bs' (by simp)
      · rw [List.cons_append, List.cons.injEq] at hc
        obtain ⟨rfl, rfl⟩ := hc
        have hsplit := h.2 as' y (c ++ x :: bs) (by simp)
        rcases List.eq_nil_or_concat c with rfl | ⟨c, p, rfl⟩
        · simp
        · have hpy : p ≠ y := by
            rintro rfl
            have hnd' : (as' ++ p :: (c ++ [p] ++ x :: bs)).Nodup := by simpa using hnd
            have := (nodup_split hnd').2.1
            simp at this
          rw [List.concat_eq_append] at hsplit ⊢
          rw [← List.cons_append, ← List.append_assoc, List.getLast?_concat,
            if_neg (by simpa using hpy), hsplit]
          cases c <;> simp

/-- The links of one direction after linking a new node at the far end. -/
theorem Follows.concat {h? : Option α} {nx : α → Option α} {xs : List α} {x : α} (hx : x ∉ xs)
    (h : Follows h? nx xs) {h?' : Option α} {nx' : α → Option α}
    (hh : h?' = if xs = [] then some x else h?) (hnx : nx' x = none)
    (hnx' : ∀ y, y ≠ x → nx' y = if xs.getLast? = some y then some x else nx y)
    (hnd : xs.Nodup) : Follows h?' nx' (xs ++ [x]) := by
  refine ⟨?_, fun as y bs heq => ?_⟩
  · rw [hh]
    split
    · rename_i hxs; simp [hxs]
    · rename_i hxs; rw [h.1, List.head?_append_of_ne_nil _ hxs]
  · rcases List.eq_nil_or_concat bs with rfl | ⟨bs, z, rfl⟩
    · have : xs = as ∧ x = y := by simpa using heq
      rw [← this.2, hnx]; rfl
    · rw [List.concat_eq_append, ← List.cons_append, ← List.append_assoc] at heq
      obtain ⟨rfl, hz⟩ : xs = as ++ y :: bs ∧ x = z := by
        have := List.append_inj' heq rfl
        simpa using this
      have hyx : y ≠ x := by rintro rfl; simp at hx
      rw [hnx' y hyx, hz, List.concat_eq_append]
      have hsplit := h.2 as y bs rfl
      rcases List.eq_nil_or_concat bs with rfl | ⟨bs, p, rfl⟩
      · simp
      · have hpy : p ≠ y := by
          rintro rfl
          have := (nodup_split hnd).2.1
          simp at this
        rw [List.concat_eq_append] at hsplit ⊢
        rw [← List.cons_append, ← List.append_assoc, List.getLast?_concat,
          if_neg (by simpa using hpy), hsplit]
        cases bs <;> simp

omit [DecidableEq α] in
/-- The links of one direction after linking a new node at the near end. -/
theorem Follows.cons {h? : Option α} {nx : α → Option α} {xs : List α} {x : α} (hx : x ∉ xs)
    (h : Follows h? nx xs) {h?' : Option α} {nx' : α → Option α} (hh : h?' = some x)
    (hnx : nx' x = h?) (hnx' : ∀ y, y ≠ x → nx' y = nx y) : Follows h?' nx' (x :: xs) := by
  refine ⟨hh, fun as y bs heq => ?_⟩
  rcases as with _ | ⟨a, as⟩
  · obtain ⟨rfl, rfl⟩ : x = y ∧ xs = bs := by simpa using heq
    rw [hnx, h.1]
  · obtain ⟨rfl, rfl⟩ : x = a ∧ xs = as ++ y :: bs := by simpa using heq
    rw [hnx' y (by rintro rfl; simp at hx), h.2 as y bs rfl]

/-! ## The list spelled out by the links -/

/-- The links of `l` spell out `xs`. -/
structure Repr (l : Linked α) (xs : List α) : Prop where
  nodup : xs.Nodup
  mem : ∀ x, l.mem x = true ↔ x ∈ xs
  fwd : Follows l.head l.next xs
  bwd : Follows l.tail l.prev xs.reverse

omit [DecidableEq α] in
theorem Repr.empty : Repr (Linked.empty : Linked α) [] where
  nodup := List.nodup_nil
  mem x := by simp [Linked.empty]
  fwd := ⟨rfl, fun as x bs h => by simp at h⟩
  bwd := ⟨rfl, fun as x bs h => by simp at h⟩

omit [DecidableEq α] in
theorem Repr.head {l : Linked α} {xs : List α} (h : Repr l xs) : l.head = xs.head? := h.fwd.1

omit [DecidableEq α] in
theorem Repr.tail {l : Linked α} {xs : List α} (h : Repr l xs) : l.tail = xs.getLast? := by
  rw [h.bwd.1, List.head?_reverse]

theorem remove_of_not_mem {l : Linked α} {x : α} (h : l.mem x = false) : l.remove x = l := by
  simp [remove, h]

@[simp] theorem mem_remove (l : Linked α) (x y : α) :
    (l.remove x).mem y = (l.mem y && decide (y ≠ x)) := by
  rw [remove]
  split
  · have hm : ((l.setNext (l.prev x) (l.next x)).setPrev (l.next x) (l.prev x)).mem = l.mem := by
      cases l.prev x <;> cases l.next x <;> rfl
    show Function.update (Linked.mem _) x false y = _
    rw [hm, Function.update_apply]
    split <;> simp_all
  · by_cases hyx : y = x <;> simp_all

theorem Repr.remove {l : Linked α} {xs : List α} (h : Repr l xs) (x : α) :
    Repr (l.remove x) (xs.erase x) := by
  by_cases hx : x ∈ xs
  swap
  · have hm : l.mem x = false := by rw [← Bool.not_eq_true, h.mem]; exact hx
    rw [remove_of_not_mem hm, List.erase_of_not_mem hx]
    exact h
  refine ⟨h.nodup.erase x, fun y => ?_, ?_, ?_⟩
  · rw [mem_remove, Bool.and_eq_true, h.mem, decide_eq_true_iff, h.nodup.mem_erase_iff, and_comm]
  all_goals
    obtain ⟨as, bs, rfl⟩ := List.append_of_mem hx
    have hxa : x ∉ as := (nodup_split h.nodup).1
    have hp : l.prev x = as.getLast? := by
      rw [h.bwd.2 bs.reverse x as.reverse (by simp), List.head?_reverse]
    have hn : l.next x = bs.head? := h.fwd.2 as x bs rfl
    rw [List.erase_append_right _ hxa, List.erase_cons_head, Linked.remove,
      if_pos ((h.mem x).2 hx), hp, hn]
  · refine h.fwd.remove h.nodup ?_ fun y hy => ?_
    · rcases List.eq_nil_or_concat as with rfl | ⟨as, p, rfl⟩ <;> cases bs <;>
        simp [setNext, setPrev, unlinkSelf]
    · show Function.update (Linked.next _) x none y = _
      rw [Function.update_of_ne hy]
      rcases List.eq_nil_or_concat as with rfl | ⟨as, p, rfl⟩ <;> cases bs <;>
        simp [setNext, setPrev, Function.update_apply, eq_comm]
  · have hnd : (bs.reverse ++ x :: as.reverse).Nodup := by
      simpa using List.nodup_reverse.2 h.nodup
    rw [List.reverse_append]
    refine Follows.remove hnd (by simpa using h.bwd) ?_ fun y hy => ?_
    · rcases List.eq_nil_or_concat as with rfl | ⟨as, p, rfl⟩ <;> cases bs <;>
        simp [setNext, setPrev, unlinkSelf]
    · show Function.update (Linked.prev _) x none y = _
      rw [Function.update_of_ne hy]
      rcases List.eq_nil_or_concat as with rfl | ⟨as, p, rfl⟩ <;> cases bs <;>
        simp [setNext, setPrev, Function.update_apply, eq_comm]

@[simp] theorem mem_link (l : Linked α) (x y : α) :
    (l.link x).mem y = (l.mem y || decide (y = x)) := by
  show Function.update l.mem x true y = _
  rw [Function.update_apply]
  split <;> simp_all

theorem Repr.link {l : Linked α} {xs : List α} (h : Repr l xs) {x : α} (hx : x ∉ xs) :
    Repr (l.link x) (xs ++ [x]) := by
  have ht := h.tail
  refine ⟨?_, fun y => ?_, ?_, ?_⟩
  · exact List.nodup_append.2 ⟨h.nodup, List.nodup_singleton x, by
      rintro a ha b hb rfl
      exact hx ((List.mem_singleton.1 hb) ▸ ha)⟩
  · rw [mem_link, Bool.or_eq_true, h.mem, decide_eq_true_iff, List.mem_append, List.mem_singleton]
  · refine h.fwd.concat hx ?_ ?_ (fun y hy => ?_) h.nodup
    all_goals
      rw [Linked.link, ht]
      rcases List.eq_nil_or_concat xs with rfl | ⟨xs, p, rfl⟩
    · simp [setNext]
    · simp [setNext]
    · simp [setNext]
    · have : x ≠ p := by rintro rfl; simp at hx
      simp [setNext, Function.update_of_ne this]
    · simp [setNext, Function.update_of_ne hy]
    · simp [setNext, Function.update_apply, hy, eq_comm]
  · rw [List.reverse_append, List.reverse_singleton, List.singleton_append]
    have hpv : (l.link x).prev = Function.update l.prev x l.tail := by
      rw [Linked.link]; cases l.tail <;> rfl
    refine Follows.cons (by simpa using hx) h.bwd rfl ?_ fun y hy => ?_
    · rw [hpv, Function.update_self]
    · rw [hpv, Function.update_of_ne hy]

@[simp] theorem mem_pushTail (l : Linked α) (x y : α) :
    (l.pushTail x).mem y = (l.mem y || decide (y = x)) := by
  rw [pushTail]
  split
  · split
    · by_cases hyx : y = x <;> simp_all
    · rw [mem_link, mem_remove]
      by_cases hyx : y = x <;> simp_all
  · rw [mem_link]

theorem Repr.pushTail {l : Linked α} {xs : List α} (h : Repr l xs) (x : α) :
    Repr (l.pushTail x) (xs.erase x ++ [x]) := by
  rw [Linked.pushTail]
  split
  · split
    · rename_i ht
      rw [h.tail] at ht
      obtain ⟨ys, rfl⟩ := List.getLast?_eq_some_iff.1 ht
      have hnd : (ys ++ x :: []).Nodup := by simpa using h.nodup
      have hx : x ∉ ys := (nodup_split hnd).1
      rw [List.erase_append_right _ hx]
      simpa using h
    · exact (h.remove x).link h.nodup.not_mem_erase
  · rename_i hm
    have hx : x ∉ xs := fun hx => hm ((h.mem x).2 hx)
    rw [List.erase_of_not_mem hx]
    exact h.link hx

omit [DecidableEq α] in
/-- A list of numbers below a bound is no longer than the bound. -/
theorem Repr.length_le {l : Linked ℕ} {xs : List ℕ} (h : Repr l xs) {n : ℕ}
    (hlt : ∀ x, l.mem x = true → x < n) : xs.length ≤ n := by
  have hsub : xs ⊆ List.range n := fun x hx => List.mem_range.2 (hlt x ((h.mem x).2 hx))
  exact List.length_range (n := n) ▸ (List.subperm_of_subset h.nodup hsub).length_le

/-- A list that has lost an element and gained none is shorter. -/
theorem Repr.length_lt {l l' : Linked α} {xs ys : List α} (h : Repr l xs) (h' : Repr l' ys)
    (hsub : ∀ y, l'.mem y = true → l.mem y = true) {x : α} (hx : l.mem x = true)
    (hx' : l'.mem x = false) : ys.length < xs.length := by
  have herase : ys ⊆ xs.erase x := by
    intro y hy
    have hmem := (h'.mem y).2 hy
    have hne : y ≠ x := by
      rintro rfl
      rw [hx'] at hmem
      cases hmem
    exact (List.mem_erase_of_ne hne).2 ((h.mem y).1 (hsub y hmem))
  have hxs : x ∈ xs := (h.mem x).1 hx
  have hle := (List.subperm_of_subset h'.nodup herase).length_le
  rw [List.length_erase_of_mem hxs] at hle
  have := List.length_pos_of_mem hxs
  omega

end Linked

end SocksProxy
