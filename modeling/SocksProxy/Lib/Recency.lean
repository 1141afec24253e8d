import Mathlib.Data.List.Nodup
import Mathlib.Logic.Function.Basic
import Mathlib.Order.Basic
import Mathlib.Tactic.Common

/-!
# Lists in the order of last use

A list keeps its elements in the order of their last use when every use moves the element to the
end.  `ByAge k xs` says that `xs` is so ordered, for a key `k` that is the time of the last use;
an element whose key is not known (it has left the system) constrains nothing.

The order survives everything that is done to such a list: an element may leave it, its key may be
forgotten, and a use at a time no earlier than any other moves it to the end (`ByAge.touch`).  What
the order is for is that the first element has waited longest (`ByAge.le_of_head`).
-/

set_option autoImplicit false

namespace SocksProxy

variable {α κ : Type} [LE κ] {k k' : α → Option κ} {xs : List α} {x : α}

/-- Later elements were used no earlier. -/
def ByAge (k : α → Option κ) (xs : List α) : Prop :=
  xs.Pairwise fun a b => ∀ s ∈ k a, ∀ t ∈ k b, s ≤ t

theorem ByAge.nil : ByAge k [] := List.Pairwise.nil

/-- Keys may be forgotten. -/
theorem ByAge.forget (h : ByAge k xs) (hk : ∀ y ∈ xs, ∀ t ∈ k' y, t ∈ k y) : ByAge k' xs :=
  List.Pairwise.imp_of_mem (fun ha hb hab s hs t ht => hab s (hk _ ha s hs) t (hk _ hb t ht)) h

/-- An element may leave. -/
theorem ByAge.erase [DecidableEq α] (h : ByAge k xs) (x : α) : ByAge k (xs.erase x) :=
  List.Pairwise.sublist List.erase_sublist h

/-- **A use moves an element to the end.** -/
theorem ByAge.touch [DecidableEq α] (h : ByAge k xs) (hnd : xs.Nodup) {now : κ}
    (hle : ∀ y, ∀ t ∈ k y, t ≤ now) :
    ByAge (Function.update k x (some now)) (xs.erase x ++ [x]) := by
  have hx : x ∉ xs.erase x := hnd.not_mem_erase
  refine List.pairwise_append.2 ⟨?_, List.pairwise_singleton _ _, ?_⟩
  · refine List.Pairwise.imp_of_mem ?_ (h.erase x)
    intro a b ha hb hab
    have hax : a ≠ x := fun e => hx (e ▸ ha)
    have hbx : b ≠ x := fun e => hx (e ▸ hb)
    rwa [Function.update_of_ne hax, Function.update_of_ne hbx]
  · intro a ha b hb s hs t ht
    have hax : a ≠ x := fun e => hx (e ▸ ha)
    rw [List.mem_singleton.1 hb, Function.update_self] at ht
    rw [Function.update_of_ne hax] at hs
    cases ht
    exact hle a s hs

/-- **The first element has waited longest.** -/
theorem ByAge.le_of_head (h : ByAge k (x :: xs)) {y : α} (hy : y ∈ xs) {s t : κ} (hs : s ∈ k x)
    (ht : t ∈ k y) : s ≤ t :=
  (List.pairwise_cons.1 h).1 y hy s hs t ht

end SocksProxy
