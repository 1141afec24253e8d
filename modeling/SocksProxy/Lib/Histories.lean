import Mathlib.Tactic.Common

/-!
# Histories

A history is a list that only grows at its end.  `Preceded Q R l` says that whenever an entry
satisfying `Q` was added, the history up to then satisfied `R`.  It is what "nothing of this kind
happens before that" comes to, and it is kept as long as each addition respects it.
-/

set_option autoImplicit false

namespace SocksProxy

variable {α : Type} {Q : α → Prop} {R : List α → Prop} {l new : List α}

/-- Every entry that satisfies `Q` comes after a history that satisfies `R`. -/
def Preceded (Q : α → Prop) (R : List α → Prop) (l : List α) : Prop :=
  ∀ (n : ℕ) (a : α), l[n]? = some a → Q a → R (l.take n)

namespace Preceded

theorem nil : Preceded Q R [] := by
  intro n a h
  simp at h

/-- A few entries are added, each to a history that it may follow. -/
theorem append (h : Preceded Q R l)
    (hnew : ∀ n a, new[n]? = some a → Q a → R (l ++ new.take n)) : Preceded Q R (l ++ new) := by
  intro n a ha hq
  by_cases hn : n < l.length
  · rw [List.getElem?_append_left hn] at ha
    rw [List.take_append_of_le_length (Nat.le_of_lt hn)]
    exact h n a ha hq
  · have hle := Nat.le_of_not_lt hn
    rw [List.getElem?_append_right hle] at ha
    rw [List.take_append, List.take_of_length_le hle]
    exact hnew (n - l.length) a ha hq

/-- The entries that are added do not matter. -/
theorem append_of_not (h : Preceded Q R l) (hnew : ∀ a ∈ new, ¬ Q a) : Preceded Q R (l ++ new) :=
  h.append fun _ a ha hq => absurd hq (hnew a (List.mem_of_getElem? ha))

/-- One entry is added. -/
theorem concat {a : α} (h : Preceded Q R l) (ha : Q a → R l) : Preceded Q R (l ++ [a]) := by
  refine h.append fun n b hb hq => ?_
  obtain ⟨hn, rfl⟩ := List.getElem?_eq_some_iff.1 hb
  obtain rfl : n = 0 := by simpa using hn
  simpa using ha hq

end Preceded

end SocksProxy
