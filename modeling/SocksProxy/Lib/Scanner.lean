import Mathlib.Data.List.Infix
import Mathlib.Tactic.Common

/-!
# Parsers that are fed one symbol at a time

A parser is a function `feed : P → β → P × S` that takes one symbol and answers with a status, one
of which, `more`, asks for the next symbol.  `scan` feeds it until it answers something else.

What a parser has seen is its invariant: `Inv p t` relates the parser to the symbols `t` it was fed
so far.  If every answer `more` keeps the invariant, then `scan_none` says that an undecided parser
is where the whole input leads, and `scan_some` that a decided one was fed one symbol more than it
needed to see.

`Recognises` is what there is to say about a parser for a set of words: it waits exactly while the
input can still become a word, it accepts at the end of a word, and it refuses at the first symbol
after which no word is possible.  That a word is accepted on its last symbol is a consequence
(`Recognises.accepts`), as no word is a beginning of another.
-/

set_option autoImplicit false

namespace SocksProxy

section Scan

variable {P S β : Type} [DecidableEq S] (feed : P → β → P × S) (more : S)

/-- Feed a parser until its status is no longer `more`: the parser, its status, and the symbols that
are left. -/
def scan (p : P) : List β → Option (P × S × List β)
  | [] => none
  | byte :: bs =>
    if (feed p byte).2 = more then scan (feed p byte).1 bs
    else some ((feed p byte).1, (feed p byte).2, bs)

/-- The parser after some symbols, whatever it answers. -/
def fed (p : P) (bs : List β) : P := bs.foldl (fun p byte => (feed p byte).1) p

variable {feed more} {p p' : P} {byte : β} {bs : List β}

theorem scan_more (h : feed p byte = (p', more)) :
    scan feed more p (byte :: bs) = scan feed more p' bs := by
  rw [scan, h, if_pos rfl]

theorem scan_done {status : S} (h : feed p byte = (p', status)) (hne : status ≠ more) :
    scan feed more p (byte :: bs) = some (p', status, bs) := by
  rw [scan, h, if_neg hne]

/-- What comes later does not change what was decided. -/
theorem scan_append {status : S} {rest : List β} (h : scan feed more p bs = some (p', status, rest))
    (late : List β) : scan feed more p (bs ++ late) = some (p', status, rest ++ late) := by
  induction bs generalizing p with
  | nil => cases h
  | cons byte bs ih =>
    rw [List.cons_append, scan]
    rw [scan] at h
    split at h
    · next hmore => rw [if_pos hmore]; exact ih h
    · next hmore => rw [if_neg hmore]; cases h; rfl

/-- A decision is not a request for more. -/
theorem scan_ne_more {status : S} {rest : List β}
    (h : scan feed more p bs = some (p', status, rest)) : status ≠ more := by
  induction bs generalizing p with
  | nil => cases h
  | cons byte bs ih =>
    rw [scan] at h
    split at h
    · exact ih h
    · next hmore => cases h; exact hmore

/-! ## What was fed -/

section Invariant

variable {Inv : P → List β → Prop}
  (hstep : ∀ p t byte p', Inv p t → feed p byte = (p', more) → Inv p' (t ++ [byte]))

include hstep

theorem scan_none_from {t : List β} (hp : Inv p t) (h : scan feed more p bs = none) :
    Inv (fed feed p bs) (t ++ bs) := by
  induction bs generalizing p t with
  | nil => rwa [List.append_nil]
  | cons byte bs ih =>
    rw [scan] at h
    split at h
    · next hmore =>
      have hnext := hstep p t byte (feed p byte).1 hp (Prod.ext rfl hmore)
      have := ih hnext h
      rwa [List.append_assoc] at this
    · cases h

theorem scan_some_from {status : S} {rest t : List β} (hp : Inv p t)
    (h : scan feed more p bs = some (p', status, rest)) :
    ∃ u byte q, bs = u ++ byte :: rest ∧ Inv q (t ++ u) ∧ feed q byte = (p', status) := by
  induction bs generalizing p t with
  | nil => cases h
  | cons byte bs ih =>
    rw [scan] at h
    split at h
    · next hmore =>
      have hnext := hstep p t byte (feed p byte).1 hp (Prod.ext rfl hmore)
      obtain ⟨u, last, q, rfl, hq, hlast⟩ := ih hnext h
      refine ⟨byte :: u, last, q, rfl, ?_, hlast⟩
      rwa [List.append_assoc] at hq
    · cases h
      exact ⟨[], byte, p, rfl, by rwa [List.append_nil], rfl⟩

/-- An undecided parser has seen the whole input. -/
theorem scan_none (hp : Inv p []) (h : scan feed more p bs = none) : Inv (fed feed p bs) bs :=
  scan_none_from hstep hp h

/-- A decided parser had seen everything up to the deciding symbol. -/
theorem scan_some {status : S} {rest : List β} (hp : Inv p [])
    (h : scan feed more p bs = some (p', status, rest)) :
    ∃ t byte q, bs = t ++ byte :: rest ∧ Inv q t ∧ feed q byte = (p', status) :=
  scan_some_from hstep hp h

end Invariant

/-! ## Words -/

section Words

variable {V : Type} (encode : V → List β) (valid : V → Prop)

omit [DecidableEq S] in
/-- The encoding of a valid value. -/
def IsWord (w : List β) : Prop := ∃ v, valid v ∧ encode v = w

/-- `bs` is not a word yet, but can become one. -/
def Unfinished (bs : List β) : Prop := ∃ late, late ≠ [] ∧ IsWord encode valid (bs ++ late)

/-- No word begins with `bs`. -/
def Hopeless (bs : List β) : Prop := ∀ late, ¬ IsWord encode valid (bs ++ late)

/-- No word is a beginning of another, and none is the encoding of two values. -/
def PrefixFree : Prop :=
  ∀ v v' late, valid v → valid v' → encode v ++ late = encode v' → late = [] ∧ v = v'

variable {encode valid} {t : List β} {v : V}

theorem not_unfinished_of_hopeless {late : List β} (h : Hopeless encode valid t) :
    ¬ Unfinished encode valid (t ++ late) := by
  rintro ⟨later, -, hw⟩
  rw [List.append_assoc] at hw
  exact h _ hw

theorem PrefixFree.not_unfinished {late : List β} (hfree : PrefixFree encode valid) (hv : valid v) :
    ¬ Unfinished encode valid (encode v ++ late) := by
  rintro ⟨later, hne, v', hv', hw⟩
  have hnil := (hfree v v' (late ++ later) hv hv' (by rw [← List.append_assoc, hw])).1
  exact hne (List.append_eq_nil_iff.1 hnil).2

/-- The word at the beginning of a string is one at most. -/
theorem PrefixFree.eq_of_append (hfree : PrefixFree encode valid) {v' : V} (hv : valid v)
    (hv' : valid v') {rest rest' : List β} (h : encode v ++ rest = encode v' ++ rest') :
    v = v' ∧ rest = rest' := by
  rcases List.append_eq_append_iff.1 h with ⟨late, hl, hr⟩ | ⟨late, hl, hr⟩
  · obtain ⟨rfl, rfl⟩ := hfree v v' late hv hv' hl.symm
    exact ⟨rfl, hr⟩
  · obtain ⟨rfl, rfl⟩ := hfree v' v late hv' hv hl.symm
    exact ⟨rfl, hr.symm⟩

variable (feed more p encode valid) in
/-- The parser `p` tells the words from everything else; `gives` says which value a decided parser
holds, if any. -/
structure Recognises (gives : P → S → V → Prop) : Prop where
  free : PrefixFree encode valid
  /-- While the parser is undecided, the input can become a word. -/
  waits : ∀ bs, scan feed more p bs = none → Unfinished encode valid bs
  /-- Once it has decided, it has read a word, or a symbol that fits none. -/
  decides : ∀ bs p' status rest, scan feed more p bs = some (p', status, rest) →
    (∃ v, valid v ∧ gives p' status v ∧ bs = encode v ++ rest) ∨
      (∀ v, ¬ gives p' status v) ∧ ∃ t byte, bs = t ++ byte :: rest ∧
        Unfinished encode valid t ∧ Hopeless encode valid (t ++ [byte])

/-- It is enough to look at one symbol at a time. -/
theorem Recognises.of_inv {gives : P → S → V → Prop} {Inv : P → List β → Prop} (hp : Inv p [])
    (hstep : ∀ p t byte p', Inv p t → feed p byte = (p', more) → Inv p' (t ++ [byte]))
    (hfree : PrefixFree encode valid) (hopen : ∀ p t, Inv p t → Unfinished encode valid t)
    (hdone : ∀ p t byte p' status, Inv p t → feed p byte = (p', status) → status ≠ more →
      (∃ v, valid v ∧ gives p' status v ∧ t ++ [byte] = encode v) ∨
        (∀ v, ¬ gives p' status v) ∧ Hopeless encode valid (t ++ [byte])) :
    Recognises feed more p encode valid gives := by
  refine ⟨hfree, fun bs h => hopen _ _ (scan_none hstep hp h),
    fun bs p' status rest h => ?_⟩
  obtain ⟨t, byte, q, rfl, hq, hfeed⟩ := scan_some hstep hp h
  rcases hdone q t byte p' status hq hfeed (scan_ne_more h) with ⟨v, hv, hg, hw⟩ | ⟨hno, hw⟩
  · refine .inl ⟨v, hv, hg, ?_⟩
    rw [← hw, List.append_assoc]
    rfl
  · exact .inr ⟨hno, t, byte, rfl, hopen q t hq, hw⟩

namespace Recognises

variable {gives : P → S → V → Prop} (h : Recognises feed more p encode valid gives)

include h

/-- **A word is accepted on its last symbol**, with its value, whatever follows it. -/
theorem accepts (hv : valid v) (rest : List β) :
    ∃ p' status, scan feed more p (encode v ++ rest) = some (p', status, rest) ∧
      gives p' status v := by
  cases hs : scan feed more p (encode v ++ rest) with
  | none => exact absurd (h.waits _ hs) (h.free.not_unfinished hv)
  | some r =>
    obtain ⟨p', status, rest'⟩ := r
    rcases h.decides _ _ _ _ hs with ⟨v', hv', hg, hw⟩ | ⟨-, t, byte, hw, hopen, hhopeless⟩
    · obtain ⟨rfl, rfl⟩ := h.free.eq_of_append hv hv' hw
      exact ⟨p', status, rfl, hg⟩
    · -- the symbol that fits no word is not in this one, and nothing behind a word is unfinished
      have hsplit : encode v ++ rest = (t ++ [byte]) ++ rest' := by
        rw [hw, List.append_assoc]
        rfl
      rcases List.append_eq_append_iff.1 hsplit with ⟨late, hl, -⟩ | ⟨late, hl, -⟩
      · rcases List.eq_nil_or_concat late with rfl | ⟨early, last, rfl⟩
        · rw [List.append_nil] at hl
          exact absurd ⟨v, hv, by rw [hl, List.append_nil]⟩ (hhopeless [])
        · rw [List.concat_eq_append, ← List.append_assoc] at hl
          obtain ⟨rfl, -⟩ := List.append_inj' hl rfl
          exact absurd hopen (h.free.not_unfinished hv)
      · exact absurd ⟨v, hv, hl⟩ (hhopeless late)

/-- **The parser waits exactly while the input can become a word.** -/
theorem scan_eq_none_iff : scan feed more p bs = none ↔ Unfinished encode valid bs := by
  refine ⟨h.waits bs, fun hu => ?_⟩
  cases hs : scan feed more p bs with
  | none => rfl
  | some r =>
    obtain ⟨p', status, rest⟩ := r
    rcases h.decides _ _ _ _ hs with ⟨v, hv, -, rfl⟩ | ⟨-, t, byte, rfl, -, hhopeless⟩
    · exact absurd hu (h.free.not_unfinished hv)
    · rw [List.append_cons] at hu
      exact absurd hu (not_unfinished_of_hopeless hhopeless)

end Recognises

end Words

end Scan

end SocksProxy
