import SocksProxy.Monitor.Commands

/-!
# Numbers, written and read back

`decimal` is what `%u` and `%llu` write.  Its bytes are digits, there is at least one, and their
value is the number (`foldl_decimal`), so whatever reads digits up to the first other byte reads it
back.
-/

set_option autoImplicit false

namespace SocksProxy

variable {n : ℕ} {rest : Bytes}

theorem decimal_digit {b : UInt8} (h : b ∈ decimal n) : 48 ≤ b.toNat ∧ b.toNat ≤ 57 := by
  obtain ⟨c, hc, rfl⟩ := List.mem_map.1 h
  have hdigit := Nat.isDigit_of_mem_toDigits (by decide) (by decide) hc
  simp only [Char.isDigit, Bool.and_eq_true, decide_eq_true_eq] at hdigit
  have hlow : 48 ≤ c.toNat := hdigit.1
  have hhigh : c.toNat ≤ 57 := hdigit.2
  rw [UInt8.toNat_ofNat']
  omega

theorem isDigit_of_mem_decimal {b : UInt8} (h : b ∈ decimal n) : isDigit b = true := by
  have := decimal_digit h
  simp only [isDigit, Bool.and_eq_true, decide_eq_true_eq, UInt8.le_iff_toNat_le]
  exact this

theorem decimal_ne_nil (n : ℕ) : decimal n ≠ [] := fun h =>
  Nat.toDigits_ne_nil (List.map_eq_nil_iff.1 h)

/-- **The digits say the number.** -/
theorem foldl_decimal (n : ℕ) :
    (decimal n).foldl (fun m d => m * 10 + (d.toNat - 48)) 0 = n := by
  have hvalue : ∀ (cs : List Char) (m : ℕ), (∀ c ∈ cs, c.isDigit = true) →
      (cs.map fun c => UInt8.ofNat c.toNat).foldl (fun m d => m * 10 + (d.toNat - 48)) m =
        Nat.ofDigitChars 10 cs m := by
    intro cs
    induction cs with
    | nil => simp
    | cons c cs ih =>
      intro m hcs
      rw [List.forall_mem_cons] at hcs
      have hc := hcs.1
      simp only [Char.isDigit, Bool.and_eq_true, decide_eq_true_eq] at hc
      have hhigh : c.toNat ≤ 57 := hc.2
      have hbyte : (UInt8.ofNat c.toNat).toNat = c.toNat := by
        rw [UInt8.toNat_ofNat']
        omega
      rw [List.map_cons, List.foldl_cons, Nat.ofDigitChars_cons, hbyte, ih _ hcs.2, Nat.mul_comm]
      rfl
  have hdigits : ∀ c ∈ Nat.toDigits 10 n, c.isDigit = true := fun c hc =>
    Nat.isDigit_of_mem_toDigits (by decide) (by decide) hc
  rw [decimal, hvalue _ 0 hdigits, Nat.ofDigitChars_ten_toDigits]

/-- A number starts with a digit, which is neither a blank nor a sign. -/
theorem decimal_head (n : ℕ) (rest : Bytes) : ∃ b bs, decimal n ++ rest = b :: bs ∧
    isSpace b = false ∧ b ≠ 45 ∧ b ≠ 43 := by
  obtain ⟨b, bs, hcons⟩ := List.exists_cons_of_ne_nil (decimal_ne_nil n)
  have hb := decimal_digit (hcons ▸ List.mem_cons_self : b ∈ decimal n)
  refine ⟨b, bs ++ rest, by rw [hcons, List.cons_append], ?_, ?_, ?_⟩
  · rw [← Bool.not_eq_true]
    simp only [isSpace, Bool.or_eq_true, Bool.and_eq_true, beq_iff_eq, decide_eq_true_eq,
      UInt8.le_iff_toNat_le]
    rintro (rfl | ⟨-, hle⟩)
    · exact absurd hb.1 (by decide)
    · exact absurd (Nat.le_trans hb.1 hle) (by decide)
  · rintro rfl
    exact absurd hb.1 (by decide)
  · rintro rfl
    exact absurd hb.1 (by decide)

/-- Blanks and signs are looked for in vain. -/
theorem decimal_unsigned (n : ℕ) (rest : Bytes) :
    (decimal n ++ rest).dropWhile isSpace = decimal n ++ rest ∧
      ((decimal n ++ rest).head? == some 45) = false ∧
      ((decimal n ++ rest).head? == some 43) = false := by
  obtain ⟨b, bs, hcons, hspace, hminus, hplus⟩ := decimal_head n rest
  rw [hcons]
  refine ⟨List.dropWhile_cons_of_neg (by simp [hspace]), ?_, ?_⟩
  · simpa using hminus
  · simpa using hplus

/-- The digits end where something else begins. -/
theorem decimal_split (n : ℕ) (rest : Bytes) (hrest : ∀ b ∈ rest.head?, isDigit b = false) :
    (decimal n ++ rest).takeWhile isDigit = decimal n ∧
      (decimal n ++ rest).dropWhile isDigit = rest := by
  have hall : ∀ b ∈ decimal n, isDigit b = true := fun b hb => isDigit_of_mem_decimal hb
  rw [List.takeWhile_append_of_pos hall, List.dropWhile_append_of_pos hall]
  cases rest with
  | nil => simp
  | cons b bs =>
    have hb := hrest b (by simp)
    simp [hb]

/-- `strtol` reads a number back. -/
theorem strtol_decimal (hn : n < 2 ^ 63) : strtol (decimal n) = ((n : ℤ), []) := by
  obtain ⟨hspace, hminus, hplus⟩ := decimal_unsigned n []
  obtain ⟨htake, hdrop⟩ := decimal_split n [] (by simp)
  rw [List.append_nil] at hspace hminus hplus htake hdrop
  have hcast : ∀ (ds : Bytes) (m : ℕ),
      ds.foldl (fun (k : ℤ) d => k * 10 + ((d.toNat - 48 : ℕ) : ℤ)) m =
        ((ds.foldl (fun k d => k * 10 + (d.toNat - 48)) m : ℕ) : ℤ) := by
    intro ds
    induction ds with
    | nil => simp
    | cons d ds ih =>
      intro m
      rw [List.foldl_cons, List.foldl_cons, ← ih]
      push_cast
      rfl
  have hvalue := hcast (decimal n) 0
  rw [foldl_decimal] at hvalue
  rw [strtol]
  simp only [hspace, hminus, hplus, htake, hdrop, decimal_ne_nil, Bool.or_self, Bool.false_eq_true,
    if_false]
  refine Prod.ext ?_ rfl
  refine (congrArg (min · _) hvalue).trans (Int.min_eq_left ?_)
  omega

end SocksProxy
