import SocksProxy.Client.Protocol
import SocksProxy.Monitor.Numbers

/-!
# What the client reads in an answer

The server writes its numbers with `decimal` and its refusals behind `-ERR`; the client reads them
with `sscanf` and `refusalText`.  Here both are put together: the numbers of `STATS` and `CONFIG`
come back as they were (`statsResult_statsLine`, `configResult_decimal`), and so do the refusals.
-/

set_option autoImplicit false

namespace SocksProxy

variable {n : ℕ} {rest s : Bytes} {format : List Directive}

/-- `strtoull` reads a number back. -/
theorem strtoull_decimal (hn : n < 2 ^ 64) (hrest : ∀ b ∈ rest.head?, isDigit b = false) :
    strtoull (decimal n ++ rest) = some (n, rest) := by
  obtain ⟨hspace, hminus, hplus⟩ := decimal_unsigned n rest
  obtain ⟨htake, hdrop⟩ := decimal_split n rest hrest
  have hbound : ¬ 2 ^ 64 ≤ n := by omega
  rw [strtoull]
  simp only [hspace, hminus, hplus, htake, hdrop, decimal_ne_nil, foldl_decimal, hbound,
    Bool.or_self, Bool.false_eq_true, if_false]

theorem sscanf_text (t : Bytes) : sscanf (.text t :: format) (t ++ s) = sscanf format s := by
  rw [sscanf, if_pos (List.isPrefixOf_iff_prefix.2 (List.prefix_append t s)), List.drop_left]

theorem sscanf_blank {b : UInt8} (hb : isSpace b = false) :
    sscanf (.blank :: format) (32 :: b :: s) = sscanf format (b :: s) := by
  rw [sscanf, List.dropWhile_cons_of_pos (by decide), List.dropWhile_cons_of_neg (by simp [hb])]

theorem sscanf_unsigned {bits : ℕ} (hn : n < 2 ^ bits) (hbits : bits ≤ 64)
    (hrest : ∀ b ∈ rest.head?, isDigit b = false) :
    sscanf (.unsigned bits :: format) (decimal n ++ rest) = n :: sscanf format rest := by
  have hbound : n < 2 ^ 64 := Nat.lt_of_lt_of_le hn (Nat.pow_le_pow_right (by decide) hbits)
  rw [sscanf, strtoull_decimal hbound hrest]
  dsimp only
  rw [Nat.mod_eq_of_lt hn]

/-- A number below `10 ^ k` has at most `k` digits. -/
theorem length_decimal_le {k : ℕ} (hk : 0 < k) (hn : n < 10 ^ k) : (decimal n).length ≤ k := by
  rw [decimal, List.length_map]
  exact (Nat.length_toDigits_le_iff (by decide) hk).2 hn

theorem notMem_decimal {b : UInt8} (hb : b.toNat < 48) : b ∉ decimal n := fun hmem =>
  absurd (decimal_digit hmem).1 (by omega)

/-- The line of `STATS`. -/
def statsLine (a b c d : ℕ) : Bytes :=
  ascii "+OK" ++ 32 :: (ascii "total_connections=" ++ (decimal a ++
    32 :: (ascii "concurrent_connections=" ++ (decimal b ++
      32 :: (ascii "bytes_up=" ++ (decimal c ++
        32 :: (ascii "bytes_down=" ++ (decimal d ++ []))))))))

/-- A name behind a blank. -/
theorem sscanf_name (name : String) (hname : (ascii name).head?.any (!isSpace ·) = true) :
    sscanf (.blank :: .text (ascii name) :: format) (32 :: (ascii name ++ rest)) =
      sscanf format rest := by
  obtain ⟨b, hhead, hb⟩ := (Option.any_eq_true _ _).1 hname
  obtain ⟨bs, hcons⟩ := List.head?_eq_some_iff.1 hhead
  rw [hcons, List.cons_append, sscanf_blank (by simpa using hb), ← List.cons_append, sscanf_text]

/-- **The client reads the numbers of `STATS` back.** -/
theorem statsResult_statsLine {a b c d : ℕ} (ha : a < 2 ^ 64) (hb : b < 2 ^ 64) (hc : c < 2 ^ 64)
    (hd : d < 2 ^ 64) : statsResult (some [statsLine a b c d]) = some [a, b, c, d] := by
  have hblank : ∀ rest : Bytes, ∀ b ∈ (32 :: rest).head?, isDigit b = false := by
    intro rest b hb
    cases hb
    decide
  have hhead : ¬ (statsLine a b c d).head? = some 45 := by
    show ¬ some (43 : UInt8) = some 45
    decide
  rw [statsResult, if_neg hhead, statsLine, sscanf_text,
    sscanf_name _ (by decide), sscanf_unsigned ha (Nat.le_refl _) (hblank _),
    sscanf_name _ (by decide), sscanf_unsigned hb (Nat.le_refl _) (hblank _),
    sscanf_name _ (by decide), sscanf_unsigned hc (Nat.le_refl _) (hblank _),
    sscanf_name _ (by decide), sscanf_unsigned hd (Nat.le_refl _) (by simp)]
  rfl

theorem length_statsLine_le {a b c d : ℕ} (ha : a < 2 ^ 64) (hb : b < 2 ^ 64) (hc : c < 2 ^ 64)
    (hd : d < 2 ^ 64) : (statsLine a b c d).length ≤ 200 := by
  have hlen : ∀ {m : ℕ}, m < 2 ^ 64 → (decimal m).length ≤ 20 := fun hm =>
    length_decimal_le (by decide) (Nat.lt_trans hm (by decide))
  have h₁ := hlen ha
  have h₂ := hlen hb
  have h₃ := hlen hc
  have h₄ := hlen hd
  simp only [statsLine, List.length_append, List.length_cons, List.length_nil, ascii,
    List.length_map]
  simp
  omega

/-- **The client reads the value of a parameter back.** -/
theorem configResult_decimal (hn : n < 2 ^ 32) (errSz : ℕ) :
    configResult errSz (some [ascii "+OK " ++ decimal n]) = .ok n := by
  obtain ⟨b, bs, hcons, hspace, -⟩ := decimal_head n []
  rw [List.append_nil] at hcons
  have hscan : sscanf [.text (ascii "+OK"), .blank, .unsigned 32] (ascii "+OK " ++ decimal n) =
      [n] := by
    have hline : ascii "+OK " ++ decimal n = ascii "+OK" ++ 32 :: b :: bs := by
      rw [← hcons]
      rfl
    rw [hline, sscanf_text, sscanf_blank hspace, ← hcons, ← List.append_nil (decimal n),
      sscanf_unsigned hn (by decide) (by simp)]
    rfl
  have hrefusal : refusalText (ascii "+OK " ++ decimal n) = none := rfl
  rw [configResult, hrefusal, hscan]

/-- A refusal is told from its text. -/
theorem refusalText_err (text : Bytes) : refusalText (ascii "-ERR " ++ text) = some text := rfl

end SocksProxy
