import SocksProxy.Shared.Net

/-!
# Strings in fixed arrays

A `char field[N]` of a C struct is a list of `N` bytes, and an assignment to one of its elements is
checked against its size: `putByte` has no result when the index is out of range.  A `StringWrite`
is one of the ways the program writes a string into a field, and `StringWrite.perform` is what it
does to the array, element by element.

A write stays inside the field exactly when the bytes it writes, the terminator among them, are not
more than the field has (`StringWrite.perform_isSome_iff`), and the field then holds the C string
that the rest of the development speaks of (`StringWrite.cstr_perform`).
-/

set_option autoImplicit false

namespace SocksProxy

/-- `field[i] = byte`. -/
def putByte (field : Bytes) (i : ℕ) (byte : UInt8) : Option Bytes :=
  if i < field.length then some (field.set i byte) else none

/-- Bytes written one after the other, from index `i` on. -/
def putBytes (field : Bytes) (i : ℕ) : Bytes → Option Bytes
  | [] => some field
  | byte :: bs => (putByte field i byte).bind fun field => putBytes field (i + 1) bs

/-- How the program writes a string into a field. -/
inductive StringWrite where
  /-- `strncpy(field, src, n); field[n] = '\0'`. -/
  | bounded (src : Bytes) (n : ℕ)
  /-- `strcpy(field, src)`. -/
  | plain (src : Bytes)
  /-- `field[0] = '\0'`. -/
  | clear

namespace StringWrite

/-- The bytes written, from index 0 on.  `strncpy` fills up with zeros. -/
def bytes : StringWrite → Bytes
  | bounded src n => src.take n ++ List.replicate (n - src.length) 0 ++ [0]
  | plain src => src ++ [0]
  | clear => [0]

/-- The C string that is meant to be there afterwards. -/
def value : StringWrite → Bytes
  | bounded src n => strncpyTerm src n
  | plain src => src
  | clear => []

/-- What a write does to a field. -/
def perform (w : StringWrite) (field : Bytes) : Option Bytes := putBytes field 0 w.bytes

end StringWrite

theorem putBytes_of_le {field : Bytes} {i : ℕ} {bs : Bytes} (h : i + bs.length ≤ field.length) :
    putBytes field i bs = some (field.take i ++ (bs ++ field.drop (i + bs.length))) := by
  induction bs generalizing field i with
  | nil =>
    rw [putBytes, List.length_nil, Nat.add_zero, List.nil_append, List.take_append_drop]
  | cons byte bs ih =>
    rw [List.length_cons] at h ⊢
    have hi : i < field.length := by omega
    have hset : (field.set i byte).take (i + 1) = field.take i ++ [byte] := by
      rw [List.take_add_one, List.take_set_of_le (Nat.le_refl i), List.getElem?_set_self hi]
      rfl
    rw [putBytes, putByte, if_pos hi, Option.bind_some, ih (by rw [List.length_set]; omega), hset,
      List.drop_set_of_lt (by omega), List.append_assoc, Nat.add_assoc, Nat.add_comm 1]
    rfl

theorem putBytes_of_lt {field : Bytes} {i : ℕ} {bs : Bytes} (h : field.length < i + bs.length)
    (hne : bs ≠ []) : putBytes field i bs = none := by
  induction bs generalizing field i with
  | nil => exact absurd rfl hne
  | cons byte bs ih =>
    rw [List.length_cons] at h
    rw [putBytes, putByte]
    split
    · next hi =>
      rw [Option.bind_some]
      cases bs with
      | nil =>
        rw [List.length_nil] at h
        omega
      | cons next bs => exact ih (by rw [List.length_set]; omega) (List.cons_ne_nil _ _)
    · rfl

namespace StringWrite

variable {w : StringWrite} {field : Bytes}

theorem bytes_ne_nil (w : StringWrite) : w.bytes ≠ [] := by
  cases w <;> simp [bytes]

/-- **A write stays inside its field exactly when the field has room for it.** -/
theorem perform_isSome_iff : (w.perform field).isSome ↔ w.bytes.length ≤ field.length := by
  rw [perform]
  by_cases h : w.bytes.length ≤ field.length
  · rw [putBytes_of_le (by omega)]
    exact iff_of_true rfl h
  · rw [putBytes_of_lt (by omega) w.bytes_ne_nil]
    exact iff_of_false (by decide) h

theorem length_bytes_bounded (src : Bytes) (n : ℕ) : (bounded src n).bytes.length = n + 1 := by
  rw [bytes, List.length_append, List.length_append, List.length_take, List.length_replicate,
    List.length_singleton]
  omega

theorem length_bytes_plain (src : Bytes) : (plain src).bytes.length = src.length + 1 := by
  rw [bytes, List.length_append, List.length_singleton]

/-- The bytes written are the value and a terminator. -/
theorem bytes_eq (w : StringWrite) : ∃ zeros, w.bytes = w.value ++ 0 :: zeros := by
  cases w with
  | bounded src n =>
    refine ⟨List.replicate (n - src.length) 0, ?_⟩
    rw [bytes, value, strncpyTerm, List.append_assoc, ← List.replicate_succ', List.replicate_succ]
  | plain src => exact ⟨[], rfl⟩
  | clear => exact ⟨[], rfl⟩

/-- A write does not change the size of its field. -/
theorem length_perform {field' : Bytes} (h : w.perform field = some field') :
    field'.length = field.length := by
  have hle : w.bytes.length ≤ field.length := perform_isSome_iff.1 (by rw [h]; rfl)
  rw [perform, putBytes_of_le (by omega)] at h
  rw [← Option.some.inj h, List.length_append, List.length_append, List.length_take,
    List.length_drop]
  omega

/-- What a write inside the field leaves there. -/
theorem cstr_perform {field' : Bytes} (h0 : 0 ∉ w.value) (h : w.perform field = some field') :
    cstr field' = w.value := by
  have hle : w.bytes.length ≤ field.length := perform_isSome_iff.1 (by rw [h]; rfl)
  rw [perform, putBytes_of_le (by omega), List.take_zero, List.nil_append] at h
  obtain ⟨zeros, hz⟩ := w.bytes_eq
  have hvalue : ∀ b ∈ w.value, (b != 0) = true := by
    intro b hb
    have hne : b ≠ 0 := fun hb0 => h0 (hb0 ▸ hb)
    simpa using hne
  rw [← Option.some.inj h, hz, List.append_assoc, cstr, List.takeWhile_append_of_pos hvalue,
    List.cons_append, List.takeWhile_cons_of_neg (by decide), List.append_nil]

end StringWrite

end SocksProxy
