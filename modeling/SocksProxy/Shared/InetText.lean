import SocksProxy.Shared.Net
import Mathlib.Tactic.IntervalCases

/-!
# A concrete `inet_ntop` and `inet_pton`

An instance of `Inet` to run the model with.  IPv4 addresses are written in dotted quad and
IPv4-mapped IPv6 addresses as `::ffff:` followed by one, as libc does; every other IPv6 address is
written without zero compression, as eight groups of four hexadecimal digits.
-/

set_option autoImplicit false

namespace SocksProxy

namespace InetText

/-- The fields between the separators. -/
def splitAt (sep : UInt8) : Bytes → List Bytes
  | [] => [[]]
  | c :: cs =>
    if c = sep then [] :: splitAt sep cs
    else match splitAt sep cs with
      | [] => [[c]]
      | f :: fs => (c :: f) :: fs

/-- Fields written one after the other. -/
def joinWith (sep : UInt8) : List Bytes → Bytes
  | [] => []
  | [f] => f
  | f :: g :: fs => f ++ sep :: joinWith sep (g :: fs)

theorem splitAt_of_not_mem {sep : UInt8} {f : Bytes} (h : sep ∉ f) : splitAt sep f = [f] := by
  induction f with
  | nil => rfl
  | cons c f ih =>
    rw [List.mem_cons, not_or] at h
    rw [splitAt, if_neg (Ne.symm h.1), ih h.2]

theorem splitAt_append {sep : UInt8} {f : Bytes} (h : sep ∉ f) (rest : Bytes) :
    splitAt sep (f ++ sep :: rest) = f :: splitAt sep rest := by
  induction f with
  | nil => rw [List.nil_append, splitAt, if_pos rfl]
  | cons c f ih =>
    rw [List.mem_cons, not_or] at h
    rw [List.cons_append, splitAt, if_neg (Ne.symm h.1), ih h.2]

theorem splitAt_joinWith {sep : UInt8} {fs : List Bytes} (hne : fs ≠ [])
    (h : ∀ f ∈ fs, sep ∉ f) : splitAt sep (joinWith sep fs) = fs := by
  induction fs with
  | nil => exact absurd rfl hne
  | cons f fs ih =>
    cases fs with
    | nil => exact splitAt_of_not_mem (h f (by simp))
    | cons g fs =>
      rw [joinWith, splitAt_append (h f (by simp)),
        ih (by simp) fun x hx => h x (List.mem_cons_of_mem _ hx)]

/-! ## Bytes in decimal and in hexadecimal -/

/-- A byte in decimal, without leading zeros. -/
def dec (b : UInt8) : Bytes :=
  let n := b.toNat
  (if n < 100 then [] else [UInt8.ofNat (48 + n / 100)]) ++
    (if n < 10 then [] else [UInt8.ofNat (48 + n / 10 % 10)]) ++ [UInt8.ofNat (48 + n % 10)]

/-- A byte read in decimal. -/
def undec (f : Bytes) : Option UInt8 :=
  if f ≠ [] ∧ f.all (fun c => 48 ≤ c ∧ c ≤ 57) ∧ f.length ≤ 3 then
    let n := f.foldl (fun n c => 10 * n + (c.toNat - 48)) 0
    if n < 256 then some (UInt8.ofNat n) else none
  else none

/-- A hexadecimal digit. -/
def digit (n : ℕ) : UInt8 := UInt8.ofNat (if n < 10 then 48 + n else 87 + n)

/-- A hexadecimal digit read. -/
def undigit (c : UInt8) : Option ℕ :=
  if 48 ≤ c ∧ c ≤ 57 then some (c.toNat - 48)
  else if 97 ≤ c ∧ c ≤ 102 then some (c.toNat - 87) else none

/-- A byte in hexadecimal, two digits. -/
def hex (b : UInt8) : Bytes := [digit (b.toNat / 16), digit (b.toNat % 16)]

/-- A byte read in hexadecimal. -/
def unhex (c d : UInt8) : Option UInt8 := do
  return UInt8.ofNat (16 * (← undigit c) + (← undigit d))

/-- A group of an IPv6 address read. -/
def ungroup : Bytes → Option (UInt8 × UInt8)
  | [a, b, c, d] => do return (← unhex a b, ← unhex c d)
  | _ => none

theorem forall_byte {P : UInt8 → Prop} (h : ∀ n < 256, P (UInt8.ofNat n)) (b : UInt8) : P b := by
  have := h b.toNat b.toNat_lt
  rwa [UInt8.ofNat_toNat] at this

set_option maxRecDepth 20000 in
theorem undec_dec (b : UInt8) : undec (dec b) = some b ∧ 46 ∉ dec b ∧ 58 ∉ dec b :=
  forall_byte (P := fun b => undec (dec b) = some b ∧ 46 ∉ dec b ∧ 58 ∉ dec b) (by decide) b

set_option maxRecDepth 20000 in
theorem unhex_hex (b : UInt8) :
    unhex (digit (b.toNat / 16)) (digit (b.toNat % 16)) = some b ∧ 46 ∉ hex b ∧ 58 ∉ hex b :=
  forall_byte (P := fun b => unhex (digit (b.toNat / 16)) (digit (b.toNat % 16)) = some b ∧
    46 ∉ hex b ∧ 58 ∉ hex b) (by decide) b

theorem ungroup_hex (b c : UInt8) : ungroup (hex b ++ hex c) = some (b, c) := by
  show (do return (← unhex _ _, ← unhex _ _)) = _
  rw [(unhex_hex b).1, (unhex_hex c).1]
  rfl

/-! ## Addresses -/

/-- `inet_ntop(AF_INET)`. -/
def ntop4 (a : InAddr) : Bytes := joinWith 46 [dec a[0], dec a[1], dec a[2], dec a[3]]

/-- `inet_pton(AF_INET)`. -/
def pton4 (t : Bytes) : Option InAddr :=
  match splitAt 46 t with
  | [f₀, f₁, f₂, f₃] => do
    return #v[← undec f₀, ← undec f₁, ← undec f₂, ← undec f₃]
  | _ => none

theorem pton4_ntop4 (a : InAddr) : pton4 (ntop4 a) = some a := by
  have hsplit : splitAt 46 (ntop4 a) = [dec a[0], dec a[1], dec a[2], dec a[3]] := by
    refine splitAt_joinWith (by simp) fun f hf => ?_
    simp only [List.mem_cons, List.not_mem_nil, or_false] at hf
    rcases hf with rfl | rfl | rfl | rfl <;> exact (undec_dec _).2.1
  rw [pton4, hsplit]
  simp only [(undec_dec _).1]
  show some _ = some a
  congr 1
  ext i hi
  interval_cases i <;> rfl

/-- The text `::ffff:`. -/
def mappedText : Bytes := [58, 58, 102, 102, 102, 102, 58]

/-- The last four bytes of an IPv6 address. -/
def lastFour (b : In6Addr) : InAddr := #v[b[12], b[13], b[14], b[15]]

/-- The eight groups of an IPv6 address. -/
def groups (b : In6Addr) : List Bytes :=
  [hex b[0] ++ hex b[1], hex b[2] ++ hex b[3], hex b[4] ++ hex b[5], hex b[6] ++ hex b[7],
    hex b[8] ++ hex b[9], hex b[10] ++ hex b[11], hex b[12] ++ hex b[13], hex b[14] ++ hex b[15]]

/-- `inet_ntop(AF_INET6)`. -/
def ntop6 (b : In6Addr) : Bytes :=
  if b = v4Mapped (lastFour b) then mappedText ++ ntop4 (lastFour b)
  else joinWith 58 (groups b)

/-- `inet_pton(AF_INET6)`. -/
def pton6 (t : Bytes) : Option In6Addr :=
  if mappedText.isPrefixOf t then (pton4 (t.drop 7)).map v4Mapped
  else match splitAt 58 t with
    | [f₀, f₁, f₂, f₃, f₄, f₅, f₆, f₇] => do
      let (a, b) ← ungroup f₀
      let (c, d) ← ungroup f₁
      let (e, f) ← ungroup f₂
      let (g, h) ← ungroup f₃
      let (i, j) ← ungroup f₄
      let (k, l) ← ungroup f₅
      let (m, n) ← ungroup f₆
      let (o, p) ← ungroup f₇
      return #v[a, b, c, d, e, f, g, h, i, j, k, l, m, n, o, p]
    | _ => none

theorem not_mem_groups {c : UInt8} (hc : c = 46 ∨ c = 58) (b : In6Addr) :
    ∀ f ∈ groups b, c ∉ f := by
  have hx : ∀ x : UInt8, c ∉ hex x := fun x => by
    rcases hc with rfl | rfl
    exacts [(unhex_hex x).2.1, (unhex_hex x).2.2]
  intro f hf
  simp only [groups, List.mem_cons, List.not_mem_nil, or_false] at hf
  rcases hf with rfl | rfl | rfl | rfl | rfl | rfl | rfl | rfl <;>
    simp only [List.mem_append, hx, or_self, not_false_eq_true]

theorem pton6_ntop6 (b : In6Addr) : pton6 (ntop6 b) = some b := by
  rw [ntop6]
  split
  · rename_i hb
    have hpre : mappedText.isPrefixOf (mappedText ++ ntop4 (lastFour b)) = true := by
      rw [List.isPrefixOf_iff_prefix]; exact List.prefix_append _ _
    rw [pton6, if_pos hpre, show (7 : ℕ) = mappedText.length from rfl, List.drop_left,
      pton4_ntop4, Option.map_some, ← hb]
  · have hpre : ¬ mappedText.isPrefixOf (joinWith 58 (groups b)) = true := by
      have h1 := (unhex_hex b[0]).2.2
      simp only [hex, List.mem_cons, List.not_mem_nil, or_false, not_or] at h1
      simp only [groups, joinWith, mappedText, hex, List.cons_append, List.isPrefixOf,
        Bool.and_eq_true, beq_iff_eq]
      exact fun h => h1.1 h.1
    rw [pton6, if_neg hpre, splitAt_joinWith (by simp [groups]) (not_mem_groups (Or.inr rfl) b)]
    simp only [groups, ungroup_hex]
    show some _ = some b
    congr 1
    ext i hi
    interval_cases i <;> rfl

theorem not_mem_joinWith {c sep : UInt8} (hne : c ≠ sep) {fs : List Bytes} (h : ∀ f ∈ fs, c ∉ f) :
    c ∉ joinWith sep fs := by
  induction fs with
  | nil => simp [joinWith]
  | cons f fs ih =>
    cases fs with
    | nil => exact h f (by simp)
    | cons g fs =>
      rw [joinWith, List.mem_append, List.mem_cons]
      rintro (hc | hc | hc)
      exacts [h f (by simp) hc, hne hc, ih (fun x hx => h x (List.mem_cons_of_mem _ hx)) hc]

theorem pton4_ntop6 (b : In6Addr) : pton4 (ntop6 b) = none := by
  rw [ntop6]
  by_cases hb : b = v4Mapped (lastFour b)
  · rw [if_pos hb]
    have hfirst : (46 : UInt8) ∉ mappedText ++ dec (lastFour b)[0] := by
      rw [List.mem_append, not_or]
      exact ⟨by decide, (undec_dec _).2.1⟩
    have hbad : undec (mappedText ++ dec (lastFour b)[0]) = none := by
      rw [undec, if_neg]
      simp [mappedText]
    have hjoin : mappedText ++ ntop4 (lastFour b) = (mappedText ++ dec (lastFour b)[0]) ++
        46 :: joinWith 46 [dec (lastFour b)[1], dec (lastFour b)[2], dec (lastFour b)[3]] := by
      rw [List.append_assoc]; rfl
    rw [pton4, hjoin, splitAt_append hfirst]
    split
    · rename_i heq
      simp only [List.cons.injEq] at heq
      rw [← heq.1, hbad]
      rfl
    · rfl
  · rw [if_neg hb, pton4, splitAt_of_not_mem
      (not_mem_joinWith (by decide) (not_mem_groups (Or.inl rfl) b))]

/-- The text conversions of this module, as the ones the program calls. -/
@[reducible] def inet : Inet where
  ntop4 := ntop4
  ntop6 := ntop6
  pton4 := pton4
  pton6 := pton6
  pton4_ntop4 := pton4_ntop4
  pton6_ntop6 := pton6_ntop6
  pton4_ntop6 := pton4_ntop6

end InetText

end SocksProxy
