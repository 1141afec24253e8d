import SocksProxy.Lib.Cells
import SocksProxy.Lib.Scanner
import SocksProxy.Parsers.Greeting

/-!
# Method negotiation

A client opens with `05 | n | m₁ … mₙ`, the methods it offers.  The parser counts the methods down
and keeps two flags, so what it chooses cannot depend on where in the list a method stands:
`GreetingParser.Saw` ties the flags to the set of the methods read so far.

`greeting_negotiates` is the result for whole strings.  The parser decides on the last method, or on
the first byte that is a wrong version or an empty list; it takes username and password when that is
offered, no authentication when only that is, and otherwise refuses.
-/

set_option autoImplicit false

namespace SocksProxy

/-- The greeting that offers the methods `ms`. -/
def greetingMessage (ms : Bytes) : Bytes := socksVersion :: UInt8.ofNat ms.length :: ms

/-- A greeting offers between 1 and 255 methods. -/
def GreetingMethods (ms : Bytes) : Prop := 1 ≤ ms.length ∧ ms.length ≤ 255

/-- What is to come of the methods `ms`. -/
def greetingVerdict (ms : Bytes) : GreetingStatus :=
  if socksMethodUserpass ∈ ms ∨ socksMethodNoauth ∈ ms then .accept else .reject

/-- The byte that cannot follow `t`: a version other than 5, or no methods. -/
inductive GreetingOffends : Bytes → UInt8 → Prop
  | version {byte : UInt8} (h : byte ≠ socksVersion) : GreetingOffends [] byte
  | nmethods : GreetingOffends [socksVersion] 0

/-! ## What the parser has seen -/

/-- The flags say which methods are among `ms`. -/
structure GreetingParser.Noted (p : GreetingParser) (ms : Bytes) : Prop where
  userpass : p.hasUserpass = true ↔ socksMethodUserpass ∈ ms
  noauth : p.hasNoauth = true ↔ socksMethodNoauth ∈ ms

/-- The parser has read `t`. -/
def GreetingParser.Saw (p : GreetingParser) (t : Bytes) : Prop :=
  match p.state with
  | .ver => t = [] ∧ p.Noted []
  | .nmethods => t = [socksVersion] ∧ p.Noted []
  | .methods =>
    ∃ n : UInt8, ∃ ms, t = socksVersion :: n :: ms ∧ 0 < p.methodsRemaining.toNat ∧
      p.methodsRemaining.toNat + ms.length = n.toNat ∧ p.Noted ms

/-- A parser that has read the methods `ms` to their end. -/
def GreetingGives (p : GreetingParser) (status : GreetingStatus) (ms : Bytes) : Prop :=
  p.state = .methods ∧ status = greetingVerdict ms ∧
    (status = .accept →
      p.chosenMethod = if socksMethodUserpass ∈ ms then socksMethodUserpass else socksMethodNoauth)

theorem greetingParserInit_saw : greetingParserInit.Saw [] :=
  ⟨rfl, by decide, by decide⟩

section Step

variable {p p' : GreetingParser} {t ms : Bytes} {byte : UInt8}

/-- One more method. -/
theorem GreetingParser.Noted.noteMethod (h : p.Noted ms) (byte : UInt8) :
    (p.noteMethod byte).Noted (ms ++ [byte]) := by
  have hne : socksMethodNoauth ≠ socksMethodUserpass := by decide
  constructor
  · rw [List.mem_append, List.mem_singleton, ← h.userpass]
    show (if byte = socksMethodUserpass then true else p.hasUserpass) = true ↔ _
    by_cases hu : byte = socksMethodUserpass
    · rw [if_pos hu]
      exact iff_of_true rfl (.inr hu.symm)
    · rw [if_neg hu, or_iff_left (Ne.symm hu)]
  · rw [List.mem_append, List.mem_singleton, ← h.noauth]
    show (if byte = socksMethodUserpass then p.hasNoauth
      else if byte = socksMethodNoauth then true else p.hasNoauth) = true ↔ _
    by_cases hu : byte = socksMethodUserpass
    · rw [if_pos hu, hu, or_iff_left hne]
    · rw [if_neg hu]
      by_cases hn : byte = socksMethodNoauth
      · rw [if_pos hn]
        exact iff_of_true rfl (.inr hn.symm)
      · rw [if_neg hn, or_iff_left (Ne.symm hn)]

/-- The last method has been noted: what the flags make of it. -/
theorem GreetingParser.Noted.gives {q : GreetingParser} (h : q.Noted ms) (hs : q.state = .methods) :
    let r : GreetingParser × GreetingStatus :=
      if q.hasUserpass then ({ q with chosenMethod := socksMethodUserpass }, .accept)
      else if q.hasNoauth then ({ q with chosenMethod := socksMethodNoauth }, .accept)
      else (q, .reject)
    GreetingGives r.1 r.2 ms := by
  dsimp only
  by_cases hu : q.hasUserpass = true
  · have hmem := h.userpass.1 hu
    rw [if_pos hu]
    exact ⟨hs, by rw [greetingVerdict, if_pos (.inl hmem)], fun _ => (if_pos hmem).symm⟩
  · have hmem := mt h.userpass.2 hu
    rw [if_neg hu]
    by_cases hn : q.hasNoauth = true
    · rw [if_pos hn]
      exact ⟨hs, by rw [greetingVerdict, if_pos (.inr (h.noauth.1 hn))],
        fun _ => (if_neg hmem).symm⟩
    · rw [if_neg hn]
      refine ⟨hs, ?_, fun h => by cases h⟩
      rw [greetingVerdict, if_neg (not_or.2 ⟨hmem, mt h.noauth.2 hn⟩)]

/-- **One byte.**  It continues the greeting, completes it, or cannot be part of one. -/
theorem GreetingParser.Saw.feed (h : p.Saw t) (byte : UInt8) :
    ((greetingParserFeed p byte).2 = .needMore ∧ (greetingParserFeed p byte).1.Saw (t ++ [byte])) ∨
    (∃ ms, GreetingMethods ms ∧ t ++ [byte] = greetingMessage ms ∧
      GreetingGives (greetingParserFeed p byte).1 (greetingParserFeed p byte).2 ms) ∨
    ((greetingParserFeed p byte).2 = .reject ∧ (greetingParserFeed p byte).1.state ≠ .methods ∧
      GreetingOffends t byte) := by
  rw [GreetingParser.Saw] at h
  rw [greetingParserFeed]
  cases hs : p.state with
  | ver =>
    simp only [hs] at h
    obtain ⟨rfl, hnoted⟩ := h
    dsimp only
    by_cases hv : byte ≠ socksVersion
    · rw [if_pos hv]
      exact .inr (.inr ⟨rfl, by rw [hs]; decide, .version hv⟩)
    · rw [if_neg hv]
      refine .inl ⟨rfl, ?_, hnoted.1, hnoted.2⟩
      rw [not_not.1 hv]
      rfl
  | nmethods =>
    simp only [hs] at h
    obtain ⟨rfl, hnoted⟩ := h
    dsimp only
    by_cases h0 : byte = 0
    · rw [if_pos h0, h0]
      exact .inr (.inr ⟨rfl, by rw [hs]; decide, .nmethods⟩)
    · rw [if_neg h0]
      exact .inl ⟨rfl, byte, [], rfl, toNat_pos h0, rfl, hnoted.1, hnoted.2⟩
  | methods =>
    simp only [hs] at h
    obtain ⟨n, ms, rfl, hpos, hn, hnoted⟩ := h
    have hnext := hnoted.noteMethod byte
    have hpred : (p.noteMethod byte).methodsRemaining.toNat = p.methodsRemaining.toNat - 1 :=
      toNat_pred hpos
    dsimp only
    by_cases hmore : 0 < (p.noteMethod byte).methodsRemaining
    · rw [if_pos hmore]
      refine .inl ⟨rfl, ?_⟩
      rw [GreetingParser.Saw, show (p.noteMethod byte).state = .methods from hs]
      refine ⟨n, ms ++ [byte], rfl, UInt8.lt_iff_toNat_lt.1 hmore, ?_, hnext⟩
      rw [hpred, List.length_append, List.length_singleton]
      omega
    · rw [if_neg hmore]
      have hlast := toNat_eq_zero_of_not_pos hmore
      have hlen : (ms ++ [byte]).length = n.toNat := by
        rw [List.length_append, List.length_singleton]
        omega
      refine .inr (.inl ⟨ms ++ [byte], ?_, ?_, hnext.gives hs⟩)
      · rw [GreetingMethods, hlen]
        exact ⟨by omega, Nat.le_of_lt_succ n.toNat_lt⟩
      · rw [greetingMessage, hlen, UInt8.ofNat_toNat]
        rfl

theorem GreetingParser.Saw.next (h : p.Saw t)
    (hfeed : greetingParserFeed p byte = (p', .needMore)) :
    p'.Saw (t ++ [byte]) := by
  have hstep := h.feed byte
  rw [hfeed] at hstep
  rcases hstep with ⟨-, hsaw⟩ | ⟨ms, -, -, -, hs, -⟩ | ⟨hs, -⟩
  · exact hsaw
  · rw [greetingVerdict] at hs
    split at hs <;> cases hs
  · cases hs

end Step

/-! ## Greetings -/

section Greetings

variable {p : GreetingParser} {t : Bytes} {byte : UInt8}

theorem toNat_ofNat_methods {ms : Bytes} (h : GreetingMethods ms) :
    (UInt8.ofNat ms.length).toNat = ms.length :=
  UInt8.toNat_ofNat_of_lt' (Nat.lt_of_le_of_lt h.2 (by decide))

theorem greetingMessage_prefixFree : PrefixFree greetingMessage GreetingMethods := by
  intro ms ms' late hms hms' h
  obtain ⟨hn, hrest⟩ := List.cons.inj (List.cons.inj h).2
  have hlen := congrArg UInt8.toNat hn
  rw [toNat_ofNat_methods hms, toNat_ofNat_methods hms'] at hlen
  have hrest : ms ++ late = ms' := hrest
  have hsum := congrArg List.length hrest
  rw [List.length_append] at hsum
  have hlate : late = [] := List.length_eq_zero_iff.1 (by omega)
  rw [hlate, List.append_nil] at hrest
  exact ⟨hlate, hrest⟩

/-- No greeting goes on with the offending byte. -/
theorem GreetingOffends.hopeless (h : GreetingOffends t byte) :
    Hopeless greetingMessage GreetingMethods (t ++ [byte]) := by
  rintro late ⟨ms, hms, hw⟩
  rw [greetingMessage] at hw
  cases h with
  | version hv => exact hv (List.cons.inj hw).1.symm
  | nmethods =>
    have hn := congrArg UInt8.toNat (List.cons.inj (List.cons.inj hw).2).1
    rw [toNat_ofNat_methods hms] at hn
    have := hms.1
    rw [hn] at this
    exact absurd this (by decide)

/-- What the parser has read so far can become a greeting. -/
theorem GreetingParser.Saw.unfinished (h : p.Saw t) :
    Unfinished greetingMessage GreetingMethods t := by
  rw [GreetingParser.Saw] at h
  cases hs : p.state with
  | ver =>
    simp only [hs] at h
    rw [h.1]
    exact ⟨greetingMessage [0], by decide, [0], ⟨by decide, by decide⟩, rfl⟩
  | nmethods =>
    simp only [hs] at h
    rw [h.1]
    exact ⟨[1, 0], by decide, [0], ⟨by decide, by decide⟩, rfl⟩
  | methods =>
    simp only [hs] at h
    obtain ⟨n, ms, rfl, hpos, hn, -⟩ := h
    have hlen : (ms ++ List.replicate p.methodsRemaining.toNat 0).length = n.toNat := by
      rw [List.length_append, List.length_replicate]
      omega
    refine ⟨List.replicate p.methodsRemaining.toNat 0, ?_,
      ms ++ List.replicate p.methodsRemaining.toNat 0, ?_, ?_⟩
    · rw [Ne, List.replicate_eq_nil_iff]
      omega
    · rw [GreetingMethods, hlen]
      exact ⟨by omega, Nat.le_of_lt_succ n.toNat_lt⟩
    · rw [greetingMessage, hlen, UInt8.ofNat_toNat]
      rfl

theorem greetingParser_recognises :
    Recognises greetingParserFeed .needMore greetingParserInit greetingMessage GreetingMethods
      GreetingGives := by
  refine .of_inv greetingParserInit_saw (fun p t byte p' h hfeed => h.next hfeed)
    greetingMessage_prefixFree (fun p t h => h.unfinished)
    (fun p t byte p' status h hfeed hne => ?_)
  have hstep := h.feed byte
  rw [hfeed] at hstep
  rcases hstep with ⟨hs, -⟩ | ⟨ms, hms, hw, hg⟩ | ⟨-, hstate, hoff⟩
  · exact absurd hs hne
  · exact .inl ⟨ms, hms, hg, hw⟩
  · exact .inr ⟨fun ms hg => hstate hg.1, hoff.hopeless⟩

/-- What a decided parser has read. -/
theorem greetingParser_decided {bs rest : Bytes} {status : GreetingStatus}
    (h : scan greetingParserFeed .needMore greetingParserInit bs = some (p, status, rest)) :
    (∃ ms, GreetingMethods ms ∧ bs = greetingMessage ms ++ rest) ∨
      (status = .reject ∧ ∃ t byte, bs = t ++ byte :: rest ∧ GreetingOffends t byte) := by
  obtain ⟨t, byte, q, rfl, hq, hfeed⟩ :=
    scan_some (fun p t byte p' h hfeed => h.next hfeed) greetingParserInit_saw h
  have hstep := hq.feed byte
  rw [hfeed] at hstep
  rcases hstep with ⟨hs, -⟩ | ⟨ms, hms, hw, -⟩ | ⟨hs, -, hoff⟩
  · exact absurd hs (scan_ne_more h)
  · exact .inl ⟨ms, hms, by rw [← hw, List.append_cons]⟩
  · exact .inr ⟨hs, t, byte, rfl, hoff⟩

end Greetings

/-- **Method negotiation.**  The parser waits while the string can become a greeting.  At the end of
a greeting, and whatever follows, it accepts if username and password or no authentication is
offered, with the former chosen whenever it is, and refuses if neither is.  Otherwise it refuses at
the first byte that is a wrong version or an empty list. -/
theorem greeting_negotiates :
    (∀ bs, scan greetingParserFeed .needMore greetingParserInit bs = none ↔
      Unfinished greetingMessage GreetingMethods bs) ∧
    (∀ ms rest, GreetingMethods ms → ∃ p status,
      scan greetingParserFeed .needMore greetingParserInit (greetingMessage ms ++ rest) =
        some (p, status, rest) ∧
      (status = .accept ↔ socksMethodUserpass ∈ ms ∨ socksMethodNoauth ∈ ms) ∧
      (status = .reject ↔ socksMethodUserpass ∉ ms ∧ socksMethodNoauth ∉ ms) ∧
      (status = .accept → p.chosenMethod =
        if socksMethodUserpass ∈ ms then socksMethodUserpass else socksMethodNoauth)) ∧
    (∀ bs p status rest,
      scan greetingParserFeed .needMore greetingParserInit bs = some (p, status, rest) →
      (∃ ms, GreetingMethods ms ∧ bs = greetingMessage ms ++ rest) ∨
        (status = .reject ∧ ∃ t byte, bs = t ++ byte :: rest ∧ GreetingOffends t byte)) := by
  have hrec := greetingParser_recognises
  refine ⟨fun bs => hrec.scan_eq_none_iff, fun ms rest hms => ?_,
    fun bs p status rest h => greetingParser_decided h⟩
  obtain ⟨p, status, hs, -, rfl, hchosen⟩ := hrec.accepts hms rest
  refine ⟨p, _, hs, ?_, ?_, hchosen⟩
  · rw [greetingVerdict]
    split
    · next hoffered => exact iff_of_true rfl hoffered
    · next hoffered => exact iff_of_false (by decide) hoffered
  · rw [greetingVerdict, ← not_or]
    split
    · next hoffered => exact iff_of_false (by decide) (not_not_intro hoffered)
    · next hoffered => exact iff_of_true rfl hoffered

end SocksProxy
