import SocksProxy.Lib.Cells
import SocksProxy.Lib.Scanner
import SocksProxy.Parsers.Auth

/-!
# The format of the credentials

A client that authenticates sends `01 | len | username | len | password`, and `auth.c` reads it back
one byte at a time.  The two fields are arrays of 255 bytes, filled at `len - remaining` with
counters of 8 bits, so everything rests on how the counters, the arrays and the bytes read so far
belong together: `AuthParser.Saw`.  One byte keeps that, or completes the message, or cannot be part
of any message (`AuthParser.Saw.feed`).

`auth_codec` is what follows for whole strings.  The parser waits exactly on the proper beginnings
of messages, it is done exactly at the end of one and holds its fields then, and it refuses at the
first byte that is a wrong version or a zero length.
-/

set_option autoImplicit false

namespace SocksProxy

/-- The message of a client with the name `U` and the password `P`. -/
def authMessage (U P : Bytes) : Bytes :=
  authVersion :: UInt8.ofNat U.length :: (U ++ UInt8.ofNat P.length :: P)

/-- A field has between 1 and 255 bytes. -/
def AuthField (bs : Bytes) : Prop := 1 ≤ bs.length ∧ bs.length ≤ socksAuthMaxLen

/-- Both fields of a message. -/
def AuthFields (m : Bytes × Bytes) : Prop := AuthField m.1 ∧ AuthField m.2

/-- The parser holds these fields, with their lengths. -/
def AuthParser.Holds (p : AuthParser) (m : Bytes × Bytes) : Prop :=
  p.unameLen.toNat = m.1.length ∧ authUsername p = m.1 ∧
    p.passwdLen.toNat = m.2.length ∧ authPassword p = m.2

/-- The byte that cannot follow `t`: a version other than 1, or a length of zero. -/
inductive AuthOffends : Bytes → UInt8 → Prop
  | version {byte : UInt8} (h : byte ≠ authVersion) : AuthOffends [] byte
  | ulen : AuthOffends [authVersion] 0
  | plen {U : Bytes} (hU : AuthField U) :
    AuthOffends (authVersion :: UInt8.ofNat U.length :: U) 0

/-- The elements of the two arrays that `socks_auth_parser_feed` writes: the index, computed as in
the source, and the size of the array. -/
def AuthParser.writes (p : AuthParser) : List (ℤ × ℕ) :=
  match p.state with
  | .uname => [((p.unameLen.toNat : ℤ) - p.unameRemaining.toNat, socksAuthMaxLen)]
  | .passwd => [((p.passwdLen.toNat : ℤ) - p.passwdRemaining.toNat, socksAuthMaxLen)]
  | _ => []

/-! ## What the parser has seen -/

/-- The bytes read so far, from the state, the counters and the arrays. -/
def AuthParser.Read (p : AuthParser) (t : Bytes) : Prop :=
  match p.state with
  | .ver => t = []
  | .ulen => t = [authVersion]
  | .uname =>
    0 < p.unameRemaining.toNat ∧ p.unameRemaining.toNat ≤ p.unameLen.toNat ∧
      t = authVersion :: p.unameLen :: p.uname.take (p.unameLen.toNat - p.unameRemaining.toNat)
  | .plen => p.unameLen ≠ 0 ∧ t = authVersion :: p.unameLen :: authUsername p
  | .passwd =>
    p.unameLen ≠ 0 ∧
      0 < p.passwdRemaining.toNat ∧ p.passwdRemaining.toNat ≤ p.passwdLen.toNat ∧
      t = authVersion :: p.unameLen :: (authUsername p ++ p.passwdLen ::
        p.passwd.take (p.passwdLen.toNat - p.passwdRemaining.toNat))

/-- The parser has read `t`. -/
structure AuthParser.Saw (p : AuthParser) (t : Bytes) : Prop where
  uname : p.uname.length = socksAuthMaxLen
  passwd : p.passwd.length = socksAuthMaxLen
  read : p.Read t

theorem authParserInit_saw : authParserInit.Saw [] :=
  ⟨List.length_replicate, List.length_replicate, rfl⟩

theorem toNat_le_authMaxLen (n : UInt8) : n.toNat ≤ socksAuthMaxLen :=
  Nat.le_of_lt_succ n.toNat_lt

namespace AuthParser

variable {p : AuthParser}

theorem length_username (h : p.uname.length = socksAuthMaxLen) :
    (authUsername p).length = p.unameLen.toNat := by
  rw [authUsername, List.length_take, h]
  exact Nat.min_eq_left (toNat_le_authMaxLen _)

theorem length_password (h : p.passwd.length = socksAuthMaxLen) :
    (authPassword p).length = p.passwdLen.toNat := by
  rw [authPassword, List.length_take, h]
  exact Nat.min_eq_left (toNat_le_authMaxLen _)

/-- A parser with arrays of the right size holds what is in them. -/
theorem holds_fields (hu : p.uname.length = socksAuthMaxLen)
    (hp : p.passwd.length = socksAuthMaxLen) : p.Holds (authUsername p, authPassword p) :=
  ⟨(length_username hu).symm, rfl, (length_password hp).symm, rfl⟩

theorem Holds.authField_name {m : Bytes × Bytes} (h : p.Holds m) (h0 : p.unameLen ≠ 0) :
    AuthField m.1 := by
  rw [AuthField, ← h.1]
  exact ⟨toNat_pos h0, toNat_le_authMaxLen _⟩

theorem Holds.authField_pass {m : Bytes × Bytes} (h : p.Holds m) (h0 : p.passwdLen ≠ 0) :
    AuthField m.2 := by
  rw [AuthField, ← h.2.2.1]
  exact ⟨toNat_pos h0, toNat_le_authMaxLen _⟩

end AuthParser

namespace AuthParser.Saw

variable {p : AuthParser} {t : Bytes} (h : p.Saw t)

include h

theorem holds : p.Holds (authUsername p, authPassword p) := holds_fields h.uname h.passwd

/-- **One byte.**  It continues the message, completes it, or cannot be part of one. -/
theorem feed (byte : UInt8) :
    ((authParserFeed p byte).2 = .needMore ∧ (authParserFeed p byte).1.Saw (t ++ [byte])) ∨
    ((authParserFeed p byte).2 = .parsed ∧ ∃ m, AuthFields m ∧
      (authParserFeed p byte).1.Holds m ∧ t ++ [byte] = authMessage m.1 m.2) ∨
    ((authParserFeed p byte).2 = .reject ∧ AuthOffends t byte) := by
  have hread := h.read
  rw [AuthParser.Read] at hread
  cases hs : p.state with
  | ver =>
    simp only [hs] at hread
    subst hread
    rw [authParserFeed, hs]
    dsimp only
    by_cases hv : byte ≠ authVersion
    · rw [if_pos hv]
      exact .inr (.inr ⟨rfl, .version hv⟩)
    · rw [if_neg hv]
      refine .inl ⟨rfl, h.uname, h.passwd, ?_⟩
      rw [not_not.1 hv]
      rfl
  | ulen =>
    simp only [hs] at hread
    subst hread
    rw [authParserFeed, hs]
    dsimp only
    by_cases h0 : byte = 0
    · rw [if_pos h0, h0]
      exact .inr (.inr ⟨rfl, .ulen⟩)
    · rw [if_neg h0]
      refine .inl ⟨rfl, h.uname, h.passwd, toNat_pos h0, Nat.le_refl _, ?_⟩
      rw [Nat.sub_self]
      rfl
  | uname =>
    simp only [hs] at hread
    obtain ⟨hpos, hle, rfl⟩ := hread
    have hfill := take_countdown (h.uname ▸ toNat_le_authMaxLen _) hpos hle byte
    have hsize : (p.uname.set (p.unameLen.toNat - p.unameRemaining.toNat) byte).length =
        socksAuthMaxLen := by rw [List.length_set, h.uname]
    rw [authParserFeed, hs]
    dsimp only
    by_cases hmore : 0 < p.unameRemaining - 1
    · rw [if_pos hmore]
      refine .inl ⟨rfl, hsize, h.passwd, ?_⟩
      rw [AuthParser.Read]
      simp only [hfill]
      rw [toNat_pred hpos]
      exact ⟨by rw [← toNat_pred hpos]; exact UInt8.lt_iff_toNat_lt.1 hmore, by omega, rfl⟩
    · rw [if_neg hmore]
      refine .inl ⟨rfl, hsize, h.passwd, ?_, ?_⟩
      · rintro h0
        rw [h0] at hle
        exact absurd (Nat.lt_of_lt_of_le hpos hle) (Nat.lt_irrefl 0)
      · rw [toNat_eq_zero_of_not_pos hmore, Nat.sub_zero] at hfill
        show _ = authVersion :: p.unameLen :: List.take p.unameLen.toNat (List.set _ _ _)
        rw [hfill]
        rfl
  | plen =>
    simp only [hs] at hread
    obtain ⟨hlen, rfl⟩ := hread
    rw [authParserFeed, hs]
    dsimp only
    by_cases h0 : byte = 0
    · rw [if_pos h0, h0]
      refine .inr (.inr ⟨rfl, ?_⟩)
      have hoff := AuthOffends.plen (h.holds.authField_name hlen)
      rwa [length_username h.uname, UInt8.ofNat_toNat] at hoff
    · rw [if_neg h0]
      refine .inl ⟨rfl, h.uname, h.passwd, hlen, toNat_pos h0, Nat.le_refl _, ?_⟩
      rw [Nat.sub_self]
      rfl
  | passwd =>
    simp only [hs] at hread
    obtain ⟨hlen, hpos, hle, rfl⟩ := hread
    have hfill := take_countdown (h.passwd ▸ toNat_le_authMaxLen _) hpos hle byte
    have hsize : (p.passwd.set (p.passwdLen.toNat - p.passwdRemaining.toNat) byte).length =
        socksAuthMaxLen := by rw [List.length_set, h.passwd]
    rw [authParserFeed, hs]
    dsimp only
    by_cases hmore : 0 < p.passwdRemaining - 1
    · rw [if_pos hmore]
      refine .inl ⟨rfl, h.uname, hsize, ?_⟩
      rw [AuthParser.Read]
      simp only [hfill]
      rw [toNat_pred hpos]
      refine ⟨hlen, by rw [← toNat_pred hpos]; exact UInt8.lt_iff_toNat_lt.1 hmore, by omega, ?_⟩
      rw [List.cons_append, List.cons_append, List.append_assoc, List.cons_append]
      rfl
    · rw [if_neg hmore]
      rw [toNat_eq_zero_of_not_pos hmore, Nat.sub_zero] at hfill
      -- the message is complete
      have hdone := holds_fields (p := { p with
        passwd := p.passwd.set (p.passwdLen.toNat - p.passwdRemaining.toNat) byte
        passwdRemaining := p.passwdRemaining - 1 }) h.uname hsize
      have hpass : p.passwdLen ≠ 0 := by
        intro h0
        rw [h0] at hle
        exact absurd (Nat.lt_of_lt_of_le hpos hle) (Nat.lt_irrefl 0)
      refine .inr (.inl ⟨rfl, _, ⟨hdone.authField_name hlen, hdone.authField_pass hpass⟩, hdone, ?_⟩)
      rw [authMessage, ← hdone.1, ← hdone.2.2.1, UInt8.ofNat_toNat, UInt8.ofNat_toNat]
      show authVersion :: p.unameLen :: (authUsername p ++ p.passwdLen :: _) ++ [byte] =
        authVersion :: p.unameLen :: (authUsername p ++ p.passwdLen :: List.take _ _)
      rw [hfill]
      simp

end AuthParser.Saw

/-! ## Messages -/

section Messages

variable {U U' x x' : Bytes}

theorem toNat_ofNat_length (hU : AuthField U) : (UInt8.ofNat U.length).toNat = U.length :=
  UInt8.toNat_ofNat_of_lt' (Nat.lt_of_le_of_lt hU.2 (by decide))

theorem ofNat_length_ne_zero (hU : AuthField U) : UInt8.ofNat U.length ≠ 0 := by
  intro h0
  have hlen := toNat_ofNat_length hU
  rw [h0] at hlen
  have := hU.1
  rw [← hlen] at this
  exact absurd this (by decide)

/-- A field with its length can be told from what follows it. -/
theorem field_inj (hU : AuthField U) (hU' : AuthField U')
    (h : UInt8.ofNat U.length :: (U ++ x) = UInt8.ofNat U'.length :: (U' ++ x')) :
    U = U' ∧ x = x' := by
  rw [List.cons.injEq] at h
  have hlen := congrArg UInt8.toNat h.1
  rw [toNat_ofNat_length hU, toNat_ofNat_length hU'] at hlen
  exact List.append_inj h.2 hlen

theorem authMessage_append (U P late : Bytes) : authMessage U P ++ late =
    authVersion :: UInt8.ofNat U.length :: (U ++ UInt8.ofNat P.length :: (P ++ late)) := by
  rw [authMessage, List.cons_append, List.cons_append, List.append_assoc, List.cons_append]

/-- The encoding of a pair of fields. -/
abbrev authEncode (m : Bytes × Bytes) : Bytes := authMessage m.1 m.2

theorem authMessage_prefixFree : PrefixFree authEncode AuthFields := by
  intro m m' late hm hm' h
  rw [authEncode, authMessage_append, authEncode, authMessage] at h
  obtain ⟨hname, hrest⟩ := field_inj hm.1 hm'.1 (List.cons.inj h).2
  have hend :
      UInt8.ofNat m.2.length :: (m.2 ++ late) = UInt8.ofNat m'.2.length :: (m'.2 ++ []) := by
    rw [List.append_nil, hrest]
  obtain ⟨hpass, hlate⟩ := field_inj hm.2 hm'.2 hend
  exact ⟨hlate, Prod.ext hname hpass⟩

/-- No message goes on with the offending byte. -/
theorem AuthOffends.hopeless {t : Bytes} {byte : UInt8} (h : AuthOffends t byte) :
    Hopeless authEncode AuthFields (t ++ [byte]) := by
  rintro late ⟨m, hm, hw⟩
  rw [authEncode, authMessage] at hw
  cases h with
  | version hv => exact hv (List.cons.inj hw).1.symm
  | ulen =>
    rw [List.append_assoc] at hw
    exact ofNat_length_ne_zero hm.1 (List.cons.inj (List.cons.inj hw).2).1
  | plen hU =>
    rw [List.append_assoc, List.cons_append, List.cons_append] at hw
    have hrest := (field_inj hm.1 hU (List.cons.inj hw).2).2
    exact ofNat_length_ne_zero hm.2 (List.cons.inj hrest).1

/-- A field that is still to be filled. -/
theorem authField_padded {a : Bytes} {len remaining : UInt8} (ha : a.length = socksAuthMaxLen)
    (hpos : 0 < remaining.toNat) (hle : remaining.toNat ≤ len.toNat) :
    AuthField (a.take (len.toNat - remaining.toNat) ++ List.replicate remaining.toNat 0) ∧
      UInt8.ofNat (a.take (len.toNat - remaining.toNat) ++
        List.replicate remaining.toNat 0).length = len := by
  have hlen := toNat_le_authMaxLen len
  have hsize : (a.take (len.toNat - remaining.toNat) ++
      List.replicate remaining.toNat 0).length = len.toNat := by
    rw [List.length_append, List.length_take, List.length_replicate, ha]
    omega
  rw [AuthField, hsize]
  exact ⟨by omega, UInt8.ofNat_toNat⟩

/-- What the parser has read so far can become a message. -/
theorem AuthParser.Saw.unfinished {p : AuthParser} {t : Bytes} (h : p.Saw t) :
    Unfinished authEncode AuthFields t := by
  have hone : AuthField [0] := ⟨by decide, by decide⟩
  have hread := h.read
  rw [AuthParser.Read] at hread
  cases hs : p.state with
  | ver =>
    simp only [hs] at hread
    subst hread
    exact ⟨authMessage [0] [0], by decide, ([0], [0]), ⟨hone, hone⟩, rfl⟩
  | ulen =>
    simp only [hs] at hread
    subst hread
    exact ⟨[1, 0, 1, 0], by decide, ([0], [0]), ⟨hone, hone⟩, rfl⟩
  | uname =>
    simp only [hs] at hread
    obtain ⟨hpos, hle, rfl⟩ := hread
    obtain ⟨hU, hlen⟩ := authField_padded h.uname hpos hle
    refine ⟨List.replicate p.unameRemaining.toNat 0 ++ [1, 0], by simp, (_, [0]), ⟨hU, hone⟩, ?_⟩
    rw [authEncode, authMessage, hlen, List.cons_append, List.cons_append, List.append_assoc]
    rfl
  | plen =>
    simp only [hs] at hread
    obtain ⟨hlen, rfl⟩ := hread
    refine ⟨[1, 0], by decide, (authUsername p, [0]), ⟨h.holds.authField_name hlen, hone⟩, ?_⟩
    rw [authEncode, authMessage, ← h.holds.1, UInt8.ofNat_toNat]
    rfl
  | passwd =>
    simp only [hs] at hread
    obtain ⟨hlen, hpos, hle, rfl⟩ := hread
    obtain ⟨hP, hplen⟩ := authField_padded h.passwd hpos hle
    have hU : AuthField (authUsername p) := h.holds.authField_name hlen
    refine ⟨List.replicate p.passwdRemaining.toNat 0, ?_, (authUsername p,
      p.passwd.take (p.passwdLen.toNat - p.passwdRemaining.toNat) ++
        List.replicate p.passwdRemaining.toNat 0), ⟨hU, hP⟩, ?_⟩
    · rw [Ne, List.replicate_eq_nil_iff]
      omega
    · rw [authEncode, authMessage, hplen, length_username h.uname, UInt8.ofNat_toNat,
        List.cons_append, List.cons_append, List.append_assoc, List.cons_append]

end Messages

/-! ## The parser and the messages -/

section Parser

variable {p p' : AuthParser} {t : Bytes} {byte : UInt8}

theorem AuthParser.Saw.next (h : p.Saw t) (hfeed : authParserFeed p byte = (p', .needMore)) :
    p'.Saw (t ++ [byte]) := by
  have hstep := h.feed byte
  rw [hfeed] at hstep
  rcases hstep with ⟨-, hsaw⟩ | ⟨hs, -⟩ | ⟨hs, -⟩
  · exact hsaw
  · cases hs
  · cases hs

/-- Everything the next byte writes is inside its array. -/
theorem AuthParser.Saw.writes_lt (h : p.Saw t) : ∀ a ∈ p.writes, 0 ≤ a.1 ∧ a.1 < (a.2 : ℤ) := by
  have hread := h.read
  rw [AuthParser.Read] at hread
  rw [AuthParser.writes]
  have hu := toNat_le_authMaxLen p.unameLen
  have hp := toNat_le_authMaxLen p.passwdLen
  cases hs : p.state with
  | uname =>
    simp only [hs] at hread ⊢
    rw [List.forall_mem_singleton]
    omega
  | passwd =>
    simp only [hs] at hread ⊢
    rw [List.forall_mem_singleton]
    omega
  | ver => exact List.forall_mem_nil _
  | ulen => exact List.forall_mem_nil _
  | plen => exact List.forall_mem_nil _

/-- A parser that is done, with the fields it holds. -/
def AuthGives (p : AuthParser) (status : AuthStatus) (m : Bytes × Bytes) : Prop :=
  status = .parsed ∧ p.Holds m

theorem authParser_recognises :
    Recognises authParserFeed .needMore authParserInit authEncode AuthFields AuthGives := by
  refine .of_inv authParserInit_saw (fun p t byte p' h hfeed => h.next hfeed)
    authMessage_prefixFree (fun p t h => h.unfinished)
    (fun p t byte p' status h hfeed hne => ?_)
  have hstep := h.feed byte
  rw [hfeed] at hstep
  rcases hstep with ⟨hs, -⟩ | ⟨hs, m, hm, hholds, hw⟩ | ⟨hs, hoff⟩
  · exact absurd hs hne
  · exact .inl ⟨m, hm, ⟨hs, hholds⟩, hw⟩
  · refine .inr ⟨fun m hg => ?_, hoff.hopeless⟩
    cases hs
    exact absurd hg.1 (by decide)

/-- What a decided parser has read. -/
theorem authParser_decided {bs rest : Bytes} {status : AuthStatus}
    (h : scan authParserFeed .needMore authParserInit bs = some (p, status, rest)) :
    (status = .parsed ∧ ∃ m, AuthFields m ∧ p.Holds m ∧ bs = authMessage m.1 m.2 ++ rest) ∨
    (status = .reject ∧ ∃ t byte, bs = t ++ byte :: rest ∧ Unfinished authEncode AuthFields t ∧
      AuthOffends t byte) := by
  obtain ⟨t, byte, q, rfl, hq, hfeed⟩ :=
    scan_some (fun p t byte p' h hfeed => h.next hfeed) authParserInit_saw h
  have hstep := hq.feed byte
  rw [hfeed] at hstep
  rcases hstep with ⟨hs, -⟩ | ⟨hs, m, hm, hholds, hw⟩ | ⟨hs, hoff⟩
  · exact absurd hs (scan_ne_more h)
  · exact .inl ⟨hs, m, hm, hholds, by rw [← hw, List.append_cons]⟩
  · exact .inr ⟨hs, t, byte, rfl, hq.unfinished, hoff⟩

end Parser

/-- **The format of the credentials.**  A message is accepted on its last byte, with its fields;
only a message is accepted, and it is the message of one pair of fields; any other string is a
proper beginning of a message, and the parser waits, or it is refused at the byte that makes it
none, which is a wrong version or a zero length.  No byte is ever written outside its array. -/
theorem auth_codec :
    (∀ U P, AuthField U → AuthField P → ∃ p,
      scan authParserFeed .needMore authParserInit (authMessage U P) = some (p, .parsed, []) ∧
        p.Holds (U, P)) ∧
    (∀ bs p rest, scan authParserFeed .needMore authParserInit bs = some (p, .parsed, rest) →
      (∃! m : Bytes × Bytes, AuthFields m ∧ bs = authMessage m.1 m.2 ++ rest) ∧
        bs = authMessage (authUsername p) (authPassword p) ++ rest) ∧
    (∀ bs, scan authParserFeed .needMore authParserInit bs = none ↔
      Unfinished authEncode AuthFields bs) ∧
    (∀ bs p rest, scan authParserFeed .needMore authParserInit bs = some (p, .reject, rest) →
      ∃ t byte, bs = t ++ byte :: rest ∧ Unfinished authEncode AuthFields t ∧
        Hopeless authEncode AuthFields (t ++ [byte]) ∧ AuthOffends t byte) ∧
    (∀ bs, scan authParserFeed .needMore authParserInit bs = none →
      ∀ a ∈ (fed authParserFeed authParserInit bs).writes, 0 ≤ a.1 ∧ a.1 < (a.2 : ℤ)) := by
  have hrec := authParser_recognises
  refine ⟨fun U P hU hP => ?_, fun bs p rest h => ?_, fun bs => hrec.scan_eq_none_iff,
    fun bs p rest h => ?_, fun bs h => ?_⟩
  · obtain ⟨p, status, hs, rfl, hholds⟩ := hrec.accepts (v := (U, P)) ⟨hU, hP⟩ []
    rw [List.append_nil] at hs
    exact ⟨p, hs, hholds⟩
  · rcases authParser_decided h with ⟨-, m, hm, hholds, hw⟩ | ⟨hs, -⟩
    · refine ⟨⟨m, ⟨hm, hw⟩, fun m' hm' => ?_⟩, ?_⟩
      · exact (hrec.free.eq_of_append hm'.1 hm (hm'.2.symm.trans hw)).1
      · rw [hholds.2.1, hholds.2.2.2, hw]
    · cases hs
  · rcases authParser_decided h with ⟨hs, -⟩ | ⟨-, t, byte, hw, hopen, hoff⟩
    · cases hs
    · exact ⟨t, byte, hw, hopen, hoff.hopeless, hoff⟩
  · exact (scan_none (fun p t byte p' h hfeed => h.next hfeed) authParserInit_saw h).writes_lt

end SocksProxy
