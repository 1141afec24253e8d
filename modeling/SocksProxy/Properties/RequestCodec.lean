import SocksProxy.Lib.Cells
import SocksProxy.Lib.Scanner
import SocksProxy.Parsers.Request

/-!
# The format of the CONNECT request

A client asks for a destination with `05 01 00 | ATYP | DST.ADDR | DST.PORT`, where the address is
four bytes, sixteen bytes, or a name with its length, and the port has two bytes in network order.
`request.c` reads it back in ten states, and writes the address through a pointer whose type depends
on the state: `RequestParser.Saw` says in each state what has been read and where it went.

`request_codec` is the result for whole strings: the parser waits exactly on the proper beginnings
of requests, it is done exactly at the end of one and holds the destination then, and it refuses at
the first byte that cannot be there, with the status that names it.
-/

set_option autoImplicit false

namespace SocksProxy

/-- Where a client wants to go. -/
inductive DestHost where
  | ipv4 (addr : InAddr)
  | ipv6 (addr : In6Addr)
  | fqdn (name : Bytes)

/-- A host and a port. -/
structure Destination where
  host : DestHost
  port : UInt16

/-- A name has between 1 and 255 bytes, and they are any. -/
def DestHost.Valid : DestHost → Prop
  | .fqdn name => 1 ≤ name.length ∧ name.length ≤ socksRequestFqdnMax
  | _ => True

/-- `ATYP | DST.ADDR`. -/
def DestHost.bytes : DestHost → Bytes
  | .ipv4 addr => socksAtypIpv4 :: addr.toList
  | .ipv6 addr => socksAtypIpv6 :: addr.toList
  | .fqdn name => socksAtypFqdn :: UInt8.ofNat name.length :: name

/-- The version, the command and the reserved byte. -/
def requestHead : Bytes := [socksRequestVersion, socksCmdConnect, 0x00]

/-- The request for a destination. -/
def requestMessage (d : Destination) : Bytes :=
  requestHead ++ (d.host.bytes ++ [(d.port >>> 8).toUInt8, d.port.toUInt8])

/-- A destination that can be asked for. -/
def Destination.Valid (d : Destination) : Prop := d.host.Valid

/-- The parser has read the host `h`. -/
def RequestParser.Aims (p : RequestParser) : DestHost → Prop
  | .ipv4 addr => p.atyp = socksAtypIpv4 ∧ p.destAddr = some (.inet addr 0)
  | .ipv6 addr => p.atyp = socksAtypIpv6 ∧ p.destAddr = some (.inet6 addr 0)
  | .fqdn name => p.atyp = socksAtypFqdn ∧ p.fqdnLen.toNat = name.length ∧
      p.fqdn.take name.length = name ∧ p.fqdn[name.length]? = some 0

/-- The parser is done and holds the destination: the family, the address with its port, or the name
with its length and its terminator. -/
def RequestGives (p : RequestParser) (status : RequestStatus) (d : Destination) : Prop :=
  p.destPort = d.port ∧
    match d.host with
    | .ipv4 addr => status = .parsedAddr ∧ p.destAddr = some (.inet addr d.port)
    | .ipv6 addr => status = .parsedAddr ∧ p.destAddr = some (.inet6 addr d.port)
    | .fqdn name => status = .parsedFqdn ∧ p.fqdnLen.toNat = name.length ∧
        p.fqdn.take name.length = name ∧ p.fqdn[name.length]? = some 0

/-- The byte that cannot follow `t`, with the status that names it. -/
inductive RequestOffends : Bytes → UInt8 → RequestStatus → Prop
  | version {byte : UInt8} (h : byte ≠ socksRequestVersion) : RequestOffends [] byte .reject
  | command {byte : UInt8} (h : byte ≠ socksCmdConnect) :
    RequestOffends [socksRequestVersion] byte .rejectCmd
  | reserved {byte : UInt8} (h : byte ≠ 0x00) :
    RequestOffends [socksRequestVersion, socksCmdConnect] byte .reject
  | atyp {byte : UInt8} (h4 : byte ≠ socksAtypIpv4) (h6 : byte ≠ socksAtypIpv6)
    (hf : byte ≠ socksAtypFqdn) : RequestOffends requestHead byte .rejectAtyp
  | fqdnLen : RequestOffends (requestHead ++ [socksAtypFqdn]) 0 .reject

/-- The elements of arrays that `socks_request_parser_feed` writes: the index, computed as in the
source, and the size of the array.  With the last byte of a name goes its terminator. -/
def RequestParser.writes (p : RequestParser) : List (ℤ × ℕ) :=
  match p.state with
  | .addrIpv4 => [((4 : ℤ) - p.addrRemaining.toNat, 4)]
  | .addrIpv6 => [((16 : ℤ) - p.addrRemaining.toNat, 16)]
  | .fqdn =>
    [((p.fqdnLen.toNat : ℤ) - p.fqdnRemaining.toNat, socksRequestFqdnMax + 1),
      ((p.fqdnLen.toNat : ℤ), socksRequestFqdnMax + 1)]
  | _ => []

/-! ## What the parser has seen -/

/-- The bytes read so far, from the state, the counters and the arrays. -/
def RequestParser.Read (p : RequestParser) (t : Bytes) : Prop :=
  match p.state with
  | .ver => t = []
  | .cmd => t = [socksRequestVersion]
  | .rsv => t = [socksRequestVersion, socksCmdConnect]
  | .atyp => t = requestHead
  | .addrIpv4 =>
    0 < p.addrRemaining.toNat ∧ p.addrRemaining.toNat ≤ 4 ∧ p.atyp = socksAtypIpv4 ∧
      ∃ addr : InAddr, p.destAddr = some (.inet addr 0) ∧
        t = requestHead ++ socksAtypIpv4 :: addr.toList.take (4 - p.addrRemaining.toNat)
  | .addrIpv6 =>
    0 < p.addrRemaining.toNat ∧ p.addrRemaining.toNat ≤ 16 ∧ p.atyp = socksAtypIpv6 ∧
      ∃ addr : In6Addr, p.destAddr = some (.inet6 addr 0) ∧
        t = requestHead ++ socksAtypIpv6 :: addr.toList.take (16 - p.addrRemaining.toNat)
  | .fqdnLen => p.atyp = socksAtypFqdn ∧ t = requestHead ++ [socksAtypFqdn]
  | .fqdn =>
    0 < p.fqdnRemaining.toNat ∧ p.fqdnRemaining.toNat ≤ p.fqdnLen.toNat ∧
      p.atyp = socksAtypFqdn ∧ t = requestHead ++ socksAtypFqdn :: p.fqdnLen ::
        p.fqdn.take (p.fqdnLen.toNat - p.fqdnRemaining.toNat)
  | .portHi => ∃ h : DestHost, h.Valid ∧ p.Aims h ∧ t = requestHead ++ h.bytes
  | .portLo => ∃ h : DestHost, h.Valid ∧ p.Aims h ∧ t = requestHead ++ (h.bytes ++ [p.portHi])

/-- The parser has read `t`. -/
structure RequestParser.Saw (p : RequestParser) (t : Bytes) : Prop where
  fqdn : p.fqdn.length = socksRequestFqdnMax + 1
  read : p.Read t

theorem requestParserInit_saw : requestParserInit.Saw [] :=
  ⟨List.length_replicate, rfl⟩

/-! ## Ports and addresses -/

theorem toNat_port (hi lo : UInt8) :
    ((hi.toUInt16 <<< 8) ||| lo.toUInt16).toNat = hi.toNat * 256 + lo.toNat := by
  have hhi := hi.toNat_lt
  have hlo := lo.toNat_lt
  rw [UInt16.toNat_or, UInt16.toNat_shiftLeft, UInt8.toNat_toUInt16, UInt8.toNat_toUInt16,
    show (8 : UInt16).toNat % 16 = 8 from rfl, Nat.mod_eq_of_lt (by rw [Nat.shiftLeft_eq]; omega),
    ← Nat.shiftLeft_add_eq_or_of_lt (by omega), Nat.shiftLeft_eq]

/-- The two bytes of the port they make. -/
theorem port_bytes (hi lo : UInt8) :
    [(((hi.toUInt16 <<< 8) ||| lo.toUInt16) >>> 8).toUInt8,
      ((hi.toUInt16 <<< 8) ||| lo.toUInt16).toUInt8] = [hi, lo] := by
  have hhi := hi.toNat_lt
  have hlo := lo.toNat_lt
  have hhigh : (((hi.toUInt16 <<< 8) ||| lo.toUInt16) >>> 8).toUInt8 = hi := by
    refine UInt8.toNat_inj.1 ?_
    rw [UInt16.toNat_toUInt8, UInt16.toNat_shiftRight, toNat_port,
      show (8 : UInt16).toNat % 16 = 8 from rfl, Nat.shiftRight_eq_div_pow]
    omega
  have hlow : ((hi.toUInt16 <<< 8) ||| lo.toUInt16).toUInt8 = lo := by
    refine UInt8.toNat_inj.1 ?_
    rw [UInt16.toNat_toUInt8, toNat_port]
    omega
  rw [hhigh, hlow]

theorem port_inj {p q : UInt16} (hhi : (p >>> 8).toUInt8 = (q >>> 8).toUInt8)
    (hlo : p.toUInt8 = q.toUInt8) : p = q := by
  have hp := p.toNat_lt
  have hq := q.toNat_lt
  have hhigh := congrArg UInt8.toNat hhi
  have hlow := congrArg UInt8.toNat hlo
  rw [UInt16.toNat_toUInt8, UInt16.toNat_toUInt8, UInt16.toNat_shiftRight, UInt16.toNat_shiftRight,
    show (8 : UInt16).toNat % 16 = 8 from rfl, Nat.shiftRight_eq_div_pow,
    Nat.shiftRight_eq_div_pow] at hhigh
  rw [UInt16.toNat_toUInt8, UInt16.toNat_toUInt8] at hlow
  refine UInt16.toNat_inj.1 ?_
  omega

/-- An address after one more byte. -/
theorem take_setIfInBounds {n : ℕ} (addr : Vector UInt8 n) {remaining : UInt8}
    (hpos : 0 < remaining.toNat) (hle : remaining.toNat ≤ n) (byte : UInt8) :
    (addr.setIfInBounds (n - remaining.toNat) byte).toList.take (n - (remaining - 1).toNat) =
      addr.toList.take (n - remaining.toNat) ++ [byte] := by
  rw [Vector.toList_setIfInBounds]
  exact take_countdown (Nat.le_of_eq Vector.length_toList.symm) hpos hle byte

theorem take_toList {n : ℕ} (addr : Vector UInt8 n) : addr.toList.take n = addr.toList :=
  List.take_of_length_le (Nat.le_of_eq Vector.length_toList)

/-! ## One byte -/

namespace RequestParser.Saw

variable {p p' : RequestParser} {t : Bytes} {status : RequestStatus}

/-- **One byte.**  It continues the request, completes it, or cannot be part of one. -/
theorem feed (h : p.Saw t) (byte : UInt8) :
    ((requestParserFeed p byte).2 = .needMore ∧ (requestParserFeed p byte).1.Saw (t ++ [byte])) ∨
    (∃ d : Destination, d.Valid ∧ t ++ [byte] = requestMessage d ∧
      RequestGives (requestParserFeed p byte).1 (requestParserFeed p byte).2 d) ∨
    RequestOffends t byte (requestParserFeed p byte).2 := by
  have hread := h.read
  rw [RequestParser.Read] at hread
  rw [requestParserFeed]
  cases hs : p.state with
  | ver =>
    simp only [hs] at hread
    subst hread
    dsimp only
    by_cases hv : byte ≠ socksRequestVersion
    · rw [if_pos hv]
      exact .inr (.inr (.version hv))
    · rw [if_neg hv, not_not.1 hv]
      exact .inl ⟨rfl, h.fqdn, rfl⟩
  | cmd =>
    simp only [hs] at hread
    subst hread
    dsimp only
    by_cases hc : byte ≠ socksCmdConnect
    · rw [if_pos hc]
      exact .inr (.inr (.command hc))
    · rw [if_neg hc, not_not.1 hc]
      exact .inl ⟨rfl, h.fqdn, rfl⟩
  | rsv =>
    simp only [hs] at hread
    subst hread
    dsimp only
    by_cases hr : byte ≠ 0x00
    · rw [if_pos hr]
      exact .inr (.inr (.reserved hr))
    · rw [if_neg hr, not_not.1 hr]
      exact .inl ⟨rfl, h.fqdn, rfl⟩
  | atyp =>
    simp only [hs] at hread
    subst hread
    dsimp only
    by_cases h4 : byte = socksAtypIpv4
    · rw [if_pos h4, h4]
      exact .inl ⟨rfl, h.fqdn, show 0 < 4 by decide, Nat.le_refl 4, rfl, _, rfl, rfl⟩
    rw [if_neg h4]
    by_cases h6 : byte = socksAtypIpv6
    · rw [if_pos h6, h6]
      exact .inl ⟨rfl, h.fqdn, show 0 < 16 by decide, Nat.le_refl 16, rfl, _, rfl, rfl⟩
    rw [if_neg h6]
    by_cases hf : byte = socksAtypFqdn
    · rw [if_pos hf, hf]
      exact .inl ⟨rfl, h.fqdn, rfl, rfl⟩
    · rw [if_neg hf]
      exact .inr (.inr (.atyp h4 h6 hf))
  | addrIpv4 =>
    simp only [hs] at hread
    obtain ⟨hpos, hle, hatyp, addr, haddr, rfl⟩ := hread
    have hfill := take_setIfInBounds addr hpos hle byte
    dsimp only
    rw [haddr]
    by_cases hmore : 0 < p.addrRemaining - 1
    · rw [if_pos hmore]
      refine .inl ⟨rfl, h.fqdn, ?_⟩
      rw [RequestParser.Read]
      refine ⟨UInt8.lt_iff_toNat_lt.1 hmore, ?_, hatyp, _, rfl, ?_⟩
      · rw [toNat_pred hpos]
        omega
      · rw [hfill, List.append_assoc]
        rfl
    · rw [if_neg hmore]
      rw [toNat_eq_zero_of_not_pos hmore, Nat.sub_zero, take_toList] at hfill
      refine .inl ⟨rfl, h.fqdn, .ipv4 _, trivial, ⟨hatyp, rfl⟩, ?_⟩
      rw [DestHost.bytes, hfill, List.append_assoc]
      rfl
  | addrIpv6 =>
    simp only [hs] at hread
    obtain ⟨hpos, hle, hatyp, addr, haddr, rfl⟩ := hread
    have hfill := take_setIfInBounds addr hpos hle byte
    dsimp only
    rw [haddr]
    by_cases hmore : 0 < p.addrRemaining - 1
    · rw [if_pos hmore]
      refine .inl ⟨rfl, h.fqdn, ?_⟩
      rw [RequestParser.Read]
      refine ⟨UInt8.lt_iff_toNat_lt.1 hmore, ?_, hatyp, _, rfl, ?_⟩
      · rw [toNat_pred hpos]
        omega
      · rw [hfill, List.append_assoc]
        rfl
    · rw [if_neg hmore]
      rw [toNat_eq_zero_of_not_pos hmore, Nat.sub_zero, take_toList] at hfill
      refine .inl ⟨rfl, h.fqdn, .ipv6 _, trivial, ⟨hatyp, rfl⟩, ?_⟩
      rw [DestHost.bytes, hfill, List.append_assoc]
      rfl
  | fqdnLen =>
    simp only [hs] at hread
    obtain ⟨hatyp, rfl⟩ := hread
    dsimp only
    by_cases h0 : byte = 0
    · rw [if_pos h0, h0]
      exact .inr (.inr .fqdnLen)
    · rw [if_neg h0]
      refine .inl ⟨rfl, h.fqdn, toNat_pos h0, Nat.le_refl _, hatyp, ?_⟩
      rw [Nat.sub_self]
      rfl
  | fqdn =>
    simp only [hs] at hread
    obtain ⟨hpos, hle, hatyp, rfl⟩ := hread
    have hlen : p.fqdnLen.toNat ≤ socksRequestFqdnMax := Nat.le_of_lt_succ p.fqdnLen.toNat_lt
    have hfill := take_countdown (by rw [h.fqdn]; omega) hpos hle byte
    dsimp only
    by_cases hmore : 0 < p.fqdnRemaining - 1
    · rw [if_pos hmore]
      refine .inl ⟨rfl, by rw [List.length_set, h.fqdn], ?_⟩
      rw [RequestParser.Read]
      refine ⟨UInt8.lt_iff_toNat_lt.1 hmore, ?_, hatyp, ?_⟩
      · show (p.fqdnRemaining - 1).toNat ≤ p.fqdnLen.toNat
        rw [toNat_pred hpos]
        omega
      · rw [hfill, List.append_assoc]
        rfl
    · rw [if_neg hmore]
      rw [toNat_eq_zero_of_not_pos hmore, Nat.sub_zero] at hfill
      -- the name is complete, and its terminator stands behind it
      have hname : (p.fqdn.take (p.fqdnLen.toNat - p.fqdnRemaining.toNat) ++ [byte]).length =
          p.fqdnLen.toNat := by
        rw [← hfill, List.length_take, List.length_set, h.fqdn]
        omega
      refine .inl ⟨rfl, by rw [List.length_set, List.length_set, h.fqdn],
        .fqdn (p.fqdn.take (p.fqdnLen.toNat - p.fqdnRemaining.toNat) ++ [byte]), ?_,
        ⟨hatyp, hname.symm, ?_, ?_⟩, ?_⟩
      · rw [DestHost.Valid, hname]
        exact ⟨by omega, hlen⟩
      · rw [hname, List.take_set_of_le (Nat.le_refl _), hfill]
      · rw [hname, List.getElem?_set_self (by rw [List.length_set, h.fqdn]; omega)]
      · rw [DestHost.bytes, hname, UInt8.ofNat_toNat, List.append_assoc]
        rfl
  | portHi =>
    simp only [hs] at hread
    obtain ⟨host, hvalid, haims, rfl⟩ := hread
    refine .inl ⟨rfl, h.fqdn, host, hvalid, ?_, ?_⟩
    · cases host <;> exact haims
    · rw [List.append_assoc]
  | portLo =>
    simp only [hs] at hread
    obtain ⟨host, hvalid, haims, rfl⟩ := hread
    refine .inr (.inl ⟨⟨host, (p.portHi.toUInt16 <<< 8) ||| byte.toUInt16⟩, hvalid, ?_, ?_⟩)
    · rw [requestMessage, port_bytes, List.append_assoc, List.append_assoc]
      rfl
    · dsimp only
      cases host with
      | ipv4 addr =>
        rw [if_neg (by rw [haims.1]; decide), haims.2]
        exact ⟨rfl, rfl, rfl⟩
      | ipv6 addr =>
        rw [if_neg (by rw [haims.1]; decide), haims.2]
        exact ⟨rfl, rfl, rfl⟩
      | fqdn name =>
        rw [if_pos haims.1]
        exact ⟨rfl, rfl, haims.2⟩

/-- Everything the next byte writes is inside its array. -/
theorem writes_lt (h : p.Saw t) : ∀ a ∈ p.writes, 0 ≤ a.1 ∧ a.1 < (a.2 : ℤ) := by
  have hread := h.read
  rw [RequestParser.Read] at hread
  rw [RequestParser.writes]
  have hlen : p.fqdnLen.toNat ≤ socksRequestFqdnMax := Nat.le_of_lt_succ p.fqdnLen.toNat_lt
  cases hs : p.state with
  | addrIpv4 =>
    simp only [hs] at hread ⊢
    rw [List.forall_mem_singleton]
    omega
  | addrIpv6 =>
    simp only [hs] at hread ⊢
    rw [List.forall_mem_singleton]
    omega
  | fqdn =>
    simp only [hs] at hread ⊢
    rw [List.forall_mem_cons, List.forall_mem_singleton]
    omega
  | ver => exact List.forall_mem_nil _
  | cmd => exact List.forall_mem_nil _
  | rsv => exact List.forall_mem_nil _
  | atyp => exact List.forall_mem_nil _
  | fqdnLen => exact List.forall_mem_nil _
  | portHi => exact List.forall_mem_nil _
  | portLo => exact List.forall_mem_nil _

end RequestParser.Saw

/-- A destination comes with one of the two statuses for it. -/
theorem RequestGives.status {p : RequestParser} {status : RequestStatus} {d : Destination}
    (h : RequestGives p status d) : status = .parsedAddr ∨ status = .parsedFqdn := by
  obtain ⟨-, h⟩ := h
  rcases d with ⟨host, port⟩
  cases host with
  | ipv4 addr => exact .inl h.1
  | ipv6 addr => exact .inl h.1
  | fqdn name => exact .inr h.1

theorem RequestOffends.not_gives {t : Bytes} {byte : UInt8} {status : RequestStatus}
    (h : RequestOffends t byte status) (p : RequestParser) (d : Destination) :
    ¬ RequestGives p status d := by
  intro hg
  cases h <;> rcases hg.status with hs | hs <;> cases hs

/-! ## Requests -/

section Requests

theorem toNat_ofNat_fqdn {name : Bytes} (h : (DestHost.fqdn name).Valid) :
    (UInt8.ofNat name.length).toNat = name.length :=
  UInt8.toNat_ofNat_of_lt' (Nat.lt_of_le_of_lt h.2 (by decide))

/-- A host can be told from what follows it. -/
theorem DestHost.bytes_inj {h h' : DestHost} {x x' : Bytes} (hv : h.Valid) (hv' : h'.Valid)
    (heq : h.bytes ++ x = h'.bytes ++ x') : h = h' ∧ x = x' := by
  cases h with
  | ipv4 addr =>
    cases h' with
    | ipv4 addr' =>
      obtain ⟨haddr, hx⟩ := List.append_inj (List.cons.inj heq).2
        (Vector.length_toList.trans Vector.length_toList.symm)
      exact ⟨by rw [Vector.toList_inj.1 haddr], hx⟩
    | ipv6 addr' => exact absurd (List.cons.inj heq).1 (by decide)
    | fqdn name' => exact absurd (List.cons.inj heq).1 (by decide)
  | ipv6 addr =>
    cases h' with
    | ipv4 addr' => exact absurd (List.cons.inj heq).1 (by decide)
    | ipv6 addr' =>
      obtain ⟨haddr, hx⟩ := List.append_inj (List.cons.inj heq).2
        (Vector.length_toList.trans Vector.length_toList.symm)
      exact ⟨by rw [Vector.toList_inj.1 haddr], hx⟩
    | fqdn name' => exact absurd (List.cons.inj heq).1 (by decide)
  | fqdn name =>
    cases h' with
    | ipv4 addr' => exact absurd (List.cons.inj heq).1 (by decide)
    | ipv6 addr' => exact absurd (List.cons.inj heq).1 (by decide)
    | fqdn name' =>
      have hrest := (List.cons.inj heq).2
      have hlen := congrArg UInt8.toNat (List.cons.inj hrest).1
      rw [toNat_ofNat_fqdn hv, toNat_ofNat_fqdn hv'] at hlen
      obtain ⟨hname, hx⟩ := List.append_inj (List.cons.inj hrest).2 hlen
      exact ⟨by rw [hname], hx⟩

theorem requestMessage_prefixFree : PrefixFree requestMessage Destination.Valid := by
  intro d d' late hd hd' h
  rw [requestMessage, requestMessage, List.append_assoc, List.append_assoc] at h
  obtain ⟨hhost, hport⟩ := DestHost.bytes_inj hd hd' (List.append_cancel_left h)
  have htail := (List.cons.inj hport).2
  have hlate : late = [] := (List.cons.inj htail).2
  have hp := port_inj (List.cons.inj hport).1 (List.cons.inj htail).1
  refine ⟨hlate, ?_⟩
  rcases d with ⟨host, port⟩
  rcases d' with ⟨host', port'⟩
  rw [show host = host' from hhost, show port = port' from hp]

/-- No request goes on with the offending byte. -/
theorem RequestOffends.hopeless {t : Bytes} {byte : UInt8} {status : RequestStatus}
    (h : RequestOffends t byte status) :
    Hopeless requestMessage Destination.Valid (t ++ [byte]) := by
  rintro late ⟨⟨host, port⟩, hd, hw⟩
  cases h with
  | version hv => exact hv (List.cons.inj hw).1.symm
  | command hc => exact hc (List.cons.inj (List.cons.inj hw).2).1.symm
  | reserved hr => exact hr (List.cons.inj (List.cons.inj (List.cons.inj hw).2).2).1.symm
  | atyp h4 h6 hf =>
    have hrest := (List.cons.inj (List.cons.inj (List.cons.inj hw).2).2).2
    cases host with
    | ipv4 addr => exact h4 (List.cons.inj hrest).1.symm
    | ipv6 addr => exact h6 (List.cons.inj hrest).1.symm
    | fqdn name => exact hf (List.cons.inj hrest).1.symm
  | fqdnLen =>
    have hrest := (List.cons.inj (List.cons.inj (List.cons.inj hw).2).2).2
    cases host with
    | ipv4 addr => exact absurd (List.cons.inj hrest).1 (by decide)
    | ipv6 addr => exact absurd (List.cons.inj hrest).1 (by decide)
    | fqdn name =>
      have hlen := congrArg UInt8.toNat (List.cons.inj (List.cons.inj hrest).2).1
      rw [toNat_ofNat_fqdn hd] at hlen
      have := hd.1
      rw [hlen] at this
      exact absurd this (by decide)

/-- The request for a host and the port 0. -/
theorem requestMessage_zero (host : DestHost) :
    requestMessage ⟨host, 0⟩ = requestHead ++ (host.bytes ++ [0, 0]) := by
  rw [requestMessage, show ((0 : UInt16) >>> 8).toUInt8 = 0 by decide,
    show (0 : UInt16).toUInt8 = 0 by decide]

/-- What the parser has read so far can become a request: the rest of an array that is being filled
may stay as it is. -/
theorem RequestParser.Saw.unfinished {p : RequestParser} {t : Bytes} (h : p.Saw t) :
    Unfinished requestMessage Destination.Valid t := by
  have hread := h.read
  rw [RequestParser.Read] at hread
  have hone : (DestHost.fqdn [0]).Valid := ⟨by decide, by decide⟩
  cases hs : p.state with
  | ver =>
    simp only [hs] at hread
    subst hread
    exact ⟨requestMessage ⟨.fqdn [0], 0⟩, by decide, ⟨.fqdn [0], 0⟩, hone, rfl⟩
  | cmd =>
    simp only [hs] at hread
    subst hread
    exact ⟨(requestMessage ⟨.fqdn [0], 0⟩).tail, by decide, ⟨.fqdn [0], 0⟩, hone, rfl⟩
  | rsv =>
    simp only [hs] at hread
    subst hread
    exact ⟨(requestMessage ⟨.fqdn [0], 0⟩).tail.tail, by decide, ⟨.fqdn [0], 0⟩, hone, rfl⟩
  | atyp =>
    simp only [hs] at hread
    subst hread
    exact ⟨(DestHost.fqdn [0]).bytes ++ [0, 0], by decide, ⟨.fqdn [0], 0⟩, hone, rfl⟩
  | addrIpv4 =>
    simp only [hs] at hread
    obtain ⟨-, -, -, addr, -, rfl⟩ := hread
    refine ⟨addr.toList.drop (4 - p.addrRemaining.toNat) ++ [0, 0], by simp, ⟨.ipv4 addr, 0⟩,
      trivial, ?_⟩
    rw [requestMessage_zero, DestHost.bytes, List.append_assoc, List.cons_append, List.cons_append,
      ← List.append_assoc, List.take_append_drop]
  | addrIpv6 =>
    simp only [hs] at hread
    obtain ⟨-, -, -, addr, -, rfl⟩ := hread
    refine ⟨addr.toList.drop (16 - p.addrRemaining.toNat) ++ [0, 0], by simp, ⟨.ipv6 addr, 0⟩,
      trivial, ?_⟩
    rw [requestMessage_zero, DestHost.bytes, List.append_assoc, List.cons_append, List.cons_append,
      ← List.append_assoc, List.take_append_drop]
  | fqdnLen =>
    simp only [hs] at hread
    obtain ⟨-, rfl⟩ := hread
    exact ⟨[1, 0, 0, 0], by decide, ⟨.fqdn [0], 0⟩, hone, rfl⟩
  | fqdn =>
    simp only [hs] at hread
    obtain ⟨hpos, hle, -, rfl⟩ := hread
    have hlen : p.fqdnLen.toNat ≤ socksRequestFqdnMax := Nat.le_of_lt_succ p.fqdnLen.toNat_lt
    have hname : (p.fqdn.take p.fqdnLen.toNat).length = p.fqdnLen.toNat := by
      rw [List.length_take, h.fqdn]
      omega
    have hsplit : p.fqdn.take (p.fqdnLen.toNat - p.fqdnRemaining.toNat) ++
        (p.fqdn.take p.fqdnLen.toNat).drop (p.fqdnLen.toNat - p.fqdnRemaining.toNat) =
        p.fqdn.take p.fqdnLen.toNat := by
      have := List.take_append_drop (p.fqdnLen.toNat - p.fqdnRemaining.toNat)
        (p.fqdn.take p.fqdnLen.toNat)
      rwa [List.take_take, Nat.min_eq_left (Nat.sub_le _ _)] at this
    refine ⟨(p.fqdn.take p.fqdnLen.toNat).drop (p.fqdnLen.toNat - p.fqdnRemaining.toNat) ++ [0, 0],
      by simp, ⟨.fqdn (p.fqdn.take p.fqdnLen.toNat), 0⟩, ?_, ?_⟩
    · rw [Destination.Valid, DestHost.Valid, hname]
      exact ⟨by omega, hlen⟩
    · rw [requestMessage_zero, DestHost.bytes, hname, UInt8.ofNat_toNat, List.append_assoc,
        List.cons_append, List.cons_append, List.cons_append, List.cons_append, ← List.append_assoc,
        hsplit]
  | portHi =>
    simp only [hs] at hread
    obtain ⟨host, hvalid, -, rfl⟩ := hread
    refine ⟨[0, 0], by decide, ⟨host, 0⟩, hvalid, ?_⟩
    rw [requestMessage_zero, List.append_assoc]
  | portLo =>
    simp only [hs] at hread
    obtain ⟨host, hvalid, -, rfl⟩ := hread
    refine ⟨[0], by decide, ⟨host, (p.portHi.toUInt16 <<< 8) ||| (0 : UInt8).toUInt16⟩, hvalid, ?_⟩
    rw [requestMessage, port_bytes, List.append_assoc, List.append_assoc]
    rfl

end Requests

/-! ## The parser and the requests -/

section Parser

variable {p p' : RequestParser} {t : Bytes} {byte : UInt8}

theorem RequestParser.Saw.next (h : p.Saw t) (hfeed : requestParserFeed p byte = (p', .needMore)) :
    p'.Saw (t ++ [byte]) := by
  have hstep := h.feed byte
  rw [hfeed] at hstep
  rcases hstep with ⟨-, hsaw⟩ | ⟨d, -, -, hg⟩ | hoff
  · exact hsaw
  · rcases hg.status with hs | hs <;> cases hs
  · cases hoff

theorem requestParser_recognises :
    Recognises requestParserFeed .needMore requestParserInit requestMessage Destination.Valid
      RequestGives := by
  refine .of_inv requestParserInit_saw (fun p t byte p' h hfeed => h.next hfeed)
    requestMessage_prefixFree (fun p t h => h.unfinished)
    (fun p t byte p' status h hfeed hne => ?_)
  have hstep := h.feed byte
  rw [hfeed] at hstep
  rcases hstep with ⟨hs, -⟩ | ⟨d, hd, hw, hg⟩ | hoff
  · exact absurd hs hne
  · exact .inl ⟨d, hd, hg, hw⟩
  · exact .inr ⟨hoff.not_gives p', hoff.hopeless⟩

/-- What a decided parser has read. -/
theorem requestParser_decided {bs rest : Bytes} {status : RequestStatus}
    (h : scan requestParserFeed .needMore requestParserInit bs = some (p, status, rest)) :
    (∃ d : Destination, d.Valid ∧ RequestGives p status d ∧ bs = requestMessage d ++ rest) ∨
      ∃ t byte, bs = t ++ byte :: rest ∧ Unfinished requestMessage Destination.Valid t ∧
        RequestOffends t byte status := by
  obtain ⟨t, byte, q, rfl, hq, hfeed⟩ :=
    scan_some (fun p t byte p' h hfeed => h.next hfeed) requestParserInit_saw h
  have hstep := hq.feed byte
  rw [hfeed] at hstep
  rcases hstep with ⟨hs, -⟩ | ⟨d, hd, hw, hg⟩ | hoff
  · exact absurd hs (scan_ne_more h)
  · exact .inl ⟨d, hd, hg, by rw [← hw, List.append_cons]⟩
  · exact .inr ⟨t, byte, rfl, hq.unfinished, hoff⟩

end Parser

/-- **The format of the CONNECT request.**  The request for any destination is accepted on its last
byte, with the destination as it was asked for; only a request is accepted; any other string is a
proper beginning of a request, and the parser waits, or it is refused at the first byte that cannot
be there, with the status that says why.  No byte is ever written outside its array. -/
theorem request_codec :
    (∀ d : Destination, d.Valid → ∃ p status,
      scan requestParserFeed .needMore requestParserInit (requestMessage d) = some (p, status, []) ∧
        RequestGives p status d) ∧
    (∀ bs p status rest, status = .parsedAddr ∨ status = .parsedFqdn →
      scan requestParserFeed .needMore requestParserInit bs = some (p, status, rest) →
      ∃ d : Destination, d.Valid ∧ RequestGives p status d ∧ bs = requestMessage d ++ rest) ∧
    (∀ bs, scan requestParserFeed .needMore requestParserInit bs = none ↔
      Unfinished requestMessage Destination.Valid bs) ∧
    (∀ bs p status rest, status ≠ .parsedAddr → status ≠ .parsedFqdn →
      scan requestParserFeed .needMore requestParserInit bs = some (p, status, rest) →
      ∃ t byte, bs = t ++ byte :: rest ∧ Unfinished requestMessage Destination.Valid t ∧
        Hopeless requestMessage Destination.Valid (t ++ [byte]) ∧ RequestOffends t byte status) ∧
    (∀ bs, scan requestParserFeed .needMore requestParserInit bs = none →
      ∀ a ∈ (fed requestParserFeed requestParserInit bs).writes, 0 ≤ a.1 ∧ a.1 < (a.2 : ℤ)) := by
  have hrec := requestParser_recognises
  refine ⟨fun d hd => ?_, fun bs p status rest hparsed h => ?_, fun bs => hrec.scan_eq_none_iff,
    fun bs p status rest haddr hfqdn h => ?_, fun bs h => ?_⟩
  · obtain ⟨p, status, hs, hg⟩ := hrec.accepts hd []
    rw [List.append_nil] at hs
    exact ⟨p, status, hs, hg⟩
  · rcases requestParser_decided h with hd | ⟨t, byte, -, -, hoff⟩
    · exact hd
    · rcases hparsed with rfl | rfl <;> cases hoff
  · rcases requestParser_decided h with ⟨d, -, hg, -⟩ | ⟨t, byte, hw, hopen, hoff⟩
    · rcases hg.status with hs | hs
      · exact absurd hs haddr
      · exact absurd hs hfqdn
    · exact ⟨t, byte, hw, hopen, hoff.hopeless, hoff⟩
  · exact (scan_none (fun p t byte p' h hfeed => h.next hfeed) requestParserInit_saw h).writes_lt

end SocksProxy
