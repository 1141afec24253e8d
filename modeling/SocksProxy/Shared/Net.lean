import Mathlib.Data.List.TakeWhile
import SocksProxy.Shared.Buffer

/-!
# What the program takes from the operating system

The values that cross the system-call boundary: socket addresses, the `errno` values the code
distinguishes, and the return codes of `getaddrinfo`.  A C string is the bytes before its NUL, so
`cstr` is how a fixed array is read as one; `strncpyTerm` is the `strncpy` of at most `n` bytes
followed by the store of a terminator that every bounded copy of the program uses.

`inet_pton` and `inet_ntop` are taken from libc.  `Inet` is their interface together with what the
deny list relies on: the text of an address parses back to that address, in its own family only.
-/

set_option autoImplicit false

namespace SocksProxy

/-- A file descriptor.  The value `-1` of an `int` field is `none` of an `Option Fd`. -/
abbrev Fd := ℕ

/-- The C string at the start of an array. -/
def cstr (a : Bytes) : Bytes := a.takeWhile (· != 0)

theorem cstr_of_notMem {bs : Bytes} (h : 0 ∉ bs) : cstr bs = bs := by
  rw [cstr, List.takeWhile_eq_self_iff]
  intro b hb
  have : b ≠ 0 := fun h0 => h (h0 ▸ hb)
  simpa using this

/-- What a field holds, read as a C string, after `strncpy(dst, src, n); dst[n] = '\0'`. -/
def strncpyTerm (src : Bytes) (n : ℕ) : Bytes := src.take n

/-- `struct in_addr`, in network order. -/
abbrev InAddr := Vector UInt8 4

/-- `struct in6_addr`. -/
abbrev In6Addr := Vector UInt8 16

/-- `struct sockaddr` by family. -/
inductive SockAddr where
  | inet (addr : InAddr) (port : UInt16)
  | inet6 (addr : In6Addr) (port : UInt16)
  | other (family : ℕ)
  deriving DecidableEq

/-- The `errno` values `connect()` and `SO_ERROR` are told apart by. -/
inductive Errno where
  | netUnreach
  | hostUnreach
  | hostDown
  | connRefused
  | afNoSupport
  | other (n : ℕ)
  deriving DecidableEq

/-- The return codes of `getaddrinfo`. -/
inductive GaiRc where
  | ok
  | noName
  | noData
  | addrFamily
  | family
  | other (n : ℕ)
  deriving DecidableEq

/-- The IPv6 address `::ffff:a`. -/
def v4Mapped (a : InAddr) : In6Addr :=
  (#v[0, 0, 0, 0, 0, 0, 0, 0, 0, 0, 255, 255] : Vector UInt8 12) ++ a

/-- `inet_ntop` and `inet_pton` of the two families, and the laws the program relies on. -/
class Inet where
  ntop4 : InAddr → Bytes
  ntop6 : In6Addr → Bytes
  pton4 : Bytes → Option InAddr
  pton6 : Bytes → Option In6Addr
  pton4_ntop4 : ∀ a, pton4 (ntop4 a) = some a
  pton6_ntop6 : ∀ b, pton6 (ntop6 b) = some b
  /-- The text of an IPv6 address has a colon, so it is not dotted quad. -/
  pton4_ntop6 : ∀ b, pton4 (ntop6 b) = none

attribute [simp] Inet.pton4_ntop4 Inet.pton6_ntop6 Inet.pton4_ntop6

end SocksProxy
