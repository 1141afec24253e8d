import SocksProxy.Shared.Net

/-!
# Username/password authentication: `auth.c`

The parser of `VER | ULEN | UNAME | PLEN | PASSWD`, fed one byte at a time.  The two name fields
are the fixed arrays of the C struct; `authUsername` and `authPassword` are their filled parts.
-/

set_option autoImplicit false

namespace SocksProxy

def authVersion : UInt8 := 0x01
def socksAuthMaxLen : ℕ := 255

/-- `enum auth_state`. -/
inductive AuthState where
  | ver
  | ulen
  | uname
  | plen
  | passwd
  deriving DecidableEq

/-- `socks_auth_status`. -/
inductive AuthStatus where
  | needMore
  | parsed
  | reject
  deriving DecidableEq

/-- `struct socks_auth_parser`. -/
structure AuthParser where
  state : AuthState
  unameLen : UInt8
  passwdLen : UInt8
  unameRemaining : UInt8
  passwdRemaining : UInt8
  uname : Bytes
  passwd : Bytes
  deriving DecidableEq

/-- `socks_auth_parser_init`, over a zeroed session. -/
def authParserInit : AuthParser where
  state := .ver
  unameLen := 0
  passwdLen := 0
  unameRemaining := 0
  passwdRemaining := 0
  uname := List.replicate socksAuthMaxLen 0
  passwd := List.replicate socksAuthMaxLen 0

/-- `socks_auth_username` together with its length. -/
def authUsername (p : AuthParser) : Bytes := p.uname.take p.unameLen.toNat

/-- `socks_auth_password` together with its length. -/
def authPassword (p : AuthParser) : Bytes := p.passwd.take p.passwdLen.toNat

/-- `socks_auth_parser_feed`. -/
def authParserFeed (p : AuthParser) (byte : UInt8) : AuthParser × AuthStatus :=
  match p.state with
  | .ver =>
    if byte ≠ authVersion then (p, .reject)
    else ({ p with state := .ulen }, .needMore)
  | .ulen =>
    if byte = 0 then (p, .reject)
    else ({ p with unameLen := byte, unameRemaining := byte, state := .uname }, .needMore)
  | .uname =>
    let idx := p.unameLen.toNat - p.unameRemaining.toNat
    let p := { p with uname := p.uname.set idx byte, unameRemaining := p.unameRemaining - 1 }
    if 0 < p.unameRemaining then (p, .needMore)
    else ({ p with state := .plen }, .needMore)
  | .plen =>
    if byte = 0 then (p, .reject)
    else ({ p with passwdLen := byte, passwdRemaining := byte, state := .passwd }, .needMore)
  | .passwd =>
    let idx := p.passwdLen.toNat - p.passwdRemaining.toNat
    let p := { p with passwd := p.passwd.set idx byte, passwdRemaining := p.passwdRemaining - 1 }
    if 0 < p.passwdRemaining then (p, .needMore)
    else (p, .parsed)

end SocksProxy
