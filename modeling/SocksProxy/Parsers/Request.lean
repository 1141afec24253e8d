import SocksProxy.Shared.Net

/-!
# The CONNECT request: `request.c`

The parser of `VER | CMD | RSV | ATYP | DST.ADDR | DST.PORT`, fed one byte at a time.  The
destination under construction is the `sockaddr_storage` of the C struct; `none` is
`dest_addr_len == 0`.
-/

set_option autoImplicit false

namespace SocksProxy

def socksRequestVersion : UInt8 := 0x05
def socksCmdConnect : UInt8 := 0x01
def socksAtypIpv4 : UInt8 := 0x01
def socksAtypFqdn : UInt8 := 0x03
def socksAtypIpv6 : UInt8 := 0x04
def socksRequestFqdnMax : ℕ := 255

/-- `enum request_state`. -/
inductive RequestState where
  | ver
  | cmd
  | rsv
  | atyp
  | addrIpv4
  | addrIpv6
  | fqdnLen
  | fqdn
  | portHi
  | portLo
  deriving DecidableEq

/-- `socks_request_status`. -/
inductive RequestStatus where
  | needMore
  | parsedAddr
  | parsedFqdn
  | reject
  | rejectCmd
  | rejectAtyp
  deriving DecidableEq

/-- `struct socks_request_parser`. -/
structure RequestParser where
  state : RequestState
  cmd : UInt8
  atyp : UInt8
  addrRemaining : UInt8
  fqdnLen : UInt8
  fqdnRemaining : UInt8
  fqdn : Bytes
  portHi : UInt8
  destAddr : Option SockAddr
  destPort : UInt16
  deriving DecidableEq

/-- `socks_request_parser_init`, over a zeroed session. -/
def requestParserInit : RequestParser where
  state := .ver
  cmd := 0
  atyp := 0
  addrRemaining := 0
  fqdnLen := 0
  fqdnRemaining := 0
  fqdn := List.replicate (socksRequestFqdnMax + 1) 0
  portHi := 0
  destAddr := none
  destPort := 0

/-- `socks_request_fqdn`: the hostname as a C string. -/
def requestFqdn (p : RequestParser) : Bytes := cstr p.fqdn

/-- A byte of the address stored into the `sockaddr` under construction. -/
def SockAddr.setByte (a : SockAddr) (idx : ℕ) (byte : UInt8) : SockAddr :=
  match a with
  | .inet addr port => .inet (addr.setIfInBounds idx byte) port
  | .inet6 addr port => .inet6 (addr.setIfInBounds idx byte) port
  | .other f => .other f

/-- The port stored into the `sockaddr` under construction. -/
def SockAddr.setPort (a : SockAddr) (port : UInt16) : SockAddr :=
  match a with
  | .inet addr _ => .inet addr port
  | .inet6 addr _ => .inet6 addr port
  | .other f => .other f

/-- `socks_request_parser_feed`. -/
def requestParserFeed (p : RequestParser) (byte : UInt8) : RequestParser × RequestStatus :=
  match p.state with
  | .ver =>
    if byte ≠ socksRequestVersion then (p, .reject)
    else ({ p with state := .cmd }, .needMore)
  | .cmd =>
    if byte ≠ socksCmdConnect then (p, .rejectCmd)
    else ({ p with cmd := byte, state := .rsv }, .needMore)
  | .rsv =>
    if byte ≠ 0x00 then (p, .reject)
    else ({ p with state := .atyp }, .needMore)
  | .atyp =>
    let p := { p with atyp := byte }
    if byte = socksAtypIpv4 then
      ({ p with addrRemaining := 4, destAddr := some (.inet (Vector.replicate 4 0) 0),
                state := .addrIpv4 }, .needMore)
    else if byte = socksAtypIpv6 then
      ({ p with addrRemaining := 16, destAddr := some (.inet6 (Vector.replicate 16 0) 0),
                state := .addrIpv6 }, .needMore)
    else if byte = socksAtypFqdn then ({ p with state := .fqdnLen }, .needMore)
    else (p, .rejectAtyp)
  | .addrIpv4 =>
    let idx := 4 - p.addrRemaining.toNat
    let p : RequestParser := { p with
      destAddr := p.destAddr.map (·.setByte idx byte)
      addrRemaining := p.addrRemaining - 1 }
    if 0 < p.addrRemaining then (p, .needMore)
    else ({ p with state := .portHi }, .needMore)
  | .addrIpv6 =>
    let idx := 16 - p.addrRemaining.toNat
    let p : RequestParser := { p with
      destAddr := p.destAddr.map (·.setByte idx byte)
      addrRemaining := p.addrRemaining - 1 }
    if 0 < p.addrRemaining then (p, .needMore)
    else ({ p with state := .portHi }, .needMore)
  | .fqdnLen =>
    if byte = 0 then (p, .reject)
    else ({ p with fqdnLen := byte, fqdnRemaining := byte, state := .fqdn }, .needMore)
  | .fqdn =>
    let idx := p.fqdnLen.toNat - p.fqdnRemaining.toNat
    let p := { p with fqdn := p.fqdn.set idx byte, fqdnRemaining := p.fqdnRemaining - 1 }
    if 0 < p.fqdnRemaining then (p, .needMore)
    else ({ p with fqdn := p.fqdn.set p.fqdnLen.toNat 0, state := .portHi }, .needMore)
  | .portHi => ({ p with portHi := byte, state := .portLo }, .needMore)
  | .portLo =>
    let p := { p with destPort := (p.portHi.toUInt16 <<< 8) ||| byte.toUInt16 }
    if p.atyp = socksAtypFqdn then (p, .parsedFqdn)
    else ({ p with destAddr := p.destAddr.map (·.setPort p.destPort) }, .parsedAddr)

end SocksProxy
