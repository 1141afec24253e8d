import SocksProxy.Shared.Net

/-!
# Selector registrations

What the program stores in the selector's jump table: for each registered descriptor the interest,
the handler and the attached data.  The handlers of the program are five fixed `fd_handler`
tables, so a handler is its name; `Handler.hasBlock` says which of them have a `handle_block`.
-/

set_option autoImplicit false

namespace SocksProxy

/-- `fd_interest`, as the two flags it is a set of. -/
@[ext] structure FdInterest where
  /-- `OP_READ`. -/
  read : Bool
  /-- `OP_WRITE`. -/
  write : Bool
  deriving DecidableEq

def opNoop : FdInterest := ⟨false, false⟩
def opRead : FdInterest := ⟨true, false⟩
def opWrite : FdInterest := ⟨false, true⟩

/-- The `fd_handler` tables of the program. -/
inductive Handler where
  /-- `socks_passive_handler`. -/
  | passive
  /-- `socks_client_handler`. -/
  | client
  /-- `socks_origin_handler`. -/
  | origin
  /-- `monitor_passive_handler` and `monitor_client_handler`. -/
  | monitor
  deriving DecidableEq

/-- Whether `handle_block` is not NULL. -/
def Handler.hasBlock : Handler → Bool
  | .client => true
  | _ => false

/-- A session pointer.  Addresses are not reused: a freed session keeps its name, so that a
dangling pointer can be told from a live one. -/
abbrev Sid := ℕ

/-- `struct item` of a registered descriptor. -/
structure Item where
  handler : Handler
  interest : FdInterest
  /-- The session attached to a client or origin registration. -/
  data : Sid
  deriving DecidableEq

/-- `SELECTOR_ITEMS_MAX_SIZE`. -/
def selectorItemsMaxSize : ℕ := 65536

/-- `struct selector_key`. -/
structure Key where
  fd : Fd
  data : Sid

end SocksProxy
