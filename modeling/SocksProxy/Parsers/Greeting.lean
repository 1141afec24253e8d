import SocksProxy.Shared.Net

/-!
# Method negotiation: `greeting.c`

The parser of `VER | NMETHODS | METHODS`, fed one byte at a time.
-/

set_option autoImplicit false

namespace SocksProxy

def socksVersion : UInt8 := 0x05
def socksMethodUserpass : UInt8 := 0x02
def socksMethodNoauth : UInt8 := 0x00

/-- `enum greeting_state`. -/
inductive GreetingState where
  | ver
  | nmethods
  | methods
  deriving DecidableEq

/-- `socks_greeting_status`. -/
inductive GreetingStatus where
  | needMore
  | accept
  | reject
  deriving DecidableEq

/-- `struct socks_greeting_parser`. -/
structure GreetingParser where
  state : GreetingState
  methodsRemaining : UInt8
  hasUserpass : Bool
  hasNoauth : Bool
  chosenMethod : UInt8
  deriving DecidableEq

/-- `socks_greeting_parser_init`. -/
def greetingParserInit : GreetingParser :=
  ⟨.ver, 0, false, false, 0xFF⟩

/-- A method byte taken into account: the flag it sets, and the countdown. -/
def GreetingParser.noteMethod (p : GreetingParser) (byte : UInt8) : GreetingParser :=
  { p with
    hasUserpass := if byte = socksMethodUserpass then true else p.hasUserpass
    hasNoauth :=
      if byte = socksMethodUserpass then p.hasNoauth
      else if byte = socksMethodNoauth then true else p.hasNoauth
    methodsRemaining := p.methodsRemaining - 1 }

/-- `socks_greeting_parser_feed`. -/
def greetingParserFeed (p : GreetingParser) (byte : UInt8) : GreetingParser × GreetingStatus :=
  match p.state with
  | .ver =>
    if byte ≠ socksVersion then (p, .reject)
    else ({ p with state := .nmethods }, .needMore)
  | .nmethods =>
    if byte = 0 then (p, .reject)
    else ({ p with methodsRemaining := byte, state := .methods }, .needMore)
  | .methods =>
    let p := p.noteMethod byte
    if 0 < p.methodsRemaining then (p, .needMore)
    else if p.hasUserpass then ({ p with chosenMethod := socksMethodUserpass }, .accept)
    else if p.hasNoauth then ({ p with chosenMethod := socksMethodNoauth }, .accept)
    else (p, .reject)

/-- The method of an accepted greeting is one of the two the server speaks. -/
theorem chosenMethod_of_accept {p p' : GreetingParser} {byte : UInt8}
    (h : greetingParserFeed p byte = (p', .accept)) :
    p'.chosenMethod = socksMethodUserpass ∨ p'.chosenMethod = socksMethodNoauth := by
  rw [greetingParserFeed] at h
  split at h
  · split at h <;> simp at h
  · split at h <;> simp at h
  · dsimp only at h
    split at h
    · simp at h
    · split at h
      · rw [Prod.mk.injEq] at h
        exact Or.inl (by rw [← h.1])
      · split at h
        · rw [Prod.mk.injEq] at h
          exact Or.inr (by rw [← h.1])
        · simp at h

end SocksProxy
