import SpaGateway.Address.Parser
import SpaGateway.Text.Blank

/-!
# Targets

The spa is given as a target: a host or an address, with or without a port. Completing a
target adds the default port where none is given. Host names are looked up elsewhere; here a
target resolves only if it spells a socket address.
-/

namespace SpaGateway

namespace Target

/-- The port a spa listens on. -/
def defaultPort : UInt16 := 10022

/-- The text after the last colon, if there is a colon. -/
def afterLastColon? (s : List Char) : Option (List Char) :=
  if ':' ∈ s then some (s.reverse.takeWhile (· ≠ ':')).reverse else none

/-- Whether a text ends in a colon and a port. -/
def hasPort (s : List Char) : Bool :=
  ((afterLastColon? s).bind (Numeral.unsigned? 65536)).isSome

/-- A target with the default port added where none is given. A bare IPv6 address is written
in brackets and in its shortest form. -/
def completeChars (target : List Char) : List Char :=
  let s := Text.trim target
  if (SocketAddress.ofChars? s).isSome then s
  else
    match IpAddress.ofChars? s with
    | some ip => (ip.withPort defaultPort).toChars
    | none => if hasPort s then s else s ++ ':' :: Numeral.decimal defaultPort.toNat

/-- A target with the default port added where none is given. -/
def complete (target : String) : String := String.ofList (completeChars target.toList)

/-! ## Resolution -/

/-- Why a target names no socket address by itself. -/
inductive Unresolved where
  /-- There is no colon in front of a port. -/
  | noPort
  /-- What follows the last colon is no port. -/
  | invalidPort
  /-- The host has to be looked up. -/
  | needsLookup
  deriving DecidableEq, Inhabited

/-- The text of an unresolved target. -/
def Unresolved.message : Unresolved → String
  | noPort => "invalid socket address"
  | invalidPort => "invalid port value"
  | needsLookup => "name lookup required"

/-- The socket address that a target spells. -/
def resolve (target : String) : Except Unresolved SocketAddress :=
  match SocketAddress.ofString? target with
  | some address => .ok address
  | none =>
    match afterLastColon? target.toList with
    | none => .error .noPort
    | some port =>
      if (Numeral.unsigned? 65536 port).isSome then .error .needsLookup
      else .error .invalidPort

end Target

end SpaGateway
