import SpaGateway.Text.Numeral

/-!
# Network addresses

IP addresses and socket addresses: what they are and how they are written. An IPv6 address is
written with its first longest run of two or more zero groups shortened to `::`, and one that
embeds an IPv4 address (`::ffff:…`) with that address in dotted form. `Address.Parser` reads
addresses.
-/

namespace SpaGateway

/-- An IPv4 address. -/
structure Ipv4 where
  a : UInt8
  b : UInt8
  c : UInt8
  d : UInt8
  deriving DecidableEq, Inhabited

/-- An IPv6 address: eight groups of sixteen bits. -/
structure Ipv6 where
  groups : List UInt16
  length_groups : groups.length = 8
  deriving DecidableEq

/-- An IP address of either kind. -/
inductive IpAddress where
  | v4 (ip : Ipv4)
  | v6 (ip : Ipv6)
  deriving DecidableEq

/-- An IP address and a port; an IPv6 address may belong to a scope, zero being none. -/
inductive SocketAddress where
  | v4 (ip : Ipv4) (port : UInt16)
  | v6 (ip : Ipv6) (scope : UInt32) (port : UInt16)
  deriving DecidableEq

/-- Every address at once, no port. -/
def SocketAddress.unspecified : SocketAddress := .v4 ⟨0, 0, 0, 0⟩ 0

instance : Inhabited SocketAddress := ⟨.unspecified⟩

/-- An IP address with a port, in no scope. -/
def IpAddress.withPort : IpAddress → UInt16 → SocketAddress
  | .v4 ip, port => .v4 ip port
  | .v6 ip, port => .v6 ip 0 port

/-! ## Writing -/

/-- An IPv4 address in dotted form. -/
def Ipv4.toChars (ip : Ipv4) : List Char :=
  Numeral.decimal ip.a.toNat ++ '.' :: Numeral.decimal ip.b.toNat ++
    '.' :: Numeral.decimal ip.c.toNat ++ '.' :: Numeral.decimal ip.d.toNat

namespace Ipv6

/-- The first longest run of zero groups: its index and length. -/
def longestZeros (groups : List UInt16) : Nat × Nat :=
  (List.range groups.length).foldl
    (fun best i =>
      let length := ((groups.drop i).takeWhile (· = 0)).length
      if best.2 < length then (i, length) else best)
    (0, 0)

/-- Groups in hexadecimal, colons between them. -/
def joinGroups (groups : List UInt16) : List Char :=
  List.intercalate [':'] (groups.map fun g => Numeral.hexadecimal g.toNat)

/-- The IPv4 address that an address of the form `::ffff:…` embeds. -/
def embedded? (ip : Ipv6) : Option Ipv4 :=
  match ip.groups with
  | [0, 0, 0, 0, 0, 0xffff, g, h] =>
    some ⟨(g >>> 8).toUInt8, g.toUInt8, (h >>> 8).toUInt8, h.toUInt8⟩
  | _ => none

/-- An IPv6 address in its shortest form. -/
def toChars (ip : Ipv6) : List Char :=
  match ip.embedded? with
  | some v4 => [':', ':', 'f', 'f', 'f', 'f', ':'] ++ v4.toChars
  | none =>
    let (start, length) := longestZeros ip.groups
    if 2 ≤ length then
      joinGroups (ip.groups.take start) ++ [':', ':'] ++
        joinGroups (ip.groups.drop (start + length))
    else joinGroups ip.groups

end Ipv6

namespace SocketAddress

/-- A socket address in text form; an IPv6 address stands in brackets. -/
def toChars : SocketAddress → List Char
  | v4 ip port => ip.toChars ++ ':' :: Numeral.decimal port.toNat
  | v6 ip scope port =>
    '[' :: ip.toChars ++
      (if scope = 0 then [] else '%' :: Numeral.decimal scope.toNat) ++
      [']', ':'] ++ Numeral.decimal port.toNat

/-- A socket address as a string. -/
def describe (address : SocketAddress) : String := String.ofList address.toChars

end SocketAddress

end SpaGateway
