import SpaGateway.Address

/-!
# Reading addresses

Addresses are read from the front of a text, each reader returning the rest; the `ofChars?`
functions want the whole text. Decimal octets have at most three digits and no superfluous
zero, hexadecimal groups at most four digits, and ports any number of zeros in front. In an
IPv6 address `::` stands for at least one zero group, and the last two groups may be given as
an IPv4 address.
-/

namespace SpaGateway

namespace Address

/-- Takes one given character. -/
def takeChar? (expected : Char) : List Char → Option (List Char)
  | [] => none
  | c :: s => if c = expected then some s else none

/-! ## IPv4 -/

/-- Takes an octet in decimal. -/
def takeOctet? (s : List Char) : Option (UInt8 × List Char) := do
  let (n, s) ← Numeral.takeNumber? 10 (some 3) false s
  if n < 256 then some (n.toUInt8, s) else none

/-- Takes an IPv4 address. -/
def takeIpv4? (s : List Char) : Option (Ipv4 × List Char) := do
  let (a, s) ← takeOctet? s
  let (b, s) ← takeOctet? (← takeChar? '.' s)
  let (c, s) ← takeOctet? (← takeChar? '.' s)
  let (d, s) ← takeOctet? (← takeChar? '.' s)
  some (⟨a, b, c, d⟩, s)

/-! ## IPv6 -/

/-- Skips the colon in front of every group but the first. -/
def takeSeparator? (isFirst : Bool) (s : List Char) : Option (List Char) :=
  if isFirst then some s else takeChar? ':' s

/-- Takes a group in hexadecimal. -/
def takeGroup? (isFirst : Bool) (s : List Char) : Option (UInt16 × List Char) := do
  let (n, s) ← Numeral.takeNumber? 16 (some 4) true (← takeSeparator? isFirst s)
  some (n.toUInt16, s)

/-- The two groups of an IPv4 address. -/
def groupsOfIpv4 (ip : Ipv4) : List UInt16 :=
  [ip.a.toUInt16 <<< 8 ||| ip.b.toUInt16, ip.c.toUInt16 <<< 8 ||| ip.d.toUInt16]

/-- Takes an IPv4 address in place of two groups. -/
def takeEmbedded? (isFirst : Bool) (s : List Char) : Option (List UInt16 × List Char) := do
  let (ip, s) ← takeIpv4? (← takeSeparator? isFirst s)
  some (groupsOfIpv4 ip, s)

/-- Takes as many groups as there are, up to a limit. An IPv4 address may end them where two
groups are left; the middle result tells whether it did. -/
def takeGroups : (limit : Nat) → (isFirst : Bool) → List Char → List UInt16 × Bool × List Char
  | 0, _, s => ([], false, s)
  | limit + 1, isFirst, s =>
    match if 0 < limit then takeEmbedded? isFirst s else none with
    | some (groups, s) => (groups, true, s)
    | none =>
      match takeGroup? isFirst s with
      | some (group, s) =>
        let (groups, embedded, s) := takeGroups limit false s
        (group :: groups, embedded, s)
      | none => ([], false, s)

/-- Eight groups as an address. -/
def ofGroups? (groups : List UInt16) : Option Ipv6 :=
  if h : groups.length = 8 then some ⟨groups, h⟩ else none

/-- Takes an IPv6 address. -/
def takeIpv6? (s : List Char) : Option (Ipv6 × List Char) := do
  let (head, embedded, s) := takeGroups 8 true s
  if head.length = 8 then (ofGroups? head).map (·, s)
  else if embedded then none
  else
    let s ← takeChar? ':' (← takeChar? ':' s)
    let (tail, _, s) := takeGroups (7 - head.length) true s
    let zeros := List.replicate (8 - head.length - tail.length) 0
    (ofGroups? (head ++ zeros ++ tail)).map (·, s)

/-! ## Sockets -/

/-- Takes a colon and a port. -/
def takePort? (s : List Char) : Option (UInt16 × List Char) := do
  let (n, s) ← Numeral.takeNumber? 10 none true (← takeChar? ':' s)
  if n < 65536 then some (n.toUInt16, s) else none

/-- Takes a scope if one stands there; otherwise the scope is zero. -/
def takeScope (s : List Char) : UInt32 × List Char :=
  let scope? : Option (UInt32 × List Char) := do
    let (n, s) ← Numeral.takeNumber? 10 none true (← takeChar? '%' s)
    if n < 4294967296 then some (n.toUInt32, s) else none
  scope?.getD (0, s)

/-- Takes a socket address with an IPv4 address. -/
def takeSocketV4? (s : List Char) : Option (SocketAddress × List Char) := do
  let (ip, s) ← takeIpv4? s
  let (port, s) ← takePort? s
  some (.v4 ip port, s)

/-- Takes a socket address with an IPv6 address. -/
def takeSocketV6? (s : List Char) : Option (SocketAddress × List Char) := do
  let (ip, s) ← takeIpv6? (← takeChar? '[' s)
  let (scope, s) := takeScope s
  let (port, s) ← takePort? (← takeChar? ']' s)
  some (.v6 ip scope port, s)

/-- What a reader finds if nothing follows it. -/
def whole? {α : Type} : Option (α × List Char) → Option α
  | some (a, []) => some a
  | _ => none

end Address

/-- Reads an IP address that is the whole text. -/
def IpAddress.ofChars? (s : List Char) : Option IpAddress :=
  Address.whole? <|
    match Address.takeIpv4? s with
    | some (ip, r) => some (.v4 ip, r)
    | none => (Address.takeIpv6? s).map fun (ip, r) => (.v6 ip, r)

/-- Reads a socket address that is the whole text. -/
def SocketAddress.ofChars? (s : List Char) : Option SocketAddress :=
  Address.whole? <|
    match Address.takeSocketV4? s with
    | some found => some found
    | none => Address.takeSocketV6? s

/-- Reads a socket address that is the whole string. -/
def SocketAddress.ofString? (s : String) : Option SocketAddress := ofChars? s.toList

end SpaGateway
