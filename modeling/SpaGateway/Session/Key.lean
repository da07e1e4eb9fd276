import SpaGateway.Octets

/-!
# Session keys

A session names itself by a key. Keys look like those of companion apps: the letters `IOS`
and a random (version 4) UUID in its usual spelling.
-/

namespace SpaGateway

namespace SessionKey

/-- The letters every generated key begins with. -/
def family : Octets := Octets.ofChars ['I', 'O', 'S']

/-- Marks sixteen random octets as a version 4 UUID: the version goes into the high half of
the seventh octet and the variant into the top bits of the ninth. -/
def markRandom (random : Octets) : Octets :=
  random.mapIdx fun i b =>
    if i = 6 then (b &&& 0x0f) ||| 0x40
    else if i = 8 then (b &&& 0x3f) ||| 0x80
    else b

/-- The usual spelling of sixteen octets: lower-case hexadecimal in five groups. -/
def spell (uuid : Octets) : List Char :=
  (uuid.mapIdx fun i b =>
    (if i = 4 ∨ i = 6 ∨ i = 8 ∨ i = 10 then ['-'] else []) ++ Octets.hexPair b).flatten

/-- The key made of sixteen random octets. -/
def ofRandom (random : Octets) : Octets :=
  family ++ Octets.ofChars (spell (markRandom random))

/-- The sixteen octets of a number, the high one first. -/
def octetsOfNat (n : Nat) : Octets :=
  (List.range 16).map fun i => (n >>> (8 * (15 - i))).toUInt8

end SessionKey

end SpaGateway
