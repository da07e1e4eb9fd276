import SpaGateway.Package

/-!
# Frames

A package travels between tags. A hello is its payload between `<HELLO>` and `</HELLO>`; an
authorized package is, between `<PACKT>` and `</PACKT>`, an optional source (`SRCCN`), an
optional destination (`DESCN`) and the content (`DATAS`), each between its own pair of tags.
Tags are ASCII and nothing is escaped: a field ends at the first occurrence of its closing
tag. This module writes frames; `Frame.Decoder` reads them.
-/

namespace SpaGateway

namespace Frame

/-! ## Tags -/

/-- The opening tag of a name. -/
def openTag (name : List Char) : Octets := Octets.ofChars ('<' :: name ++ ['>'])

/-- The closing tag of a name. -/
def closeTag (name : List Char) : Octets := Octets.ofChars ('<' :: '/' :: name ++ ['>'])

def helloName : List Char := ['H', 'E', 'L', 'L', 'O']
def packetName : List Char := ['P', 'A', 'C', 'K', 'T']

/-- The fields of an authorized package, in the order they travel. -/
inductive Field where
  | source
  | destination
  | content
  deriving DecidableEq

/-- The tag name of a field. -/
def Field.name : Field → List Char
  | source => ['S', 'R', 'C', 'C', 'N']
  | destination => ['D', 'E', 'S', 'C', 'N']
  | content => ['D', 'A', 'T', 'A', 'S']

/-! ## Writing -/

/-- Octets between the tags of a name. -/
def enclose (name : List Char) (body : Octets) : Octets :=
  openTag name ++ body ++ closeTag name

/-- A field that may be absent. -/
def encodeField (field : Field) : Option Octets → Octets
  | none => []
  | some value => enclose field.name value

/-- The frame of a package. -/
def encode : Package → Octets
  | .hello payload => enclose helloName payload
  | .authorized source destination content =>
    enclose packetName
      (encodeField .source source ++ encodeField .destination destination ++
        encodeField .content (some content.toOctets))

/-- Octets that a pair of tags with a five-letter name adds. -/
def tagPairLength : Nat := 15

/-- Length of a field that may be absent, tags included. -/
def fieldLength : Option Octets → Nat
  | none => 0
  | some value => tagPairLength + value.length

/-- Length of a package's frame, found without writing it. -/
def encodedLength : Package → Nat
  | .hello payload => tagPairLength + payload.length
  | .authorized source destination content =>
    tagPairLength + fieldLength source + fieldLength destination +
      fieldLength (some content.toOctets)

theorem length_enclose (name : List Char) (body : Octets) (h : name.length = 5) :
    (enclose name body).length = tagPairLength + body.length := by
  simp [enclose, openTag, closeTag, Octets.ofChars, h, tagPairLength]
  omega

theorem length_encodeField (field : Field) (value : Option Octets) :
    (encodeField field value).length = fieldLength value := by
  cases value with
  | none => rfl
  | some value => exact length_enclose field.name value (by cases field <;> rfl)

/-- The announced length is the length written. -/
theorem length_encode (package : Package) :
    (encode package).length = encodedLength package := by
  cases package with
  | hello payload => exact length_enclose helloName payload rfl
  | authorized source destination content =>
    rw [encode, length_enclose packetName _ rfl]
    simp [length_encodeField, encodedLength]
    omega

end Frame

end SpaGateway
