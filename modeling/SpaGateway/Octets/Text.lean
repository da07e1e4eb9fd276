import SpaGateway.Octets

/-!
# Octets read as text

Identifiers and device names are octet strings that usually hold UTF-8 text. Reading one as
text never fails: each maximal part that begins no well-formed character is replaced by one
replacement character (U+FFFD), which is the practice the Unicode standard recommends.

Reading goes octet by octet and keeps the character that is under way, if any.
-/

namespace SpaGateway

namespace Octets

/-- The character that stands for an ill-formed part. -/
def replacement : Char := Char.ofNat 0xfffd

/-- A character whose lead octet was read. -/
structure Partial where
  /-- The bits read so far. -/
  value : Nat
  /-- Octets still to come, at least one. -/
  missing : Nat
  /-- The least next octet that continues the character. -/
  least : UInt8 := 0x80
  /-- The greatest next octet that continues the character. -/
  greatest : UInt8 := 0xbf

/-- What an octet that begins a character yields. The narrow ranges of some second octets
keep out overlong forms, surrogates and numbers past the last code point. -/
def beginChar (b : UInt8) : List Char × Option Partial :=
  let n := b.toNat
  if b < 0x80 then ([Char.ofNat n], none)
  else if b < 0xc2 then ([replacement], none)
  else if b < 0xe0 then ([], some { value := n - 0xc0, missing := 1 })
  else if b = 0xe0 then ([], some { value := 0, missing := 2, least := 0xa0 })
  else if b = 0xed then ([], some { value := n - 0xe0, missing := 2, greatest := 0x9f })
  else if b < 0xf0 then ([], some { value := n - 0xe0, missing := 2 })
  else if b = 0xf0 then ([], some { value := 0, missing := 3, least := 0x90 })
  else if b < 0xf4 then ([], some { value := n - 0xf0, missing := 3 })
  else if b = 0xf4 then ([], some { value := 4, missing := 3, greatest := 0x8f })
  else ([replacement], none)

/-- What an octet yields while a character may be under way. An octet that does not continue
it ends an ill-formed part and begins anew. -/
def readOctet (underWay : Option Partial) (b : UInt8) : List Char × Option Partial :=
  match underWay with
  | none => beginChar b
  | some p =>
    if p.least ≤ b && b ≤ p.greatest then
      let value := p.value * 64 + b.toNat % 64
      if p.missing ≤ 1 then ([Char.ofNat value], none)
      else ([], some { value, missing := p.missing - 1 })
    else
      let (chars, next) := beginChar b
      (replacement :: chars, next)

/-- The characters of an octet string, ill-formed parts replaced. -/
def lossyChars (underWay : Option Partial) : Octets → List Char
  | [] => if underWay.isSome then [replacement] else []
  | b :: s =>
    let (chars, next) := readOctet underWay b
    chars ++ lossyChars next s

/-- An octet string read as text, ill-formed parts replaced. -/
def toTextLossy (s : Octets) : String := String.ofList (lossyChars none s)

end Octets

end SpaGateway
