import SpaGateway.Text.Double
import SpaGateway.Text.Numeral

/-!
# Decimal numbers

A decimal number as a text writes it: sign, digits in front of the point, and possibly digits
after it and an exponent. The digits are kept, so that an integer is told from a fraction of
the same value.
-/

namespace SpaGateway

/-- A number as it is written. -/
structure Decimal where
  negative : Bool
  /-- Digits in front of the point. -/
  whole : List Char
  /-- Digits after the point, if there is one. -/
  fraction : Option (List Char)
  /-- The exponent, if there is one. -/
  exponent : Option Int
  deriving DecidableEq, Inhabited

namespace Decimal

/-- The numeral of a natural number. -/
def ofNat (n : Nat) : Decimal :=
  { negative := false, whole := Numeral.decimal n, fraction := none, exponent := none }

/-- The natural number that an integer literal without sign spells. -/
def natural? (n : Decimal) : Option Nat :=
  if n.negative ∨ n.fraction.isSome ∨ n.exponent.isSome then none
  else some (Numeral.value 10 n.whole)

/-- Digits in front of the point that no double exceeds. -/
def greatestSize : Int := 400

/-- Whether a number is within the range of doubles. The place of its first digit is looked
at first, so that no power is taken of an exponent out of all proportion. -/
def isFinite (n : Decimal) : Bool :=
  let fraction := n.fraction.getD []
  let digits := n.whole ++ fraction
  let mantissa := Numeral.value 10 digits
  let shift := n.exponent.getD 0 - fraction.length
  if mantissa = 0 ∨ shift + digits.length ≤ 0 then true
  else if greatestSize < shift then false
  else if shift < 0 then mantissa < Double.overflowBound * Nat.pow 10 shift.natAbs
  else mantissa * Nat.pow 10 shift.natAbs < Double.overflowBound

/-- A number in text form. -/
def toChars (n : Decimal) : List Char :=
  (if n.negative then ['-'] else []) ++ n.whole ++
    (match n.fraction with
      | some digits => '.' :: digits
      | none => []) ++
    (match n.exponent with
      | some e => 'e' :: (if e < 0 then ['-'] else []) ++ Numeral.decimal e.natAbs
      | none => [])

end Decimal

end SpaGateway
