import SpaGateway.Text.Decimal
import SpaGateway.Text.Double

/-!
# The range of JSON numbers

JSON sets no bounds to numbers, but a reader that makes doubles of them has one. Here the
digits of a number are kept in a word of 64 bits and its scale apart, so the number that
counts is a word times a power of ten, and what does not fit into the word is lost. Word and
power are rounded to doubles one by one before they are multiplied. So close to the end of
the doubles a number may be refused that is nearest to the greatest one, and one be taken
that is beyond it.
-/

namespace SpaGateway

namespace Json

/-- A word times a power of ten. -/
structure ScaledWord where
  word : Nat
  exponent : Int
  deriving DecidableEq, Inhabited

namespace ScaledWord

/-- Appends digits to a word while the result is a word. What is left begins with the first
digit that does not fit. -/
def appendDigits (word : Nat) : List Char → Nat × List Char
  | [] => (word, [])
  | c :: r =>
    let longer := word * 10 + (Numeral.digitValue? c).getD 0
    if longer < UInt64.size then appendDigits longer r else (word, c :: r)

/-- The word and the scale of a number. Digits in front of the point that do not fit scale
the word up, digits after it scale it down as far as they fit. -/
def ofDecimal (n : Decimal) : ScaledWord :=
  let fraction := n.fraction.getD []
  let (word, dropped) := appendDigits 0 n.whole
  let (word, ignored) := appendDigits word fraction
  let places := fraction.length - ignored.length
  { word, exponent := dropped.length - places + n.exponent.getD 0 }

/-- The greatest power of ten that is within the range of doubles. -/
def greatestPower : Int := 308

/-- Whether the product of word and power, each rounded, is within the range of doubles. A
word that is scaled down always is. -/
def isFinite (s : ScaledWord) : Bool :=
  if s.word = 0 ∨ s.exponent < 0 then true
  else if greatestPower < s.exponent then false
  else Double.round s.word * Double.round (Nat.pow 10 s.exponent.natAbs) < Double.overflowBound

end ScaledWord

end Json

end SpaGateway
