/-!
# Doubles

Natural numbers as numbers of double precision: the significand of a double has 53 bits, and
doubles end below the power 1024 of two. Rounding goes to the nearest double and, halfway
between two, to the one whose last bit is zero.
-/

namespace SpaGateway

namespace Double

/-- Number of bits of a significand. -/
def precision : Nat := 53

/-- The numbers from which on no double is near: halfway from the greatest double to the
next power of two. -/
def overflowBound : Nat := 1 <<< 1024 - 1 <<< 970

/-- The distance of the doubles around a number. -/
def unit (n : Nat) : Nat := 1 <<< (n.log2 + 1 - precision)

/-- A number rounded to the nearest double, as if doubles had no end. -/
def round (n : Nat) : Nat :=
  let steps := n / unit n
  let rest := n % unit n
  if unit n < 2 * rest ∨ (2 * rest = unit n ∧ steps % 2 = 1) then (steps + 1) * unit n
  else steps * unit n

end Double

end SpaGateway
