/-!
# Numerals

Numbers as texts spell them: digits of a radix up to sixteen, letters in either case. Some
formats admit a sign, some refuse superfluous zeros, and all of them have a bound; the
readers here take these as arguments.
-/

namespace SpaGateway

namespace Numeral

/-- The value of a character as a digit, letters counting from ten. -/
def digitValue? (c : Char) : Option Nat :=
  if '0' ≤ c ∧ c ≤ '9' then some (c.toNat - 48)
  else if 'a' ≤ c ∧ c ≤ 'f' then some (c.toNat - 87)
  else if 'A' ≤ c ∧ c ≤ 'F' then some (c.toNat - 55)
  else none

/-- Whether a character is a digit of a radix. -/
def isDigit (radix : Nat) (c : Char) : Bool := (digitValue? c).any (· < radix)

/-- The number that digits spell; characters that are no digits count as zero. -/
def value (radix : Nat) (digits : List Char) : Nat :=
  digits.foldl (fun n c => n * radix + (digitValue? c).getD 0) 0

/-- The number that a whole text of digits spells. -/
def digits? (radix : Nat) (s : List Char) : Option Nat :=
  if s ≠ [] ∧ s.all (isDigit radix) then some (value radix s) else none

/-- The number that a whole decimal text spells, a plus sign being allowed in front. Numbers
from the bound on are refused. -/
def unsigned? (bound : Nat) (s : List Char) : Option Nat :=
  let digits := match s with
    | '+' :: r => r
    | _ => s
  (digits? 10 digits).filter (· < bound)

/-- The number that a whole decimal text spells, a sign being allowed in front. -/
def signed? (s : List Char) : Option Int :=
  match s with
  | '-' :: r => (digits? 10 r).map fun n => -(n : Int)
  | '+' :: r => (digits? 10 r).map fun n => (n : Int)
  | _ => (digits? 10 s).map fun n => (n : Int)

/-- Takes the digits at the front of a text. There must be one, at most a given number if
one is given, and no superfluous zero in front unless that is allowed. -/
def takeNumber? (radix : Nat) (most : Option Nat) (zerosAllowed : Bool) (s : List Char) :
    Option (Nat × List Char) :=
  let digits := s.takeWhile (isDigit radix)
  if digits = [] ∨ most.any (· < digits.length) then none
  else if !zerosAllowed && digits.head? == some '0' && digits.length != 1 then none
  else some (value radix digits, s.drop digits.length)

/-- The shortest decimal digits of a number. -/
def decimal (n : Nat) : List Char := Nat.toDigits 10 n

/-- The shortest hexadecimal digits of a number, letters in lower case. -/
def hexadecimal (n : Nat) : List Char := Nat.toDigits 16 n

end Numeral

end SpaGateway
