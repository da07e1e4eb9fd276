import SpaGateway.Config.Datum
import SpaGateway.Text.Decimal

/-!
# TOML scalars

Numbers, truth values, dates and times: the values of TOML that are one word of text. A word
is read as a whole. No setting takes a fraction, so of fractions only the grammar matters; a
date counts as a record of one member.
-/

namespace SpaGateway

namespace Toml

/-! ## Digits -/

/-- The digits of a numeral in which single underscores may stand between digits. -/
def ungroup? (isDigit : Char → Bool) : List Char → Option (List Char)
  | [] => none
  | [c] => if isDigit c then some [c] else none
  | c :: '_' :: r => if isDigit c then (ungroup? isDigit r).map (c :: ·) else none
  | c :: r => if isDigit c then (ungroup? isDigit r).map (c :: ·) else none

/-- Splits a word before the first character with a property. -/
def breakAt (p : Char → Bool) (s : List Char) : List Char × List Char :=
  (s.takeWhile (!p ·), s.dropWhile (!p ·))

/-! ## Integers -/

/-- The magnitude from which on a positive integer does not fit 64 bits with a sign. -/
def signedBound : Nat := 1 <<< 63

/-- An integer if it has at most 64 bits; one below zero fits no setting. -/
def integer? (negative : Bool) (n : Nat) : Option Datum :=
  if negative then
    if n ≤ signedBound then some (if n = 0 then .natural 0 else .other) else none
  else if n < signedBound then some (.natural n) else none

/-- The digits in front of the point: a zero stands alone. -/
def whole? (s : List Char) : Option (List Char) :=
  match s with
  | '0' :: _ :: _ => none
  | _ => ungroup? Char.isDigit s

/-- An integer in a radix other than ten. -/
def radixInteger? (radix : Nat) (s : List Char) : Option Datum := do
  integer? false (Numeral.value radix (← ungroup? (Numeral.isDigit radix) s))

/-! ## Fractions -/

/-- Whether a sign is negative, and the text after it. -/
def dropSign : List Char → Bool × List Char
  | '-' :: r => (true, r)
  | '+' :: r => (false, r)
  | s => (false, s)

/-- A number with a fraction or an exponent; it must not exceed the doubles. -/
def fraction? (negative : Bool) (s : List Char) : Option Datum := do
  let isExponentMark (c : Char) : Bool := c == 'e' || c == 'E'
  let (mantissa, exponentPart) := breakAt isExponentMark s
  let (wholePart, fractionPart) := breakAt (· == '.') mantissa
  let whole ← whole? wholePart
  let fraction ← match fractionPart with
    | [] => some none
    | _ :: digits => (ungroup? Char.isDigit digits).map some
  let exponent ← match exponentPart with
    | [] => some none
    | _ :: e => do
      let (below, digits) := dropSign e
      let size : Int := Numeral.value 10 (← ungroup? Char.isDigit digits)
      some (some (if below then -size else size))
  if fraction.isNone && exponent.isNone then none
  else if Decimal.isFinite { negative, whole, fraction, exponent } || negative then some .other
  else none

/-- A number with an optional sign. -/
def decimal? (s : List Char) : Option Datum :=
  let (negative, r) := dropSign s
  if r = ['i', 'n', 'f'] ∨ r = ['n', 'a', 'n'] then some .other
  else
    match whole? r with
    | some digits => integer? negative (Numeral.value 10 digits)
    | none => fraction? negative r

/-! ## Dates and times -/

/-- A number of exactly so many digits at the front of a text. -/
def fixed? (count : Nat) (s : List Char) : Option (Nat × List Char) :=
  let digits := s.take count
  if digits.length = count ∧ digits.all Char.isDigit then
    some (Numeral.value 10 digits, s.drop count)
  else none

/-- One given character at the front of a text. -/
def expect? (c : Char) : List Char → Option (List Char)
  | d :: r => if d = c then some r else none
  | [] => none

def isLeapYear (year : Nat) : Bool := year % 4 == 0 && (year % 100 != 0 || year % 400 == 0)

def daysIn (year month : Nat) : Nat :=
  if month = 2 then if isLeapYear year then 29 else 28
  else if month = 4 ∨ month = 6 ∨ month = 9 ∨ month = 11 then 30
  else 31

/-- Takes a calendar date. -/
def takeDate? (s : List Char) : Option (List Char) := do
  let (year, s) ← fixed? 4 s
  let (month, s) ← fixed? 2 (← expect? '-' s)
  let (day, s) ← fixed? 2 (← expect? '-' s)
  if 1 ≤ month ∧ month ≤ 12 ∧ 1 ≤ day ∧ day ≤ daysIn year month then some s else none

/-- Takes a time of day. -/
def takeTime? (s : List Char) : Option (List Char) := do
  let (hour, s) ← fixed? 2 s
  let (minute, s) ← fixed? 2 (← expect? ':' s)
  let (second, s) ← fixed? 2 (← expect? ':' s)
  if 23 < hour ∨ 59 < minute ∨ 60 < second then none
  else
    match s with
    | '.' :: r =>
      let digits := r.takeWhile Char.isDigit
      if digits = [] then none else some (r.drop digits.length)
    | _ => some s

/-- An offset from universal time, or nothing, as the whole text. -/
def isOffset (s : List Char) : Bool :=
  match s with
  | [] | ['Z'] | ['z'] => true
  | sign :: r =>
    (sign == '+' || sign == '-') &&
      (do
        let (hour, r) ← fixed? 2 r
        let (minute, r) ← fixed? 2 (← expect? ':' r)
        if hour ≤ 23 ∧ minute ≤ 59 ∧ r = [] then some () else none).isSome

/-- Whether a word is a date, a time, or both. -/
def isDateTime (s : List Char) : Bool :=
  match takeDate? s with
  | some [] => true
  | some (c :: r) =>
    (c == 'T' || c == 't' || c == ' ') && ((takeTime? r).any isOffset)
  | none => takeTime? s == some []

/-! ## Words -/

/-- What a date or a time says: a record whose one member no setting is named after. -/
def dateTime : Datum := .record [(some "$date", .other)]

/-- The value of a word. -/
def scalar? (s : List Char) : Option Datum :=
  match s with
  | ['t', 'r', 'u', 'e'] => some (.flag true)
  | ['f', 'a', 'l', 's', 'e'] => some (.flag false)
  | '0' :: 'x' :: r => radixInteger? 16 r
  | '0' :: 'o' :: r => radixInteger? 8 r
  | '0' :: 'b' :: r => radixInteger? 2 r
  | _ => if isDateTime s then some dateTime else decimal? s

end Toml

end SpaGateway
