import SpaGateway.Json
import SpaGateway.Octets

/-!
# Writing JSON

Values are written without blanks. Quotes, backslashes and control characters are escaped,
all other characters stand for themselves.
-/

namespace SpaGateway

namespace Json

/-- The written form of a character inside a string. -/
def escape (c : Char) : List Char :=
  if c = '"' then ['\\', '"']
  else if c = '\\' then ['\\', '\\']
  else if c.toNat < 0x20 then ['\\', 'u', '0', '0'] ++ Octets.hexPair c.toUInt8
  else [c]

/-- A text between quotes. -/
def quote (s : String) : List Char := '"' :: s.toList.flatMap escape ++ ['"']

/-- The written form of a string; one without text is written as a replacement character. -/
def quoteText (s : Option String) : List Char :=
  match s with
  | some s => quote s
  | none => ['"', Char.ofNat 0xfffd, '"']

mutual

/-- The text of a value. -/
def toChars : Json → List Char
  | null => ['n', 'u', 'l', 'l']
  | bool true => ['t', 'r', 'u', 'e']
  | bool false => ['f', 'a', 'l', 's', 'e']
  | number n => n.toChars
  | string s => quoteText s
  | array items => '[' :: itemsToChars items ++ [']']
  | object members => '{' :: membersToChars members ++ ['}']

/-- The items of an array, commas between them. -/
def itemsToChars : List Json → List Char
  | [] => []
  | [item] => toChars item
  | item :: items => toChars item ++ ',' :: itemsToChars items

/-- The members of an object, commas between them. -/
def membersToChars : List (Option String × Json) → List Char
  | [] => []
  | [(name, value)] => quoteText name ++ ':' :: toChars value
  | (name, value) :: members =>
    quoteText name ++ ':' :: toChars value ++ ',' :: membersToChars members

end

/-- The text of a value. -/
def render (value : Json) : String := String.ofList value.toChars

end Json

end SpaGateway
