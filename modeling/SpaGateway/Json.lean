import SpaGateway.Json.Number

/-!
# JSON values

A JSON value as its text gives it: members keep their order and their repetitions, and a
number keeps its digits. A string may spell an unpaired surrogate, which is no Unicode text;
such a string is kept as one without text, so that a reader who does not need it may pass
over it.
-/

namespace SpaGateway

/-- A JSON value. -/
inductive Json where
  | null
  | bool (value : Bool)
  | number (value : Decimal)
  /-- A string; without text if it spells an unpaired surrogate. -/
  | string (text : Option String)
  | array (items : List Json)
  /-- The members in the order of the text. -/
  | object (members : List (Option String × Json))
  deriving Inhabited

namespace Json

/-- A string with text. -/
def text (s : String) : Json := string (some s)

/-- A natural number. -/
def nat (n : Nat) : Json := number (.ofNat n)

/-- A value that may be absent; an absent one is null. -/
def ofOption {α : Type} (f : α → Json) : Option α → Json
  | none => null
  | some a => f a

/-- An object with the given members. -/
def record (members : List (String × Json)) : Json :=
  object (members.map fun (name, value) => (some name, value))

/-- The first member of a name. -/
def member? (name : String) : Json → Option Json
  | object members => (members.find? (·.1 = some name)).map (·.2)
  | _ => none

/-! ## Plain values -/

mutual

/-- Whether every string of a value has text, every number is within the range of doubles,
and arrays and objects nest at most so deep. -/
def isPlain (depth : Nat) : Json → Bool
  | null | bool _ => true
  | number n => (ScaledWord.ofDecimal n).isFinite
  | string s => s.isSome
  | array items => decide (0 < depth) && arePlain (depth - 1) items
  | object members => decide (0 < depth) && membersPlain (depth - 1) members

/-- `isPlain` for every item of an array. -/
def arePlain (depth : Nat) : List Json → Bool
  | [] => true
  | item :: items => isPlain depth item && arePlain depth items

/-- `isPlain` for every member of an object. -/
def membersPlain (depth : Nat) : List (Option String × Json) → Bool
  | [] => true
  | (name, value) :: members =>
    name.isSome && isPlain depth value && membersPlain depth members

end

end Json

end SpaGateway
