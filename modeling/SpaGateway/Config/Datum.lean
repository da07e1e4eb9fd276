/-!
# Data

A datum is what a configuration text says, apart from the notation that says it. Readers of
notations produce data; the modules that know the gateway's records take them apart. A value
that no setting could take, such as a negative number, is `other`.
-/

namespace SpaGateway

/-- What a configuration text says. -/
inductive Datum where
  /-- An explicit absence. -/
  | absent
  | flag (value : Bool)
  | natural (value : Nat)
  | text (value : String)
  | list (items : List Datum)
  /-- Named members in text order; a name that is no Unicode text is missing. -/
  | record (members : List (Option String × Datum))
  /-- Anything else. -/
  | other
  deriving Inhabited

/-- Points in which notations differ. -/
structure Notation where
  /-- Whether a list that stands for a record may have items beyond its last field. -/
  surplusAllowed : Bool
  /-- Data that may accompany the name of a bare choice. -/
  isBare : Datum → Bool

namespace Datum

/-! ## Simple values -/

def flag? : Datum → Option Bool
  | flag b => some b
  | _ => none

def text? : Datum → Option String
  | text s => some s
  | _ => none

def list? : Datum → Option (List Datum)
  | list items => some items
  | _ => none

/-- A natural number below a bound. -/
def below? (bound : Nat) : Datum → Option Nat
  | natural n => if n < bound then some n else none
  | _ => none

def octet? (d : Datum) : Option UInt8 := (d.below? UInt8.size).map Nat.toUInt8
def word? (d : Datum) : Option UInt16 := (d.below? UInt16.size).map Nat.toUInt16
def word32? (d : Datum) : Option UInt32 := (d.below? UInt32.size).map Nat.toUInt32

/-- A natural number of at most 64 bits. -/
def long? : Datum → Option Nat := below? UInt64.size

/-- A value that may be absent. -/
def optional? {α : Type} (read : Datum → Option α) : Datum → Option (Option α)
  | absent => some none
  | d => (read d).map some

/-- A list, item by item. -/
def listOf? {α : Type} (read : Datum → Option α) (d : Datum) : Option (List α) := do
  (← d.list?).mapM read

/-! ## Records -/

/-- The member of a name, if it is the only one of that name; none of that name is no
failure. -/
def single? (name : String) (members : List (Option String × Datum)) : Option (Option Datum) :=
  match members.filter (·.1 = some name) with
  | [] => some none
  | [(_, d)] => some (some d)
  | _ => none

/-- The values given for the fields of a record, in field order. A record gives them by name
and may have other members; a list gives them by position. -/
def fields? (format : Notation) (names : List String) : Datum → Option (List (Option Datum))
  | record members =>
    if members.any (·.1.isNone) then none else names.mapM (single? · members)
  | list items =>
    if names.length < items.length && !format.surplusAllowed then none
    else some ((List.range names.length).map (items[·]?))
  | _ => none

/-- A field that has a default. -/
def orDefault {α : Type} (default : α) (read : Datum → Option α) : Option Datum → Option α
  | none => some default
  | some d => read d

/-- A field that has to be given. -/
def required? {α : Type} (read : Datum → Option α) (d : Option Datum) : Option α := d.bind read

end Datum

end SpaGateway
