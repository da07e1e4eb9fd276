import SpaGateway.Json
import SpaGateway.Text.Escape

/-!
# Reading JSON

A text is split into tokens, and the tokens are folded by a pushdown automaton whose stack
holds the arrays and objects that are open. So nesting is limited by nothing but the text,
and every text is read in one pass.
-/

namespace SpaGateway

namespace Json

/-! ## Strings -/

/-- A piece of a string: a character, or a surrogate that an escape spells. -/
inductive Piece where
  | char (c : Char)
  | surrogate (unit : Nat)

/-- The piece that a code unit stands for. -/
def Piece.ofUnit (n : Nat) : Piece :=
  if 0xd800 ≤ n ∧ n ≤ 0xdfff then surrogate n else char (Char.ofNat n)

/-- The text that pieces spell; every high surrogate has to be followed by a low one. -/
def joinPieces : List Piece → Option (List Char)
  | [] => some []
  | .char c :: r => (joinPieces r).map (c :: ·)
  | .surrogate high :: .surrogate low :: r =>
    if high < 0xdc00 ∧ 0xdc00 ≤ low then
      (joinPieces r).map (Char.ofNat (0x10000 + (high - 0xd800) * 0x400 + (low - 0xdc00)) :: ·)
    else none
  | .surrogate _ :: _ => none

/-- The character that a backslash and a character stand for. -/
def escaped? (c : Char) : Option Char := if c = '/' then some '/' else Text.escaped? c

/-- Reads a string up to its closing quote; the rest of the text follows it. Control
characters have to be escaped. -/
def takeString? : List Char → Option (List Piece × List Char)
  | [] => none
  | '"' :: r => some ([], r)
  | '\\' :: 'u' :: a :: b :: c :: d :: r => do
    let unit ← Numeral.digits? 16 [a, b, c, d]
    let (pieces, r) ← takeString? r
    some (.ofUnit unit :: pieces, r)
  | '\\' :: c :: r => do
    let c ← escaped? c
    let (pieces, r) ← takeString? r
    some (.char c :: pieces, r)
  | c :: r =>
    if c.toNat < 0x20 ∨ c = '\\' then none
    else (takeString? r).map fun (pieces, r) => (.char c :: pieces, r)

theorem length_takeString? {s r : List Char} {pieces : List Piece}
    (h : takeString? s = some (pieces, r)) : r.length < s.length := by
  fun_induction takeString? s generalizing pieces with
  | case1 => simp at h
  | case2 => simp_all
  | case3 a b c d r ih =>
    simp only [Option.bind_eq_bind, Option.bind_eq_some_iff, Option.some.injEq,
      Prod.exists, Prod.mk.injEq] at h
    obtain ⟨_, _, _, _, h, _, rfl⟩ := h
    have := ih h
    simp
    omega
  | case4 c r _ ih =>
    simp only [Option.bind_eq_bind, Option.bind_eq_some_iff, Option.some.injEq,
      Prod.exists, Prod.mk.injEq] at h
    obtain ⟨_, _, _, _, h, _, rfl⟩ := h
    have := ih h
    simp
    omega
  | case5 => simp at h
  | case6 c r _ _ _ _ ih =>
    simp only [Option.map_eq_some_iff, Prod.mk.injEq, Prod.exists] at h
    obtain ⟨_, _, h, _, rfl⟩ := h
    have := ih h
    simp
    omega

/-! ## Numbers -/

/-- Takes the digits at the front of a text, at least one. -/
def takeDigits? (s : List Char) : Option (List Char × List Char) :=
  let digits := s.takeWhile Char.isDigit
  if digits = [] then none else some (digits, s.drop digits.length)

/-- Takes the digits in front of the point: a zero stands alone. -/
def takeWhole? : List Char → Option (List Char × List Char)
  | '0' :: r => if (r.head?.any Char.isDigit) then none else some (['0'], r)
  | s => takeDigits? s

/-- Takes a point and the digits after it, if a point stands there. -/
def takeFraction? : List Char → Option (Option (List Char) × List Char)
  | '.' :: r => (takeDigits? r).map fun (digits, r) => (some digits, r)
  | s => some (none, s)

/-- Takes an exponent, if one stands there. -/
def takeExponent? : List Char → Option (Option Int × List Char)
  | c :: r =>
    if c = 'e' ∨ c = 'E' then
      let (negative, r) := match r with
        | '-' :: r => (true, r)
        | '+' :: r => (false, r)
        | _ => (false, r)
      (takeDigits? r).map fun (digits, r) =>
        let size : Int := Numeral.value 10 digits
        (some (if negative then -size else size), r)
    else some (none, c :: r)
  | [] => some (none, [])

/-- Takes the number at the front of a text. -/
def takeNumber? (s : List Char) : Option (Decimal × List Char) := do
  let (negative, r) := match s with
    | '-' :: r => (true, r)
    | _ => (false, s)
  let (whole, r) ← takeWhole? r
  let (fraction, r) ← takeFraction? r
  let (exponent, r) ← takeExponent? r
  some ({ negative, whole, fraction, exponent }, r)

theorem length_takeDigits? {s digits r : List Char} (h : takeDigits? s = some (digits, r)) :
    r.length < s.length := by
  simp only [takeDigits?] at h
  split at h
  · simp at h
  · rename_i hne
    simp only [Option.some.injEq, Prod.mk.injEq] at h
    obtain ⟨rfl, rfl⟩ := h
    have hpos := List.length_pos_iff.2 hne
    have : s ≠ [] := by
      rintro rfl
      simp at hne
    have := List.length_pos_iff.2 this
    simp
    omega

theorem length_takeWhole? {s digits r : List Char} (h : takeWhole? s = some (digits, r)) :
    r.length < s.length := by
  unfold takeWhole? at h
  split at h
  · split at h
    · simp at h
    · simp_all
  · exact length_takeDigits? h

theorem length_takeFraction? {s r : List Char} {fraction : Option (List Char)}
    (h : takeFraction? s = some (fraction, r)) : r.length ≤ s.length := by
  unfold takeFraction? at h
  split at h
  · simp only [Option.map_eq_some_iff, Prod.mk.injEq, Prod.exists] at h
    obtain ⟨_, _, h, _, rfl⟩ := h
    have := length_takeDigits? h
    simp
    omega
  · simp_all

theorem length_takeExponent? {s r : List Char} {exponent : Option Int}
    (h : takeExponent? s = some (exponent, r)) : r.length ≤ s.length := by
  unfold takeExponent? at h
  split at h
  · split at h
    · simp only [Option.map_eq_some_iff, Prod.mk.injEq, Prod.exists] at h
      obtain ⟨_, _, h, _, rfl⟩ := h
      have := length_takeDigits? h
      split at this <;> simp_all <;> omega
    · simp_all
  · simp_all

theorem length_takeNumber? {s r : List Char} {n : Decimal}
    (h : takeNumber? s = some (n, r)) : r.length < s.length := by
  simp only [takeNumber?, Option.bind_eq_bind, Option.bind_eq_some_iff, Option.some.injEq,
    Prod.exists, Prod.mk.injEq] at h
  obtain ⟨_, _, hw, _, _, hf, _, _, he, _, rfl⟩ := h
  have hw := length_takeWhole? hw
  have hf := length_takeFraction? hf
  have he := length_takeExponent? he
  split at hw <;> simp_all <;> omega

/-! ## Tokens -/

/-- A token of a text. -/
inductive Token where
  | openArray
  | closeArray
  | openObject
  | closeObject
  | comma
  | colon
  /-- A string, which may be a value or a member's name. -/
  | string (text : Option String)
  /-- A value that is neither string, array nor object. -/
  | scalar (value : Json)

/-- Blanks between tokens. -/
def isBlank (c : Char) : Bool := c == ' ' || c == '\n' || c == '\t' || c == '\r'

/-- Takes the token at the front of a text that begins with no blank. -/
def takeToken? (s : List Char) : Option (Token × List Char) :=
  match s with
  | [] => none
  | '[' :: r => some (.openArray, r)
  | ']' :: r => some (.closeArray, r)
  | '{' :: r => some (.openObject, r)
  | '}' :: r => some (.closeObject, r)
  | ',' :: r => some (.comma, r)
  | ':' :: r => some (.colon, r)
  | 'n' :: 'u' :: 'l' :: 'l' :: r => some (.scalar null, r)
  | 't' :: 'r' :: 'u' :: 'e' :: r => some (.scalar (bool true), r)
  | 'f' :: 'a' :: 'l' :: 's' :: 'e' :: r => some (.scalar (bool false), r)
  | '"' :: r =>
    (takeString? r).map fun (pieces, r) => (.string ((joinPieces pieces).map String.ofList), r)
  | s => (takeNumber? s).map fun (n, r) => (.scalar (number n), r)

theorem length_takeToken? {s r : List Char} {token : Token}
    (h : takeToken? s = some (token, r)) : r.length < s.length := by
  unfold takeToken? at h
  split at h
  case h_11 =>
    simp only [Option.map_eq_some_iff, Prod.mk.injEq, Prod.exists] at h
    obtain ⟨_, _, h, _, rfl⟩ := h
    have := length_takeString? h
    simp
    omega
  case h_12 =>
    simp only [Option.map_eq_some_iff, Prod.mk.injEq, Prod.exists] at h
    obtain ⟨_, _, h, _, rfl⟩ := h
    exact length_takeNumber? h
  all_goals simp_all
  all_goals omega

/-- The tokens of a text. -/
def tokens? (s : List Char) : Option (List Token) :=
  match s with
  | [] => some []
  | c :: s =>
    if isBlank c then tokens? s
    else
      match _h : takeToken? (c :: s) with
      | none => none
      | some (token, r) => (tokens? r).map (token :: ·)
termination_by s.length
decreasing_by
  · simp
  · exact length_takeToken? _h

/-! ## The automaton -/

/-- An array or object that is open; what it holds so far stands last item first. -/
inductive Open where
  | array (items : List Json)
  | object (members : List (Option String × Json))
  /-- An object in which a member's name was read and its value is to come. -/
  | member (members : List (Option String × Json)) (name : Option String)

/-- What may come next. -/
inductive State where
  /-- A value. -/
  | value (stack : List Open)
  /-- A value or the end of the array just opened. -/
  | firstItem (stack : List Open)
  /-- A member's name or the end of the object just opened. -/
  | firstName (stack : List Open)
  /-- A member's name. -/
  | name (stack : List Open)
  /-- The colon after a member's name. -/
  | colon (stack : List Open)
  /-- A comma or the end of the innermost array or object. -/
  | comma (stack : List Open)
  /-- Nothing: the value is complete. -/
  | done (value : Json)

/-- Hands a complete value to the innermost array or object. -/
def State.supply (item : Json) : List Open → Option State
  | [] => some (.done item)
  | .array items :: stack => some (.comma (.array (item :: items) :: stack))
  | .member members label :: stack => some (.comma (.object ((label, item) :: members) :: stack))
  | .object _ :: _ => none

/-- Begins a value. -/
def State.begin (stack : List Open) : Token → Option State
  | .openArray => some (.firstItem (.array [] :: stack))
  | .openObject => some (.firstName (.object [] :: stack))
  | .string text => supply (string text) stack
  | .scalar item => supply item stack
  | _ => none

/-- Closes the innermost array or object. -/
def State.close : List Open → Token → Option State
  | .array items :: stack, .closeArray => supply (array items.reverse) stack
  | .object members :: stack, .closeObject => supply (object members.reverse) stack
  | _, _ => none

/-- Takes one token. -/
def State.step : State → Token → Option State
  | .value stack, token => begin stack token
  | .firstItem stack, .closeArray => close stack .closeArray
  | .firstItem stack, token => begin stack token
  | .firstName stack, .closeObject => close stack .closeObject
  | .firstName (.object members :: stack), .string label =>
    some (.colon (.member members label :: stack))
  | .name (.object members :: stack), .string label =>
    some (.colon (.member members label :: stack))
  | .colon stack, .colon => some (.value stack)
  | .comma (.array items :: stack), .comma => some (.value (.array items :: stack))
  | .comma (.object members :: stack), .comma => some (.name (.object members :: stack))
  | .comma stack, token => close stack token
  | _, _ => none

/-- Reads a text that is one JSON value. -/
def parseChars? (s : List Char) : Option Json := do
  match ← (← tokens? s).foldlM State.step (.value []) with
  | .done value => some value
  | _ => none

/-- Reads a text that is one JSON value. -/
def parse? (s : String) : Option Json := parseChars? s.toList

end Json

end SpaGateway
