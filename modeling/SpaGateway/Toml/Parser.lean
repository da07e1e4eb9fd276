import SpaGateway.Text.Escape
import SpaGateway.Toml.Scalar
import SpaGateway.Toml.Table

/-!
# Reading TOML

A document is read line by line: comments, headers, and keys with values. Values nest through
arrays and inline tables; each reader takes its part from the front of the text and returns
the rest. `fuel` bounds the number of nested and consecutive readers and is chosen from the
length of the text, which no text can exhaust: every reader that needs another one has taken
a character first. Keys and nesting have a bound of their own, beyond which a document is
refused.
-/

namespace SpaGateway

namespace Toml

/-! ## Blanks and comments -/

/-- Blanks inside a line. -/
def skipBlanks (s : List Char) : List Char := s.dropWhile fun c => c == ' ' || c == '\t'

/-- Characters that may stand in a comment or between single quotes; line ends do not. -/
def isInline (c : Char) : Bool := c == '\t' || (0x20 ≤ c.toNat && c.toNat != 0x7f)

/-- Skips a comment, if one begins here. -/
def skipComment : List Char → List Char
  | '#' :: r => r.dropWhile isInline
  | s => s

/-- Takes a line end. -/
def takeLineEnd? : List Char → Option (List Char)
  | '\n' :: r => some r
  | '\r' :: '\n' :: r => some r
  | _ => none

/-- Skips blanks, comments and line ends. -/
def skipLines (fuel : Nat) (s : List Char) : List Char :=
  match fuel with
  | 0 => s
  | fuel + 1 =>
    let s := skipComment (skipBlanks s)
    match takeLineEnd? s with
    | some r => skipLines fuel r
    | none => s

/-! ## Strings -/

/-- The character of an escape whose letter is followed by digits of its code point. -/
def codePoint? (digits : List Char) : Option Char := do
  let n ← Numeral.digits? 16 digits
  if n < 0xd800 ∨ (0xdfff < n ∧ n < 0x110000) then some (Char.ofNat n) else none

/-- Takes an escape after its backslash. -/
def takeEscape? : List Char → Option (Char × List Char)
  | 'u' :: r =>
    if r.length < 4 then none else (codePoint? (r.take 4)).map (·, r.drop 4)
  | 'U' :: r =>
    if r.length < 8 then none else (codePoint? (r.take 8)).map (·, r.drop 8)
  | c :: r => (Text.escaped? c).map (·, r)
  | [] => none

/-- Takes the rest of a string in double quotes. -/
def takeBasic? (fuel : Nat) (s : List Char) : Option (List Char × List Char) :=
  match fuel with
  | 0 => none
  | fuel + 1 =>
    match s with
    | [] => none
    | '"' :: r => some ([], r)
    | '\\' :: r => do
      let (c, r) ← takeEscape? r
      let (text, r) ← takeBasic? fuel r
      some (c :: text, r)
    | c :: r =>
      if isInline c then (takeBasic? fuel r).map fun (text, r) => (c :: text, r) else none

/-- Takes the rest of a string in single quotes, where nothing is escaped. -/
def takeLiteral? (s : List Char) : Option (List Char × List Char) :=
  let text := s.takeWhile fun c => isInline c && c != '\''
  match s.drop text.length with
  | '\'' :: r => some (text, r)
  | _ => none

/-- The quotes of a multi-line string's end: up to two quotes in front of the last three
belong to the text. -/
def closing? (quote : Char) (s : List Char) : Option (List Char × List Char) :=
  let quotes := s.takeWhile (· == quote)
  if quotes.length < 3 then none
  else
    let kept := min (quotes.length - 3) 2
    some (quotes.take kept, s.drop (kept + 3))

/-- Skips blanks and line ends. -/
def skipBlankLines : List Char → List Char
  | ' ' :: r | '\t' :: r | '\n' :: r | '\r' :: '\n' :: r => skipBlankLines r
  | s => s

/-- Skips a line end that follows a backslash, with the blank lines and blanks after it. -/
def skipFold? (s : List Char) : Option (List Char) :=
  (takeLineEnd? (skipBlanks s)).map skipBlankLines

/-- Takes the rest of a multi-line string. Escapes count between double quotes only. -/
def takeMultiline? (quote : Char) (fuel : Nat) (s : List Char) :
    Option (List Char × List Char) :=
  match fuel with
  | 0 => none
  | fuel + 1 =>
    match closing? quote s with
    | some found => some found
    | none =>
      match s with
      | [] => none
      | c :: r =>
        if c = '\\' ∧ quote = '"' then
          match skipFold? r with
          | some r => takeMultiline? quote fuel r
          | none => do
            let (c, r) ← takeEscape? r
            let (text, r) ← takeMultiline? quote fuel r
            some (c :: text, r)
        else
          match takeLineEnd? s with
          | some r => (takeMultiline? quote fuel r).map fun (text, r) => ('\n' :: text, r)
          | none =>
            if isInline c then
              (takeMultiline? quote fuel r).map fun (text, r) => (c :: text, r)
            else none

/-- Takes a string of any kind. -/
def takeString? (s : List Char) : Option (List Char × List Char) :=
  match s with
  | '"' :: '"' :: '"' :: r =>
    takeMultiline? '"' (r.length + 1) ((takeLineEnd? r).getD r)
  | '\'' :: '\'' :: '\'' :: r =>
    takeMultiline? '\'' (r.length + 1) ((takeLineEnd? r).getD r)
  | '"' :: r => takeBasic? (r.length + 1) r
  | '\'' :: r => takeLiteral? r
  | _ => none

/-! ## Keys -/

/-- Characters of a key without quotes. -/
def isBare (c : Char) : Bool := c.isAlphanum || c == '_' || c == '-'

/-- Takes one part of a key. -/
def takeKeyPart? (s : List Char) : Option (String × List Char) :=
  match s with
  | '"' :: r => (takeBasic? (r.length + 1) r).map fun (text, r) => (String.ofList text, r)
  | '\'' :: r => (takeLiteral? r).map fun (text, r) => (String.ofList text, r)
  | _ =>
    let text := s.takeWhile isBare
    if text = [] then none else some (String.ofList text, s.drop text.length)

/-- Bound on the parts of a key, and on the arrays and inline tables that are open at once. -/
def depthBound : Nat := 80

/-- Takes a key of at most so many parts: parts with dots between them, at least one. -/
def takeParts? (most : Nat) (s : List Char) : Option (List String × List Char) :=
  match most with
  | 0 => none
  | most + 1 => do
    let (part, s) ← takeKeyPart? (skipBlanks s)
    match skipBlanks s with
    | '.' :: r => do
      let (parts, r) ← takeParts? most r
      some (part :: parts, r)
    | r => some ([part], r)

/-- Takes a key; it has fewer parts than the bound. -/
def takeKey? (s : List Char) : Option (List String × List Char) := takeParts? (depthBound - 1) s

/-! ## Values -/

/-- Characters that end a word. -/
def endsWord (c : Char) : Bool :=
  c == ' ' || c == '\t' || c == '\n' || c == '\r' || c == ',' || c == ']' || c == '}' || c == '#'

/-- Takes a word; a date and a time with one blank between them are one word. -/
def takeWord (s : List Char) : List Char × List Char :=
  let (word, r) := breakAt endsWord s
  match r with
  | ' ' :: d :: rest =>
    if takeDate? word == some [] && d.isDigit then
      let (time, r) := breakAt endsWord (d :: rest)
      (word ++ ' ' :: time, r)
    else (word, r)
  | _ => (word, r)

mutual

/-- Takes a value in which at most so many arrays and inline tables are open at once. -/
def takeValue? (fuel depth : Nat) (s : List Char) : Option (Datum × List Char) :=
  match fuel with
  | 0 => none
  | fuel + 1 =>
    match s with
    | '"' :: _ | '\'' :: _ => (takeString? s).map fun (text, r) => (.text (String.ofList text), r)
    | '[' :: r =>
      if depth = 0 then none
      else (takeItems? fuel (depth - 1) r).map fun (items, r) => (.list items, r)
    | '{' :: r =>
      if depth = 0 then none
      else
        match skipBlanks r with
        | '}' :: r => some (.record [], r)
        | r => (takeMembers? fuel (depth - 1) .fresh r).map fun (t, r) => (t.toDatum, r)
    | _ =>
      let (word, r) := takeWord s
      (scalar? word).map (·, r)

/-- Takes the rest of an array; a comma may follow the last item. -/
def takeItems? (fuel depth : Nat) (s : List Char) : Option (List Datum × List Char) :=
  match fuel with
  | 0 => none
  | fuel + 1 =>
    match skipLines s.length s with
    | ']' :: r => some ([], r)
    | s => do
      let (item, s) ← takeValue? fuel depth s
      match skipLines s.length s with
      | ']' :: r => some ([item], r)
      | ',' :: r => do
        let (items, r) ← takeItems? fuel depth r
        some (item :: items, r)
      | _ => none

/-- Takes the rest of an inline table, which stands on one line. -/
def takeMembers? (fuel depth : Nat) (t : Table) (s : List Char) : Option (Table × List Char) :=
  match fuel with
  | 0 => none
  | fuel + 1 => do
    let (key, s) ← takeKey? s
    let (datum, s) ← takeValue? fuel depth (skipBlanks (← expect? '=' s))
    let t ← t.assign key.dropLast (← key.getLast?) datum
    match skipBlanks s with
    | '}' :: r => some (t, r)
    | ',' :: r => takeMembers? fuel depth t r
    | _ => none

end

/-! ## Lines -/

/-- What must follow on a line after its header or value. -/
def takeLineRest? (s : List Char) : Option (List Char) :=
  match skipComment (skipBlanks s) with
  | [] => some []
  | r => takeLineEnd? r

/-- Takes one line. -/
def takeLine? (d : Document) (s : List Char) : Option (Document × List Char) :=
  match skipBlanks s with
  | [] => some (d, [])
  | '#' :: r => (takeLineRest? ('#' :: r)).map (d, ·)
  | '[' :: '[' :: r => do
    let (key, r) ← takeKey? r
    let r ← expect? ']' (← expect? ']' r)
    some (← d.openArrayTable key, ← takeLineRest? r)
  | '[' :: r => do
    let (key, r) ← takeKey? r
    let r ← expect? ']' r
    some (← d.openTable key, ← takeLineRest? r)
  | s =>
    match takeLineEnd? s with
    | some r => some (d, r)
    | none => do
      let (key, r) ← takeKey? s
      let r := skipBlanks (← expect? '=' r)
      let (datum, r) ← takeValue? (2 * s.length) (depthBound - 1) r
      some (← d.assign key.dropLast (← key.getLast?) datum, ← takeLineRest? r)

/-- Takes lines to the end of the text. -/
def takeLines? (fuel : Nat) (d : Document) (s : List Char) : Option Document :=
  match fuel with
  | 0 => none
  | fuel + 1 =>
    match s with
    | [] => some d
    | _ => do
      let (d, r) ← takeLine? d s
      takeLines? fuel d r

/-- Reads a TOML document. -/
def parse? (text : String) : Option Datum := do
  let s := match text.toList with
    | c :: r => if c.toNat = 0xfeff then r else c :: r
    | [] => []
  let d ← takeLines? (s.length + 1) {} s
  (← d.finish).toDatum

/-- TOML as a notation: surplus items are passed over, and a bare choice may be given
nothing but an empty list or table. -/
def format : Notation where
  surplusAllowed := true
  isBare
    | .list [] => true
    | .record [] => true
    | _ => false

end Toml

end SpaGateway
