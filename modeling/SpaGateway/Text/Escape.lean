/-!
# Backslash escapes

The escapes that the text formats share: a backslash and one more character that stand for a
quote, a backslash or a control character.
-/

namespace SpaGateway

namespace Text

/-- The character that a backslash and a character stand for. -/
def escaped? : Char → Option Char
  | '"' => some '"'
  | '\\' => some '\\'
  | 'b' => some '\x08'
  | 'f' => some '\x0c'
  | 'n' => some '\n'
  | 'r' => some '\r'
  | 't' => some '\t'
  | _ => none

end Text

end SpaGateway
