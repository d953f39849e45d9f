/-!
# `SchemaMigration.Text.Literal`: names, integer literals and quoted literals

The three spellings that a migration file puts a text into. A name is a letter
or an underscore followed by letters, digits and underscores. An integer literal
has no leading zeros. Any text can be quoted: the literal stands between single
quotes, and a backslash stands before every quote and every backslash.
-/

set_option autoImplicit false

namespace SchemaMigration.Text

/-- Whether a name may start with the character. Only ASCII letters count. -/
def isNameStart (c : Char) : Bool :=
  c.isAlpha || c == '_'

/-- Whether a name may go on with the character. Only ASCII letters and digits count. -/
def isNamePart (c : Char) : Bool :=
  c.isAlphanum || c == '_'

/-- Whether the text is a name. -/
def isName (text : String) : Bool :=
  match text.toList with
  | [] => false
  | c :: rest => isNameStart c && rest.all isNamePart

/-- Digits without a leading zero, or a single zero. -/
def isPlainNatural : List Char → Bool
  | [] => false
  | ['0'] => true
  | c :: rest => c.isDigit && c != '0' && rest.all Char.isDigit

/-- Whether the text is an integer literal: an optional minus sign, then digits without a
leading zero. -/
def isIntegerLiteral (text : String) : Bool :=
  match text.toList with
  | '-' :: digits => isPlainNatural digits
  | digits => isPlainNatural digits

/-- The quote that encloses a literal. -/
def quote : Char := '\''

/-- The character that takes the next one literally. -/
def backslash : Char := '\\'

/-- Puts a backslash before every quote and every backslash. -/
def escape : List Char → List Char
  | [] => []
  | c :: rest =>
    if c = quote ∨ c = backslash then backslash :: c :: escape rest else c :: escape rest

/-- The quoted literal that denotes a text. -/
def quoted (text : String) : String :=
  String.ofList (quote :: (escape text.toList ++ [quote]))

end SchemaMigration.Text
