import SchemaMigration.Text.Printable

/-!
# `SchemaMigration.Text.Escaped`: texts in messages

A text in a message stands between double quotes. Quotes, backslashes and
characters that have no visible form are escaped.
-/

set_option autoImplicit false

namespace SchemaMigration.Text

/-- The digits of a number in base 16, in lower case. -/
def hexDigits (n : Nat) : List Char :=
  Nat.toDigits 16 n

/-- The form of a character inside double quotes. -/
def escapeChar (c : Char) : List Char :=
  match c with
  | '\x00' => ['\\', '0']
  | '\t' => ['\\', 't']
  | '\r' => ['\\', 'r']
  | '\n' => ['\\', 'n']
  | '"' => ['\\', '"']
  | '\\' => ['\\', '\\']
  | c =>
    if isPrintable c then [c] else ['\\', 'u', '\x7b'] ++ hexDigits c.toNat ++ ['\x7d']

/-- A text between double quotes. -/
def escaped (text : String) : String :=
  String.ofList ('"' :: (text.toList.flatMap escapeChar ++ ['"']))

end SchemaMigration.Text
