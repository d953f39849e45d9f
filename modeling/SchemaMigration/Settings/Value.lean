import SchemaMigration.Json.Quoted
import SchemaMigration.Text.Literal

/-!
# `SchemaMigration.Settings.Value`: values in a settings file

A setting is a text, an integer or a truth value. A text stands between double
quotes, with escapes, or between single quotes, without. Three quotes of either
kind enclose a text of several lines. An integer is decimal with an optional sign,
or hexadecimal, octal or binary, and underscores may stand between its digits.

Other kinds of values are not read: no setting has one.
-/

set_option autoImplicit false

namespace SchemaMigration.Settings

/-- The value of a setting. -/
inductive Value where
  | text (s : String)
  | integer (n : Int)
  | boolean (b : Bool)
  deriving DecidableEq, Repr

/-- Whether a character may stand in a text or a comment as it is. -/
def isPlain (c : Char) : Bool :=
  c == '\t' || (0x20 ≤ c.toNat && c.toNat != 0x7F)

/-- Whether a character may stand between the words of a line. -/
def isGap (c : Char) : Bool :=
  c == ' ' || c == '\t'

/-- What follows the end of a line at the front of a text. -/
def afterLineEnd? : List Char → Option (List Char)
  | '\n' :: rest => some rest
  | '\r' :: '\n' :: rest => some rest
  | _ => none

/-! ### Texts -/

/-- The character of a short escape. -/
def shortEscape? : Char → Option Char
  | 'b' => some '\x08'
  | 't' => some '\t'
  | 'n' => some '\n'
  | 'f' => some '\x0c'
  | 'r' => some '\r'
  | '"' => some '"'
  | '\\' => some '\\'
  | _ => none

/-- The character whose number hexadecimal digits spell. -/
def hexChar? (digits : List Char) : Option Char := do
  let values ← digits.mapM Json.Quoted.hexValue?
  let n := values.foldl (fun n v => 16 * n + v) 0
  if h : n.isValidChar then some (Char.ofNatAux n h) else none

/-- Reads the escape behind a backslash. -/
def readEscape? : List Char → Option (Char × List Char)
  | 'u' :: a :: b :: c :: d :: rest => (hexChar? [a, b, c, d]).map fun e => (e, rest)
  | 'U' :: a :: b :: c :: d :: e :: f :: g :: h :: rest =>
    (hexChar? [a, b, c, d, e, f, g, h]).map fun x => (x, rest)
  | c :: rest => (shortEscape? c).map fun e => (e, rest)
  | [] => none

/-- Reads a text with escapes to its closing quote. The first `skip` characters belong to an
escape that is read already. -/
def readBasic : Nat → List Char → Option (List Char × List Char)
  | _, [] => none
  | skip + 1, _ :: rest => readBasic skip rest
  | 0, c :: rest =>
    if c = '"' then some ([], rest)
    -- The escape takes as many characters as it leaves fewer.
    else if c = '\\' then do
      let (e, after) ← readEscape? rest
      let (text, rest) ← readBasic (rest.length - after.length) rest
      return (e :: text, rest)
    else if isPlain c then do
      let (text, rest) ← readBasic 0 rest
      return (c :: text, rest)
    else none

/-- Reads a text without escapes to its closing quote. -/
def readLiteral : List Char → Option (List Char × List Char)
  | [] => none
  | c :: rest =>
    if c = '\'' then some ([], rest)
    else if isPlain c then do
      let (text, rest) ← readLiteral rest
      return (c :: text, rest)
    else none

/-- The closing quotes of a text of several lines. Up to two more quotes before them belong
to the text. -/
def closing? (q : Char) (text : List Char) : Option (List Char × List Char) :=
  let count := (text.takeWhile (· == q)).length
  if count < 3 then none
  else
    let inside := min (count - 3) 2
    some (List.replicate inside q, text.drop (inside + 3))

/-- Whether a text goes on with gaps up to the end of its line. -/
def endsLine (text : List Char) : Bool :=
  (afterLineEnd? (text.dropWhile isGap)).isSome

/-- Reads a text of several lines with escapes to its closing quotes. The first `skip`
characters belong to an escape that is read already. Behind a backslash at the end of a line
the reader is `joining`: gaps and line ends do not count. -/
def readLines (joining : Bool) : Nat → List Char → Option (List Char × List Char)
  | _, [] => none
  | skip + 1, _ :: rest => readLines joining skip rest
  | 0, c :: rest =>
    if joining && (isGap c || (afterLineEnd? (c :: rest)).isSome) then readLines true 0 rest
    else
      -- Quotes that do not close the text belong to it, like any other character.
      match closing? '"' (c :: rest) with
      | some done => some done
      | none =>
        if c = '\\' then
          if endsLine rest then readLines true 0 rest
          else do
            let (e, after) ← readEscape? rest
            let (text, rest) ← readLines false (rest.length - after.length) rest
            return (e :: text, rest)
        else if c = '\r' then
          if rest.head? = some '\n' then readLines false 0 rest else none
        else if isPlain c || c = '\n' then do
          let (text, rest) ← readLines false 0 rest
          return (c :: text, rest)
        else none

/-- Reads a text of several lines without escapes to its closing quotes. -/
def readLiteralLines : List Char → Option (List Char × List Char)
  | [] => none
  | c :: rest =>
    match closing? '\'' (c :: rest) with
    | some done => some done
    | none =>
      -- A break of two characters is read as the second one.
      if c = '\r' then
        if rest.head? = some '\n' then readLiteralLines rest else none
      else if isPlain c || c = '\n' then do
        let (text, rest) ← readLiteralLines rest
        return (c :: text, rest)
      else none

/-- The text behind a line end, if one stands at its front. -/
def dropLineEnd (text : List Char) : List Char :=
  (afterLineEnd? text).getD text

/-- Reads a text on one line behind its opening quote. -/
def readQuoted? (text : List Char) : Option (List Char × List Char) :=
  match text with
  | '"' :: rest => readBasic 0 rest
  | '\'' :: rest => readLiteral rest
  | _ => none

/-- Reads a text of any kind. -/
def readText? (text : List Char) : Option (List Char × List Char) :=
  match text with
  | '"' :: '"' :: '"' :: rest => readLines false 0 (dropLineEnd rest)
  | '\'' :: '\'' :: '\'' :: rest => readLiteralLines (dropLineEnd rest)
  | text => readQuoted? text

/-! ### Integers -/

/-- Digits without the underscores between them. -/
def dropUnderscores : List Char → Option (List Char)
  | [] => none
  | [c] => if c = '_' then none else some [c]
  | c :: '_' :: rest => if c = '_' then none else (dropUnderscores rest).map (c :: ·)
  | c :: rest => if c = '_' then none else (dropUnderscores rest).map (c :: ·)

/-- The number that digits of a base spell. -/
def valueOfDigits? (base : Nat) (word : List Char) : Option Nat := do
  let digits ← dropUnderscores word
  let values ← digits.mapM fun c => (Json.Quoted.hexValue? c).filter (· < base)
  return values.foldl (fun n v => base * n + v) 0

/-- The number that a decimal without a leading zero spells. -/
def decimal? (word : List Char) : Option Nat :=
  if word.head? = some '0' ∧ word ≠ ['0'] then none else valueOfDigits? 10 word

/-- The 64-bit integer that a word spells. -/
def integer? (word : List Char) : Option Int := do
  let n : Int ← match word with
    | '0' :: 'x' :: digits => (valueOfDigits? 16 digits).map Int.ofNat
    | '0' :: 'o' :: digits => (valueOfDigits? 8 digits).map Int.ofNat
    | '0' :: 'b' :: digits => (valueOfDigits? 2 digits).map Int.ofNat
    | '+' :: digits => (decimal? digits).map Int.ofNat
    | '-' :: digits => (decimal? digits).map fun n => -(n : Int)
    | digits => (decimal? digits).map Int.ofNat
  if Int64.minValue.toInt ≤ n ∧ n ≤ Int64.maxValue.toInt then some n else none

/-! ### Values -/

/-- Whether a character belongs to a word. -/
def isWordChar (c : Char) : Bool :=
  c.isAlphanum || c == '_' || c == '+' || c == '-' || c == '.' || c == ':'

/-- The value that a word spells. -/
def valueOfWord? (word : List Char) : Option Value :=
  if word = "true".toList then some (.boolean true)
  else if word = "false".toList then some (.boolean false)
  else (integer? word).map .integer

/-- Reads a value. -/
def readValue? (text : List Char) : Option (Value × List Char) :=
  match text with
  | '"' :: _ | '\'' :: _ =>
    (readText? text).map fun (s, rest) => (.text (String.ofList s), rest)
  | text =>
    (valueOfWord? (text.takeWhile isWordChar)).map fun value =>
      (value, text.dropWhile isWordChar)

end SchemaMigration.Settings
