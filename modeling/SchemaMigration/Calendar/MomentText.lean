import SchemaMigration.Calendar.Moment
import SchemaMigration.Text.Blank
import SchemaMigration.Text.Digits

/-!
# `SchemaMigration.Calendar.MomentText`: moments as text

`Moment.ofText?` reads `YYYY-MM-DDTHH:MM:SS` with an optional fraction. Blanks may
stand before every field and every separator. A field has one or two digits, a
year up to four, or any number behind a sign. Second 60 is a leap second.

`Moment.text` writes a moment for messages, with three, six or nine digits of its
fraction when it has one.
-/

set_option autoImplicit false

namespace SchemaMigration.Calendar

open SchemaMigration.Text (digitsValue padded)

/-- The text of a year: four digits, or a sign and at least four digits. -/
def yearText (year : Int) : String :=
  if 0 ≤ year ∧ year ≤ 9999 then padded 4 year.toNat
  else (if year < 0 then "-" else "+") ++ padded 4 year.natAbs

namespace Moment

/-- The text of a fraction of a second. -/
def fractionText (nanoseconds : Nat) : String :=
  if nanoseconds = 0 then ""
  else if nanoseconds % 1000000 = 0 then "." ++ padded 3 (nanoseconds / 1000000)
  else if nanoseconds % 1000 = 0 then "." ++ padded 6 (nanoseconds / 1000)
  else "." ++ padded 9 nanoseconds

/-- The text of a moment. -/
def text (moment : Moment) : String :=
  let date := moment.date
  yearText date.year ++ "-" ++ padded 2 date.month ++ "-" ++ padded 2 date.day ++ " " ++
    padded 2 moment.hour ++ ":" ++ padded 2 moment.minute ++ ":" ++
    padded 2 moment.secondOfMinute ++ fractionText moment.fraction

/-! ### Reading -/

/-- Drops the blanks at the front of a text. -/
def skipBlanks (text : List Char) : List Char :=
  text.dropWhile Text.isBlank

/-- Reads a number of at least one digit and at most `width` digits. -/
def readDigits (width : Nat) (text : List Char) : Option (Nat × List Char) :=
  let digits := (text.take width).takeWhile Char.isDigit
  if digits.isEmpty then none else some (digitsValue digits, text.drop digits.length)

/-- Reads a number of one or two digits behind blanks. -/
def readField (text : List Char) : Option (Nat × List Char) :=
  readDigits 2 (skipBlanks text)

/-- Reads a separator behind blanks. -/
def readSeparator (separator : Char) (text : List Char) : Option (List Char) :=
  match skipBlanks text with
  | c :: rest => if c = separator then some rest else none
  | [] => none

/-- Reads a year behind blanks. -/
def readYear (text : List Char) : Option (Int × List Char) :=
  match skipBlanks text with
  | '-' :: rest => (readDigits rest.length rest).map fun (n, rest) => (-(n : Int), rest)
  | '+' :: rest => (readDigits rest.length rest).map fun (n, rest) => ((n : Int), rest)
  | text => (readDigits 4 text).map fun (n, rest) => ((n : Int), rest)

/-- Reads the fraction of a second in nanoseconds. Digits past the ninth do not count. -/
def readFraction (text : List Char) : Option (Nat × List Char) :=
  match text with
  | '.' :: rest =>
    let digits := (rest.take 9).takeWhile Char.isDigit
    if digits.isEmpty then none
    else some (digitsValue digits * Nat.pow 10 (9 - digits.length), rest.dropWhile Char.isDigit)
  | text => some (0, text)

/-- The moment with these fields. Second 60 is the leap second after second 59. -/
def ofFields? (date : Date) (hour minute second nanosecond : Nat) : Option Moment :=
  if h : date.isValid ∧ hour < 24 ∧ minute < 60 ∧ second ≤ 60 ∧ nanosecond < 1000000000 then
    -- A leap second is second 59 with a fraction of a second or more.
    let leap := second = 60
    some
      { day := date.toDayNumber
        second := 3600 * hour + 60 * minute + (if leap then 59 else second)
        nanosecond := nanosecond + (if leap then 1000000000 else 0)
        second_lt := by split <;> omega
        nanosecond_lt := by split <;> split <;> omega }
  else none

/-- Reads a moment. -/
def ofChars? (text : List Char) : Option Moment := do
  let (year, text) ← readYear text
  let text ← readSeparator '-' text
  let (month, text) ← readField text
  let text ← readSeparator '-' text
  let (day, text) ← readField text
  let text ← readSeparator 'T' text
  let (hour, text) ← readField text
  let text ← readSeparator ':' text
  let (minute, text) ← readField text
  let text ← readSeparator ':' text
  let (second, text) ← readField text
  let (nanosecond, text) ← readFraction text
  if (skipBlanks text).isEmpty then ofFields? ⟨year, month, day⟩ hour minute second nanosecond
  else none

/-- Reads a moment. -/
def ofText? (text : String) : Option Moment :=
  ofChars? text.toList

end Moment

end SchemaMigration.Calendar
