import SchemaMigration.Json.Numeral
import SchemaMigration.Json.Quoted

/-!
# `SchemaMigration.Json.Token`: the words of a JSON text

Cuts a text into tokens, up to the first place that begins none. That place is
the token `bad`, and nothing follows it.
-/

set_option autoImplicit false

namespace SchemaMigration.Json

/-- A word of a JSON text. -/
inductive Token where
  | openObject
  | closeObject
  | openArray
  | closeArray
  | comma
  | colon
  | null
  | boolean (b : Bool)
  | number (n : Numeral)
  /-- A string, without its text when it holds half a surrogate pair. -/
  | string (text : Option String)
  /-- A place where no token begins. -/
  | bad
  deriving DecidableEq, Repr

namespace Token

/-- Whether a character may stand between tokens. -/
def isGap (c : Char) : Bool :=
  c == ' ' || c == '\n' || c == '\t' || c == '\r'

/-- Reads the rest of a fixed word. -/
def readWord (word : List Char) (token : Token) (text : List Char) : Token × List Char :=
  if word.isPrefixOf text then (token, text.drop word.length) else (.bad, [])

/-- Reads the token that starts with `c` before `rest`. -/
def read (c : Char) (rest : List Char) : Token × List Char :=
  match c with
  | '\x7b' => (.openObject, rest)
  | '\x7d' => (.closeObject, rest)
  | '[' => (.openArray, rest)
  | ']' => (.closeArray, rest)
  | ',' => (.comma, rest)
  | ':' => (.colon, rest)
  -- The first letter decides which word it has to be.
  | 'n' => readWord "ull".toList .null rest
  | 't' => readWord "rue".toList (.boolean true) rest
  | 'f' => readWord "alse".toList (.boolean false) rest
  | '"' =>
    match Quoted.scan rest with
    | some (pieces, rest) => (.string ((Quoted.join pieces).map String.ofList), rest)
    | none => (.bad, [])
  | c =>
    match Numeral.read (c :: rest) with
    | some (n, rest) => (.number n, rest)
    | none => (.bad, [])

theorem length_readWord (word : List Char) (token : Token) (text : List Char) :
    (readWord word token text).2.length ≤ text.length := by
  unfold readWord
  split <;> simp

/-- Reading a token takes its first character at least. -/
theorem length_read (c : Char) (rest : List Char) : (read c rest).2.length ≤ rest.length := by
  unfold read
  split
  case h_7 | h_8 | h_9 => exact length_readWord _ _ _
  case h_10 =>
    split
    · next h => exact Nat.le_of_lt (Quoted.length_of_scan h)
    · simp
  case h_11 =>
    split
    · next h => exact Nat.le_of_lt_succ (Numeral.length_of_read h)
    · simp
  all_goals exact Nat.le_refl _

end Token

/-- The tokens of a text, up to the first bad one. -/
def tokens : List Char → List Token
  | [] => []
  | c :: rest =>
    if Token.isGap c then tokens rest
    else
      let next := Token.read c rest
      if next.1 = .bad then [.bad] else next.1 :: tokens next.2
termination_by text => text.length
decreasing_by
  · simp
  · have := Token.length_read c rest
    simp only [List.length_cons]
    omega

end SchemaMigration.Json
