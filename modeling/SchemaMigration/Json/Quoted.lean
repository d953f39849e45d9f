/-!
# `SchemaMigration.Json.Quoted`: strings of a JSON text

A string is read in two steps. `scan` finds the closing quote and resolves the
escapes one by one, a `\u` escape to a number. `join` puts the numbers together
to characters and refuses a half of a surrogate pair without the other half.
`encode` writes a string with the short escapes where there are any.
-/

set_option autoImplicit false

namespace SchemaMigration.Json.Quoted

/-- A part of a string: a character, or the number of a `\u` escape. -/
inductive Piece where
  | char (c : Char)
  | code (n : Nat)
  deriving DecidableEq, Repr

/-- The value of a hexadecimal digit. -/
def hexValue? (c : Char) : Option Nat :=
  if c.isDigit then some (c.toNat - '0'.toNat)
  else if 'a' ≤ c ∧ c ≤ 'f' then some (c.toNat - 'a'.toNat + 10)
  else if 'A' ≤ c ∧ c ≤ 'F' then some (c.toNat - 'A'.toNat + 10)
  else none

/-- The number that four hexadecimal digits spell. -/
def hex4? (a b c d : Char) : Option Nat := do
  return (← hexValue? a) * 4096 + (← hexValue? b) * 256 + (← hexValue? c) * 16 + (← hexValue? d)

/-- The character of a short escape. -/
def shortEscape? : Char → Option Char
  | '"' => some '"'
  | '\\' => some '\\'
  | '/' => some '/'
  | 'b' => some '\x08'
  | 'f' => some '\x0c'
  | 'n' => some '\n'
  | 'r' => some '\r'
  | 't' => some '\t'
  | _ => none

/-- The pieces up to the closing quote and the text behind it. A control character, an
unknown escape and the end of the text are refused. -/
def scan : List Char → Option (List Piece × List Char)
  | [] => none
  | '"' :: rest => some ([], rest)
  -- The four digits are read as one piece. Halves of a pair are put together later.
  | '\\' :: 'u' :: a :: b :: c :: d :: rest => do
    let n ← hex4? a b c d
    let (pieces, rest) ← scan rest
    return (.code n :: pieces, rest)
  | '\\' :: c :: rest => do
    let e ← shortEscape? c
    let (pieces, rest) ← scan rest
    return (.char e :: pieces, rest)
  | c :: rest =>
    if c.toNat < 0x20 ∨ c = '\\' then none
    else do
      let (pieces, rest) ← scan rest
      return (.char c :: pieces, rest)

/-- What is left of a string behind one of its pieces is read on. -/
theorem exists_scan_of_bind {α : Type} (found : Option α) (piece : α → Piece)
    {tail rest : List Char} {pieces : List Piece}
    (h : (do
      let a ← found
      let (pieces, rest) ← scan tail
      return (piece a :: pieces, rest)) = some (pieces, rest)) :
    ∃ more, scan tail = some (more, rest) := by
  simp only [Option.bind_eq_bind, Option.bind_eq_some_iff, Option.pure_def, Option.some.injEq,
    Prod.mk.injEq] at h
  obtain ⟨_, _, ⟨more, _⟩, hmore, _, rfl⟩ := h
  exact ⟨more, hmore⟩

/-- Reading a string to its closing quote leaves fewer characters. -/
theorem length_of_scan {text : List Char} {pieces : List Piece} {rest : List Char}
    (h : scan text = some (pieces, rest)) : rest.length < text.length := by
  fun_induction scan text generalizing pieces rest with
  | case1 => simp at h
  | case2 tail => simp at h; simp [h.2]
  | case3 a b c d tail ih =>
    obtain ⟨more, hmore⟩ := exists_scan_of_bind _ _ h
    have := ih hmore
    simp only [List.length_cons]
    omega
  | case4 c tail _ ih =>
    obtain ⟨more, hmore⟩ := exists_scan_of_bind _ _ h
    have := ih hmore
    simp only [List.length_cons]
    omega
  | case5 => simp at h
  | case6 c tail _ _ _ _ ih =>
    -- A plain character is its own piece.
    obtain ⟨more, hmore⟩ := exists_scan_of_bind (some c) Piece.char h
    have := ih hmore
    simp only [List.length_cons]
    omega

/-- Whether a number is the first half of a surrogate pair. -/
def isHighHalf (n : Nat) : Bool :=
  0xD800 ≤ n && n < 0xDC00

/-- Whether a number is the second half of a surrogate pair. -/
def isLowHalf (n : Nat) : Bool :=
  0xDC00 ≤ n && n < 0xE000

/-- The characters of a string, unless it holds half a surrogate pair. -/
def join : List Piece → Option (List Char)
  | [] => some []
  | .char c :: rest => (join rest).map (c :: ·)
  | [.code n] => if isHighHalf n || isLowHalf n then none else some [Char.ofNat n]
  | .code n :: .code m :: rest =>
    if isHighHalf n then
      -- The two halves hold ten bits each of what is above the first plane.
      if isLowHalf m then
        (join rest).map (Char.ofNat (0x10000 + (n - 0xD800) * 0x400 + (m - 0xDC00)) :: ·)
      else none
    else if isLowHalf n then none
    else (join (.code m :: rest)).map (Char.ofNat n :: ·)
  | .code n :: rest =>
    if isHighHalf n || isLowHalf n then none else (join rest).map (Char.ofNat n :: ·)

/-- The written form of one character inside a string. -/
def encodeChar (c : Char) : List Char :=
  match c with
  | '"' => ['\\', '"']
  | '\\' => ['\\', '\\']
  | '\x08' => ['\\', 'b']
  | '\x0c' => ['\\', 'f']
  | '\n' => ['\\', 'n']
  | '\r' => ['\\', 'r']
  | '\t' => ['\\', 't']
  | c =>
    if c.toNat < 0x20 then
      ['\\', 'u', '0', '0', Nat.digitChar (c.toNat / 16), Nat.digitChar (c.toNat % 16)]
    else [c]

/-- A string between quotes. -/
def encode (text : List Char) : List Char :=
  '"' :: (text.flatMap encodeChar ++ ['"'])

end SchemaMigration.Json.Quoted
