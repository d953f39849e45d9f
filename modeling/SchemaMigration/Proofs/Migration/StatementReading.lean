import SchemaMigration.Migration.Statement
import SchemaMigration.Proofs.Text.Literal

/-!
# `SchemaMigration.Proofs.Migration.StatementReading`: a column's statement is read back

A statement is a chain of calls in one line of text, and three texts in it come from a
designer: the name, the default and the comment. Each may look like a piece of the chain.
`Statement.Parts.read` goes through a text from left to right, without looking back, and
finds the parts of the statement that the text starts with. `read_statement` says that it
finds what counts of the column, and that it stops behind the statement, whatever follows.

So two columns have one statement only when the same counts of both of them, and no
statement is the beginning of another.

The optional calls are looked for in their fixed order. A call that is missing is followed
by a later one or by the end of the statement, and their marks disagree
(`Text.dropPrefix?_eq_none`). A literal is either quoted, or it has no parenthesis in it
(`Statement.isArgument_literal`).
-/

set_option autoImplicit false

namespace SchemaMigration

open SchemaMigration.Text (Apart StartsWith dropPrefix?_append dropPrefix?_eq_none readQuoted
  readQuoted_append readNatural readNatural_append startsWith_append isDigit_of_mem_toDigits
  toList_toString_ofNat toList_toString_negSucc)

namespace Statement

/-! ### The parts of a statement -/

/-- What a statement says, as it can be read off its text. -/
structure Parts where
  method : String
  name : String
  length : Option Nat
  /-- The literal of the default, with its quotes if it has any. -/
  default : Option String
  nullable : Bool
  unique : Bool
  index : Bool
  unsigned : Bool
  comment : Option String
  deriving DecidableEq, Repr

/-- An optional part with what stands around it. -/
def partText {α : Type} (opening closing : String) (text : α → String) : Option α → String :=
  optionalText fun a => opening ++ text a ++ closing

/-- The text that says the parts. -/
def Parts.text (p : Parts) : String :=
  "$table->" ++ p.method ++ "(" ++ Text.quoted p.name ++
    partText ", " "" toString p.length ++ ")" ++
    partText "->default(" ")" id p.default ++
    flagText "nullable" p.nullable ++
    flagText "unique" p.unique ++
    flagText "index" p.index ++
    flagText "unsigned" p.unsigned ++
    partText "->comment(" ")" Text.quoted p.comment ++
    ";"

/-- The parts of a statement. -/
def parts (s : Statement) : Parts where
  method := s.method
  name := s.name
  length := s.length.map UInt32.toNat
  default := s.default.map DefaultValue.literal
  nullable := s.nullable
  unique := s.unique
  index := s.index
  unsigned := s.unsigned
  comment := s.comment

/-- A statement has the text that says its parts. -/
theorem text_parts (s : Statement) : s.parts.text = s.text := by
  have hlength : partText ", " "" toString (s.length.map UInt32.toNat) =
      optionalText (fun n => ", " ++ toString n.toNat) s.length := by
    cases s.length with
    | none => rfl
    | some n => exact String.append_empty
  have hdefault : partText "->default(" ")" id (s.default.map DefaultValue.literal) =
      optionalText (fun value => "->default(" ++ value.literal ++ ")") s.default := by
    cases s.default <;> rfl
  delta Parts.text text parts
  dsimp only
  rw [hlength, hdefault]
  rfl

/-! ### Reading -/

/-- Reads a part that is there when its opening is. -/
def readPart {α : Type} (opening closing : String)
    (read : List Char → Option (α × List Char)) (text : List Char) :
    Option (Option α × List Char) :=
  match text.dropPrefix? opening.toList with
  | none => some (none, text)
  | some inside => do
    let (a, behind) ← read inside
    let rest ← behind.dropPrefix? closing.toList
    return (some a, rest)

/-- Reads a modifier without arguments, if it is there. -/
def readFlag (method : String) (text : List Char) : Bool × List Char :=
  match text.dropPrefix? ("->" ++ method ++ "()").toList with
  | none => (false, text)
  | some rest => (true, rest)

/-- Reads the name of a method. -/
def readMethod (text : List Char) : String × List Char :=
  (String.ofList (text.takeWhile Char.isAlpha), text.dropWhile Char.isAlpha)

/-- Reads an argument as it stands: a quoted literal, or else all up to a parenthesis. -/
def readArgument (text : List Char) : Option (String × List Char) :=
  if text.head? = some Text.quote then
    (readQuoted text).map fun read =>
      (String.ofList (text.take (text.length - read.2.length)), read.2)
  else some (String.ofList (text.takeWhile (· != ')')), text.dropWhile (· != ')'))

/-- Reads the statement that a text starts with, from left to right. -/
def Parts.read (text : List Char) : Option (Parts × List Char) := do
  let text ← text.dropPrefix? "$table->".toList
  let (method, text) := readMethod text
  let text ← text.dropPrefix? "(".toList
  let (name, text) ← readQuoted text
  let (length, text) ← readPart ", " "" readNatural text
  let text ← text.dropPrefix? ")".toList
  let (default, text) ← readPart "->default(" ")" readArgument text
  let (nullable, text) := readFlag "nullable" text
  let (unique, text) := readFlag "unique" text
  let (index, text) := readFlag "index" text
  let (unsigned, text) := readFlag "unsigned" text
  let (comment, text) ← readPart "->comment(" ")" readQuoted text
  let rest ← text.dropPrefix? ";".toList
  return ({ method, name, length, default, nullable, unique, index, unsigned, comment }, rest)

variable {α : Type} {marks : List String} {rest : List Char}

/-- A part in front of a text adds its opening to the marks that the text may start with. -/
theorem startsWith_partText (opening closing : String) (text : α → String) (o : Option α)
    (h : StartsWith marks rest) :
    StartsWith (opening :: marks) ((partText opening closing text o).toList ++ rest) := by
  cases o with
  | none => exact h.cons _
  | some a =>
    refine ⟨opening, List.mem_cons_self, ?_⟩
    simp only [partText, optionalText, String.toList_append, List.append_assoc]
    exact List.prefix_append _ _

/-- So does a modifier without arguments. -/
theorem startsWith_flagText (method : String) (set : Bool) (h : StartsWith marks rest) :
    StartsWith (("->" ++ method ++ "()") :: marks) ((flagText method set).toList ++ rest) := by
  cases set with
  | false => exact h.cons _
  | true => exact ⟨_, List.mem_cons_self, List.prefix_append _ _⟩

/-- An optional part is read back when its argument is, and when nothing that may stand in its
place starts like it. -/
theorem readPart_append (opening closing : String) (text : α → String)
    {read : List Char → Option (α × List Char)} (o : Option α)
    (hread : ∀ a ∈ o, read ((text a).toList ++ (closing.toList ++ rest)) =
      some (a, closing.toList ++ rest))
    (h : StartsWith marks rest) (hapart : ∀ other ∈ marks, Apart opening other) :
    readPart opening closing read ((partText opening closing text o).toList ++ rest) =
      some (o, rest) := by
  cases o with
  | none =>
    show readPart opening closing read rest = _
    rw [readPart, dropPrefix?_eq_none h hapart]
  | some a =>
    simp only [partText, optionalText, String.toList_append, List.append_assoc]
    rw [readPart, dropPrefix?_append]
    simp only [hread a rfl, Option.bind_eq_bind, Option.bind_some, dropPrefix?_append]
    rfl

/-- A modifier without arguments is read back in the same way. -/
theorem readFlag_append (method : String) (set : Bool) (h : StartsWith marks rest)
    (hapart : ∀ other ∈ marks, Apart ("->" ++ method ++ "()") other) :
    readFlag method ((flagText method set).toList ++ rest) = (set, rest) := by
  cases set with
  | false =>
    show readFlag method rest = _
    rw [readFlag, dropPrefix?_eq_none h hapart]
  | true =>
    rw [flagText, if_pos rfl, readFlag, dropPrefix?_append]

/-- The name of a method is read up to the parenthesis behind it. -/
theorem readMethod_append {method : String} (h : ∀ c ∈ method.toList, c.isAlpha)
    (rest : List Char) :
    readMethod (method.toList ++ ("(".toList ++ rest)) = (method, "(".toList ++ rest) := by
  have hparenthesis : "(".toList = ['('] := rfl
  rw [readMethod, List.takeWhile_append_of_pos h, List.dropWhile_append_of_pos h, hparenthesis,
    List.singleton_append]
  simp

/-- A literal that an argument can be: a quoted one, or one without quotes and parentheses. -/
def IsArgument (literal : String) : Prop :=
  (∃ text, literal = Text.quoted text) ∨
    ∀ c ∈ literal.toList, c ≠ Text.quote ∧ c ≠ ')'

/-- An argument is read as it stands, up to the parenthesis behind it. -/
theorem readArgument_append {literal : String} (h : IsArgument literal) (rest : List Char) :
    readArgument (literal.toList ++ (")".toList ++ rest)) = some (literal, ")".toList ++ rest) := by
  -- A quoted text ends at its quote. Any other literal has no parenthesis and ends at the first
  -- one.
  rcases h with ⟨text, rfl⟩ | h
  · have hquote : ((Text.quoted text).toList ++ (")".toList ++ rest)).head? = some Text.quote := by
      simp [Text.quoted]
    rw [readArgument, if_pos hquote, readQuoted_append]
    simp
  · have hparenthesis : ")".toList = [')'] := rfl
    have hquote : (literal.toList ++ (")".toList ++ rest)).head? ≠ some Text.quote := by
      rw [hparenthesis]
      cases hliteral : literal.toList with
      | nil => exact fun hhead => absurd (Option.some.inj hhead) (by decide)
      | cons c tail =>
        exact fun hhead => (h c (by simp [hliteral])).1 (Option.some.inj hhead)
    have hplain : ∀ c ∈ literal.toList, (c != ')') = true := fun c hc => bne_iff_ne.2 (h c hc).2
    rw [readArgument, if_neg hquote, List.takeWhile_append_of_pos hplain,
      List.dropWhile_append_of_pos hplain, hparenthesis, List.singleton_append]
    simp

/-- Parts whose method and default can be read where they stand. -/
structure Parts.Readable (p : Parts) : Prop where
  method : ∀ c ∈ p.method.toList, c.isAlpha
  default : ∀ literal ∈ p.default, IsArgument literal

/-- The parts are read off their text, and what follows the text is left. -/
theorem Parts.read_text {p : Parts} (h : p.Readable) (rest : List Char) :
    Parts.read (p.text.toList ++ rest) = some (p, rest) := by
  -- From the end of the statement to its front: what each optional part may be followed by, and
  -- that it is therefore read.
  have hend := startsWith_append ";" rest
  have hcomment := readPart_append "->comment(" ")" Text.quoted p.comment
    (fun comment _ => readQuoted_append comment _) hend (by decide)
  have hbefore := startsWith_partText "->comment(" ")" Text.quoted p.comment hend
  have hunsigned := readFlag_append "unsigned" p.unsigned hbefore (by decide)
  replace hbefore := startsWith_flagText "unsigned" p.unsigned hbefore
  have hindex := readFlag_append "index" p.index hbefore (by decide)
  replace hbefore := startsWith_flagText "index" p.index hbefore
  have hunique := readFlag_append "unique" p.unique hbefore (by decide)
  replace hbefore := startsWith_flagText "unique" p.unique hbefore
  have hnullable := readFlag_append "nullable" p.nullable hbefore (by decide)
  replace hbefore := startsWith_flagText "nullable" p.nullable hbefore
  have hdefault := readPart_append "->default(" ")" id p.default
    (fun literal hliteral => readArgument_append (h.default literal hliteral) _) hbefore (by decide)
  have hlength (behind : List Char) := readPart_append ", " "" toString p.length
    (fun n _ => readNatural_append n (by simp)) (startsWith_append ")" behind) (by decide)
  delta Parts.text
  simp only [Parts.read, String.toList_append, List.append_assoc, dropPrefix?_append,
    readMethod_append h.method, readQuoted_append, hlength, hdefault, hnullable, hunique, hindex,
    hunsigned, hcomment, Option.bind_eq_bind, Option.bind_some]
  rfl

/-! ### Literals of defaults -/

/-- A character of numbers and of the two truth values. -/
def isBare (c : Char) : Bool :=
  c.isAlphanum || c == '.' || c == '-'

theorem isBare_of_isDigit {c : Char} (h : c.isDigit) : isBare c := by
  simp [isBare, Char.isAlphanum, h]

/-- A text of such characters can be an argument. -/
theorem isArgument_of_isBare {literal : String} (h : ∀ c ∈ literal.toList, isBare c) :
    IsArgument literal := by
  refine .inr fun c hc => ⟨?_, ?_⟩
  · rintro rfl
    exact absurd (h _ hc) (by decide)
  · rintro rfl
    exact absurd (h _ hc) (by decide)

theorem isBare_of_mem_toString {n : Int} {c : Char} (h : c ∈ (toString n).toList) : isBare c := by
  cases n with
  | ofNat m =>
    rw [toList_toString_ofNat] at h
    exact isBare_of_isDigit (isDigit_of_mem_toDigits h)
  | negSucc m =>
    rw [toList_toString_negSucc, List.mem_cons] at h
    rcases h with rfl | h
    · rfl
    · exact isBare_of_isDigit (isDigit_of_mem_toDigits h)

theorem isBare_of_mem_positional {d : Number.Decimal} {c : Char} (h : c ∈ d.positional.toList) :
    isBare c := by
  have hzeros {k : Nat} (h : c ∈ List.replicate k '0') : isBare c := by
    rw [List.eq_of_mem_replicate h]
    rfl
  unfold Number.Decimal.positional at h
  dsimp only at h
  split at h
  · rw [String.toList_ofList, List.mem_append] at h
    rcases h with h | h
    · exact isBare_of_isDigit (isDigit_of_mem_toDigits h)
    · exact hzeros h
  · -- The digits before the point and those behind it are the digits with zeros in front.
    have hdigits {k n : Nat} (h : c ∈ List.replicate k '0' ++ Nat.toDigits 10 n) : isBare c := by
      rcases List.mem_append.1 h with h | h
      · exact hzeros h
      · exact isBare_of_isDigit (isDigit_of_mem_toDigits h)
    rw [String.toList_ofList, List.mem_append, List.mem_cons] at h
    rcases h with h | rfl | h
    · exact hdigits (List.mem_of_mem_take h)
    · rfl
    · exact hdigits (List.mem_of_mem_drop h)

theorem isBare_of_isIntegerLiteral {s : String} (h : Text.isIntegerLiteral s = true) :
    ∀ c ∈ s.toList, isBare c := by
  obtain ⟨sign, digits, htext, hsign, hdigits⟩ := Text.isIntegerLiteral_iff.1 h
  rw [htext, List.forall_mem_append]
  refine ⟨?_, fun c hc => isBare_of_isDigit (hdigits.isDigit_of_mem hc)⟩
  rcases hsign with rfl | rfl
  · exact List.forall_mem_nil _
  · exact List.forall_mem_singleton.2 rfl

/-- The literal of a default is a quoted text, or else it has such characters only. -/
theorem quoted_or_isBare (value : DefaultValue) :
    (∃ text, value = .text text ∧ value.literal = Text.quoted text) ∨
      ∀ c ∈ value.literal.toList, isBare c := by
  cases value with
  | boolean b =>
    cases b with
    | false => exact .inr (List.all_eq_true.1 (by decide))
    | true => exact .inr (List.all_eq_true.1 (by decide))
  | integer n => exact .inr fun c hc => isBare_of_mem_toString hc
  | real x =>
    refine .inr fun c hc => ?_
    rw [DefaultValue.literal, Number.Binary64.plainText, String.toList_append,
      List.mem_append] at hc
    rcases hc with hc | hc
    · unfold Number.Binary64.signText at hc
      split at hc
      · obtain rfl := List.mem_singleton.1 (show c ∈ ['-'] from hc)
        rfl
      · exact absurd hc (by simp)
    · exact isBare_of_mem_positional hc
  | text s =>
    rw [DefaultValue.literal]
    split
    · -- A text that spells an integer is written like one, without quotes.
      next hinteger => exact .inr (isBare_of_isIntegerLiteral hinteger)
    · exact .inl ⟨s, rfl, rfl⟩

/-- The literal of every default can be an argument. -/
theorem isArgument_literal (value : DefaultValue) : IsArgument value.literal := by
  rcases quoted_or_isBare value with ⟨text, -, hliteral⟩ | hbare
  · exact .inl ⟨text, hliteral⟩
  · exact isArgument_of_isBare hbare

end Statement

/-! ### Columns -/

namespace Column

/-- What counts of a column in a migration. -/
def parts (column : Column) : Statement.Parts where
  method :=
    match column.autoIncrement, column.type.increments? with
    | true, some counting => counting
    | _, _ => column.type.name
  name := column.name
  length := if column.autoIncrement then none else column.effectiveLength?.map UInt32.toNat
  default :=
    if column.autoIncrement then none else column.effectiveDefault?.map DefaultValue.literal
  nullable := column.nullable
  unique := column.unique
  index := column.index
  unsigned := column.unsigned && !column.autoIncrement
  comment := column.effectiveComment?

/-- The parts of a column's statement are what counts of the column. -/
theorem parts_ofColumn (column : Column) :
    (Statement.ofColumn column).parts = column.parts := by
  cases hauto : column.autoIncrement with
  | false => simp [Statement.parts, Statement.ofColumn, parts, hauto]
  | true =>
    cases hcounting : column.type.increments? with
    | none => simp [Statement.parts, Statement.ofColumn, parts, hauto, hcounting]
    | some method => simp [Statement.parts, Statement.ofColumn, parts, hauto, hcounting]

/-- The statement of a column says what counts of it. -/
theorem text_columnParts (column : Column) : column.parts.text = column.statement := by
  rw [statement, ← Statement.text_parts, parts_ofColumn]

/-- Methods are named by letters. -/
theorem isAlpha_of_mem_method (column : Column) :
    ∀ c ∈ column.parts.method.toList, c.isAlpha := by
  have hname (type : ColumnType) : type.name.toList.all Char.isAlpha = true := by
    cases type <;> rfl
  have hcounting {type : ColumnType} {counting : String} (h : type.increments? = some counting) :
      counting.toList.all Char.isAlpha = true := by
    cases type <;> cases h <;> rfl
  rw [parts]
  dsimp only
  split
  · next counting _ heq => exact List.all_eq_true.1 (hcounting heq)
  · exact List.all_eq_true.1 (hname column.type)

theorem readable_parts (column : Column) : column.parts.Readable where
  method := isAlpha_of_mem_method column
  default := by
    intro literal hliteral
    rw [parts] at hliteral
    dsimp only at hliteral
    split at hliteral
    · cases hliteral
    · obtain ⟨value, -, rfl⟩ := Option.map_eq_some_iff.1 hliteral
      exact Statement.isArgument_literal value

/-- What counts of a column is read off a text that starts with its statement. -/
theorem read_append (column : Column) (rest : List Char) :
    Statement.Parts.read (column.statement.toList ++ rest) = some (column.parts, rest) := by
  rw [← text_columnParts]
  exact Statement.Parts.read_text column.readable_parts rest

/-- Texts that start with statements are the same only when the statements are. -/
theorem statement_append_eq_iff {column other : Column} {rest rest' : String} :
    column.statement ++ rest = other.statement ++ rest' ↔
      column.parts = other.parts ∧ rest = rest' := by
  constructor
  · intro h
    have hlist := congrArg String.toList h
    rw [String.toList_append, String.toList_append] at hlist
    have hread := column.read_append rest.toList
    rw [hlist, other.read_append] at hread
    obtain ⟨hparts, hrest⟩ := Prod.mk.inj (Option.some.inj hread)
    exact ⟨hparts.symm, (String.toList_inj.1 hrest).symm⟩
  · rintro ⟨hparts, rfl⟩
    rw [← text_columnParts, ← text_columnParts, hparts]

theorem statement_eq_iff {column other : Column} :
    column.statement = other.statement ↔ column.parts = other.parts := by
  have h : column.statement ++ "" = other.statement ++ "" ↔ column.parts = other.parts ∧ "" = "" :=
    statement_append_eq_iff
  rwa [String.append_empty, String.append_empty, and_iff_left rfl] at h

/-- What a column's statement says is read off the front of a text that starts with it, and what
follows is left. Two columns have the same statement when the same counts of both. Otherwise no
text behind the one makes it the other. -/
theorem read_statement (column : Column) :
    (∀ rest, Statement.Parts.read (column.statement.toList ++ rest) = some (column.parts, rest)) ∧
      (∀ other : Column, column.statement = other.statement ↔ column.parts = other.parts) ∧
      ∀ (other : Column) (rest rest' : String),
        column.statement ++ rest = other.statement ++ rest' ↔
          column.parts = other.parts ∧ rest = rest' :=
  ⟨column.read_append, fun _ => statement_eq_iff, fun _ _ _ => statement_append_eq_iff⟩

/-- A name that spells the end of a statement stays a name. -/
example : (Statement.Parts.read
      ("$table->string('a\\')->nullable();', 40)->unique();" ++ " // end").toList).map
        (fun read => (read.1.name, read.1.length, read.1.nullable, read.1.unique)) =
    some ("a')->nullable();", some 40, false, true) := by
  decide

end Column

end SchemaMigration
