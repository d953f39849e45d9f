import SchemaMigration.Proofs.Migration.Rendering
import SchemaMigration.Proofs.Migration.StatementReading
import SchemaMigration.Proofs.Migration.TemplateReading
import SchemaMigration.Proofs.Text.Lines
import SchemaMigration.Proofs.Text.WordLetters

/-!
# `SchemaMigration.Proofs.Migration.TableLines`: the lines of a table migration

A table migration is the create stub, line by line, with its slots filled. `tableLines` says so of
lines: three lines have the class or the table filled in, and one line gives way to the body.
`lines_tableText` says it of the text. Names have no line feed, and neither has what is made of
them, so all lines but those of the body are lines of the stub.

A body is statements, and a statement may have a line feed. Quoting puts a backslash before quotes
and backslashes only, so a line feed in the name, the default or the comment of a column stands in
its statement too. It can come from nowhere else (`feed_not_mem_statement_iff`).
-/

set_option autoImplicit false

namespace SchemaMigration

/-! ### Line feeds in statements -/

/-- A line feed is escaped by nothing. -/
theorem Text.feed_mem_quoted {text : String} :
    '\n' ∈ (Text.quoted text).toList ↔ '\n' ∈ text.toList := by
  have hescape (text : List Char) : '\n' ∈ Text.escape text ↔ '\n' ∈ text := by
    induction text with
    | nil => rfl
    | cons c rest ih =>
      have hbackslash : '\n' ≠ Text.backslash := by decide
      rw [Text.escape]
      split <;> simp [ih, hbackslash]
  have hquote : '\n' ≠ Text.quote := by decide
  simp [Text.quoted, hescape, hquote]

theorem Text.ne_empty_of_feed_mem {text : String} (h : '\n' ∈ text.toList) : text ≠ "" := by
  rintro rfl
  simp at h

namespace DefaultValue

/-- The text of a default that is one. -/
def text? : DefaultValue → Option String
  | .text s => some s
  | _ => none

end DefaultValue

namespace Statement

/-- A line feed in an optional part stands in its argument. -/
theorem feed_mem_partText {α : Type} {opening closing : String} {text : α → String} {o : Option α}
    (hopening : '\n' ∉ opening.toList) (hclosing : '\n' ∉ closing.toList) :
    '\n' ∈ (partText opening closing text o).toList ↔ ∃ a ∈ o, '\n' ∈ (text a).toList := by
  cases o with
  | none => simp [partText, optionalText]
  | some a => simp [partText, optionalText, hopening, hclosing]

theorem feed_not_mem_flagText {method : String} (h : '\n' ∉ method.toList) (set : Bool) :
    '\n' ∉ (flagText method set).toList := by
  cases set <;> simp [flagText, h]

theorem feed_not_mem_of_isBare {text : String} (h : ∀ c ∈ text.toList, isBare c) :
    '\n' ∉ text.toList :=
  fun hfeed => absurd (h _ hfeed) (by decide)

/-- A line feed in the literal of a default stands in the text that it quotes. -/
theorem feed_mem_literal {value : DefaultValue} :
    '\n' ∈ value.literal.toList ↔ ∃ text ∈ value.text?, '\n' ∈ text.toList := by
  rcases quoted_or_isBare value with ⟨text, rfl, hliteral⟩ | hbare
  · rw [hliteral, Text.feed_mem_quoted]
    simp [DefaultValue.text?]
  · refine ⟨fun hfeed => absurd hfeed (feed_not_mem_of_isBare hbare), ?_⟩
    rintro ⟨text, htext, hfeed⟩
    obtain rfl : value = .text text := by
      cases value <;> cases htext
      rfl
    -- A text that is not quoted is its own literal.
    rw [DefaultValue.literal] at hbare
    split at hbare
    · exact absurd hfeed (feed_not_mem_of_isBare hbare)
    · exact absurd (Text.feed_mem_quoted.2 hfeed) (feed_not_mem_of_isBare hbare)

end Statement

namespace Column

open Statement

/-- The text that a column has as its default, unless it counts up by itself. -/
def defaultText? (column : Column) : Option String :=
  if column.autoIncrement then none else column.default.bind DefaultValue.text?

/-- The texts of a designer in the statement of a column: the name, the default and the
comment. -/
def ownTexts (column : Column) : List String :=
  column.name :: column.defaultText?.toList ++ column.comment.toList

/-- None of these texts has a line feed. -/
def OnOneLine (column : Column) : Prop :=
  ∀ text ∈ column.ownTexts, '\n' ∉ text.toList

instance (column : Column) : Decidable column.OnOneLine :=
  inferInstanceAs (Decidable (∀ text ∈ column.ownTexts, '\n' ∉ text.toList))

theorem feed_not_mem_method (column : Column) : '\n' ∉ column.parts.method.toList :=
  fun hfeed => absurd (column.isAlpha_of_mem_method _ hfeed) (by decide)

theorem feed_not_mem_length (column : Column) :
    '\n' ∉ (partText ", " "" toString column.parts.length).toList := by
  rw [feed_mem_partText (by decide) (by decide)]
  rintro ⟨n, -, hfeed⟩
  rw [Text.toList_toString] at hfeed
  exact absurd (Text.isDigit_of_mem_toDigits hfeed) (by decide)

theorem feed_mem_default {column : Column} :
    '\n' ∈ (partText "->default(" ")" id column.parts.default).toList ↔
      ∃ text ∈ column.defaultText?, '\n' ∈ text.toList := by
  rw [feed_mem_partText (by decide) (by decide)]
  cases hauto : column.autoIncrement with
  | true => simp [parts, defaultText?, hauto]
  | false =>
    cases hdefault : column.default with
    | none => simp [parts, defaultText?, effectiveDefault?, hauto, hdefault]
    | some value =>
      -- The empty text has no line feed, so it does not matter that it is no default.
      have hcounts : (∃ text ∈ value.text?, '\n' ∈ text.toList) → value.isEmpty = false := by
        rintro ⟨text, htext, hfeed⟩
        cases value with
        | text s =>
          obtain rfl := Option.some.inj htext
          exact beq_eq_false_iff_ne.2 (Text.ne_empty_of_feed_mem hfeed)
        | _ => rfl
      simpa [parts, defaultText?, effectiveDefault?, hauto, hdefault, feed_mem_literal]
        using hcounts

theorem feed_mem_comment {column : Column} :
    '\n' ∈ (partText "->comment(" ")" Text.quoted column.parts.comment).toList ↔
      ∃ comment ∈ column.comment, '\n' ∈ comment.toList := by
  rw [feed_mem_partText (by decide) (by decide)]
  simp only [parts, effectiveComment?, Text.feed_mem_quoted, Option.mem_def,
    Option.filter_eq_some_iff, bne_iff_ne]
  refine exists_congr fun comment => ⟨fun h => ⟨h.1.1, h.2⟩, fun h => ⟨⟨h.1, ?_⟩, h.2⟩⟩
  exact Text.ne_empty_of_feed_mem h.2

/-- A statement is one line when the texts in it have no line feed. -/
theorem feed_not_mem_statement_iff {column : Column} :
    '\n' ∉ column.statement.toList ↔ column.OnOneLine := by
  have hname : column.parts.name = column.name := rfl
  rw [OnOneLine, ← text_columnParts]
  delta Statement.Parts.text
  simp [ownTexts, hname, Text.feed_mem_quoted, feed_not_mem_method, feed_not_mem_length,
    feed_mem_default, feed_mem_comment, feed_not_mem_flagText, or_imp, forall_and]

end Column

/-! ### Lines of the stubs -/

namespace Stub

/-- The lines of a text that starts with lines. -/
theorem lines_linesText {front : List String} (h : ∀ line ∈ front, '\n' ∉ line.toList)
    (text : String) : Text.lines (linesText front ++ text) = front ++ Text.lines text := by
  induction front with
  | nil => simp [linesText_nil]
  | cons line front ih =>
    obtain ⟨hline, hfront⟩ := List.forall_mem_cons.1 h
    rw [linesText_cons, String.append_assoc, Text.lines_append,
      Text.lines_eq_singleton_iff.2 hline, ih hfront]
    rfl

/-- No line of a stub has a line feed. -/
theorem feed_not_mem_lines (stub : Stub) : ∀ line ∈ stub.lines, '\n' ∉ line.toList := by
  suffices h : ∀ text ∈ stub.lines.map String.toList, '\n' ∉ text from
    fun line hline => h _ (List.mem_map_of_mem hline)
  -- The literals are spelled out as in `clearOfSlots_texts`.
  cases stub <;>
    simp only [lines, headLines, upLines, middleLines, downLines, tailLines, List.cons_append,
      List.nil_append, List.map_cons, List.map_nil] <;>
    (repeat rw [String.toList_ofList]) <;>
    decide

/-- The lines that both stubs have open no slot, but for the line of the class. -/
theorem opening_not_infix_lines :
    ∀ line ∈ headLines.take 6 ++ headLines.drop 7 ++ middleLines ++ tailLines,
      ¬ Template.opening <:+: line.toList := by
  suffices h : ∀ text ∈ (headLines.take 6 ++ headLines.drop 7 ++ middleLines ++ tailLines).map
      String.toList, ¬ Template.opening <:+: text from
    fun line hline => h _ (List.mem_map_of_mem hline)
  simp only [headLines, middleLines, tailLines, List.take_succ_cons, List.take_zero,
    List.drop_succ_cons, List.drop_zero, List.cons_append, List.nil_append, List.map_cons,
    List.map_nil]
  repeat rw [String.toList_ofList]
  decide

/-- The text of a stub is its lines, and nothing behind the last line feed. -/
theorem lines_source (stub : Stub) : Text.lines stub.source = stub.lines ++ [""] := by
  have hsource : stub.source = linesText stub.lines ++ "" := String.append_empty.symm
  rw [hsource, lines_linesText stub.feed_not_mem_lines]
  rfl

/-- The line of the class. -/
def classLine : String := "class \x7b\x7bclass\x7d\x7d extends Migration"

/-- The line that opens the creation of the table. -/
def createLine : String :=
  "        Schema::create('\x7b\x7btable\x7d\x7d', function (Blueprint $table) \x7b"

/-- The line of the columns: their slot and nothing else. -/
def columnsLine : String := "\x7b\x7bcolumns\x7d\x7d"

/-- The line that closes the creation of the table. -/
def createdLine : String := "        \x7d);"

/-- The line that drops the table. -/
def dropLine : String := "        Schema::dropIfExists('\x7b\x7btable\x7d\x7d');"

/-- The lines of the create stub. Four of them have a slot. -/
theorem lines_createTable :
    createTable.lines = headLines.take 6 ++ classLine :: headLines.drop 7 ++
      createLine :: columnsLine :: createdLine :: middleLines ++ dropLine :: tailLines :=
  rfl

end Stub

namespace Assembler

/-- What stands in the slots of the create stub, but for the columns. -/
def slotValues (table : String) : List (String × String) :=
  [("class", className table), ("table", table)]

/-- A line of a stub with the class and the table in their slots. -/
def filledLine (table line : String) : String :=
  match Template.segmentsOf line.toList with
  | .ok segments => String.join (segments.map (Template.fillSegment (slotValues table)))
  | .error _ => line

/-- What becomes of a line of the create stub: the line of the columns gives way to a body. -/
def filledLines (table : String) (body : List String) (line : String) : List String :=
  if line = Stub.columnsLine then body else [filledLine table line]

/-- The lines of the create stub with the class and the table filled in, and with a body in place
of the line of the columns. -/
def tableLines (table : String) (body : List String) : List String :=
  (Text.lines Stub.createTable.source).flatMap (filledLines table body)

variable (table : String) (body : List String)

/-- A line without slots stays as it is. -/
theorem filledLines_of_plain {line : String} (h : ¬ Template.opening <:+: line.toList) :
    filledLines table body line = [line] := by
  have hcolumns : line ≠ Stub.columnsLine := by
    rintro rfl
    exact h (by decide)
  rw [filledLines, if_neg hcolumns, filledLine, Template.segmentsOf_of_last h]
  by_cases hempty : line = ""
  · rw [hempty]
    rfl
  · simp [Template.textSegments, hempty, Template.fillSegment]

theorem flatMap_filledLines_of_plain {part : List String}
    (h : ∀ line ∈ part, ¬ Template.opening <:+: line.toList) :
    part.flatMap (filledLines table body) = part := by
  rw [List.flatMap_congr fun line hmem => filledLines_of_plain table body (h line hmem)]
  simp

/-- In a line with a slot, what is filled in takes the place of the slot. -/
theorem filledLines_of_slot {line front back value : String} (slot : String)
    (hline : line = Template.written [.text front, .slot slot, .text back])
    (hprintable : Template.Printable [.text front, .slot slot, .text back])
    (hvalue : Template.fillSegment (slotValues table) (.slot slot) = value)
    (hcolumns : line ≠ Stub.columnsLine) :
    filledLines table body line = [front ++ value ++ back] := by
  have htext (text : String) : Template.fillSegment (slotValues table) (.text text) = text := rfl
  rw [filledLines, if_neg hcolumns, filledLine, hline, Template.segmentsOf_written hprintable]
  simp [htext, hvalue, String.append_assoc]

theorem filledLines_classLine :
    filledLines table body Stub.classLine =
      ["class " ++ className table ++ " extends Migration"] :=
  filledLines_of_slot table body "class" rfl (by decide) rfl (by decide)

theorem filledLines_createLine :
    filledLines table body Stub.createLine =
      [Stub.createOpening ++ table ++ "', function (Blueprint $table) \x7b"] :=
  filledLines_of_slot table body "table" rfl (by decide) rfl (by decide)

theorem filledLines_dropLine :
    filledLines table body Stub.dropLine = ["        Schema::dropIfExists('" ++ table ++ "');"] :=
  filledLines_of_slot table body "table" rfl (by decide) rfl (by decide)

/-- The lines in front of the body. -/
def openingLines : List String :=
  Stub.headLines.take 6 ++ ("class " ++ className table ++ " extends Migration") ::
    Stub.headLines.drop 7 ++
      [Stub.createOpening ++ table ++ "', function (Blueprint $table) \x7b"]

/-- The lines behind the body. -/
def closingLines : List String :=
  Stub.createdLine :: Stub.middleLines ++
    ("        Schema::dropIfExists('" ++ table ++ "');") :: Stub.tailLines

/-- The body stands between lines that do not depend on it. -/
theorem tableLines_eq :
    tableLines table body = openingLines table ++ body ++ (closingLines table ++ [""]) := by
  have hplain := Stub.opening_not_infix_lines
  simp only [List.forall_mem_append] at hplain
  -- Only four lines of the stub have a slot. All others stay as they are.
  obtain ⟨⟨⟨hhead, hup⟩, hmiddle⟩, htail⟩ := hplain
  have hhead : (Stub.headLines.take 6).flatMap (filledLines table body) = _ :=
    flatMap_filledLines_of_plain table body hhead
  have hup : (Stub.headLines.drop 7).flatMap (filledLines table body) = _ :=
    flatMap_filledLines_of_plain table body hup
  have hcolumns : filledLines table body Stub.columnsLine = body := if_pos rfl
  have hcreated : filledLines table body Stub.createdLine = _ :=
    filledLines_of_plain table body (by decide)
  have hmiddle : Stub.middleLines.flatMap (filledLines table body) = _ :=
    flatMap_filledLines_of_plain table body hmiddle
  have htail : Stub.tailLines.flatMap (filledLines table body) = _ :=
    flatMap_filledLines_of_plain table body htail
  have hlast : filledLines table body "" = _ := filledLines_of_plain table body (by decide)
  rw [tableLines, Stub.lines_source, Stub.lines_createTable, openingLines, closingLines]
  simp only [List.flatMap_append, List.flatMap_cons, List.flatMap_nil, hhead, filledLines_classLine,
    hup, filledLines_createLine, hcolumns, hcreated, hmiddle, filledLines_dropLine, htail, hlast,
    List.append_assoc, List.cons_append, List.nil_append]

/-- One body only makes these lines. -/
theorem tableLines_inj {table : String} {body other : List String} :
    tableLines table body = tableLines table other ↔ body = other := by
  rw [tableLines_eq, tableLines_eq, List.append_left_inj, List.append_right_inj]

/-- The text in front of the body, line by line. -/
theorem linesText_openingLines :
    Stub.linesText (openingLines table) =
      Stub.classOpening ++ className table ++ (Stub.upOpening ++ Stub.createOpening) ++ table ++
        Stub.createBody := by
  have hclass : Stub.upOpening =
      " extends Migration" ++ "\n" ++ Stub.linesText (Stub.headLines.drop 7) := rfl
  have hbody : Stub.createBody = "', function (Blueprint $table) \x7b" ++ "\n" := by decide
  rw [openingLines, Stub.classOpening, hclass, hbody, Stub.linesText_append, Stub.linesText_append,
    Stub.linesText_cons, Stub.linesText_cons, Stub.linesText_nil, String.append_empty]
  -- Literals next to each other are not to be put together.
  simp only [String.append_assoc, -String.reduceAppend]

/-- The text behind the body, line by line. -/
theorem linesText_closingLines :
    "\n" ++ Stub.linesText (closingLines table) =
      Stub.dropOpening ++ table ++ Stub.dropEnding := by
  have hcreated : Stub.dropOpening =
      "\n" ++ Stub.createdLine ++ ("\n" ++ Stub.linesText Stub.middleLines) ++
        "        Schema::dropIfExists('" := rfl
  rw [closingLines, hcreated, Stub.dropEnding, Stub.ending, Stub.linesText_append,
    Stub.linesText_cons, Stub.linesText_cons]
  simp only [String.append_assoc, -String.reduceAppend]

/-- The body of a table migration stands between these lines. -/
theorem tableText_eq :
    tableText table body = Stub.linesText (openingLines table) ++
      (String.intercalate "\n" body ++ "\n" ++ (Stub.linesText (closingLines table) ++ "")) := by
  rw [String.append_empty, String.append_assoc, linesText_closingLines, linesText_openingLines,
    tableText]
  simp only [String.append_assoc]

/-- The lines of a table migration are those of the stub, with the lines of the body in place of the
line of the columns. -/
theorem lines_tableText {table : String} (hname : Text.isName table = true) (body : List String) :
    Text.lines (tableText table body) =
      tableLines table (Text.lines (String.intercalate "\n" body)) := by
  -- Neither name has a line feed, so filling in the names adds no line.
  have htable : '\n' ∉ table.toList :=
    fun hmem => absurd (Text.isNamePart_of_isName hname hmem) (by decide)
  have hclass : '\n' ∉ (className table).toList :=
    fun hmem => absurd (Text.isNamePart_of_isName (isName_className hname) hmem) (by decide)
  have hlines := Stub.feed_not_mem_lines .createTable
  simp only [Stub.lines_createTable, List.forall_mem_append, List.forall_mem_cons] at hlines
  obtain ⟨⟨⟨hhead, -, hup⟩, -, -, hcreated, hmiddle⟩, -, htail⟩ := hlines
  have hopening : ∀ line ∈ openingLines table, '\n' ∉ line.toList := by
    rw [openingLines, List.forall_mem_append, List.forall_mem_append, List.forall_mem_cons,
      List.forall_mem_singleton]
    refine ⟨⟨hhead, ?_, hup⟩, ?_⟩
    · simpa using hclass
    · simpa [Stub.createOpening] using htable
  have hclosing : ∀ line ∈ closingLines table, '\n' ∉ line.toList := by
    rw [closingLines, List.forall_mem_append, List.forall_mem_cons, List.forall_mem_cons]
    refine ⟨⟨hcreated, hmiddle⟩, ?_, htail⟩
    simpa using htable
  rw [tableText_eq, Stub.lines_linesText hopening, Text.lines_append, Stub.lines_linesText hclosing,
    tableLines_eq, List.append_assoc]
  rfl

end Assembler

end SchemaMigration
