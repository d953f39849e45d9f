import SchemaMigration.Migration.Assembly
import SchemaMigration.Proofs.Migration.TemplateFilling
import SchemaMigration.Proofs.Text.Literal

/-!
# `SchemaMigration.Proofs.Migration.Rendering`: the stubs can always be filled

A template is filled when its slots are supplied, each once and nothing else
(`Template.render_eq_ok`). The stubs have the slots that they are filled with, so an
assembler makes every migration that it is asked for, and `tableText` and
`relationsText` say what stands in it.

The stubs are fixed texts. Reading them is the only place where their slots are
settled, and `segmentsOf_source` does it once for both. What is filled in is not looked
at again: a name or a column with a mark of a slot in it is text like any other.

A table stands between quotes in the text of its migration, and behind the last of them
the text is always the same. So two tables whose names have no quotes have different
migrations (`tableText_inj`), whatever their statements are.
-/

set_option autoImplicit false

namespace SchemaMigration

open SchemaMigration.Outcome

namespace Stub

/-- The text of lines. Every line is ended. -/
def linesText (lines : List String) : String :=
  String.join (lines.map (· ++ "\n"))

theorem linesText_nil : linesText [] = "" := rfl

theorem linesText_cons (line : String) (rest : List String) :
    linesText (line :: rest) = line ++ "\n" ++ linesText rest := by
  rw [linesText, List.map_cons, String.join_cons]
  rfl

theorem linesText_append (front back : List String) :
    linesText (front ++ back) = linesText front ++ linesText back := by
  rw [linesText, List.map_append, String.join_append]
  rfl

theorem toList_linesText (lines : List String) :
    (linesText lines).toList = lines.flatMap fun line => line.toList ++ ['\n'] := by
  simp [linesText, String.toList_join, List.flatMap_map]

/-- The text up to the name of the class. -/
def classOpening : String :=
  linesText (headLines.take 6) ++ "class "

/-- The text between the name of the class and the method that runs a migration. -/
def upOpening : String :=
  " extends Migration\n" ++ linesText (headLines.drop 7)

/-- The text between the bodies of the two methods. -/
def downOpening : String :=
  "\n" ++ linesText middleLines

/-- The text behind the body of the method that reverses a migration. -/
def ending : String :=
  "\n" ++ linesText tailLines

/-- The text in front of the table that a migration creates. -/
def createOpening : String :=
  "        Schema::create('"

/-- The text between the table that a migration creates and the statements. -/
def createBody : String :=
  "', function (Blueprint $table) \x7b\n"

/-- The text between the statements and the table that the migration drops. -/
def dropOpening : String :=
  "\n        \x7d);" ++ downOpening ++ "        Schema::dropIfExists('"

/-- The text behind the table that a migration drops. -/
def dropEnding : String :=
  "');" ++ ending

/-- The segments of a stub. -/
def segments : Stub → List Segment
  | .createTable => [
    .text classOpening, .slot "class",
    .text (upOpening ++ createOpening), .slot "table",
    .text createBody, .slot "columns",
    .text dropOpening, .slot "table",
    .text dropEnding]
  | .relations => [
    .text classOpening, .slot "class",
    .text upOpening, .slot "apply",
    .text downOpening, .slot "revert",
    .text ending]

/-- The stubs spell every slot as its name. -/
theorem source_eq_written (stub : Stub) : stub.source = Template.written stub.segments := by
  have hsource : stub.source = linesText stub.lines := rfl
  have hhead : headLines = headLines.take 6 ++
      ("class " ++ (Segment.slot "class").written ++ " extends Migration") ::
        headLines.drop 7 := rfl
  have hclass : " extends Migration\n" = " extends Migration" ++ "\n" := rfl
  have htext (part : String) : (Segment.text part).written = part := by
    simp [Segment.written, Segment.piece, Piece.written]
  rw [hsource, lines, hhead]
  -- Each text between two slots is cut where its lines end, to meet the lines of the source.
  cases stub with
  | createTable =>
    have hup : createTable.upLines = [
        createOpening ++ (Segment.slot "table").written ++ "', function (Blueprint $table) \x7b",
        (Segment.slot "columns").written, "        \x7d);"] := rfl
    have hdown : createTable.downLines = [
        "        Schema::dropIfExists('" ++ (Segment.slot "table").written ++ "');"] := rfl
    have hbody : createBody = "', function (Blueprint $table) \x7b" ++ "\n" := rfl
    have hcreated : "\n        \x7d);" = "\n" ++ "        \x7d);" := rfl
    rw [hup, hdown]
    unfold segments classOpening upOpening dropOpening downOpening dropEnding ending
    rw [hclass, hbody, hcreated]
    simp only [Template.written, List.map_cons, List.map_nil, htext, String.join_cons,
      String.join_nil, linesText_append, linesText_cons, linesText_nil, String.append_assoc,
      String.append_empty]
  | relations =>
    have hup : relations.upLines = [(Segment.slot "apply").written] := rfl
    have hdown : relations.downLines = [(Segment.slot "revert").written] := rfl
    rw [hup, hdown]
    unfold segments classOpening upOpening downOpening ending
    rw [hclass]
    simp only [Template.written, List.map_cons, List.map_nil, htext, String.join_cons,
      String.join_nil, linesText_append, linesText_cons, linesText_nil, String.append_assoc,
      String.append_empty]

/-- A text that does not run into the slots around it. -/
def ClearOfSlots (text : List Char) : Prop :=
  text ≠ [] ∧ ¬ Template.opening <:+: text ∧ text.getLast? ≠ some '\x7b'

instance (text : List Char) : Decidable (ClearOfSlots text) :=
  inferInstanceAs (Decidable (_ ∧ _))

/-- The texts between the slots do not run into them. -/
theorem clearOfSlots_texts :
    ClearOfSlots classOpening.toList ∧ ClearOfSlots upOpening.toList ∧
      ClearOfSlots (upOpening ++ createOpening).toList ∧ ClearOfSlots createBody.toList ∧
      ClearOfSlots downOpening.toList ∧ ClearOfSlots dropOpening.toList ∧
      ClearOfSlots dropEnding.toList ∧ ClearOfSlots ending.toList := by
  unfold classOpening upOpening createOpening createBody dropOpening dropEnding downOpening ending
  repeat rw [String.toList_append]
  repeat rw [toList_linesText]
  unfold headLines middleLines tailLines
  simp only [List.take_succ_cons, List.take_zero, List.drop_succ_cons, List.drop_zero,
    List.flatMap_cons, List.flatMap_nil]
  -- Evaluating `toList` on a literal takes the kernel much longer than spelling it out.
  repeat rw [String.toList_ofList]
  decide +kernel

theorem printable_segments (stub : Stub) : Template.Printable stub.segments := by
  have hplain {part : String} (h : ClearOfSlots part.toList) : (Segment.text part).Plain :=
    ⟨fun hempty => h.1 (by simp [hempty]), h.2.1⟩
  obtain ⟨hclass, hup, hcreate, hbody, hdown, hdrop, hdropped, hend⟩ := clearOfSlots_texts
  have hslot : ∀ slot ∈ stub.slots, (Segment.slot slot).Plain := by
    cases stub <;> decide
  -- Texts and slots take turns, so it is enough that each text keeps clear of slots.
  cases stub with
  | createTable =>
    simp only [slots, List.forall_mem_cons] at hslot
    obtain ⟨hname, htable, hcolumns, -⟩ := hslot
    constructor
    · simp [segments, hname, htable, hcolumns, hplain hclass, hplain hcreate, hplain hbody,
        hplain hdrop, hplain hdropped]
    · simpa only [segments, List.isChain_cons_cons, List.isChain_singleton, Segment.Apart, true_and,
        and_true] using ⟨hclass.2.2, hcreate.2.2, hbody.2.2, hdrop.2.2⟩
  | relations =>
    simp only [slots, List.forall_mem_cons] at hslot
    obtain ⟨hname, happly, hrevert, -⟩ := hslot
    constructor
    · simp [segments, hname, happly, hrevert, hplain hclass, hplain hup, hplain hdown, hplain hend]
    · simpa only [segments, List.isChain_cons_cons, List.isChain_singleton, Segment.Apart, true_and,
        and_true] using ⟨hclass.2.2, hup.2.2, hdown.2.2⟩

theorem segmentsOf_source (stub : Stub) :
    Template.segmentsOf stub.source.toList = .ok stub.segments := by
  rw [source_eq_written]
  exact Template.segmentsOf_written stub.printable_segments

/-- A stub has its slots, in the order in which they are listed. -/
theorem newSlots_segments (stub : Stub) : Template.newSlots [] stub.segments = stub.slots := by
  cases stub <;> rfl

theorem template_eq_ok (stub : Stub) : stub.template = .ok ⟨stub.name, stub.segments⟩ := by
  have hread : Template.ofText stub.name stub.source = .ok ⟨stub.name, stub.segments⟩ :=
    Template.ofText_eq_ok_iff.2 ⟨rfl, segmentsOf_source stub⟩
  have hslots : (Template.mk stub.name stub.segments).slots = stub.slots := newSlots_segments stub
  rw [template, hread, ok_bind, hslots, if_pos]
  · rfl
  · simp [Template.hasSlot, hslots]

end Stub

namespace Assembler

/-- The templates of an assembler are the stubs. -/
structure HasStubs (assembler : Assembler) : Prop where
  createTable_eq : assembler.createTable = ⟨Stub.createTable.name, Stub.createTable.segments⟩
  relations_eq : assembler.relations = ⟨Stub.relations.name, Stub.relations.segments⟩

/-- There is an assembler for every extension. -/
theorem ofExtension_eq_ok (extension : String) :
    ∃ assembler, ofExtension extension = .ok assembler ∧
      assembler.extension = extension ∧ assembler.HasStubs := by
  refine ⟨⟨_, _, extension⟩, ?_, rfl, ⟨rfl, rfl⟩⟩
  rw [ofExtension, Stub.template_eq_ok, ok_bind, Stub.template_eq_ok, ok_bind]
  rfl

theorem hasStubs_of_ofExtension {assembler : Assembler} {extension : String}
    (h : ofExtension extension = .ok assembler) : assembler.HasStubs := by
  obtain ⟨other, hother, -, hstubs⟩ := ofExtension_eq_ok extension
  obtain rfl := Except.ok.inj (h.symm.trans hother)
  exact hstubs

/-! ### The texts of migrations -/

/-- The text of the migration that creates a table with these lines as its body. -/
def tableText (table : String) (lines : List String) : String :=
  Stub.classOpening ++ className table ++ (Stub.upOpening ++ Stub.createOpening) ++ table ++
    Stub.createBody ++ String.intercalate "\n" lines ++ Stub.dropOpening ++ table ++
    Stub.dropEnding

/-- The text of the migration that adds foreign keys, under a descriptive name. -/
def relationsText (name : String) (blocks : RelationBlocks) : String :=
  Stub.classOpening ++ className name ++ Stub.upOpening ++
    String.intercalate "\n" blocks.apply ++ Stub.downOpening ++
    String.intercalate "\n" blocks.revert ++ Stub.ending

/-- The text behind the last quote of a text. -/
def behindLastQuote (text : String) : List Char :=
  (text.toList.reverse.takeWhile (· != Text.quote)).reverse

/-- Behind the last quote stands the name that it is followed by. -/
theorem behindLastQuote_append {name : String} (hname : Text.isName name = true)
    (front : String) : behindLastQuote (front ++ "'" ++ name) = name.toList := by
  have hnone : ∀ c ∈ name.toList.reverse, (c != Text.quote) = true := fun c hc =>
    bne_iff_ne.2 fun heq => Text.quote_not_mem_of_isName hname (heq ▸ List.mem_reverse.1 hc)
  have hquote : "'".toList = [Text.quote] := rfl
  rw [behindLastQuote, String.toList_append, String.toList_append, hquote, List.reverse_append,
    List.reverse_append, List.takeWhile_append_of_pos hnone]
  simp

/-- Tables with different names have different migrations. -/
theorem tableText_inj {table other : String} {lines lines' : List String}
    (hname : Text.isName table = true) (hother : Text.isName other = true)
    (h : tableText table lines = tableText other lines') : table = other := by
  have hquote : "        Schema::dropIfExists('" = "        Schema::dropIfExists(" ++ "'" := rfl
  obtain ⟨front, hdrop⟩ : ∃ front, Stub.dropOpening = front ++ "'" :=
    ⟨_, by rw [Stub.dropOpening, hquote, ← String.append_assoc]⟩
  -- Behind the last name the two texts are alike, and a quote stands before it.
  simp only [tableText, hdrop, String.append_left_inj, ← String.append_assoc] at h
  have hlast := congrArg behindLastQuote h
  rw [behindLastQuote_append hname, behindLastQuote_append hother] at hlast
  exact String.toList_inj.1 hlast

variable {assembler : Assembler}

/-- Every table has a migration. -/
theorem tableMigration_eq_ok (h : assembler.HasStubs) (key table : String) (lines : List String) :
    assembler.tableMigration key table lines =
      .ok ⟨Artifact.fileName key table assembler.extension, tableText table lines, .table⟩ := by
  have hslots : Template.slots ⟨Stub.createTable.name, Stub.createTable.segments⟩ =
      Stub.createTable.slots := Stub.newSlots_segments .createTable
  rw [tableMigration, h.createTable_eq, Template.render_eq_ok (.of_eq (by rw [hslots]; rfl)),
    ok_bind]
  rfl

/-- Every set of foreign keys has a migration. -/
theorem relationsMigration_eq_ok (h : assembler.HasStubs) (key name : String)
    (blocks : RelationBlocks) :
    assembler.relationsMigration key name blocks =
      .ok ⟨Artifact.fileName key name assembler.extension, relationsText name blocks,
        .relations⟩ := by
  have hslots : Template.slots ⟨Stub.relations.name, Stub.relations.segments⟩ =
      Stub.relations.slots := Stub.newSlots_segments .relations
  rw [relationsMigration, h.relations_eq, Template.render_eq_ok (.of_eq (by rw [hslots]; rfl)),
    ok_bind]
  rfl

end Assembler

end SchemaMigration
