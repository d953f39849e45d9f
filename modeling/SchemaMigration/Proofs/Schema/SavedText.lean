import SchemaMigration.Schema.Document
import SchemaMigration.Proofs.Json.ValueReading

/-!
# `SchemaMigration.Proofs.Schema.SavedText`: a saved schema is loaded again

The decoder of each part of a model reads the value that is written for the part
(`reads_identifier` to `reads_model`). A field without a value is not written, and its
absence is read as no value (`fills_optionalMember`).

The numbers in a written model can be read when the texts of its doubles can
(`readable_model`). Then both texts of a schema are loaded as its model, so that saving
it again writes the same texts (`ofText_saved`).
-/

set_option autoImplicit false

namespace SchemaMigration

open SchemaMigration.Json SchemaMigration.Json.Decoder
open SchemaMigration.Number (Binary64)

variable {depth : Nat}

/-! ### The parts of a column -/

theorem reads_identifier (id : Identifier) : Reads Identifier.decoder depth id.toValue id := by
  cases id with
  | number n =>
    refine reads_whole (fun _ => rfl) ?_
    show (if n.toInt ≤ Int64.maxValue.toInt then
      Except.ok (Identifier.number (Int64.ofInt n.toInt)) else _) = _
    rw [if_pos (Int64.toInt_le n), Int64.ofInt_toInt]
  | text s => exact reads_whole (fun _ => rfl) rfl

theorem ofName?_name (type : ColumnType) : ColumnType.ofName? type.name = some type := by
  have h : ∀ type ∈ ColumnType.all, ColumnType.ofName? type.name = some type := by
    decide +kernel
  exact h type type.mem_all

theorem reads_default (value : DefaultValue) :
    Reads DefaultValue.decoder depth value.toValue value := by
  cases value with
  | boolean b => exact reads_whole (fun _ => rfl) rfl
  | integer n =>
    refine reads_whole (fun _ => rfl) ?_
    show (if n.toInt ≤ Int64.maxValue.toInt then
      Except.ok (DefaultValue.integer (Int64.ofInt n.toInt)) else _) = _
    rw [if_pos (Int64.toInt_le n), Int64.ofInt_toInt]
  | real x => exact reads_whole (fun _ => rfl) rfl
  | text s => exact reads_whole (fun _ => rfl) rfl

theorem toValue_default_ne_null (value : DefaultValue) : value.toValue ≠ .null := by
  cases value <;> simp [DefaultValue.toValue]

theorem reads_length (n : UInt32) :
    Reads Column.lengthDecoder depth (.integer n.toNat) (some n) := by
  have hgiven : Reads Column.lengthDecoder.givenLength depth (.integer n.toNat) (some n) := by
    refine reads_whole (fun _ => rfl) ?_
    show (if 0 ≤ (n.toNat : Int) ∧ (n.toNat : Int) < UInt32.size then
      Except.ok (some (UInt32.ofNat (n.toNat : Int).toNat)) else _) = _
    rw [if_pos ⟨by omega, by exact_mod_cast n.toNat_lt_size⟩, Int.toNat_natCast,
      UInt32.ofNat_toNat]
  intro room hroom
  show (Decoder.optional _ room _ >>= fun found => pure found.join) = _
  rw [reads_optional (by simp) hgiven room hroom]
  rfl

/-! ### Records -/

/-- An optional field is written when it has a value, and read as it was. -/
theorem fills_optionalMember {σ α : Type} {name : String} {opt : Bool}
    {decode : Decoder (Option α)} {get : σ → Option (Option α)} {set : σ → Option α → σ}
    {toValue : α → Value} {x : Option α} {fields : List (Decoder.Field σ)}
    {members : List (String × Value)} {filled : σ} (put : Option (Option α) → σ)
    (hput : ∀ found, put (some found) = set (put none) found) (hnone : get (put none) = none)
    (hread : ∀ a, Reads decode depth (toValue a) (some a))
    (rest : Fills depth fields members (put (x.map some)) filled) :
    Fills depth (.of name opt decode get set :: fields)
      (optionalMember name x toValue ++ members) (put none) filled := by
  cases x with
  | none => exact .absent rest
  | some a =>
    rw [Option.map_some, hput] at rest
    exact .of hnone (hread a) rest

theorem toValue_identifier_ne_null (id : Identifier) : id.toValue ≠ .null := by
  cases id <;> simp [Identifier.toValue]

theorem reads_target (target : Target) :
    Reads Target.decoder (depth + 1) target.toValue target := by
  have hfills : Fills depth Target.fields
      (optionalMember "id" target.id Identifier.toValue ++ [("name", .string target.name)]) {}
      { id := target.id.map some, name := some target.name } := by
    refine fills_optionalMember (fun id => ({ id } : Target.Draft)) (fun _ => rfl) rfl
      (fun id => reads_optional (toValue_identifier_ne_null id) (reads_identifier id)) ?_
    exact .of rfl (reads_string target.name) (.nil _)
  refine reads_record (by decide) hfills ?_
  cases target with
  | mk id name => cases id <;> rfl

theorem reads_foreignKey (key : ForeignKey) :
    Reads ForeignKey.decoder (depth + 2) key.toValue key := by
  have hfills : Fills (depth + 1) ForeignKey.fields
      [("on", key.table.toValue), ("references", key.column.toValue)] {}
      { table := some key.table, column := some key.column } :=
    .of rfl (reads_target key.table) (.of rfl (reads_target key.column) (.nil _))
  exact reads_record (by decide) hfills rfl

/-- The draft of a column whose members have been read. -/
def Column.toDraft (column : Column) : Column.Draft where
  name := some column.name
  type := some column.type
  length := column.length.map some
  nullable := some column.nullable
  unique := some column.unique
  index := some column.index
  unsigned := some column.unsigned
  autoIncrement := some column.autoIncrement
  default := column.default.map some
  comment := column.comment.map some
  foreignKey := column.foreignKey.map some

theorem join_map_some {α : Type} (x : Option α) : (x.map some).join = x := by
  cases x <;> rfl

theorem finish_toDraft (column : Column) : column.toDraft.finish = .ok column := by
  show Except.ok { column with
    length := (column.length.map some).join
    default := (column.default.map some).join
    comment := (column.comment.map some).join
    foreignKey := (column.foreignKey.map some).join } = _
  simp only [join_map_some]

theorem reads_column (column : Column) :
    Reads Column.decoder (depth + 3) column.toValue column := by
  refine reads_record (by decide) ?_ (finish_toDraft column)
  simp only [List.append_assoc, List.cons_append, List.nil_append]
  -- The four optional fields may be missing, the others are always written. The draft before
  -- an optional field has all that is written in front of it, and nothing of what follows.
  refine .of rfl (reads_string column.name) ?_
  refine .of rfl (reads_name (ofName?_name column.type)) ?_
  refine fills_optionalMember (fun length => ({
    name := some column.name, type := some column.type, length } : Column.Draft))
    (fun _ => rfl) rfl reads_length ?_
  refine .of rfl (reads_boolean column.nullable) ?_
  refine .of rfl (reads_boolean column.unique) ?_
  refine .of rfl (reads_boolean column.index) ?_
  refine .of rfl (reads_boolean column.unsigned) ?_
  refine .of rfl (reads_boolean column.autoIncrement) ?_
  refine fills_optionalMember
    (fun default => ({ column.toDraft with default, comment := none, foreignKey := none } :
      Column.Draft))
    (fun _ => rfl) rfl
    (fun value => reads_optional (toValue_default_ne_null value) (reads_default value)) ?_
  refine fills_optionalMember
    (fun comment => ({ column.toDraft with comment, foreignKey := none } : Column.Draft))
    (fun _ => rfl) rfl (fun text => reads_optional nofun (reads_string text)) ?_
  rw [← List.append_nil (optionalMember _ _ _)]
  exact fills_optionalMember
    (fun foreignKey => ({ column.toDraft with foreignKey } : Column.Draft))
    (fun _ => rfl) rfl (fun key => reads_optional nofun (reads_foreignKey key)) (.nil _)

theorem reads_table (table : Table) : Reads Table.decoder (depth + 1) table.toValue table := by
  have hfills : Fills depth Table.fields
      [("id", table.id.toValue), ("name", .string table.name),
        ("timeStamp", .boolean table.timestamps), ("softDelete", .boolean table.softDelete)] {}
      { id := some table.id, name := some table.name, timestamps := some table.timestamps,
        softDelete := some table.softDelete } :=
    .of rfl (reads_identifier table.id) <| .of rfl (reads_string table.name) <|
      .of rfl (reads_boolean table.timestamps) <| .of rfl (reads_boolean table.softDelete) <|
      .nil _
  exact reads_record (by decide) hfills rfl

theorem reads_model (model : Model) : Reads Model.decoder 6 model.toValue model := by
  have htables : Reads (Decoder.list Table.decoder) 5
      (.array (model.tables.map Table.toValue)) model.tables :=
    reads_list fun table _ => reads_table table
  have hcolumns : Reads (Decoder.map (Decoder.list Column.decoder)) 5
      (.object (model.columns.entries.map fun entry =>
        (entry.1, .array (entry.2.map Column.toValue)))) model.columns :=
    reads_map (fun columns : List Column => .array (columns.map Column.toValue)) fun _ _ =>
      reads_list fun column _ => reads_column column
  have hfills : Fills 5 Model.fields _ {}
      { tables := some model.tables, columns := some model.columns } :=
    .of rfl htables (.of rfl hcolumns (.nil _))
  exact reads_record (by decide) hfills rfl

/-! ### Numbers that can be read -/

theorem readable_word (n : Int64) : (Value.integer n.toInt).Readable := by
  have hlow : -2 ^ 63 ≤ n.toInt := Int64.le_toInt n
  have hhigh : n.toInt < 2 ^ 63 := Int64.toInt_lt n
  exact ⟨hlow, by omega⟩

theorem readable_identifier (id : Identifier) : id.toValue.Readable := by
  cases id with
  | number n => exact readable_word n
  | text s => trivial

/-- An optional field can be read when its value can. -/
theorem readable_of_mem_optionalMember {α : Type} {key : String} {x : Option α}
    {toValue : α → Value} (h : ∀ a, x = some a → (toValue a).Readable) {member : String × Value}
    (hmem : member ∈ optionalMember key x toValue) : member.2.Readable := by
  cases x with
  | none => cases hmem
  | some a =>
    obtain rfl := List.mem_singleton.1 hmem
    exact h a rfl

theorem readable_target (target : Target) : target.toValue.Readable := by
  refine Value.readableMembers_iff.2 fun member hmem => ?_
  rcases List.mem_append.1 hmem with hmem | hmem
  · exact readable_of_mem_optionalMember (fun id _ => readable_identifier id) hmem
  · obtain rfl := List.mem_singleton.1 hmem
    trivial

theorem readable_foreignKey (key : ForeignKey) : key.toValue.Readable :=
  ⟨readable_target key.table, readable_target key.column, trivial⟩

/-- The JSON text of a default is read back, if the default is a double. -/
def DefaultValue.ReadsBack : DefaultValue → Prop
  | .real x => x.ReadsBack
  | .boolean _ | .integer _ | .text _ => True

instance : (value : DefaultValue) → Decidable value.ReadsBack
  | .real x => inferInstanceAs (Decidable x.ReadsBack)
  | .boolean _ | .integer _ | .text _ => .isTrue trivial

theorem readable_default {value : DefaultValue} (h : value.ReadsBack) :
    value.toValue.Readable := by
  cases value with
  | boolean b => trivial
  | integer n => exact readable_word n
  | real x => exact h
  | text s => trivial

theorem readable_column {column : Column} (h : ∀ value ∈ column.default, value.ReadsBack) :
    column.toValue.Readable := by
  refine Value.readableMembers_iff.2 fun member hmem => ?_
  simp only [List.append_assoc, List.mem_append, List.mem_cons, List.not_mem_nil, or_false] at hmem
  -- Only the members of the optional fields and of the default have numbers in them.
  rcases hmem with (rfl | rfl) | hmem | (rfl | rfl | rfl | rfl | rfl) | hmem | hmem | hmem
  case inr.inl =>
    refine readable_of_mem_optionalMember (fun n _ => ?_) hmem
    have hsize : n.toNat < 2 ^ 32 := n.toNat_lt_size
    exact ⟨by omega, by omega⟩
  case inr.inr.inr.inl =>
    exact readable_of_mem_optionalMember
      (fun value hvalue => readable_default (h value hvalue)) hmem
  case inr.inr.inr.inr.inl =>
    refine readable_of_mem_optionalMember (fun text _ => ?_) hmem
    trivial
  case inr.inr.inr.inr.inr =>
    exact readable_of_mem_optionalMember (fun key _ => readable_foreignKey key) hmem
  all_goals trivial

theorem readable_table (table : Table) : table.toValue.Readable :=
  ⟨readable_identifier table.id, trivial, trivial, trivial, trivial⟩

/-- The JSON texts of the doubles among a model's defaults are read back. -/
def Model.DefaultsReadBack (model : Model) : Prop :=
  ∀ columns ∈ model.columns.values, ∀ column ∈ columns, ∀ value ∈ column.default, value.ReadsBack

theorem readable_model {model : Model} (h : model.DefaultsReadBack) : model.toValue.Readable := by
  refine ⟨Value.readableItems_iff.2 fun value hvalue => ?_,
    Value.readableMembers_iff.2 fun member hmember => ?_, trivial⟩
  · obtain ⟨table, -, rfl⟩ := List.mem_map.1 hvalue
    exact readable_table table
  · obtain ⟨entry, hentry, rfl⟩ := List.mem_map.1 hmember
    refine Value.readableItems_iff.2 fun value hvalue => ?_
    obtain ⟨column, hcolumn, rfl⟩ := List.mem_map.1 hvalue
    exact readable_column (h entry.2 (List.mem_map_of_mem hentry) column hcolumn)

/-! ### Saved schemas -/

/-- A text with the tokens of a written model is loaded as the model. -/
theorem ofText_of_cutInto {text : String} {model : Model}
    (h : CutInto text model.toValue.tokens) :
    Schema.ofText text = .ok { model with source := some text } := by
  have hread : decodeText Model.decoder text = .ok model := by
    rw [decodeText, Document.ofText_of_cutInto h]
    -- A model nests six levels deep, which is far from the limit.
    show (Model.decoder nestingLimit model.toValue.tree >>= fun a => pure a) = _
    rw [reads_model model nestingLimit (by decide)]
    rfl
  rw [Schema.ofText, hread]

/-- Both texts of a schema are loaded as its model, tables and groups of columns in their
order, and saved again as the same texts. -/
theorem ofText_saved (schema : Schema) (h : schema.DefaultsReadBack) :
    ∀ text ∈ [schema.toText, schema.toCompactText],
      ∃ loaded, Schema.ofText text = .ok loaded ∧
        loaded.tables = schema.tables ∧ loaded.columns = schema.columns ∧
        loaded.toText = schema.toText ∧ loaded.toCompactText = schema.toCompactText := by
  have hreadable := readable_model h
  have hcut : ∀ text ∈ [schema.toText, schema.toCompactText],
      CutInto text schema.toModel.toValue.tokens := by
    intro text htext
    rcases List.mem_pair.1 htext with rfl | rfl
    · exact cutInto_indented hreadable 0
    · exact cutInto_compact hreadable
  intro text htext
  exact ⟨_, ofText_of_cutInto (hcut text htext), rfl, rfl, rfl, rfl⟩

/-- Two tables whose columns have defaults of every kind: a fraction, a double that is
written with an exponent, and a text with a quote, a line break and a control character. -/
def pricedItems : Schema where
  tables := [
    { id := .number 1, name := "items", timestamps := true },
    { id := .text "é\n", name := "prices", softDelete := true }]
  columns := .ofList [
    ("1", [
      { name := "id", type := .bigInteger, autoIncrement := true, unsigned := true },
      { name := "weight", type := .double, default := (Binary64.ofDecimal? false 15 (-1)).map .real,
        comment := some "" },
      { name := "drift", type := .double,
        default := (Binary64.ofDecimal? true 25 (-9)).map .real },
      { name := "code", type := .string, length := some 40,
        default := some (.text "\"a\n\x01") }]),
    ("é\n", [
      { name := "item_id", type := .integer, nullable := true, index := true,
        default := some (.integer (-7)),
        foreignKey := some { table := { id := some (.number 1), name := "items" },
                             column := { id := some (.text "id"), name := "id" } } },
      { name := "", type := .boolean, unique := true, default := some (.boolean false),
        foreignKey := some {} }]),
    ("unused", [])]

theorem defaultsReadBack_pricedItems : pricedItems.DefaultsReadBack := by
  unfold Model.DefaultsReadBack
  decide

theorem ofText_saved_pricedItems : pricedItems.DefaultsReadBack ∧
    ∀ text ∈ [pricedItems.toText, pricedItems.toCompactText],
      ∃ loaded, Schema.ofText text = .ok loaded ∧
        loaded.tables = pricedItems.tables ∧ loaded.columns = pricedItems.columns ∧
        loaded.toText = pricedItems.toText ∧ loaded.toCompactText = pricedItems.toCompactText :=
  ⟨defaultsReadBack_pricedItems, ofText_saved pricedItems defaultsReadBack_pricedItems⟩

end SchemaMigration
