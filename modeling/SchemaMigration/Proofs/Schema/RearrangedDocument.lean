import SchemaMigration.Proofs.Json.CompleteReading
import SchemaMigration.Proofs.Json.RecordOrder
import SchemaMigration.Proofs.Json.TreeTokens
import SchemaMigration.Schema.Document

/-!
# `SchemaMigration.Proofs.Schema.RearrangedDocument`: documents of one schema

The members of a target, a foreign key, a column, a table and of the document itself may take any
order, and may have others beside them that the model knows nothing of. The groups of columns may
take any order as well, when their keys are distinct (`Model.rearranged`).

No part of a model depends on this but the order of the groups (`follows_model`). A document that
has been rearranged is loaded as the same tables and the same groups (`ofText_rearranged`).
-/

set_option autoImplicit false

namespace SchemaMigration

open SchemaMigration.Json SchemaMigration.Json.Decoder
open SchemaMigration.Outcome

/-! ### The parts of a document -/

/-- The members of a target in any order. -/
def Target.rearranged : Change :=
  .record [("id", .same), ("name", .same)]

/-- The members of a foreign key in any order, and those of its targets. -/
def ForeignKey.rearranged : Change :=
  .record [("on", Target.rearranged), ("references", Target.rearranged)]

/-- The members of a column in any order, and those of its foreign key. -/
def Column.rearranged : Change :=
  .record [("name", .same), ("type", .same), ("length", .same), ("nullable", .same),
    ("unique", .same), ("index", .same), ("unsigned", .same), ("autoInc", .same),
    ("defValue", .same), ("comment", .same), ("foreignKey", .optional ForeignKey.rearranged)]

/-- The members of a table in any order. -/
def Table.rearranged : Change :=
  .record [("id", .same), ("name", .same), ("timeStamp", .same), ("softDelete", .same)]

/-- The members of a document in any order, those of its parts, and the groups of columns. -/
def Model.rearranged : Change :=
  .record [("tables", .list Table.rearranged), ("columns", .groups (.list Column.rearranged))]

/-! ### Fields of records -/

theorem independent_target : Independent Target.fields where
  fills := by
    simp only [Target.fields, List.forall_mem_cons, List.not_mem_nil, false_implies, implies_true,
      and_true]
    and_intros
    all_goals exact Field.fills_of fun _ _ => rfl
  apart := by
    simp only [Target.fields, List.pairwise_cons, List.forall_mem_cons, List.not_mem_nil,
      false_implies, implies_true, List.Pairwise.nil, and_true]
    exact Field.apart_of (fun _ _ => rfl) (fun _ _ => rfl) fun _ _ _ => rfl

theorem independent_foreignKey : Independent ForeignKey.fields where
  fills := by
    simp only [ForeignKey.fields, List.forall_mem_cons, List.not_mem_nil, false_implies,
      implies_true, and_true]
    and_intros
    all_goals exact Field.fills_of fun _ _ => rfl
  apart := by
    simp only [ForeignKey.fields, List.pairwise_cons, List.forall_mem_cons, List.not_mem_nil,
      false_implies, implies_true, List.Pairwise.nil, and_true]
    exact Field.apart_of (fun _ _ => rfl) (fun _ _ => rfl) fun _ _ _ => rfl

theorem independent_column : Independent Column.fields where
  fills := by
    simp only [Column.fields, List.forall_mem_cons, List.not_mem_nil, false_implies, implies_true,
      and_true]
    and_intros
    all_goals exact Field.fills_of fun _ _ => rfl
  apart := by
    simp only [Column.fields, List.pairwise_cons, List.forall_mem_cons, List.not_mem_nil,
      false_implies, implies_true, List.Pairwise.nil, and_true]
    and_intros
    all_goals exact Field.apart_of (fun _ _ => rfl) (fun _ _ => rfl) fun _ _ _ => rfl

theorem independent_table : Independent Table.fields where
  fills := by
    simp only [Table.fields, List.forall_mem_cons, List.not_mem_nil, false_implies, implies_true,
      and_true]
    and_intros
    all_goals exact Field.fills_of fun _ _ => rfl
  apart := by
    simp only [Table.fields, List.pairwise_cons, List.forall_mem_cons, List.not_mem_nil,
      false_implies, implies_true, List.Pairwise.nil, and_true]
    and_intros
    all_goals exact Field.apart_of (fun _ _ => rfl) (fun _ _ => rfl) fun _ _ _ => rfl

theorem independent_model : Independent Model.fields where
  fills := by
    simp only [Model.fields, List.forall_mem_cons, List.not_mem_nil, false_implies, implies_true,
      and_true]
    and_intros
    all_goals exact Field.fills_of fun _ _ => rfl
  apart := by
    simp only [Model.fields, List.pairwise_cons, List.forall_mem_cons, List.not_mem_nil,
      false_implies, implies_true, List.Pairwise.nil, and_true]
    exact Field.apart_of (fun _ _ => rfl) (fun _ _ => rfl) fun _ _ _ => rfl

/-! ### Rearranged parts are read as the same -/

theorem follows_target : Follows Target.decoder Eq Target.rearranged :=
  follows_record_same independent_target (.same (.same .nil))

theorem follows_foreignKey : Follows ForeignKey.decoder Eq ForeignKey.rearranged :=
  follows_record_same independent_foreignKey (.of follows_target (.of follows_target .nil))

theorem follows_column : Follows Column.decoder Eq Column.rearranged := by
  have hkey : Follows (Decoder.optional ForeignKey.decoder) Eq
      (.optional ForeignKey.rearranged) :=
    follows_optional (fun _ _ => Change.record.ne_null) follows_foreignKey
  exact follows_record_same independent_column <|
    .same <| .same <| .same <| .same <| .same <| .same <| .same <| .same <| .same <| .same <|
      .of hkey .nil

theorem follows_table : Follows Table.decoder Eq Table.rearranged :=
  follows_record_same independent_table (.same (.same (.same (.same .nil))))

/-! ### Rearranged documents -/

/-- The same tables, and the same groups of columns in some order. -/
structure Model.Reordered (model other : Model) : Prop where
  tables : other.tables = model.tables
  groups : other.columns.entries.Perm model.columns.entries

/-- Drafts of models that are the same but for the order of the groups. -/
structure Model.Draft.Reordered (draft other : Model.Draft) : Prop where
  tables : other.tables = draft.tables
  groups : Option.Rel (fun m m' => m'.entries.Perm m.entries) draft.columns other.columns

theorem follows_tables : Field.Follows
    (.of "tables" false (Decoder.list Table.decoder) (·.tables)
      fun (d : Model.Draft) v => { d with tables := some v })
    Model.Draft.Reordered (.list Table.rearranged) where
  filled := fun h => congrArg Option.isSome h.tables
  read := by
    intro room tree tree' draft draft' next hchange hdraft hread
    obtain ⟨tables, hvalue, hnext⟩ := bind_eq_ok_iff.1 hread
    obtain rfl := Except.ok.inj hnext
    obtain ⟨_, hvalue', rfl⟩ := follows_list follows_table hchange hvalue
    exact ⟨_, bind_eq_ok_iff.2 ⟨tables, hvalue', rfl⟩, rfl, hdraft.groups⟩

theorem follows_columns : Field.Follows
    (.of "columns" false (Decoder.map (Decoder.list Column.decoder)) (·.columns)
      fun (d : Model.Draft) v => { d with columns := some v })
    Model.Draft.Reordered (.groups (.list Column.rearranged)) where
  filled := by
    rintro ⟨_, columns⟩ ⟨_, columns'⟩ ⟨-, hgroups⟩
    dsimp only at hgroups
    cases hgroups with
    | none | some => rfl
  read := by
    intro room tree tree' draft draft' next hchange hdraft hread
    obtain ⟨columns, hvalue, hnext⟩ := bind_eq_ok_iff.1 hread
    obtain rfl := Except.ok.inj hnext
    obtain ⟨columns', hvalue', hsame⟩ :=
      follows_groups (follows_list follows_column) hchange hvalue
    exact ⟨_, bind_eq_ok_iff.2 ⟨columns', hvalue', rfl⟩, hdraft.tables, .some hsame⟩

/-- A rearranged document is read as the same tables and the same groups. -/
theorem follows_model : Follows Model.decoder Model.Reordered Model.rearranged := by
  refine follows_record independent_model
    (.cons ⟨rfl, follows_tables⟩ (.cons ⟨rfl, follows_columns⟩ .nil)) ⟨rfl, .none⟩ ?_
  intro draft draft' model hdraft hfinish
  obtain ⟨tables, htables, hrest⟩ := bind_eq_ok_iff.1 hfinish
  obtain ⟨columns, hcolumns, hmodel⟩ := bind_eq_ok_iff.1 hrest
  obtain rfl := Except.ok.inj hmodel
  rw [required_eq_ok_iff] at htables hcolumns
  obtain ⟨htables', hgroups⟩ := hdraft
  rw [hcolumns] at hgroups
  -- The groups of both drafts are there or missing together.
  cases hother : draft'.columns with
  | none =>
    rw [hother] at hgroups
    cases hgroups
  | some columns' =>
    rw [hother] at hgroups
    cases hgroups with
    | some hsame =>
      refine ⟨{ tables, columns := columns' }, ?_, rfl, hsame⟩
      rw [Model.Draft.finish, htables', htables, hother]
      rfl

/-! ### Documents that are loaded -/

theorem readsComplete_target : ReadsComplete Target.decoder := by
  refine readsComplete_record ?_
  simp only [Target.fields, List.forall_mem_cons, List.not_mem_nil, false_implies, implies_true,
    and_true]
  exact ⟨Field.readsComplete_of (readsComplete_optional (readsComplete_whole _)),
    Field.readsComplete_of readsComplete_string⟩

theorem readsComplete_foreignKey : ReadsComplete ForeignKey.decoder := by
  refine readsComplete_record ?_
  simp only [ForeignKey.fields, List.forall_mem_cons, List.not_mem_nil, false_implies,
    implies_true, and_true]
  exact ⟨Field.readsComplete_of readsComplete_target, Field.readsComplete_of readsComplete_target⟩

theorem readsComplete_length : ReadsComplete Column.lengthDecoder := by
  intro room tree length hread
  obtain ⟨found, hfound, -⟩ := bind_eq_ok_iff.1 hread
  exact readsComplete_optional (readsComplete_whole _) hfound

theorem readsComplete_column : ReadsComplete Column.decoder := by
  refine readsComplete_record ?_
  simp only [Column.fields, List.forall_mem_cons, List.not_mem_nil, false_implies, implies_true,
    and_true]
  have hboolean {name : String} {get : Column.Draft → Option Bool}
      {set : Column.Draft → Bool → Column.Draft} :
      (Field.of name true Decoder.boolean get set).ReadsComplete :=
    Field.readsComplete_of readsComplete_boolean
  exact ⟨Field.readsComplete_of readsComplete_string,
    Field.readsComplete_of (readsComplete_name _ _), Field.readsComplete_of readsComplete_length,
    hboolean, hboolean, hboolean, hboolean, hboolean,
    Field.readsComplete_of (readsComplete_optional (readsComplete_whole _)),
    Field.readsComplete_of (readsComplete_optional readsComplete_string),
    Field.readsComplete_of (readsComplete_optional readsComplete_foreignKey)⟩

theorem readsComplete_table : ReadsComplete Table.decoder := by
  refine readsComplete_record ?_
  simp only [Table.fields, List.forall_mem_cons, List.not_mem_nil, false_implies, implies_true,
    and_true]
  exact ⟨Field.readsComplete_of (readsComplete_whole _),
    Field.readsComplete_of readsComplete_string, Field.readsComplete_of readsComplete_boolean,
    Field.readsComplete_of readsComplete_boolean⟩

theorem readsComplete_model : ReadsComplete Model.decoder := by
  refine readsComplete_record ?_
  simp only [Model.fields, List.forall_mem_cons, List.not_mem_nil, false_implies, implies_true,
    and_true]
  exact ⟨Field.readsComplete_of (readsComplete_list readsComplete_table),
    Field.readsComplete_of (readsComplete_map (readsComplete_list readsComplete_column))⟩

/-- A text is loaded when it holds a tree that is read as a model. -/
theorem ofText_eq_ok_iff {text : String} {schema : Schema} :
    Schema.ofText text = .ok schema ↔
      schema.source = some text ∧ ∃ root, Holds text root ∧
        Model.decoder nestingLimit root = .ok schema.toModel := by
  -- What is decoded is complete, so the text holds it and has nothing behind it.
  have hread {model : Model} : decodeText Model.decoder text = .ok model ↔
      ∃ root, Holds text root ∧ Model.decoder nestingLimit root = .ok model := by
    rw [decodeText, bind_eq_ok_iff]
    constructor
    · rintro ⟨found, hdecode, hend⟩
      split at hend
      · cases hend
      · next htrailing =>
        obtain rfl := Except.ok.inj hend
        refine ⟨_, Document.ofText_eq_iff.1 ⟨?_, readsComplete_model hdecode⟩, hdecode⟩
        cases hdocument : Document.ofText text
        rw [hdocument] at htrailing
        simpa using htrailing
    · rintro ⟨root, hholds, hdecode⟩
      have hdocument := (Document.ofText_eq_iff.2 hholds).1
      rw [hdocument]
      exact ⟨model, hdecode, rfl⟩
  unfold Schema.ofText
  cases hmodel : decodeText Model.decoder text with
  | error error =>
    refine iff_of_false nofun ?_
    rintro ⟨-, hsome⟩
    rw [hread.2 hsome] at hmodel
    cases hmodel
  | ok model =>
    constructor
    · intro h
      obtain rfl := Except.ok.inj h
      exact ⟨rfl, hread.1 hmodel⟩
    · rintro ⟨hsource, hsome⟩
      obtain rfl := Except.ok.inj (hmodel.symm.trans (hread.2 hsome))
      rw [← hsource]

/-- A document that is loaded holds a tree. A document that holds this tree rearranged is loaded as
the same tables and the same groups. -/
theorem ofText_rearranged {text : String} {schema : Schema} (h : Schema.ofText text = .ok schema) :
    ∃ root, Holds text root ∧ ∀ root' text', Model.rearranged root root' → Holds text' root' →
      ∃ schema', Schema.ofText text' = .ok schema' ∧
        schema.toModel.Reordered schema'.toModel := by
  obtain ⟨-, root, hroot, hdecode⟩ := ofText_eq_ok_iff.1 h
  refine ⟨root, hroot, fun root' text' hchange hroot' => ?_⟩
  obtain ⟨model, hmodel, hsame⟩ := follows_model hchange hdecode
  exact ⟨{ model with source := some text' },
    ofText_eq_ok_iff.2 ⟨rfl, root', hroot', hmodel⟩, hsame⟩

end SchemaMigration
