import Mathlib.Data.List.Pairwise
import SchemaMigration.Proofs.Json.Rearrangement

/-!
# `SchemaMigration.Proofs.Json.RecordOrder`: the members of a record in another order

What is read into one field of a record makes no difference to another one (`Field.Apart`), and a
field that has been filled is not filled again. So two members that are read one after the other
can change places (`readMember_swap`), and all of them can take any order (`recordMembers_perm`).
Members that are no field are passed over wherever they stand (`recordMembers_unknown`).

When the fields follow changes of their own values, the record follows all of these at once
(`follows_record`), as an object in any order and as an array in the order of its fields.
-/

set_option autoImplicit false

namespace SchemaMigration.Json

open SchemaMigration.Outcome

namespace Decoder

variable {α σ : Type} {decode : Decoder α} {change : Change} {room : Nat} {R : σ → σ → Prop}
  {fields : List (Field σ)} {changes : List (String × Change)}

/-! ### Members one by one -/

/-- Reads one member of a record into a draft. -/
def readMember (fields : List (Field σ)) (room : Nat) (draft : σ) :
    Option String × Tree → Except ReadError σ
  | (none, _) => .error .illFormed
  | (some key, value) =>
    match fields.find? fun field => field.name == key with
    | none => if value.complete then .ok draft else .error .illFormed
    | some field =>
      if field.filled draft then .error (.shape (.duplicateField key))
      else field.read room value draft

/-- Members are read one after the other. -/
theorem recordMembers_ofList (fields : List (Field σ)) (room : Nat)
    (l : List (Option String × Tree)) (draft : σ) :
    recordMembers fields room (.ofList l) draft = l.foldlM (readMember fields room) draft := by
  induction l generalizing draft with
  | nil => rfl
  | cons member l ih =>
    obtain ⟨key, value⟩ := member
    rw [Members.ofList, List.foldlM_cons]
    cases key with
    | none => rfl
    | some key =>
      rw [recordMembers, readMember]
      cases fields.find? fun field => field.name == key with
      | none =>
        by_cases hvalue : value.complete
        · simp only [if_pos hvalue]
          exact ih draft
        · simp only [if_neg hvalue]
          rfl
      | some field =>
        by_cases hfilled : field.filled draft
        · simp only [if_pos hfilled]
          rfl
        · simp only [if_neg hfilled, ih]

/-- What is read into the first field makes no difference to the second one. -/
structure Field.Spares (field other : Field σ) : Prop where
  filled : ∀ {room : Nat} {tree : Tree} {draft next : σ},
    field.read room tree draft = .ok next → other.filled next = other.filled draft
  swap : ∀ {room : Nat} {tree tree' : Tree} {draft next last : σ},
    field.read room tree draft = .ok next → other.read room tree' next = .ok last →
      ∃ between, other.read room tree' draft = .ok between ∧
        field.read room tree between = .ok last

/-- Two fields make no difference to each other. -/
structure Field.Apart (field other : Field σ) : Prop where
  spares : field.Spares other
  spared : other.Spares field

instance : Std.Symm (@Field.Apart σ) := ⟨fun _ _ h => ⟨h.spared, h.spares⟩⟩

/-- The field is filled by what is read into it. -/
def Field.Fills (field : Field σ) : Prop :=
  ∀ ⦃room : Nat⦄ ⦃tree : Tree⦄ ⦃draft next : σ⦄,
    field.read room tree draft = .ok next → field.filled next = true

/-- Each of the fields is filled by what is read into it, and makes no difference to the others. -/
structure Independent (fields : List (Field σ)) : Prop where
  fills : ∀ field ∈ fields, field.Fills
  apart : fields.Pairwise Field.Apart

theorem Independent.spares (h : Independent fields) {field other : Field σ}
    (hfield : field ∈ fields) (hother : other ∈ fields) (hne : field ≠ other) : field.Spares other :=
  (h.apart.forall hfield hother hne).spares

/-- A member that is read is passed over, or it fills a field that has not been filled. -/
theorem readMember_eq_ok_iff {member : Option String × Tree} {draft next : σ} :
    readMember fields room draft member = .ok next ↔
      ∃ key, member.1 = some key ∧
        ((fields.find? (fun field => field.name == key) = none ∧ member.2.complete ∧
            next = draft) ∨
          ∃ field, fields.find? (fun field => field.name == key) = some field ∧
            field.filled draft = false ∧ field.read room member.2 draft = .ok next) := by
  obtain ⟨key, value⟩ := member
  cases key with
  | none => exact ⟨nofun, fun ⟨_, hkey, _⟩ => nomatch hkey⟩
  | some key =>
    rw [readMember]
    simp only [Option.some.injEq, exists_eq_left']
    cases hfind : fields.find? fun field => field.name == key with
    | none =>
      by_cases hvalue : value.complete
      · simpa [hvalue] using eq_comm
      · simp [hvalue]
    | some field =>
      by_cases hfilled : field.filled draft
      · simp [hfilled]
      · simp [hfilled]

/-- Two members that are read one after the other can change places. -/
theorem readMember_swap (h : Independent fields) {first second : Option String × Tree}
    {draft next last : σ} (hfirst : readMember fields room draft first = .ok next)
    (hsecond : readMember fields room next second = .ok last) :
    ∃ between, readMember fields room draft second = .ok between ∧
      readMember fields room between first = .ok last := by
  obtain ⟨key, hkey, hread⟩ := readMember_eq_ok_iff.1 hfirst
  obtain ⟨key', hkey', hread'⟩ := readMember_eq_ok_iff.1 hsecond
  rcases hread with ⟨hunknown, hcomplete, rfl⟩ | ⟨field, hfind, hempty, hvalue⟩
  · exact ⟨last, hsecond, readMember_eq_ok_iff.2 ⟨key, hkey, .inl ⟨hunknown, hcomplete, rfl⟩⟩⟩
  rcases hread' with ⟨hunknown, hcomplete, rfl⟩ | ⟨other, hfind', hempty', hvalue'⟩
  · exact ⟨draft, readMember_eq_ok_iff.2 ⟨key', hkey', .inl ⟨hunknown, hcomplete, rfl⟩⟩, hfirst⟩
  have hfield := List.mem_of_find?_eq_some hfind
  have hother := List.mem_of_find?_eq_some hfind'
  have hne : field ≠ other := by
    rintro rfl
    rw [h.fills field hfield hvalue] at hempty'
    cases hempty'
  -- The second field was as empty before the first one was read, and the other way round.
  obtain ⟨between, hbetween, hlast⟩ := (h.spares hfield hother hne).swap hvalue hvalue'
  rw [(h.spares hfield hother hne).filled hvalue] at hempty'
  rw [← (h.spares hother hfield hne.symm).filled hbetween] at hempty
  exact ⟨between, readMember_eq_ok_iff.2 ⟨key', hkey', .inr ⟨other, hfind', hempty', hbetween⟩⟩,
    readMember_eq_ok_iff.2 ⟨key, hkey, .inr ⟨field, hfind, hempty, hlast⟩⟩⟩

/-- Members that are read can be read in any order. -/
theorem recordMembers_perm (h : Independent fields) {l l' : List (Option String × Tree)}
    (hperm : l.Perm l') {draft filled : σ}
    (hread : recordMembers fields room (.ofList l) draft = .ok filled) :
    recordMembers fields room (.ofList l') draft = .ok filled := by
  rw [recordMembers_ofList] at hread ⊢
  -- A permutation is made of swaps of two neighbours, and a swap leaves the draft behind both.
  induction hperm generalizing draft with
  | nil => exact hread
  | cons member _ ih =>
    rw [List.foldlM_cons] at hread ⊢
    obtain ⟨next, hfirst, hrest⟩ := bind_eq_ok_iff.1 hread
    rw [hfirst, ok_bind]
    exact ih hrest
  | swap first second l =>
    rw [List.foldlM_cons] at hread
    obtain ⟨next, hsecond, hrest⟩ := bind_eq_ok_iff.1 hread
    rw [List.foldlM_cons] at hrest
    obtain ⟨last, hfirst, hothers⟩ := bind_eq_ok_iff.1 hrest
    obtain ⟨between, hfirst', hsecond'⟩ := readMember_swap h hsecond hfirst
    rw [List.foldlM_cons, hfirst', ok_bind, List.foldlM_cons, hsecond', ok_bind]
    exact hothers
  | trans _ _ ih ih' => exact ih' (ih hread)

/-- Members under unknown keys are passed over. -/
theorem recordMembers_unknown {l : List (Option String × Tree)}
    (h : ∀ member ∈ l, ∃ key, member.1 = some key ∧
      fields.find? (fun field => field.name == key) = none ∧ member.2.complete) (draft : σ) :
    recordMembers fields room (.ofList l) draft = .ok draft := by
  rw [recordMembers_ofList]
  induction l with
  | nil => rfl
  | cons member l ih =>
    rw [List.forall_mem_cons] at h
    obtain ⟨⟨key, hkey, hfind, hcomplete⟩, hothers⟩ := h
    have hmember : readMember fields room draft member = .ok draft :=
      readMember_eq_ok_iff.2 ⟨key, hkey, .inl ⟨hfind, hcomplete, rfl⟩⟩
    rw [List.foldlM_cons, hmember, ok_bind]
    exact ih hothers

/-! ### Changed values -/

/-- What is read into the field stays related when the tree changes and the draft is another that
is related to it. -/
structure Field.Follows (field : Field σ) (R : σ → σ → Prop) (change : Change) : Prop where
  filled : ∀ {draft draft' : σ}, R draft draft' → field.filled draft' = field.filled draft
  read : ∀ {room : Nat} {tree tree' : Tree} {draft draft' next : σ}, change tree tree' →
    R draft draft' → field.read room tree draft = .ok next →
      ∃ next', field.read room tree' draft' = .ok next' ∧ R next next'

/-- The fields follow their changes, each its own. -/
def FieldsFollow (fields : List (Field σ)) (R : σ → σ → Prop) (changes : List (String × Change)) :
    Prop :=
  List.Forall₂ (fun field change => field.name = change.1 ∧ field.Follows R change.2) fields changes

/-- A field is found together with its change. -/
theorem FieldsFollow.find (h : FieldsFollow fields R changes) (key : String) :
    (fields.find? (fun field => field.name == key) = none ∧ changes.lookup key = none) ∨
      ∃ field change, fields.find? (fun field => field.name == key) = some field ∧
        changes.lookup key = some change ∧ field.Follows R change := by
  induction h with
  | nil => exact .inl ⟨rfl, rfl⟩
  | @cons field change fields changes hfirst _ ih =>
    obtain ⟨name, change⟩ := change
    obtain ⟨rfl, hfollows⟩ := hfirst
    by_cases hkey : field.name = key
    · exact .inr ⟨field, change, by simp [hkey], by simp [hkey], hfollows⟩
    · have hlookup : ((field.name, change) :: changes).lookup key = changes.lookup key := by
        rw [List.lookup_cons, beq_false_of_ne (Ne.symm hkey)]
      rw [List.find?_cons_of_neg (by simpa using hkey), hlookup]
      exact ih

/-- A member under an unknown key is that of no field. -/
theorem FieldsFollow.unknown (h : FieldsFollow fields R changes) {member : Option String × Tree}
    (hmember : Change.Unknown changes member) : ∃ key, member.1 = some key ∧
      fields.find? (fun field => field.name == key) = none ∧ member.2.complete := by
  obtain ⟨key, hkey, hlookup, hcomplete⟩ := hmember
  refine ⟨key, hkey, ?_, hcomplete⟩
  rcases h.find key with ⟨hfind, -⟩ | ⟨_, change, -, hlookup', -⟩
  · exact hfind
  · rw [hlookup] at hlookup'
    cases hlookup'

/-- A member whose value has changed is read into a related draft. -/
theorem readMember_of_change (h : FieldsFollow fields R changes)
    {member member' : Option String × Tree} {draft draft' next : σ}
    (hkey : member'.1 = member.1) (hchange : Change.under changes member.1 member.2 member'.2)
    (hdraft : R draft draft') (hread : readMember fields room draft member = .ok next) :
    ∃ next', readMember fields room draft' member' = .ok next' ∧ R next next' := by
  obtain ⟨key, hname, hcases⟩ := readMember_eq_ok_iff.1 hread
  rw [hname, Change.under, Option.bind_some] at hchange
  -- A key has a field and a change, or it has neither and its value stays as it is.
  rcases h.find key with ⟨hfind, hlookup⟩ | ⟨field, change, hfind, hlookup, hfollows⟩
  · rw [hlookup] at hchange
    obtain ⟨-, hcomplete, rfl⟩ | ⟨field, hfind', -⟩ := hcases
    · have hsame : member.2 = member'.2 := hchange
      rw [hsame] at hcomplete
      exact ⟨draft', readMember_eq_ok_iff.2
        ⟨key, hkey.trans hname, .inl ⟨hfind, hcomplete, rfl⟩⟩, hdraft⟩
    · rw [hfind] at hfind'
      cases hfind'
  · rw [hlookup] at hchange
    obtain ⟨hfind', -⟩ | ⟨found, hfind', hempty, hvalue⟩ := hcases
    · rw [hfind] at hfind'
      cases hfind'
    · obtain rfl := Option.some.inj (hfind.symm.trans hfind')
      obtain ⟨next', hvalue', hnext⟩ := hfollows.read hchange hdraft hvalue
      rw [← hfollows.filled hdraft] at hempty
      exact ⟨next', readMember_eq_ok_iff.2
        ⟨key, hkey.trans hname, .inr ⟨field, hfind, hempty, hvalue'⟩⟩, hnext⟩

/-- Members whose values have changed are read into a related draft. -/
theorem recordMembers_of_change (h : FieldsFollow fields R changes)
    {l l' : List (Option String × Tree)}
    (hchange : List.Forall₂ (fun member member' => member'.1 = member.1 ∧
      Change.under changes member.1 member.2 member'.2) l l')
    {draft draft' filled : σ} (hdraft : R draft draft')
    (hread : recordMembers fields room (.ofList l) draft = .ok filled) :
    ∃ filled', recordMembers fields room (.ofList l') draft' = .ok filled' ∧ R filled filled' := by
  simp only [recordMembers_ofList] at hread ⊢
  induction hchange generalizing draft draft' with
  | nil =>
    obtain rfl := Except.ok.inj hread
    exact ⟨draft', rfl, hdraft⟩
  | cons hfirst _ ih =>
    rw [List.foldlM_cons] at hread
    obtain ⟨next, hmember, hrest⟩ := bind_eq_ok_iff.1 hread
    obtain ⟨next', hmember', hnext⟩ := readMember_of_change h hfirst.1 hfirst.2 hdraft hmember
    rw [List.foldlM_cons, hmember', ok_bind]
    exact ih hnext hrest

/-- Items whose values have changed are read into a related draft. -/
theorem recordItems_of_change {expected : String} (h : FieldsFollow fields R changes)
    {l l' : List Tree} (hchange : Change.InOrder changes l l') {index : Nat}
    {draft draft' filled : σ} (hdraft : R draft draft')
    (hread : recordItems expected room fields index (.ofList l) draft = .ok filled) :
    ∃ filled', recordItems expected room fields index (.ofList l') draft' = .ok filled' ∧
      R filled filled' := by
  -- Fields, changes and items are gone through together, each at its position.
  induction h generalizing l l' index draft draft' with
  | nil =>
    cases hchange with
    | nil =>
      obtain rfl := Except.ok.inj hread
      exact ⟨draft', rfl, hdraft⟩
  | @cons field change fields changes hfirst _ ih =>
    cases hchange with
    | nil =>
      rw [Items.ofList, recordItems] at hread ⊢
      by_cases hoptional : field.optional
      · rw [if_pos hoptional] at hread ⊢
        exact ih .nil hdraft hread
      · rw [if_neg hoptional] at hread
        cases hread
    | cons hitem hothers =>
      obtain ⟨next, hvalue, hrest⟩ := bind_eq_ok_iff.1 hread
      obtain ⟨next', hvalue', hnext⟩ := hfirst.2.read hitem hdraft hvalue
      rw [Items.ofList, recordItems, hvalue', ok_bind]
      exact ih hothers hnext hrest

/-- A record is read as something related when its values change, its members take another order
and others come beside them. -/
theorem follows_record {title : String} {empty : σ} {finish : σ → Except ShapeError α}
    {r : α → α → Prop} (hfields : Independent fields) (h : FieldsFollow fields R changes)
    (hempty : R empty empty)
    (hfinish : ∀ {draft draft' : σ} {a : α}, R draft draft' → finish draft = .ok a →
      ∃ a', finish draft' = .ok a' ∧ r a a') :
    Follows (record title fields empty finish) r (.record changes) := by
  intro room tree tree' a hchange hread
  cases room with
  | zero => cases hchange <;> cases hread
  | succ room =>
    cases hchange with
    | @members l changed added l' hchanged hadded hperm =>
      obtain ⟨filled, hmembers, hend⟩ := bind_eq_ok_iff.1 hread
      obtain ⟨filled', hmembers', hfilled⟩ := recordMembers_of_change h hchanged hempty hmembers
      obtain ⟨a', hend', ha⟩ := hfinish hfilled (mapError_eq_ok_iff.1 hend)
      -- The members that are new are passed over behind the others, and then all are reordered.
      have hall : recordMembers fields room (.ofList (changed ++ added)) empty = .ok filled' := by
        rw [recordMembers_ofList] at hmembers'
        rw [recordMembers_ofList, List.foldlM_append, hmembers', ok_bind, ← recordMembers_ofList]
        exact recordMembers_unknown (fun member hmember => h.unknown (hadded member hmember)) _
      refine ⟨a', ?_, ha⟩
      rw [record, recordMembers_perm hfields hperm.symm hall, ok_bind, hend']
      rfl
    | items hitems =>
      obtain ⟨filled, hmembers, hend⟩ := bind_eq_ok_iff.1 hread
      obtain ⟨filled', hitems', hfilled⟩ := recordItems_of_change h hitems hempty hmembers
      obtain ⟨a', hend', ha⟩ := hfinish hfilled (mapError_eq_ok_iff.1 hend)
      refine ⟨a', ?_, ha⟩
      rw [record, hitems', ok_bind, hend']
      rfl

/-- A record whose drafts are the same is read as the same. -/
theorem follows_record_same {title : String} {empty : σ} {finish : σ → Except ShapeError α}
    (hfields : Independent fields) (h : FieldsFollow fields Eq changes) :
    Follows (record title fields empty finish) Eq (.record changes) := by
  refine follows_record hfields h rfl ?_
  rintro draft _ a rfl hfinish
  exact ⟨a, hfinish, rfl⟩

/-! ### Fields that are kept in a draft -/

namespace Field

variable {β : Type} {name name' : String} {opt opt' : Bool} {decode' : Decoder β}
  {get : σ → Option α} {set : σ → α → σ} {get' : σ → Option β} {set' : σ → β → σ}

theorem follows_of (h : Decoder.Follows decode Eq change) :
    (Field.of name opt decode get set).Follows Eq change where
  filled := by
    rintro draft _ rfl
    rfl
  read := by
    rintro room tree tree' draft _ next hchange rfl hread
    obtain ⟨a, hvalue, hnext⟩ := bind_eq_ok_iff.1 hread
    obtain ⟨_, hvalue', rfl⟩ := h hchange hvalue
    exact ⟨next, bind_eq_ok_iff.2 ⟨a, hvalue', hnext⟩, rfl⟩

theorem fills_of (hget : ∀ draft a, get (set draft a) = some a) :
    (Field.of name opt decode get set).Fills := by
  intro room tree draft next hread
  obtain ⟨a, -, hnext⟩ := bind_eq_ok_iff.1 hread
  obtain rfl := Except.ok.inj hnext
  show (get (set draft a)).isSome = true
  rw [hget]
  rfl

theorem spares_of (hget : ∀ draft a, get' (set draft a) = get' draft)
    (hset : ∀ draft a b, set' (set draft a) b = set (set' draft b) a) :
    (Field.of name opt decode get set).Spares (Field.of name' opt' decode' get' set') where
  filled := by
    intro room tree draft next hread
    obtain ⟨a, -, hnext⟩ := bind_eq_ok_iff.1 hread
    obtain rfl := Except.ok.inj hnext
    exact congrArg Option.isSome (hget draft a)
  swap := by
    intro room tree tree' draft next last hread hread'
    obtain ⟨a, hvalue, hnext⟩ := bind_eq_ok_iff.1 hread
    obtain rfl := Except.ok.inj hnext
    obtain ⟨b, hvalue', hlast⟩ := bind_eq_ok_iff.1 hread'
    obtain rfl := Except.ok.inj hlast
    exact ⟨set' draft b, bind_eq_ok_iff.2 ⟨b, hvalue', rfl⟩,
      bind_eq_ok_iff.2 ⟨a, hvalue, congrArg Except.ok (hset draft a b).symm⟩⟩

/-- Fields that are kept in different places are apart. -/
theorem apart_of (hget : ∀ draft a, get' (set draft a) = get' draft)
    (hget' : ∀ draft b, get (set' draft b) = get draft)
    (hset : ∀ draft a b, set' (set draft a) b = set (set' draft b) a) :
    (Field.of name opt decode get set).Apart (Field.of name' opt' decode' get' set') :=
  ⟨spares_of hget hset, spares_of hget' fun draft b a => (hset draft a b).symm⟩

end Field

theorem required_eq_ok_iff {name : String} {found : Option α} {a : α} :
    required name found = .ok a ↔ found = some a := by
  cases found with
  | none => exact ⟨nofun, nofun⟩
  | some b =>
    exact ⟨fun h => congrArg some (Except.ok.inj h), fun h => congrArg _ (Option.some.inj h)⟩

/-- A field whose value does not change follows. -/
theorem FieldsFollow.same {name : String} {opt : Bool} {get : σ → Option α} {set : σ → α → σ}
    (rest : FieldsFollow fields Eq changes) :
    FieldsFollow (.of name opt decode get set :: fields) Eq ((name, .same) :: changes) :=
  .cons ⟨rfl, Field.follows_of (follows_same decode)⟩ rest

/-- A field whose value is followed follows. -/
theorem FieldsFollow.of {name : String} {opt : Bool} {get : σ → Option α} {set : σ → α → σ}
    (h : Follows decode Eq change) (rest : FieldsFollow fields Eq changes) :
    FieldsFollow (.of name opt decode get set :: fields) Eq ((name, change) :: changes) :=
  .cons ⟨rfl, Field.follows_of h⟩ rest

end Decoder

end SchemaMigration.Json
