import SchemaMigration.Json.Decode

/-!
# `SchemaMigration.Proofs.Json.TreeTokens`: the texts that hold a tree

A complete tree has tokens: those of its values, between brackets and with commas between them
(`Tree.tokens`). The machine makes a complete tree of the tokens of that tree and of no others, so
a text holds the tree whose tokens it is cut into (`Document.ofText_eq_iff`).

One direction goes through the tree: the machine that reads the tokens of a value puts the value
where it belongs (`run_tokens`). The other one goes through the tokens. In every state the machine
has read the tokens that the state stands for (`Builder.tokens`), and each token that it reads is
added to them (`stands_step`). A machine that stops on the way leaves a tree that is not complete.
-/

set_option autoImplicit false

namespace SchemaMigration.Json

/-! ### The tokens of a tree -/

mutual

/-- The tokens of a complete value. -/
def Tree.tokens : Tree → List Token
  | .broken => []
  | .null => [.null]
  | .boolean b => [.boolean b]
  | .number n => [.number n]
  | .string text => [.string text]
  | .array items => .openArray :: ([Token.comma].intercalate items.tokens ++ [.closeArray])
  | .object members => .openObject :: ([Token.comma].intercalate members.tokens ++ [.closeObject])

/-- The tokens of complete items, item by item. -/
def Items.tokens : Items → List (List Token)
  | .closed | .broken => []
  | .cons item rest => item.tokens :: rest.tokens

/-- The tokens of complete members, member by member. -/
def Members.tokens : Members → List (List Token)
  | .closed | .broken => []
  | .cons key value rest => (.string key :: .colon :: value.tokens) :: rest.tokens

end

/-- The tokens of one member. -/
def memberTokens (member : Option String × Tree) : List Token :=
  .string member.1 :: .colon :: member.2.tokens

theorem Items.tokens_prepend (before : List Tree) (items : Items) :
    (Items.prepend before items).tokens = before.reverse.map Tree.tokens ++ items.tokens := by
  induction before generalizing items with
  | nil => rfl
  | cons item before ih =>
    rw [Items.prepend, List.foldl_cons, ← Items.prepend, ih, Items.tokens]
    simp

theorem Members.tokens_prepend (before : List (Option String × Tree)) (members : Members) :
    (Members.prepend before members).tokens =
      before.reverse.map memberTokens ++ members.tokens := by
  induction before generalizing members with
  | nil => rfl
  | cons member before ih =>
    rw [Members.prepend, List.foldl_cons, ← Members.prepend, ih, Members.tokens]
    simp [memberTokens]

/-- A text holds a complete tree when it is cut into the tokens of the tree. -/
def Holds (text : String) (root : Tree) : Prop :=
  root.complete ∧ tokens text.toList = root.tokens

/-! ### Entries and commas -/

/-- Entries with commas between them, the first one apart. -/
theorem intercalate_comma_cons (first : List Token) (others : List (List Token)) :
    List.intercalate [.comma] (first :: others) = first ++ others.flatMap (.comma :: ·) := by
  induction others generalizing first with
  | nil => simp
  | cons next others ih =>
    rw [List.intercalate_cons_cons, ih, List.flatMap_cons]
    simp

/-- Entries with commas between them, the last one apart. -/
theorem intercalate_comma_concat (others : List (List Token)) (last : List Token) :
    List.intercalate [.comma] (others ++ [last]) = others.flatMap (· ++ [.comma]) ++ last := by
  induction others with
  | nil => simp
  | cons first others ih =>
    rw [List.flatMap_cons, List.append_assoc, ← ih]
    cases others with
    | nil => simp
    | cons => rw [List.cons_append, List.cons_append, List.intercalate_cons_cons]

/-- Entries, of which there is one at least, with a comma behind each. -/
theorem flatMap_comma_eq {entries : List (List Token)} (h : entries ≠ []) :
    entries.flatMap (· ++ [.comma]) = List.intercalate [.comma] entries ++ [.comma] := by
  obtain ⟨others, last, rfl⟩ := (List.eq_nil_or_concat entries).resolve_left h
  rw [List.concat_eq_append]
  rw [intercalate_comma_concat, List.flatMap_append]
  simp

namespace Document

/-! ### The machine on the tokens of a tree -/

/-- What the machine makes of the tokens behind a complete value. -/
def afterValue (value : Tree) (rest : List Token) : List Frame → Document
  | [] => ⟨value, !rest.isEmpty⟩
  | .array before :: frames => run ⟨.afterItem (value :: before), frames⟩ rest
  | .object before key :: frames => run ⟨.afterMember ((key, value) :: before), frames⟩ rest

variable {rest : List Token} {frames : List Frame}

/-- A token that completes a value. -/
theorem run_cons_of_deliver {state : Builder} {token : Token} {value : Tree}
    (h : state.step token = Builder.deliver value frames) :
    run state (token :: rest) = afterValue value rest frames := by
  rw [run, h]
  -- The innermost frame that is open says what the value is part of.
  cases frames with
  | nil => rfl
  | cons frame frames => cases frame <;> rfl

/-- The first item of an array is read like any other. -/
theorem run_item {value : Tree} (h : value.complete) :
    run ⟨.item, frames⟩ (value.tokens ++ rest) =
      run ⟨.value, .array [] :: frames⟩ (value.tokens ++ rest) := by
  cases value with
  | broken => cases h
  | null | boolean | number | string | array | object => rfl

mutual

/-- The tokens of a complete value are read as the value. -/
theorem run_tokens : ∀ {value : Tree}, value.complete → ∀ (frames : List Frame)
    (rest : List Token),
    run ⟨.value, frames⟩ (value.tokens ++ rest) = afterValue value rest frames
  | .broken, h, _, _ => nomatch h
  | .null, _, _, _ | .boolean _, _, _, _ | .number _, _, _, _ | .string _, _, _, _ =>
    run_cons_of_deliver rfl
  | .array .closed, _, frames, rest => by
    show run ⟨.item, frames⟩ (.closeArray :: rest) = _
    exact run_cons_of_deliver rfl
  | .array .broken, h, _, _ => nomatch h
  | .array (.cons item items), h, frames, rest => by
    obtain ⟨hitem, hitems⟩ := Bool.and_eq_true_iff.1 h
    -- No comma stands before the first item, so it is taken out of the separated list.
    rw [Tree.tokens, Items.tokens, intercalate_comma_cons]
    simp only [List.cons_append, List.append_assoc, List.nil_append]
    calc run ⟨.item, frames⟩ (item.tokens ++ _)
        = run ⟨.value, .array [] :: frames⟩ (item.tokens ++ _) := run_item hitem
      _ = run ⟨.afterItem [item], frames⟩ _ := run_tokens hitem _ _
      _ = _ := run_itemTokens hitems [item] frames rest
  | .object .closed, _, frames, rest => by
    show run ⟨.key [] true, frames⟩ (.closeObject :: rest) = _
    exact run_cons_of_deliver rfl
  | .object .broken, h, _, _ => nomatch h
  | .object (.cons key value members), h, frames, rest => by
    obtain ⟨hvalue, hmembers⟩ := Bool.and_eq_true_iff.1 h
    -- The key and the colon take the machine to where it expects a value.
    rw [Tree.tokens, Members.tokens, intercalate_comma_cons]
    simp only [List.cons_append, List.append_assoc, List.nil_append]
    calc run ⟨.value, .object [] key :: frames⟩ (value.tokens ++ _)
        = run ⟨.afterMember [(key, value)], frames⟩ _ := run_tokens hvalue _ _
      _ = _ := run_memberTokens hmembers [(key, value)] frames rest

/-- Further items, each behind a comma, and the end of the array. -/
theorem run_itemTokens : ∀ {items : Items}, items.complete → ∀ (before : List Tree)
    (frames : List Frame) (rest : List Token),
    run ⟨.afterItem before, frames⟩
        (items.tokens.flatMap (.comma :: ·) ++ .closeArray :: rest) =
      afterValue (.array (Items.prepend before items)) rest frames
  | .closed, _, _, _, _ => run_cons_of_deliver rfl
  | .broken, h, _, _, _ => nomatch h
  | .cons item items, h, before, frames, rest => by
    obtain ⟨hitem, hitems⟩ := Bool.and_eq_true_iff.1 h
    rw [Items.tokens, List.flatMap_cons, List.append_assoc]
    calc run ⟨.value, .array before :: frames⟩ (item.tokens ++ _)
        = run ⟨.afterItem (item :: before), frames⟩ _ := run_tokens hitem _ _
      _ = _ := run_itemTokens hitems (item :: before) frames rest

/-- Further members, each behind a comma, and the end of the object. -/
theorem run_memberTokens : ∀ {members : Members}, members.complete →
    ∀ (before : List (Option String × Tree)) (frames : List Frame) (rest : List Token),
    run ⟨.afterMember before, frames⟩
        (members.tokens.flatMap (.comma :: ·) ++ .closeObject :: rest) =
      afterValue (.object (Members.prepend before members)) rest frames
  | .closed, _, _, _, _ => run_cons_of_deliver rfl
  | .broken, h, _, _, _ => nomatch h
  | .cons key value members, h, before, frames, rest => by
    obtain ⟨hvalue, hmembers⟩ := Bool.and_eq_true_iff.1 h
    rw [Members.tokens, List.flatMap_cons, List.append_assoc]
    calc run ⟨.value, .object before key :: frames⟩ (value.tokens ++ _)
        = run ⟨.afterMember ((key, value) :: before), frames⟩ _ := run_tokens hvalue _ _
      _ = _ := run_memberTokens hmembers ((key, value) :: before) frames rest

end

end Document

/-! ### The tokens that a state stands for -/

/-- The tokens of an open array or object, up to the value that is being read. -/
def Frame.tokens : Frame → List Token
  | .array before => .openArray :: (before.reverse.map Tree.tokens).flatMap (· ++ [.comma])
  | .object before key =>
    .openObject :: ((before.reverse.map memberTokens).flatMap (· ++ [.comma]) ++
      [.string key, .colon])

/-- The tokens that have been read of the value in which the machine stands. -/
def Place.tokens : Place → List Token
  | .value => []
  | .item => [.openArray]
  | .afterItem before => .openArray :: [Token.comma].intercalate (before.reverse.map Tree.tokens)
  | .key before _ => .openObject :: (before.reverse.map memberTokens).flatMap (· ++ [.comma])
  | .colon before name =>
    .openObject :: ((before.reverse.map memberTokens).flatMap (· ++ [.comma]) ++ [.string name])
  | .afterMember before =>
    .openObject :: [Token.comma].intercalate (before.reverse.map memberTokens)

/-- Behind an item there is an item, and the first key has none before it. -/
def Place.Possible : Place → Prop
  | .value | .item | .colon _ _ => True
  | .afterItem before => before ≠ []
  | .key before isFirst => isFirst = true → before = []
  | .afterMember before => before ≠ []

/-- The tokens of all that is open around a place. -/
def framesTokens (frames : List Frame) : List Token :=
  frames.reverse.flatMap Frame.tokens

/-- The tokens that the machine has read. -/
def Builder.tokens (state : Builder) : List Token :=
  framesTokens state.frames ++ state.place.tokens

/-- What has been read is what the next state, or the tree, stands for. -/
def Step.Stands (read : List Token) : Step → Prop
  | .next state => state.place.Possible ∧ state.tokens = read
  | .done root => root.tokens = read
  | .stop => True

namespace Builder

variable {state : Builder}

theorem framesTokens_cons (frame : Frame) (frames : List Frame) :
    framesTokens (frame :: frames) = framesTokens frames ++ frame.tokens := by
  simp [framesTokens]

/-- A value that is complete stands behind what is open around it. -/
theorem stands_deliver (value : Tree) (frames : List Frame) :
    (deliver value frames).Stands (framesTokens frames ++ value.tokens) := by
  -- The value becomes the last entry of the innermost frame, if there is one.
  match frames with
  | [] => exact (List.nil_append _).symm
  | .array before :: frames =>
    refine ⟨List.cons_ne_nil _ _, ?_⟩
    rw [framesTokens_cons, Builder.tokens, Place.tokens, Frame.tokens, List.reverse_cons,
      List.map_append, List.map_singleton, intercalate_comma_concat]
    simp
  | .object before key :: frames =>
    refine ⟨List.cons_ne_nil _ _, ?_⟩
    rw [framesTokens_cons, Builder.tokens, Place.tokens, Frame.tokens, List.reverse_cons,
      List.map_append, List.map_singleton, intercalate_comma_concat]
    simp [memberTokens]

theorem stands_beginValue (frames : List Frame) (token : Token) :
    (beginValue frames token).Stands (framesTokens frames ++ [token]) := by
  cases token with
  | null => exact stands_deliver .null frames
  | boolean b => exact stands_deliver (.boolean b) frames
  | number n => exact stands_deliver (.number n) frames
  | string text => exact stands_deliver (.string text) frames
  | openArray => exact ⟨trivial, rfl⟩
  | openObject => exact ⟨fun _ => rfl, rfl⟩
  | closeObject | closeArray | comma | colon | bad => exact trivial

/-- A bracket that closes a value stands behind what has been read of the value. -/
theorem stands_close {place : Place} {frames : List Frame} {value : Tree} {token : Token}
    (h : value.tokens = place.tokens ++ [token]) :
    (deliver value frames).Stands (Builder.tokens ⟨place, frames⟩ ++ [token]) := by
  rw [Builder.tokens, List.append_assoc, ← h]
  exact stands_deliver value frames

/-- Behind an item there is a comma or the end of the array. -/
theorem stands_afterItem {before : List Tree} (h : before ≠ []) (frames : List Frame)
    (token : Token) :
    (step ⟨.afterItem before, frames⟩ token).Stands
      (Builder.tokens ⟨.afterItem before, frames⟩ ++ [token]) := by
  cases token with
  | comma =>
    have hsome : before.reverse.map Tree.tokens ≠ [] := by simpa using h
    refine ⟨trivial, ?_⟩
    rw [Builder.tokens, framesTokens_cons, Frame.tokens, flatMap_comma_eq hsome]
    simp [Builder.tokens, Place.tokens]
  | closeArray =>
    refine stands_close ?_
    rw [Tree.tokens, Items.tokens_prepend, Items.tokens, List.append_nil]
    rfl
  | openObject | closeObject | openArray | colon | null | boolean | number | string | bad =>
    exact trivial

/-- Behind a member there is a comma or the end of the object. -/
theorem stands_afterMember {before : List (Option String × Tree)} (h : before ≠ [])
    (frames : List Frame) (token : Token) :
    (step ⟨.afterMember before, frames⟩ token).Stands
      (Builder.tokens ⟨.afterMember before, frames⟩ ++ [token]) := by
  cases token with
  | comma =>
    have hsome : before.reverse.map memberTokens ≠ [] := by simpa using h
    refine ⟨nofun, ?_⟩
    rw [Builder.tokens, Place.tokens, flatMap_comma_eq hsome]
    simp [Builder.tokens, Place.tokens]
  | closeObject =>
    refine stands_close ?_
    rw [Tree.tokens, Members.tokens_prepend, Members.tokens, List.append_nil]
    rfl
  | openObject | openArray | closeArray | colon | null | boolean | number | string | bad =>
    exact trivial

/-- A token that is read is added to those that have been read. -/
theorem stands_step (h : state.place.Possible) (token : Token) :
    (state.step token).Stands (state.tokens ++ [token]) := by
  obtain ⟨place, frames⟩ := state
  cases place with
  | value =>
    have hbegin := stands_beginValue frames token
    rwa [← List.append_nil (framesTokens frames)] at hbegin
  | item =>
    have hitem := stands_beginValue (.array [] :: frames) token
    rw [framesTokens_cons] at hitem
    -- Only an array without items ends here.
    cases token with
    | closeArray => exact stands_close rfl
    | openObject | closeObject | openArray | comma | colon | null | boolean | number | string
    | bad => exact hitem
  | afterItem before => exact stands_afterItem h frames token
  | key before isFirst =>
    cases token with
    | string key =>
      refine ⟨trivial, ?_⟩
      simp [Builder.tokens, Place.tokens]
    | closeObject =>
      -- Behind a comma the object cannot end.
      cases isFirst with
      | false => exact trivial
      | true =>
        obtain rfl := h rfl
        exact stands_close rfl
    | openObject | openArray | closeArray | comma | colon | null | boolean | number | bad =>
      exact trivial
  | colon before key =>
    cases token with
    | colon =>
      refine ⟨trivial, ?_⟩
      rw [Builder.tokens, framesTokens_cons, Frame.tokens]
      simp [Builder.tokens, Place.tokens]
    | openObject | closeObject | openArray | closeArray | comma | null | boolean | number | string
    | bad => exact trivial
  | afterMember before => exact stands_afterMember h frames token

/-! ### Texts that break off -/

theorem not_complete_prependItems {before : List Tree} {items : Items}
    (h : items.complete = false) : (Items.prepend before items).complete = false := by
  induction before generalizing items with
  | nil => exact h
  | cons item before ih => exact ih (by rw [Items.complete, h, Bool.and_false])

theorem not_complete_prependMembers {before : List (Option String × Tree)} {members : Members}
    (h : members.complete = false) : (Members.prepend before members).complete = false := by
  induction before generalizing members with
  | nil => exact h
  | cons member before ih => exact ih (by rw [Members.complete, h, Bool.and_false])

/-- A machine that stops leaves a tree that is not complete. -/
theorem not_complete_breakOff (state : Builder) : state.breakOff.complete = false := by
  have hplace : (Place.breakOff state.place).complete = false := by
    cases state.place with
    | value | item => rfl
    | afterItem before => exact not_complete_prependItems rfl
    | key before isFirst => exact not_complete_prependMembers rfl
    | colon before key => exact not_complete_prependMembers rfl
    | afterMember before => exact not_complete_prependMembers rfl
  unfold breakOff
  generalize Place.breakOff state.place = value, state.frames = frames at hplace
  -- A frame around a value that is not complete is not complete either.
  induction frames generalizing value with
  | nil => exact hplace
  | cons frame frames ih =>
    refine ih _ ?_
    cases frame with
    | array before => exact not_complete_prependItems (by rw [Items.complete, hplace]; rfl)
    | object before key => exact not_complete_prependMembers (by rw [Members.complete, hplace]; rfl)

end Builder

namespace Document

variable {state : Builder} {root : Tree} {text : String}

/-- The tokens of a complete tree that is made are those that had been read and the others. -/
theorem tokens_of_run {found : List Token} (hstate : state.place.Possible)
    (h : run state found = ⟨root, false⟩) (hroot : root.complete) :
    root.tokens = state.tokens ++ found := by
  -- What has been read stands in the state, and grows by one token at a time.
  induction found generalizing state with
  | nil =>
    obtain rfl := (Document.mk.inj h).1
    rw [Builder.not_complete_breakOff] at hroot
    cases hroot
  | cons token rest ih =>
    have hstands := Builder.stands_step hstate token
    rw [run] at h
    split at h
    · next after hnext =>
      rw [hnext] at hstands
      rw [ih hstands.1 h, hstands.2, List.append_assoc, List.singleton_append]
    · next made hdone =>
      -- The tree is complete with this token, so nothing may be left.
      rw [hdone] at hstands
      obtain ⟨rfl, hrest⟩ := Document.mk.inj h
      obtain rfl : rest = [] := by simpa using hrest
      exact hstands
    · obtain rfl := (Document.mk.inj h).1
      rw [Builder.not_complete_breakOff] at hroot
      cases hroot

/-- A text is read to its end as a complete tree when it holds the tree. -/
theorem ofText_eq_iff : ofText text = ⟨root, false⟩ ∧ root.complete ↔ Holds text root := by
  constructor
  · intro ⟨hread, hroot⟩
    have htokens : root.tokens = Builder.start.tokens ++ tokens text.toList :=
      tokens_of_run trivial hread hroot
    exact ⟨hroot, htokens.symm⟩
  · intro ⟨hroot, htokens⟩
    refine ⟨?_, hroot⟩
    rw [ofText, htokens, ← List.append_nil root.tokens]
    exact run_tokens hroot [] []

end Document

/-- A text holds one tree at most. -/
theorem Holds.unique {text : String} {root other : Tree} (h : Holds text root)
    (hother : Holds text other) : root = other := by
  have hroot := (Document.ofText_eq_iff.2 h).1
  have hsame := hroot.symm.trans (Document.ofText_eq_iff.2 hother).1
  exact (Document.mk.inj hsame).1

end SchemaMigration.Json
