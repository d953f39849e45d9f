import SchemaMigration.Proofs.Json.TreeTokens
import SchemaMigration.Proofs.Json.WrittenTokens

/-!
# `SchemaMigration.Proofs.Json.BuiltTree`: a written value is read as its tree

A value has a tree (`Value.tree`), which never breaks off and has the tokens of the value
(`tokens_tree`). Both texts of a value are cut into these tokens. So what they hold is the tree of
the value, and nothing behind it (`holds_of_cutInto`).
-/

set_option autoImplicit false

namespace SchemaMigration.Json

namespace Value

mutual

/-- The tree of a value. -/
def tree : Value → Tree
  | .null => .null
  | .boolean b => .boolean b
  | .integer n => .number (.integer n)
  | .real x => .number (.real x)
  | .string text => .string (some text)
  | .array items => .array (itemTrees items)
  | .object members => .object (memberTrees members)

/-- The trees of items. -/
def itemTrees : List Value → Items
  | [] => .closed
  | item :: rest => .cons item.tree (itemTrees rest)

/-- The trees of members. -/
def memberTrees : List (String × Value) → Members
  | [] => .closed
  | (key, value) :: rest => .cons (some key) value.tree (memberTrees rest)

end

mutual

theorem complete_tree : ∀ value : Value, value.tree.complete
  | .null | .boolean _ | .integer _ | .real _ | .string _ => rfl
  | .array items => complete_itemTrees items
  | .object members => complete_memberTrees members

theorem complete_itemTrees : ∀ items : List Value, (itemTrees items).complete
  | [] => rfl
  | item :: rest => Bool.and_eq_true_iff.2 ⟨complete_tree item, complete_itemTrees rest⟩

theorem complete_memberTrees : ∀ members : List (String × Value), (memberTrees members).complete
  | [] => rfl
  | (_, value) :: rest => Bool.and_eq_true_iff.2 ⟨complete_tree value, complete_memberTrees rest⟩

end

mutual

/-- The tree of a value has the tokens of the value. -/
theorem tokens_tree : ∀ value : Value, value.tree.tokens = value.tokens
  | .null | .boolean _ | .integer _ | .real _ | .string _ => rfl
  | .array items => by rw [tree, Tree.tokens, tokens_itemTrees items, tokens]
  | .object members => by rw [tree, Tree.tokens, tokens_memberTrees members, tokens]

theorem tokens_itemTrees : ∀ items : List Value, (itemTrees items).tokens = itemTokens items
  | [] => rfl
  | item :: rest => by
    rw [itemTrees, Items.tokens, tokens_tree item, tokens_itemTrees rest, itemTokens]

theorem tokens_memberTrees : ∀ members : List (String × Value),
    (memberTrees members).tokens = memberTokens members
  | [] => rfl
  | (key, value) :: rest => by
    rw [memberTrees, Members.tokens, tokens_tree value, tokens_memberTrees rest, memberTokens]

end

end Value

/-- A text with the tokens of a value holds the tree of the value. -/
theorem holds_of_cutInto {text : String} {value : Value} (h : CutInto text value.tokens) :
    Holds text value.tree := by
  have htokens : tokens text.toList = value.tokens := by
    simpa [tokens] using h [] Numeral.endsNumeral_nil
  refine ⟨value.complete_tree, ?_⟩
  rw [htokens, value.tokens_tree]

/-- A text with the tokens of a value is read to its end as the tree of the value. -/
theorem Document.ofText_of_cutInto {text : String} {value : Value}
    (h : CutInto text value.tokens) : ofText text = ⟨value.tree, false⟩ :=
  (ofText_eq_iff.2 (holds_of_cutInto h)).1

end SchemaMigration.Json
