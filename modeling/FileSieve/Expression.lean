import FileSieve.Token
import FileSieve.Operand

/-!
# Expressions

An expression is a sequence of items: operators, operands, and groups, which are sequences of
items in their turn.  Items are used for two things.  Before an expression is built, brackets are
items of their own; in a built expression every bracketed part has become a group.  The empty
expression is allowed and matches nothing.

`Expression.text` is the canonical text.  It puts a space between neighbouring items, except after
a negation, and brackets around groups.
-/

namespace FileSieve

/-! ## Items -/

/-- An element of an expression over operands of type `α`. -/
inductive Item (α : Type)
  /-- An operator or a bracket. -/
  | operator (op : Operator)
  /-- An operand. -/
  | operand (a : α)
  /-- The items of a bracketed part. -/
  | group (items : List (Item α))
  deriving Inhabited

namespace Item

variable {α ρ : Type}

/-- Whether the item fills the place of an operand. -/
def isTerm : Item α → Bool
  | .operator _ => false
  | .operand _ => true
  | .group _ => true

/-- Whether the item stands between two operands. -/
def isBinary : Item α → Bool
  | .operator op => op.isBinary
  | _ => false

/-- Whether the item is a negation. -/
def isNegation : Item α → Bool
  | .operator .not => true
  | _ => false

/-- Whether the item is a group without items. -/
def isEmptyGroup : Item α → Bool
  | .group [] => true
  | _ => false

/-! ## Contents -/

mutual

/-- The operands of an item, from left to right. -/
def operands : Item α → List α
  | .operator _ => []
  | .operand a => [a]
  | .group items => sequenceOperands items

/-- The operands of a sequence of items, from left to right. -/
def sequenceOperands : List (Item α) → List α
  | [] => []
  | item :: rest => item.operands ++ sequenceOperands rest

end

mutual

/-- The item with its groups written out between brackets. -/
def flatten : Item α → List (Item α)
  | .operator op => [.operator op]
  | .operand a => [.operand a]
  | .group items => .operator .openBracket :: flattenAll items ++ [.operator .closeBracket]

/-- The items with all groups written out between brackets. -/
def flattenAll : List (Item α) → List (Item α)
  | [] => []
  | item :: rest => item.flatten ++ flattenAll rest

end

/-! ## Text -/

variable [Operand α ρ]

mutual

/-- The canonical text of an item. -/
def text : Item α → String
  | .operator op => op.text
  | .operand a => Operand.text a
  | .group items => "(" ++ sequenceText items ++ ")"

/-- The canonical text of a sequence of items. -/
def sequenceText : List (Item α) → String
  | [] => ""
  | item :: rest =>
    item.text ++ (if item.isNegation || rest.isEmpty then "" else " ") ++ sequenceText rest

end

/-- The text of the items of a level, as messages show them. -/
def levelText (items : List (Item α)) : String :=
  "[" ++ " ".intercalate (items.map text) ++ "]"

mutual

/-- Whether an operand of the item, at any depth, reads the given information. -/
def needs (capability : Capability) : Item α → Bool
  | .operator _ => false
  | .operand a => Operand.needs a capability
  | .group items => sequenceNeeds capability items

/-- Whether an operand of the items, at any depth, reads the given information. -/
def sequenceNeeds (capability : Capability) : List (Item α) → Bool
  | [] => false
  | item :: rest => item.needs capability || sequenceNeeds capability rest

end

end Item

/-! ## Expressions -/

/-- A Boolean expression over operands of type `α`. -/
structure Expression (α : Type) where
  /-- The items of the outermost level. -/
  items : List (Item α) := []
  deriving Inhabited

namespace Expression

variable {α ρ : Type}

/-- Whether the expression has no item. -/
def isEmpty (e : Expression α) : Bool := e.items.isEmpty

/-- Every operand, from left to right. -/
def operands (e : Expression α) : List α := Item.sequenceOperands e.items

/-- The items with all groups written out between brackets. -/
def flatten (e : Expression α) : List (Item α) := Item.flattenAll e.items

variable [Operand α ρ]

/-- The canonical text. -/
def text (e : Expression α) : String := Item.sequenceText e.items

/-- Whether an operand, at any depth, reads the given information. -/
def needs (e : Expression α) (capability : Capability) : Bool :=
  Item.sequenceNeeds capability e.items

/-- The information that the expression reads, in the order of `Capability.all`. -/
def capabilities (e : Expression α) : List Capability :=
  Capability.all.filter e.needs

/-- Whether the expression reads something that takes the metadata of a file. -/
def needsMetadata (e : Expression α) : Bool :=
  Capability.all.any fun c => c.needsMetadata && e.needs c

end Expression

end FileSieve
