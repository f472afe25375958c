import Std.Data.TreeMap
import FileSieve.Expression.Build
import FileSieve.Token.Scan
import FileSieve.Text.Quoted

/-!
# Registries of operands

A registry maps operand names to factories, which make an operand from the name it was asked for
and a raw value.  It reads a text into items (`Registry.items`) by looking up the name before each
value, and into an expression (`Registry.parse`) by building those items.  Names are kept in
order, so every listing is sorted.
-/

namespace FileSieve

/-- Makes an operand from the name that it was asked for and a raw value. -/
abbrev Factory (α : Type) := String → String → α

/-- A table of factories by name. -/
structure Registry (α : Type) where
  /-- The factories. -/
  factories : Std.TreeMap String (Factory α) := {}

namespace Registry

variable {α ρ : Type}

/-! ## The table -/

/-- The registry without operands. -/
def empty : Registry α := {}

/-- The factory of a name. -/
def find? (r : Registry α) (name : String) : Option (Factory α) := r.factories[name]?

/-- Whether a name is registered. -/
def contains (r : Registry α) (name : String) : Bool := (r.find? name).isSome

/-- Registers a factory, in place of an earlier one with the same name. -/
def register (r : Registry α) (name : String) (factory : Factory α) : Registry α :=
  ⟨r.factories.insert name factory⟩

/-- Takes a name out of the registry. -/
def remove (r : Registry α) (name : String) : Registry α :=
  ⟨r.factories.erase name⟩

/-- The registered names in order. -/
def names (r : Registry α) : List String := r.factories.keys

/-- Every registered operand, made with an empty value, in the order of the names. -/
def list (r : Registry α) : List α :=
  r.factories.toList.map fun entry => entry.2 entry.1 ""

/-- A description of the registry by its names. -/
def description (r : Registry α) : String :=
  "OperandRegistry \x7b operands: [" ++ ", ".intercalate (r.names.map Text.quoted) ++ "] \x7d"

/-! ## From text to expressions -/

/-- The items that tokens stand for: each name joins with the value after it. -/
def itemsOf (r : Registry α) : List Token → Except (ExpressionError ρ) (List (Item α))
  | [] => .ok []
  | .operator op :: rest => (itemsOf r rest).map (.operator op :: ·)
  | .name name :: .value value :: rest =>
    match r.find? name with
    | none => .error (.unsupportedOperand name)
    | some factory => (itemsOf r rest).map (.operand (factory name value) :: ·)
  | .name name :: _ => .error (.missingOperandValue name)
  | .value value :: _ => .error (.unexpectedToken value)

/-- The items of a text; its operands are not prepared. -/
def items (r : Registry α) (text : String) : Except (ExpressionError ρ) (List (Item α)) :=
  match Token.scan text with
  | .error e => .error (.lexical e)
  | .ok tokens => r.itemsOf tokens

/-- The expression of a text. -/
def parse [Operand α ρ] (r : Registry α) (text : String) :
    Except (ExpressionError ρ) (Expression α) :=
  r.items text >>= Expression.build

/-- The operands whose preparation parsing a text asks for, in order. -/
def preparations [Operand α ρ] (r : Registry α) (text : String) : List α :=
  match r.items text with
  | .error (_ : ExpressionError ρ) => []
  | .ok items => Expression.preparations items

end Registry

end FileSieve
