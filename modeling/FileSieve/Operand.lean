import FileSieve.Subject

/-!
# Operands

An operand is a named predicate on subjects.  It is made from a raw value, prepared once while an
expression is built, and evaluated any number of times after that.  `Operand α ρ` is what the
rest of the library asks of a type `α` of operands, whose values are refused for reasons in `ρ`:
nothing else about the type is ever used, so everything built over it holds for every behaviour of
its operands.
-/

namespace FileSieve

/-- A type of predicates on subjects. -/
class Operand (α : Type) (ρ : outParam Type) where
  /-- The name of the operand, such as `re`. -/
  name : α → String
  /-- The canonical text of the operand, its name and its raw value. -/
  text : α → String
  /-- The information that `eval` reads from a subject. -/
  capabilities : α → List Capability
  /-- The operand made ready for evaluation, or the reason why its value is refused. -/
  prepare : α → Except ρ α
  /-- Whether the predicate holds of a subject. -/
  eval : α → Subject → Bool
  /-- The questions that `eval` asks a subject, in order. -/
  asks : α → Subject → List Capability

namespace Operand

variable {α ρ : Type} [Operand α ρ]

/-- Whether the operand reads the given information. -/
def needs (operand : α) (capability : Capability) : Bool :=
  (capabilities operand).contains capability

end Operand

end FileSieve
