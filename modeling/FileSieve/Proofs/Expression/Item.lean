import Mathlib.Tactic.Common
import FileSieve.Expression

/-!
# Induction over items

Items are nested: a group holds a list of items.  `Item.induction` proves a property of every item
and assumes it, at a group, of all its members.  The operands and the needs of a sequence are put in
terms of its members here, which is the form that such a proof asks for.
-/

namespace FileSieve.Item

variable {α ρ : Type}

/-- Induction over items: a group has a property if all its members have it. -/
@[elab_as_elim]
theorem induction {motive : Item α → Prop} (operator : ∀ op, motive (.operator op))
    (operand : ∀ a, motive (.operand a))
    (group : ∀ items, (∀ x ∈ items, motive x) → motive (.group items)) (x : Item α) : motive x :=
  match x with
  | .operator op => operator op
  | .operand a => operand a
  | .group items => group items fun x _ => induction operator operand group x

lemma sequenceOperands_eq_flatMap (items : List (Item α)) :
    sequenceOperands items = items.flatMap operands := by
  induction items with
  | nil => rfl
  | cons x items ih => rw [sequenceOperands, ih, List.flatMap_cons]

lemma mem_sequenceOperands {a : α} {items : List (Item α)} :
    a ∈ sequenceOperands items ↔ ∃ x ∈ items, a ∈ x.operands := by
  rw [sequenceOperands_eq_flatMap, List.mem_flatMap]

variable [Operand α ρ]

lemma sequenceNeeds_iff {c : Capability} {items : List (Item α)} :
    sequenceNeeds c items = true ↔ ∃ x ∈ items, x.needs c = true := by
  induction items with
  | nil => simp [sequenceNeeds]
  | cons x items ih => simp [sequenceNeeds, ih]

end FileSieve.Item
