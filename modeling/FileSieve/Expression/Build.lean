import FileSieve.Expression.Error

/-!
# Building expressions

`Expression.build` turns a flat sequence of items into an expression.  It first compares the
brackets of the whole sequence (`balanced`).  Then it scans the items once from left to right,
keeping the items placed so far on the current level and on the levels around it (`Build.place`):
an item is refused by what stands directly before it on its level (`Build.refusal?`), an operand
is prepared, an opening bracket starts a level, and a closing bracket checks that terms and
connectives alternate (`alternates`) and makes the level a group of the one around it.

A build also reports the operands whose preparation it asked for, in order (`Build.Outcome`).
-/

namespace FileSieve

variable {α ρ : Type}

namespace Build

/-! ## Checks on items -/

/-- Whether no prefix of the items closes more brackets than it opens, given `depth` open ones
before them, and all are closed in the end.  Brackets of ready-made groups do not count. -/
def balanced : (depth : Nat) → List (Item α) → Bool
  | depth, [] => depth == 0
  | depth, .operator .openBracket :: rest => balanced (depth + 1) rest
  | 0, .operator .closeBracket :: _ => false
  | depth + 1, .operator .closeBracket :: rest => balanced depth rest
  | depth, _ :: rest => balanced depth rest

/-- Whether terms and connectives alternate, with a term at both ends and negations only where a
term is wanted. -/
def alternates : (wantTerm : Bool) → List (Item α) → Bool
  | wantTerm, [] => !wantTerm
  | true, item :: rest =>
    if item.isNegation then alternates true rest
    else item.isTerm && alternates false rest
  | false, item :: rest => item.isBinary && alternates true rest

/-- Why `op` may not follow `previous`, the item before it on its level, if it needs a term on its
left. -/
def leftTermFault? (op : Operator) : Option (Item α) → Option GrammarError
  | none => some (.missingLeftOperand op)
  | some item => if item.isTerm then none else some (.missingOperand op)

variable [Operand α ρ]

/-- Why an operator may not follow `previous`, the item before it on its level. -/
def operatorFault? (previous : Option (Item α)) : Operator → Option GrammarError
  | .and => leftTermFault? .and previous
  | .or => leftTermFault? .or previous
  | .closeBracket => leftTermFault? .closeBracket previous
  | .not =>
    match previous with
    | none => none
    | some item => if item.isBinary then none else some (.misplacedNegation item.text)
  | .openBracket =>
    match previous with
    | none => none
    | some item => if item.isBinary || item.isNegation then none else some .missingOperator

/-- Why an item may not follow `previous`, the item before it on its level.  A term is never
refused here, unless it is a group without items. -/
def refusal? (previous : Option (Item α)) : Item α → Option GrammarError
  | .operator op => operatorFault? previous op
  | .operand _ => none
  | .group [] => some (.missingLeftOperand .closeBracket)
  | .group (_ :: _) => none

/-! ## The scan -/

/-- The end of a build: the operands that were asked to prepare themselves, in order, and the
items of the outermost level or the error. -/
structure Outcome (α ρ : Type) where
  /-- The operands as they stood in the input. -/
  prepared : List α
  /-- The items of the outermost level, or why there are none. -/
  result : Except (ExpressionError ρ) (List (Item α))

namespace Outcome

omit [Operand α ρ]

/-- The outcome that asks nothing and fails. -/
def fail (e : GrammarError) : Outcome α ρ := ⟨[], .error (.grammar e)⟩

/-- The outcome with one more question before it. -/
def after (a : α) (outcome : Outcome α ρ) : Outcome α ρ :=
  { outcome with prepared := a :: outcome.prepared }

end Outcome

/-- The error of a level whose items do not alternate. -/
def incomplete (items : List (Item α)) : GrammarError :=
  .incompleteExpression (Item.levelText items)

/-- Scans the items that are left.  `level` holds the items placed on the current level and
`outer` those of the levels around it, from the inside out; both list the latest item first. -/
def place : (outer : List (List (Item α))) → (level : List (Item α)) → List (Item α) →
    Outcome α ρ
  | [], level, [] =>
    if alternates true level.reverse then ⟨[], .ok level.reverse⟩
    else .fail (incomplete level.reverse)
  | _ :: _, _, [] => .fail .unbalancedBrackets
  | outer, level, item :: rest =>
    match refusal? level.head? item with
    | some e => .fail e
    | none =>
      match item with
      | .operand a =>
        match Operand.prepare a with
        | .error reason => ⟨[a], .error (.operand reason)⟩
        | .ok ready => (place outer (.operand ready :: level) rest).after a
      | .operator .openBracket => place (level :: outer) [] rest
      | .operator .closeBracket =>
        match outer with
        | [] => .fail .unbalancedBrackets
        | around :: further =>
          if alternates true level.reverse then
            place further (.group level.reverse :: around) rest
          else .fail (incomplete level.reverse)
      | item => place outer (item :: level) rest

/-- Builds the items of an expression. -/
def items : List (Item α) → Outcome α ρ
  | [] => ⟨[], .ok []⟩
  | item :: rest =>
    if balanced 0 (item :: rest) then place [] [] (item :: rest)
    else .fail .unbalancedBrackets

end Build

/-- The expression that the items make up. -/
def Expression.build [Operand α ρ] (items : List (Item α)) :
    Except (ExpressionError ρ) (Expression α) :=
  (Build.items items).result.map Expression.mk

/-- The operands whose preparation building the items asks for, in order. -/
def Expression.preparations [Operand α ρ] (items : List (Item α)) : List α :=
  (Build.items items).prepared

end FileSieve
