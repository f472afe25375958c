import FileSieve.Expression

/-!
# Evaluating expressions

The items of a level are combined strictly from left to right, without precedence between the two
connectives, and a negation applies to the term directly after it.  A disjunction that holds
decides its level at once: either because the value to its left is already true, or because the
term to its right makes it true.

A level keeps few values and operators at a time (`Pending`): at most two of each, since two
values are combined as soon as they meet.  On items that do not alternate this can go wrong, and
`Fault` says how; a level of a built expression never runs into one.  Besides the value, an
evaluation reports the operands that it asked, in order (`Evaluation`).
-/

namespace FileSieve

/-! ## Pending values and operators -/

/-- How the combination of values goes wrong on a level that does not alternate. -/
inductive Fault
  /-- A third value arrives. -/
  | tooManyValues
  /-- A third operator arrives. -/
  | tooManyOperators
  /-- Two values without a connective between them. -/
  | missingConnective
  deriving DecidableEq, Repr, Inhabited

/-- The values of a level that are not yet combined, earliest first, and the operators that are
not yet applied, latest first. -/
structure Pending where
  /-- At most two values. -/
  values : List Bool := []
  /-- At most two operators. -/
  operators : List Operator := []
  deriving DecidableEq, Repr, Inhabited

namespace Pending

/-- Adds a value, if there is room. -/
def pushValue (p : Pending) (v : Bool) : Except Fault Pending :=
  if p.values.length < 2 then .ok { p with values := p.values ++ [v] }
  else .error .tooManyValues

/-- Adds an operator, if there is room. -/
def pushOperator (p : Pending) (op : Operator) : Except Fault Pending :=
  if p.operators.length < 2 then .ok { p with operators := op :: p.operators }
  else .error .tooManyOperators

/-- Whether the level so far is one settled value, and it is true. -/
def holds (p : Pending) : Bool :=
  p == { values := [true] }

/-- Two values joined by an operator: `none` if that decides the level, which is then true. -/
def combine (left right : Bool) : Operator → Except Fault (Option Pending)
  | .and => .ok (some { values := [left && right] })
  | .or => .ok (if left || right then none else some { values := [false] })
  | _ => .error .missingConnective

/-- What is left after everything that can be combined has been: `none` if that decides the level,
which is then true. -/
def reduce (p : Pending) : Except Fault (Option Pending) :=
  match p.values, p.operators with
  | [v], [.not] => .ok (some { values := [!v] })
  | [left, right], .not :: op :: _ => combine left (!right) op
  | [_, _], [.not] => .error .missingConnective
  | [left, right], op :: _ => combine left right op
  | _, _ => .ok (some p)

/-- Takes in an item of the level, which has the given value if it is a term: `none` if that
decides the level, which is then true. -/
def accept {α : Type} (p : Pending) (item : Item α) (value : Except Fault Bool) :
    Except Fault (Option Pending) :=
  match item with
  | .operator .or => if p.holds then .ok none else p.pushOperator .or >>= reduce
  | .operator .openBracket => p.reduce
  | .operator .closeBracket => p.reduce
  | .operator op => p.pushOperator op >>= reduce
  | .operand _ => value >>= p.pushValue >>= reduce
  | .group _ => value >>= p.pushValue >>= reduce

/-- The value of a level at its end; a level without values is false. -/
def result (p : Pending) : Except Fault Bool :=
  match p.values with
  | [] => .ok false
  | [v] => .ok v
  | _ => .error .tooManyValues

end Pending

/-! ## Evaluation -/

/-- What evaluating a level comes to: the operands that were asked, in order, and the value. -/
structure Evaluation (α : Type) where
  /-- The operands that were asked. -/
  calls : List α
  /-- The value. -/
  outcome : Except Fault Bool

namespace Evaluation

variable {α ρ : Type}

/-- The evaluation with earlier calls before it. -/
def after (calls : List α) (e : Evaluation α) : Evaluation α :=
  { e with calls := calls ++ e.calls }

variable [Operand α ρ]

mutual

/-- The value of a term; an operator asks nothing, and its value is not used. -/
def ofItem (subject : Subject) : Item α → Evaluation α
  | .operator _ => ⟨[], .ok false⟩
  | .operand a => ⟨[a], .ok (Operand.eval a subject)⟩
  | .group items => ofItems subject {} items

/-- The value of a level whose remaining items are listed. -/
def ofItems (subject : Subject) : Pending → List (Item α) → Evaluation α
  | pending, [] => ⟨[], pending.result⟩
  | pending, item :: rest =>
    let value := ofItem subject item
    match pending.accept item value.outcome with
    | .error fault => ⟨value.calls, .error fault⟩
    | .ok none => ⟨value.calls, .ok true⟩
    | .ok (some next) => (ofItems subject next rest).after value.calls

end

end Evaluation

namespace Expression

variable {α ρ : Type} [Operand α ρ]

/-- Evaluates the expression on a subject; the empty expression asks nothing and is false. -/
def evaluate (e : Expression α) (subject : Subject) : Evaluation α :=
  Evaluation.ofItems subject {} e.items

/-- Whether the expression holds of a subject. -/
def eval (e : Expression α) (subject : Subject) : Bool :=
  match (e.evaluate subject).outcome with
  | .ok value => value
  | .error _ => false

/-- The operands that evaluating the expression on a subject asks, in order. -/
def calls (e : Expression α) (subject : Subject) : List α :=
  (e.evaluate subject).calls

/-- The questions that evaluating the expression asks a subject, in order. -/
def asks (e : Expression α) (subject : Subject) : List Capability :=
  (e.calls subject).flatMap fun a => Operand.asks a subject

end Expression

end FileSieve
