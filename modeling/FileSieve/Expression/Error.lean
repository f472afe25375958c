import FileSieve.Expression

/-!
# What can be wrong with an expression

`ExpressionError` gathers the failures on the way from text to expression: lexical errors, names
and values that the registry cannot turn into operands, faults of grammar, and values that their
own operand refuses.  Each is a cause; `ExpressionError.message` is its wording.
-/

namespace FileSieve

/-- Why a sequence of items is not an expression. -/
inductive GrammarError
  /-- Opening and closing brackets do not pair up. -/
  | unbalancedBrackets
  /-- A connective or a closing bracket with nothing before it. -/
  | missingLeftOperand (op : Operator)
  /-- A connective or a closing bracket after an operator. -/
  | missingOperand (op : Operator)
  /-- A negation after something other than a connective. -/
  | misplacedNegation (previous : String)
  /-- An opening bracket after a term. -/
  | missingOperator
  /-- A level whose items do not alternate between terms and connectives. -/
  | incompleteExpression (level : String)
  deriving DecidableEq, Repr, Inhabited

/-- The wording of a fault of grammar. -/
def GrammarError.message : GrammarError → String
  | .unbalancedBrackets => "unbalanced brackets"
  | .missingLeftOperand op => "missing left operand for " ++ op.text
  | .missingOperand op => "missing operand preceding " ++ op.text
  | .misplacedNegation previous => "misplaced negation after " ++ previous
  | .missingOperator => "missing operator preceding ("
  | .incompleteExpression level => "incomplete expression: " ++ level

/-- Why a text or a sequence of items has no expression, where operands refuse their values for
reasons in `ρ`. -/
inductive ExpressionError (ρ : Type)
  /-- The text is not a sequence of tokens. -/
  | lexical (e : LexicalError)
  /-- An operand name that is not registered. -/
  | unsupportedOperand (name : String)
  /-- An operand name without a value. -/
  | missingOperandValue (name : String)
  /-- A value without an operand name. -/
  | unexpectedToken (text : String)
  /-- The items do not follow the grammar. -/
  | grammar (e : GrammarError)
  /-- An operand refuses its value. -/
  | operand (reason : ρ)
  deriving DecidableEq, Repr

namespace ExpressionError

variable {ρ : Type}

/-- Whether the error is found while the text is read into tokens. -/
def isLexical : ExpressionError ρ → Bool
  | .lexical _ => true
  | _ => false

/-- The wording of an error; an operand words its own refusal. -/
def message [ToString ρ] : ExpressionError ρ → String
  | .lexical e => e.message
  | .unsupportedOperand name => "unsupported operand: " ++ name
  | .missingOperandValue name => "missing operand value: " ++ name
  | .unexpectedToken text => "unexpected token: " ++ text
  | .grammar e => e.message
  | .operand reason => toString reason

end ExpressionError

end FileSieve
