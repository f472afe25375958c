/-!
# Tokens

The elements of an expression in textual form: the five operators, the name of an operand and the
value after its `=`.  A token carries the text that it stands for, with quotes and escapes already
taken away from a value.

`LexicalError` lists what can be wrong with a text before it is a list of tokens.  Three of its
cases (`incompleteOperator`, `missingCloseQuote`, `missingEscapedCharacter`) arise only at the end
of a text, and say that it stops too early.
-/

namespace FileSieve

/-! ## Operators -/

/-- The operators of expressions. -/
inductive Operator
  /-- Both sides hold. -/
  | and
  /-- At least one side holds. -/
  | or
  /-- What follows does not hold. -/
  | not
  /-- Starts a group. -/
  | openBracket
  /-- Ends a group. -/
  | closeBracket
  deriving DecidableEq, Repr, Inhabited

namespace Operator

/-- How the operator is written. -/
def text : Operator → String
  | and => "&&"
  | or => "||"
  | not => "!"
  | openBracket => "("
  | closeBracket => ")"

/-- Whether the operator stands between two operands. -/
def isBinary : Operator → Bool
  | and => true
  | or => true
  | _ => false

end Operator

/-- The two operators that are written with a doubled character. -/
inductive Connective
  | and
  | or
  deriving DecidableEq, Repr, Inhabited

namespace Connective

/-- The character that the connective doubles. -/
def mark : Connective → Char
  | and => '&'
  | or => '|'

/-- The operator that the doubled character stands for. -/
def operator : Connective → Operator
  | and => .and
  | or => .or

end Connective

/-! ## Tokens -/

/-- An element of an expression in textual form. -/
inductive Token
  /-- An operator. -/
  | operator (op : Operator)
  /-- The name of an operand, the text before `=`. -/
  | name (text : String)
  /-- The value of an operand, the text after `=` without its quotes and escapes. -/
  | value (text : String)
  deriving DecidableEq, Repr, Inhabited

/-- The text that a token stands for. -/
def Token.text : Token → String
  | .operator op => op.text
  | .name text => text
  | .value text => text

/-! ## Lexical errors -/

/-- Why a text is not a sequence of tokens. -/
inductive LexicalError
  /-- A character that no token starts with. -/
  | unexpectedCharacter (c : Char)
  /-- The first character of a connective without the second. -/
  | invalidOperator (connective : Connective)
  /-- The text ends between the two characters of a connective. -/
  | incompleteOperator (connective : Connective)
  /-- A name is followed by a character other than `=`. -/
  | expectedEquals (c : Char)
  /-- The text ends inside a quoted value, of which `text` has been read. -/
  | missingCloseQuote (text : String)
  /-- The text ends after a backslash. -/
  | missingEscapedCharacter
  deriving DecidableEq, Repr, Inhabited

/-- The wording of a lexical error. -/
def LexicalError.message : LexicalError → String
  | .unexpectedCharacter c => "unexpected character: ".push c
  | .invalidOperator connective => "not a valid operator, should be " ++ connective.operator.text
  | .incompleteOperator connective => "incomplete operator: ".push connective.mark
  | .expectedEquals c => "expected =, got ".push c
  | .missingCloseQuote text => "missing close quote: " ++ text
  | .missingEscapedCharacter => "missing escaped rune"

end FileSieve
