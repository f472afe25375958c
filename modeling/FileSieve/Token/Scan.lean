import FileSieve.Token
import FileSieve.Text.Blank
import FileSieve.Text.Letter

/-!
# From text to tokens

`Token.scan` reads a text one character at a time.  Between characters the scan is in one of seven
states (`ScanState`), of which the unfinished ones hold the text of the token under way.  A
character moves the state on and completes at most two tokens (`ScanState.step`); the end of the
text completes the token under way or refuses it (`ScanState.finish`).

Values come in two spellings.  A value that starts with a quote extends to the next quote and is
taken verbatim.  Any other value extends to the first blank, bracket, `&` or `|`; a backslash takes
the special meaning from the character after it, and a quote is an ordinary character.
-/

namespace FileSieve

/-! ## States -/

/-- What the scan has seen of the token under way. -/
inductive ScanState
  /-- Between tokens. -/
  | start
  /-- After the first character of a connective. -/
  | pending (connective : Connective)
  /-- Inside a name. -/
  | name (text : String)
  /-- Just after the `=` of an operand. -/
  | valueStart
  /-- Inside a value without quotes. -/
  | bare (text : String)
  /-- Inside a quoted value. -/
  | quoted (text : String)
  /-- After a backslash in a value without quotes. -/
  | escaped (text : String)
  deriving DecidableEq, Repr, Inhabited

namespace ScanState

/-! ## One character -/

/-- The tokens that a character completes, and the state after it. -/
abbrev Move := List Token × ScanState

/-- A character between tokens. -/
def stepStart (c : Char) : Except LexicalError Move :=
  if Text.isBlank c then .ok ([], start)
  else if c = '(' then .ok ([.operator .openBracket], start)
  else if c = ')' then .ok ([.operator .closeBracket], start)
  else if c = '!' then .ok ([.operator .not], start)
  else if c = '&' then .ok ([], pending .and)
  else if c = '|' then .ok ([], pending .or)
  else if Text.isLetter c then .ok ([], name (String.singleton c))
  else .error (.unexpectedCharacter c)

/-- The character after the first one of a connective. -/
def stepPending (connective : Connective) (c : Char) : Except LexicalError Move :=
  if c = connective.mark then .ok ([.operator connective.operator], start)
  else .error (.invalidOperator connective)

/-- A character after the text of a name. -/
def stepName (text : String) (c : Char) : Except LexicalError Move :=
  if c = '=' then .ok ([.name text], valueStart)
  else if Text.isLetterOrNumber c || c = '-' || c = '_' then .ok ([], name (text.push c))
  else .error (.expectedEquals c)

/-- A character after the text of a value without quotes. -/
def stepBare (text : String) (c : Char) : Move :=
  if c = '\\' then ([], escaped text)
  else if Text.isBlank c then ([.value text], start)
  else if c = '(' then ([.value text, .operator .openBracket], start)
  else if c = ')' then ([.value text, .operator .closeBracket], start)
  else if c = '&' then ([.value text], pending .and)
  else if c = '|' then ([.value text], pending .or)
  else ([], bare (text.push c))

/-- A character after the text of a quoted value. -/
def stepQuoted (text : String) (c : Char) : Move :=
  if c = '\'' then ([.value text], start) else ([], quoted (text.push c))

/-- The effect of a character. -/
def step : ScanState → Char → Except LexicalError Move
  | start, c => stepStart c
  | pending connective, c => stepPending connective c
  | name text, c => stepName text c
  | valueStart, c => if c = '\'' then .ok ([], quoted "") else .ok (stepBare "" c)
  | bare text, c => .ok (stepBare text c)
  | quoted text, c => .ok (stepQuoted text c)
  | escaped text, c => .ok ([], bare (text.push c))

/-! ## The end of the text -/

/-- The token that the end of the text completes, if it may end here. -/
def finish : ScanState → Except LexicalError (List Token)
  | start => .ok []
  | pending connective => .error (.incompleteOperator connective)
  | name text => .ok [.name text]
  | valueStart => .ok [.value ""]
  | bare text => .ok [.value text]
  | quoted text => .error (.missingCloseQuote text)
  | escaped _ => .error .missingEscapedCharacter

/-! ## Whole texts -/

/-- The tokens that a text completes from a state on. -/
def run : ScanState → List Char → Except LexicalError (List Token)
  | state, [] => state.finish
  | state, c :: rest =>
    match state.step c with
    | .error e => .error e
    | .ok (tokens, next) => (next.run rest).map (tokens ++ ·)

@[simp] theorem run_nil (state : ScanState) : state.run [] = state.finish := rfl

theorem run_cons (state : ScanState) (c : Char) (rest : List Char) :
    state.run (c :: rest) =
      match state.step c with
      | .error e => .error e
      | .ok (tokens, next) => (next.run rest).map (tokens ++ ·) := rfl

end ScanState

/-- The tokens of a text, or the first reason why it has none. -/
def Token.scan (text : String) : Except LexicalError (List Token) :=
  ScanState.start.run text.toList

end FileSieve
