import FileSieve.Environment
import FileSieve.Text.Blank
import FileSieve.Text.Letter

/-!
# Settings

A line of a settings file is `NAME=VALUE`, perhaps after the word `export`, or it is empty or a
comment.  A value is bare, where a blank ends it, or has parts between quotes:

* between single quotes every character stands for itself;
* elsewhere a backslash takes one of `\`, `'`, `"`, `$`, the blank and `n`, the last for a line
  feed, and `$NAME` or `$` with a name in braces stands for the text of a variable.

The character that ends a bare `$NAME` is taken as it is, even if it is a quote.
-/

namespace FileSieve.Environment

/-! ## Values -/

/-- What the next character of a value belongs to. -/
inductive ValueMode
  /-- The value itself. -/
  | text
  /-- A part between single quotes. -/
  | literal
  /-- An escape, after its backslash. -/
  | escape
  /-- The name of a variable, given in reverse. -/
  | variable (name : List Char)
  /-- The name of a variable between braces, given in reverse. -/
  | braced (name : List Char)
  /-- The blanks after the value. -/
  | ended
  /-- The comment after the value. -/
  | comment
  deriving DecidableEq, Repr

/-- A value that is being read. -/
structure ValueState where
  /-- The value so far, in reverse. -/
  value : List Char := []
  /-- Whether double quotes are open. -/
  quoted : Bool := false
  /-- What the next character belongs to. -/
  mode : ValueMode := .text

namespace ValueState

/-- Adds a character to the value and goes on reading it. -/
def put (s : ValueState) (c : Char) : ValueState :=
  { s with value := c :: s.value, mode := .text }

/-- Adds the text of a variable, whose name is given in reverse, and goes on reading the value. -/
def putVariable (env : Environment) (s : ValueState) (name : List Char) : ValueState :=
  { s with
    value := (env.expand (String.ofList name.reverse)).toList.reverse ++ s.value
    mode := .text }

/-- The character that an escape stands for. -/
def escaped? (c : Char) : Option Char :=
  if c = 'n' then some '\n'
  else if ['\\', '\'', '"', '$', ' '].contains c then some c
  else none

/-- Reads a character of the value itself. -/
def stepText (s : ValueState) (c : Char) : ValueState :=
  if c = '$' then { s with mode := .variable [] }
  else if c = '\\' then { s with mode := .escape }
  else if c = '"' then { s with quoted := !s.quoted }
  else if s.quoted then s.put c
  else if c = '\'' then { s with mode := .literal }
  else if c = ' ' ∨ c = '\t' then { s with mode := .ended }
  else s.put c

/-- Reads a character; none if it cannot stand where it does. -/
def step (env : Environment) (s : ValueState) (c : Char) : Option ValueState :=
  match s.mode with
  | .text => some (s.stepText c)
  | .literal =>
    if c = '\'' then some { s with mode := .text } else some { s with value := c :: s.value }
  | .escape => (escaped? c).map s.put
  | .variable name =>
    if Text.isLetterOrNumber c then some { s with mode := .variable (c :: name) }
    else if c = '\x7b' ∧ name = [] then some { s with mode := .braced [] }
    else if c = '$' then some { s.putVariable env name with mode := .variable [] }
    else some ((s.putVariable env name).put c)
  | .braced name =>
    if c = '\x7d' then some (s.putVariable env name)
    else some { s with mode := .braced (c :: name) }
  | .ended =>
    if c = ' ' ∨ c = '\t' then some s
    else if c = '#' then some { s with mode := .comment }
    else none
  | .comment => some s

/-- The value at the end of the line; none if a quote or a brace is open. -/
def finish (env : Environment) (s : ValueState) : Option (List Char) :=
  if s.quoted then none
  else
    match s.mode with
    | .literal => none
    | .braced _ => none
    | .variable name => some (s.putVariable env name).value.reverse
    | _ => some s.value.reverse

end ValueState

/-- The value that a text is. -/
def readValue? (env : Environment) (cs : List Char) : Option (List Char) :=
  (cs.foldlM (ValueState.step env) {}).bind (ValueState.finish env)

/-! ## Lines -/

/-- A line of a settings file. -/
inductive Line
  /-- An empty line or a comment. -/
  | blank
  /-- A variable and its text. -/
  | setting (name value : String)
  deriving DecidableEq, Repr

/-- Whether a character can begin a name. -/
def startsName (c : Char) : Bool := c.isAlpha || c == '_'

/-- Whether a character can be in a name. -/
def isInName (c : Char) : Bool := c.isAlphanum || c == '_' || c == '.'

/-- Whether a line ends here, apart from a comment. -/
def endsLine : List Char → Bool
  | [] => true
  | c :: _ => c == '#'

/-- The name at the beginning of a text, and what follows it and the blanks after it. -/
def readName? (cs : List Char) : Option (List Char × List Char) :=
  if cs.head?.any startsName then
    some (cs.takeWhile isInName, (cs.dropWhile isInName).dropWhile Text.isBlank)
  else none

/-- The name that a setting is for, and what follows the equals sign.  The word `export` is a name
if the equals sign follows it. -/
def readTarget? (cs : List Char) : Option (List Char × List Char) :=
  match readName? cs with
  | some (name, '=' :: rest) => some (name, rest)
  | some (name, rest) =>
    if name = "export".toList then
      match readName? rest with
      | some (name, '=' :: rest) => some (name, rest)
      | _ => none
    else none
  | none => none

/-- The line that a text is; none if it is no line of a settings file. -/
def readLine? (env : Environment) (text : String) : Option Line :=
  let cs := Text.trimBlank text.toList
  if endsLine cs then some .blank
  else
    match readTarget? cs with
    | none => none
    | some (name, rest) =>
      let rest := rest.dropWhile Text.isBlank
      if endsLine rest then some (.setting (String.ofList name) "")
      else (readValue? env rest).map fun value =>
        .setting (String.ofList name) (String.ofList value)

end FileSieve.Environment
