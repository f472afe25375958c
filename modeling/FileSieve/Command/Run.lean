import FileSieve.Builtin
import FileSieve.Command
import FileSieve.Environment.Load
import FileSieve.Filter.Read
import FileSieve.JsonValue
import FileSieve.Selection
import FileSieve.Text.Lines

/-!
# Running commands

A command runs in `Surroundings`: files, variables and standard input.  What it comes to is an
`Outcome`: the exit code, which is 0 for success, 1 for failure or if nothing matches, 2 for
arguments that ask for nothing and 101 for a command that breaks off, and what is printed.
-/

namespace FileSieve

/-- What a command runs in. -/
structure Surroundings where
  /-- The files. -/
  files : FileSystem
  /-- The variables. -/
  environment : Environment := {}
  /-- The text of standard input. -/
  input : Except FileError String := .ok ""

/-- What a command comes to. -/
structure Outcome where
  /-- The exit code. -/
  code : Nat := 0
  /-- What is printed. -/
  output : String := ""
  /-- What is printed about errors. -/
  errors : String := ""
  deriving DecidableEq, Repr

/-! ## Failures -/

/-- Why a command fails. -/
inductive Failure
  /-- The expression does not parse. -/
  | expression (text : String) (source : ExpressionError Builtin.Refusal)
  /-- The filter cannot be used. -/
  | filter (e : FilterError Builtin.Refusal)
  /-- Standard input cannot be read. -/
  | input (e : FileError)
  deriving DecidableEq, Repr

namespace Failure

/-- The wording of a failure. -/
def message : Failure → String
  | .expression text _ => "invalid expression: " ++ text
  | .filter e => e.message
  | .input e => e.message

/-- The error behind a failure. -/
def cause? : Failure → Option (ExpressionError Builtin.Refusal)
  | .expression _ source => some source
  | .filter (.filter _ source) => some source
  | _ => none

/-- A text with a margin before each of its lines. -/
def indented (text : String) : String :=
  String.ofList ("    ".toList ++ text.toList.flatMap fun c =>
    if c = '\n' then c :: "    ".toList else [c])

/-- What is printed about a failure. -/
def report (f : Failure) : String :=
  "Error: " ++ f.message ++
    (match f.cause? with
      | some e => "\n\nCaused by:\n" ++ indented e.message
      | none => "") ++ "\n"

/-- The outcome of a failed command. -/
def outcome (f : Failure) : Outcome := { code := 1, errors := f.report }

end Failure

/-! ## Selections -/

/-- The outcome of printing a selection.  Of what is printed about a file that ends the program this is
the message alone; it is preceded by the place in the program, which is not part of the model. -/
def Selection.outcome (s : Selection) : Outcome :=
  match s.abort? with
  | none => { code := if s.paths.isEmpty then 1 else 0, output := Text.unlines s.paths }
  | some abort =>
    { code := 101, output := Text.unlines s.paths, errors := abort.message ++ "\n" }

namespace Command

/-! ## Paths -/

/-- The paths that a command is about: the given ones or, if there are none, the lines of standard
input. -/
def pathsFrom (w : Surroundings) (given : List String) : Except Failure (List String) :=
  if given.isEmpty then
    match w.input with
    | .ok text => .ok (Text.lines text)
    | .error e => .error (.input e)
  else .ok given

/-- Prints the paths for which an expression holds. -/
def printSelected {α ρ : Type} [Operand α ρ] (w : Surroundings) (e : Expression α)
    (given : List String) : Outcome :=
  match pathsFrom w given with
  | .error f => f.outcome
  | .ok paths => (e.select w.files paths).outcome

/-! ## Descriptions -/

/-- The names of capabilities as a list. -/
def listed (capabilities : List Capability) : String :=
  ", ".intercalate (capabilities.map Capability.text)

/-- The canonical form of an expression, and what it reads. -/
def describe (e : Expression Builtin) : String :=
  Text.unlines [e.text, "needs: " ++ listed e.capabilities]

/-- The information that an operand reads, in the order of the list of all. -/
def needsOf (a : Builtin) : List Capability := Capability.all.filter (Operand.needs a)

/-- A line about an operand. -/
def operandLine (a : Builtin) : String :=
  let usage := Operand.text a
  let gap := String.ofList (List.replicate (14 - usage.length) ' ')
  usage ++ gap ++ " needs: " ++ listed (needsOf a)

/-- An operand as JSON. -/
def operandJson (a : Builtin) : JsonValue :=
  .record
    [("name", .text (Operand.name a)),
     ("usage", .text (Operand.text a)),
     ("needs", .list ((needsOf a).map fun c => .text c.text))]

/-- The list of all operands. -/
def describeOperands (asJson : Bool) : String :=
  let operands := Registry.builtins.list
  if asJson then Text.unlines [(JsonValue.list (operands.map operandJson)).pretty]
  else Text.unlines (operands.map operandLine)

/-! ## Filters -/

/-- The variable that names the filter file if no option does. -/
def filtersVariable : String := "BOOLEXPR_FILTERS"

/-- The file in which filters are looked up. -/
def filterFile? (environment : Environment) (given : Option String) : Option String :=
  given <|> environment.get? filtersVariable

/-- The expression of a filter. -/
def findFilter (w : Surroundings) (name : String) (file : Option String) :
    Except (FilterError Builtin.Refusal) (Expression Builtin) :=
  match filterFile? w.environment file with
  | none => .error .noFilterFile
  | some path => FilterSet.load Registry.builtins w.files path >>= fun set => set.require name

/-! ## Running -/

/-- Runs a command. -/
def run (w : Surroundings) : Command → Outcome
  | .search text given =>
    match Registry.builtins.parse text with
    | .error e => (Failure.expression text e).outcome
    | .ok e => printSelected w e given
  | .check text =>
    match Registry.builtins.parse text with
    | .error e => (Failure.expression text e).outcome
    | .ok e => { output := describe e }
  | .operands asJson => { output := describeOperands asJson }
  | .filter name given file =>
    match findFilter w name file with
    | .error e => (Failure.filter e).outcome
    | .ok e => printSelected w e given

/-- The outcome of arguments that ask for no command. -/
def misused : Outcome := { code := 2, errors := usage }

/-- Runs the command that arguments ask for, with the variables of the settings file of a
directory. -/
def runArguments (w : Surroundings) (directory : FilePath) (args : List String) : Outcome :=
  match ofArguments? args with
  | none => misused
  | some command =>
    command.run { w with environment := w.environment.load w.files directory }

end Command

end FileSieve
