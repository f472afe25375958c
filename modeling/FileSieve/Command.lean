/-!
# Commands

What the program is asked to do, as read from its arguments.  The first argument names the command;
after it come texts and options in any order, and `--` makes texts of all arguments that follow.
An option is given at most once.  The value of an option stands in the same argument, after an
equals sign or directly after a letter, or it is the next argument, if that does not begin with a
hyphen.
-/

namespace FileSieve

/-- What the program can be asked to do. -/
inductive Command
  /-- Print the paths for which an expression holds. -/
  | search (text : String) (paths : List String)
  /-- Print an expression in its canonical form. -/
  | check (text : String)
  /-- Print the available operands. -/
  | operands (asJson : Bool)
  /-- Print the paths for which a named filter holds. -/
  | filter (name : String) (paths : List String) (file : Option String)
  deriving DecidableEq, Repr

namespace Command

/-! ## Options -/

/-- An option of a command. -/
inductive Switch
  /-- Print JSON. -/
  | json
  /-- Read filters from a file. -/
  | filters
  deriving DecidableEq, Repr

/-- The option that a word after two hyphens stands for. -/
def Switch.ofWord? : List Char → Option Switch
  | ['j', 's', 'o', 'n'] => some .json
  | ['f', 'i', 'l', 't', 'e', 'r', 's'] => some .filters
  | _ => none

/-- The option that a letter after a hyphen stands for. -/
def Switch.ofLetter? : Char → Option Switch
  | 'f' => some .filters
  | _ => none

/-- Whether an option has a value. -/
def Switch.hasValue : Switch → Bool
  | .json => false
  | .filters => true

/-- What an argument is by itself. -/
inductive Shape
  /-- A text. -/
  | text
  /-- The mark after which all arguments are texts. -/
  | mark
  /-- An option, with the value that stands in the same argument. -/
  | switch (s : Switch) (value : Option String)
  /-- An option that does not exist. -/
  | unknown
  deriving DecidableEq, Repr

/-- What follows the first equals sign. -/
def afterEquals? (cs : List Char) : Option String :=
  match cs.dropWhile (· != '=') with
  | [] => none
  | _ :: value => some (String.ofList value)

/-- What follows the letter of an option as its value. -/
def attachedValue? : List Char → Option String
  | [] => none
  | '=' :: value => some (String.ofList value)
  | value => some (String.ofList value)

/-- The shape of an argument. -/
def shapeOf (arg : String) : Shape :=
  match arg.toList with
  | ['-', '-'] => .mark
  | '-' :: '-' :: cs =>
    match Switch.ofWord? (cs.takeWhile (· != '=')) with
    | some s => .switch s (afterEquals? cs)
    | none => .unknown
  | '-' :: c :: cs =>
    match Switch.ofLetter? c with
    | some s => .switch s (attachedValue? cs)
    | none => .unknown
  | _ => .text

/-! ## Arguments -/

/-- The arguments of a command, sorted. -/
structure Arguments where
  /-- The texts in order. -/
  texts : List String := []
  /-- The options with their values. -/
  switches : List (Switch × String) := []

/-- Adds an option, which must not be there already. -/
def Arguments.addSwitch? (args : Arguments) (s : Switch) (value : String) : Option Arguments :=
  if (args.switches.lookup s).isSome then none
  else some { args with switches := (s, value) :: args.switches }

/-- Adds a text. -/
def Arguments.addText (args : Arguments) (text : String) : Arguments :=
  { args with texts := text :: args.texts }

/-- Sorts arguments, where `allowed` are the options of the command and `waiting` is the option
whose value the first argument has to be. -/
def Arguments.read? (allowed : List Switch) (waiting : Option Switch) :
    List String → Option Arguments
  | [] => if waiting.isSome then none else some {}
  | arg :: rest =>
    match waiting, shapeOf arg with
    | some s, .text => (read? allowed none rest).bind (·.addSwitch? s arg)
    | some _, _ => none
    | none, .text => (read? allowed none rest).map (·.addText arg)
    | none, .mark => some { texts := rest }
    | none, .unknown => none
    | none, .switch s value =>
      if !allowed.contains s then none
      else
        match s.hasValue, value with
        | true, none => read? allowed (some s) rest
        | true, some value => (read? allowed none rest).bind (·.addSwitch? s value)
        | false, none => (read? allowed none rest).bind (·.addSwitch? s "")
        | false, some _ => none

/-! ## Commands -/

/-- The command that a word names, with the given arguments. -/
def ofWord? (word : String) (rest : List String) : Option Command :=
  match word with
  | "match" =>
    (Arguments.read? [] none rest).bind fun args =>
      match args.texts with
      | text :: paths => some (.search text paths)
      | [] => none
  | "check" =>
    (Arguments.read? [] none rest).bind fun args =>
      match args.texts with
      | [text] => some (.check text)
      | _ => none
  | "operands" =>
    (Arguments.read? [.json] none rest).bind fun args =>
      match args.texts with
      | [] => some (.operands (args.switches.lookup .json).isSome)
      | _ => none
  | "filter" =>
    (Arguments.read? [.filters] none rest).bind fun args =>
      match args.texts with
      | name :: paths => some (.filter name paths (args.switches.lookup .filters))
      | [] => none
  | _ => none

/-- The command that arguments ask for; none if they ask for none. -/
def ofArguments? : List String → Option Command
  | [] => none
  | word :: rest => ofWord? word rest

/-- How the program is used. -/
def usage : String :=
  String.join
    ["usage: match EXPRESSION [PATH ...]\n",
     "       check EXPRESSION\n",
     "       operands [--json]\n",
     "       filter NAME [PATH ...] [-f FILE | --filters FILE]\n"]

end Command

end FileSieve
