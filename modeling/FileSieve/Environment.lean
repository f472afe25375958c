import Std.Data.TreeMap

/-!
# Environments

The variables under which a command runs, each with a name and a text.
-/

namespace FileSieve

/-- Variables by name. -/
structure Environment where
  /-- The texts of the variables. -/
  entries : Std.TreeMap String String := {}

namespace Environment

/-- The text of a variable, if it is set. -/
def get? (env : Environment) (name : String) : Option String := env.entries[name]?

/-- The text of a variable, empty if it is not set. -/
def expand (env : Environment) (name : String) : String := (env.get? name).getD ""

/-- Sets a variable. -/
def set (env : Environment) (name value : String) : Environment :=
  ⟨env.entries.insert name value⟩

/-- Sets a variable unless it is set already. -/
def setDefault (env : Environment) (name value : String) : Environment :=
  if (env.get? name).isSome then env else env.set name value

/-- The environment with the listed variables. -/
def ofList (entries : List (String × String)) : Environment :=
  entries.foldl (fun env v => env.set v.1 v.2) {}

end Environment

end FileSieve
