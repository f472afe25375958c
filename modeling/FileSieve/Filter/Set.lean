import Std.Data.TreeMap
import FileSieve.FileSystem
import FileSieve.Registry

/-!
# Named filters

A `FilterFile` maps names to the texts of expressions.  `FilterSet.compile` parses them all, in the
order of their names, and the first one that fails is the error of the whole set; a compiled set
maps the same names to expressions.
-/

namespace FileSieve

/-- Filters by name, in textual form. -/
structure FilterFile where
  /-- What the filters are for. -/
  description : String := ""
  /-- The texts of the filters. -/
  filters : Std.TreeMap String String := {}

/-- Why filters cannot be used, where operands refuse their values for reasons in `ρ`. -/
inductive FilterError (ρ : Type)
  /-- A filter does not parse. -/
  | filter (name : String) (source : ExpressionError ρ)
  /-- There is no filter of this name. -/
  | filterNotFound (name : String)
  /-- No filter file is given. -/
  | noFilterFile
  /-- The filter file cannot be read. -/
  | file (e : FileError)
  /-- The content of the filter file is not a filter file. -/
  | format (message : String)
  deriving DecidableEq, Repr

/-- The wording of an error. -/
def FilterError.message {ρ : Type} [ToString ρ] : FilterError ρ → String
  | .filter name source => "filter '" ++ name ++ "': " ++ source.message
  | .filterNotFound name => "filter '" ++ name ++ "' not found"
  | .noFilterFile =>
    "configuration error: no filter file given: use --filters or set BOOLEXPR_FILTERS"
  | .file e => e.message
  | .format message => message

/-- Filters by name, ready for evaluation. -/
structure FilterSet (α : Type) where
  /-- The expressions of the filters. -/
  filters : Std.TreeMap String (Expression α) := {}

namespace FilterSet

variable {α ρ : Type}

/-- The expression of a filter. -/
def get? (set : FilterSet α) (name : String) : Option (Expression α) := set.filters[name]?

/-- The expression of a filter, which has to exist. -/
def require (set : FilterSet α) (name : String) : Except (FilterError ρ) (Expression α) :=
  match set.get? name with
  | some e => .ok e
  | none => .error (.filterNotFound name)

/-- The names of the filters in order. -/
def names (set : FilterSet α) : List String := set.filters.keys

/-- The number of filters. -/
def size (set : FilterSet α) : Nat := set.filters.size

/-- Whether there is no filter. -/
def isEmpty (set : FilterSet α) : Bool := set.filters.isEmpty

variable [Operand α ρ]

/-- Whether a filter reads the given information. -/
def needs (set : FilterSet α) (capability : Capability) : Bool :=
  set.filters.values.any (·.needs capability)

/-- Adds the listed filters to a set; the first one that does not parse is the error. -/
def compileFrom (registry : Registry α) (set : FilterSet α) :
    List (String × String) → Except (FilterError ρ) (FilterSet α)
  | [] => .ok set
  | (name, text) :: rest =>
    match registry.parse text with
    | .error e => .error (.filter name e)
    | .ok e => compileFrom registry ⟨set.filters.insert name e⟩ rest

/-- The filters of a file, ready for evaluation. -/
def compile (registry : Registry α) (file : FilterFile) : Except (FilterError ρ) (FilterSet α) :=
  compileFrom registry {} file.filters.toList

end FilterSet

end FileSieve
