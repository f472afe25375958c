import FileSieve.Filter.Set
import FileSieve.Yaml.Node

/-!
# Reading filter files

A filter file is a YAML mapping with the fields `description` and `filters`, both of which may be
left out; `filters` is a mapping from names to texts.  Every scalar is taken as text, whatever it
looks like.  Other fields are ignored, a field that is given twice is an error, and of two filters
with one name the later counts.
-/

namespace FileSieve

namespace FilterFile

/-- The filters of a mapping. -/
def readFilters (d : Yaml.Document) (filters : Std.TreeMap String String) :
    List (Yaml.Node × Yaml.Node) → Except Yaml.Error (Std.TreeMap String String)
  | [] => .ok filters
  | (key, value) :: rest => do
    let name ← d.text key
    let text ← d.text value
    readFilters d (filters.insert name text) rest

/-- The fields of a filter file; `seen` lists those that have been read. -/
def readFields (d : Yaml.Document) (seen : List String) (file : FilterFile) :
    List (Yaml.Node × Yaml.Node) → Except Yaml.Error FilterFile
  | [] => .ok file
  | (key, value) :: rest => do
    let name ← d.text key
    if seen.contains name then .error .duplicateField
    else if name = "description" then
      let description ← d.text value
      readFields d (name :: seen) { file with description } rest
    else if name = "filters" then
      let filters ← readFilters d {} (← d.entries value)
      readFields d (name :: seen) { file with filters } rest
    else readFields d seen file rest

/-- The filter file that a text is. -/
def read (text : String) : Except Yaml.Error FilterFile := do
  let d ← Yaml.document text
  match d.root with
  | none => .ok {}
  | some root => readFields d [] {} (← d.entries root)

end FilterFile

/-- Reads and compiles a filter file. -/
def FilterSet.load {α ρ : Type} [Operand α ρ] (registry : Registry α) (fs : FileSystem)
    (path : FilePath) : Except (FilterError ρ) (FilterSet α) :=
  match fs.readText path with
  | .error e => .error (.file e)
  | .ok text =>
    match FilterFile.read text with
    | .error e => .error (.format e.message)
    | .ok file => FilterSet.compile registry file

end FileSieve
