import FileSieve.Regex.Parse
import FileSieve.Regex.Search
import FileSieve.Regex.Weight

/-!
# Regular expressions

A `Regex` is a pattern that has been read and laid out as a program.  `Regex.compile` refuses
texts that are no pattern and patterns that are too large; `Regex.isMatch` says whether a text
contains a match, in time proportional to the length of the text.
-/

namespace FileSieve

/-- A regular expression, ready to be matched. -/
structure Regex where
  /-- The program that searches for matches. -/
  program : Regex.Program
  deriving Inhabited

namespace Regex

/-- The regular expression that a text stands for. -/
def compile (pattern : String) : Except Error Regex := do
  let node ← parse pattern
  if fits node then .ok ⟨Program.ofNode node⟩ else .error .size

/-- Whether a text contains a match. -/
def isMatch (r : Regex) (text : String) : Bool := r.program.search text

end Regex

end FileSieve
