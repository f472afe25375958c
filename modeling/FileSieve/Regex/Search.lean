import FileSieve.Regex.Program
import FileSieve.Text.Property

/-!
# Searching a text

`Program.search` runs a program on a text, starting anew at every position.  All runs go forward
together, one character at a time: the set of addresses that they have reached is closed under the
instructions that read nothing (`close`), and the character then moves each address that reads it
(`moves`).  The work is bounded by the length of the text times the length of the program.
-/

namespace FileSieve.Regex

/-! ## Assertions -/

/-- Whether a neighbour of a position is a word character. -/
def isWordNeighbour (unicode : Bool) : Option Char → Bool
  | none => false
  | some c =>
    if unicode then Text.wordCharacters.containsChar c else c.isAlphanum || c = '_'

/-- Whether an assertion holds between two neighbours. -/
def Look.holds (before behind : Option Char) : Look → Bool
  | .textStart => before.isNone
  | .textEnd => behind.isNone
  | .lineStart => before.isNone || before == some '\n'
  | .lineEnd => behind.isNone || behind == some '\n'
  | .lineStartCrlf =>
    before.isNone || before == some '\n' || (before == some '\r' && behind != some '\n')
  | .lineEndCrlf =>
    behind.isNone || behind == some '\r' || (behind == some '\n' && before != some '\r')
  | .wordBoundary u => isWordNeighbour u before != isWordNeighbour u behind
  | .notWordBoundary u => isWordNeighbour u before == isWordNeighbour u behind
  | .wordStart u => !isWordNeighbour u before && isWordNeighbour u behind
  | .wordEnd u => isWordNeighbour u before && !isWordNeighbour u behind
  | .wordStartHalf u => !isWordNeighbour u before
  | .wordEndHalf u => !isWordNeighbour u behind

namespace Program

/-! ## Sets of addresses -/

/-- The addresses reached at a position. -/
structure Reached where
  /-- For every address whether it has been reached. -/
  marks : Array Bool
  /-- The reached addresses that read a character. -/
  readers : List Nat := []
  /-- Whether the program has accepted. -/
  accepted : Bool := false

/-- Adds the addresses of a work list and all that they lead to without reading; `fuel` bounds the
number of entries that are looked at. -/
def close (p : Program) (before behind : Option Char) : (fuel : Nat) → List Nat → Reached →
    Reached
  | 0, _, reached => reached
  | _, [], reached => reached
  | fuel + 1, address :: work, reached =>
    if reached.marks[address]?.getD true then close p before behind fuel work reached
    else
      let marked := { reached with marks := reached.marks.setIfInBounds address true }
      match p.code[address]? with
      | none => close p before behind fuel work marked
      | some (.literal _ _) =>
        close p before behind fuel work { marked with readers := address :: marked.readers }
      | some (.chars _ _) =>
        close p before behind fuel work { marked with readers := address :: marked.readers }
      | some (.branch left right) => close p before behind fuel (left :: right :: work) marked
      | some (.look l next) =>
        close p before behind fuel (if l.holds before behind then next :: work else work) marked
      | some .accept => close p before behind fuel work { marked with accepted := true }

/-- Where an address goes with a character. -/
def move? (p : Program) (c : Char) (address : Nat) : Option Nat :=
  match p.code[address]? with
  | some (.literal d next) => if c = d then some next else none
  | some (.chars set next) => if set.containsChar c then some next else none
  | _ => none

/-- The addresses that a character leads to. -/
def moves (p : Program) (c : Char) (readers : List Nat) : List Nat :=
  readers.filterMap (p.move? c)

/-! ## The search -/

/-- What is reached at a position from the listed addresses and from the start of the program. -/
def arrive (p : Program) (before behind : Option Char) (entered : List Nat) : Reached :=
  let work := p.start :: entered
  p.close before behind (work.length + 2 * p.code.size + 1) work
    { marks := Array.replicate p.code.size false }

/-- Whether a run that has entered the listed addresses, or one that starts here or later, accepts;
`before` is the character before the position. -/
def searchFrom (p : Program) (before : Option Char) (entered : List Nat) : List Char → Bool
  | [] => (p.arrive before none entered).accepted
  | c :: rest =>
    let reached := p.arrive before (some c) entered
    reached.accepted || searchFrom p (some c) (p.moves c reached.readers) rest

/-- Whether a text contains a match. -/
def search (p : Program) (text : String) : Bool :=
  p.searchFrom none [] text.toList

end Program

end FileSieve.Regex
