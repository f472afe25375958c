import FileSieve.Regex.Syntax

/-!
# Programs

A pattern is matched by a program: an array of instructions, each of which reads a character,
branches, or tests the position, and names the instructions that may come next.  `Program.ofNode`
lays a pattern out from its end to its start, so that the address of what follows is known when
a part is added.
-/

namespace FileSieve.Regex

/-- One instruction of a program. -/
inductive Instruction
  /-- Reads a given character. -/
  | literal (c : Char) (next : Nat)
  /-- Reads a character of a set. -/
  | chars (set : CodeSet) (next : Nat)
  /-- Goes on in two places. -/
  | branch (left right : Nat)
  /-- Tests the position. -/
  | look (l : Look) (next : Nat)
  /-- Accepts. -/
  | accept
  deriving Inhabited

/-- A program and the address where it starts. -/
structure Program where
  /-- The instructions by address. -/
  code : Array Instruction
  /-- The address of the first instruction. -/
  start : Nat
  deriving Inhabited

namespace Program

/-- A program that starts with one more instruction. -/
def add (p : Program) (i : Instruction) : Program :=
  ⟨p.code.push i, p.code.size⟩

/-- The program that does what `part` lays out, a number of times before the given one. -/
def times (part : Program → Program) : (count : Nat) → Program → Program
  | 0, p => p
  | count + 1, p => times part count (part p)

/-- The program that does what `part` lays out, up to a number of times, and then goes on at
`exit`. -/
def upTo (part : Program → Program) (exit : Nat) : (count : Nat) → Program → Program
  | 0, p => p
  | count + 1, p =>
    let inner := part p
    upTo part exit count (inner.add (.branch inner.start exit))

/-- The program that does what `part` lays out any number of times before the given one: a branch
whose left side comes back to it. -/
def loop (part : Program → Program) (p : Program) : Program :=
  let address := p.code.size
  let body := part ⟨p.code.push (.branch p.start p.start), address⟩
  ⟨body.code.setIfInBounds address (.branch body.start p.start), address⟩

mutual

/-- The program that matches `node` and then does the given one. -/
def layOut : Node → Program → Program
  | .empty, p => p
  | .setting, p => p
  | .literal c, p => p.add (.literal c p.start)
  | .chars set, p => p.add (.chars set p.start)
  | .bracket set _, p => p.add (.chars set p.start)
  | .look l, p => p.add (.look l p.start)
  | .group _ body, p => layOut body p
  | .turns body least most, p =>
    match body.turnBounds least most with
    | (least, none) => times (layOut body) least (loop (layOut body) p)
    | (least, some most) => times (layOut body) least (upTo (layOut body) p.start (most - least) p)
  | .sequence parts, p => layOutAll parts p
  | .choice parts, p => layOutAny parts p

/-- The program that matches the parts one after the other and then does the given one. -/
def layOutAll : List Node → Program → Program
  | [], p => p
  | part :: rest, p => layOut part (layOutAll rest p)

/-- The program that matches any one of the parts and then does the given one. -/
def layOutAny : List Node → Program → Program
  | [], p => p
  | [part], p => layOut part p
  | part :: rest, p =>
    let right := layOutAny rest p
    let left := layOut part ⟨right.code, p.start⟩
    left.add (.branch left.start right.start)

end

/-- The program of a pattern. -/
def ofNode (node : Node) : Program :=
  layOut node ⟨#[.accept], 0⟩

end Program

end FileSieve.Regex
