import FileSieve.Text.CodeSet

/-!
# The structure of patterns

A pattern is a tree of `Node`s over sets of characters and assertions about a position (`Look`).
The tree keeps the groups and bracketed classes of the written form, because the depth to which a
pattern may nest is limited (`Node.depth`); for matching they have no meaning of their own.

Whether a text contains a match does not depend on what is captured nor on whether a repetition
prefers more or fewer turns, so the tree records neither.
-/

namespace FileSieve.Regex

/-- An assertion about a position between two characters. -/
inductive Look
  /-- The start of the text. -/
  | textStart
  /-- The end of the text. -/
  | textEnd
  /-- The start of a line, where lines end in line feeds. -/
  | lineStart
  /-- The end of a line, where lines end in line feeds. -/
  | lineEnd
  /-- The start of a line, where lines end in carriage returns, line feeds or both. -/
  | lineStartCrlf
  /-- The end of a line, where lines end in carriage returns, line feeds or both. -/
  | lineEndCrlf
  /-- Exactly one neighbour is a word character. -/
  | wordBoundary (unicode : Bool)
  /-- Both neighbours are word characters, or none is. -/
  | notWordBoundary (unicode : Bool)
  /-- Only the neighbour to the right is a word character. -/
  | wordStart (unicode : Bool)
  /-- Only the neighbour to the left is a word character. -/
  | wordEnd (unicode : Bool)
  /-- The neighbour to the left is no word character. -/
  | wordStartHalf (unicode : Bool)
  /-- The neighbour to the right is no word character. -/
  | wordEndHalf (unicode : Bool)
  deriving DecidableEq, Repr, Inhabited

/-- A part of a pattern. -/
inductive Node
  /-- Matches the empty text. -/
  | empty
  /-- A setting of flags, which matches the empty text and cannot be repeated. -/
  | setting
  /-- One given character. -/
  | literal (c : Char)
  /-- One character of a set. -/
  | chars (set : CodeSet)
  /-- One character of a bracketed class that nests to the given depth. -/
  | bracket (set : CodeSet) (depth : Nat)
  /-- An assertion. -/
  | look (l : Look)
  /-- A parenthesised part, and whether it captures. -/
  | group (captures : Bool) (body : Node)
  /-- A number of turns, without an upper end if `most` is `none`. -/
  | turns (body : Node) (least : Nat) (most : Option Nat)
  /-- Parts one after the other. -/
  | sequence (parts : List Node)
  /-- Any one of the parts. -/
  | choice (parts : List Node)
  deriving Inhabited

namespace Node

/-- Parts one after the other; one part stands for itself. -/
def ofSequence : List Node → Node
  | [] => .empty
  | [part] => part
  | parts => .sequence parts

/-- Any one of the parts; one part stands for itself. -/
def ofChoice : List Node → Node
  | [] => .empty
  | [part] => part
  | parts => .choice parts

mutual

/-- How deeply a pattern nests. -/
def depth : Node → Nat
  | .bracket _ d => d
  | .group _ body => body.depth + 1
  | .turns body _ _ => body.depth + 1
  | .sequence parts => maxDepth parts + 1
  | .choice parts => maxDepth parts + 1
  | _ => 0

/-- The greatest depth of the parts. -/
def maxDepth : List Node → Nat
  | [] => 0
  | part :: rest => max part.depth (maxDepth rest)

end

mutual

/-- Whether a pattern matches the empty text only, whatever its assertions. -/
def isWeightless : Node → Bool
  | .empty => true
  | .setting => true
  | .look _ => true
  | .group _ body => body.isWeightless
  | .turns body _ most => most == some 0 || body.isWeightless
  | .sequence parts => allWeightless parts
  | .choice parts => allWeightless parts
  | _ => false

/-- Whether each of the parts matches the empty text only. -/
def allWeightless : List Node → Bool
  | [] => true
  | part :: rest => part.isWeightless && allWeightless rest

end

/-- The bounds of a repetition; more than one turn of a weightless body comes to one. -/
def turnBounds (body : Node) (least : Nat) (most : Option Nat) : Nat × Option Nat :=
  if body.isWeightless then (min least 1, some (min (most.getD 1) 1)) else (least, most)

end Node

/-! ## Flags -/

/-- The flags under which a part of a pattern is read. -/
structure Flags where
  /-- Letters match in either case. -/
  ignoreCase : Bool := false
  /-- `^` and `$` match at the ends of lines. -/
  multiLine : Bool := false
  /-- `.` matches line ends. -/
  dotAll : Bool := false
  /-- A carriage return is part of a line end. -/
  crlf : Bool := false
  /-- Classes are those of Unicode. -/
  unicode : Bool := true
  /-- Blanks and comments in the pattern are skipped. -/
  verbose : Bool := false
  deriving DecidableEq, Repr, Inhabited

/-! ## Errors -/

/-- Why a text is not a pattern. -/
inductive Error
  /-- A group is not closed. -/
  | groupUnclosed
  /-- A group is closed that was not opened. -/
  | groupUnopened
  /-- The name of a group is malformed. -/
  | groupName
  /-- Two groups have the same name. -/
  | groupNameDuplicate
  /-- A flag is unknown, repeated or missing. -/
  | flags
  /-- Look-around is not supported. -/
  | lookAround
  /-- A repetition has nothing to repeat. -/
  | repetitionMissing
  /-- The bounds of a repetition are malformed. -/
  | repetitionBounds
  /-- A class is not closed. -/
  | classUnclosed
  /-- A class has something that is not a character. -/
  | classItem
  /-- A range in a class runs backwards. -/
  | classRange
  /-- An escape is incomplete or unknown. -/
  | escape
  /-- Back-references are not supported. -/
  | backreference
  /-- A hexadecimal escape names no character. -/
  | hexadecimal
  /-- A class name is unknown. -/
  | className
  /-- A part would match text that is not Unicode, or needs Unicode classes without having them. -/
  | unicode
  /-- The pattern nests too deeply. -/
  | depth
  /-- The pattern is too large. -/
  | size
  deriving DecidableEq, Repr, Inhabited

/-- The wording of an error. -/
def Error.message : Error → String
  | .groupUnclosed => "unclosed group"
  | .groupUnopened => "unopened group"
  | .groupName => "invalid capture group name"
  | .groupNameDuplicate => "duplicate capture group name"
  | .flags => "invalid flags"
  | .lookAround => "look-around, including look-ahead and look-behind, is not supported"
  | .repetitionMissing => "repetition operator missing expression"
  | .repetitionBounds => "invalid repetition count"
  | .classUnclosed => "unclosed character class"
  | .classItem => "invalid item in character class"
  | .classRange => "invalid character class range"
  | .escape => "unrecognized escape sequence"
  | .backreference => "backreferences are not supported"
  | .hexadecimal => "hexadecimal literal is not a Unicode scalar value"
  | .className => "Unicode property not found"
  | .unicode => "pattern can match invalid UTF-8"
  | .depth => "exceeded the maximum nesting depth"
  | .size => "compiled pattern exceeds the size limit"

end FileSieve.Regex
