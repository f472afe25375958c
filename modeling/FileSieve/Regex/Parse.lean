import FileSieve.Regex.Bracket
import FileSieve.Text.Letter

/-!
# Reading patterns

`Regex.parse` reads a pattern from left to right.  It keeps the parts of the sequence that it is
reading, the finished alternatives of the innermost open group, and for every open group what
surrounds it (`Frame`).  Flags hold from where they are set to the end of their group.
-/

namespace FileSieve.Regex

/-! ## The state of reading -/

/-- What surrounds an open group. -/
structure Frame where
  /-- The parts of the sequence that the group belongs to, latest first. -/
  parts : List Node
  /-- The finished alternatives around that sequence, latest first. -/
  alternatives : List Node
  /-- The flags outside the group. -/
  flags : Flags
  /-- Whether the group captures. -/
  captures : Bool

/-- What has been read of a pattern. -/
structure Reading where
  /-- The parts of the sequence under way, latest first. -/
  parts : List Node := []
  /-- The finished alternatives of the innermost group, latest first. -/
  alternatives : List Node := []
  /-- The flags that hold here. -/
  flags : Flags := {}
  /-- The open groups, innermost first. -/
  frames : List Frame := []
  /-- The names of groups. -/
  names : List (List Char) := []

namespace Reading

/-- One more part at the end of the sequence. -/
def push (r : Reading) (part : Node) : Reading :=
  { r with parts := part :: r.parts }

/-- The alternatives of the innermost group as one node. -/
def body (r : Reading) : Node :=
  .ofChoice ((Node.ofSequence r.parts.reverse :: r.alternatives).reverse)

/-- Opens a group. -/
def openGroup (r : Reading) (captures : Bool) (flags : Flags) : Reading :=
  { r with
    parts := []
    alternatives := []
    flags := flags
    frames := ⟨r.parts, r.alternatives, r.flags, captures⟩ :: r.frames }

/-- Closes the innermost group. -/
def closeGroup (r : Reading) : Except Error Reading :=
  match r.frames with
  | [] => .error .groupUnopened
  | frame :: frames =>
    .ok { r with
      parts := .group frame.captures r.body :: frame.parts
      alternatives := frame.alternatives
      flags := frame.flags
      frames := frames }

/-- Ends an alternative. -/
def nextAlternative (r : Reading) : Reading :=
  { r with parts := [], alternatives := .ofSequence r.parts.reverse :: r.alternatives }

/-- Repeats the last part. -/
def repeatLast (r : Reading) (least : Nat) (most : Option Nat) : Except Error Reading :=
  match r.parts with
  | [] => .error .repetitionMissing
  | .setting :: _ => .error .repetitionMissing
  | .empty :: _ => .error .repetitionMissing
  | part :: rest => .ok { r with parts := .turns part least most :: rest }

end Reading

/-! ## Flags -/

/-- The flags with one of them set or cleared. -/
def Flags.set (flags : Flags) (letter : Char) (value : Bool) : Except Error Flags :=
  match letter with
  | 'i' => .ok { flags with ignoreCase := value }
  | 'm' => .ok { flags with multiLine := value }
  | 's' => .ok { flags with dotAll := value }
  | 'R' => .ok { flags with crlf := value }
  | 'u' => .ok { flags with unicode := value }
  | 'x' => .ok { flags with verbose := value }
  | 'U' => .ok flags
  | _ => .error .flags

/-- A list of flags up to `:` or `)`, which stays in front: the flags that it makes of the given
ones.  `seen` holds the letters and the hyphen that have been read. -/
def flagList : (seen : List Char) → Flags → List Char → Except Error (Flags × List Char)
  | _, _, [] => .error .flags
  | seen, flags, c :: rest =>
    if c = ':' ∨ c = ')' then
      if seen.head? == some '-' then .error .flags else .ok (flags, c :: rest)
    else if seen.contains c then .error .flags
    else if c = '-' then flagList (c :: seen) flags rest
    else
      match flags.set c (!seen.contains '-') with
      | .error e => .error e
      | .ok flags => flagList (c :: seen) flags rest

/-! ## Groups -/

/-- Whether a character may stand in the name of a group. -/
def isGroupNameChar (first : Bool) (c : Char) : Bool :=
  if first then c = '_' || Text.isLetter c
  else c = '_' || c = '.' || c = '[' || c = ']' || Text.isLetterOrNumber c

/-- The name of a group up to `>`, which is passed over. -/
def groupName : (first : Bool) → List Char → Except Error (List Char × List Char)
  | _, [] => .error .groupName
  | first, c :: rest =>
    if c = '>' then .ok ([], rest)
    else if isGroupNameChar first c then
      match groupName false rest with
      | .error e => .error e
      | .ok (name, rest) => .ok (c :: name, rest)
    else .error .groupName

/-- Opens a group with a name. -/
def openNamed (r : Reading) (cs : List Char) : Except Error (Reading × List Char) := do
  let (name, rest) ← groupName true cs
  if name.isEmpty then .error .groupName
  else if r.names.contains name then .error .groupNameDuplicate
  else .ok ({ r with names := name :: r.names }.openGroup true r.flags, rest)

/-- Whether a text is the front of a look-around. -/
def startsLookAround : List Char → Bool
  | '?' :: '=' :: _ => true
  | '?' :: '!' :: _ => true
  | '?' :: '<' :: '=' :: _ => true
  | '?' :: '<' :: '!' :: _ => true
  | _ => false

/-- What an opening bracket introduces: a group, or a setting of flags. -/
def groupStart (r : Reading) (cs : List Char) : Except Error (Reading × List Char) :=
  if startsLookAround cs then .error .lookAround
  else
    match cs with
    | '?' :: 'P' :: '<' :: rest => openNamed r rest
    | '?' :: '<' :: rest => openNamed r rest
    | '?' :: rest =>
      match flagList [] r.flags rest with
      | .error e => .error e
      | .ok (flags, ':' :: behind) => .ok (r.openGroup false flags, behind)
      | .ok (flags, behind) =>
        if rest.head? == some ')' then .error .repetitionMissing
        else .ok ({ r with flags := flags }.push .setting, behind.drop 1)
    | rest => .ok (r.openGroup true r.flags, rest)

/-! ## Repetitions -/

/-- The text after a question mark at its front, which marks a repetition that prefers few
turns. -/
def dropQuestionMark : List Char → List Char
  | '?' :: rest => rest
  | cs => cs

/-- The decimal digits at the front, between which a verbose pattern may have blanks; `fuel` bounds
their number. -/
def boundDigits (flags : Flags) : (fuel : Nat) → List Char → List Char × List Char
  | fuel + 1, c :: rest =>
    if c.isDigit then
      let (digits, cs) := boundDigits flags fuel (skipBlanks flags rest)
      (c :: digits, cs)
    else ([], c :: rest)
  | _, cs => ([], cs)

/-- A bound of a repetition with the blanks around it, if there are digits at all; bounds have 32
bits. -/
def bound (flags : Flags) (cs : List Char) : Except Error (Option Nat × List Char) :=
  let (digits, rest) := boundDigits flags cs.length (cs.dropWhile Text.isBlank)
  let rest := skipBlanks flags (rest.dropWhile Text.isBlank)
  if digits.isEmpty then .ok (none, rest)
  else if Text.decimal digits < Nat.pow 2 32 then .ok (some (Text.decimal digits), rest)
  else .error .repetitionBounds

/-- The bounds of a counted repetition after its opening brace; the closing brace is passed
over. -/
def countedBounds (flags : Flags) (cs : List Char) :
    Except Error ((Nat × Option Nat) × List Char) := do
  let (least, rest) ← bound flags cs
  match least, rest with
  | some n, '}' :: rest => .ok ((n, some n), skipBlanks flags rest)
  | some n, ',' :: rest =>
    match skipBlanks flags rest with
    | '}' :: rest => .ok ((n, none), skipBlanks flags rest)
    | rest =>
      match ← bound flags rest with
      | (some m, '}' :: rest) =>
        if n ≤ m then .ok ((n, some m), skipBlanks flags rest) else .error .repetitionBounds
      | _ => .error .repetitionBounds
  | _, _ => .error .repetitionBounds

/-! ## Parts -/

/-- The set of a point. -/
def dotSet (flags : Flags) : CodeSet :=
  if flags.dotAll then CodeSet.all
  else if flags.crlf then (ofRanges [(0x0A, 0x0A), (0x0D, 0x0D)]).compl
  else (CodeSet.singleton 0x0A).compl

/-- The assertion of `^`. -/
def startLook (flags : Flags) : Look :=
  if !flags.multiLine then .textStart else if flags.crlf then .lineStartCrlf else .lineStart

/-- The assertion of `$`. -/
def endLook (flags : Flags) : Look :=
  if !flags.multiLine then .textEnd else if flags.crlf then .lineEndCrlf else .lineEnd

/-- The node of an atom outside a class. -/
def atomNode (flags : Flags) : Atom → Except Error Node
  | .literal c byte => literalNode flags c byte
  | .set s => .ok (.chars s)
  | .look l => .ok (.look l)

/-- Reads one element of a pattern: a part, a repetition, or one end of a group. -/
def readElement (r : Reading) (c : Char) (rest : List Char) :
    Except Error (Reading × List Char) :=
  match c with
  | '(' => groupStart r (skipBlanks r.flags rest)
  | ')' => r.closeGroup.map fun r => (r, rest)
  | '|' => .ok (r.nextAlternative, rest)
  | '[' =>
    (bracketClass r.flags (2 * rest.length + 2) rest).map fun ((set, depth), rest) =>
      (r.push (.bracket set depth), rest)
  | '?' => (r.repeatLast 0 (some 1)).map fun r => (r, dropQuestionMark rest)
  | '*' => (r.repeatLast 0 none).map fun r => (r, dropQuestionMark rest)
  | '+' => (r.repeatLast 1 none).map fun r => (r, dropQuestionMark rest)
  | '{' => do
    let ((least, most), rest) ← countedBounds r.flags (skipBlanks r.flags rest)
    let r ← r.repeatLast least most
    .ok (r, dropQuestionMark rest)
  | '\\' => do
    let (atom, rest) ← escape r.flags rest
    let node ← atomNode r.flags atom
    .ok (r.push node, rest)
  | '.' => if r.flags.unicode then .ok (r.push (.chars (dotSet r.flags)), rest) else .error .unicode
  | '^' => .ok (r.push (.look (startLook r.flags)), rest)
  | '$' => .ok (r.push (.look (endLook r.flags)), rest)
  | c => (literalNode r.flags c false).map fun node => (r.push node, rest)

/-- Reads the elements that are left; `fuel` bounds their number. -/
def readElements : (fuel : Nat) → Reading → List Char → Except Error Node
  | 0, _, _ => .error .depth
  | fuel + 1, r, cs =>
    match skipBlanks r.flags cs with
    | [] => if r.frames.isEmpty then .ok r.body else .error .groupUnclosed
    | c :: rest =>
      match readElement r c rest with
      | .error e => .error e
      | .ok (r, rest) => readElements fuel r rest

/-- The depth to which a pattern may nest. -/
def depthLimit : Nat := 250

/-- The pattern that a text stands for. -/
def parse (text : String) : Except Error Node := do
  let cs := text.toList
  let node ← readElements (cs.length + 1) {} cs
  if node.depth ≤ depthLimit then .ok node else .error .depth

end FileSieve.Regex
