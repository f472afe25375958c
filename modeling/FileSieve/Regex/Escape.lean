import FileSieve.Regex.NamedClass
import FileSieve.Text.Blank

/-!
# Escapes in patterns

What a backslash in a pattern introduces: a character, a class or an assertion (`Atom`).  In
verbose mode blanks and comments may stand between the characters of most escapes;
`skipBlanks` and `advance` pass over them.
-/

namespace FileSieve.Regex

/-- An element of a pattern that stands for one character or one position. -/
inductive Atom
  /-- A character; `byte` marks one given as two hexadecimal digits. -/
  | literal (c : Char) (byte : Bool)
  /-- A class of characters. -/
  | set (s : CodeSet)
  /-- An assertion. -/
  | look (l : Look)
  deriving Inhabited

/-! ## Blanks in verbose patterns -/

/-- The text after blanks and comments, where `inComment` says that a comment is open. -/
def dropBlanks : (inComment : Bool) → List Char → List Char
  | _, [] => []
  | true, c :: rest => dropBlanks (c != '\n') rest
  | false, c :: rest =>
    if Text.isBlank c then dropBlanks false rest
    else if c = '#' then dropBlanks true rest
    else c :: rest

/-- The text after what a verbose pattern skips. -/
def skipBlanks (flags : Flags) (cs : List Char) : List Char :=
  if flags.verbose then dropBlanks false cs else cs

/-- The text after its first character and what a verbose pattern skips then. -/
def advance (flags : Flags) : List Char → List Char
  | [] => []
  | _ :: rest => skipBlanks flags rest

/-! ## Hexadecimal escapes -/

/-- Exactly `count` hexadecimal digits. -/
def hexDigits (flags : Flags) : (count : Nat) → List Char →
    Except Error (List Char × List Char)
  | 0, cs => .ok ([], cs)
  | _ + 1, [] => .error .escape
  | count + 1, c :: rest =>
    if Text.isHexDigit c then
      match hexDigits flags count (skipBlanks flags rest) with
      | .error e => .error e
      | .ok (digits, cs) => .ok (c :: digits, cs)
    else .error .hexadecimal

/-- Characters up to a closing brace, which is passed over; `fuel` bounds their number. -/
def untilBrace (flags : Flags) : (fuel : Nat) → List Char →
    Except Error (List Char × List Char)
  | 0, _ => .error .escape
  | _, [] => .error .escape
  | fuel + 1, c :: rest =>
    if c = '}' then .ok ([], rest)
    else
      match untilBrace flags fuel (skipBlanks flags rest) with
      | .error e => .error e
      | .ok (more, cs) => .ok (c :: more, cs)

/-- The character with a hexadecimal code point. -/
def hexChar (digits : List Char) : Except Error Char :=
  match Text.charOfCode? (Text.hexValue digits) with
  | some c => .ok c
  | none => .error .hexadecimal

/-- A hexadecimal escape after its letter, which takes `count` digits or any number in braces. -/
def hexEscape (flags : Flags) (count : Nat) (cs : List Char) : Except Error (Atom × List Char) :=
  match cs with
  | '{' :: _ => do
    let (digits, rest) ← untilBrace flags cs.length (advance flags cs)
    if digits.isEmpty || !digits.all Text.isHexDigit then .error .hexadecimal
    else
      let c ← hexChar digits
      .ok (.literal c false, skipBlanks flags rest)
  | _ => do
    let (digits, rest) ← hexDigits flags count cs
    let c ← hexChar digits
    .ok (.literal c (count == 2), rest)

/-! ## Unicode classes -/

/-- The parts of a list before and after the first place where `mark` stands. -/
def splitAtMark (mark : List Char) : List Char → Option (List Char × List Char)
  | [] => none
  | c :: rest =>
    if mark.isPrefixOf (c :: rest) then some ([], (c :: rest).drop mark.length)
    else (splitAtMark mark rest).map fun (before, behind) => (c :: before, behind)

/-- The class with the name between the braces of a Unicode class. -/
def bracedClass (name : List Char) : Except Error CodeSet :=
  match splitAtMark ['!', '='] name <|> splitAtMark [':'] name <|> splitAtMark ['='] name with
  | some (property, value) => unicodeClassOf property value
  | none => unicodeClass name

/-- A Unicode class after its letter. -/
def unicodeEscape (flags : Flags) (negated : Bool) (cs : List Char) :
    Except Error (Atom × List Char) :=
  match cs with
  | [] => .error .escape
  | '{' :: _ => do
    let (name, rest) ← untilBrace flags cs.length (advance flags cs)
    let set ← if flags.unicode then bracedClass name else .error .unicode
    let set ← flags.finish negated set
    .ok (.set set, rest)
  | c :: _ => do
    let set ← if c = '\\' || !flags.unicode then .error .unicode else unicodeClass [c]
    let set ← flags.finish negated set
    .ok (.set set, advance flags cs)

/-! ## Word boundaries -/

/-- Whether a character may stand in the name of a word boundary. -/
def isBoundaryNameChar (c : Char) : Bool := c.isAlpha || c = '-'

/-- The characters of the name of a word boundary at the front; `fuel` bounds their number. -/
def boundaryName (flags : Flags) : (fuel : Nat) → List Char → List Char × List Char
  | fuel + 1, c :: rest =>
    if isBoundaryNameChar c then
      let (name, cs) := boundaryName flags fuel (skipBlanks flags rest)
      (c :: name, cs)
    else ([], c :: rest)
  | _, cs => ([], cs)

/-- A word boundary after its letter: a plain one, or a special one that is named in braces.
Braces that do not start with a name are a repetition and stay where they are. -/
def wordBoundary (flags : Flags) (cs : List Char) : Except Error (Atom × List Char) :=
  let plain : Except Error (Atom × List Char) := .ok (.look (.wordBoundary flags.unicode), cs)
  match cs with
  | '{' :: _ =>
    match advance flags cs with
    | [] => .error .escape
    | c :: inner =>
      if !isBoundaryNameChar c then plain
      else
        match boundaryName flags cs.length (c :: inner) with
        | (name, '}' :: rest) =>
          match String.ofList name with
          | "start" => .ok (.look (.wordStart flags.unicode), rest)
          | "end" => .ok (.look (.wordEnd flags.unicode), rest)
          | "start-half" => .ok (.look (.wordStartHalf flags.unicode), rest)
          | "end-half" => .ok (.look (.wordEndHalf flags.unicode), rest)
          | _ => .error .escape
        | _ => .error .escape
  | _ => plain

/-! ## All escapes -/

/-- Whether a character with a backslash before it stands for itself: every ASCII character that
is neither a letter nor a digit, except the two angle brackets. -/
def standsForItself (c : Char) : Bool :=
  c.toNat < 0x80 && !c.isAlphanum && c != '<' && c != '>'

/-- What follows a backslash. -/
def escape (flags : Flags) : List Char → Except Error (Atom × List Char)
  | [] => .error .escape
  | c :: rest =>
    if c.isDigit then .error .backreference
    else if standsForItself c then .ok (.literal c false, rest)
    else
      match c with
      | 'x' => hexEscape flags 2 (skipBlanks flags rest)
      | 'u' => hexEscape flags 4 (skipBlanks flags rest)
      | 'U' => hexEscape flags 8 (skipBlanks flags rest)
      | 'p' => unicodeEscape flags false (skipBlanks flags rest)
      | 'P' => unicodeEscape flags true (skipBlanks flags rest)
      | 'a' => .ok (.literal '\x07' false, rest)
      | 'f' => .ok (.literal '\x0c' false, rest)
      | 't' => .ok (.literal '\t' false, rest)
      | 'n' => .ok (.literal '\n' false, rest)
      | 'r' => .ok (.literal '\r' false, rest)
      | 'v' => .ok (.literal '\x0b' false, rest)
      | 'A' => .ok (.look .textStart, rest)
      | 'z' => .ok (.look .textEnd, rest)
      | 'b' => wordBoundary flags rest
      | 'B' => .ok (.look (.notWordBoundary flags.unicode), rest)
      | '<' => .ok (.look (.wordStart flags.unicode), rest)
      | '>' => .ok (.look (.wordEnd flags.unicode), rest)
      | c =>
        if ['d', 'D', 's', 'S', 'w', 'W'].contains c then
          (letterClass flags c).map fun set => (.set set, rest)
        else .error .escape

/-- The character that an atom stands for outside a class, as a set if case is ignored. -/
def literalNode (flags : Flags) (c : Char) (byte : Bool) : Except Error Node :=
  if byte && !flags.unicode && 0x7F < c.toNat then .error .unicode
  else if flags.ignoreCase && (flags.unicode || c.toNat < 0x80) then
    .ok (.chars (flags.fold (CodeSet.singleton c.toNat)))
  else .ok (.literal c)

end FileSieve.Regex
