import FileSieve.Yaml.Error

/-!
# Positions in a YAML text

A `Cursor` is what is left of a text together with the place that has been reached: YAML gives a
meaning to the column of a character, and limits a key to one line.  A line ends in a line feed, a
carriage return, both, or one of three characters beyond ASCII.
-/

namespace FileSieve.Yaml

/-! ## Characters -/

/-- Whether a character ends a line. -/
def isBreak (c : Char) : Bool :=
  c = '\n' || c = '\r' || c.toNat == 0x85 || c.toNat == 0x2028 || c.toNat == 0x2029

/-- Whether a character is a space or a tab. -/
def isBlank (c : Char) : Bool := c = ' ' || c = '\t'

/-- Whether a character separates words. -/
def isSpacing (c : Char) : Bool := isBlank c || isBreak c

/-- Whether a character may stand in an anchor or in the handle of a tag. -/
def isWordChar (c : Char) : Bool := c.isAlphanum || c = '_' || c = '-'

/-- Whether the character at the front of a list separates words; the end of the text does. -/
def startsSpacing : List Char → Bool
  | [] => true
  | c :: _ => isSpacing c

/-- Whether a list starts with a line end; the end of the text counts as one. -/
def startsBreak : List Char → Bool
  | [] => true
  | c :: _ => isBreak c

/-- Whether a text may hold a character. -/
def isAllowed (c : Char) : Bool :=
  let n := c.toNat
  n == 0x09 || n == 0x0A || n == 0x0D || (0x20 ≤ n && n ≤ 0x7E) || n == 0x85
    || (0xA0 ≤ n && n ≤ 0xFFFD) || 0x10000 ≤ n

/-! ## Cursors -/

/-- A place in a text. -/
structure Cursor where
  /-- The characters that are left. -/
  rest : List Char
  /-- The number of characters before the place. -/
  index : Nat := 0
  /-- The number of lines before the place. -/
  line : Nat := 0
  /-- The number of characters before the place on its line. -/
  column : Nat := 0
  deriving Inhabited

namespace Cursor

/-- The character at the place. -/
def peek? (cu : Cursor) : Option Char := cu.rest.head?

/-- Whether a given character is at the place. -/
def isAt (cu : Cursor) (c : Char) : Bool := cu.rest.head? == some c

/-- Whether the text ends here. -/
def atEnd (cu : Cursor) : Bool := cu.rest.isEmpty

/-- The place after `n` characters of the same line. -/
def skip (cu : Cursor) (n : Nat := 1) : Cursor :=
  ⟨cu.rest.drop n, cu.index + n, cu.line, cu.column + n⟩

/-- The characters of the same line that satisfy `p`, and the place after them. -/
def takeWhile (cu : Cursor) (p : Char → Bool) : List Char × Cursor :=
  let taken := cu.rest.takeWhile p
  (taken, cu.skip taken.length)

/-- The place after the characters of the same line that satisfy `p`. -/
def skipWhile (cu : Cursor) (p : Char → Bool) : Cursor := (cu.takeWhile p).2

/-- The place after the rest of the line, without its end. -/
def skipToBreak (cu : Cursor) : Cursor := cu.skipWhile fun c => !isBreak c

/-- What a line end stands for, and the place at the start of the next line. -/
def readBreak (cu : Cursor) : List Char × Cursor :=
  match cu.rest with
  | '\r' :: '\n' :: rest => (['\n'], ⟨rest, cu.index + 2, cu.line + 1, 0⟩)
  | c :: rest =>
    (if c.toNat == 0x2028 || c.toNat == 0x2029 then [c] else ['\n'],
      ⟨rest, cu.index + 1, cu.line + 1, 0⟩)
  | [] => ([], cu)

/-- The place after a line end, if one is here. -/
def skipBreak (cu : Cursor) : Cursor :=
  match cu.rest with
  | c :: _ => if isBreak c then cu.readBreak.2 else cu
  | [] => cu

/-- Whether a document marker made of three given characters starts the line here. -/
def isMarker (cu : Cursor) (c : Char) : Bool :=
  cu.column == 0 &&
    match cu.rest with
    | x :: y :: z :: rest => x = c && y = c && z = c && startsSpacing rest
    | _ => false

/-- Whether a document starts or ends here. -/
def atMarker (cu : Cursor) : Bool := cu.isMarker '-' || cu.isMarker '.'

end Cursor

end FileSieve.Yaml
