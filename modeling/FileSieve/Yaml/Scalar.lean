import FileSieve.Text.Decimal
import FileSieve.Yaml.Cursor

/-!
# Scalars

The three ways of writing a scalar.  A plain scalar extends to an indicator that ends it, a quoted
one to its closing quote, and a block scalar as far as its lines are indented.  In the first two,
line ends are folded: one line end is a space, and of several the first is dropped (`Gap.text`).
-/

namespace FileSieve.Yaml

/-! ## Folded line ends -/

/-- The spacing between two words of a scalar. -/
structure Gap where
  /-- The blanks, if the line does not end. -/
  blanks : List Char := []
  /-- What the first line end stands for. -/
  firstBreak : List Char := []
  /-- What the other line ends stand for. -/
  laterBreaks : List Char := []
  /-- Whether the line ends. -/
  broken : Bool := false
  deriving Inhabited

/-- Line ends after folding. -/
def foldBreaks (first later : List Char) : List Char :=
  match first with
  | '\n' :: _ => if later.isEmpty then [' '] else later
  | _ => first ++ later

/-- What the spacing stands for. -/
def Gap.text (g : Gap) : List Char :=
  if g.broken then foldBreaks g.firstBreak g.laterBreaks else g.blanks

/-- Reads spacing.  A tab on a later line left of column `indent` is refused.  `fuel` bounds the
number of characters. -/
def readGap (indent : Int) : (fuel : Nat) → Gap → Cursor → Except Error (Gap × Cursor)
  | 0, g, cu => .ok (g, cu)
  | fuel + 1, g, cu =>
    match cu.rest with
    | [] => .ok (g, cu)
    | c :: _ =>
      if isBlank c then
        if g.broken then
          if c = '\t' ∧ (cu.column : Int) < indent then .error .tabIndentation
          else readGap indent fuel g cu.skip
        else readGap indent fuel { g with blanks := g.blanks ++ [c] } cu.skip
      else if isBreak c then
        let (text, next) := cu.readBreak
        if g.broken then
          readGap indent fuel { g with laterBreaks := g.laterBreaks ++ text } next
        else readGap indent fuel { g with firstBreak := text, broken := true } next
      else .ok (g, cu)

/-! ## Plain scalars -/

/-- Whether a character is an indicator of flow collections. -/
def isFlowIndicator (c : Char) : Bool := [',', '[', ']', '\x7b', '\x7d'].contains c

/-- The characters at the front that belong to a plain scalar, up to spacing or an indicator that
ends it. -/
def plainWord (inFlow : Bool) : List Char → Except Error (List Char)
  | [] => .ok []
  | c :: rest =>
    if isSpacing c then .ok []
    else if inFlow && c = ':' && rest.head?.any (fun d => isFlowIndicator d || d = '?') then
      .error .flowColon
    else if (c = ':' && startsSpacing rest) || (inFlow && isFlowIndicator c) then .ok []
    else (plainWord inFlow rest).map (c :: ·)

/-- Reads the words of a plain scalar; `text` holds those before, `gap` the spacing after them.
Gives the text, the place after the scalar, and whether a line end has been passed after the last
word.  `fuel` bounds the number of words. -/
def plainWords (inFlow : Bool) (indent : Int) : (fuel : Nat) → (text : List Char) → Gap →
    Cursor → Except Error (List Char × Cursor × Bool)
  | 0, text, gap, cu => .ok (text, cu, gap.broken)
  | fuel + 1, text, gap, cu =>
    if cu.atMarker || cu.isAt '#' then .ok (text, cu, gap.broken)
    else
      match plainWord inFlow cu.rest with
      | .error e => .error e
      | .ok word =>
        let text := if word.isEmpty then text else text ++ gap.text ++ word
        let gap := if word.isEmpty then gap else {}
        let cu := cu.skip word.length
        if !(cu.peek?.any isSpacing) then .ok (text, cu, gap.broken)
        else
          match readGap indent (cu.rest.length + 1) gap cu with
          | .error e => .error e
          | .ok (gap, cu) =>
            if !inFlow && (cu.column : Int) < indent then .ok (text, cu, gap.broken)
            else plainWords inFlow indent fuel text gap cu

/-! ## Quoted scalars -/

/-- The character of an escape that is one letter. -/
def letterEscape? (c : Char) : Option Char :=
  match c with
  | '0' => some '\x00'
  | 'a' => some '\x07'
  | 'b' => some '\x08'
  | 't' => some '\t'
  | '\t' => some '\t'
  | 'n' => some '\n'
  | 'v' => some '\x0b'
  | 'f' => some '\x0c'
  | 'r' => some '\r'
  | 'e' => some '\x1b'
  | ' ' => some ' '
  | '"' => some '"'
  | '/' => some '/'
  | '\\' => some '\\'
  | 'N' => some '\u0085'
  | '_' => some '\u00a0'
  | 'L' => some '\u2028'
  | 'P' => some '\u2029'
  | _ => none

/-- The number of hexadecimal digits after the letter of an escape. -/
def escapeDigits? (c : Char) : Option Nat :=
  match c with
  | 'x' => some 2
  | 'u' => some 4
  | 'U' => some 8
  | _ => none

/-- The character that is escaped after a backslash, and the number of characters that its escape
takes. -/
def readEscape : List Char → Except Error (Char × Nat)
  | [] => .error .escape
  | c :: rest =>
    match letterEscape? c, escapeDigits? c with
    | some d, _ => .ok (d, 1)
    | none, some count =>
      let digits := rest.take count
      if digits.length < count || !digits.all Text.isHexDigit then .error .escape
      else
        match Text.charOfCode? (Text.hexValue digits) with
        | some d => .ok (d, 1 + count)
        | none => .error .escape
    | none, none => .error .escape

/-- Reads characters of a quoted scalar up to spacing or its quote.  Gives them, the place after
them, and whether they end in an escaped line end.  `fuel` bounds their number. -/
def quotedWord (quote : Char) : (fuel : Nat) → (word : List Char) → Cursor →
    Except Error (List Char × Cursor × Bool)
  | 0, word, cu => .ok (word, cu, false)
  | fuel + 1, word, cu =>
    match cu.rest with
    | [] => .ok (word, cu, false)
    | c :: rest =>
      if isSpacing c then .ok (word, cu, false)
      else if quote = '\'' ∧ c = '\'' ∧ rest.head? = some '\'' then
        quotedWord quote fuel (word ++ ['\'']) (cu.skip 2)
      else if c = quote then .ok (word, cu, false)
      else if quote = '"' ∧ c = '\\' then
        if rest.head?.any isBreak then .ok (word, cu.skip.skipBreak, true)
        else
          match readEscape rest with
          | .error e => .error e
          | .ok (d, length) => quotedWord quote fuel (word ++ [d]) (cu.skip (1 + length))
      else quotedWord quote fuel (word ++ [c]) cu.skip

/-- Reads a quoted scalar after its opening quote; `text` holds the words before.  `fuel` bounds
the number of words. -/
def quotedWords (quote : Char) : (fuel : Nat) → (text : List Char) → Cursor →
    Except Error (List Char × Cursor)
  | 0, _, _ => .error .unclosedQuote
  | fuel + 1, text, cu =>
    if cu.atMarker then .error .documentMarker
    else if cu.atEnd then .error .unclosedQuote
    else
      match quotedWord quote (cu.rest.length + 1) [] cu with
      | .error e => .error e
      | .ok (word, cu, escapedBreak) =>
        if cu.isAt quote then .ok (text ++ word, cu.skip)
        else
          match readGap 0 (cu.rest.length + 1) { broken := escapedBreak } cu with
          | .error e => .error e
          | .ok (gap, cu) => quotedWords quote fuel (text ++ word ++ gap.text) cu

/-! ## Block scalars -/

/-- What is done with the line ends at the end of a block scalar. -/
inductive Chomping
  /-- They are dropped. -/
  | strip
  /-- One is kept. -/
  | clip
  /-- All are kept. -/
  | keep
  deriving DecidableEq, Repr, Inhabited

/-- The chomping that a character asks for. -/
def chompingOf? (c : Char) : Option Chomping :=
  if c = '+' then some .keep else if c = '-' then some .strip else none

/-- The indentation that a character asks for, which is not zero. -/
def incrementOf? (c : Char) : Except Error (Option Nat) :=
  if c = '0' then .error .blockHeader
  else if c.isDigit then .ok (some (c.toNat - '0'.toNat))
  else .ok none

/-- The chomping and the indentation after the mark of a block scalar, in either order. -/
def blockHeader (cu : Cursor) : Except Error (Chomping × Option Nat × Cursor) := do
  let first := cu.peek?.bind chompingOf?
  let cu := if first.isSome then cu.skip else cu
  let increment ←
    match cu.peek? with
    | some c => incrementOf? c
    | none => .ok none
  let cu := if increment.isSome then cu.skip else cu
  let second := if first.isNone && increment.isSome then cu.peek?.bind chompingOf? else none
  let cu := if second.isSome then cu.skip else cu
  .ok ((first <|> second).getD .clip, increment, cu)

/-- Reads the empty lines before a line of a block scalar, with their indentation; without a known
indentation every space belongs to it.  Gives the line ends, the widest column, and the place
after them. -/
def blockBreaks (indent : Option Nat) : (fuel : Nat) → (breaks : List Char) → (widest : Nat) →
    Cursor → Except Error (List Char × Nat × Cursor)
  | 0, breaks, widest, cu => .ok (breaks, widest, cu)
  | fuel + 1, breaks, widest, cu =>
    let spaces := (cu.rest.takeWhile (· = ' ')).length
    let room := indent.map (· - cu.column)
    let cu := cu.skip (min spaces (room.getD spaces))
    let widest := max widest cu.column
    if cu.isAt '\t' && (indent.all fun n => cu.column < n) then .error .tabIndentation
    else if cu.peek?.any isBreak then
      let (text, next) := cu.readBreak
      blockBreaks indent fuel (breaks ++ text) widest next
    else .ok (breaks, widest, cu)

/-- Reads the lines of a block scalar that are indented by `indent` columns.  `text` holds the
lines before, `lineEnd` the end of the last one, `breaks` the line ends of the empty lines after
it, and `afterBlank` says whether it starts with a blank.  `fuel` bounds the number of lines. -/
def blockLines (literal : Bool) (indent : Nat) : (fuel : Nat) →
    (text lineEnd breaks : List Char) → (afterBlank : Bool) → Cursor →
    Except Error (List Char × List Char × List Char × Cursor)
  | 0, text, lineEnd, breaks, _, cu => .ok (text, lineEnd, breaks, cu)
  | fuel + 1, text, lineEnd, breaks, afterBlank, cu =>
    if cu.column ≠ indent ∨ cu.atEnd then .ok (text, lineEnd, breaks, cu)
    else
      let startsBlank := cu.peek?.any isBlank
      let folds := !literal && lineEnd.head? == some '\n' && !afterBlank && !startsBlank
      let joint := if folds then (if breaks.isEmpty then [' '] else breaks) else lineEnd ++ breaks
      let (line, cu) := cu.takeWhile fun c => !isBreak c
      let (lineEnd, cu) := cu.readBreak
      match blockBreaks (some indent) (cu.rest.length + 1) [] 0 cu with
      | .error e => .error e
      | .ok (breaks, _, cu) =>
        blockLines literal indent fuel (text ++ joint ++ line) lineEnd breaks startsBlank cu

/-- The place after blanks, a comment and a line end, which have to follow here. -/
def skipLineRest (e : Error) (cu : Cursor) : Except Error Cursor :=
  let cu := cu.skipWhile isBlank
  let cu := if cu.isAt '#' then cu.skipToBreak else cu
  if startsBreak cu.rest then .ok cu.skipBreak else .error e

/-- Reads a block scalar after its mark, inside a collection at column `parent`. -/
def blockScalar (literal : Bool) (parent : Int) (cu : Cursor) :
    Except Error (List Char × Cursor) := do
  let (chomping, increment, cu) ← blockHeader cu
  let cu ← skipLineRest .blockHeader cu
  let given := increment.map fun n => (max parent 0).toNat + n
  let (breaks, widest, cu) ← blockBreaks given (cu.rest.length + 1) [] 0 cu
  let indent := given.getD (max (max widest (parent + 1).toNat) 1)
  let (text, lineEnd, breaks, cu) ←
    blockLines literal indent (cu.rest.length + 1) [] [] breaks false cu
  match chomping with
  | .strip => .ok (text, cu)
  | .clip => .ok (text ++ lineEnd, cu)
  | .keep => .ok (text ++ lineEnd ++ breaks, cu)

end FileSieve.Yaml
