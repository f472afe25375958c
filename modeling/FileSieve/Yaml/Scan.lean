import FileSieve.Yaml.Scalar
import FileSieve.Yaml.Token

/-!
# From YAML text to tokens

`Yaml.scan` reads a text into tokens.  Two things need a memory.  The columns at which block
collections are open say which of them a line ends (`Scanner.unroll`).  And a token that may turn
out to be a key is remembered until its colon comes (`PendingKey`): then a key token, and where a
mapping starts a token for that, are put in front of it.  A key has to end on its line and within
1024 characters.
-/

namespace FileSieve.Yaml

/-! ## The state of the scan -/

/-- A token that may turn out to be a key. -/
structure PendingKey where
  /-- Whether anything but a key is an error. -/
  required : Bool
  /-- The number of tokens before it. -/
  tokenIndex : Nat
  /-- Where it starts. -/
  start : Cursor
  deriving Inhabited

/-- What the scan knows. -/
structure Scanner where
  /-- The place in the text. -/
  cursor : Cursor
  /-- The tokens so far. -/
  tokens : Array Token := #[]
  /-- The column of the innermost open block collection, or -1. -/
  indent : Int := -1
  /-- The columns around it. -/
  outerIndents : List Int := []
  /-- For every open flow collection and for the block around them, innermost first, the token
  that may be a key. -/
  pendingKeys : List (Option PendingKey) := [none]
  /-- Whether a key may start here. -/
  keyAllowed : Bool := true
  deriving Inhabited

namespace Scanner

/-- Whether a flow collection is open. -/
def inFlow (s : Scanner) : Bool := 1 < s.pendingKeys.length

/-- One more token. -/
def emit (s : Scanner) (t : Token) : Scanner := { s with tokens := s.tokens.push t }

/-- One more token, and the place after `n` characters. -/
def emitAndSkip (s : Scanner) (t : Token) (n : Nat := 1) : Scanner :=
  { s.emit t with cursor := s.cursor.skip n }

/-! ## Keys -/

/-- Forgets the innermost pending key; one that is required is an error. -/
def dropKey (s : Scanner) : Except Error Scanner :=
  match s.pendingKeys with
  | some key :: rest =>
    if key.required then .error .missingColon
    else .ok { s with pendingKeys := none :: rest }
  | _ => .ok s

/-- Remembers that the next token may be a key. -/
def saveKey (s : Scanner) : Except Error Scanner :=
  if s.keyAllowed then do
    let s ← s.dropKey
    let required := !s.inFlow && s.indent == (s.cursor.column : Int)
    .ok { s with pendingKeys := some ⟨required, s.tokens.size, s.cursor⟩ :: s.pendingKeys.drop 1 }
  else .ok s

/-- The greatest distance between the start of a key and its colon. -/
def keyLimit : Nat := 1024

/-- Whether a pending key has come too far from its start. -/
def isStale (s : Scanner) (key : PendingKey) : Bool :=
  key.start.line < s.cursor.line || key.start.index + keyLimit < s.cursor.index

/-- Forgets the pending keys that have come too far; one that is required is an error. -/
def dropStaleKeys (s : Scanner) : Except Error Scanner :=
  if s.pendingKeys.any fun key => key.any fun k => s.isStale k && k.required then
    .error .missingColon
  else
    .ok { s with pendingKeys := s.pendingKeys.map fun key => key.filter fun k => !s.isStale k }

/-! ## Indentation -/

/-- Starts a block collection at a column if it is to the right of the open ones; its token goes
in front of the token at `index`. -/
def roll (s : Scanner) (column index : Nat) (t : Token) : Scanner :=
  if s.inFlow || (column : Int) ≤ s.indent then s
  else
    { s with
      tokens := s.tokens.insertIdxIfInBounds index t
      indent := column
      outerIndents := s.indent :: s.outerIndents }

/-- Ends the block collections to the right of a column. -/
def unrollFrom (column : Int) (tokens : Array Token) : (indent : Int) → List Int →
    Array Token × Int × List Int
  | indent, [] => (tokens, indent, [])
  | indent, outer :: rest =>
    if column < indent then unrollFrom column (tokens.push .blockEnd) outer rest
    else (tokens, indent, outer :: rest)

/-- Ends the block collections to the right of a column; there are none to end in a flow
collection. -/
def unroll (s : Scanner) (column : Int) : Scanner :=
  if s.inFlow then s
  else
    let (tokens, indent, outerIndents) := unrollFrom column s.tokens s.indent s.outerIndents
    { s with tokens, indent, outerIndents }

/-! ## Spacing -/

/-- The place of the next token, and whether a key may start there.  Tabs are spacing only where
no key may start.  `fuel` bounds the number of lines. -/
def spacing (inFlow : Bool) : (fuel : Nat) → (keyAllowed : Bool) → Cursor → Bool × Cursor
  | 0, keyAllowed, cu => (keyAllowed, cu)
  | fuel + 1, keyAllowed, cu =>
    let cu := if cu.index = 0 ∧ cu.isAt '\ufeff' then cu.skip else cu
    let cu := cu.skipWhile fun c => c = ' ' || (c = '\t' && (inFlow || !keyAllowed))
    let cu := if cu.isAt '#' then cu.skipToBreak else cu
    if cu.peek?.any isBreak then spacing inFlow fuel (keyAllowed || !inFlow) cu.skipBreak
    else (keyAllowed, cu)

/-! ## Directives -/

/-- A number of at most nine digits. -/
def versionNumber (cu : Cursor) : Except Error (List Char × Cursor) :=
  let (digits, cu) := cu.takeWhile Char.isDigit
  if digits.isEmpty || 9 < digits.length then .error .directive else .ok (digits, cu)

/-- The handle of a tag: an exclamation mark, and perhaps word characters and another one. -/
def tagHandle (cu : Cursor) : Except Error (List Char × Cursor) :=
  if !cu.isAt '!' then .error .tag
  else
    let (word, cu) := cu.skip.takeWhile isWordChar
    if cu.isAt '!' then .ok ('!' :: word ++ ['!'], cu.skip) else .ok ('!' :: word, cu)

/-- Whether a character may stand in a tag. -/
def isTagChar (verbatim : Bool) (c : Char) : Bool :=
  isWordChar c || ";/?:@&=+$.%!~*'()".toList.contains c || (verbatim && [',', '[', ']'].contains c)

/-- The bytes of the escapes at the front, each a percent sign and two hexadecimal digits. -/
def uriByte? : List Char → Option Nat
  | '%' :: x :: y :: _ =>
    if Text.isHexDigit x && Text.isHexDigit y then some (Text.hexValue [x, y]) else none
  | _ => none

/-- The number of characters that the escapes of one character take. -/
def uriEscape (cs : List Char) : Except Error Nat :=
  match uriByte? cs with
  | none => .error .tag
  | some first =>
    let length :=
      if first < 0x80 then 1 else if first < 0xC0 then 0 else if first < 0xE0 then 2
      else if first < 0xF0 then 3 else if first < 0xF8 then 4 else 0
    let later := (List.range (length - 1)).map fun i => uriByte? (cs.drop (3 * (i + 1)))
    if length = 0 || !later.all (fun b => b.any fun n => 0x80 ≤ n && n < 0xC0) then .error .tag
    else .ok (3 * length)

/-- The characters of a tag; `fuel` bounds their number. -/
def tagUri (verbatim : Bool) : (fuel : Nat) → (length : Nat) → Cursor →
    Except Error (Nat × Cursor)
  | 0, length, cu => .ok (length, cu)
  | fuel + 1, length, cu =>
    match cu.peek? with
    | none => .ok (length, cu)
    | some c =>
      if !isTagChar verbatim c then .ok (length, cu)
      else if c = '%' then
        match uriEscape cu.rest with
        | .error e => .error e
        | .ok n => tagUri verbatim fuel (length + 1) (cu.skip n)
      else tagUri verbatim fuel (length + 1) cu.skip

/-- The characters of a tag, of which there has to be one. -/
def nonemptyTagUri (verbatim : Bool) (cu : Cursor) : Except Error Cursor :=
  match tagUri verbatim (cu.rest.length + 1) 0 cu with
  | .error e => .error e
  | .ok (0, _) => .error .tag
  | .ok (_, cu) => .ok cu

/-- A directive after its percent sign. -/
def directive (cu : Cursor) : Except Error (Token × Cursor) := do
  let (name, cu) := cu.takeWhile isWordChar
  if name.isEmpty || !startsSpacing cu.rest then throw .directive
  let (token, cu) ←
    match String.ofList name with
    | "YAML" => do
      let (major, cu) ← versionNumber (cu.skipWhile isBlank)
      if !cu.isAt '.' then throw .directive
      let (minor, cu) ← versionNumber cu.skip
      pure (Token.versionDirective major minor, cu)
    | "TAG" => do
      let (handle, cu) ← tagHandle (cu.skipWhile isBlank)
      if handle.getLast? ≠ some '!' then throw .directive
      if !(cu.peek?.any isBlank) then throw .directive
      let cu ← nonemptyTagUri true (cu.skipWhile isBlank)
      if !startsSpacing cu.rest then throw .directive
      pure (Token.tagDirective handle, cu)
    | _ => throw .directive
  let cu ← skipLineRest .directive cu
  .ok (token, cu)

/-! ## Properties of nodes -/

/-- The name of an anchor or alias after its mark. -/
def anchorName (cu : Cursor) : Except Error (List Char × Cursor) :=
  let (name, cu) := cu.takeWhile isWordChar
  let ends := startsSpacing cu.rest ||
    cu.peek?.any fun c => "?:,]\x7d%@\x60".toList.contains c
  if name.isEmpty || !ends then .error .anchor else .ok (name, cu)

/-- A tag from its exclamation mark on. -/
def tag (inFlow : Bool) (cu : Cursor) : Except Error (Token × Cursor) := do
  let (handle, cu) ←
    if cu.rest.drop 1 |>.head? |>.any (· = '<') then do
      let cu ← nonemptyTagUri true (cu.skip 2)
      if !cu.isAt '>' then throw .tag
      pure ([], cu.skip)
    else do
      let (handle, cu) ← tagHandle cu
      if 1 < handle.length ∧ handle.getLast? = some '!' then
        let cu ← nonemptyTagUri false cu
        pure (handle, cu)
      else
        let (length, cu) ← tagUri false (cu.rest.length + 1) 0 cu
        pure (if length = 0 ∧ handle.length = 1 then [] else ['!'], cu)
  if !(inFlow && cu.isAt ',') && !startsSpacing cu.rest then throw .tag
  .ok (.tag handle, cu)

/-! ## Tokens -/

/-- The end of the text. -/
def endStream (s : Scanner) : Except Error Scanner := do
  let s ← (s.unroll (-1)).dropKey
  .ok { s.emit .streamEnd with keyAllowed := false }

/-- A directive. -/
def fetchDirective (s : Scanner) : Except Error Scanner := do
  let s ← (s.unroll (-1)).dropKey
  let (token, cursor) ← directive s.cursor.skip
  .ok { s.emit token with cursor, keyAllowed := false }

/-- A document marker. -/
def fetchMarker (s : Scanner) (t : Token) : Except Error Scanner := do
  let s ← (s.unroll (-1)).dropKey
  .ok { s.emitAndSkip t 3 with keyAllowed := false }

/-- The opening bracket of a flow collection. -/
def fetchFlowStart (s : Scanner) (t : Token) : Except Error Scanner := do
  let s ← s.saveKey
  .ok { s.emitAndSkip t with pendingKeys := none :: s.pendingKeys, keyAllowed := true }

/-- The closing bracket of a flow collection. -/
def fetchFlowEnd (s : Scanner) (t : Token) : Except Error Scanner := do
  let s ← s.dropKey
  let keys := if s.inFlow then s.pendingKeys.drop 1 else s.pendingKeys
  .ok { s.emitAndSkip t with pendingKeys := keys, keyAllowed := false }

/-- A comma. -/
def fetchFlowEntry (s : Scanner) : Except Error Scanner := do
  let s ← s.dropKey
  .ok { s.emitAndSkip .flowEntry with keyAllowed := true }

/-- The hyphen of a sequence entry. -/
def fetchBlockEntry (s : Scanner) : Except Error Scanner := do
  if !s.inFlow && !s.keyAllowed then throw .misplacedEntry
  let s ← (s.roll s.cursor.column s.tokens.size .blockSequenceStart).dropKey
  .ok { s.emitAndSkip .blockEntry with keyAllowed := true }

/-- The question mark of a key. -/
def fetchKey (s : Scanner) : Except Error Scanner := do
  if !s.inFlow && !s.keyAllowed then throw .misplacedKey
  let s ← (s.roll s.cursor.column s.tokens.size .blockMappingStart).dropKey
  .ok { s.emitAndSkip .key with keyAllowed := !s.inFlow }

/-- The colon of a value. -/
def fetchValue (s : Scanner) : Except Error Scanner :=
  match s.pendingKeys with
  | some key :: rest =>
    let s := { s with tokens := s.tokens.insertIdxIfInBounds key.tokenIndex .key }
    let s := s.roll key.start.column key.tokenIndex .blockMappingStart
    .ok { s.emitAndSkip .value with pendingKeys := none :: rest, keyAllowed := false }
  | _ =>
    if !s.inFlow && !s.keyAllowed then .error .misplacedValue
    else
      let s := s.roll s.cursor.column s.tokens.size .blockMappingStart
      .ok { s.emitAndSkip .value with keyAllowed := !s.inFlow }

/-- An anchor or an alias. -/
def fetchAnchor (s : Scanner) (make : List Char → Token) : Except Error Scanner := do
  let s ← s.saveKey
  let (name, cursor) ← anchorName s.cursor.skip
  .ok { s.emit (make name) with cursor, keyAllowed := false }

/-- A tag. -/
def fetchTag (s : Scanner) : Except Error Scanner := do
  let s ← s.saveKey
  let (token, cursor) ← tag s.inFlow s.cursor
  .ok { s.emit token with cursor, keyAllowed := false }

/-- A block scalar. -/
def fetchBlockScalar (s : Scanner) (literal : Bool) : Except Error Scanner := do
  let s ← s.dropKey
  let (text, cursor) ← blockScalar literal s.indent s.cursor.skip
  .ok { s.emit (.scalar (String.ofList text) .block) with cursor, keyAllowed := true }

/-- A quoted scalar. -/
def fetchQuoted (s : Scanner) (quote : Char) : Except Error Scanner := do
  let s ← s.saveKey
  let (text, cursor) ← quotedWords quote (s.cursor.rest.length + 1) [] s.cursor.skip
  .ok { s.emit (.scalar (String.ofList text) .quoted) with cursor, keyAllowed := false }

/-- A plain scalar; a key may start after it if it reaches over a line end. -/
def fetchPlain (s : Scanner) : Except Error Scanner := do
  let s ← s.saveKey
  let (text, cursor, broken) ←
    plainWords s.inFlow (s.indent + 1) (s.cursor.rest.length + 1) [] {} s.cursor
  .ok { s.emit (.scalar (String.ofList text) .plain) with cursor, keyAllowed := broken }

/-- Whether a plain scalar may start with `c` before `rest`. -/
def startsPlain (inFlow : Bool) (c : Char) (rest : List Char) : Bool :=
  if c = '-' then !(rest.head?.any isBlank)
  else if c = '?' || c = ':' then !inFlow && !startsSpacing rest
  else !isSpacing c && !"-?:,[]\x7b\x7d#&*!|>'\"%@\x60".toList.contains c

/-- The token that starts with `c` before `rest`. -/
def fetch (s : Scanner) (c : Char) (rest : List Char) : Except Error Scanner :=
  if s.cursor.column = 0 ∧ c = '%' then s.fetchDirective
  else if s.cursor.isMarker '-' then s.fetchMarker .documentStart
  else if s.cursor.isMarker '.' then s.fetchMarker .documentEnd
  else if c = '[' then s.fetchFlowStart .flowSequenceStart
  else if c = '\x7b' then s.fetchFlowStart .flowMappingStart
  else if c = ']' then s.fetchFlowEnd .flowSequenceEnd
  else if c = '\x7d' then s.fetchFlowEnd .flowMappingEnd
  else if c = ',' then s.fetchFlowEntry
  else if c = '-' ∧ startsSpacing rest then s.fetchBlockEntry
  else if c = '?' ∧ (s.inFlow ∨ startsSpacing rest) then s.fetchKey
  else if c = ':' ∧ (s.inFlow ∨ startsSpacing rest) then s.fetchValue
  else if c = '*' then s.fetchAnchor .alias
  else if c = '&' then s.fetchAnchor .anchor
  else if c = '!' then s.fetchTag
  else if c = '|' ∧ !s.inFlow then s.fetchBlockScalar true
  else if c = '>' ∧ !s.inFlow then s.fetchBlockScalar false
  else if c = '\'' ∨ c = '"' then s.fetchQuoted c
  else if startsPlain s.inFlow c rest then s.fetchPlain
  else .error .unexpectedCharacter

/-! ## Whole texts -/

/-- Reads the tokens that are left; `fuel` bounds their number. -/
def run : (fuel : Nat) → Scanner → Except Error (List Token)
  | 0, _ => .error .endOfStream
  | fuel + 1, s =>
    let (keyAllowed, cursor) :=
      spacing s.inFlow (s.cursor.rest.length + 1) s.keyAllowed s.cursor
    match ({ s with keyAllowed, cursor } : Scanner).dropStaleKeys with
    | .error e => .error e
    | .ok s =>
      let s := s.unroll s.cursor.column
      match s.cursor.rest with
      | [] => s.endStream.map fun s => s.tokens.toList
      | c :: rest =>
        match s.fetch c rest with
        | .error e => .error e
        | .ok s => run fuel s

end Scanner

/-- The tokens of a text. -/
def scan (text : String) : Except Error (List Token) :=
  let cs := text.toList
  if cs.all isAllowed then Scanner.run (cs.length + 1) { cursor := { rest := cs } }
  else .error .controlCharacter

end FileSieve.Yaml
