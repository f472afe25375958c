import FileSieve.Text.Decimal
import FileSieve.Yaml.Error
import FileSieve.Yaml.Token

/-!
# Events of YAML

The events of a YAML text are its nodes in order, with a start and an end for every collection and
every document, and an empty scalar wherever a node is left out.  `Yaml.events` derives them from
tokens with a stack of expectations: each says what may come next, and every event pops one and
pushes those that it opens.
-/

namespace FileSieve.Yaml

/-- A step in the traversal of a text. -/
inductive Event
  | documentStart
  | documentEnd
  | alias (name : List Char)
  | scalar (anchor : Option (List Char)) (text : String) (style : ScalarStyle)
  | sequenceStart (anchor : Option (List Char))
  | sequenceEnd
  | mappingStart (anchor : Option (List Char))
  | mappingEnd
  deriving DecidableEq, Repr, Inhabited

namespace Event

/-- The scalar that stands for a node that is left out. -/
def missing : Event := .scalar none "" .plain

end Event

/-! ## Expectations -/

/-- What may come next. -/
inductive Expectation
  /-- A document, with or without a marker. -/
  | firstDocument
  /-- A document with a marker, or the end of the text. -/
  | document
  /-- The node of a document. -/
  | documentContent
  /-- The end of a document. -/
  | documentEnd
  /-- The node of a document that has started. -/
  | blockNode
  /-- An entry of a block sequence; its start is passed over if it is the first. -/
  | blockEntry (first : Bool)
  /-- An entry of a sequence that is a value and is not indented. -/
  | flatEntry
  /-- A key of a block mapping. -/
  | blockKey (first : Bool)
  /-- A value of a block mapping. -/
  | blockValue
  /-- An entry of a flow sequence. -/
  | flowEntry (first : Bool)
  /-- The key of a pair that is an entry of a flow sequence. -/
  | pairKey
  /-- The value of such a pair. -/
  | pairValue
  /-- The end of such a pair. -/
  | pairEnd
  /-- A key of a flow mapping. -/
  | flowKey (first : Bool)
  /-- A value of a flow mapping. -/
  | flowValue
  /-- The value of a key without a colon. -/
  | emptyValue
  deriving DecidableEq, Repr, Inhabited

/-- What is left to read. -/
structure Reading where
  /-- The tokens. -/
  tokens : List Token
  /-- The expectations, the next one first. -/
  expectations : List Expectation
  /-- The handles that tags of this document may have. -/
  handles : List (List Char) := []
  deriving Inhabited

namespace Reading

/-- The next token. -/
def head (r : Reading) : Token := r.tokens.headD .streamEnd

/-- The reading after the next token. -/
def advance (r : Reading) : Reading := { r with tokens := r.tokens.drop 1 }

/-- The reading that expects something more before what it expects. -/
def push (r : Reading) (e : Expectation) : Reading :=
  { r with expectations := e :: r.expectations }

/-- An event and the reading after it. -/
abbrev Step := Except Error (Event × Reading)

/-- The empty scalar where a node is left out. -/
def leaveOut (r : Reading) : Step := .ok (.missing, r)

/-! ## Nodes -/

/-- The anchor and the handle of the tag in front of a node, in either order. -/
def properties (r : Reading) : Option (List Char) × Option (List Char) × Reading :=
  match r.tokens with
  | .anchor a :: .tag t :: _ => (some a, some t, r.advance.advance)
  | .tag t :: .anchor a :: _ => (some a, some t, r.advance.advance)
  | .anchor a :: _ => (some a, none, r.advance)
  | .tag t :: _ => (none, some t, r.advance)
  | _ => (none, none, r)

/-- A node.  `inBlock` says whether block collections may start here, `flat` whether a sequence
may start without indentation. -/
def node (inBlock flat : Bool) (r : Reading) : Step :=
  match r.head with
  | .alias name => .ok (.alias name, r.advance)
  | _ =>
    let (anchor, handle, r) := r.properties
    if handle.any fun h => !h.isEmpty && !r.handles.contains h then .error .tagHandle
    else
      match r.head with
      | .scalar text style => .ok (.scalar anchor text style, r.advance)
      | .flowSequenceStart => .ok (.sequenceStart anchor, r.push (.flowEntry true))
      | .flowMappingStart => .ok (.mappingStart anchor, r.push (.flowKey true))
      | token =>
        if flat && token == .blockEntry then .ok (.sequenceStart anchor, r.push .flatEntry)
        else if inBlock && token == .blockSequenceStart then
          .ok (.sequenceStart anchor, r.push (.blockEntry true))
        else if inBlock && token == .blockMappingStart then
          .ok (.mappingStart anchor, r.push (.blockKey true))
        else if anchor.isSome || handle.isSome then .ok (.scalar anchor "" .plain, r)
        else .error .node

/-- A node, unless the next token is one of those that show that it is left out. -/
def nodeUnless (stops : List Token) (inBlock flat : Bool) (r : Reading) : Step :=
  if stops.contains r.head then r.leaveOut else r.node inBlock flat

/-! ## Documents -/

/-- The directives before a document: the reading after them with the handles that they declare;
`version` says whether a version has been declared. -/
def directives (version : Bool) (declared : List (List Char)) : (tokens : List Token) →
    Except Error (List (List Char) × List Token)
  | .versionDirective major minor :: rest =>
    let known :=
      Text.decimal major == 1 && (Text.decimal minor == 1 || Text.decimal minor == 2)
    if version || !known then .error .directive else directives true declared rest
  | .tagDirective handle :: rest =>
    if declared.contains handle then .error .directive
    else directives version (handle :: declared) rest
  | rest => .ok (['!'] :: ['!', '!'] :: declared, rest)

/-- The start of a document with a marker. -/
def markedDocument (r : Reading) : Step := do
  let (handles, tokens) ← directives false [] r.tokens
  match tokens with
  | .documentStart :: rest =>
    .ok (.documentStart,
      { tokens := rest, handles,
        expectations := .documentContent :: .documentEnd :: r.expectations })
  | _ => .error .documentStart

/-- Whether a token stands at an edge of a document. -/
def isDocumentEdge : Token → Bool
  | .versionDirective _ _ => true
  | .tagDirective _ => true
  | .documentStart => true
  | .documentEnd => true
  | .streamEnd => true
  | _ => false

/-! ## Collections -/

/-- An entry of a block sequence. -/
def blockEntry (r : Reading) : Step :=
  match r.head with
  | .blockEntry =>
    (r.advance.push (.blockEntry false)).nodeUnless [.blockEntry, .blockEnd] true false
  | .blockEnd => .ok (.sequenceEnd, r.advance)
  | _ => .error .collection

/-- An entry of a sequence that is not indented. -/
def flatEntry (r : Reading) : Step :=
  match r.head with
  | .blockEntry =>
    (r.advance.push .flatEntry).nodeUnless [.blockEntry, .key, .value, .blockEnd] true false
  | _ => .ok (.sequenceEnd, r)

/-- A key of a block mapping. -/
def blockKey (r : Reading) : Step :=
  match r.head with
  | .key => (r.advance.push .blockValue).nodeUnless [.key, .value, .blockEnd] true true
  | .blockEnd => .ok (.mappingEnd, r.advance)
  | _ => .error .collection

/-- A value of a block mapping. -/
def blockValue (r : Reading) : Step :=
  let r := r.push (.blockKey false)
  match r.head with
  | .value => r.advance.nodeUnless [.key, .value, .blockEnd] true true
  | _ => r.leaveOut

/-- An entry of a flow sequence. -/
def flowEntry (first : Bool) (r : Reading) : Step :=
  match r.head with
  | .flowSequenceEnd => .ok (.sequenceEnd, r.advance)
  | token =>
    if !first && token != .flowEntry then .error .collection
    else
      let r := if first then r else r.advance
      match r.head with
      | .flowSequenceEnd => .ok (.sequenceEnd, r.advance)
      | .key => .ok (.mappingStart none, (r.advance.push (.flowEntry false)).push .pairKey)
      | _ => (r.push (.flowEntry false)).node false false

/-- The key of a pair in a flow sequence; where it is left out, the token after it is passed
over. -/
def pairKey (r : Reading) : Step :=
  let next := r.push .pairValue
  if [Token.value, .flowEntry, .flowSequenceEnd].contains r.head then next.advance.leaveOut
  else next.node false false

/-- The value of a pair in a flow sequence. -/
def pairValue (r : Reading) : Step :=
  let r := r.push .pairEnd
  match r.head with
  | .value => r.advance.nodeUnless [.flowEntry, .flowSequenceEnd] false false
  | _ => r.leaveOut

/-- A key of a flow mapping. -/
def flowKey (first : Bool) (r : Reading) : Step :=
  match r.head with
  | .flowMappingEnd => .ok (.mappingEnd, r.advance)
  | token =>
    if !first && token != .flowEntry then .error .collection
    else
      let r := if first then r else r.advance
      match r.head with
      | .flowMappingEnd => .ok (.mappingEnd, r.advance)
      | .key =>
        (r.advance.push .flowValue).nodeUnless [.value, .flowEntry, .flowMappingEnd] false false
      | _ => (r.push .emptyValue).node false false

/-- A value of a flow mapping. -/
def flowValue (r : Reading) : Step :=
  let r := r.push (.flowKey false)
  match r.head with
  | .value => r.advance.nodeUnless [.flowEntry, .flowMappingEnd] false false
  | _ => r.leaveOut

/-! ## The derivation -/

/-- The reading after tokens that repeat the end of a document. -/
def skipDocumentEnds : List Token → List Token
  | .documentEnd :: rest => skipDocumentEnds rest
  | tokens => tokens

/-- The next event, where an expectation has been taken off; `none` at the end of the text. -/
def step (r : Reading) : Expectation → Except Error (Option (Event × Reading))
  | .firstDocument =>
    if isDocumentEdge r.head && r.head != .documentEnd then marked r
    else
      .ok (some (.documentStart,
        { r with
          handles := [['!'], ['!', '!']]
          expectations := .blockNode :: .documentEnd :: r.expectations }))
  | .document => marked { r with tokens := skipDocumentEnds r.tokens }
  | .documentContent =>
    (if isDocumentEdge r.head then r.leaveOut else r.node true false).map some
  | .documentEnd =>
    let r := if r.head == .documentEnd then r.advance else r
    .ok (some (.documentEnd, r.push .document))
  | .blockNode => (r.node true false).map some
  | .blockEntry first => (if first then r.advance else r).blockEntry.map some
  | .flatEntry => r.flatEntry.map some
  | .blockKey first => (if first then r.advance else r).blockKey.map some
  | .blockValue => r.blockValue.map some
  | .flowEntry first => ((if first then r.advance else r).flowEntry first).map some
  | .pairKey => r.pairKey.map some
  | .pairValue => r.pairValue.map some
  | .pairEnd => .ok (some (.mappingEnd, r))
  | .flowKey first => ((if first then r.advance else r).flowKey first).map some
  | .flowValue => r.flowValue.map some
  | .emptyValue => .ok (some (.missing, r.push (.flowKey false)))
where
  /-- A document with a marker, or the end of the text. -/
  marked (r : Reading) : Except Error (Option (Event × Reading)) :=
    if r.head == .streamEnd then .ok none else r.markedDocument.map some

/-- The events that are left; `fuel` bounds their number. -/
def run : (fuel : Nat) → Reading → Except Error (List Event)
  | 0, _ => .error .endOfStream
  | fuel + 1, r =>
    match r.expectations with
    | [] => .ok []
    | e :: rest =>
      match step { r with expectations := rest } e with
      | .error e => .error e
      | .ok none => .ok []
      | .ok (some (event, next)) => (run fuel next).map (event :: ·)

end Reading

/-- The events of a text, given its tokens. -/
def events (tokens : List Token) : Except Error (List Event) :=
  Reading.run (4 * tokens.length + 8) { tokens, expectations := [.firstDocument] }

end FileSieve.Yaml
