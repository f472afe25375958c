import FileSieve.Yaml.Event
import FileSieve.Yaml.Scan

/-!
# Documents of YAML

A document is a tree of nodes, in which an alias stands for the node that its anchor names.
Anchors are numbered by the different names before them, and an alias stands for the last node
with its number (`Anchors`).  A text holds at most one document.
-/

namespace FileSieve.Yaml

/-- A node of a document. -/
inductive Node
  /-- A scalar. -/
  | scalar (text : String) (style : ScalarStyle)
  /-- A sequence of nodes. -/
  | sequence (entries : List Node)
  /-- A mapping, as its keys and values in turn. -/
  | mapping (entries : List (Node × Node))
  /-- The node with a numbered anchor. -/
  | alias (id : Nat)
  deriving Inhabited

/-! ## Anchors -/

/-- The anchors of a document. -/
structure Anchors where
  /-- The number of each name. -/
  ids : List (List Char × Nat) := []
  /-- The events at which the nodes of a number start, the latest first. -/
  starts : List (Nat × List Event) := []
  deriving Inhabited

namespace Anchors

/-- The number of different names. -/
def count (a : Anchors) : Nat := (a.ids.map Prod.fst).eraseDups.length

/-- One more anchored node, which starts with the given events. -/
def add (a : Anchors) (name : List Char) (events : List Event) : Anchors :=
  ⟨(name, a.count) :: a.ids, (a.count, events) :: a.starts⟩

end Anchors

/-- The anchor of the node that an event starts. -/
def Event.anchor? : Event → Option (List Char)
  | .scalar anchor _ _ => anchor
  | .sequenceStart anchor => anchor
  | .mappingStart anchor => anchor
  | _ => none

/-- The anchors of a document, where each alias has the number that its name has at its place, in
the order of the aliases. -/
def collectAnchors : Anchors → List Event → Except Error (Anchors × List Nat)
  | anchors, [] => .ok (anchors, [])
  | anchors, event :: rest =>
    match event with
    | .alias name =>
      match anchors.ids.lookup name with
      | none => .error .unknownAnchor
      | some id => (collectAnchors anchors rest).map fun (a, ids) => (a, id :: ids)
    | event =>
      match event.anchor? with
      | some name => collectAnchors (anchors.add name (event :: rest)) rest
      | none => collectAnchors anchors rest

/-! ## Nodes -/

/-- A list cut into pairs. -/
def inPairs : List Node → List (Node × Node)
  | key :: value :: rest => (key, value) :: inPairs rest
  | _ => []

mutual

/-- The node at the front of the events, and what is left of the events and of the numbers of
aliases; `fuel` bounds the number of events. -/
def readNode : (fuel : Nat) → List Event → List Nat →
    Except Error (Node × List Event × List Nat)
  | 0, _, _ => .error .endOfStream
  | fuel + 1, events, ids =>
    match events with
    | .scalar _ text style :: rest => .ok (.scalar text style, rest, ids)
    | .alias _ :: rest =>
      match ids with
      | id :: ids => .ok (.alias id, rest, ids)
      | [] => .error .unknownAnchor
    | .sequenceStart _ :: rest => do
      let (entries, rest, ids) ← readNodes fuel rest ids
      .ok (.sequence entries, rest, ids)
    | .mappingStart _ :: rest => do
      let (entries, rest, ids) ← readNodes fuel rest ids
      .ok (.mapping (inPairs entries), rest, ids)
    | _ => .error .endOfStream

/-- The nodes up to the end of the collection, which is passed over. -/
def readNodes : (fuel : Nat) → List Event → List Nat →
    Except Error (List Node × List Event × List Nat)
  | 0, _, _ => .error .endOfStream
  | fuel + 1, events, ids =>
    match events with
    | .sequenceEnd :: rest => .ok ([], rest, ids)
    | .mappingEnd :: rest => .ok ([], rest, ids)
    | events => do
      let (node, rest, ids) ← readNode fuel events ids
      let (nodes, rest, ids) ← readNodes fuel rest ids
      .ok (node :: nodes, rest, ids)

end

/-! ## Documents -/

/-- A document: its node, if it has one, and the nodes that aliases stand for. -/
structure Document where
  /-- The node at the root. -/
  root : Option Node := none
  /-- The nodes by the numbers of their anchors. -/
  targets : List (Nat × Node) := []
  deriving Inhabited

/-- The number of aliases among the events. -/
def countAliases (events : List Event) : Nat :=
  events.countP fun e =>
    match e with
    | .alias _ => true
    | _ => false

/-- The nodes that the numbers of anchors stand for, in a document with the given events and
numbers of aliases. -/
def readTargets (events : List Event) (ids : List Nat) (starts : List (Nat × List Event)) :
    Except Error (List (Nat × Node)) :=
  starts.mapM fun (id, start) => do
    let skipped := countAliases (events.take (events.length - start.length))
    let (node, _, _) ← readNode (2 * start.length + 2) start (ids.drop skipped)
    .ok (id, node)

/-- The document of a text. -/
def document (text : String) : Except Error Document := do
  let tokens ← scan text
  match ← events tokens with
  | [] => .ok {}
  | _ :: events =>
    let content := events.takeWhile (· != .documentEnd)
    if 1 < events.length - content.length then .error .manyDocuments
    else
      let (anchors, ids) ← collectAnchors {} content
      let (root, _, _) ← readNode (2 * content.length + 2) content ids
      let targets ← readTargets content ids anchors.starts
      .ok { root := some root, targets }

namespace Document

/-- A node, or the one that it is an alias for. -/
def resolve (d : Document) : Node → Option Node
  | .alias id => d.targets.lookup id
  | node => some node

/-- The text of a scalar. -/
def text (d : Document) (node : Node) : Except Error String :=
  match d.resolve node with
  | some (.scalar text _) => .ok text
  | _ => .error .notScalar

/-- The entries of a mapping; a scalar that is left out is one without entries. -/
def entries (d : Document) (node : Node) : Except Error (List (Node × Node)) :=
  match d.resolve node with
  | some (.mapping entries) => .ok entries
  | some (.scalar "" .plain) => .ok []
  | _ => .error .notMapping

end Document

end FileSieve.Yaml
