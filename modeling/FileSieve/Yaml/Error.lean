/-!
# What can be wrong with a YAML text

The causes for which a text is refused, from single characters to the structure of the document.
-/

namespace FileSieve.Yaml

/-- Why a text is not the YAML that is wanted. -/
inductive Error
  /-- A character that may not stand in a text. -/
  | controlCharacter
  /-- A character that no token starts with. -/
  | unexpectedCharacter
  /-- A line that has to be a key has no colon. -/
  | missingColon
  /-- A sequence entry where none may stand. -/
  | misplacedEntry
  /-- A key where none may stand. -/
  | misplacedKey
  /-- A value where none may stand. -/
  | misplacedValue
  /-- A malformed directive. -/
  | directive
  /-- A malformed anchor or alias. -/
  | anchor
  /-- A malformed tag. -/
  | tag
  /-- A tag whose handle is not declared. -/
  | tagHandle
  /-- A malformed start of a block scalar. -/
  | blockHeader
  /-- A tab where the indentation has to be made of spaces. -/
  | tabIndentation
  /-- A document marker inside a quoted scalar. -/
  | documentMarker
  /-- The text ends inside a quoted scalar. -/
  | unclosedQuote
  /-- A malformed escape in a quoted scalar. -/
  | escape
  /-- A colon before an indicator inside a plain scalar. -/
  | flowColon
  /-- Something other than the start of a document. -/
  | documentStart
  /-- Something other than a node. -/
  | node
  /-- Something other than the next entry or the end of a collection. -/
  | collection
  /-- An alias for an anchor that is not there. -/
  | unknownAnchor
  /-- A second document. -/
  | manyDocuments
  /-- Something other than a mapping. -/
  | notMapping
  /-- Something other than a scalar. -/
  | notScalar
  /-- A field that is given twice. -/
  | duplicateField
  /-- The document is too short. -/
  | endOfStream
  deriving DecidableEq, Repr, Inhabited

/-- The wording of an error. -/
def Error.message : Error → String
  | .controlCharacter => "control characters are not allowed"
  | .unexpectedCharacter => "found character that cannot start any token"
  | .missingColon => "could not find expected ':'"
  | .misplacedEntry => "block sequence entries are not allowed in this context"
  | .misplacedKey => "mapping keys are not allowed in this context"
  | .misplacedValue => "mapping values are not allowed in this context"
  | .directive => "malformed directive"
  | .anchor => "did not find expected alphabetic or numeric character"
  | .tag => "did not find expected tag URI"
  | .tagHandle => "found undefined tag handle"
  | .blockHeader => "did not find expected comment or line break"
  | .tabIndentation => "found a tab character that violates indentation"
  | .documentMarker => "found unexpected document indicator"
  | .unclosedQuote => "found unexpected end of stream"
  | .escape => "found unknown escape character"
  | .flowColon => "found unexpected ':'"
  | .documentStart => "did not find expected <document start>"
  | .node => "did not find expected node content"
  | .collection => "did not find expected key, entry or end of collection"
  | .unknownAnchor => "unknown anchor"
  | .manyDocuments =>
    "deserializing from YAML containing more than one document is not supported"
  | .notMapping => "invalid type: expected a map"
  | .notScalar => "invalid type: expected a string"
  | .duplicateField => "duplicate field"
  | .endOfStream => "EOF while parsing a value"

end FileSieve.Yaml
