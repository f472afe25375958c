/-!
# Tokens of YAML

The tokens of a YAML text.  Besides the indicators that are written there are tokens for what the
layout implies: the start of a block collection, its end, and the key of a mapping, which is only
recognised at the colon after it.
-/

namespace FileSieve.Yaml

/-- How a scalar is written. -/
inductive ScalarStyle
  | plain
  | quoted
  | block
  deriving DecidableEq, Repr, Inhabited

/-- A token of a YAML text. -/
inductive Token
  /-- The end of the text. -/
  | streamEnd
  /-- A declaration of the version. -/
  | versionDirective (major minor : List Char)
  /-- A declaration of the handle of a tag. -/
  | tagDirective (handle : List Char)
  /-- Three hyphens. -/
  | documentStart
  /-- Three points. -/
  | documentEnd
  /-- The layout starts a sequence. -/
  | blockSequenceStart
  /-- The layout starts a mapping. -/
  | blockMappingStart
  /-- The layout ends a collection. -/
  | blockEnd
  /-- An opening square bracket. -/
  | flowSequenceStart
  /-- A closing square bracket. -/
  | flowSequenceEnd
  /-- An opening brace. -/
  | flowMappingStart
  /-- A closing brace. -/
  | flowMappingEnd
  /-- A hyphen before an entry. -/
  | blockEntry
  /-- A comma. -/
  | flowEntry
  /-- A key follows. -/
  | key
  /-- A value follows. -/
  | value
  /-- A reference to a node. -/
  | alias (name : List Char)
  /-- A name for the node that follows. -/
  | anchor (name : List Char)
  /-- The tag of the node that follows, by its handle; a verbatim tag has no handle. -/
  | tag (handle : List Char)
  /-- A scalar. -/
  | scalar (text : String) (style : ScalarStyle)
  deriving DecidableEq, Repr, Inhabited

end FileSieve.Yaml
