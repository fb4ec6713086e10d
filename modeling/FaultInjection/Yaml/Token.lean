/-!
# Tokens of YAML

The pieces of a document that its structure is read from. The beginning and the end of a collection
in blocks are told by indentation, and have tokens of their own.
-/

namespace FaultInjection.Yaml

/-- How a scalar is written. -/
inductive Style where
  | plain
  | quoted
  | literal
  | folded
deriving DecidableEq, Repr

/-- A piece of a document. -/
inductive Token where
  | version (major minor : Nat)
  | tagHandle (handle start : String)
  | documentStart
  | documentEnd
  | blockSequenceStart
  | blockMappingStart
  | blockEnd
  | flowSequenceStart
  | flowSequenceEnd
  | flowMappingStart
  | flowMappingEnd
  | blockEntry
  | flowEntry
  | key
  | value
  | alias (name : String)
  | anchor (name : String)
  | tag (handle suffix : String)
  | scalar (style : Style) (text : String)
  /-- The document ends well here. -/
  | streamEnd
  /-- From here on the text is no YAML. -/
  | malformed
deriving DecidableEq, Repr

end FaultInjection.Yaml
