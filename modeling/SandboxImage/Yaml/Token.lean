/-!
# Tokens

The smallest meaningful pieces of a document, with the block structure that indentation stands for
made explicit.
-/

namespace SandboxImage.Yaml

/-- A tag in front of a node: the handle that names its family, and the rest. -/
structure Tag where
  handle : String
  suffix : String
  deriving DecidableEq, Repr

/-- A piece of a document. -/
inductive Token where
  | directive
  | documentStart
  | documentEnd
  | streamEnd
  | blockSequenceStart
  | blockMappingStart
  | blockEnd
  | flowSequenceStart
  | flowSequenceEnd
  | flowMappingStart
  | flowMappingEnd
  | blockEntry
  | flowEntry
  | key
  | value
  | reference (name : String)
  | anchor (name : String)
  | tag (tag : Tag)
  /-- A scalar with its text; `plain` means that it stands without quotes and is no block. -/
  | scalar (plain : Bool) (text : String)
  deriving DecidableEq, Repr

end SandboxImage.Yaml
