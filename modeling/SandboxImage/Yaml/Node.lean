import SandboxImage.Yaml.Token

/-!
# Nodes

The tree that a document stands for. A reference to an anchored node holds that node; a reference to
a node around it has no finite tree and holds nothing.
-/

namespace SandboxImage.Yaml

/-- A text with what decides about its meaning. -/
structure Scalar where
  text : String
  /-- It stands without quotes and is no block. -/
  plain : Bool := true
  tag : Option Tag := none
  deriving DecidableEq, Repr

/-- A node of a document. -/
inductive Node where
  | scalar (s : Scalar)
  | sequence (items : List Node)
  | mapping (entries : List (Node × Node))
  /-- A reference; it holds no node if the node contains the reference. -/
  | reference (target : Option Node)
  deriving Repr, Inhabited

/-- The node that stands where none is written. -/
def Node.absent : Node := .scalar { text := "~" }

/-- The node itself, behind a reference to it. A reference is never behind another one. -/
def Node.target : Node → Node
  | .reference (some n) => n
  | n => n

end SandboxImage.Yaml
