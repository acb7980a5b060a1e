import SandboxImage.Yaml.Node
import SandboxImage.Yaml.Lexer

/-!
# Documents

The tokens of a text read as one document: a root node, between optional marks. An anchor names the
node that it stands before, from there on and within that node.
-/

namespace SandboxImage.Yaml

/-- The tokens that are left, and the anchors so far. -/
structure Source where
  tokens : List Token
  /-- Names with the numbers of their anchors, the latest first. -/
  names : List (String × Nat) := []
  /-- The finished nodes that have an anchor. -/
  nodes : List (Nat × Node) := []
  /-- How many anchors there are. -/
  count : Nat := 0

/-- Reads a part of a document. -/
abbrev Reader (α : Type) := StateT Source Option α

namespace Reader

/-- The next token, which stays. -/
def peek : Reader Token := do
  match (← get).tokens with
  | t :: _ => pure t
  | [] => failure

/-- Passes over the next token. -/
def advance : Reader Unit :=
  modify fun s => { s with tokens := s.tokens.drop 1 }

/-- Passes over a token that has to come next. -/
def expect (t : Token) : Reader Unit := do
  if (← peek) == t then advance else failure

/-- Gives a number to an anchor. -/
def register (name : String) : Reader Nat := do
  let s ← get
  set { s with names := (name, s.count) :: s.names, count := s.count + 1 }
  return s.count

/-- The node that a name refers to. -/
def refer (name : String) : Reader Node := do
  let s ← get
  match s.names.lookup name with
  | some anchor => return .reference (s.nodes.lookup anchor)
  | none => failure

/-- Notes that the node of an anchor is finished. -/
def finish (anchor : Option Nat) (n : Node) : Reader Node := do
  if let some anchor := anchor then
    modify fun s => { s with nodes := (anchor, n) :: s.nodes }
  return n

/-- An anchor at this place. -/
def anchor? : Reader (Option Nat) := do
  match ← peek with
  | .anchor name =>
    advance
    return some (← register name)
  | _ => return none

/-- A tag at this place. -/
def tag? : Reader (Option Tag) := do
  match ← peek with
  | .tag tag =>
    advance
    return some tag
  | _ => return none

/-- The anchor and the tag in front of a node, in either order. -/
def properties : Reader (Option Nat × Option Tag) := do
  match ← anchor? with
  | some anchor => return (some anchor, ← tag?)
  | none =>
    match ← tag? with
    | some tag => return (← anchor?, some tag)
    | none => return (none, none)

/-- Reads a node, or finds that none is written before the tokens that may follow it. -/
def orAbsent (stops : List Token) (read : Reader Node) : Reader Node := do
  if stops.contains (← peek) then return .absent else read

/-- Reads the node behind a colon, if there is one. -/
def valueOrAbsent (stops : List Token) (read : Reader Node) : Reader Node := do
  if (← peek) == .value then
    advance
    orAbsent stops read
  else return .absent

/-- What may follow a node between braces. -/
def braceStops : List Token := [.flowEntry, .flowMappingEnd]

/-- What may follow a node between brackets. -/
def bracketStops : List Token := [.flowEntry, .flowSequenceEnd]

/-- What may follow a node of a block mapping. -/
def mappingStops : List Token := [.key, .value, .blockEnd]

mutual

/-- Reads a node; `block` says that a block may start here, and `level` that the items of a sequence
may stand at the level of the key before them. -/
def node : Nat → Bool → Bool → Reader Node
  | 0, _, _ => failure
  | fuel + 1, block, level => do
    match ← peek with
    | .reference name =>
      advance
      refer name
    | _ =>
      let (anchor, tag) ← properties
      match ← peek with
      | .scalar plain text =>
        advance
        finish anchor (.scalar ⟨text, plain, tag⟩)
      | .flowSequenceStart =>
        advance
        finish anchor (.sequence (← bracketItems fuel true))
      | .flowMappingStart =>
        advance
        finish anchor (.mapping (← braceEntries fuel true))
      | t =>
        if level && t == .blockEntry then finish anchor (.sequence (← levelItems fuel))
        else if block && t == .blockSequenceStart then
          advance
          finish anchor (.sequence (← blockItems fuel))
        else if block && t == .blockMappingStart then
          advance
          finish anchor (.mapping (← blockEntries fuel))
        else if anchor.isSome || tag.isSome then finish anchor (.scalar ⟨"", true, tag⟩)
        else failure

/-- Reads the items between brackets; `first` says that none has been read. -/
def bracketItems : Nat → Bool → Reader (List Node)
  | 0, _ => failure
  | fuel + 1, first => do
    if (← peek) == .flowSequenceEnd then
      advance
      return []
    if !first then expect .flowEntry
    match ← peek with
    | .flowSequenceEnd =>
      advance
      return []
    | .key =>
      advance
      let pair ← bracketPair fuel
      return pair :: (← bracketItems fuel false)
    | _ =>
      let item ← node fuel false false
      return item :: (← bracketItems fuel false)

/-- Reads a pair between brackets, which is a mapping of its own. Where its key is missing, the
token at that place is passed over. -/
def bracketPair : Nat → Reader Node
  | 0 => failure
  | fuel + 1 => do
    let key ←
      if (Token.value :: bracketStops).contains (← peek) then
        advance
        pure Node.absent
      else node fuel false false
    return .mapping [(key, ← valueOrAbsent bracketStops (node fuel false false))]

/-- Reads the entries between braces; `first` says that none has been read. -/
def braceEntries : Nat → Bool → Reader (List (Node × Node))
  | 0, _ => failure
  | fuel + 1, first => do
    if (← peek) == .flowMappingEnd then
      advance
      return []
    if !first then expect .flowEntry
    match ← peek with
    | .flowMappingEnd =>
      advance
      return []
    | .key =>
      advance
      let key ← orAbsent (.value :: braceStops) (node fuel false false)
      let value ← valueOrAbsent braceStops (node fuel false false)
      return (key, value) :: (← braceEntries fuel false)
    | .value =>
      let value ← valueOrAbsent braceStops (node fuel false false)
      return (.absent, value) :: (← braceEntries fuel false)
    | _ =>
      let key ← node fuel false false
      return (key, .absent) :: (← braceEntries fuel false)

/-- Reads the items of a block sequence. -/
def blockItems : Nat → Reader (List Node)
  | 0 => failure
  | fuel + 1 => do
    match ← peek with
    | .blockEnd =>
      advance
      return []
    | .blockEntry =>
      advance
      let item ← orAbsent [.blockEntry, .blockEnd] (node fuel true false)
      return item :: (← blockItems fuel)
    | _ => failure

/-- Reads the items of a sequence that is not indented below its key. -/
def levelItems : Nat → Reader (List Node)
  | 0 => failure
  | fuel + 1 => do
    if (← peek) == .blockEntry then
      advance
      let item ← orAbsent (.blockEntry :: mappingStops) (node fuel true false)
      return item :: (← levelItems fuel)
    else return []

/-- Reads the entries of a block mapping. -/
def blockEntries : Nat → Reader (List (Node × Node))
  | 0 => failure
  | fuel + 1 => do
    match ← peek with
    | .blockEnd =>
      advance
      return []
    | .key =>
      advance
      let key ← orAbsent mappingStops (node fuel true true)
      let value ← valueOrAbsent mappingStops (node fuel true true)
      return (key, value) :: (← blockEntries fuel)
    | .value =>
      let value ← valueOrAbsent mappingStops (node fuel true true)
      return (.absent, value) :: (← blockEntries fuel)
    | _ => failure

end

/-- Reads the mark before a document, with directives before it, if one of them comes next; says
whether there was a mark. -/
def documentStart : Reader Bool := do
  match ← peek with
  | .directive | .documentStart =>
    modify fun s => { s with tokens := s.tokens.dropWhile (· == .directive) }
    expect .documentStart
    return true
  | _ => return false

/-- Reads a whole document: behind a mark its root may be missing. -/
def document (fuel : Nat) : Reader Node := do
  let root ←
    if ← documentStart then
      orAbsent [.directive, .documentStart, .documentEnd, .streamEnd] (node fuel true false)
    else node fuel true false
  modify fun s => { s with tokens := s.tokens.dropWhile (· == .documentEnd) }
  expect .streamEnd
  return root

end Reader

/-- The root of the only document of a text. -/
def document? (text : String) : Option Node := do
  let tokens ← tokens? text
  (·.1) <$> (Reader.document (4 * tokens.length + 4)).run { tokens }

end SandboxImage.Yaml
