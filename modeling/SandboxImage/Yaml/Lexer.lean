import SandboxImage.Yaml.Directive
import SandboxImage.Yaml.Plain

/-!
# Reading tokens

A text is read from left to right into tokens. Indentation opens and closes blocks, unless brackets
are open. That a node is the key of a mapping shows only when a colon follows it on its line, so the
place where a key may have started is kept pending, one for each level of brackets, and its token is
put in later.
-/

namespace SandboxImage.Yaml

/-- A place where a key may have started. -/
structure PendingKey where
  /-- Nothing but a key can stand there. -/
  required : Bool
  /-- How many tokens come before it. -/
  index : Nat
  position : Position

/-- A pending key does not last beyond its line and 1024 characters. -/
def PendingKey.isStale (k : PendingKey) (p : Position) : Bool :=
  k.position.line < p.line || k.position.index + 1024 < p.index

/-- How far reading has come. -/
structure Lexer where
  position : Position := {}
  rest : List Char
  tokens : Array Token := #[]
  /-- The pending key inside the innermost brackets. -/
  pending : Option PendingKey := none
  /-- Those around each open bracket, the innermost first. -/
  outer : List (Option PendingKey) := []
  /-- The columns of the open blocks, the innermost first. -/
  columns : List Nat := []
  /-- A key may start here. -/
  keyAllowed : Bool := true
  /-- Where the last quoted scalar ended: inside brackets its colon needs no white space. -/
  quotedEnd : Nat := 0

namespace Lexer

/-- Brackets are open. -/
def inFlow (lx : Lexer) : Bool := !lx.outer.isEmpty

/-- The column of the innermost block; -1 outside all blocks. -/
def indent (lx : Lexer) : Int :=
  match lx.columns with
  | column :: _ => column
  | [] => -1

/-- Passes over `n` characters. -/
def skip (lx : Lexer) (n : Nat) : Lexer :=
  { lx with position := lx.position.over (lx.rest.take n), rest := lx.rest.drop n }

/-- Goes on at `rest`, an end of what is left. -/
def skipTo (lx : Lexer) (rest : List Char) : Lexer :=
  lx.skip (lx.rest.length - rest.length)

/-- Adds a token. -/
def push (lx : Lexer) (t : Token) : Lexer :=
  { lx with tokens := lx.tokens.push t }

/-- Says whether a key may start next. -/
def allowKey (lx : Lexer) (allowed : Bool) : Lexer :=
  { lx with keyAllowed := allowed }

/-- Closes the blocks for which `ends` holds of their column, from the innermost on. -/
def closeBlocks (lx : Lexer) (ends : Nat → Bool) : Lexer :=
  if lx.inFlow then lx
  else
    let closed := (lx.columns.takeWhile ends).length
    { lx with
      columns := lx.columns.dropWhile ends
      tokens := lx.tokens ++ Array.replicate closed Token.blockEnd }

/-- Opens a block in a column if it lies deeper than the innermost one; its token gets the number
`index`. -/
def openBlock (lx : Lexer) (column index : Nat) (t : Token) : Lexer :=
  if lx.inFlow || (column : Int) ≤ lx.indent then lx
  else { lx with columns := column :: lx.columns, tokens := lx.tokens.insertIdxIfInBounds index t }

/-- Gives up the pending key; one that is required cannot be given up. -/
def dropKey? (lx : Lexer) : Option Lexer :=
  if lx.pending.any PendingKey.required then none else some { lx with pending := none }

/-- A key may start here, if one is allowed. -/
def saveKey? (lx : Lexer) : Option Lexer :=
  if lx.keyAllowed then
    let required := lx.inFlow && lx.indent == lx.position.column
    lx.dropKey?.map fun lx =>
      { lx with pending := some ⟨required, lx.tokens.size, lx.position⟩ }
  else some lx

/-- Gives up the pending keys that have become stale. -/
def dropStaleKeys? (lx : Lexer) : Option Lexer :=
  let isStale := fun k : PendingKey => k.isStale lx.position
  if (lx.pending :: lx.outer).any fun k => k.any fun k => isStale k && k.required then none
  else
    let keep := fun k : Option PendingKey => k.filter fun k => !isStale k
    some { lx with pending := keep lx.pending, outer := lx.outer.map keep }

/-- What stands between two tokens: whether a key may start after it, its end, and the rest. A tab
counts only where no key may start. -/
def gapEnd (inFlow inComment keyAllowed : Bool) (p : Position) :
    List Char → Bool × Position × List Char
  | [] => (keyAllowed, p, [])
  | '\r' :: '\n' :: rest =>
    gapEnd inFlow false (keyAllowed || !inFlow) ((p.after '\r').after '\n') rest
  | c :: rest =>
    if isBreak c then gapEnd inFlow false (keyAllowed || !inFlow) (p.after c) rest
    else if inComment then gapEnd inFlow true keyAllowed (p.after c) rest
    else if c == '#' then gapEnd inFlow true keyAllowed (p.after c) rest
    else if c == ' ' || (c == '\t' && (inFlow || !keyAllowed)) then
      gapEnd inFlow false keyAllowed (p.after c) rest
    else (keyAllowed, p, c :: rest)

/-- Passes over white space and comments. -/
def skipGap (lx : Lexer) : Lexer :=
  let (keyAllowed, position, rest) := gapEnd lx.inFlow false lx.keyAllowed lx.position lx.rest
  { lx with keyAllowed, position, rest }

/-- Reads a directive. -/
def readDirective? (lx : Lexer) : Option Lexer := do
  let lx ← (lx.closeBlocks fun _ => true).dropKey?
  let (position, rest) ← directive? lx.position lx.rest
  return { lx.push .directive with position, rest, keyAllowed := false }

/-- Reads a mark between documents. -/
def readDocumentMark? (lx : Lexer) (t : Token) : Option Lexer := do
  let lx ← (lx.closeBlocks fun _ => true).dropKey?
  return ((lx.allowKey false).skip 3).push t

/-- Reads an opening bracket or brace; at most 255 may be open. -/
def openFlow? (lx : Lexer) (t : Token) : Option Lexer := do
  let lx ← lx.saveKey?
  if 255 ≤ lx.outer.length then none
  else
    return ({ (lx.allowKey true).skip 1 with
      pending := none
      outer := lx.pending :: lx.outer }).push t

/-- Reads a closing bracket or brace. -/
def closeFlow? (lx : Lexer) (t : Token) : Option Lexer := do
  let lx ← lx.dropKey?
  let lx := match lx.outer with
    | key :: outer => { lx with pending := key, outer }
    | [] => lx
  return ((lx.allowKey false).skip 1).push t

/-- Reads a comma between brackets. -/
def readFlowEntry? (lx : Lexer) : Option Lexer := do
  let lx ← lx.dropKey?
  return ((lx.allowKey true).skip 1).push .flowEntry

/-- Reads the hyphen of an item of a block. -/
def readBlockEntry? (lx : Lexer) : Option Lexer := do
  if lx.inFlow || !lx.keyAllowed then none
  else
    let lx := lx.openBlock lx.position.column lx.tokens.size .blockSequenceStart
    let lx ← lx.dropKey?
    return ((lx.allowKey true).skip 1).push .blockEntry

/-- Reads the question mark of a key. -/
def readKey? (lx : Lexer) : Option Lexer := do
  if !lx.inFlow && !lx.keyAllowed then none
  else
    let lx := lx.openBlock lx.position.column lx.tokens.size .blockMappingStart
    let lx ← lx.dropKey?
    return ((lx.allowKey !lx.inFlow).skip 1).push .key

/-- Reads the colon of a value; the pending key, if there is one, becomes its key. -/
def readValue? (lx : Lexer) : Option Lexer :=
  match lx.pending with
  | some k =>
    let lx := { lx with
      tokens := lx.tokens.insertIdxIfInBounds k.index .key, pending := none, keyAllowed := false }
    let lx := lx.openBlock k.position.column k.index .blockMappingStart
    some ((lx.skip 1).push .value)
  | none =>
    if !lx.inFlow && !lx.keyAllowed then none
    else
      let lx := lx.openBlock lx.position.column lx.tokens.size .blockMappingStart
      some (((lx.allowKey !lx.inFlow).skip 1).push .value)

/-- The name of an anchor may end before `s`. -/
def endsName (s : List Char) : Bool :=
  endsWord s || s.head?.any "?:,]\x7d%@\x60".toList.contains

/-- Reads a name behind an ampersand or an asterisk. -/
def readName? (lx : Lexer) (t : String → Token) : Option Lexer := do
  let lx ← lx.saveKey?
  let name := (lx.rest.drop 1).takeWhile isWordChar
  let lx := (lx.allowKey false).skip (name.length + 1)
  if name.isEmpty || !endsName lx.rest then none
  else return lx.push (t (String.ofList name))

/-- Reads a tag. -/
def readTag? (lx : Lexer) : Option Lexer := do
  let lx ← lx.saveKey?
  let (tag, rest) ← tag? lx.rest
  return ((lx.allowKey false).skipTo rest).push (.tag tag)

/-- Reads a block scalar. -/
def readBlockScalar? (lx : Lexer) (literal : Bool) : Option Lexer := do
  let lx ← lx.saveKey?
  let lx := lx.skip 1
  let s ← blockScalar? literal lx.indent lx.position lx.rest
  return { lx.push (.scalar false s.text) with
    position := s.position, rest := s.rest, keyAllowed := true }

/-- Reads a quoted scalar. -/
def readQuoted? (lx : Lexer) (single : Bool) : Option Lexer := do
  let lx ← lx.saveKey?
  let lx := lx.skip 1
  let s ← quotedScalar? single lx.position lx.rest
  return { lx.push (.scalar false s.text) with
    position := s.position, rest := s.rest, keyAllowed := false, quotedEnd := s.position.index }

/-- Reads a plain scalar; after its last line a key may start. -/
def readPlain? (lx : Lexer) : Option Lexer := do
  let lx ← lx.saveKey?
  let s ← plainScalar? ⟨lx.inFlow, lx.indent + 1⟩ lx.position lx.rest
  return { lx.push (.scalar true s.text) with
    position := s.position, rest := s.rest, keyAllowed := s.multiline }

/-- A colon here ends a key, given what follows it. -/
def isValueMark (lx : Lexer) (rest : List Char) : Bool :=
  endsWord rest ||
    (lx.inFlow && (rest.head?.any isFlow || lx.position.index == lx.quotedEnd))

/-- Reads the next token at a character that is no white space. -/
def readToken? (lx : Lexer) : Option Lexer :=
  match lx.rest with
  | [] => none
  | c :: rest =>
    if c == '%' && lx.position.column == 0 then lx.readDirective?
    else if isDocumentMark lx.position lx.rest then
      lx.readDocumentMark? (if c == '-' then .documentStart else .documentEnd)
    else
      match c with
      | '[' => lx.openFlow? .flowSequenceStart
      | '\x7b' => lx.openFlow? .flowMappingStart
      | ']' => lx.closeFlow? .flowSequenceEnd
      | '\x7d' => lx.closeFlow? .flowMappingEnd
      | ',' => lx.readFlowEntry?
      | '-' => if endsWord rest then lx.readBlockEntry? else lx.readPlain?
      | '?' => if endsWord rest then lx.readKey? else lx.readPlain?
      | ':' => if lx.isValueMark rest then lx.readValue? else lx.readPlain?
      | '*' => lx.readName? .reference
      | '&' => lx.readName? .anchor
      | '!' => lx.readTag?
      | '|' => if lx.inFlow then lx.readPlain? else lx.readBlockScalar? true
      | '>' => if lx.inFlow then lx.readPlain? else lx.readBlockScalar? false
      | '\'' => lx.readQuoted? true
      | '"' => lx.readQuoted? false
      | '%' | '@' | '\x60' => none
      | _ => lx.readPlain?

/-- Ends the text: all blocks are closed. -/
def finish? (lx : Lexer) : Option (List Token) := do
  let lx ← (lx.closeBlocks fun _ => true).dropKey?
  return (lx.push .streamEnd).tokens.toList

/-- Reads on to the end. Every token takes at least one character, so `fuel` beyond the number of
characters is enough. -/
def run : Nat → Lexer → Option (List Token)
  | 0, _ => none
  | fuel + 1, lx => do
    let lx ← lx.skipGap.dropStaleKeys?
    let lx := lx.closeBlocks fun column => lx.position.column < column
    if lx.rest.isEmpty then lx.finish? else run fuel (← lx.readToken?)

end Lexer

/-- The tokens of a text. A NUL ends it. -/
def tokens? (text : String) : Option (List Token) :=
  let s := text.toList.takeWhile (· != '\x00')
  Lexer.run (s.length + 2) { rest := s }

end SandboxImage.Yaml
