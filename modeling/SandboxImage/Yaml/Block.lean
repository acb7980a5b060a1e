import SandboxImage.Yaml.Position

/-!
# Block scalars

Scalars that keep their lines (literal) or fold them (folded), indented deeper than the node that
they belong to. The header may give the depth and says what becomes of the line breaks at the end.
-/

namespace SandboxImage.Yaml

/-- What becomes of the line breaks at the end of a block scalar. -/
inductive Chomping where
  | strip
  | clip
  | keep
  deriving DecidableEq

/-- The header of a block scalar. -/
structure BlockHeader where
  chomping : Chomping := .clip
  /-- The depth below the parent, if it is given. -/
  depth : Option Nat := none

/-- Reads a sign of chomping. -/
def chomping? : List Char → Option (Chomping × List Char)
  | '+' :: rest => some (.keep, rest)
  | '-' :: rest => some (.strip, rest)
  | _ => none

/-- Reads a digit of depth; zero is refused. -/
def depth? : List Char → Option (Option Nat × List Char)
  | c :: rest =>
    if c == '0' then none
    else if c.isDigit then some (some (c.toNat - 48), rest)
    else some (none, c :: rest)
  | [] => some (none, [])

/-- Reads the two parts of a header in either order. -/
def blockHeader? (s : List Char) : Option (BlockHeader × List Char) :=
  match chomping? s with
  | some (ch, rest) => (depth? rest).map fun (d, rest) => (⟨ch, d⟩, rest)
  | none => do
    let (d, rest) ← depth? s
    if d.isSome then
      match chomping? rest with
      | some (ch, rest) => return (⟨ch, d⟩, rest)
      | none => return (⟨.clip, d⟩, rest)
    else return ({}, rest)

/-- Where reading empty lines and indentation ends. -/
structure Margin where
  /-- How many line breaks were read. -/
  breaks : Nat
  /-- The deepest column reached. -/
  deepest : Nat
  position : Position
  rest : List Char

/-- Reads line breaks and the spaces before column `indent` (before any character, if `indent` is
zero). A tab among these spaces is refused. -/
def marginFrom (indent breaks deepest : Nat) (p : Position) : List Char → Option Margin
  | [] => some ⟨breaks, max deepest p.column, p, []⟩
  | '\r' :: '\n' :: rest =>
    marginFrom indent (breaks + 1) (max deepest p.column) ((p.after '\r').after '\n') rest
  | c :: rest =>
    let free := indent == 0 || p.column < indent
    if free && c == ' ' then marginFrom indent breaks deepest (p.after c) rest
    else if free && c == '\t' then none
    else if isBreak c then
      marginFrom indent (breaks + 1) (max deepest p.column) (p.after c) rest
    else some ⟨breaks, max deepest p.column, p, c :: rest⟩

theorem length_of_marginFrom {indent breaks deepest : Nat} {p : Position} {s : List Char}
    {m : Margin} (h : marginFrom indent breaks deepest p s = some m) :
    m.rest.length ≤ s.length := by
  fun_induction marginFrom indent breaks deepest p s with
  | case1 => simp only [Option.some.injEq] at h; simp [← h]
  | case2 _ _ _ _ ih => have := ih h; simp only [List.length_cons]; omega
  | case3 _ _ _ _ _ _ _ _ ih => have := ih h; simp only [List.length_cons]; omega
  | case4 => simp at h
  | case5 _ _ _ _ _ _ _ _ _ _ ih => have := ih h; simp only [List.length_cons]; omega
  | case6 => simp only [Option.some.injEq] at h; simp [← h]

/-- A line break at the start of a text, as one. -/
def breakLength : List Char → Nat
  | '\r' :: '\n' :: _ => 2
  | _ => 1

theorem breakLength_pos (s : List Char) : 0 < breakLength s := by
  unfold breakLength; split <;> omega

/-- The state between two lines of a block scalar. -/
structure BlockState where
  /-- The text so far, reversed. -/
  text : List Char := []
  /-- The last line ended in a line break. -/
  ended : Bool := false
  /-- Line breaks of the empty lines since then. -/
  empty : Nat := 0
  /-- The last line began with white space. -/
  spaced : Bool := false

/-- The text before the next line, reversed: a folded break between two lines that do not begin with
white space becomes a space, or nothing if empty lines follow it. -/
def BlockState.open (st : BlockState) (literal spaced : Bool) : List Char :=
  let between :=
    if !st.ended then []
    else if !literal && !st.spaced && !spaced then
      if st.empty == 0 then [' '] else []
    else ['\n']
  List.replicate st.empty '\n' ++ between ++ st.text

/-- The whole text, with the line breaks at its end as asked for. -/
def BlockState.close (st : BlockState) (ch : Chomping) : String :=
  let last := if st.ended && ch != .strip then ['\n'] else []
  let more := if ch == .keep then List.replicate st.empty '\n' else []
  String.ofList (more ++ last ++ st.text).reverse

/-- What a block scalar leaves behind. -/
structure BlockEnd where
  text : String
  position : Position
  rest : List Char

/-- Reads the lines that begin in column `indent`. -/
def blockLines (literal : Bool) (ch : Chomping) (indent : Nat) (st : BlockState) (p : Position)
    (s : List Char) : Option BlockEnd :=
  if p.column != indent || s.isEmpty then some ⟨st.close ch, p, s⟩
  else
    let content := s.takeWhile (!isBreak ·)
    let spaced := content.head?.any isSpace
    let text := content.reverse ++ st.open literal spaced
    let p := p.over content
    match _ends : s.dropWhile (!isBreak ·) with
    | [] => some ⟨({ text, spaced } : BlockState).close ch, p, []⟩
    | c :: rest =>
      let n := breakLength (c :: rest)
      match _margin : marginFrom indent 0 0 (p.over ((c :: rest).take n)) ((c :: rest).drop n) with
      | none => none
      | some m => blockLines literal ch indent ⟨text, true, m.breaks, spaced⟩ m.position m.rest
termination_by s.length
decreasing_by
  have h1 := length_of_marginFrom _margin
  have h2 := breakLength_pos (c :: rest)
  have h3 : (s.dropWhile (!isBreak ·)).length ≤ s.length := (List.dropWhile_sublist _).length_le
  rw [_ends] at h3
  simp only [List.length_drop, List.length_cons] at *
  omega

/-- The end of a line that may hold a comment: what follows the line break. -/
def restOfLine? (p : Position) (s : List Char) : Option (Position × List Char) :=
  let blank := s.takeWhile isSpace
  let s := s.dropWhile isSpace
  let p := p.over blank
  let comment := if s.head? == some '#' then s.takeWhile (!isBreak ·) else []
  let s := s.drop comment.length
  let p := p.over comment
  match s with
  | [] => some (p, [])
  | '\r' :: '\n' :: rest => some ((p.after '\r').after '\n', rest)
  | c :: rest => if isBreak c then some (p.after c, rest) else none

/-- Reads the block scalar whose first character has just been read, below a node that is indented
by `parent`. -/
def blockScalar? (literal : Bool) (parent : Int) (p : Position) (s : List Char) :
    Option BlockEnd := do
  let (header, afterHeader) ← blockHeader? s
  let p := p.over (s.take (s.length - afterHeader.length))
  let (p, s) ← restOfLine? p afterHeader
  let given := match header.depth with
    | some d => if 0 ≤ parent then (parent + d).toNat else d
    | none => 0
  let m ← marginFrom given 0 0 p s
  let indent := if given == 0 then max (max m.deepest (parent + 1).toNat) 1 else given
  blockLines literal header.chomping indent { empty := m.breaks } m.position m.rest

end SandboxImage.Yaml
