/-!
# Positions in a text

Where a reader stands: characters read, line and column. Only a line feed starts a new line.
-/

namespace SandboxImage.Yaml

/-- A place in a text. -/
structure Position where
  index : Nat := 0
  line : Nat := 0
  column : Nat := 0
  deriving DecidableEq, Inhabited

/-- The place after one more character. -/
def Position.after (p : Position) (c : Char) : Position :=
  if c = '\n' then ⟨p.index + 1, p.line + 1, 0⟩ else ⟨p.index + 1, p.line, p.column + 1⟩

/-- The place after a text. -/
def Position.over (p : Position) (s : List Char) : Position :=
  s.foldl Position.after p

/-- A line feed or a carriage return. -/
def isBreak (c : Char) : Bool := c == '\n' || c == '\r'

/-- A space or a tab. -/
def isSpace (c : Char) : Bool := c == ' ' || c == '\t'

/-- A character that stands for structure inside brackets and braces. -/
def isFlow (c : Char) : Bool :=
  c == ',' || c == '[' || c == ']' || c == '\x7b' || c == '\x7d'

/-- Letters, digits, underscores and hyphens of ASCII. -/
def isWordChar (c : Char) : Bool := c.isAlphanum || c == '_' || c == '-'

/-- The text is over, or goes on with white space. -/
def endsWord : List Char → Bool
  | [] => true
  | c :: _ => isSpace c || isBreak c

/-- A mark between documents stands here: three hyphens or three points, alone. -/
def isDocumentMark (p : Position) : List Char → Bool
  | '-' :: '-' :: '-' :: rest => p.column == 0 && endsWord rest
  | '.' :: '.' :: '.' :: rest => p.column == 0 && endsWord rest
  | _ => false

end SandboxImage.Yaml
