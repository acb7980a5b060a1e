import SandboxImage.Yaml.Position

/-!
# Gaps between words

White space between two words of a scalar on several lines is kept on a line and folded across
lines: one line break becomes a space, and of several all but the first are kept.
-/

namespace SandboxImage.Yaml

/-- The white space since the last word. -/
inductive Gap where
  | none
  /-- Spaces and tabs, the last one first. -/
  | spaces (reversed : List Char)
  /-- A line break and `more` after it. -/
  | breaks (more : Nat)
  /-- A line break that a backslash takes away, and `more` after it. -/
  | joined (more : Nat)

/-- The gap after one more space or tab: at the start of a line it does not count. -/
def Gap.space (g : Gap) (c : Char) : Gap :=
  match g with
  | .none => .spaces [c]
  | .spaces cs => .spaces (c :: cs)
  | g => g

/-- The gap after one more line break. -/
def Gap.lineBreak : Gap → Gap
  | .none | .spaces _ => .breaks 0
  | .breaks n => .breaks (n + 1)
  | .joined n => .joined (n + 1)

/-- What the gap puts between two words, the last character first. -/
def Gap.reversedText : Gap → List Char
  | .none => []
  | .spaces cs => cs
  | .breaks 0 => [' ']
  | .breaks n => List.replicate n '\n'
  | .joined n => List.replicate n '\n'

/-- The gap holds a line break. -/
def Gap.isMultiline : Gap → Bool
  | .none | .spaces _ => false
  | .breaks _ | .joined _ => true

/-- There is a gap at all. -/
def Gap.isSome : Gap → Bool
  | .none => false
  | _ => true

end SandboxImage.Yaml
