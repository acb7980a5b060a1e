import SandboxImage.Yaml.TagText
import SandboxImage.Yaml.Block

/-!
# Directives

Lines in front of a document that start with a percent sign. A version and a declared handle have
to be well formed; other directives are passed over. None of them changes what a document means.
-/

namespace SandboxImage.Yaml

/-- Reads one to nine digits. -/
def versionNumber? (s : List Char) : Option (List Char) :=
  let digits := s.takeWhile Char.isDigit
  if digits.isEmpty || 9 < digits.length then none else some (s.dropWhile Char.isDigit)

/-- Reads a version: two numbers with a point between them. -/
def version? (s : List Char) : Option (List Char) := do
  match ← versionNumber? (s.dropWhile isSpace) with
  | '.' :: rest => versionNumber? rest
  | _ => none

/-- Reads the handle that is declared: one exclamation mark, or a word between two. -/
def declaredHandle? : List Char → Option (List Char)
  | '!' :: s =>
    match s.dropWhile isWordChar with
    | '!' :: rest => some rest
    | rest => if (s.takeWhile isWordChar).isEmpty then some rest else none
  | _ => none

/-- Reads a declaration: a handle, and what it stands for. -/
def declaration? (s : List Char) : Option (List Char) := do
  let rest ← declaredHandle? (s.dropWhile isSpace)
  let (_, rest) ← tagName? (rest.dropWhile isSpace)
  if endsWord rest then some rest else none

/-- Reads a directive up to the blanks at its end, from behind the percent sign. -/
def directiveBody? (s : List Char) : Option (List Char) :=
  let name := String.ofList (s.takeWhile isWordChar)
  let rest := s.dropWhile isWordChar
  if name.isEmpty || !endsWord rest then none
  else if name == "YAML" then version? rest
  else if name == "TAG" then declaration? rest
  else some (rest.dropWhile (!isBreak ·))

/-- Reads a directive with its line break. -/
def directive? (p : Position) (s : List Char) : Option (Position × List Char) := do
  let rest ← directiveBody? (s.drop 1)
  restOfLine? (p.over (s.take (s.length - rest.length))) rest

end SandboxImage.Yaml
