import SandboxImage.Yaml.Token
import SandboxImage.Yaml.Position
import SandboxImage.Yaml.Quoted

/-!
# Written tags

A tag starts with an exclamation mark. Between angle brackets stands its full name; otherwise a
handle between two exclamation marks may come first. Characters may be written as octets after
percent signs.
-/

namespace SandboxImage.Yaml

/-- A character that may stand in the name of a tag. -/
def isTagChar (c : Char) : Bool :=
  isWordChar c || ";/?:@&=+$,.!~*'()[]%".toList.contains c

/-- How many octets a character has whose first octet is `n`. -/
def octetCount? (n : Nat) : Option Nat :=
  if n < 0x80 then some 1
  else if n / 0x20 == 6 then some 2
  else if n / 0x10 == 14 then some 3
  else if n / 8 == 30 then some 4
  else none

/-- One more octet of a character of which `missing` are to come: how many then are to come, and all
octets so far as one number. -/
def moreOctets? (missing code n : Nat) : Option (Nat × Nat) :=
  if missing == 0 then (octetCount? n).map fun k => (k - 1, n)
  else if n / 0x40 == 2 then some (missing - 1, code * 0x100 + n)
  else none

/-- Reads the name of a tag, with the text so far reversed. The octets of a character follow each
other; joined they are its code point. -/
def tagNameFrom (missing code : Nat) (text : List Char) :
    List Char → Option (List Char × List Char)
  | '%' :: a :: b :: rest =>
    match (Text.readDigits? 16 [a, b]).bind (moreOctets? missing code) with
    | some (0, code) =>
      match charAt? code with
      | some c => tagNameFrom 0 0 (c :: text) rest
      | none => none
    | some (missing, code) => tagNameFrom missing code text rest
    | none => none
  | c :: rest =>
    if missing != 0 || c == '%' then none
    else if isTagChar c then tagNameFrom 0 0 (c :: text) rest
    else some (text.reverse, c :: rest)
  | [] => if missing != 0 then none else some (text.reverse, [])

/-- Reads the name of a tag, which is not empty. -/
def tagName? (s : List Char) : Option (String × List Char) :=
  match tagNameFrom 0 0 [] s with
  | some ([], _) | none => none
  | some (name, rest) => some (String.ofList name, rest)

/-- Reads a tag, which white space must follow. A single exclamation mark is a tag of its own. -/
def tag? (s : List Char) : Option (Tag × List Char) := do
  let (tag, rest) ← match s with
    | '!' :: '<' :: s => do
      let (name, rest) ← tagName? s
      if rest.head? == some '>' then some ((⟨"", name⟩ : Tag), rest.drop 1) else none
    | '!' :: s =>
      let word := s.takeWhile isWordChar
      match s.dropWhile isWordChar with
      | '!' :: rest =>
        (tagName? rest).map fun (name, rest) =>
          (⟨String.ofList ('!' :: word ++ ['!']), name⟩, rest)
      | rest =>
        (tagNameFrom 0 0 word.reverse rest).map fun (name, rest) =>
          (if name.isEmpty then ⟨"", "!"⟩ else ⟨"!", String.ofList name⟩, rest)
    | _ => none
  if endsWord rest then some (tag, rest) else none

end SandboxImage.Yaml
