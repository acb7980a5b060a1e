import SandboxImage.Containerfile
import SandboxImage.Text.Lines

/-!
# Reading Containerfiles

The other direction of `Recipe.containerfile`, for texts from anywhere: a text is cut into lines, a
line is read by its keyword (`Instruction.read?`), and the instructions of an image are told apart
(`Contents.ofInstructions?`). Settings are read as they are written; what a written value stands for
is `Quoting.resolve`. The arguments of a command are a JSON array. `Contents.read?` is all of it.
-/

namespace SandboxImage

/-! ## Values between quotes -/

namespace Quoting

/-- What stands before the first quote without a backslash, and what stands after it. -/
def between : List Char → Option (List Char × List Char)
  | [] => none
  | '"' :: rest => some ([], rest)
  | '\\' :: c :: rest => (between rest).map fun r => ('\\' :: c :: r.1, r.2)
  | c :: rest => (between rest).map fun r => (c :: r.1, r.2)

/-- The value that is written so: a backslash gives way to the character after it. -/
def resolve : List Char → List Char
  | [] => []
  | '\\' :: c :: rest => c :: resolve rest
  | c :: rest => c :: resolve rest

/-- The characters that are not escaped, and do not escape another one. -/
def bare : List Char → List Char
  | [] => []
  | '\\' :: _ :: rest => bare rest
  | c :: rest => c :: bare rest

/-- A setting with its value as it is written, and the text after it. -/
def setting? (s : List Char) : Option ((String × String) × List Char) :=
  match s.dropWhile (· != '=') with
  | '=' :: '"' :: rest =>
    (between rest).map fun r =>
      ((String.ofList (s.takeWhile (· != '=')), String.ofList r.1), r.2)
  | _ => none

/-- Settings with one blank between them. -/
def settings? (s : List Char) : Option (List (String × String)) :=
  match setting? s with
  | some (first, []) => some [first]
  | some (first, ' ' :: rest) =>
    if rest.length < s.length then (settings? rest).map (first :: ·) else none
  | _ => none
termination_by s.length

end Quoting

/-! ## JSON arrays of texts -/

namespace Json

/-- The value of a hexadecimal digit. -/
def hexValue? (c : Char) : Option Nat :=
  if '0' ≤ c ∧ c ≤ '9' then some (c.toNat - '0'.toNat)
  else if 'a' ≤ c ∧ c ≤ 'f' then some (c.toNat - 'a'.toNat + 10)
  else if 'A' ≤ c ∧ c ≤ 'F' then some (c.toNat - 'A'.toNat + 10)
  else none

/-- Four hexadecimal digits. -/
def codeUnit? : List Char → Option (Nat × List Char)
  | a :: b :: c :: d :: rest => do
    let a ← hexValue? a
    let b ← hexValue? b
    let c ← hexValue? c
    let d ← hexValue? d
    return (((a * 16 + b) * 16 + c) * 16 + d, rest)
  | _ => none

/-- The character that an escape stands for, after its backslash. Characters above FFFF take two
escapes, of a high and of a low surrogate. -/
def escape? : List Char → Option (Char × List Char)
  | '"' :: rest => some ('"', rest)
  | '\\' :: rest => some ('\\', rest)
  | '/' :: rest => some ('/', rest)
  | 'b' :: rest => some ('\x08', rest)
  | 'f' :: rest => some ('\x0c', rest)
  | 'n' :: rest => some ('\n', rest)
  | 'r' :: rest => some ('\r', rest)
  | 't' :: rest => some ('\t', rest)
  | 'u' :: rest =>
    match codeUnit? rest with
    | none => none
    | some (high, rest) =>
      if high < 0xD800 ∨ 0xE000 ≤ high then some (Char.ofNat high, rest)
      else
        match rest with
        | '\\' :: 'u' :: rest =>
          match codeUnit? rest with
          | none => none
          | some (low, rest) =>
            if high < 0xDC00 ∧ 0xDC00 ≤ low ∧ low < 0xE000 then
              some (Char.ofNat (0x10000 + (high - 0xD800) * 0x400 + (low - 0xDC00)), rest)
            else none
        | _ => none
  | _ => none

/-- A character of a text. -/
def char? : List Char → Option (Char × List Char)
  | '\\' :: rest => escape? rest
  | c :: rest => if c = '"' ∨ c.toNat < 0x20 then none else some (c, rest)
  | [] => none

/-- The characters up to the quote that ends a text, and what stands after it. -/
def text? (s : List Char) : Option (List Char × List Char) :=
  match s with
  | '"' :: rest => some ([], rest)
  | s =>
    match char? s with
    | some (c, rest) =>
      if rest.length < s.length then (text? rest).map fun r => (c :: r.1, r.2) else none
    | none => none
termination_by s.length

/-- White space of JSON. -/
def isSpace (c : Char) : Bool := c == ' ' || c == '\t' || c == '\n' || c == '\r'

/-- The text without the white space before it. -/
def skip (s : List Char) : List Char :=
  s.dropWhile isSpace

/-- The members of an array, up to its end, and what stands after it. -/
def members? (s : List Char) : Option (List String × List Char) :=
  match skip s with
  | '"' :: rest =>
    match text? rest with
    | some (t, rest) =>
      match skip rest with
      | ']' :: rest => some ([String.ofList t], rest)
      | ',' :: rest =>
        if rest.length < s.length then
          (members? rest).map fun r => (String.ofList t :: r.1, r.2)
        else none
      | _ => none
    | none => none
  | _ => none
termination_by s.length

/-- An array of texts, with nothing after it. -/
def array? (s : List Char) : Option (List String) :=
  match skip s with
  | '[' :: rest =>
    match skip rest with
    | ']' :: rest => if skip rest = [] then some [] else none
    | rest =>
      match members? rest with
      | some (texts, rest) => if skip rest = [] then some texts else none
      | none => none
  | _ => none

end Json

/-! ## Instructions -/

namespace Instruction

/-- The instruction with other values in its settings. -/
def mapValues (f : String → String) : Instruction → Instruction
  | .label settings => .label (settings.map fun s => (s.1, f s.2))
  | .variable name value => .variable name (f value)
  | i => i

/-- The values of its settings. -/
def values : Instruction → List String
  | .label settings => settings.map Prod.snd
  | .variable _ value => [value]
  | _ => []

/-- The instruction that sets a variable, of the only setting on a line. -/
def ofSettings? : List (String × String) → Option Instruction
  | [(name, value)] => some (.variable name value)
  | _ => none

/-- The instruction on a line, with values as they are written. -/
def read? : List Char → Option Instruction
  | 'F' :: 'R' :: 'O' :: 'M' :: ' ' :: rest => some (.base (String.ofList rest))
  | 'L' :: 'A' :: 'B' :: 'E' :: 'L' :: ' ' :: rest => (Quoting.settings? rest).map .label
  | 'E' :: 'N' :: 'V' :: ' ' :: rest =>
    (Quoting.settings? rest).bind ofSettings?
  | 'U' :: 'S' :: 'E' :: 'R' :: ' ' :: rest => some (.user (String.ofList rest))
  | 'R' :: 'U' :: 'N' :: ' ' :: rest => (Json.array? rest).map .run
  | _ => none

/-- The instructions of a text, one a line, each line ended. -/
def readAll? (text : String) : Option (List Instruction) :=
  let lines := Text.pieces '\n' text.toList
  if lines.getLast? = some [] then lines.dropLast.mapM read? else none

/-- A value as it is written between quotes. -/
def written (value : String) : String := String.ofList (value.toList.flatMap quotedChar)

/-- The value of a written one. -/
def resolve (value : String) : String := String.ofList (Quoting.resolve value.toList)

end Instruction

/-! ## Images -/

/-- What a Containerfile says about an image. -/
structure Contents where
  name : String
  fingerprint : String
  base : String
  env : List (String × String)
  user : String
  runs : List (List String)
  deriving DecidableEq

namespace Contents

/-- The variables that are set first, and the instructions after them. -/
def takeEnv : List Instruction → List (String × String) × List Instruction
  | .variable name value :: rest => ((name, value) :: (takeEnv rest).1, (takeEnv rest).2)
  | rest => ([], rest)

/-- The arguments of what is run, if nothing else is done. -/
def runs? : List Instruction → Option (List (List String))
  | [] => some []
  | .run arguments :: rest => (runs? rest).map (arguments :: ·)
  | _ => none

/-- An image from a base, under its labels, with variables, a user, and then what is run. -/
def ofInstructions? : List Instruction → Option Contents
  | .base base :: .label [(n, name), (f, fingerprint)] :: rest =>
    match takeEnv rest with
    | (env, .user user :: rest) =>
      if n = nameLabel ∧ f = fingerprintLabel then
        (runs? rest).map fun runs => ⟨name, fingerprint, base, env, user, runs⟩
      else none
    | _ => none
  | _ => none

/-- What a text says, with its values resolved. -/
def read? (text : String) : Option Contents :=
  match Instruction.readAll? text with
  | some is => ofInstructions? (is.map (Instruction.mapValues Instruction.resolve))
  | none => none

end Contents
end SandboxImage
