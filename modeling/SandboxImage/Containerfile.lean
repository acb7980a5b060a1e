import SandboxImage.Recipe

/-!
# Containerfiles

A recipe as instructions, one a line. Labels and variables are quoted so that the builder takes them
as they are, and every step is an array of arguments, so it reaches the shell as one command.
-/

namespace SandboxImage

/-- An instruction of a Containerfile. -/
inductive Instruction where
  | base (image : String)
  | label (settings : List (String × String))
  | variable (name value : String)
  | user (name : String)
  | run (arguments : List String)
  deriving DecidableEq, Repr

namespace Instruction

/-- A character inside double quotes: what would end the quotes or stand for something else has a
backslash before it. -/
def quotedChar (c : Char) : List Char :=
  if c = '"' ∨ c = '\\' ∨ c = '$' then ['\\', c] else [c]

/-- A value between double quotes. -/
def quoted (value : String) : List Char :=
  '"' :: (value.toList.flatMap quotedChar ++ ['"'])

/-- A character inside a JSON text. -/
def jsonChar (c : Char) : List Char :=
  match c with
  | '"' => ['\\', '"']
  | '\\' => ['\\', '\\']
  | '\n' => ['\\', 'n']
  | '\r' => ['\\', 'r']
  | '\t' => ['\\', 't']
  | '\x08' => ['\\', 'b']
  | '\x0c' => ['\\', 'f']
  | c =>
    if c.toNat < 0x20 then
      ['\\', 'u', '0', '0', Nat.digitChar (c.toNat / 16), Nat.digitChar (c.toNat % 16)]
    else [c]

/-- A JSON text. -/
def jsonText (s : String) : List Char :=
  '"' :: (s.toList.flatMap jsonChar ++ ['"'])

/-- A JSON array of texts. -/
def jsonArray (texts : List String) : List Char :=
  '[' :: ((texts.map jsonText).intersperse [',']).flatten ++ [']']

/-- A setting with its value quoted. -/
def setting (s : String × String) : List Char :=
  s.1.toList ++ '=' :: quoted s.2

/-- The line of an instruction. -/
def line : Instruction → List Char
  | .base image => "FROM ".toList ++ image.toList
  | .label settings => "LABEL ".toList ++ ((settings.map setting).intersperse [' ']).flatten
  | .variable name value => "ENV ".toList ++ setting (name, value)
  | .user name => "USER ".toList ++ name.toList
  | .run arguments => "RUN ".toList ++ jsonArray arguments

end Instruction

/-- The label that holds the name of an image. -/
def nameLabel : String := "io.sandbox.template.alias"

/-- The label that holds the fingerprint of an image's recipe. -/
def fingerprintLabel : String := "io.sandbox.template.fingerprint"

/-- The instructions of a recipe: the steps run last, as the user that the image is left with. -/
def Recipe.instructions (r : Recipe) (name fingerprint : String) : List Instruction :=
  .base r.base :: .label [(nameLabel, name), (fingerprintLabel, fingerprint)] ::
    (r.env.entries.map fun e => .variable e.1 e.2) ++
    .user r.user :: (r.steps.map fun step => .run ["/bin/sh", "-c", step])

/-- The Containerfile of a recipe. -/
def Recipe.containerfile (r : Recipe) (name fingerprint : String) : String :=
  String.ofList ((r.instructions name fingerprint).flatMap fun i => i.line ++ ['\n'])

end SandboxImage
