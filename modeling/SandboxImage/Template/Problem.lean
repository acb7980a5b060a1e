import SandboxImage.Yaml.Meaning
import SandboxImage.Text.Quoted

/-!
# Problems of a template file

A file that is a document may still be no template. The problem found first is reported with its
place, what was found there and what was expected.
-/

namespace SandboxImage.Template

/-- A part of a template file with keys of its own. -/
inductive Part where
  | file
  | image
  | capacity
  | verify
  | check
  deriving DecidableEq, Repr

/-- The name of a part in messages. -/
def Part.title : Part → String
  | .file => "TemplateFile"
  | .image => "Image"
  | .capacity => "Capacity"
  | .verify => "Verify"
  | .check => "Check"

/-- The keys of a part in their order, each with whether a list of values may end before it. -/
def Part.fields : Part → List (String × Bool)
  | .file => [("alias", false), ("image", false), ("capacity", true), ("verify", false)]
  | .image => [("base", false), ("user", true), ("env", true), ("steps", false)]
  | .capacity => [("cpus", true), ("memory_mb", true)]
  | .verify => [("env", true), ("checks", false), ("smoke", false)]
  | .check => [("label", false), ("command", false)]

/-- The keys of a part. -/
def Part.keys (p : Part) : List String := p.fields.map Prod.fst

/-- Other keys are passed over. -/
def Part.isOpen : Part → Bool
  | .check => true
  | _ => false

/-- One step from a node to a node inside it. -/
inductive Descent where
  | key (name : String)
  | item (index : Nat)
  /-- Under a key that is not written at its place. -/
  | unnamed
  deriving DecidableEq, Repr

/-- A place in a document: the way there from the root, the last step first. -/
abbrev Place := List Descent

/-- The place as the front of the text of a place inside it. -/
def Place.front (place : Place) (text : String) : String :=
  if place.isEmpty then "" else text ++ "."

/-- The text of a place. -/
def Place.text : Place → String
  | [] => "."
  | .key name :: place => Place.front place (Place.text place) ++ name
  | .item index :: place => Place.text place ++ "[" ++ toString index ++ "]"
  | .unnamed :: place => Place.front place (Place.text place) ++ "?"

/-- What stands at a place. -/
inductive Found where
  | scalar (meaning : Yaml.Meaning)
  | sequence
  | mapping
  deriving DecidableEq, Repr

/-- The text of what was found. -/
def Found.text : Found → String
  | .scalar .null => "unit value"
  | .scalar (.truth b) => "boolean `" ++ (if b then "true" else "false") ++ "`"
  | .scalar (.integer n) => "integer `" ++ toString n ++ "`"
  | .scalar (.real bits) => "floating point `" ++ Decimal.write bits ++ "`"
  | .scalar (.text s) => "string " ++ Text.quoted s
  | .sequence => "sequence"
  | .mapping => "map"

/-- What is expected at a place. -/
inductive Expected where
  | text
  | list
  | key
  /-- A number without sign of so many bits. -/
  | unsigned (bits : Nat)
  | part (part : Part)
  /-- All values of a part in order. -/
  | values (part : Part)
  /-- A list of so many values. -/
  | length (n : Nat)
  deriving DecidableEq, Repr

/-- The text of an expectation. -/
def Expected.message : Expected → String
  | .text => "a string"
  | .list => "a sequence"
  | .key => "field identifier"
  | .unsigned bits => "u" ++ toString bits
  | .part p => "struct " ++ p.title
  | .values p => "struct " ++ p.title ++ " with " ++ toString p.keys.length ++ " elements"
  | .length 1 => "sequence of 1 element"
  | .length n => "sequence of " ++ toString n ++ " elements"

/-- What is wrong at a place. -/
inductive Fault where
  | unexpected (found : Found) (expected : Expected)
  | outOfRange (n : Int) (expected : Expected)
  | badLength (n : Nat) (expected : Expected)
  | unknownKey (key : String) (known : List String)
  | repeatedKey (key : String)
  | missingKey (key : String)
  /-- An environment is neither a mapping of texts nor a list of them. -/
  | noEnvironment
  /-- The node has no value on its own. -/
  | meaningless
  deriving DecidableEq, Repr

/-- A choice among keys, in words. -/
def keyChoice : List String → String
  | [] => "there are no fields"
  | [a] => "expected `" ++ a ++ "`"
  | [a, b] => "expected `" ++ a ++ "` or `" ++ b ++ "`"
  | keys => "expected one of " ++ String.intercalate ", " (keys.map fun k => "`" ++ k ++ "`")

/-- The text of a fault. -/
def Fault.message : Fault → String
  | .unexpected found expected =>
    "invalid type: " ++ found.text ++ ", expected " ++ expected.message
  | .outOfRange n expected =>
    "invalid value: " ++ (Found.scalar (.integer n)).text ++ ", expected " ++ expected.message
  | .badLength n expected => "invalid length " ++ toString n ++ ", expected " ++ expected.message
  | .unknownKey key known => "unknown field `" ++ key ++ "`, " ++ keyChoice known
  | .repeatedKey key => "duplicate field `" ++ key ++ "`"
  | .missingKey key => "missing field `" ++ key ++ "`"
  | .noEnvironment => "data did not match any variant of untagged enum MapList"
  | .meaningless => "no value"

/-- What is wrong with a template file, and where. -/
structure Problem where
  place : Place
  fault : Fault
  deriving DecidableEq, Repr

/-- The text of a problem; the root of a document is not named. -/
def Problem.message (p : Problem) : String :=
  if p.place.isEmpty then p.fault.message else Place.text p.place ++ ": " ++ p.fault.message

end SandboxImage.Template
