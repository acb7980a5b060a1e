import SandboxImage.Yaml.Node
import SandboxImage.Decimal

/-!
# What scalars mean

A tag decides what a scalar is; without one a plain scalar may be a null, a truth value or a number,
and everything else is text. A document is generic if it is a value on its own, whatever is expected
of it: no scalar contradicts its tag, and collections are not nested too deep.
-/

namespace SandboxImage.Yaml

/-- The value of a scalar. -/
inductive Meaning where
  | null
  | truth (b : Bool)
  | integer (n : Int)
  /-- A binary floating-point number, by its bits. -/
  | real (bits : UInt64)
  | text (s : String)
  deriving DecidableEq, Repr

/-- Reads a whole number of `bits` bits after an optional sign. A minus sign makes it a signed
one. -/
def readInteger? (bits : Nat) : List Char → Option Int
  | '-' :: s =>
    ((Text.readDigits? 10 s).filter (· ≤ Nat.pow 2 (bits - 1))).map fun n : Nat => -(n : Int)
  | s => (Text.readUnsigned? 10 (Text.maxUnsigned bits) s).map Int.ofNat

/-- Reads a whole number with the mark of its base: `0x`, `0o` or `0b` after an optional sign. -/
def readMarked? (s : List Char) : Option Int :=
  let body := match s with
    | '+' :: rest | '-' :: rest => rest
    | _ => s
  let digits? := match body with
    | '0' :: 'x' :: rest => some (16, rest)
    | '0' :: 'o' :: rest => some (8, rest)
    | '0' :: 'b' :: rest => some (2, rest)
    | _ => none
  match digits? with
  | none => none
  | some (base, digits) =>
    if s.head? == some '-' then
      ((Text.readDigits? base digits).filter (· ≤ Nat.pow 2 63)).map fun n : Nat => -(n : Int)
    else (Text.readUnsigned? base (Text.maxUnsigned 64) digits).map Int.ofNat

/-- Several digits of which the first is a zero, after an optional sign: no number, but text. -/
def isPaddedDigits (s : List Char) : Bool :=
  let body := match s with
    | '+' :: rest | '-' :: rest => rest
    | _ => s
  body.head? == some '0' && 1 < body.length && body.all Char.isDigit

/-- Reads a number with a fraction, or one of the words for infinity and for no number. -/
def readReal? (s : List Char) : Option UInt64 :=
  match String.ofList s with
  | ".inf" | ".Inf" | ".INF" => some Decimal.infinity
  | "-.inf" | "-.Inf" | "-.INF" => some (Decimal.negative Decimal.infinity)
  | ".nan" | ".NaN" | ".NAN" => some Decimal.notANumber
  | _ => (Decimal.read? s).filter Decimal.isFinite

/-- The value of a plain scalar without a tag; there is none for whole numbers of more than 64 and
at most 128 bits. -/
def plainMeaning? (text : String) : Option Meaning :=
  let s := text.toList
  if text == "~" || text == "null" then some .null
  else if text == "true" then some (.truth true)
  else if text == "false" then some (.truth false)
  else
    match readMarked? s with
    | some n => some (.integer n)
    | none =>
      if isPaddedDigits s then some (.text text)
      else
        match readInteger? 64 s with
        | some n => some (.integer n)
        | none =>
          if (readInteger? 128 s).isSome then none
          else
            match readReal? s with
            | some bits => some (.real bits)
            | none => some (.text text)

/-- The value that a tag of the common family asks for. -/
def taggedMeaning? (name text : String) : Option Meaning :=
  match name with
  | "bool" =>
    if text == "true" then some (.truth true)
    else if text == "false" then some (.truth false)
    else none
  | "int" => ((readInteger? 64 text.toList).filter (· < (Nat.pow 2 63 : Int))).map .integer
  | "float" => (Decimal.read? text.toList).map .real
  | "null" => if text == "~" || text == "null" then some .null else none
  | _ => some (.text text)

/-- The value of a scalar, unless it contradicts its tag. -/
def Scalar.meaning? (s : Scalar) : Option Meaning :=
  match s.tag with
  | some tag => if tag.handle == "!!" then taggedMeaning? tag.suffix s.text else some (.text s.text)
  | none => if s.plain then plainMeaning? s.text else some (.text s.text)

mutual

/-- The node is a value on its own, with at most `depth` collections inside each other. -/
def Node.isGenericWithin (depth : Nat) : Node → Bool
  | .scalar s => s.meaning?.isSome
  | .sequence items => 0 < depth && areGenericWithin (depth - 1) items
  | .mapping entries => 0 < depth && entriesGenericWithin (depth - 1) entries
  | .reference (some n) => n.isGenericWithin depth
  | .reference none => false

/-- All of the nodes are values on their own. -/
def areGenericWithin (depth : Nat) : List Node → Bool
  | [] => true
  | n :: rest => n.isGenericWithin depth && areGenericWithin depth rest

/-- All keys and values of the entries are values on their own. -/
def entriesGenericWithin (depth : Nat) : List (Node × Node) → Bool
  | [] => true
  | (key, value) :: rest =>
    key.isGenericWithin depth && value.isGenericWithin depth && entriesGenericWithin depth rest

end

/-- The node is a value on its own; 128 collections may be nested. -/
def Node.isGeneric (n : Node) : Bool := n.isGenericWithin 128

end SandboxImage.Yaml
