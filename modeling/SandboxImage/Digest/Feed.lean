import SandboxImage.EnvTable
import SandboxImage.Text.Utf8

/-!
# Feeding values to a digest

Every kind of value has bytes of its own: a text ends in a byte that occurs in no text, and a
collection starts with its size, so values that are fed one after the other can be told apart.
-/

namespace SandboxImage.Digest

/-- The lowest `size` bytes of a number, the lowest first. -/
def littleEndian : Nat → Nat → Bytes
  | 0, _ => []
  | size + 1, n => (n % 256).toUInt8 :: littleEndian size (n / 256)

/-- The bytes of a text, with the byte after it. -/
def textFeed (s : String) : Bytes := Text.encode s ++ [0xFF]

/-- The bytes of the size of a collection. -/
def sizeFeed (n : Nat) : Bytes := littleEndian 8 n

/-- The bytes of a list of texts. -/
def textsFeed (texts : List String) : Bytes :=
  sizeFeed texts.length ++ texts.flatMap textFeed

/-- The bytes of a table: names and values in turn. -/
def tableFeed (t : EnvTable) : Bytes :=
  sizeFeed t.entries.length ++ t.entries.flatMap fun e => textFeed e.1 ++ textFeed e.2

/-- A value that can be fed to a digest. -/
inductive Item where
  | text (s : String)
  | flag (b : Bool)
  | texts (texts : List String)
  /-- An optional value that is missing. -/
  | absent
  /-- A number of `size` bytes; negative ones are their complement. -/
  | number (size : Nat) (n : Int)
  | table (t : EnvTable)

/-- The bytes of a value. -/
def Item.feed : Item → Bytes
  | .text s => textFeed s
  | .flag b => [if b then 1 else 0]
  | .texts ts => textsFeed ts
  | .absent => sizeFeed 0
  | .number size n => littleEndian size (n % Nat.pow 256 size).toNat
  | .table t => tableFeed t

end SandboxImage.Digest
