/-!
# UTF-8

Texts as bytes and bytes as texts. Bytes that are no text are cut into units: a character, or the
longest piece that could have started one (at least one byte). Reading loosely puts U+FFFD for each
broken piece; reading strictly refuses them.
-/

namespace SandboxImage

/-- A text of bytes. -/
abbrev Bytes := List UInt8

namespace Text

/-- The bytes of a text. -/
def encode (s : String) : Bytes :=
  s.toList.flatMap String.utf8EncodeChar

/-- What a first byte of several announces: how many bytes follow, the range of the next one, and
the bits that it contributes itself. -/
structure Lead where
  following : Nat
  low : UInt8
  high : UInt8
  bits : Nat

/-- The first bytes of characters of two to four bytes. -/
def lead? (b : UInt8) : Option Lead :=
  let n := b.toNat
  if 0xC2 ≤ n && n ≤ 0xDF then some ⟨1, 0x80, 0xBF, n - 0xC0⟩
  else if n == 0xE0 then some ⟨2, 0xA0, 0xBF, 0⟩
  else if n == 0xED then some ⟨2, 0x80, 0x9F, 0xD⟩
  else if 0xE1 ≤ n && n ≤ 0xEF then some ⟨2, 0x80, 0xBF, n - 0xE0⟩
  else if n == 0xF0 then some ⟨3, 0x90, 0xBF, 0⟩
  else if 0xF1 ≤ n && n ≤ 0xF3 then some ⟨3, 0x80, 0xBF, n - 0xF0⟩
  else if n == 0xF4 then some ⟨3, 0x80, 0x8F, 4⟩
  else none

/-- Collects the following bytes of a character: its code point, or how many bytes fitted. -/
def follow : Nat → UInt8 → UInt8 → Nat → Nat → Bytes → Except Nat Nat
  | 0, _, _, acc, _, _ => .ok acc
  | _ + 1, _, _, _, taken, [] => .error taken
  | k + 1, low, high, acc, taken, b :: rest =>
    if low ≤ b && b ≤ high then
      follow k 0x80 0xBF (acc * 64 + (b.toNat - 0x80)) (taken + 1) rest
    else .error taken

/-- A unit of a byte text. -/
inductive Piece where
  | char (c : Char)
  | broken (bytes : Bytes)
  deriving DecidableEq

/-- The first unit of `b :: rest`, and how many bytes of `rest` belong to it. -/
def firstPiece (b : UInt8) (rest : Bytes) : Piece × Nat :=
  if b < 0x80 then (.char (Char.ofNat b.toNat), 0)
  else
    match lead? b with
    | none => (.broken [b], 0)
    | some l =>
      match follow l.following l.low l.high l.bits 0 rest with
      | .ok n => (.char (Char.ofNat n), l.following)
      | .error taken => (.broken (b :: rest.take taken), taken)

/-- The units of a byte text, in order. -/
def pieceList (bytes : Bytes) : List Piece :=
  match bytes with
  | [] => []
  | b :: rest =>
    let first := firstPiece b rest
    first.1 :: pieceList (rest.drop first.2)
termination_by bytes.length
decreasing_by simp only [List.length_drop, List.length_cons]; omega

/-- The replacement character. -/
def replacement : Char := '\ufffd'

/-- The character that a unit is read as: a broken piece becomes one replacement character. -/
def Piece.looseChar : Piece → Char
  | .char c => c
  | .broken _ => replacement

/-- The character that a unit is, if it is one. -/
def Piece.char? : Piece → Option Char
  | .char c => some c
  | .broken _ => none

/-- Bytes read as a text, each broken piece as one replacement character. -/
def decodeLoosely (bytes : Bytes) : String :=
  String.ofList ((pieceList bytes).map Piece.looseChar)

/-- Bytes read as a text, if they are one. -/
def decode? (bytes : Bytes) : Option String :=
  ((pieceList bytes).mapM Piece.char?).map String.ofList

end Text
end SandboxImage
