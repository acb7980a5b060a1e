import SandboxImage.Text.Unprintable
import SandboxImage.Text.GraphemeExtend
import SandboxImage.Text.Utf8

/-!
# Quoted texts in messages

A text that a message cites stands between double quotes. Quotes, backslashes and the common
controls have a short form; other characters that would not show, or would attach to their
neighbour, are written by code point.
-/

namespace SandboxImage.Text

/-- A number in lowercase hexadecimal digits. -/
def hex (n : Nat) : String :=
  String.ofList (Nat.toDigits 16 n)

/-- A byte as two uppercase hexadecimal digits. -/
def upperHexByte (b : UInt8) : String :=
  let digits := Nat.toDigits 16 (b.toNat / 16) ++ Nat.toDigits 16 (b.toNat % 16)
  String.ofList (digits.map Char.toUpper)

/-- The form of one character inside a quoted text. -/
def quotedChar (c : Char) : String :=
  match c with
  | '"' => "\\\""
  | '\\' => "\\\\"
  | '\n' => "\\n"
  | '\r' => "\\r"
  | '\t' => "\\t"
  | '\x00' => "\\0"
  | c =>
    if isGraphemeExtend c || isUnprintable c then "\\u\x7b" ++ hex c.toNat ++ "\x7d"
    else c.toString

/-- A text between double quotes. -/
def quoted (s : String) : String :=
  "\"" ++ String.join (s.toList.map quotedChar) ++ "\""

/-- The form of a unit of a byte text: single quotes are escaped too, and bytes that belong to no
character are written in hexadecimal. -/
def Piece.quoted : Piece → String
  | .char '\'' => "\\'"
  | .char c => quotedChar c
  | .broken bad => String.join (bad.map fun b => "\\x" ++ upperHexByte b)

/-- A byte text between double quotes. -/
def quotedBytes (bytes : Bytes) : String :=
  "\"" ++ String.join ((pieceList bytes).map Piece.quoted) ++ "\""

end SandboxImage.Text
