import SandboxImage.Yaml.Gap
import SandboxImage.Text.Numeral

/-!
# Quoted scalars

Scalars between single quotes, where a quote is written twice, and between double quotes, where a
backslash escapes a character or takes a line break away.
-/

namespace SandboxImage.Yaml

/-- The character of an escape of one letter. -/
def escape? : Char → Option Char
  | '0' => some '\x00'
  | 'a' => some '\x07'
  | 'b' => some '\x08'
  | 't' | '\t' => some '\t'
  | 'n' => some '\n'
  | 'v' => some '\x0b'
  | 'f' => some '\x0c'
  | 'r' => some '\r'
  | 'e' => some '\x1b'
  | ' ' => some ' '
  | '"' => some '"'
  | '\'' => some '\''
  | '\\' => some '\\'
  | 'N' => some '\u0085'
  | '_' => some '\u00a0'
  | 'L' => some '\u2028'
  | 'P' => some '\u2029'
  | _ => none

/-- How many hexadecimal digits follow the letter of a numeric escape. -/
def escapeDigits? : Char → Option Nat
  | 'x' => some 2
  | 'u' => some 4
  | 'U' => some 8
  | _ => none

/-- The character with a code point, if there is one. -/
def charAt? (n : Nat) : Option Char :=
  if n.isValidChar then some (Char.ofNat n) else none

/-- What a quoted scalar leaves behind. -/
structure QuotedEnd where
  text : String
  position : Position
  rest : List Char

/-- Reads on inside single quotes, with the text so far reversed. -/
def singleFrom (gap : Gap) (p : Position) (text : List Char) : List Char → Option QuotedEnd
  | [] => none
  | '\'' :: '\'' :: rest =>
    singleFrom .none ((p.after '\'').after '\'') ('\'' :: (gap.reversedText ++ text)) rest
  | '\r' :: '\n' :: rest => singleFrom gap.lineBreak ((p.after '\r').after '\n') text rest
  | c :: rest =>
    if isDocumentMark p (c :: rest) then none
    else if c == '\'' then
      some ⟨String.ofList (gap.reversedText ++ text).reverse, p.after c, rest⟩
    else if isBreak c then singleFrom gap.lineBreak (p.after c) text rest
    else if isSpace c then singleFrom (gap.space c) (p.after c) text rest
    else singleFrom .none (p.after c) (c :: (gap.reversedText ++ text)) rest

/-- Reads on inside double quotes, with the text so far reversed. -/
def doubleFrom (gap : Gap) (p : Position) (text : List Char) (s : List Char) : Option QuotedEnd :=
  match s with
  | [] => none
  | '\r' :: '\n' :: rest => doubleFrom gap.lineBreak ((p.after '\r').after '\n') text rest
  | '\\' :: '\r' :: '\n' :: rest =>
    doubleFrom (.joined 0) (p.over ['\\', '\r', '\n']) (gap.reversedText ++ text) rest
  | '\\' :: c :: rest =>
    let text := gap.reversedText ++ text
    let p := (p.after '\\').after c
    if isBreak c then doubleFrom (.joined 0) p text rest
    else
      match escapeDigits? c with
      | some n =>
        let digits := rest.take n
        if digits.length < n then none
        else
          match (Text.readDigits? 16 digits).bind charAt? with
          | some x => doubleFrom .none (p.over digits) (x :: text) (rest.drop n)
          | none => none
      | none =>
        match escape? c with
        | some x => doubleFrom .none p (x :: text) rest
        | none => none
  | c :: rest =>
    if isDocumentMark p (c :: rest) then none
    else if c == '"' then
      some ⟨String.ofList (gap.reversedText ++ text).reverse, p.after c, rest⟩
    else if c == '\\' then none
    else if isBreak c then doubleFrom gap.lineBreak (p.after c) text rest
    else if isSpace c then doubleFrom (gap.space c) (p.after c) text rest
    else doubleFrom .none (p.after c) (c :: (gap.reversedText ++ text)) rest
termination_by s.length
decreasing_by all_goals simp_wf; try omega

/-- Reads the quoted scalar whose opening quote has just been read. -/
def quotedScalar? (single : Bool) (p : Position) (s : List Char) : Option QuotedEnd :=
  if single then singleFrom .none p [] s else doubleFrom .none p [] s

end SandboxImage.Yaml
