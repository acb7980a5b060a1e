import SandboxImage.Yaml.Gap

/-!
# Plain scalars

Words without quotes, on one or several lines. A plain scalar ends before a comment, before a colon
that ends a key, before a mark between documents, at a line that is indented too little, and inside
brackets at any character of their structure.
-/

namespace SandboxImage.Yaml

/-- What a plain scalar leaves behind. -/
structure PlainEnd where
  text : String
  /-- The scalar is followed by a line break. -/
  multiline : Bool
  position : Position
  rest : List Char

/-- Where a plain scalar stands. -/
structure PlainContext where
  /-- Inside brackets or braces. -/
  inFlow : Bool
  /-- The least column of its further lines. -/
  indent : Int

/-- A word cannot start here. -/
def PlainContext.stopsBefore (ctx : PlainContext) (gap : Gap) (p : Position) (s : List Char) :
    Bool :=
  (gap.isSome && !ctx.inFlow && p.column < ctx.indent) || isDocumentMark p s ||
    s.head? == some '#'

/-- The word cannot go on with `c`, followed by `rest`. -/
def PlainContext.stopsAt (ctx : PlainContext) (c : Char) (rest : List Char) : Bool :=
  (c == ':' && (endsWord rest || (ctx.inFlow && rest.head?.any isFlow))) ||
    (ctx.inFlow && isFlow c)

/-- Reads on, with the text so far reversed; `inWord` says that the last character belongs to a
word. A tab in the indentation of a further line is refused. -/
def plainFrom (ctx : PlainContext) (inWord : Bool) (gap : Gap) (p : Position)
    (text : List Char) : List Char → Option PlainEnd
  | [] => some ⟨String.ofList text.reverse, gap.isMultiline, p, []⟩
  | '\r' :: '\n' :: rest =>
    plainFrom ctx false gap.lineBreak ((p.after '\r').after '\n') text rest
  | c :: rest =>
    if isBreak c then plainFrom ctx false gap.lineBreak (p.after c) text rest
    else if isSpace c then
      if c == '\t' && gap.isMultiline && p.column < ctx.indent then none
      else plainFrom ctx false (gap.space c) (p.after c) text rest
    else if (!inWord && ctx.stopsBefore gap p (c :: rest)) || ctx.stopsAt c rest then
      some ⟨String.ofList text.reverse, gap.isMultiline, p, c :: rest⟩
    else plainFrom ctx true .none (p.after c) (c :: (gap.reversedText ++ text)) rest

/-- Reads the plain scalar at the start of a text. -/
def plainScalar? (ctx : PlainContext) (p : Position) (s : List Char) : Option PlainEnd :=
  plainFrom ctx false .none p [] s

end SandboxImage.Yaml
