import SandboxImage.Text.Blank

/-!
# Shell commands that stand alone

Steps and checks are opaque shell commands, each run on its own. A command is refused if it is
plainly one piece of a longer one: it ends in a line continuation, starts or ends with an operator
that joins two commands, or leaves a quote open. `fault?` names the first of these faults.
-/

namespace SandboxImage.Command

/-- An operator that joins the commands at its two sides. -/
inductive Operator where
  | both
  | either
  | pipe
  deriving DecidableEq, Repr

/-- The written form of an operator. -/
def Operator.symbol : Operator → String
  | .both => "&&"
  | .either => "||"
  | .pipe => "|"

/-- The operators in the order in which they are looked for. -/
def Operator.all : List Operator := [.both, .either, .pipe]

/-- Where the reader of a command stands. -/
inductive State where
  /-- Before the start of a word. -/
  | gap
  /-- Inside a word. -/
  | word
  /-- After a backslash at the start of a word. -/
  | gapEscape
  /-- After a backslash inside a word. -/
  | wordEscape
  /-- Between single quotes. -/
  | single
  /-- Between double quotes. -/
  | double
  /-- After a backslash between double quotes. -/
  | doubleEscape
  /-- In a comment. -/
  | comment
  deriving DecidableEq, Repr

/-- The state after one more character. -/
def State.next : State → Char → State
  | .gap, c =>
    if c = '\'' then .single
    else if c = '"' then .double
    else if c = '\\' then .gapEscape
    else if c = ' ' ∨ c = '\t' ∨ c = '\n' then .gap
    else if c = '#' then .comment
    else .word
  | .word, c =>
    if c = '\'' then .single
    else if c = '"' then .double
    else if c = '\\' then .wordEscape
    else if c = ' ' ∨ c = '\t' ∨ c = '\n' then .gap
    else .word
  | .gapEscape, c => if c = '\n' then .gap else .word
  | .wordEscape, _ => .word
  | .single, c => if c = '\'' then .word else .single
  | .double, c =>
    if c = '"' then .word
    else if c = '\\' then .doubleEscape
    else .double
  | .doubleEscape, _ => .double
  | .comment, c => if c = '\n' then .gap else .comment

/-- A command may end in this state: no quote is open. -/
def State.isClosed : State → Bool
  | .single | .double | .doubleEscape => false
  | _ => true

/-- The state after a whole text. -/
def scan (s : List Char) : State :=
  s.foldl State.next .gap

/-- No quote is left open at the end of `s`. -/
def isBalanced (s : List Char) : Bool :=
  (scan s).isClosed

/-- Why a command cannot be run on its own. -/
inductive Fault where
  | empty
  | continuation
  | dangling (operator : Operator)
  | unbalanced
  deriving DecidableEq, Repr

/-- The text of a fault. -/
def Fault.message : Fault → String
  | .empty => "command is empty"
  | .continuation => "command ends with a line continuation; join the pieces into one entry"
  | .dangling op =>
    "command has a dangling `" ++ op.symbol ++ "`; join the pieces into one entry"
  | .unbalanced => "command has unbalanced quotes"

/-- The operator stands at an end of `t`, so one of its sides is missing. -/
def Operator.dangles (t : List Char) (op : Operator) : Bool :=
  op.symbol.toList.isSuffixOf t || op.symbol.toList.isPrefixOf t

/-- The first fault of a command without blanks at its ends. -/
def trimmedFault? (t : List Char) : Option Fault :=
  if t.isEmpty then some .empty
  else if t.getLast? = some '\\' then some .continuation
  else
    match Operator.all.find? (Operator.dangles t) with
    | some op => some (.dangling op)
    | none => if isBalanced t then none else some .unbalanced

/-- The first fault of a command; blanks at its ends do not matter. -/
def fault? (command : String) : Option Fault :=
  trimmedFault? (Text.trim command.toList)

end SandboxImage.Command
