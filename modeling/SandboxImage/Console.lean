import SandboxImage.Builder
import SandboxImage.Report
import SandboxImage.Text.Lines

/-!
# Console

What the operator sees: a coloured word in front, then plain text. Of a check that was not passed
the first lines of its error output are shown.
-/

namespace SandboxImage.Console

/-- The colours of words, by their number in the palette of a terminal. -/
inductive Colour where
  | red
  | green
  | yellow
  | cyan
  deriving DecidableEq, Repr

/-- The number of a colour. -/
def Colour.number : Colour → Nat
  | .red => 9
  | .green => 10
  | .yellow => 11
  | .cyan => 14

/-- A word in a colour, in bold. -/
def styled (c : Colour) (word : String) : String :=
  "\x1b[38;5;" ++ toString c.number ++ "m\x1b[1m" ++ word ++ "\x1b[0m"

/-- A remark. -/
def info (text : String) : String :=
  styled .cyan "INFO: " ++ text ++ "\n"

/-- A line of build output. -/
def progress (line : String) : String := line ++ "\n"

/-- An image that was built. -/
def built (r : BuildResult) : String :=
  styled .green "BUILT " ++ r.name ++ "\n  image id: " ++ r.image.imageId ++ "\n  build id: " ++
    r.image.buildId ++ "\n  alias:    " ++ r.name ++ "\n"

/-- How many lines of error output are shown. -/
def excerptLines : Nat := 5

/-- The label of an outcome; a smoke check is marked. -/
def labelOf (o : Outcome) : String :=
  match o.kind with
  | .command => o.check.label
  | .smoke => o.check.label ++ " (smoke)"

/-- What came of a check. -/
def outcome (o : Outcome) : String :=
  if o.passed then
    let first := Text.trimmed ((Text.linesOf o.output.stdout).headD "")
    styled .green "PASS " ++ labelOf o ++ "  " ++ first ++ "\n"
  else
    let excerpt := (Text.linesOf o.output.stderr).take excerptLines
    styled .red "FAIL " ++ labelOf o ++ " (exit " ++ toString o.output.exit ++ "): " ++
      o.check.command ++ "\n" ++ String.join (excerpt.map fun line => "     " ++ line ++ "\n")

/-- What came of a whole run. -/
def summary (r : Report) : String :=
  let failed := r.failures.length
  let total := r.entries.length
  let verdict := if failed == 0 then styled .green "OK " else styled .red "FAILED "
  let counts := verdict ++ toString (total - failed) ++ "/" ++ toString total ++
    " checks passed on " ++ r.name ++ " (" ++ r.instanceId ++ ")\n"
  match r.teardownError with
  | some text => counts ++ styled .yellow "WARN: " ++ text ++ "\n"
  | none => counts

/-- What the operator sees of an event while it happens. -/
def shown : Event → String
  | .note (.progress line) => progress line
  | .outcome o => outcome o
  | .print text => text
  | _ => ""

/-- What the operator sees of a trace. -/
def transcript (trace : List Event) : String :=
  String.join (trace.map shown)

end SandboxImage.Console
