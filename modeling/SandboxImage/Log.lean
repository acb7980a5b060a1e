/-!
# Log lines

What is told to whoever diagnoses a run, as opposed to the operator's console.
-/

namespace SandboxImage

/-- How much a log line matters. -/
inductive Level where
  | error
  | warn
  | info
  | debug
  deriving DecidableEq, Repr

/-- The name of a level. -/
def Level.name : Level → String
  | .error => "ERROR"
  | .warn => "WARN"
  | .info => "INFO"
  | .debug => "DEBUG"

/-- A line of the log. -/
structure LogLine where
  level : Level
  text : String
  deriving DecidableEq, Repr

/-- The line as it is written: its level, then its text. -/
def LogLine.line (l : LogLine) : String := l.level.name ++ " " ++ l.text

end SandboxImage
