import SandboxImage.Report
import SandboxImage.Error
import SandboxImage.Step

/-!
# Services

A service builds images and runs instances of them. It is given by how it answers: every request is
a step over the states of the service, during which it may tell notes.
-/

namespace SandboxImage

/-- A start of a process that was attempted. -/
structure Start where
  arguments : List String
  /-- The files that were written for it: their paths and contents. -/
  files : List (String × String) := []
  /-- The process was started. -/
  began : Bool
  deriving DecidableEq

/-- What a service tells while it works. -/
inductive Note where
  | log (l : LogLine)
  /-- A line of the output of a build. -/
  | progress (line : String)
  | start (s : Start)
  deriving DecidableEq

/-- A request for an image. -/
structure BuildRequest where
  name : String
  recipe : Recipe
  capacity : Capacity
  fingerprint : String
  deriving DecidableEq

/-- What a service calls the image that it has built. -/
structure BuiltImage where
  imageId : String
  buildId : String
  deriving DecidableEq, Inhabited

/-- Why a command gives no output. -/
inductive Halt where
  | error (e : Error)
  /-- The program is taken down. -/
  | panic
  deriving DecidableEq

/-- A service with states `σ`. Instances are known by their identifiers. -/
structure Service (σ : Type) where
  build : BuildRequest → Step Note σ (Except Error BuiltImage)
  acquire : String → EnvTable → Capacity → Step Note σ (Except Error String)
  exec : String → String → Step Note σ (Except Halt Output)
  kill : String → Step Note σ (Except Error Unit)

/-- What happens in a run over a service. -/
inductive Event where
  | note (n : Note)
  | build (request : BuildRequest)
  /-- An instance was asked for; if it was granted, it has an identifier. -/
  | acquire (name : String) (env : EnvTable) (capacity : Capacity) (granted : Option String)
  | exec (instanceId command : String)
  | kill (instanceId : String)
  /-- What came of a check is handed on. -/
  | outcome (o : Outcome)
  /-- A text is put before the operator. -/
  | print (text : String)
  deriving DecidableEq

namespace Event

/-- The line that an event adds to the log. -/
def log? : Event → Option LogLine
  | .note (.log l) => some l
  | _ => none

/-- The line of build output that an event hands on. -/
def progress? : Event → Option String
  | .note (.progress line) => some line
  | _ => none

/-- The start of a process that an event tells of. -/
def start? : Event → Option Start
  | .note (.start s) => some s
  | _ => none

end Event

namespace Step

variable {σ : Type}

/-- Writes a line of the log. -/
def log (level : Level) (text : String) : Step Event σ Unit :=
  tell (.note (.log ⟨level, text⟩))

/-- Writes several lines of the log. -/
def logAll (lines : List LogLine) : Step Event σ Unit :=
  tellAll (lines.map fun l => .note (.log l))

@[simp]
theorem log_apply (level : Level) (text : String) (s : σ) :
    log level text s = ⟨[.note (.log ⟨level, text⟩)], (), s⟩ := rfl

end Step
end SandboxImage
