import SandboxImage.Service

/-!
# A service from a script

A service that answers from four queues, front to back; an empty queue gives a plain success. It
serves to try out builders and verifiers.
-/

namespace SandboxImage.Scripted

/-- The answers that are left. -/
structure Script where
  /-- For each build its output, then its answer. -/
  builds : List (List String × Except Error BuiltImage) := []
  acquires : List (Except Error String) := []
  execs : List (Except Halt Output) := []
  kills : List (Except Error Unit) := []

variable {α : Type}

/-- The next answer of a queue. -/
def next (queue : Script → List α) (put : Script → List α → Script) (default : α) :
    Step Note Script α := do
  let script ← Step.state
  match queue script with
  | [] => return default
  | a :: rest =>
    Step.setState (put script rest)
    return a

/-- The service that a script describes. -/
def service : Service Script where
  build _ := do
    let (output, answer) ←
      next Script.builds (fun s rest => { s with builds := rest }) ([], .ok ⟨"", ""⟩)
    Step.tellAll (output.map .progress)
    return answer
  acquire _ _ _ := next Script.acquires (fun s rest => { s with acquires := rest }) (.ok "fake")
  exec _ _ := next Script.execs (fun s rest => { s with execs := rest }) (.ok {})
  kill _ := next Script.kills (fun s rest => { s with kills := rest }) (.ok ())

end SandboxImage.Scripted
