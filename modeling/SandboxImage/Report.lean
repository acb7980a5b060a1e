import SandboxImage.Recipe

/-!
# Outcomes and reports

What came of each check of a plan, and of a whole run.
-/

namespace SandboxImage

/-- What a command left behind. -/
structure Output where
  exit : Int32 := 0
  stdout : String := ""
  stderr : String := ""
  deriving DecidableEq, Inhabited

/-- The kind of a check. -/
inductive CheckKind where
  | command
  | smoke
  deriving DecidableEq, Repr

/-- What came of a check. -/
structure Outcome where
  check : Check
  kind : CheckKind
  output : Output
  deriving DecidableEq

/-- A check is passed if its command exits with zero. Nothing else decides it, so it is read off the
output and no part of an outcome. -/
def Outcome.passed (o : Outcome) : Bool := o.output.exit == 0

/-- Whether failed checks fail a run. -/
inductive Policy where
  | lenient
  | strict
  deriving DecidableEq, Repr

/-- What came of a run on one instance. -/
structure Report where
  name : String
  instanceId : String
  entries : List Outcome
  teardownError : Option String
  deriving DecidableEq

namespace Report

/-- The checks that were not passed, in order. -/
def failures (r : Report) : List Outcome :=
  r.entries.filter fun o => !o.passed

/-- Every check was passed. -/
def allPassed (r : Report) : Bool := r.failures.isEmpty

/-- Why the run counts as failed, if it does. An instance that could not be torn down fails every
run, a failed check only a strict one. -/
def exitError? (r : Report) (policy : Policy) : Option String :=
  match r.teardownError with
  | some text => some text
  | none =>
    let failed := r.failures.length
    if policy = .strict ∧ 0 < failed then some (toString failed ++ " verification checks failed")
    else none

end Report
end SandboxImage
