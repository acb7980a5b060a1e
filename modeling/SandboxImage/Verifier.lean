import SandboxImage.Service
import SandboxImage.Validation

/-!
# Verifying

A plan is looked through, an instance is acquired, and every check runs on it in order. A check that
is not passed never ends the run; only a service that cannot run one, or a panic, does. The instance
is owned by a guard, which kills it when it is released or, if a panic passes that by, when the
guard goes.
-/

namespace SandboxImage

/-- Who is handed the outcomes of a run: given the earlier outcomes and the present one, says
whether the program is taken down then. -/
abbrev Observer := List Outcome → Outcome → Bool

/-- The observer that never takes the program down. -/
def Observer.calm : Observer := fun _ _ => false

namespace Verifier

variable {σ : Type}

/-- The checks of a plan with their kinds, in the order in which they run. -/
def agenda (p : Plan) : List (Check × CheckKind) :=
  (p.checks.map fun c => (c, .command)) ++ (p.smoke.toList.map fun c => (c, .smoke))

/-- A fault of the service while it runs a check names the check. -/
def named (check : Check) : Halt → Halt
  | .error (.service reason) =>
    .error (.service ("check " ++ Text.quoted check.label ++ ": " ++ reason))
  | halt => halt

/-- A fault while an instance is killed is one of its teardown. -/
def asTeardown (instanceId : String) : Error → Error
  | .teardown i reason => .teardown i reason
  | e => .teardown instanceId e.message

/-- Kills an instance. -/
def tearDown (service : Service σ) (instanceId : String) :
    Step Event σ (Except Error Unit) := do
  Step.log .info ("tearing down instance " ++ instanceId)
  Step.tell (.kill instanceId)
  return (← Step.mapTrace .note (service.kill instanceId)).mapError (asTeardown instanceId)

/-- Who owns an instance. A guard that has given its instance up cannot use or kill it any more. -/
structure Guard where
  instanceId : String
  /-- The instance has not been given up. -/
  held : Bool
  deriving DecidableEq

namespace Guard

/-- The guard of an instance that has been acquired. -/
def hold (instanceId : String) : Guard := ⟨instanceId, true⟩

@[simp]
theorem hold_instanceId (instanceId : String) : (hold instanceId).instanceId = instanceId := rfl

@[simp]
theorem hold_held (instanceId : String) : (hold instanceId).held = true := rfl

/-- Runs a command on the instance of a guard. -/
def exec (service : Service σ) (g : Guard) (command : String) :
    Step Event σ (Except Halt Output) :=
  if g.held then do
    Step.tell (.exec g.instanceId command)
    Step.mapTrace .note (service.exec g.instanceId command)
  else
    return .error (.error (.service ("instance " ++ g.instanceId ++ " was already released")))

/-- Takes the instance from a guard and kills it. -/
def release (service : Service σ) (g : Guard) :
    Step Event σ (Except Error Unit × Guard) :=
  if g.held then do
    return (← tearDown service g.instanceId, { g with held := false })
  else return (.ok (), g)

/-- The end of a guard: an instance that it still has is killed, and a fault is only logged. -/
def drop (service : Service σ) (g : Guard) : Step Event σ Unit :=
  if g.held then do
    match ← tearDown service g.instanceId with
    | .ok () => return ()
    | .error e => Step.log .error e.message
  else return ()

end Guard

/-- Runs one check. -/
def runCheck (service : Service σ) (guard : Guard) (check : Check) :
    Step Event σ (Except Halt Output) := do
  Step.log .debug ("running " ++ Text.quoted check.label ++ ": " ++ check.command)
  return (← guard.exec service check.command).mapError (named check)

/-- What is logged about an outcome. -/
def summary (o : Outcome) : String :=
  if o.passed then "check " ++ Text.quoted o.check.label ++ " passed"
  else
    "check " ++ Text.quoted o.check.label ++ " failed with exit code " ++ toString o.output.exit

/-- Runs checks after those whose outcomes are `done`, and hands on each outcome. -/
def runChecks (service : Service σ) (guard : Guard) (observer : Observer)
    (done : List Outcome) : List (Check × CheckKind) → Step Event σ (Except Halt (List Outcome))
  | [] => return .ok done
  | (check, kind) :: rest => do
    match ← runCheck service guard check with
    | .error halt => return .error halt
    | .ok output =>
      let o : Outcome := ⟨check, kind, output⟩
      Step.log .info (summary o)
      Step.tell (.outcome o)
      if observer done o then return .error .panic
      else runChecks service guard observer (done ++ [o]) rest

/-- A fault while an instance is acquired is one of its acquisition. -/
def asAcquisition (name : String) : Error → Error
  | .acquisition n reason => .acquisition n reason
  | e => .acquisition name e.message

/-- Asks the service for an instance. -/
def acquire (service : Service σ) (name : String) (env : EnvTable) (capacity : Capacity) :
    Step Event σ (Except Error String) := fun s =>
  let done := service.acquire name env capacity s
  ⟨.acquire name env capacity done.answer.toOption :: done.trace.map .note,
    done.answer.mapError (asAcquisition name), done.state⟩

/-- Ends a run that no panic has ended: the instance is released, and then the guard goes. A failed
teardown is part of the report if there is one, and is logged in any case. -/
def conclude (service : Service σ) (name : String) (guard : Guard)
    (run : Except Halt (List Outcome)) : Step Event σ (Except Halt Report) := do
  let released ← guard.release service
  released.2.drop service
  match released.1 with
  | .ok () => return run.map fun entries => ⟨name, guard.instanceId, entries, none⟩
  | .error e =>
    Step.log .error e.message
    return run.map fun entries => ⟨name, guard.instanceId, entries, some e.message⟩

/-- Runs a plan on an instance that has been acquired. -/
def runOn (service : Service σ) (name : String) (p : Plan) (observer : Observer)
    (instanceId : String) : Step Event σ (Except Halt Report) := do
  Step.log .info ("acquired instance " ++ instanceId ++ " of " ++ name)
  let guard := Guard.hold instanceId
  match ← runChecks service guard observer [] (agenda p) with
  | .error .panic =>
    -- nothing is released on the way out, so it is the end of the guard that kills the instance
    guard.drop service
    return .error .panic
  | run => conclude service name guard run

/-- Verifies the image with a name by a plan. -/
def verify (service : Service σ) (name : String) (p : Plan) (capacity : Capacity)
    (observer : Observer) : Step Event σ (Except Halt Report) :=
  match p.violation? with
  | some violation => return .error (.error (.invalid violation))
  | none => do
    match ← acquire service name p.env capacity with
    | .error e => return .error (.error e)
    | .ok instanceId => runOn service name p observer instanceId

section

variable {service : Service σ} {name : String} {p : Plan} {capacity : Capacity}
  {observer : Observer} {s : σ}

theorem verify_of_violation {violation : Violation} (hp : p.violation? = some violation) :
    verify service name p capacity observer s = ⟨[], .error (.error (.invalid violation)), s⟩ := by
  simp [verify, hp]

theorem verify_of_refused {e : Error} (hp : p.violation? = none)
    (ha : (service.acquire name p.env capacity s).answer = .error e) :
    verify service name p capacity observer s =
      ⟨.acquire name p.env capacity none ::
          (service.acquire name p.env capacity s).trace.map .note,
        .error (.error (asAcquisition name e)), (service.acquire name p.env capacity s).state⟩ := by
  simp [verify, hp, acquire, ha, Except.toOption]

theorem verify_of_granted {i : String} (hp : p.violation? = none)
    (ha : (service.acquire name p.env capacity s).answer = .ok i) :
    verify service name p capacity observer s =
      let acquired := service.acquire name p.env capacity s
      let run := runOn service name p observer i acquired.state
      ⟨.acquire name p.env capacity (some i) :: (acquired.trace.map .note ++ run.trace),
        run.answer, run.state⟩ := by
  simp [verify, hp, acquire, ha, Except.toOption]

end

end Verifier
end SandboxImage
