import SandboxImage.Builder
import SandboxImage.Console
import SandboxImage.Podman.Service
import SandboxImage.Verifier

/-!
# Sessions with podman

A client that holds a credential connects to podman and makes requests, one after the other: of
podman itself, or of a builder or a verifier that use it. A request uses the latest connection, and
one about an instance the connection on which that was acquired.
-/

namespace SandboxImage.Podman

/-- What a client can ask for. -/
inductive Action where
  | connect (url : Option String)
  | build (request : BuildRequest)
  | acquire (name : String) (env : EnvTable) (capacity : Capacity)
  /-- Instances are numbered from zero as they are acquired. -/
  | exec (number : Nat) (command : String)
  | kill (number : Nat)
  | builder (name : String) (recipe : Recipe) (capacity : Capacity)
  | verifier (name : String) (plan : Plan) (capacity : Capacity) (observer : Observer)

/-- What a client is answered. -/
inductive Answer where
  | connected
  | image (image : BuiltImage)
  | instance (instanceId : String)
  | output (output : Output)
  | killed
  | built (result : BuildResult)
  | report (report : Report)
  | error (e : Error)
  /-- The program was taken down. -/
  | takenDown
  /-- There is no connection, or no such instance. -/
  | absent
  deriving DecidableEq

/-- How far a session has come. -/
structure Session where
  machine : Machine
  connection : Option Connection := none
  instances : List (Connection × String) := []

namespace Session

/-- Makes a request of the machine. -/
def ask {α : Type} (step : Step Event Machine α) : Step Event Session α := fun s =>
  let done := step s.machine
  ⟨done.trace, done.answer, { s with machine := done.state }⟩

/-- Makes a request of podman. -/
def request {α : Type} (step : Step Note Machine α) : Step Event Session α :=
  ask (Step.mapTrace .note step)

/-- Goes on with the latest connection. -/
def connected (f : Connection → Step Event Session Answer) : Step Event Session Answer := do
  match (← Step.state).connection with
  | some c => f c
  | none => return .absent

/-- Goes on with an instance that has been acquired. -/
def acquired (number : Nat) (f : Connection → String → Step Event Session Answer) :
    Step Event Session Answer := do
  match (← Step.state).instances[number]? with
  | some (c, i) => f c i
  | none => return .absent

end Session

open Session in
/-- Does what a client with a credential asks for. The operator sees what comes of it, as on the
command line. -/
def Action.run (credential : String) : Action → Step Event Session Answer
  | connect url =>
    match Credential.parse credential with
    | .error e => return .error e
    | .ok credential => do
      match ← request (Connection.connect url credential) with
      | .error e => return .error e
      | .ok c =>
        Step.setState { ← Step.state with connection := some c }
        return .connected
  | build req => connected fun c => do
    match ← request (c.build req) with
    | .error e => return .error e
    | .ok image => return .image image
  | acquire name env capacity => connected fun c => do
    match ← request (c.acquire name env capacity) with
    | .error e => return .error e
    | .ok i =>
      let s ← Step.state
      Step.setState { s with instances := s.instances ++ [(c, i)] }
      return .instance i
  | exec number command => acquired number fun c i => do
    match ← request (c.exec i command) with
    | .error e => return .error e
    | .ok output => return .output output
  | kill number => acquired number fun c i => do
    match ← request (c.kill i) with
    | .error e => return .error e
    | .ok () => return .killed
  | builder name recipe capacity => connected fun c => do
    match ← ask (Builder.build c.service name recipe capacity) with
    | .error e => return .error e
    | .ok result =>
      Step.tell (.print (Console.built result))
      return .built result
  | verifier name plan capacity observer => connected fun c => do
    match ← ask (Verifier.verify c.service name plan capacity observer) with
    | .error (.error e) => return .error e
    | .error .panic => return .takenDown
    | .ok report =>
      Step.tell (.print (Console.summary report))
      return .report report

/-- Does what a client asks for, one after the other. -/
def Session.run (credential : String) : List Action → Step Event Session (List Answer)
  | [] => return []
  | action :: rest => do
    let answer ← action.run credential
    return answer :: (← Session.run credential rest)

end SandboxImage.Podman
