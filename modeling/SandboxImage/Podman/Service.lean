import SandboxImage.Podman.Invocation
import SandboxImage.Podman.Output
import SandboxImage.Fingerprint

/-!
# Podman as a service

Images are built, and instances run and removed, by starting podman. Its output is read loosely; of
a build that fails the last lines are reported, and of anything else the error output.
-/

namespace SandboxImage.Podman

/-- A service that has answered, with what is needed to talk to it. -/
structure Connection where
  url : Option String
  credential : Credential
  deriving DecidableEq

/-- Bytes read as a text without blanks at its ends. -/
def trimmedText (bytes : Bytes) : String := Text.trimmed (Text.decodeLoosely bytes)

/-- The lines of a text that are not blank. -/
def filledLines (s : String) : List String :=
  (Text.linesOf s).filter fun line => !Text.isBlankText line

/-- What is reported of a build that failed: the end of its error output, else the end of its
output, else how it ended. -/
def buildFault (r : Response) : BuildFault :=
  let log := filledLines ((Text.decode? r.stderr).getD "")
  let tail :=
    if log.isEmpty then (Intake.whole r.stdout).window else lastOf diagnosticLines log
  let diagnostic := Text.unlines tail
  if diagnostic.isEmpty then .ended r.ending else .reported diagnostic

/-- The identifier that a build has left behind. -/
def imageIdOf (r : Response) : Except Error String :=
  match r.imageId with
  | none => .error (.io .notFound)
  | some bytes =>
    match Text.decode? bytes with
    | some text => .ok (Text.trimmed text)
    | none => .error (.io .notText)

/-- The error output as a reason; where there is none, how podman ended. -/
def reason (r : Response) : Step Note Machine String :=
  let stderr := trimmedText r.stderr
  if stderr.isEmpty then do
    Step.tell (.log ⟨.warn, "podman exited with " ++ r.ending.text ++ " and no output"⟩)
    return "podman exited with " ++ r.ending.text
  else return stderr

/-- Podman itself failed, and not what it ran: then its error output says so. -/
def failedItself (r : Response) : Bool :=
  "Error:".toList.isPrefixOf (Text.trimStart (Text.decodeLoosely r.stderr).toList)

/-- The exit code of a command that ran, if it ran to its end. -/
def exitCode? (r : Response) : Option Int32 :=
  match r.ending with
  | .exited code => if code == 125 && failedItself r then none else some (Int32.ofNat code.toNat)
  | .signalled .. => none

/-- What is read of the output of a build. The line in which reading fails is lost. -/
def readOutput (r : Response) : Bytes :=
  if r.readFault.isSome then endedLines r.stdout else r.stdout

namespace Workspace

/-- The error output of a build as it is read back. If it can't be read, it counts as empty. -/
def log (w : Workspace) (r : Response) : Bytes :=
  if (w.refusal .readLog).isSome then [] else r.stderr

/-- What a build that was started comes to: the identifier of its image. Its end is waited for
before anything is said about its output. -/
def outcome (w : Workspace) (r : Response) : Except Error String :=
  match r.waitFault, r.readFault with
  | some fault, _ => .error (.io fault)
  | none, some fault => .error (.build (.notRead fault))
  | none, none =>
    if r.ending.isSuccess then do
      w.grant .readImageId
      let imageId ← imageIdOf r
      w.grant .removeDirectory
      return imageId
    else .error (.build (buildFault { r with stderr := w.log r }))

end Workspace

namespace Connection

/-- Asks podman whether it can be used. -/
def connect (url : Option String) (credential : Credential) :
    Step Note Machine (Except Error Connection) := do
  match ← Invocation.version.perform url none with
  | .error fault => return .error (.configuration (.notStarted fault))
  | .ok r =>
    if r.ending.isSuccess then
      Step.tell (.log ⟨.info, "using podman " ++ trimmedText r.stdout⟩)
      return .ok ⟨url, credential⟩
    else return .error (.configuration (.unusable (trimmedText r.stderr)))

/-- Builds an image. -/
def build (c : Connection) (request : BuildRequest) :
    Step Note Machine (Except Error BuiltImage) := do
  let nanos ← now
  let w ← takeWorkspace
  match w.prepared with
  | .error e => return .error e
  | .ok directory =>
    match ← (Invocation.build request directory).launch c.url (some c.credential) with
    | .error fault => return .error (.build (.notStarted fault))
    | .ok r =>
      Step.tellAll ((Intake.whole (readOutput r)).told.map .progress)
      return (w.outcome r).map fun imageId => ⟨imageId, buildId request.fingerprint nanos⟩

/-- Runs an instance of an image. -/
def acquire (c : Connection) (image : String) (env : EnvTable) (capacity : Capacity) :
    Step Note Machine (Except Error String) := do
  let nanos ← now
  let instanceId := instanceName image nanos (← Step.state).process
  match ← (Invocation.run image env capacity instanceId).perform c.url (some c.credential) with
  | .error fault =>
    return .error (.acquisition image ("couldn't run podman run: " ++ fault.message))
  | .ok r =>
    if r.ending.isSuccess then return .ok instanceId
    else return .error (.acquisition image (← reason r))

/-- Runs a shell command on an instance. -/
def exec (c : Connection) (instanceId command : String) :
    Step Note Machine (Except Error Output) := do
  match ← (Invocation.exec instanceId command).perform c.url none with
  | .error fault => return .error (.service ("couldn't run podman exec: " ++ fault.message))
  | .ok r =>
    match exitCode? r with
    | some exit =>
      return .ok ⟨exit, Text.decodeLoosely r.stdout, Text.decodeLoosely r.stderr⟩
    | none => return .error (.service (← reason r))

/-- Removes an instance. -/
def kill (c : Connection) (instanceId : String) : Step Note Machine (Except Error Unit) := do
  match ← (Invocation.remove instanceId).perform c.url none with
  | .error fault => return .error (.io fault)
  | .ok r =>
    if r.ending.isSuccess then return .ok ()
    else return .error (.teardown instanceId (← reason r))

/-- A connection as a service. -/
def service (c : Connection) : Service Machine where
  build := c.build
  acquire := c.acquire
  exec instanceId command := do return (← c.exec instanceId command).mapError .error
  kill := c.kill

end Connection
end SandboxImage.Podman
