import SandboxImage.Podman.Machine
import SandboxImage.Credential
import SandboxImage.Containerfile

/-!
# Invocations of podman

The arguments of every start, the files it is given, and how it is told to the log: with the user of
the credential, but without the password.
-/

namespace SandboxImage

namespace Podman

/-- A command of podman with its arguments. -/
structure Invocation where
  command : String
  rest : List String
  /-- The files that are passed along: their paths and contents. -/
  files : List (String × String) := []

namespace Invocation

/-- Asks for the version. -/
def version : Invocation := ⟨"version", ["--format", "\x7b\x7b.Client.Version\x7d\x7d"], []⟩

/-- A size of memory. -/
def memory (c : Capacity) : String := toString c.memoryMb.toNat ++ "m"

/-- How many microseconds of each tenth of a second a build may use, over all processors. -/
def cpuQuota (c : Capacity) : String := toString (c.cpus.toNat * 100000)

/-- Builds an image, with files in a directory. -/
def build (request : BuildRequest) (directory : String) : Invocation where
  command := "build"
  rest :=
    ["--tag", request.name, "--file", directory ++ "/Containerfile", "--iidfile",
      directory ++ "/image-id", "--cpu-period", "100000", "--cpu-quota", cpuQuota request.capacity,
      "--memory", memory request.capacity, directory]
  files :=
    [(directory ++ "/Containerfile",
        request.recipe.containerfile request.name request.fingerprint),
      (directory ++ "/build.log", "")]

/-- The variables of an instance. -/
def settings (env : EnvTable) : List String :=
  env.entries.flatMap fun e => ["--env", e.1 ++ "=" ++ e.2]

/-- Runs an instance of an image, which sleeps until it is killed. -/
def run (image : String) (env : EnvTable) (capacity : Capacity) (instanceId : String) :
    Invocation where
  command := "run"
  rest :=
    ["--detach", "--name", instanceId, "--label", nameLabel ++ "=" ++ image, "--cpus",
      toString capacity.cpus.toNat, "--memory", memory capacity] ++
    settings env ++ [image, "sleep", "infinity"]

/-- Runs a shell command on an instance. -/
def exec (instanceId command : String) : Invocation :=
  ⟨"exec", [instanceId, "/bin/sh", "-c", command], []⟩

/-- Removes an instance at once. -/
def remove (instanceId : String) : Invocation :=
  ⟨"rm", ["--force", "--time", "0", instanceId], []⟩

/-- All arguments: where podman is, the command, the credential, and the rest. -/
def arguments (i : Invocation) (url : Option String) (credential : Option Credential) :
    List String :=
  url.elim [] (fun u => ["--url", u]) ++
    i.command :: (credential.elim [] (fun c => ["--creds", c.exposed]) ++ i.rest)

/-- The invocation as it is told to the log. -/
def shown (i : Invocation) (credential : Option Credential) : String :=
  "podman " ++ String.intercalate " " (i.command :: i.rest) ++
    credential.elim "" fun c => " --creds " ++ c.shown

/-- Tells an invocation to the log, and starts podman. -/
def launch (i : Invocation) (url : Option String) (credential : Option Credential) :
    Step Note Machine (Except SystemFault Response) := do
  Step.tell (.log ⟨.debug, i.shown credential⟩)
  start (i.arguments url credential) i.files

/-- Starts podman, reads its output and waits for its end. -/
def perform (i : Invocation) (url : Option String) (credential : Option Credential) :
    Step Note Machine (Except SystemFault Response) := do
  return (← i.launch url credential).bind Response.collected

end Invocation

/-- The operands that an option has among others. Every option but `--detach` has one. -/
def operandsOf (option : String) : List String → List String
  | "--detach" :: rest => operandsOf option rest
  | name :: operand :: rest =>
    if name = option then operand :: operandsOf option rest else operandsOf option rest
  | _ => []

end Podman

namespace Start

/-- What stands behind the command. -/
def operands (s : Start) : List String :=
  match s.arguments with
  | "--url" :: _ :: _ :: rest => rest
  | _ :: rest => rest
  | [] => []

/-- The content of the file that a build is told to read. -/
def containerfile (s : Start) : Option String :=
  (Podman.operandsOf "--file" s.operands).head?.bind fun path => s.files.lookup path

end Start
end SandboxImage
