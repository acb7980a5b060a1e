import SandboxImage.CommandLine.Arguments
import SandboxImage.Console
import SandboxImage.Podman.Service
import SandboxImage.Template.Location
import SandboxImage.Verifier

/-!
# The program

A request is carried out on a machine: the template is loaded first, then the credential is read and
podman is asked whether it can be used, and only then is anything built or run. The program fails
with the first error; verifying also fails as the policy says.
-/

namespace SandboxImage.CommandLine

open Podman (Machine Connection)

/-- A path that is known. -/
instance : Coe Files.Path (Except SystemFault Files.Path) := ⟨.ok⟩

/-- What surrounds a run of the program. -/
structure Surroundings where
  files : Files
  /-- The path of the working directory, unless that is gone. -/
  directory : Except SystemFault Files.Path
  /-- The variable that holds the credential. -/
  credential : Option Bytes

/-- Why a run fails. -/
inductive Failure where
  | error (e : Error)
  /-- There is no working directory. -/
  | noDirectory (fault : SystemFault)
  /-- The report of a run says so. -/
  | report (text : String)
  /-- The run was taken down before there was a report. -/
  | takenDown
  deriving DecidableEq

namespace Failure

/-- The text of a failure. -/
def message : Failure → String
  | .error e => e.message
  | .noDirectory fault => fault.message
  | .report text => text
  | .takenDown => "the run was taken down"

/-- The cause behind a failure, where there is one. -/
def cause? : Failure → Option String
  | .error (.io fault) => some fault.message
  | .error (.document fault) => some fault.message
  | _ => none

/-- What is written about a failure. -/
def written (f : Failure) : String :=
  "Error: " ++ f.message ++ "\n" ++
    f.cause?.elim "" fun cause => "\nCaused by:\n    " ++ cause ++ "\n"

end Failure

/-- The template file that a request is about, if there is one: the one it names, else the nearest
one. Only that takes a working directory. -/
def templatePath (around : Surroundings) :
    Option Files.Path → Except Failure (Option Files.Path)
  | some path => .ok (some path)
  | none =>
    match around.directory with
    | .error fault => .error (.noDirectory fault)
    | .ok directory => .ok (Template.nearest? around.files directory)

/-- What is logged about where the template comes from. -/
def provenance : Option Files.Path → String
  | some path => "found template file " ++ Text.quotedBytes path
  | none => "no template file found, using the built-in rust toolchain template"

/-- The template of a file, else the toolchain. -/
def templateOf (files : Files) : Option Files.Path → Except Failure Template
  | some path => (Template.load files path).mapError .error
  | none => .ok Template.toolchain

/-- The template that a request is about. -/
def loadTemplate (around : Surroundings) (file : Option Files.Path) : Except Failure Template := do
  templateOf around.files (← templatePath around file)

/-- Reads the credential and connects to podman. -/
def connect (around : Surroundings) (url : Option String) :
    Step Event Machine (Except Failure Connection) :=
  match Credential.ofVariable around.credential with
  | .error e => return .error (.error e)
  | .ok credential => do
    match ← Step.mapTrace .note (Connection.connect url credential) with
    | .error e => return .error (.error e)
    | .ok connection =>
      Step.log .info "connected to podman"
      return .ok connection

/-- Prints the Containerfile of a template. -/
def render (t : Template) : Step Event Machine (Except Failure Unit) :=
  match t.recipe.validate with
  | ⟨log, some violation⟩ => do
    Step.logAll log
    return .error (.error (.invalid violation))
  | ⟨log, none⟩ => do
    Step.logAll log
    Step.tell (.print (t.recipe.containerfile t.name t.recipe.fingerprint))
    return .ok ()

/-- Builds the image of a template. -/
def build (around : Surroundings) (url : Option String) (t : Template) :
    Step Event Machine (Except Failure Unit) := do
  match ← connect around url with
  | .error f => return .error f
  | .ok connection =>
    match ← Builder.build connection.service t.name t.recipe t.capacity with
    | .error e => return .error (.error e)
    | .ok result =>
      Step.tell (.print (Console.built result))
      return .ok ()

/-- What a report means for the run. -/
def judge (r : Report) (policy : Policy) : Except Failure Unit :=
  match r.exitError? policy with
  | some text => .error (.report text)
  | none => .ok ()

/-- Verifies the image of a template. -/
def verify (around : Surroundings) (url : Option String) (t : Template) (policy : Policy) :
    Step Event Machine (Except Failure Unit) := do
  match ← connect around url with
  | .error f => return .error f
  | .ok connection =>
    Step.tell (.print (Console.info ("verifying " ++ t.name)))
    match ← Verifier.verify connection.service t.name t.plan t.capacity Observer.calm with
    | .error (.error e) => return .error (.error e)
    | .error .panic => return .error .takenDown
    | .ok report =>
      Step.tell (.print (Console.summary report))
      match judge report policy with
      | .error f => return .error f
      | .ok () =>
        if !report.allPassed then
          Step.log .info "some checks failed, rerun with --strict to fail on them"
        return .ok ()

/-- The template with what a request sets. -/
def adjusted (t : Template) (name : Option String) (cpus : Option UInt32)
    (memoryMb : Option UInt64) : Template :=
  { t with
    name := name.getD t.name
    capacity := ⟨cpus.getD t.capacity.cpus, memoryMb.getD t.capacity.memoryMb⟩ }

/-- Carries out a task with a template. -/
def perform (around : Surroundings) (url : Option String) (t : Template) :
    Task → Step Event Machine (Except Failure Unit)
  | .render => render t
  | .build name cpus memoryMb => build around url (adjusted t name cpus memoryMb)
  | .verify name strict =>
    verify around url (adjusted t name none none) (if strict then .strict else .lenient)

/-- Carries out a request. -/
def Request.run (r : Request) (around : Surroundings) :
    Step Event Machine (Except Failure Unit) := do
  match templatePath around r.file with
  | .error f => return .error f
  | .ok path =>
    Step.log .info (provenance path)
    match templateOf around.files path with
    | .error f => return .error f
    | .ok t =>
      Step.log .info ("template alias " ++ Text.quoted t.name)
      perform around r.url t r.task

/-- How the program ends. -/
structure Exit where
  code : Nat
  stdout : String
  stderr : String
  deriving DecidableEq

/-- How to use the program. -/
def usageText : String :=
  "usage: " ++ programName ++ " [--file FILE] [--url URL] build|verify|render\n"

/-- The end of a program that runs nothing. -/
def Refusal.exit : Refusal → Exit
  | .usage => ⟨1, "", usageText⟩
  | .help => ⟨0, usageText, ""⟩
  | .version line => ⟨0, line ++ "\n", ""⟩

/-- The end of a run with a trace. -/
def exitOf (trace : List Event) : Except Failure Unit → Exit
  | .ok () => ⟨0, Console.transcript trace, ""⟩
  | .error f => ⟨1, Console.transcript trace, f.written⟩

/-- Runs the program. -/
def run (arguments : List Bytes) (around : Surroundings) : Step Event Machine Exit := fun m =>
  match Request.ofArguments arguments with
  | .error refusal => ⟨[], refusal.exit, m⟩
  | .ok request =>
    let done := request.run around m
    ⟨done.trace, exitOf done.trace done.answer, done.state⟩

end SandboxImage.CommandLine
