import SandboxImage.Podman.Workspace
import SandboxImage.Service

/-!
# The machine that podman runs on

What a start of podman comes to is given by a script: the answer to each start, by its number. The
machine also has a clock, of which each reading is given, and a temporary directory for each build.
-/

namespace SandboxImage.Podman

/-- What one start of podman comes to. -/
structure Response where
  ending : Ending := .exited 0
  stdout : Bytes := []
  stderr : Bytes := []
  /-- What it leaves in the file for the image's identifier. -/
  imageId : Option Bytes := none
  /-- It is the last start that finds the program. -/
  last : Bool := false
  /-- Why there is no start after all. -/
  refusal : Option SystemFault := none
  /-- Why the output can't be read any further. -/
  readFault : Option SystemFault := none
  /-- Why the end can't be waited for. -/
  waitFault : Option SystemFault := none

/-- What a start comes to if all of its output is read and its end is waited for. -/
def Response.collected (r : Response) : Except SystemFault Response :=
  match r.readFault.or r.waitFault with
  | some fault => .error fault
  | none => .ok r

/-- The temporary directories of a machine, one for each build. -/
structure Scratch where
  workspace : Nat → Workspace

/-- A text stands for directories with this path, of which nothing is refused. -/
instance : Coe String Scratch := ⟨fun path => ⟨fun _ => { path := Text.encode path }⟩⟩

/-- A machine. -/
structure Machine where
  /-- The answer to each start. -/
  script : Nat → Response
  /-- The nanoseconds at each reading of the clock. -/
  clock : Nat → Nat
  /-- The number of this process. -/
  process : UInt32
  /-- The directories for files that are passed along. -/
  scratch : Scratch
  /-- The program is there. -/
  present : Bool := true
  /-- How many starts there have been. -/
  starts : Nat := 0
  /-- How often the clock has been read. -/
  readings : Nat := 0
  /-- How many builds have had a directory. -/
  builds : Nat := 0

/-- A text that can be passed to a process. -/
def isPassable (argument : String) : Bool := !argument.toList.contains '\x00'

namespace Machine

/-- The machine on which podman has been started once more. -/
def afterStart (m : Machine) : Machine :=
  { m with starts := m.starts + 1, present := m.present && !(m.script m.starts).last }

/-- The machine once podman was to be started. A start that can't be asked for leaves no trace. -/
def next (m : Machine) (arguments : List String) : Machine :=
  if arguments.all isPassable then m.afterStart else m

/-- What starting podman comes to. -/
def spawn (m : Machine) (arguments : List String) : Except SystemFault Response :=
  if arguments.all isPassable then
    match (m.script m.starts).refusal with
    | some fault => .error fault
    | none => if m.present then .ok (m.script m.starts) else .error .notFound
  else .error .nulInArgument

/-- The directory of the next build. -/
def workspace (m : Machine) : Workspace := m.scratch.workspace m.builds

end Machine

/-- Reads the clock. -/
def now : Step Note Machine Nat := fun m =>
  ⟨[], m.clock m.readings, { m with readings := m.readings + 1 }⟩

/-- Takes the next temporary directory. -/
def takeWorkspace : Step Note Machine Workspace := fun m =>
  ⟨[], m.workspace, { m with builds := m.builds + 1 }⟩

/-- Starts podman, with files that have been written for it. -/
def start (arguments : List String) (files : List (String × String)) :
    Step Note Machine (Except SystemFault Response) := fun m =>
  ⟨[.start ⟨arguments, files, (m.spawn arguments).isOk⟩], m.spawn arguments, m.next arguments⟩

end SandboxImage.Podman
