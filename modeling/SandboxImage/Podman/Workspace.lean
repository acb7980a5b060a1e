import SandboxImage.Error
import SandboxImage.Files.Path

/-!
# Workspaces of builds

A build passes its Containerfile to podman in a temporary directory, where it also finds the error
output and the identifier of the image. Whatever it asks of the directory may be refused; and the
path of the directory is given to podman, for which it has to be a text.
-/

namespace SandboxImage.Podman

/-- What a build asks of its temporary directory. -/
inductive Errand where
  | makeDirectory
  | writeContainerfile
  | makeLog
  | readLog
  | readImageId
  | removeDirectory
  deriving DecidableEq, Repr

/-- The temporary directory of a build. -/
structure Workspace where
  path : Files.Path
  /-- Why an errand is refused, if it is. -/
  refusal : Errand → Option SystemFault := fun _ => none

namespace Workspace

/-- Does an errand. -/
def grant (w : Workspace) (errand : Errand) : Except Error Unit :=
  match w.refusal errand with
  | some fault => .error (.io fault)
  | none => .ok ()

/-- Makes the directory and the files that podman is started with, and tells the path. Of the paths
that podman is given, that of the Containerfile is the first to be looked at; it is a text exactly
if that of the directory is. -/
def prepared (w : Workspace) : Except Error String := do
  w.grant .makeDirectory
  w.grant .writeContainerfile
  w.grant .makeLog
  match Text.decode? w.path with
  | some directory => return directory
  | none => throw (.configuration (.pathNotText (w.path ++ Text.encode "/Containerfile")))

end Workspace
end SandboxImage.Podman
