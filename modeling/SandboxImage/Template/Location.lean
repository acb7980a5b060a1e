import SandboxImage.Error
import SandboxImage.Files.Tree
import SandboxImage.Text.Lowercase
import SandboxImage.Template.Toolchain

/-!
# Finding and loading templates

The template of a directory is the file with one of two names in the nearest directory above it. A
file that names no image lends it the name of the directory that it really is in, in lowercase.
-/

namespace SandboxImage.Template

open Files (Path)

/-- The names of template files, the preferred one first. -/
def fileNames : List Path :=
  [Text.encode "sandbox-template.yml", Text.encode "sandbox-template.yaml"]

/-- The paths at which a template is looked for, the nearest first. -/
def candidates (start : Path) : List Path :=
  start.ancestors.flatMap fun p => fileNames.map p.join

/-- The nearest template file. -/
def nearest? (files : Files) (start : Path) : Option Path :=
  (candidates start).find? files.reaches

/-- The name that a place lends to the template in it. -/
def defaultName? : Files.Place → Option String
  | _ :: directory :: _ => (Text.decode? directory).map Text.lowercase
  | _ => none

/-- The name of a template that was found at a path. -/
def nameOf (path : Path) (place : Files.Place) : Option String → Except Error String
  | some name => .ok name
  | none =>
    match defaultName? place with
    | some name => .ok name
    | none => .error (.configuration (.noName path))

/-- Reads the template file at a path. -/
def load (files : Files) (path : Path) : Except Error Template :=
  match files.find path with
  | .error fault => .error (.io fault)
  | .ok ⟨_, .directory⟩ => .error (.document .unreadable)
  | .ok ⟨place, .file bytes⟩ =>
    match Content.ofBytes bytes with
    | .error fault => .error (.document fault)
    | .ok content =>
      match nameOf path place content.name with
      | .error e => .error e
      | .ok name => .ok ⟨name, content.recipe, content.capacity, content.plan⟩

end SandboxImage.Template
