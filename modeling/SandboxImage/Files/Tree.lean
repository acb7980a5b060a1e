import SandboxImage.Files.Path
import SandboxImage.SystemFault
import SandboxImage.Text.Lines

/-!
# File trees

Directories, files and symbolic links, and how a path is followed among them. What a program sees of
a tree is `Files`: for each path what is there, or why it cannot be reached.
-/

namespace SandboxImage

/-- What a path leads to. -/
inductive FileKind where
  | directory
  | file (content : Bytes)
  deriving DecidableEq, Repr

namespace Files

/-- A component of a path. -/
abbrev Name := Bytes

/-- A place in a tree: the names from the innermost to the root. -/
abbrev Place := List Name

/-- What is at a place. -/
inductive Entry where
  | directory
  | file (content : Bytes)
  | link (target : Path)
  deriving DecidableEq, Repr

/-- A tree, by what is at which place. The root is always a directory. -/
structure Tree where
  entries : List (Place × Entry) := []

/-- What a path leads to, and where that really is. -/
structure Found where
  place : Place
  kind : FileKind
  deriving DecidableEq

/-- The components to be followed. A slash at the end asks for a directory, as a point does. -/
def components (p : Path) : List Name :=
  let names := (Text.pieces slash p).filter (!·.isEmpty)
  if p.getLast? == some slash then names ++ [[point]] else names

/-- The place where following a path starts. -/
def origin (here : Place) (p : Path) : Place :=
  if p.head? == some slash then [] else here

namespace Tree

/-- What is at a place. -/
def at? (t : Tree) (place : Place) : Option Entry :=
  if place.isEmpty then some .directory else t.entries.lookup place

/-- Puts an entry at a place. -/
def put (t : Tree) (place : Place) (e : Entry) : Tree :=
  ⟨(place, e) :: t.entries⟩

/-- Makes the directories on the way to a place and at it, where there are none. -/
def makeDirectories (t : Tree) : Place → Tree
  | [] => t
  | name :: outer =>
    let t := t.makeDirectories outer
    if (t.at? (name :: outer)).isSome then t else t.put (name :: outer) .directory

/-- The place that a path stands for if there are no links. -/
def placeOf (here : Place) (p : Path) : Place :=
  (components p).foldl
    (fun place name =>
      if name = [point] then place
      else if name = [point, point] then place.drop 1
      else name :: place)
    (origin here p)

/-- Makes an entry, and the directories on the way to it. -/
def make (t : Tree) (place : Place) (e : Entry) : Tree :=
  (t.makeDirectories (place.drop 1)).put place e

/-- Follows components from a directory on, through at most `links` links. -/
def follow (t : Tree) (links : Nat) (place : Place) (names : List Name) :
    Except SystemFault Found :=
  match names with
  | [] => .ok ⟨place, .directory⟩
  | name :: rest =>
    if name = [point] then t.follow links place rest
    else if name = [point, point] then t.follow links (place.drop 1) rest
    else if 255 < name.length then .error .nameTooLong
    else
      match t.at? (name :: place) with
      | none => .error .notFound
      | some .directory => t.follow links (name :: place) rest
      | some (.file content) =>
        if rest.isEmpty then .ok ⟨name :: place, .file content⟩ else .error .notDirectory
      | some (.link target) =>
        match links with
        | 0 => .error .tooManyLinks
        | links + 1 => t.follow links (origin place target) (components target ++ rest)
termination_by (links, names.length)

/-- What a path leads to, seen from a directory. -/
def resolve (t : Tree) (here : Place) (p : Path) : Except SystemFault Found :=
  if p.contains 0 then .error .nulInName
  else if p.isEmpty then .error .notFound
  else if 4096 ≤ p.length then .error .nameTooLong
  else t.follow 40 (origin here p) (components p)

end Tree
end Files

/-- The files that a program sees: what each path leads to. -/
structure Files where
  find : Files.Path → Except SystemFault Files.Found

namespace Files

/-- The files of a tree, seen from a directory. -/
def ofTree (t : Tree) (here : Place) : Files := ⟨t.resolve here⟩

/-- A path leads somewhere. -/
def reaches (files : Files) (p : Path) : Bool := (files.find p).isOk

end Files
end SandboxImage
