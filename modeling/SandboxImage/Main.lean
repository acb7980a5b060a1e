import SandboxImage.CommandLine.Program

/-!
# The executable

The outermost layer: arguments, files and the environment of the process are gathered, the program
runs on them, and its texts are written. Processes cannot be started from here, so podman counts as
missing.
-/

namespace SandboxImage.Executable

/-- The refusal that an error of a file access stands for. -/
def faultOf : IO.Error → SystemFault
  | .noFileOrDirectory .. => .notFound
  | .inappropriateType .. => .notDirectory
  | e => .foreign (toString e)

/-- The names on the way to a place. -/
def placeOf (path : Files.Path) : Files.Place := Files.Tree.placeOf [] path

/-- Looks at what a path leads to. -/
def look (path : Files.Path) : IO (Except SystemFault Files.Found) := do
  match Text.decode? path with
  | none => return .error .notFound
  | some name =>
    try
      let real ← IO.FS.realPath name
      let place := placeOf (Text.encode real.toString)
      if ← real.isDir then return .ok ⟨place, .directory⟩
      else
        let content ← IO.FS.readBinFile real
        return .ok ⟨place, .file content.toList⟩
    catch e => return .error (faultOf e)

/-- Looks at several paths. -/
def lookAll (paths : List Files.Path) : IO Files := do
  let found ← paths.mapM fun p => do return (p, ← look p)
  return ⟨fun p => (found.lookup p).getD (.error .notFound)⟩

/-- The working directory of this process. -/
def directory : IO (Except SystemFault Files.Path) := do
  try return .ok (Text.encode (← IO.currentDir).toString)
  catch e => return .error (faultOf e)

/-- The machine of this process, without podman. -/
def machine (nanos : Nat) : Podman.Machine where
  script := fun _ => {}
  clock := fun reading => nanos + reading
  process := 0
  scratch := "."
  present := false

end SandboxImage.Executable

open SandboxImage in
/-- Runs the program in the surroundings of this process. -/
def main (arguments : List String) : IO UInt32 := do
  let arguments := arguments.map Text.encode
  let directory ← Executable.directory
  let named := match CommandLine.Request.ofArguments arguments with
    | .ok r => r.file.toList
    | .error _ => []
  let near := (directory.toOption.map Template.candidates).getD []
  let files ← Executable.lookAll (named ++ near)
  let credential := (← IO.getEnv "SANDBOX_CREDENTIALS").map Text.encode
  let machine := Executable.machine (← IO.monoNanosNow)
  let done := CommandLine.run arguments ⟨files, directory, credential⟩ machine
  (← IO.getStdout).putStr done.answer.stdout
  (← IO.getStderr).putStr done.answer.stderr
  return done.answer.code.toUInt32
