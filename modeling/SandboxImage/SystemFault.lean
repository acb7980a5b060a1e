/-!
# Faults of the operating system

Why a file could not be reached or a process could not be started.
-/

namespace SandboxImage

/-- A refusal of the operating system. -/
inductive SystemFault where
  | notFound
  | notDirectory
  | isDirectory
  | nameTooLong
  | tooManyLinks
  | nulInName
  | nulInArgument
  /-- The content of a file is not a text. -/
  | notText
  /-- A refusal that only a service knows. -/
  | foreign (text : String)
  deriving DecidableEq, Repr

/-- The text of a refusal. -/
def SystemFault.message : SystemFault → String
  | .notFound => "No such file or directory (os error 2)"
  | .notDirectory => "Not a directory (os error 20)"
  | .isDirectory => "Is a directory (os error 21)"
  | .nameTooLong => "File name too long (os error 36)"
  | .tooManyLinks => "Too many levels of symbolic links (os error 40)"
  | .nulInName => "file name contained an unexpected NUL byte"
  | .nulInArgument => "nul byte found in provided data"
  | .notText => "stream did not contain valid UTF-8"
  | .foreign text => text

end SandboxImage
