import SandboxImage.EnvTable

/-!
# What goes into an image

A recipe says what is baked into an image, a plan says how an instance of it is checked, and a
template joins both under an alias.
-/

namespace SandboxImage

/-- What is baked into an image. The steps run in order; the first one that fails ends the build. -/
structure Recipe where
  base : String
  user : String
  env : EnvTable
  steps : List String
  deriving DecidableEq, Inhabited

/-- What a build or an instance may use. -/
structure Capacity where
  cpus : UInt32 := 2
  memoryMb : UInt64 := 2048
  deriving DecidableEq, Inhabited, Repr

/-- A shell command that must succeed, under the name by which it is reported. -/
structure Check where
  label : String
  command : String
  deriving DecidableEq, Inhabited, Repr

/-- How an instance is checked. Its variables are its own: those of the build are not inherited. -/
structure Plan where
  env : EnvTable
  checks : List Check
  smoke : Option Check
  deriving DecidableEq, Inhabited

/-- A named image with everything needed to build and to check it. -/
structure Template where
  name : String
  recipe : Recipe
  capacity : Capacity
  plan : Plan
  deriving DecidableEq, Inhabited

end SandboxImage
