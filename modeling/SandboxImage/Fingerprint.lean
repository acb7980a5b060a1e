import SandboxImage.Recipe
import SandboxImage.Digest.Blake3
import SandboxImage.Digest.Feed

/-!
# Fingerprints and identifiers

A recipe's fingerprint is a digest of all that is baked into the image, and nothing else. Build ids
and names of instances are digests of when they were made.
-/

namespace SandboxImage

/-- The bytes that a recipe is told by: base, user, environment, steps. -/
def Recipe.feed (r : Recipe) : Bytes :=
  Digest.textFeed r.base ++ Digest.textFeed r.user ++ Digest.tableFeed r.env ++
    Digest.textsFeed r.steps

/-- The fingerprint of a recipe: 64 hexadecimal digits. -/
def Recipe.fingerprint (r : Recipe) : String :=
  String.ofList (Blake3.hexDigest r.feed)

/-- The identifier of a build: 16 hexadecimal digits made from the fingerprint of what is built and
the time in nanoseconds. -/
def buildId (fingerprint : String) (nanos : Nat) : String :=
  String.ofList
    ((Blake3.hexDigest (Text.encode fingerprint ++ Digest.littleEndian 16 nanos)).take 16)

/-- The name of an instance, made from the name of its image, the time in nanoseconds and the number
of the process that asks for it. -/
def instanceName (image : String) (nanos : Nat) (process : UInt32) : String :=
  let digest := Blake3.hexDigest
    (Text.encode image ++ Digest.littleEndian 16 nanos ++ Digest.littleEndian 4 process.toNat)
  "sandbox-" ++ String.ofList (digest.take 12)

end SandboxImage
