import SandboxImage.Error

/-!
# Credentials

The user and the password for the registry of images. The password is written for podman alone.
-/

namespace SandboxImage

/-- A user with a password. -/
structure Credential where
  user : String
  password : String
  deriving DecidableEq

namespace Credential

/-- Reads `user:password`; blanks around it do not matter, and the first colon counts. -/
def parse (text : String) : Except Error Credential :=
  let t := Text.trim text.toList
  let user := t.takeWhile (· != ':')
  let password := (t.dropWhile (· != ':')).drop 1
  if user.isEmpty || password.isEmpty then .error (.configuration .credentialForm)
  else .ok ⟨String.ofList user, String.ofList password⟩

/-- Reads the variable of the process that holds the credential. -/
def ofVariable : Option Bytes → Except Error Credential
  | none => .error (.configuration .credentialMissing)
  | some bytes =>
    match Text.decode? bytes with
    | some text => parse text
    | none => .error (.configuration .credentialNotText)

/-- The whole credential, as podman reads it. -/
def exposed (c : Credential) : String := c.user ++ ":" ++ c.password

/-- The credential as it may be shown. -/
def shown (c : Credential) : String := c.user ++ ":***"

/-- The credential in a dump of values. -/
def dump (c : Credential) : String := "Credential(" ++ c.shown ++ ")"

end Credential
end SandboxImage
