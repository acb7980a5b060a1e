import SandboxImage.Violation
import SandboxImage.SystemFault
import SandboxImage.Ending
import SandboxImage.Template.Document

/-!
# Errors

Why a request failed. An error is a cause; `Error.message` is its text for people.
-/

namespace SandboxImage

/-- What is wrong with the configuration of this program. -/
inductive ConfigurationFault where
  | credentialForm
  | credentialMissing
  | credentialNotText
  | notStarted (fault : SystemFault)
  | unusable (diagnostic : String)
  /-- No name can be derived from the path of a template file. -/
  | noName (path : Bytes)
  /-- The path of a file for podman can't be an argument. -/
  | pathNotText (path : Bytes)
  /-- A fault that only a service knows. -/
  | foreign (text : String)
  deriving DecidableEq, Repr

/-- The text of a configuration fault. -/
def ConfigurationFault.message : ConfigurationFault → String
  | .credentialForm => "SANDBOX_CREDENTIALS must have the form `user:password`"
  | .credentialMissing =>
    "SANDBOX_CREDENTIALS is not set; export it as `user:password` for the image registry before " ++
      "running this command"
  | .credentialNotText => "SANDBOX_CREDENTIALS is not valid unicode"
  | .notStarted fault => "couldn't run podman: " ++ fault.message
  | .unusable diagnostic => "podman is not usable: " ++ diagnostic
  | .noName path =>
    "couldn't derive an alias from " ++ Text.quotedBytes path ++
      ", set `alias` in the template file"
  | .pathNotText path => Text.quotedBytes path ++ " is not valid utf-8"
  | .foreign text => text

/-- Why an image was not built. -/
inductive BuildFault where
  | notStarted (fault : SystemFault)
  /-- The output of a build that was started can't be read to its end. -/
  | notRead (fault : SystemFault)
  | ended (ending : Ending)
  | noImage
  /-- The diagnostic of the service, as it stands. -/
  | reported (diagnostic : String)
  deriving DecidableEq, Repr

/-- The text of a build fault. -/
def BuildFault.message : BuildFault → String
  | .notStarted fault => "couldn't run podman build: " ++ fault.message
  | .notRead fault => "couldn't read podman build output: " ++ fault.message
  | .ended ending => "podman build exited with " ++ ending.text
  | .noImage => "the service reported success without an image id"
  | .reported diagnostic => diagnostic

/-- Why a request failed. -/
inductive Error where
  | configuration (fault : ConfigurationFault)
  | invalid (violation : Violation)
  | build (fault : BuildFault)
  /-- No instance of the image called `name` could be had. -/
  | acquisition (name reason : String)
  /-- A call against a running instance failed before there was an exit code. -/
  | service (reason : String)
  | teardown (instanceId reason : String)
  | io (fault : SystemFault)
  | document (fault : Template.DocumentFault)
  deriving DecidableEq

/-- The text of an error. -/
def Error.message : Error → String
  | .configuration fault => "configuration error: " ++ fault.message
  | .invalid violation =>
    "invalid " ++ violation.subject.name ++ ": " ++ violation.reason.message
  | .build fault => "image build failed: " ++ fault.message
  | .acquisition name reason => "could not acquire an instance of " ++ name ++ ": " ++ reason
  | .service reason => "sandbox service error: " ++ reason
  | .teardown instanceId reason => "could not tear down instance " ++ instanceId ++ ": " ++ reason
  | .io fault => "I/O error: " ++ fault.message
  | .document fault => "template file error: " ++ fault.message

end SandboxImage
