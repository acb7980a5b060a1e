import SandboxImage.Command
import SandboxImage.Text.Quoted

/-!
# Violations of a template's rules

A violation names the part of a request that breaks a rule, and the rule.
-/

namespace SandboxImage

/-- The part of a request that is at fault. -/
inductive Subject where
  | templateName
  | baseImage
  | user
  | buildEnv
  | buildSteps
  | buildStep (index : Nat)
  | runtimeEnv
  | checks
  /-- A check without a label is named by its command. -/
  | checkRunning (command : String)
  | checkLabelled (label : String)
  /-- A part that only a service knows. -/
  | foreign (name : String)
  deriving DecidableEq

/-- The name of a part in messages. -/
def Subject.name : Subject → String
  | .templateName => "alias"
  | .baseImage => "base image"
  | .user => "execution user"
  | .buildEnv => "build env"
  | .buildSteps => "build steps"
  | .buildStep index => "build step " ++ toString index
  | .runtimeEnv => "runtime env"
  | .checks => "verification checks"
  | .checkRunning command => "check " ++ Text.quoted command
  | .checkLabelled label => "check " ++ Text.quoted label
  | .foreign name => name

/-- The rule that is broken. -/
inductive Reason where
  | empty
  | holdsBlank (value : String)
  | badName (name : String)
  | badValue (name : String)
  | noSteps
  | noChecks
  | labelEmpty
  | labelReused
  | command (fault : Command.Fault)
  /-- A rule that only a service knows. -/
  | foreign (text : String)
  deriving DecidableEq

/-- The text of a broken rule. -/
def Reason.message : Reason → String
  | .empty => "is empty"
  | .holdsBlank value => Text.quoted value ++ " contains whitespace"
  | .badName name => Text.quoted name ++ " is not a valid variable name"
  | .badValue name => "value of " ++ name ++ " contains a newline or NUL byte"
  | .noSteps => "no build steps given"
  | .noChecks => "no checks given"
  | .labelEmpty => "label is empty"
  | .labelReused => "label is used more than once"
  | .command fault => fault.message
  | .foreign text => text

/-- A part of a request with the rule that it breaks. -/
structure Violation where
  subject : Subject
  reason : Reason
  deriving DecidableEq

end SandboxImage
