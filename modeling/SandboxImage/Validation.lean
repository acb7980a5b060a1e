import SandboxImage.Recipe
import SandboxImage.Violation
import SandboxImage.Log

/-!
# Validation

Recipes and plans are looked through in a fixed order before anything is sent to a service; the
first violation is reported. A dollar in a baked value is allowed, and warned about when its entry
is reached, because nothing will expand it.
-/

namespace SandboxImage

/-- What looking through a request gives: the lines logged on the way, and the first violation. -/
structure Verdict where
  log : List LogLine
  violation : Option Violation
  deriving DecidableEq

/-- A word is refused if it is empty or holds white space. -/
def wordFault? (word : String) : Option Reason :=
  if word.isEmpty then some .empty
  else if word.toList.any Text.isBlank then some (.holdsBlank word)
  else none

/-- A letter of ASCII or an underscore. -/
def startsName (c : Char) : Bool := c == '_' || c.isAlpha

/-- A letter or digit of ASCII, or an underscore. -/
def continuesName (c : Char) : Bool := c == '_' || c.isAlphanum

/-- Names of variables: a letter or underscore, then letters, digits and underscores. -/
def isVariableName (name : String) : Bool :=
  match name.toList with
  | c :: rest => startsName c && rest.all continuesName
  | [] => false

/-- A value that fits on one line and can be passed to a process. -/
def isPlainValue (value : String) : Bool :=
  value.toList.all fun c => c != '\n' && c != '\x00'

/-- An entry of an environment table is refused for its name first, then for its value. -/
def entryFault? (entry : String × String) : Option Reason :=
  if !isVariableName entry.1 then some (.badName entry.1)
  else if !isPlainValue entry.2 then some (.badValue entry.1)
  else none

/-- The warning for a baked value with a dollar in it. -/
def dollarWarning? (entry : String × String) : Option LogLine :=
  if entry.2.toList.contains '$' then
    some ⟨.warn, "build env " ++ entry.1 ++ " = " ++ Text.quoted entry.2 ++
      " is baked literally, `$` references are not expanded"⟩
  else none

/-- Looks through baked entries up to the first that is refused, warning of dollars on the way. -/
def bakedEntries : List (String × String) → List LogLine × Option Reason
  | [] => ([], none)
  | e :: rest =>
    match entryFault? e with
    | some reason => ([], some reason)
    | none =>
      let later := bakedEntries rest
      ((dollarWarning? e).toList ++ later.1, later.2)

/-- The first refused step from the number `index` on. -/
def stepsFault? (index : Nat) : List String → Option Violation
  | [] => none
  | step :: rest =>
    match Command.fault? step with
    | some fault => some ⟨.buildStep index, .command fault⟩
    | none => stepsFault? (index + 1) rest

/-- Looks through a recipe: base, user, environment, steps. -/
def Recipe.validate (r : Recipe) : Verdict :=
  match wordFault? r.base with
  | some reason => ⟨[], some ⟨.baseImage, reason⟩⟩
  | none =>
    match wordFault? r.user with
    | some reason => ⟨[], some ⟨.user, reason⟩⟩
    | none =>
      match bakedEntries r.env.entries with
      | (log, some reason) => ⟨log, some ⟨.buildEnv, reason⟩⟩
      | (log, none) =>
        if r.steps.isEmpty then ⟨log, some ⟨.buildSteps, .noSteps⟩⟩
        else ⟨log, stepsFault? 0 r.steps⟩

/-- The first violation among checks, given the labels that are taken already. -/
def checksFault? (taken : List String) : List Check → Option Violation
  | [] => none
  | c :: rest =>
    if Text.isBlankText c.label then some ⟨.checkRunning c.command, .labelEmpty⟩
    else if c.label ∈ taken then some ⟨.checkLabelled c.label, .labelReused⟩
    else
      match Command.fault? c.command with
      | some fault => some ⟨.checkLabelled c.label, .command fault⟩
      | none => checksFault? (c.label :: taken) rest

/-- The checks of a plan in the order in which they run: the smoke check comes last. -/
def Plan.allChecks (p : Plan) : List Check :=
  p.checks ++ p.smoke.toList

/-- The first violation of a plan: environment, number of checks, then each check. -/
def Plan.violation? (p : Plan) : Option Violation :=
  match p.env.entries.findSome? entryFault? with
  | some reason => some ⟨.runtimeEnv, reason⟩
  | none =>
    if p.checks.isEmpty then some ⟨.checks, .noChecks⟩
    else checksFault? [] p.allChecks

end SandboxImage
