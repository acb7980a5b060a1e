import SandboxImage.Template.Form
import SandboxImage.Recipe
import SandboxImage.Text.Lines
import SandboxImage.Yaml.Document

/-!
# Template documents

A template file holds a name that may be left out, the image, the capacity and how an instance is
verified. An environment is a mapping or a list of settings `NAME=value`.
-/

namespace SandboxImage.Template

open Yaml (Node)

/-- A setting cut at its first equals sign; without one the value is empty. -/
def splitSetting (setting : String) : String × String :=
  let s := setting.toList
  (String.ofList (s.takeWhile (· != '=')), String.ofList ((s.dropWhile (· != '=')).drop 1))

/-- A node whose value is a text. -/
def textValue? (n : Node) : Option String :=
  match n.target with
  | .scalar s =>
    match s.meaning? with
    | some (.text t) => some t
    | _ => none
  | _ => none

/-- A pair of nodes whose values are texts. -/
def textEntry? (entry : Node × Node) : Option (String × String) := do
  return (← textValue? entry.1, ← textValue? entry.2)

/-- The settings of an environment: a mapping of texts, or a list of them. -/
def settings? (n : Node) : Option (List (String × String)) :=
  match n.target with
  | .mapping entries => entries.mapM textEntry?
  | .sequence items => (items.mapM textValue?).map fun texts => texts.map splitSetting
  | _ => none

/-- Reads an environment. A fault is reported at the part that the environment belongs to. -/
def readEnv (place : Place) (n : Node) : Except Problem EnvTable :=
  match settings? n with
  | some settings => .ok (.ofList settings)
  | none => .error ⟨place.drop 1, .noEnvironment⟩

/-- The image as far as it is filled in. -/
structure ImageDraft where
  base : Option String := none
  user : String := "root"
  env : EnvTable := .empty
  steps : Option (List String) := none

/-- The form of an image. -/
def imageForm : Form ImageDraft where
  part := .image
  blank := {}
  fill key place n draft :=
    match key with
    | "base" => do return { draft with base := some (← readText place n) }
    | "user" => do return { draft with user := ← readText place n }
    | "env" => do return { draft with env := ← readEnv place n }
    | "steps" => do return { draft with steps := some (← readList readText place n) }
    | _ => .ok draft

/-- Reads an image. -/
def readRecipe (place : Place) (n : Node) : Except Problem Recipe := do
  let draft ← imageForm.read place n
  let base ← need place "base" draft.base
  let steps ← need place "steps" draft.steps
  return { base, user := draft.user, env := draft.env, steps }

/-- The form of a capacity. -/
def capacityForm : Form Capacity where
  part := .capacity
  blank := {}
  fill key place n capacity :=
    match key with
    | "cpus" => do return { capacity with cpus := (← readUnsigned 32 place n).toUInt32 }
    | "memory_mb" => do return { capacity with memoryMb := (← readUnsigned 64 place n).toUInt64 }
    | _ => .ok capacity

/-- A check as far as it is filled in. -/
structure CheckDraft where
  label : Option String := none
  command : Option String := none

/-- The form of a check. -/
def checkForm : Form CheckDraft where
  part := .check
  blank := {}
  fill key place n draft :=
    match key with
    | "label" => do return { draft with label := some (← readText place n) }
    | "command" => do return { draft with command := some (← readText place n) }
    | _ => .ok draft

/-- Reads a check. -/
def readCheck (place : Place) (n : Node) : Except Problem Check := do
  let draft ← checkForm.read place n
  let label ← need place "label" draft.label
  let command ← need place "command" draft.command
  return { label, command }

/-- The plan as far as it is filled in. -/
structure PlanDraft where
  env : EnvTable := .empty
  checks : Option (List Check) := none
  smoke : Option Check := none

/-- The form of a plan. -/
def planForm : Form PlanDraft where
  part := .verify
  blank := {}
  fill key place n draft :=
    match key with
    | "env" => do return { draft with env := ← readEnv place n }
    | "checks" => do return { draft with checks := some (← readList readCheck place n) }
    | "smoke" => do return { draft with smoke := ← readOptional readCheck place n }
    | _ => .ok draft

/-- Reads a plan. -/
def readPlan (place : Place) (n : Node) : Except Problem Plan := do
  let draft ← planForm.read place n
  let checks ← need place "checks" draft.checks
  return { env := draft.env, checks, smoke := draft.smoke }

/-- What a template file says; the name may be missing. -/
structure Content where
  name : Option String
  recipe : Recipe
  capacity : Capacity
  plan : Plan
  deriving DecidableEq

/-- The file as far as it is filled in. -/
structure FileDraft where
  name : Option String := none
  recipe : Option Recipe := none
  capacity : Capacity := {}
  plan : Option Plan := none

/-- The form of a file. -/
def fileForm : Form FileDraft where
  part := .file
  blank := {}
  fill key place n draft :=
    match key with
    | "alias" => do return { draft with name := ← readOptional readText place n }
    | "image" => do return { draft with recipe := some (← readRecipe place n) }
    | "capacity" => do return { draft with capacity := ← capacityForm.read place n }
    | "verify" => do return { draft with plan := some (← readPlan place n) }
    | _ => .ok draft

/-- Reads the root of a document. -/
def Content.ofNode (root : Node) : Except Problem Content := do
  let draft ← fileForm.read [] root
  let recipe ← need [] "image" draft.recipe
  let plan ← need [] "verify" draft.plan
  return { name := draft.name, recipe, capacity := draft.capacity, plan }

/-- Why the content of a file is no template. -/
inductive DocumentFault where
  /-- It is not one generic document. -/
  | unreadable
  | problem (p : Problem)
  deriving DecidableEq, Repr

/-- The text of a fault. -/
def DocumentFault.message : DocumentFault → String
  | .unreadable => "the content is not a document"
  | .problem p => p.message

/-- Reads the content of a template file. Its problems are told only if the document has a value on
its own. -/
def Content.ofBytes (bytes : Bytes) : Except DocumentFault Content :=
  match (Text.decode? bytes).bind Yaml.document? with
  | none => .error .unreadable
  | some root =>
    match Content.ofNode root with
    | .ok content => .ok content
    | .error problem => .error (if root.isGeneric then .problem problem else .unreadable)

end SandboxImage.Template
