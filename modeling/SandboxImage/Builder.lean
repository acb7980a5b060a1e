import SandboxImage.Service
import SandboxImage.Validation
import SandboxImage.Fingerprint

/-!
# Building

A recipe is looked through and then sent to the service, once. Whatever the service answers, it is
not asked again; an answer without an image is a failure.
-/

namespace SandboxImage

/-- An image that was built under a name. -/
structure BuildResult where
  image : BuiltImage
  name : String
  deriving DecidableEq

namespace Builder

variable {σ : Type}

/-- The lines logged and the first violation of a request: its name comes before its recipe. -/
def verdict (name : String) (r : Recipe) : Verdict :=
  if Text.isBlankText name then ⟨[], some ⟨.templateName, .empty⟩⟩ else r.validate

theorem verdict_of_blank {name : String} (h : Text.isBlankText name = true) (r : Recipe) :
    verdict name r = ⟨[], some ⟨.templateName, .empty⟩⟩ :=
  if_pos h

theorem verdict_of_filled {name : String} (h : Text.isBlankText name = false) (r : Recipe) :
    verdict name r = r.validate := by
  simp [verdict, h]

/-- A built image in a dump of values. -/
def dump (b : BuiltImage) : String :=
  "BuiltImage \x7b image_id: ImageId(" ++ Text.quoted b.imageId ++ "), build_id: BuildId(" ++
    Text.quoted b.buildId ++ ") \x7d"

/-- What is logged before a request is sent. -/
def announcement (request : BuildRequest) : String :=
  "building " ++ request.name ++ " from " ++ request.recipe.base ++ " (" ++
    toString request.recipe.steps.length ++ " steps, fingerprint " ++ request.fingerprint ++ ")"

/-- Asks the service for an image. -/
def submit (service : Service σ) (request : BuildRequest) :
    Step Event σ (Except Error BuiltImage) := do
  Step.tell (.build request)
  Step.mapTrace .note (service.build request)

/-- Sends a request that has been looked through. -/
def send (service : Service σ) (request : BuildRequest) :
    Step Event σ (Except Error BuildResult) := do
  Step.log .info (announcement request)
  match ← submit service request with
  | .error e => return .error e
  | .ok image =>
    Step.log .debug ("service returned " ++ dump image)
    if image.imageId.isEmpty then return .error (.build .noImage)
    else
      Step.log .info ("built " ++ request.name ++ " as image " ++ image.imageId)
      return .ok ⟨image, request.name⟩

/-- Builds an image from a recipe and registers it under a name. -/
def build (service : Service σ) (name : String) (r : Recipe) (capacity : Capacity) :
    Step Event σ (Except Error BuildResult) := do
  let v := verdict name r
  Step.logAll v.log
  match v.violation with
  | some violation => return .error (.invalid violation)
  | none => send service ⟨name, r, capacity, r.fingerprint⟩

/-! A run in one piece: what is told around the call to the service, and what its answer means. -/

/-- What a run has told by the time the service takes its request. -/
def preamble (log : List LogLine) (request : BuildRequest) : List Event :=
  (log.map fun l => .note (.log l)) ++
    [.note (.log ⟨.info, announcement request⟩), .build request]

/-- What is logged about the answer of the service. -/
def reception (name : String) : Except Error BuiltImage → List LogLine
  | .error _ => []
  | .ok image =>
    ⟨.debug, "service returned " ++ dump image⟩ ::
      if image.imageId = "" then []
      else [⟨.info, "built " ++ name ++ " as image " ++ image.imageId⟩]

/-- What the answer of the service means for the run. -/
def settle (name : String) : Except Error BuiltImage → Except Error BuildResult
  | .error e => .error e
  | .ok image => if image.imageId = "" then .error (.build .noImage) else .ok ⟨image, name⟩

section

variable {service : Service σ} {name : String} {r : Recipe} {capacity : Capacity} {s : σ}

theorem build_of_violation {violation : Violation}
    (h : (verdict name r).violation = some violation) :
    build service name r capacity s =
      ⟨(verdict name r).log.map fun l => .note (.log l), .error (.invalid violation), s⟩ := by
  simp [build, h, Step.logAll]

theorem build_of_accepted (h : (verdict name r).violation = none) :
    build service name r capacity s =
      let request : BuildRequest := ⟨name, r, capacity, r.fingerprint⟩
      let call := service.build request s
      ⟨preamble (verdict name r).log request ++
          (call.trace.map .note ++ (reception name call.answer).map fun l => .note (.log l)),
        settle name call.answer, call.state⟩ := by
  cases hcall : (service.build ⟨name, r, capacity, r.fingerprint⟩ s).answer with
  | error e => simp [build, send, submit, h, hcall, Step.logAll, preamble, reception, settle]
  | ok image =>
    by_cases hempty : image.imageId = "" <;>
      simp [build, send, submit, h, hcall, hempty, Step.logAll, preamble, reception, settle]

end

end Builder
end SandboxImage
