import SandboxImage.Builder
import SandboxImage.Service.Scripted

/-!
# Builds over one service

Any number of runs, each from the state in which the one before has left the service
(`Step.series`). A run calls the service once if its request is accepted
(`Builder.Request.answers_run`), and not at all if it is rejected
(`Builder.Request.run_of_rejected`); what the call tells is handed on, and what it answers decides
what the run answers (`Builder.build_keeps_contract`).
-/

namespace SandboxImage

/-! ## Runs in a row -/

namespace Step

variable {ε σ ρ α : Type} (run : ρ → Step ε σ α)

/-- What each of several runs comes to, one after the other. -/
def series : List ρ → σ → List (Done ε σ α)
  | [], _ => []
  | q :: rest, s => run q s :: series rest (run q s).state

/-- The state after several runs. -/
def stateAfter (requests : List ρ) (s : σ) : σ :=
  requests.foldl (fun s q => (run q s).state) s

@[simp]
theorem series_cons (q : ρ) (rest : List ρ) (s : σ) :
    series run (q :: rest) s = run q s :: series run rest (run q s).state := rfl

@[simp]
theorem stateAfter_cons (q : ρ) (rest : List ρ) (s : σ) :
    stateAfter run (q :: rest) s = stateAfter run rest (run q s).state := rfl

theorem length_series (requests : List ρ) (s : σ) :
    (series run requests s).length = requests.length := by
  induction requests generalizing s with
  | nil => rfl
  | cons q rest ih => simp [ih]

/-- Each run starts from the state that the earlier ones have left. -/
theorem getElem?_series (requests : List ρ) (s : σ) (k : Nat) :
    (series run requests s)[k]? =
      requests[k]?.map fun q => run q (stateAfter run (requests.take k) s) := by
  induction requests generalizing s k with
  | nil => rfl
  | cons q rest ih =>
    cases k with
    | zero => rfl
    | succ k => exact ih _ k

end Step

/-! ## What a run tells -/

/-- The line of build output that a note tells. -/
def Note.progress? : Note → Option String
  | .progress line => some line
  | _ => none

/-- The request for an image that an event tells of. -/
def Event.requested? : Event → Option BuildRequest
  | .build request => some request
  | _ => none

/-- The requests for images in a trace. -/
def requested (trace : List Event) : List BuildRequest := trace.filterMap Event.requested?

/-- The lines of build output that are handed on in a trace. -/
def handedOn (trace : List Event) : List String := trace.filterMap Event.progress?

@[simp]
theorem requested_append (t u : List Event) : requested (t ++ u) = requested t ++ requested u :=
  List.filterMap_append ..

@[simp]
theorem handedOn_append (t u : List Event) : handedOn (t ++ u) = handedOn t ++ handedOn u :=
  List.filterMap_append ..

@[simp]
theorem requested_map_note (ns : List Note) : requested (ns.map .note) = [] := by
  simp [requested, Event.requested?]

@[simp]
theorem handedOn_map_note (ns : List Note) :
    handedOn (ns.map .note) = ns.filterMap Note.progress? := by
  rw [handedOn, List.filterMap_map]
  congr 1
  funext n
  cases n <;> rfl

@[simp]
theorem requested_map_log (lines : List LogLine) :
    requested (lines.map fun l => .note (.log l)) = [] := by
  simp [requested, Event.requested?]

@[simp]
theorem handedOn_map_log (lines : List LogLine) :
    handedOn (lines.map fun l => .note (.log l)) = [] := by
  simp [handedOn, Event.progress?]

namespace Builder

variable {σ : Type}

/-- What is asked for in one run. -/
structure Request where
  name : String
  recipe : Recipe
  capacity : Capacity

namespace Request

/-- The request as the service gets it. -/
def sent (q : Request) : BuildRequest := ⟨q.name, q.recipe, q.capacity, q.recipe.fingerprint⟩

/-- The run that is asked for. -/
def run (service : Service σ) (q : Request) : Step Event σ (Except Error BuildResult) :=
  build service q.name q.recipe q.capacity

/-- Its name is blank, or its recipe breaks a rule. -/
def isRejected (q : Request) : Bool :=
  Text.isBlankText q.name || q.recipe.validate.violation.isSome

theorem isRejected_eq (q : Request) :
    q.isRejected = (verdict q.name q.recipe).violation.isSome := by
  unfold isRejected
  cases h : Text.isBlankText q.name with
  | true =>
    rw [verdict_of_blank h]
    rfl
  | false =>
    rw [verdict_of_filled h]
    rfl

theorem isRejected_iff (q : Request) :
    q.isRejected = true ↔ Text.isBlankText q.name = true ∨ q.recipe.validate.violation ≠ none := by
  rw [isRejected, Bool.or_eq_true, Option.isSome_iff_ne_none]

theorem isRejected_eq_false_iff (q : Request) :
    q.isRejected = false ↔
      Text.isBlankText q.name = false ∧ q.recipe.validate.violation = none := by
  rw [isRejected, Bool.or_eq_false_iff, Option.isSome_eq_false_iff, Option.isNone_iff_eq_none]

end Request

/-! ## One run -/

theorem requested_preamble (log : List LogLine) (request : BuildRequest) :
    requested (preamble log request) = [request] := by
  rw [preamble, requested_append, requested_map_log]
  rfl

theorem handedOn_preamble (log : List LogLine) (request : BuildRequest) :
    handedOn (preamble log request) = [] := by
  rw [preamble, handedOn_append, handedOn_map_log]
  rfl

theorem settle_of_empty {name : String} {image : BuiltImage} (h : image.imageId = "") :
    settle name (.ok image) = .error (.build .noImage) :=
  if_pos h

theorem settle_of_ne {name : String} {image : BuiltImage} (h : image.imageId ≠ "") :
    settle name (.ok image) = .ok ⟨image, name⟩ :=
  if_neg h

theorem settle_eq_ok_iff {name : String} {answer : Except Error BuiltImage}
    {result : BuildResult} :
    settle name answer = .ok result ↔
      ∃ image, answer = .ok image ∧ image.imageId ≠ "" ∧ result = ⟨image, name⟩ := by
  constructor
  · intro h
    cases answer with
    | error e => cases h
    | ok image =>
      by_cases hempty : image.imageId = ""
      · rw [settle_of_empty hempty] at h
        cases h
      · rw [settle_of_ne hempty] at h
        cases h
        exact ⟨image, rfl, hempty, rfl⟩
  · rintro ⟨image, rfl, hne, rfl⟩
    exact settle_of_ne hne

theorem settle_eq_error_iff {name : String} {answer : Except Error BuiltImage} {e : Error} :
    settle name answer = .error e ↔
      answer = .error e ∨
        ∃ image, answer = .ok image ∧ image.imageId = "" ∧ e = .build .noImage := by
  cases answer with
  | error e' => simp [settle]
  | ok image =>
    constructor
    · intro h
      by_cases hempty : image.imageId = ""
      · rw [settle_of_empty hempty] at h
        cases h
        exact .inr ⟨image, rfl, hempty, rfl⟩
      · rw [settle_of_ne hempty] at h
        cases h
    · rintro (h | ⟨_, h, hempty, rfl⟩)
      · cases h
      · cases h
        exact settle_of_empty hempty

variable (service : Service σ) {q : Request} (s : σ)

/-- Of a request that is rejected only the log tells. -/
theorem Request.run_of_rejected (h : q.isRejected = true) :
    ∃ violation, q.run service s =
      ⟨(verdict q.name q.recipe).log.map fun l => .note (.log l), .error (.invalid violation),
        s⟩ := by
  rw [isRejected_eq, Option.isSome_iff_exists] at h
  obtain ⟨violation, hviolation⟩ := h
  exact ⟨violation, build_of_violation hviolation⟩

/-- What a run makes of the call that it has made. -/
structure Answers (q : Request) (call : Done Note σ (Except Error BuiltImage))
    (run : Done Event σ (Except Error BuildResult)) : Prop where
  requested : requested run.trace = [q.sent]
  handedOn : handedOn run.trace = call.trace.filterMap Note.progress?
  state : run.state = call.state
  ok_iff : ∀ result, run.answer = .ok result ↔
    ∃ image, call.answer = .ok image ∧ image.imageId ≠ "" ∧ result = ⟨image, q.name⟩
  noImage : ∀ image, call.answer = .ok image → image.imageId = "" →
    run.answer = .error (.build .noImage)
  fault : ∀ e, call.answer = .error e → run.answer = .error e

/-- A request that is accepted is sent, and nothing else is asked of the service. -/
theorem Request.answers_run (h : q.isRejected = false) :
    Answers q (service.build q.sent s) (q.run service s) := by
  rw [isRejected_eq, Option.isSome_eq_false_iff, Option.isNone_iff_eq_none] at h
  have hrun : q.run service s = _ := build_of_accepted h
  rw [hrun]
  refine ⟨?_, ?_, rfl, fun result => settle_eq_ok_iff, ?_, ?_⟩
  · simp [requested_preamble, sent]
  · simp [handedOn_preamble, sent]
  · intro image himage hempty
    exact (congrArg (settle q.name) himage).trans (settle_of_empty hempty)
  · intro e he
    exact congrArg (settle q.name) he

/-! ## Any number of runs -/

/-- Each of any number of runs over one service calls the service once if its name is not blank and
its recipe is accepted, with what it was asked for and the recipe's fingerprint, and else leaves it
alone. The output of the call is handed on in order, whatever comes of it. The run succeeds with
the image that the service has returned, if that has an identifier; without one it fails, and it
fails as the service does. -/
theorem build_keeps_contract (requests : List Request) :
    let runs := Step.series (Request.run service) requests s
    runs.length = requests.length ∧
    ∀ k q, requests[k]? = some q →
      let before := Step.stateAfter (Request.run service) (requests.take k) s
      let sent : BuildRequest := ⟨q.name, q.recipe, q.capacity, q.recipe.fingerprint⟩
      let call := service.build sent before
      ∃ run, runs[k]? = some run ∧
        ((Text.isBlankText q.name = true ∨ q.recipe.validate.violation ≠ none) ∧
            requested run.trace = [] ∧ handedOn run.trace = [] ∧ run.state = before ∧
            (∃ violation, run.answer = .error (.invalid violation)) ∨
          (Text.isBlankText q.name = false ∧ q.recipe.validate.violation = none) ∧
            requested run.trace = [sent] ∧
            handedOn run.trace = call.trace.filterMap Note.progress? ∧ run.state = call.state ∧
            (∀ result, run.answer = .ok result ↔
              ∃ image, call.answer = .ok image ∧ image.imageId ≠ "" ∧ result = ⟨image, q.name⟩) ∧
            (∀ image, call.answer = .ok image → image.imageId = "" →
              run.answer = .error (.build .noImage)) ∧
            ∀ e, call.answer = .error e → run.answer = .error e) := by
  intro runs
  refine ⟨Step.length_series _ requests s, fun k q hq => ?_⟩
  intro before sent call
  have hrun : runs[k]? = some (q.run service before) := by
    rw [Step.getElem?_series, hq]
    rfl
  refine ⟨_, hrun, ?_⟩
  cases h : q.isRejected with
  | true =>
    obtain ⟨violation, hrejected⟩ := q.run_of_rejected service before h
    rw [hrejected]
    refine .inl ⟨q.isRejected_iff.1 h, ?_, ?_, rfl, violation, rfl⟩
    · exact requested_map_log _
    · exact handedOn_map_log _
  | false =>
    obtain ⟨hrequested, hhandedOn, hstate, hok, hnoImage, hfault⟩ := q.answers_run service before h
    exact .inr ⟨q.isRejected_eq_false_iff.1 h, hrequested, hhandedOn, hstate, hok, hnoImage,
      hfault⟩

/-- A service of which one build fails, and another one leaves no image. -/
def wavering : Scripted.Script where
  builds :=
    [(["STEP 1/2", "STEP 2/2"], .error (.build (.reported "no space left"))), ([], .ok ⟨"", "b"⟩),
      (["STEP 1/2"], .ok ⟨"sha256:1", "c"⟩)]

/-- A rejected request takes none of the answers away. -/
theorem build_keeps_contract_wavering :
    let recipe : Recipe := ⟨"debian", "root", .empty, ["true"]⟩
    let q : Request := ⟨"image", recipe, {}⟩
    let blank : Request := ⟨" ", recipe, {}⟩
    let requests : List Request := [q, blank, q, q]
    let runs := Step.series (Request.run Scripted.service) requests wavering
    requests[3]? = some q ∧ ∃ run, runs[3]? = some run ∧ requested run.trace = [q.sent] ∧
      handedOn run.trace = ["STEP 1/2"] ∧
      run.answer = .ok ⟨⟨"sha256:1", "c"⟩, "image"⟩ := by
  intro recipe q blank requests runs
  have hq : requests[3]? = some q := rfl
  have haccepted (s : Scripted.Script) :
      (q.run Scripted.service s).state = (Scripted.service.build q.sent s).state :=
    (q.answers_run _ s (by decide)).state
  have hrejected (s : Scripted.Script) : (blank.run Scripted.service s).state = s := by
    obtain ⟨violation, h⟩ := blank.run_of_rejected Scripted.service s (by decide)
    rw [h]
  have hbefore : Step.stateAfter (Request.run Scripted.service) [q, blank, q] wavering =
      { builds := [(["STEP 1/2"], .ok ⟨"sha256:1", "c"⟩)] } := by
    rw [Step.stateAfter_cons, haccepted, Step.stateAfter_cons, hrejected, Step.stateAfter_cons,
      haccepted]
    rfl
  obtain ⟨-, hruns⟩ := build_keeps_contract Scripted.service wavering requests
  obtain ⟨run, hrun, ⟨hblank, -⟩ | ⟨-, hrequested, hhandedOn, -, hok, -⟩⟩ := hruns 3 q hq
  · exact absurd hblank (by decide)
  · change handedOn run.trace = ((Scripted.service.build q.sent
      (Step.stateAfter _ [q, blank, q] wavering)).trace.filterMap Note.progress?) at hhandedOn
    rw [hbefore] at hhandedOn
    refine ⟨hq, run, hrun, hrequested, hhandedOn, (hok _).2 ⟨_, ?_, by decide, rfl⟩⟩
    change (Scripted.service.build q.sent
      (Step.stateAfter _ [q, blank, q] wavering)).answer = .ok ⟨"sha256:1", "c"⟩
    rw [hbefore]
    rfl

end Builder
end SandboxImage
