import SandboxImage.Proofs.Builder.Contract
import SandboxImage.Proofs.Verifier.Lifecycle

/-!
# Rejected requests

A request that is rejected tells nothing but lines of the log and leaves the service as it was, in
building (`Builder.Request.run_of_rejected`) and in verifying (`Verifier.Request.run_of_rejected`).
So rejected requests can be taken out of any row of runs (`Turn.series_filter`), whatever else is in
it; `rejected_traceless` says so of builders and verifiers.
-/

namespace SandboxImage

/-- What comes next over a service: a run that is asked for, or one of which a panic, of the service
or of whoever is handed what comes of it, has told anything and left any state behind. -/
inductive Turn (ρ σ : Type) where
  | request (q : ρ)
  | crash (left : Step Event σ Unit)

namespace Turn

variable {ρ σ τ δ α : Type}

/-- The run of a turn; no answer comes of a crash. -/
def run (run : ρ → Step Event σ α) : Turn ρ σ → Step Event σ (Option α)
  | request q => do return some (← run q)
  | crash left => do
    left
    return none

/-- Whether a turn is a request that is rejected. -/
def isRejected (rejected : ρ → Bool) : Turn ρ σ → Bool
  | request q => rejected q
  | crash _ => false

/-- What has come of the turns that are not rejected. -/
def others (rejected : τ → Bool) (turns : List τ) (runs : List δ) : List δ :=
  ((turns.zip runs).filter fun x => !rejected x.1).map Prod.snd

theorem others_cons (rejected : τ → Bool) (t : τ) (turns : List τ) (run : δ) (runs : List δ) :
    others rejected (t :: turns) (run :: runs) =
      if rejected t then others rejected turns runs else run :: others rejected turns runs := by
  cases h : rejected t <;> simp [others, h]

/-- Turns that change no state can be taken out of a row. -/
theorem series_filter {run : τ → Step Event σ α} {rejected : τ → Bool}
    (h : ∀ t s, rejected t = true → (run t s).state = s) (turns : List τ) (s : σ) :
    let accepted := turns.filter fun t => !rejected t
    Step.series run accepted s = others rejected turns (Step.series run turns s) ∧
      Step.stateAfter run accepted s = Step.stateAfter run turns s := by
  intro accepted
  induction turns generalizing s with
  | nil => exact ⟨rfl, rfl⟩
  | cons t turns ih =>
    obtain ⟨hseries, hstate⟩ := ih (run t s).state
    cases ht : rejected t with
    | true =>
      rw [h t s ht] at hseries hstate
      simp [accepted, ht, others_cons, h t s ht, hseries, hstate]
    | false => simp [accepted, ht, others_cons, hseries, hstate]

end Turn

/-- The requests among these turns that are rejected leave no trace. Without them the other turns
come to the same and leave the same behind; they tell nothing but lines of the log, change nothing,
and are answered with the rule that they break. -/
structure Traceless {ρ σ α : Type} (run : ρ → Step Event σ α) (rejected : ρ → Bool)
    (invalid : Violation → α) (turns : List (Turn ρ σ)) (s : σ) : Prop where
  others :
    Step.series (Turn.run run) (turns.filter fun t => !t.isRejected rejected) s =
      Turn.others (Turn.isRejected rejected) turns (Step.series (Turn.run run) turns s)
  state :
    Step.stateAfter (Turn.run run) (turns.filter fun t => !t.isRejected rejected) s =
      Step.stateAfter (Turn.run run) turns s
  removed : ∀ (k : Nat) (q : ρ), turns[k]? = some (Turn.request q) → rejected q = true →
    ∃ (log : List LogLine) (violation : Violation),
      (Step.series (Turn.run run) turns s)[k]? =
        some ⟨log.map fun l => .note (.log l), some (invalid violation),
          Step.stateAfter (Turn.run run) (turns.take k) s⟩

theorem Traceless.of_rejected {ρ σ α : Type} {run : ρ → Step Event σ α} {rejected : ρ → Bool}
    {invalid : Violation → α}
    (h : ∀ q s, rejected q = true → ∃ (log : List LogLine) (violation : Violation),
      run q s = ⟨log.map fun l => .note (.log l), invalid violation, s⟩)
    (turns : List (Turn ρ σ)) (s : σ) : Traceless run rejected invalid turns s := by
  have hstate : ∀ (t : Turn ρ σ) s, t.isRejected rejected = true → (t.run run s).state = s := by
    intro t s ht
    cases t with
    | request q =>
      obtain ⟨log, violation, hrun⟩ := h q s ht
      simp [Turn.run, hrun]
    | crash => cases ht
  obtain ⟨hothers, hafter⟩ := Turn.series_filter hstate turns s
  refine ⟨hothers, hafter, fun k q hq hrejected => ?_⟩
  obtain ⟨log, violation, hrun⟩ :=
    h q (Step.stateAfter (Turn.run run) (turns.take k) s) hrejected
  refine ⟨log, violation, ?_⟩
  rw [Step.getElem?_series, hq]
  simp [Turn.run, hrun]

/-- A plan that breaks a rule. -/
def Verifier.Request.isRejected (q : Verifier.Request) : Bool := q.plan.violation?.isSome

theorem Verifier.Request.run_of_rejected {σ : Type} (service : Service σ) {q : Verifier.Request}
    (s : σ) (h : q.isRejected = true) :
    ∃ violation, q.run service s = ⟨[], .error (.error (.invalid violation)), s⟩ := by
  obtain ⟨violation, hviolation⟩ := Option.isSome_iff_exists.1 h
  exact ⟨violation, verify_of_violation hviolation⟩

/-- Over any service, builds with a blank name or a recipe that breaks a rule, and verify runs with
a plan that breaks one, leave no trace among any other runs. -/
theorem rejected_traceless {σ : Type} (service : Service σ) (s : σ) :
    (∀ turns : List (Turn Builder.Request σ),
      Traceless (Builder.Request.run service) Builder.Request.isRejected
        (fun violation => .error (.invalid violation)) turns s) ∧
    ∀ turns : List (Turn Verifier.Request σ),
      Traceless (Verifier.Request.run service) Verifier.Request.isRejected
        (fun violation => .error (.error (.invalid violation))) turns s := by
  refine ⟨fun turns => ?_, fun turns => ?_⟩
  · refine .of_rejected (fun q s h => ?_) turns s
    obtain ⟨violation, hrun⟩ := q.run_of_rejected service s h
    exact ⟨_, violation, hrun⟩
  · refine .of_rejected (fun q s h => ?_) turns s
    obtain ⟨violation, hrun⟩ := q.run_of_rejected service s h
    exact ⟨[], violation, hrun⟩

end SandboxImage
