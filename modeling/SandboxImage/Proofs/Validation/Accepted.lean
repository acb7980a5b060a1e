import SandboxImage.Validation

/-!
# What accepted requests are free of

A request is looked through part by part, and its violation is that of the first part that has one
(`Recipe.violation_eq`, `Plan.violation?_eq`). Each part of an accepted recipe has passed its own
check (`Recipe.accepted_iff`); so its words hold no blank, its names of variables only letters,
digits and underscores, and its values neither line feed nor NUL.
-/

namespace SandboxImage

theorem not_mem_of_wordFault {word : String} (h : wordFault? word = none) {c : Char}
    (hc : Text.isBlank c = true) : c ∉ word.toList := by
  intro hmem
  have hany : word.toList.any Text.isBlank = true := List.any_eq_true.2 ⟨c, hmem, hc⟩
  unfold wordFault? at h
  rw [if_pos hany] at h
  split at h <;> cases h

theorem isVariableName_of_entryFault {e : String × String} (h : entryFault? e = none) :
    isVariableName e.1 = true := by
  unfold entryFault? at h
  split at h
  · cases h
  next hname => simpa using hname

theorem isPlainValue_of_entryFault {e : String × String} (h : entryFault? e = none) :
    isPlainValue e.2 = true := by
  unfold entryFault? at h
  split at h
  · cases h
  · split at h
    · cases h
    next hvalue => simpa using hvalue

theorem continuesName_of_startsName {c : Char} (h : startsName c = true) :
    continuesName c = true := by
  simp only [startsName, continuesName, Char.isAlphanum, Bool.or_eq_true] at h ⊢
  rcases h with h | h
  · exact .inl h
  · exact .inr (.inl h)

theorem continuesName_of_mem {name : String} (h : isVariableName name = true) {c : Char}
    (hc : c ∈ name.toList) : continuesName c = true := by
  unfold isVariableName at h
  split at h
  case h_1 first rest heq =>
    simp only [Bool.and_eq_true, List.all_eq_true] at h
    rw [heq] at hc
    rcases List.mem_cons.1 hc with rfl | hc
    · exact continuesName_of_startsName h.1
    · exact h.2 c hc
  case h_2 => cases h

theorem ne_of_mem_plainValue {value : String} (h : isPlainValue value = true) {c : Char}
    (hc : c ∈ value.toList) : c ≠ '\n' ∧ c ≠ '\x00' := by
  have := List.all_eq_true.1 h c hc
  simpa using this

/-- A baked environment is refused for the first entry that is. -/
theorem bakedEntries_snd (entries : List (String × String)) :
    (bakedEntries entries).2 = entries.findSome? entryFault? := by
  induction entries with
  | nil => rfl
  | cons e rest ih =>
    unfold bakedEntries
    cases h : entryFault? e with
    | some reason => simp [h]
    | none => simp [h, ih]

theorem stepsFault?_eq_none_iff (index : Nat) (steps : List String) :
    stepsFault? index steps = none ↔ ∀ step ∈ steps, Command.fault? step = none := by
  induction steps generalizing index with
  | nil => simp [stepsFault?]
  | cons step rest ih =>
    unfold stepsFault?
    cases h : Command.fault? step with
    | some fault => simp [h]
    | none => simp [h, ih]

theorem Recipe.violation_eq (r : Recipe) : r.validate.violation =
    ((wordFault? r.base).map (Violation.mk .baseImage)).or
      (((wordFault? r.user).map (Violation.mk .user)).or
        (((r.env.entries.findSome? entryFault?).map (Violation.mk .buildEnv)).or
          (if r.steps.isEmpty then some ⟨.buildSteps, .noSteps⟩ else stepsFault? 0 r.steps))) := by
  rw [← bakedEntries_snd, validate]
  cases wordFault? r.base with
  | some => rfl
  | none =>
    cases wordFault? r.user with
    | some => rfl
    | none =>
      rcases bakedEntries r.env.entries with ⟨log, _ | reason⟩
      · dsimp only
        split <;> rfl
      · rfl

/-- Every part of a recipe has passed its check. -/
structure Recipe.Accepted (r : Recipe) : Prop where
  base : wordFault? r.base = none
  user : wordFault? r.user = none
  env : ∀ e ∈ r.env.entries, entryFault? e = none
  nonempty : r.steps ≠ []
  steps : stepsFault? 0 r.steps = none

theorem Recipe.accepted_iff {r : Recipe} : r.validate.violation = none ↔ r.Accepted := by
  simp only [violation_eq, Option.or_eq_none_iff, Option.map_eq_none_iff,
    List.findSome?_eq_none_iff]
  constructor
  · rintro ⟨hbase, huser, henv, hsteps⟩
    split at hsteps
    next => cases hsteps
    next hne => exact ⟨hbase, huser, henv, mt List.isEmpty_iff.2 hne, hsteps⟩
  · rintro ⟨hbase, huser, henv, hne, hsteps⟩
    rw [if_neg (mt List.isEmpty_iff.1 hne)]
    exact ⟨hbase, huser, henv, hsteps⟩

theorem Recipe.Accepted.of_validate {r : Recipe} (h : r.validate.violation = none) :
    r.Accepted :=
  accepted_iff.1 h

theorem Plan.violation?_eq (p : Plan) : p.violation? =
    ((p.env.entries.findSome? entryFault?).map (Violation.mk .runtimeEnv)).or
      (if p.checks.isEmpty then some ⟨.checks, .noChecks⟩ else checksFault? [] p.allChecks) := by
  unfold violation?
  cases p.env.entries.findSome? entryFault? <;> rfl

theorem Plan.entryFault?_of_accepted {p : Plan} (hp : p.violation? = none) :
    ∀ e ∈ p.env.entries, entryFault? e = none := by
  rw [violation?_eq, Option.or_eq_none_iff, Option.map_eq_none_iff] at hp
  exact List.findSome?_eq_none_iff.1 hp.1

end SandboxImage
