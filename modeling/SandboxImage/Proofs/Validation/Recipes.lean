import Mathlib.Data.List.Forall2
import SandboxImage.Proofs.Validation.Rules

/-!
# What is found in a recipe

A recipe is looked through in a fixed order, so what is found is the first rule that it breaks
(`Recipe.Breaks`), and nothing exactly if it breaks none (`Recipe.Valid`). The log warns of the
dollars that were passed on the way, and a dollar never decides what is found
(`Recipe.validate_first`).

The violation is that of the first part that has one (`Recipe.violation_eq`); each part says in
which of its members that is, steps by `stepsFault?_eq_some_iff` and entries by
`findSome?_entryFault_eq_some_iff`.
-/

namespace SandboxImage

/-! ## Rules -/

/-- A recipe that breaks no rule. -/
structure Recipe.Valid (r : Recipe) : Prop where
  base : IsWord r.base
  user : IsWord r.user
  env : ∀ e ∈ r.env.entries, IsEntry e
  nonempty : r.steps ≠ []
  steps : ∀ step ∈ r.steps, Command.fault? step = none

/-- The first rule that a recipe breaks, with the part that breaks it. -/
inductive Recipe.Breaks (r : Recipe) : Violation → Prop
  | base : BreaksWord r.base reason → Breaks r ⟨.baseImage, reason⟩
  | user : IsWord r.base → BreaksWord r.user reason → Breaks r ⟨.user, reason⟩
  | env : IsWord r.base → IsWord r.user → BreaksEntry r.env.entries reason →
    Breaks r ⟨.buildEnv, reason⟩
  | noSteps : IsWord r.base → IsWord r.user → (∀ e ∈ r.env.entries, IsEntry e) → r.steps = [] →
    Breaks r ⟨.buildSteps, .noSteps⟩
  | step : IsWord r.base → IsWord r.user → (∀ e ∈ r.env.entries, IsEntry e) →
    r.steps = before ++ step :: after → (∀ s ∈ before, Command.fault? s = none) →
    Command.fault? step = some fault → Breaks r ⟨.buildStep before.length, .command fault⟩

/-! ## The violation -/

theorem stepsFault?_eq_some_iff {index : Nat} {steps : List String} {v : Violation} :
    stepsFault? index steps = some v ↔ ∃ before step after fault,
      steps = before ++ step :: after ∧ (∀ s ∈ before, Command.fault? s = none) ∧
        Command.fault? step = some fault ∧
        v = ⟨.buildStep (index + before.length), .command fault⟩ := by
  induction steps generalizing index with
  | nil => simp [stepsFault?]
  | cons step rest ih =>
    unfold stepsFault?
    cases hstep : Command.fault? step with
    | some fault =>
      constructor
      · intro h
        exact ⟨[], step, rest, fault, rfl, List.forall_mem_nil _, hstep, (Option.some.inj h).symm⟩
      · rintro ⟨_ | ⟨s, before⟩, step', after, fault', hsteps, hbefore, hfault, rfl⟩
        · cases hsteps
          cases hstep.symm.trans hfault
          rfl
        · cases hsteps
          cases hstep.symm.trans (hbefore _ List.mem_cons_self)
    | none =>
      simp only [ih]
      constructor
      · rintro ⟨before, step', after, fault, rfl, hbefore, hfault, rfl⟩
        refine ⟨step :: before, step', after, fault, rfl, ?_, hfault, ?_⟩
        · exact List.forall_mem_cons.2 ⟨hstep, hbefore⟩
        · rw [List.length_cons, Nat.add_right_comm, Nat.add_assoc]
      · rintro ⟨_ | ⟨s, before⟩, step', after, fault, hsteps, hbefore, hfault, rfl⟩
        · cases hsteps
          cases hstep.symm.trans hfault
        · cases hsteps
          refine ⟨before, step', after, fault, rfl, (List.forall_mem_cons.1 hbefore).2, hfault, ?_⟩
          rw [List.length_cons, Nat.add_right_comm, Nat.add_assoc]

theorem Recipe.violation_eq_none_iff {r : Recipe} : r.validate.violation = none ↔ r.Valid := by
  rw [accepted_iff]
  constructor
  · rintro ⟨hbase, huser, henv, hne, hsteps⟩
    exact ⟨wordFault?_eq_none_iff.1 hbase, wordFault?_eq_none_iff.1 huser,
      fun e he => entryFault?_eq_none_iff.1 (henv e he), hne, (stepsFault?_eq_none_iff ..).1 hsteps⟩
  · rintro ⟨hbase, huser, henv, hne, hsteps⟩
    exact ⟨wordFault?_eq_none_iff.2 hbase, wordFault?_eq_none_iff.2 huser,
      fun e he => entryFault?_eq_none_iff.2 (henv e he), hne, (stepsFault?_eq_none_iff ..).2 hsteps⟩

theorem Recipe.violation_eq_some_iff {r : Recipe} {v : Violation} :
    r.validate.violation = some v ↔ r.Breaks v := by
  simp only [violation_eq, Option.or_eq_some_iff, Option.map_eq_some_iff, Option.map_eq_none_iff,
    wordFault?_eq_none_iff, wordFault?_eq_some_iff, findSome?_entryFault_eq_none_iff,
    findSome?_entryFault_eq_some_iff]
  constructor
  · rintro (⟨reason, h, rfl⟩ | ⟨hbase, ⟨reason, h, rfl⟩ | ⟨huser, ⟨reason, h, rfl⟩ | ⟨henv, h⟩⟩⟩)
    · exact .base h
    · exact .user hbase h
    · exact .env hbase huser h
    · split at h
      next hempty =>
        cases h
        exact .noSteps hbase huser henv (List.isEmpty_iff.1 hempty)
      next =>
        obtain ⟨before, step, after, fault, hsteps, hbefore, hfault, rfl⟩ :=
          stepsFault?_eq_some_iff.1 h
        rw [Nat.zero_add]
        exact .step hbase huser henv hsteps hbefore hfault
  · rintro (h | ⟨hbase, h⟩ | ⟨hbase, huser, h⟩ | ⟨hbase, huser, henv, hnil⟩ |
      ⟨hbase, huser, henv, hsteps, hbefore, hfault⟩)
    · exact .inl ⟨_, h, rfl⟩
    · exact .inr ⟨hbase, .inl ⟨_, h, rfl⟩⟩
    · exact .inr ⟨hbase, .inr ⟨huser, .inl ⟨_, h, rfl⟩⟩⟩
    · exact .inr ⟨hbase, .inr ⟨huser, .inr ⟨henv, by rw [hnil]; rfl⟩⟩⟩
    · refine .inr ⟨hbase, .inr ⟨huser, .inr ⟨henv, ?_⟩⟩⟩
      rw [if_neg (by simp [hsteps])]
      exact stepsFault?_eq_some_iff.2 ⟨_, _, _, _, hsteps, hbefore, hfault, by rw [Nat.zero_add]⟩

/-! ## The log -/

/-- The warning of a baked variable with a dollar in its value. -/
def dollarWarning (e : String × String) : LogLine :=
  ⟨.warn, "build env " ++ e.1 ++ " = " ++ Text.quoted e.2 ++
    " is baked literally, `$` references are not expanded"⟩

theorem toList_dollarWarning? (e : String × String) :
    (dollarWarning? e).toList = if '$' ∈ e.2.toList then [dollarWarning e] else [] := by
  simp only [dollarWarning?, dollarWarning, List.contains_eq_mem, decide_eq_true_eq]
  split <;> rfl

/-- By induction on the entries: those that are right, up to the first that is not, are warned
about. -/
theorem bakedEntries_fst (entries : List (String × String)) : ∃ before after,
    entries = before ++ after ∧ (∀ e ∈ before, IsEntry e) ∧ (∀ e ∈ after.head?, ¬ IsEntry e) ∧
      (bakedEntries entries).1 = (before.filter fun e => '$' ∈ e.2.toList).map dollarWarning := by
  induction entries with
  | nil =>
    refine ⟨[], [], rfl, List.forall_mem_nil _, ?_, rfl⟩
    rintro e ⟨⟩
  | cons e rest ih =>
    unfold bakedEntries
    cases he : entryFault? e with
    | some reason =>
      refine ⟨[], e :: rest, rfl, List.forall_mem_nil _, ?_, rfl⟩
      rintro e' ⟨⟩ hvalid
      cases he.symm.trans (entryFault?_eq_none_iff.2 hvalid)
    | none =>
      obtain ⟨before, after, rfl, hbefore, hafter, hlog⟩ := ih
      refine ⟨e :: before, after, rfl, ?_, hafter, ?_⟩
      · exact List.forall_mem_cons.2 ⟨entryFault?_eq_none_iff.1 he, hbefore⟩
      · simp only [toList_dollarWarning?, hlog, List.filter_cons, decide_eq_true_eq]
        split <;> rfl

theorem Recipe.log_of_words {r : Recipe} (hbase : IsWord r.base) (huser : IsWord r.user) :
    r.validate.log = (bakedEntries r.env.entries).1 := by
  rw [validate, wordFault?_eq_none_iff.2 hbase, wordFault?_eq_none_iff.2 huser]
  rcases bakedEntries r.env.entries with ⟨log, _ | reason⟩
  · dsimp only
    split <;> rfl
  · rfl

theorem Recipe.log_of_not_words {r : Recipe} (h : ¬ (IsWord r.base ∧ IsWord r.user)) :
    r.validate.log = [] := by
  rw [← wordFault?_eq_none_iff, ← wordFault?_eq_none_iff] at h
  unfold validate
  split
  next => rfl
  next hbase =>
    split
    next => rfl
    next huser => exact absurd ⟨hbase, huser⟩ h

/-! ## Dollars -/

/-- The text without its dollars. -/
def withoutDollars (s : String) : List Char := s.toList.filter (· ≠ '$')

/-- Two recipes that differ at most in the dollars of baked values. -/
structure Recipe.AlikeButDollars (r r' : Recipe) : Prop where
  base : r.base = r'.base
  user : r.user = r'.user
  env : List.Forall₂ (fun e e' => e.1 = e'.1 ∧ withoutDollars e.2 = withoutDollars e'.2)
    r.env.entries r'.env.entries
  steps : r.steps = r'.steps

theorem isValue_iff_withoutDollars {value : String} : IsValue value ↔
    '\n' ∉ withoutDollars value ∧ '\x00' ∉ withoutDollars value := by
  simp [IsValue, withoutDollars]

theorem entryFault?_of_alike {e e' : String × String} (hname : e.1 = e'.1)
    (hvalue : withoutDollars e.2 = withoutDollars e'.2) : entryFault? e = entryFault? e' := by
  have hplain : isPlainValue e.2 = isPlainValue e'.2 := by
    rw [Bool.eq_iff_iff, isPlainValue_iff, isPlainValue_iff, isValue_iff_withoutDollars, hvalue,
      isValue_iff_withoutDollars]
  rw [entryFault?, entryFault?, hname, hplain]

theorem findSome?_entryFault_of_alike {entries entries' : List (String × String)}
    (h : List.Forall₂ (fun e e' => e.1 = e'.1 ∧ withoutDollars e.2 = withoutDollars e'.2)
      entries entries') : entries.findSome? entryFault? = entries'.findSome? entryFault? := by
  induction h with
  | nil => rfl
  | cons he _ ih =>
    rw [List.findSome?_cons, List.findSome?_cons, ih, entryFault?_of_alike he.1 he.2]

theorem Recipe.AlikeButDollars.violation_eq {r r' : Recipe} (h : r.AlikeButDollars r') :
    r.validate.violation = r'.validate.violation := by
  rw [Recipe.violation_eq, Recipe.violation_eq, h.base, h.user,
    findSome?_entryFault_of_alike h.env, h.steps]

/-- What looking through a recipe finds. There is no violation exactly if the recipe is valid, and
else it is that of the first rule that is broken: base, user, entries in the order of their names,
number of steps, steps by their index. The log has one warning for each entry with a dollar in its
value that stands before the first entry that is not right, and none unless base and user are words.
Dollars in the values decide nothing about the violation. -/
theorem Recipe.validate_first (r : Recipe) :
    (r.validate.violation = none ↔ r.Valid) ∧
    (∀ v, r.validate.violation = some v ↔ r.Breaks v) ∧
    (¬ (IsWord r.base ∧ IsWord r.user) → r.validate.log = []) ∧
    (IsWord r.base → IsWord r.user → ∃ before after, r.env.entries = before ++ after ∧
      (∀ e ∈ before, IsEntry e) ∧ (∀ e ∈ after.head?, ¬ IsEntry e) ∧
      r.validate.log = (before.filter fun e => '$' ∈ e.2.toList).map dollarWarning) ∧
    ∀ r' : Recipe, r.AlikeButDollars r' → r.validate.violation = r'.validate.violation := by
  refine ⟨violation_eq_none_iff, fun v => violation_eq_some_iff, log_of_not_words,
    fun hbase huser => ?_, fun r' h => h.violation_eq⟩
  rw [log_of_words hbase huser]
  exact bakedEntries_fst r.env.entries

/-- A dollar in a value that also holds a line feed: with it or without it the value is what is at
fault, although the steps are missing too. -/
theorem Recipe.validate_first_broken :
    let r : Recipe := ⟨"debian", "root", ⟨[("PATH", "$HOME\n")], List.pairwise_singleton ..⟩, []⟩
    let r' : Recipe := ⟨"debian", "root", ⟨[("PATH", "HOME\n")], List.pairwise_singleton ..⟩, []⟩
    r.AlikeButDollars r' ∧ r.Breaks ⟨.buildEnv, .badValue "PATH"⟩ ∧
      r.validate.violation = some ⟨.buildEnv, .badValue "PATH"⟩ ∧
      r.validate.violation = r'.validate.violation := by
  intro r r'
  have halike : r.AlikeButDollars r' := ⟨rfl, rfl, .cons ⟨rfl, by decide⟩ .nil, rfl⟩
  have hbase : IsWord r.base := wordFault?_eq_none_iff.1 (by decide +kernel)
  have huser : IsWord r.user := wordFault?_eq_none_iff.1 (by decide +kernel)
  have hentries : r.env.entries = [] ++ ("PATH", "$HOME\n") :: [] := rfl
  have hname : IsName "PATH" := isVariableName_iff.1 (by decide)
  have hvalue : ¬ IsValue "$HOME\n" := fun h => h.1 (by decide)
  have hbreaks : r.Breaks ⟨.buildEnv, .badValue "PATH"⟩ :=
    .env hbase huser (.value hentries (List.forall_mem_nil _) hname hvalue)
  obtain ⟨-, hfirst, -, -, hdollars⟩ := validate_first r
  exact ⟨halike, hbreaks, (hfirst _).2 hbreaks, hdollars r' halike⟩

end SandboxImage
