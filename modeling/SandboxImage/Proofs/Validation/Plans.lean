import Mathlib.Data.List.Induction
import SandboxImage.Proofs.Validation.Rules
import SandboxImage.Proofs.Verifier.Outcomes

/-!
# What is found in a plan

A plan is looked through in a fixed order, so what is found is the first rule that it breaks
(`Plan.Breaks`), and nothing exactly if it breaks none (`Plan.Valid`). A check is held against the
labels of those before it: the checks are taken apart where one list of them follows another
(`checksFault?_append`), and a single one is at fault exactly if it breaks a rule after the others
(`BreaksAfter`). Only plans without violation are run, so no report has one label twice
(`Plan.violation_first`).
-/

namespace SandboxImage

/-! ## Rules -/

/-- Checks that break no rule: labels that are there and are all different, and commands that can
be run on their own. -/
structure ValidChecks (checks : List Check) : Prop where
  labels : ∀ c ∈ checks, Text.isBlankText c.label = false
  distinct : (checks.map Check.label).Nodup
  commands : ∀ c ∈ checks, Command.fault? c.command = none

/-- The first rule that a check breaks after others. -/
inductive BreaksAfter (earlier : List Check) (c : Check) : Violation → Prop
  | label : Text.isBlankText c.label = true →
    BreaksAfter earlier c ⟨.checkRunning c.command, .labelEmpty⟩
  | reused : Text.isBlankText c.label = false → d ∈ earlier → d.label = c.label →
    BreaksAfter earlier c ⟨.checkLabelled c.label, .labelReused⟩
  | command : Text.isBlankText c.label = false → (∀ d ∈ earlier, d.label ≠ c.label) →
    Command.fault? c.command = some fault →
    BreaksAfter earlier c ⟨.checkLabelled c.label, .command fault⟩

/-- A plan that breaks no rule. The smoke check does not count as a check, but is one of them in
every other respect. -/
structure Plan.Valid (p : Plan) : Prop where
  env : ∀ e ∈ p.env.entries, IsEntry e
  nonempty : p.checks ≠ []
  checks : ValidChecks (p.checks ++ p.smoke.toList)

/-- The first rule that a plan breaks, with the part that breaks it. -/
inductive Plan.Breaks (p : Plan) : Violation → Prop
  | env : BreaksEntry p.env.entries reason → Breaks p ⟨.runtimeEnv, reason⟩
  | noChecks : (∀ e ∈ p.env.entries, IsEntry e) → p.checks = [] → Breaks p ⟨.checks, .noChecks⟩
  | check : (∀ e ∈ p.env.entries, IsEntry e) → p.checks ≠ [] →
    p.checks ++ p.smoke.toList = earlier ++ c :: later → ValidChecks earlier →
    BreaksAfter earlier c v → Breaks p v

/-! ## Checks -/

/-- The labels that are taken after checks. -/
def takenBy (checks : List Check) : List String := (checks.map Check.label).reverse

theorem checksFault?_append (taken : List String) (checks later : List Check) :
    checksFault? taken (checks ++ later) =
      (checksFault? taken checks).or (checksFault? (takenBy checks ++ taken) later) := by
  induction checks generalizing taken with
  | nil => rfl
  | cons c rest ih =>
    -- each label is put in front of those taken before, so they stand there in reverse
    simp only [List.cons_append, checksFault?, ih, takenBy, List.map_cons, List.reverse_cons,
      List.append_assoc, List.nil_append]
    split
    · rfl
    · split
      · rfl
      · split <;> rfl

theorem mem_takenBy_iff {label : String} {checks : List Check} :
    label ∈ takenBy checks ↔ ∃ c ∈ checks, c.label = label := by
  simp [takenBy]

theorem checksFault?_singleton_eq_some_iff {earlier : List Check} {c : Check} {v : Violation} :
    checksFault? (takenBy earlier) [c] = some v ↔ BreaksAfter earlier c v := by
  simp only [checksFault?]
  constructor
  · intro h
    split at h
    next hblank => exact Option.some.inj h ▸ .label hblank
    next hblank =>
      have hfilled := Bool.eq_false_iff.2 hblank
      split at h
      next htaken =>
        obtain ⟨d, hd, hlabel⟩ := mem_takenBy_iff.1 htaken
        exact Option.some.inj h ▸ .reused hfilled hd hlabel
      next hnew =>
        split at h
        next fault hfault =>
          refine Option.some.inj h ▸ .command hfilled (fun d hd hlabel => hnew ?_) hfault
          exact mem_takenBy_iff.2 ⟨d, hd, hlabel⟩
        next => cases h
  · rintro (hblank | ⟨hfilled, hd, hlabel⟩ | ⟨hfilled, hnew, hfault⟩)
    · rw [if_pos hblank]
    · rw [if_neg (Bool.eq_false_iff.1 hfilled), if_pos (mem_takenBy_iff.2 ⟨_, hd, hlabel⟩)]
    · have hnew' : c.label ∉ takenBy earlier := fun htaken =>
        let ⟨d, hd, hlabel⟩ := mem_takenBy_iff.1 htaken
        hnew d hd hlabel
      rw [if_neg (Bool.eq_false_iff.1 hfilled), if_neg hnew', hfault]

theorem checksFault?_singleton_eq_none_iff {earlier : List Check} {c : Check} :
    checksFault? (takenBy earlier) [c] = none ↔ Text.isBlankText c.label = false ∧
      (∀ d ∈ earlier, d.label ≠ c.label) ∧ Command.fault? c.command = none := by
  have hnew : c.label ∉ takenBy earlier ↔ ∀ d ∈ earlier, d.label ≠ c.label := by
    simp [mem_takenBy_iff]
  rw [← hnew]
  simp only [checksFault?]
  cases Text.isBlankText c.label with
  | true => simp
  | false =>
    by_cases htaken : c.label ∈ takenBy earlier
    · simp [htaken]
    · cases Command.fault? c.command <;> simp [htaken]

theorem validChecks_concat_iff {earlier : List Check} {c : Check} :
    ValidChecks (earlier ++ [c]) ↔ ValidChecks earlier ∧ Text.isBlankText c.label = false ∧
      (∀ d ∈ earlier, d.label ≠ c.label) ∧ Command.fault? c.command = none := by
  constructor
  · rintro ⟨hlabels, hdistinct, hcommands⟩
    rw [List.map_append, List.nodup_append] at hdistinct
    obtain ⟨hdistinct, -, hnew⟩ := hdistinct
    obtain ⟨hlabels, hlabel⟩ := List.forall_mem_append.1 hlabels
    obtain ⟨hcommands, hcommand⟩ := List.forall_mem_append.1 hcommands
    refine ⟨⟨hlabels, hdistinct, hcommands⟩, hlabel c List.mem_cons_self, fun d hd => ?_,
      hcommand c List.mem_cons_self⟩
    exact hnew _ (List.mem_map_of_mem hd) _ List.mem_cons_self
  · rintro ⟨⟨hlabels, hdistinct, hcommands⟩, hlabel, hnew, hcommand⟩
    refine ⟨List.forall_mem_append.2 ⟨hlabels, List.forall_mem_singleton.2 hlabel⟩, ?_,
      List.forall_mem_append.2 ⟨hcommands, List.forall_mem_singleton.2 hcommand⟩⟩
    rw [List.map_append, List.nodup_append]
    refine ⟨hdistinct, List.pairwise_singleton .., ?_⟩
    rintro _ hmem _ (_ | ⟨_, ⟨⟩⟩)
    obtain ⟨d, hd, rfl⟩ := List.mem_map.1 hmem
    exact hnew d hd

/-- By induction from the end of the checks: the last one is held against all others. -/
theorem checksFault?_eq_none_iff {checks : List Check} :
    checksFault? [] checks = none ↔ ValidChecks checks := by
  induction checks using List.reverseRecOn with
  | nil => exact iff_of_true rfl ⟨List.forall_mem_nil _, .nil, List.forall_mem_nil _⟩
  | append_singleton earlier c ih =>
    rw [checksFault?_append, Option.or_eq_none_iff, ih, List.append_nil,
      checksFault?_singleton_eq_none_iff, validChecks_concat_iff]

theorem checksFault?_eq_some_iff {checks : List Check} {v : Violation} :
    checksFault? [] checks = some v ↔ ∃ earlier c later, checks = earlier ++ c :: later ∧
      ValidChecks earlier ∧ BreaksAfter earlier c v := by
  constructor
  · intro h
    induction checks using List.reverseRecOn with
    | nil => cases h
    | append_singleton checks c ih =>
      rw [checksFault?_append, Option.or_eq_some_iff, List.append_nil] at h
      obtain h | ⟨hvalid, hbreaks⟩ := h
      · obtain ⟨earlier, d, later, rfl, hvalid, hbreaks⟩ := ih h
        exact ⟨earlier, d, later ++ [c], List.append_assoc .., hvalid, hbreaks⟩
      · exact ⟨checks, c, [], rfl, checksFault?_eq_none_iff.1 hvalid,
          checksFault?_singleton_eq_some_iff.1 hbreaks⟩
  · rintro ⟨earlier, c, later, rfl, hvalid, hbreaks⟩
    rw [checksFault?_append, checksFault?_eq_none_iff.2 hvalid, Option.none_or, List.append_nil,
      ← List.singleton_append, checksFault?_append, checksFault?_singleton_eq_some_iff.2 hbreaks]
    rfl

/-! ## The plan -/

theorem Plan.violation?_eq_none_iff {p : Plan} : p.violation? = none ↔ p.Valid := by
  rw [violation?_eq, Option.or_eq_none_iff, Option.map_eq_none_iff,
    findSome?_entryFault_eq_none_iff]
  constructor
  · rintro ⟨henv, hchecks⟩
    split at hchecks
    next => cases hchecks
    next hne => exact ⟨henv, mt List.isEmpty_iff.2 hne, checksFault?_eq_none_iff.1 hchecks⟩
  · rintro ⟨henv, hne, hchecks⟩
    refine ⟨henv, ?_⟩
    rw [if_neg (mt List.isEmpty_iff.1 hne)]
    exact checksFault?_eq_none_iff.2 hchecks

theorem Plan.violation?_eq_some_iff {p : Plan} {v : Violation} :
    p.violation? = some v ↔ p.Breaks v := by
  rw [violation?_eq, Option.or_eq_some_iff, Option.map_eq_some_iff, Option.map_eq_none_iff,
    findSome?_entryFault_eq_none_iff]
  simp only [findSome?_entryFault_eq_some_iff]
  constructor
  · rintro (⟨reason, h, rfl⟩ | ⟨henv, h⟩)
    · exact .env h
    · split at h
      next hempty => exact Option.some.inj h ▸ .noChecks henv (List.isEmpty_iff.1 hempty)
      next hne =>
        obtain ⟨earlier, c, later, hchecks, hvalid, hbreaks⟩ := checksFault?_eq_some_iff.1 h
        exact .check henv (mt List.isEmpty_iff.2 hne) hchecks hvalid hbreaks
  · rintro (h | ⟨henv, hnil⟩ | ⟨henv, hne, hchecks, hvalid, hbreaks⟩)
    · exact .inl ⟨_, h, rfl⟩
    · exact .inr ⟨henv, by rw [hnil]; rfl⟩
    · refine .inr ⟨henv, ?_⟩
      rw [if_neg (mt List.isEmpty_iff.1 hne)]
      exact checksFault?_eq_some_iff.2 ⟨_, _, _, hchecks, hvalid, hbreaks⟩

/-! ## Reports -/

namespace Verifier

variable {σ : Type} {service : Service σ} {name : String} {p : Plan} {capacity : Capacity}
  {observer : Observer} {s : σ} {report : Report}

theorem map_check_of_runChecks {g : Guard} {checks : List (Check × CheckKind)}
    {done entries : List Outcome}
    (h : (runChecks service g observer done checks s).answer = .ok entries) :
    entries.map Outcome.check = done.map Outcome.check ++ checks.map Prod.fst := by
  induction checks generalizing done s with
  | nil =>
    cases h
    exact (List.append_nil _).symm
  | cons c rest ih =>
    obtain ⟨check, kind⟩ := c
    cases hcheck : (runCheck service g check s).answer with
    | error halt => simp [runChecks, hcheck] at h
    | ok output =>
      simp only [runChecks, Step.bind_apply, hcheck] at h
      split at h
      next => cases h
      next =>
        rw [ih h, List.map_append, List.append_assoc]
        rfl

theorem map_fst_agenda (p : Plan) : (agenda p).map Prod.fst = p.checks ++ p.smoke.toList := by
  simp [agenda, Function.comp_def]

theorem map_check_of_runOn {i : String}
    (h : (runOn service name p observer i s).answer = .ok report) :
    report.entries.map Outcome.check = p.checks ++ p.smoke.toList := by
  by_cases hpanic :
      (runChecks service (.hold i) observer [] (agenda p) s).answer = .error .panic
  · simp [runOn, hpanic] at h
  · rw [runOn_of_ne_panic service hpanic] at h
    have hreport := (conclude_of_held service (g := .hold i) rfl name _ _).1.symm.trans h
    cases hrun : (runChecks service (.hold i) observer [] (agenda p) s).answer with
    | error => rw [hrun] at hreport; cases hreport
    | ok entries =>
      rw [hrun] at hreport
      cases hreport
      rw [← map_fst_agenda]
      exact map_check_of_runChecks hrun

theorem map_check_of_verify
    (h : (verify service name p capacity observer s).answer = .ok report) :
    p.violation? = none ∧ report.entries.map Outcome.check = p.checks ++ p.smoke.toList := by
  cases hp : p.violation? with
  | some => rw [verify_of_violation hp] at h; cases h
  | none =>
    refine ⟨rfl, ?_⟩
    cases ha : (service.acquire name p.env capacity s).answer with
    | error => rw [verify_of_refused hp ha] at h; cases h
    | ok i =>
      rw [verify_of_granted hp ha] at h
      exact map_check_of_runOn h

end Verifier

/-- What looking through a plan finds. There is no violation exactly if the plan is valid, and else
it is that of the first rule that is broken: entries in the order of their names, number of checks,
then each check by its label, its place among the labels, and its command. So the entries of every
report have different labels, whatever service and observer it comes from. -/
theorem Plan.violation_first (p : Plan) :
    (p.violation? = none ↔ p.Valid) ∧
    (∀ v, p.violation? = some v ↔ p.Breaks v) ∧
    ∀ {σ : Type} (service : Service σ) (name : String) (capacity : Capacity) (observer : Observer)
      (s : σ) (report : Report),
      (Verifier.verify service name p capacity observer s).answer = .ok report →
        (report.entries.map fun o => o.check.label).Nodup := by
  refine ⟨violation?_eq_none_iff, fun v => violation?_eq_some_iff, ?_⟩
  intro σ service name capacity observer s report h
  obtain ⟨hp, hchecks⟩ := Verifier.map_check_of_verify h
  have hdistinct := (violation?_eq_none_iff.1 hp).checks.distinct
  rw [← hchecks, List.map_map] at hdistinct
  exact hdistinct

/-- Two labels are the same only if no character differs: the smoke check of the first plan reuses
one, which is found before its command, and that of the second one does not. -/
theorem Plan.violation_first_reused :
    let reusing : Plan := ⟨.empty, [⟨"rustc", "rustc -V"⟩], some ⟨"rustc", "cargo run |"⟩⟩
    let spaced : Plan := ⟨.empty, [⟨"rustc", "rustc -V"⟩], some ⟨"rustc ", "cargo run"⟩⟩
    reusing.violation? = some ⟨.checkLabelled "rustc", .labelReused⟩ ∧
      spaced.violation? = none ∧
      ∃ report : Report, (Verifier.verify Scripted.service "image" spaced {} .calm {}).answer =
        .ok report ∧ report.entries.length = 2 ∧
        (report.entries.map fun o => o.check.label).Nodup := by
  intro reusing spaced
  have hfirst : ValidChecks [⟨"rustc", "rustc -V"⟩] := checksFault?_eq_none_iff.1 (by decide)
  have hreused : BreaksAfter [⟨"rustc", "rustc -V"⟩] ⟨"rustc", "cargo run |"⟩
      ⟨.checkLabelled "rustc", .labelReused⟩ :=
    .reused (by decide) List.mem_cons_self rfl
  have hspaced : spaced.violation? = none := by decide
  obtain ⟨-, hbreaks, -⟩ := violation_first reusing
  obtain ⟨-, -, hdistinct⟩ := violation_first spaced
  refine ⟨(hbreaks _).2 (.check nofun (List.cons_ne_nil _ _) rfl hfirst hreused), hspaced, ?_⟩
  have hanswer : (Verifier.verify Scripted.service "image" spaced {} .calm {}).answer =
      .ok ⟨"image", "fake", [⟨⟨"rustc", "rustc -V"⟩, .command, {}⟩,
        ⟨⟨"rustc ", "cargo run"⟩, .smoke, {}⟩], none⟩ := by
    rw [Verifier.verify_of_granted hspaced rfl]
    rfl
  exact ⟨_, hanswer, rfl, hdistinct _ _ _ _ _ _ hanswer⟩

end SandboxImage
