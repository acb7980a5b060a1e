import SandboxImage.Console

/-!
# What a report comes to

The summary on the console, the checks that a report counts as failed and the error that a run with
it ends with are computed one beside the other. They agree: the summary counts the checks
(`Console.summary_eq`), its first word is that of a report with or without failed checks
(`Console.ok_prefix_summary_iff`, `Console.failed_prefix_summary_iff`), and a failed check makes the
difference between the two policies, and only where nothing is wrong with the teardown
(`Report.exitError?_eq`). All of it together is `Report.judged_alike`.
-/

namespace SandboxImage

namespace Report

variable (r : Report)

theorem countP_add_length_failures :
    r.entries.countP Outcome.passed + r.failures.length = r.entries.length := by
  have hfailures : r.failures.length = r.entries.countP fun o => !o.passed :=
    List.countP_eq_length_filter.symm
  rw [hfailures, List.length_eq_countP_add_countP Outcome.passed]
  simp

/-- The failed checks are the longest part of the entries in which nothing was passed. -/
theorem sublist_failures_iff {l : List Outcome} :
    l.Sublist r.failures ↔ l.Sublist r.entries ∧ ∀ o ∈ l, o.passed = false := by
  constructor
  · intro h
    refine ⟨h.trans List.filter_sublist, fun o ho => ?_⟩
    simpa using (List.mem_filter.1 (h.subset ho)).2
  · rintro ⟨hentries, hfailed⟩
    have hall : l.filter (fun o => !o.passed) = l :=
      List.filter_eq_self.2 fun o ho => by simp [hfailed o ho]
    exact hall ▸ hentries.filter _

theorem allPassed_iff : r.allPassed = true ↔ r.failures.length = 0 := by
  rw [allPassed, List.isEmpty_iff, List.length_eq_zero_iff]

/-- A failed teardown comes first, then what the policy makes of failed checks. -/
theorem exitError?_eq (policy : Policy) : r.exitError? policy =
    r.teardownError.or (if policy = .strict ∧ 0 < r.failures.length then
      some (toString r.failures.length ++ " verification checks failed") else none) := by
  unfold exitError?
  cases r.teardownError with
  | some | none => rfl

end Report

namespace Console

/-- The word in front of a summary. -/
def verdictOf (r : Report) : String :=
  if r.allPassed then styled .green "OK " else styled .red "FAILED "

theorem summary_eq (r : Report) : summary r =
    verdictOf r ++ (toString (r.entries.countP Outcome.passed) ++ "/" ++
      toString r.entries.length ++ " checks passed on " ++ r.name ++ " (" ++ r.instanceId ++
      ")\n" ++ r.teardownError.elim "" fun text => styled .yellow "WARN: " ++ text ++ "\n") := by
  have hpassed : r.entries.length - r.failures.length = r.entries.countP Outcome.passed := by
    have := r.countP_add_length_failures
    omega
  have hverdict : (if r.failures.length == 0 then styled .green "OK " else styled .red "FAILED ") =
      verdictOf r := by
    rw [verdictOf]
    simp only [r.allPassed_iff, beq_iff_eq]
  simp only [summary, hpassed, hverdict]
  cases r.teardownError with
  | none => simp [String.append_assoc]
  | some text => simp [String.append_assoc]

theorem not_prefix_append {a b : List Char} (h : ¬ a <+: b) (h' : ¬ b <+: a) (s : List Char) :
    ¬ a <+: b ++ s := by
  intro ha
  obtain hab | hba := List.prefix_or_prefix_of_prefix ha (List.prefix_append b s)
  · exact h hab
  · exact h' hba

/-! The two words start in different colours. -/

theorem ok_prefix_summary_iff (r : Report) :
    (styled .green "OK ").toList <+: (summary r).toList ↔ r.allPassed = true := by
  rw [summary_eq, verdictOf, String.toList_append]
  cases r.allPassed with
  | true => exact iff_of_true (List.prefix_append ..) rfl
  | false => exact iff_of_false (not_prefix_append (by decide) (by decide) _) Bool.false_ne_true

theorem failed_prefix_summary_iff (r : Report) :
    (styled .red "FAILED ").toList <+: (summary r).toList ↔ r.allPassed = false := by
  rw [summary_eq, verdictOf, String.toList_append]
  cases r.allPassed with
  | true => exact iff_of_false (not_prefix_append (by decide) (by decide) _) nofun
  | false => exact iff_of_true (List.prefix_append ..) rfl

end Console

/-- The summary, the helpers of a report and the policies, for every report. The number of failed
checks and the number printed as passed make up all checks, and the failed checks are the entries
that were not passed, in their order. The summary starts with the word for success exactly if all
checks were passed, that is if none failed. A failed teardown is the error under both policies;
without one a lenient run has none, and a strict run has one exactly if a check failed, with the
number that the summary leaves out of its count. -/
theorem Report.judged_alike (r : Report) :
    let failed := r.failures.length
    let passed := r.entries.countP Outcome.passed
    passed + failed = r.entries.length ∧
    Console.summary r = Console.verdictOf r ++ (toString passed ++ "/" ++
      toString r.entries.length ++ " checks passed on " ++ r.name ++ " (" ++ r.instanceId ++
      ")\n" ++ r.teardownError.elim "" fun text =>
        Console.styled .yellow "WARN: " ++ text ++ "\n") ∧
    (∀ l : List Outcome, l.Sublist r.failures ↔
      l.Sublist r.entries ∧ ∀ o ∈ l, o.passed = false) ∧
    ((Console.styled .green "OK ").toList <+: (Console.summary r).toList ↔ r.allPassed = true) ∧
    ((Console.styled .red "FAILED ").toList <+: (Console.summary r).toList ↔
      r.allPassed = false) ∧
    (r.allPassed = true ↔ failed = 0) ∧
    ((r.exitError? .lenient).isSome = true ↔ r.teardownError.isSome = true) ∧
    ((r.exitError? .strict).isSome = true ↔ r.teardownError.isSome = true ∨ 0 < failed) ∧
    (∀ text, r.teardownError = some text → ∀ policy, r.exitError? policy = some text) ∧
    (r.teardownError = none → 0 < failed →
      r.exitError? .strict = some (toString failed ++ " verification checks failed")) ∧
    ((r.exitError? .lenient).isSome = true → (r.exitError? .strict).isSome = true) ∧
    (failed = 0 → r.exitError? .strict = r.exitError? .lenient) := by
  intro failed passed
  have hlenient : r.exitError? .lenient = r.teardownError := by
    rw [r.exitError?_eq, if_neg (by simp), Option.or_none]
  have hstrict : r.exitError? .strict = r.teardownError.or
      (if 0 < failed then some (toString failed ++ " verification checks failed") else none) := by
    rw [r.exitError?_eq]
    simp only [true_and, failed]
  have hsome : (r.exitError? .strict).isSome = true ↔
      r.teardownError.isSome = true ∨ 0 < failed := by
    rw [hstrict, Option.isSome_or, Bool.or_eq_true]
    by_cases hfailed : 0 < failed
    · simp [hfailed]
    · simp [hfailed]
  refine ⟨r.countP_add_length_failures, Console.summary_eq r, fun l => r.sublist_failures_iff,
    Console.ok_prefix_summary_iff r, Console.failed_prefix_summary_iff r, r.allPassed_iff,
    by rw [hlenient], hsome, fun text htext policy => ?_, fun hnone hfailed => ?_,
    fun h => ?_, fun hfailed => ?_⟩
  · rw [r.exitError?_eq, htext, Option.some_or]
  · rw [hstrict, hnone, Option.none_or, if_pos hfailed]
  · exact hsome.2 (.inl (hlenient ▸ h))
  · rw [hstrict, hlenient, if_neg (by omega), Option.or_none]

end SandboxImage
