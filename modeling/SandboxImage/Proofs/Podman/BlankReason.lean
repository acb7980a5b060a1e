import SandboxImage.Proofs.Podman.Diagnostic

/-!
# Blank reasons

The error output of a build that has failed is looked through for lines that are not blank, its
output is not: of that the last lines are reported as they stand. So a reason can be blank, and it
is exactly if the error output is silent and all of the last lines of the output are blank, unless
they are no more than one empty line (`Podman.Connection.blank_reason_iff`).
-/

namespace SandboxImage

namespace Text

theorem isBlankText_append (s t : String) :
    isBlankText (s ++ t) = (isBlankText s && isBlankText t) := by
  simp [isBlankText]

/-- Line feeds are blank. -/
theorem isBlankText_unlines (lines : List String) :
    isBlankText (unlines lines) = lines.all isBlankText := by
  induction lines with
  | nil => rfl
  | cons line rest ih =>
    cases rest with
    | nil => simp [unlines]
    | cons next rest =>
      have hfeed : isBlankText "\n" = true := by decide
      rw [unlines, String.intercalate_cons_cons, isBlankText_append, isBlankText_append, hfeed,
        Bool.and_true, ← unlines, ih]
      rfl

end Text

namespace Podman

theorem isBlankText_ended (ending : Ending) :
    Text.isBlankText (BuildFault.ended ending).message = false := by
  have hwords : Text.isBlankText "podman build exited with " = false := by decide +kernel
  change Text.isBlankText ("podman build exited with " ++ ending.text) = false
  rw [Text.isBlankText_append, hwords, Bool.false_and]

/-- A word in the error output is reported. -/
theorem isBlankText_of_not_silent {r : Response} (h : ¬ Silent r.stderr) :
    Text.isBlankText (buildFault r).message = false := by
  simp only [Silent, not_forall] at h
  obtain ⟨text, htext, line, hline, hblank⟩ := h
  have hfilled : filledLines text ≠ [] :=
    List.ne_nil_of_mem (List.mem_filter.2 ⟨hline, by simpa using hblank⟩)
  rw [buildFault_of_text htext hfilled]
  change Text.isBlankText (Text.unlines _) = false
  rw [Text.isBlankText_unlines, List.all_eq_false]
  -- what is kept of the lines that are not blank is not nothing
  have hlast : lastOf diagnosticLines (filledLines text) ≠ [] := by
    rwa [Ne, lastOf_eq_iff (by decide)]
  obtain ⟨word, hword⟩ := List.exists_mem_of_ne_nil _ hlast
  have hmem := (lastOf_suffix ..).subset hword
  exact ⟨word, hword, by simpa using (List.mem_filter.1 hmem).2⟩

/-- Of a silent build the last lines are reported as they stand. -/
theorem isBlankText_of_silent {r : Response} (h : Silent r.stderr) :
    Text.isBlankText (buildFault r).message = true ↔
      (∀ line ∈ lastOf diagnosticLines (outputLines r.stdout), Text.isBlankText line = true) ∧
        outputLines r.stdout ≠ [] ∧ outputLines r.stdout ≠ [""] := by
  have hempty : Text.unlines (lastOf diagnosticLines (outputLines r.stdout)) = "" ↔
      outputLines r.stdout = [] ∨ outputLines r.stdout = [""] := by
    rw [Text.unlines_eq_empty_iff, lastOf_eq_iff (by decide), lastOf_eq_iff (by decide)]
  rw [buildFault_of_silent h]
  dsimp only
  split
  next hnone =>
    rw [isBlankText_ended]
    refine iff_of_false Bool.false_ne_true fun ⟨_, hnil, hsingle⟩ => ?_
    exact (hempty.1 hnone).elim hnil hsingle
  next hsome =>
    change Text.isBlankText (Text.unlines _) = true ↔ _
    rw [Text.isBlankText_unlines, List.all_eq_true]
    exact (and_iff_left (not_or.1 (mt hempty.2 hsome))).symm

/-- A silent build is reported by how it ended exactly if its output is empty, or an empty line. -/
theorem buildFault_eq_ended_iff {r : Response} (h : Silent r.stderr) :
    buildFault r = .ended r.ending ↔ outputLines r.stdout = [] ∨ outputLines r.stdout = [""] := by
  rw [buildFault_of_silent h, ← lastOf_eq_iff (n := diagnosticLines) (by decide),
    ← lastOf_eq_iff (n := diagnosticLines) (k := [""]) (by decide), ← Text.unlines_eq_empty_iff]
  simp

namespace Connection

variable {c : Connection} {m : Machine} {request : BuildRequest} {r : Response}

/-- The reason of a build that was started and has failed can be blank: exactly if the error output
has nothing to report and all of the last lines of the output are blank, twenty at most, unless
there are none or only one that is empty. So where no line is but blank, the reason is how podman
ended exactly if the output is nothing or an empty line; otherwise it is the blank lines. -/
theorem blank_reason_iff (hr : c.Ends request m r) (hending : r.ending ≠ .exited 0) :
    let lines := Text.bareLines (Text.decodeLoosely r.stdout)
    ∃ fault, (c.build request m).answer = .error (.build fault) ∧
      ((∀ ch ∈ fault.message.toList, Text.isBlank ch = true) ↔
        Silent r.stderr ∧ (∀ line ∈ lines.drop (lines.length - 20), Text.isBlankText line = true) ∧
          lines ≠ [] ∧ lines ≠ [""]) ∧
      (Silent r.stderr → (∀ line ∈ lines, Text.isBlankText line = true) →
        (fault = .ended r.ending ↔ lines = [] ∨ lines = [""])) := by
  intro lines
  have hlines : outputLines r.stdout = lines := outputLines_eq_bareLines r.stdout
  refine ⟨_, hr.answer_of_not_success hending, ?_, fun hsilent _ => ?_⟩
  · rw [← List.all_eq_true, ← hlines]
    by_cases hsilent : Silent r.stderr
    · exact (isBlankText_of_silent hsilent).trans (and_iff_right hsilent).symm
    · refine iff_of_false (fun hblank => ?_) fun hblank => hsilent hblank.1
      exact Bool.false_ne_true ((isBlankText_of_not_silent hsilent).symm.trans hblank)
  · rw [← hlines]
    exact buildFault_eq_ended_iff hsilent

/-- A word in front of twenty empty lines is too far from the end to be seen. -/
theorem blank_reason_iff_distant :
    let c : Connection := ⟨none, ⟨"robot", "hunter2"⟩⟩
    let request : BuildRequest := ⟨"app", Builder.minimal, {}, ""⟩
    let r : Response := { ending := .exited 1, stdout := 0x78 :: List.replicate 21 0x0A }
    ∃ fault, (c.build request (answering r)).answer = .error (.build fault) ∧
      ∀ ch ∈ fault.message.toList, Text.isBlank ch = true := by
  intro c request r
  have hlines : Text.bareLines (Text.decodeLoosely r.stdout) = "x" :: List.replicate 20 "" := by
    decide +kernel
  have hends : c.Ends request (answering r) r := ends_answering ⟨rfl, rfl, rfl⟩ (by decide)
  obtain ⟨fault, hanswer, hblank, -⟩ := blank_reason_iff hends (by decide)
  refine ⟨fault, hanswer, hblank.2 ?_⟩
  rw [hlines]
  exact ⟨silent_iff.2 (by decide +kernel), by decide +kernel, by decide, by decide⟩

/-- Two empty lines are reported as a line feed. -/
theorem blank_reason_feeds :
    let c : Connection := ⟨none, ⟨"robot", "hunter2"⟩⟩
    let request : BuildRequest := ⟨"app", Builder.minimal, {}, ""⟩
    let r : Response := { ending := .exited 1, stdout := [0x0A, 0x0A] }
    (c.build request (answering r)).answer = .error (.build (.reported "\n")) ∧
      ∀ ch ∈ (BuildFault.reported "\n").message.toList, Text.isBlank ch = true := by
  intro c request r
  have hfault : buildFault r = .reported "\n" := by decide +kernel
  have hblank : Text.isBlankText (BuildFault.reported "\n").message = true := by decide +kernel
  have hends : c.Ends request (answering r) r := ends_answering ⟨rfl, rfl, rfl⟩ (by decide)
  have hanswer := hends.answer_of_not_success (by decide)
  exact ⟨hanswer.trans (by rw [hfault]), List.all_eq_true.1 hblank⟩

end Connection
end Podman
end SandboxImage
