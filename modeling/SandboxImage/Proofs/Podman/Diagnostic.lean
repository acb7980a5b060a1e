import SandboxImage.Proofs.Podman.Streaming

/-!
# What podman says of a build that failed

The end of podman's error output is reported, if that is a text with a line that is not blank. An
error output that is no text is passed over as if there were none, although it could be read as
loosely as any other output (`Podman.Connection.answer_build_of_failure`).
-/

namespace SandboxImage

namespace Text

theorem unlines_eq_empty_iff {lines : List String} :
    unlines lines = "" ↔ lines = [] ∨ lines = [""] := by
  match lines with
  | [] => simp [unlines]
  | [line] => simp [unlines]
  | line :: next :: rest => simp [unlines, String.intercalate_cons_cons]

end Text

namespace Podman

/-- Lines that are not blank make a diagnostic. -/
theorem unlines_lastOf_ne_empty {text : String} (h : filledLines text ≠ []) :
    Text.unlines (lastOf diagnosticLines (filledLines text)) ≠ "" := by
  rw [Ne, Text.unlines_eq_empty_iff, lastOf_eq_iff (by decide), lastOf_eq_iff (by decide)]
  rintro (hnone | hempty)
  · exact h hnone
  · have hmem : "" ∈ filledLines text := hempty ▸ List.mem_singleton_self ""
    exact absurd (List.mem_filter.1 hmem).2 (by decide)

theorem buildFault_of_text {r : Response} {text : String} (h : r.stderr = Text.encode text)
    (hfilled : filledLines text ≠ []) :
    buildFault r = .reported (Text.unlines (lastOf diagnosticLines (filledLines text))) := by
  have hne := unlines_lastOf_ne_empty hfilled
  simp [buildFault, h, Text.decode?_encode, hfilled, hne]

/-- An error output that is no text counts as none. -/
theorem buildFault_of_not_text {r : Response} (h : ∀ text, r.stderr ≠ Text.encode text) :
    buildFault r =
      let output := Text.unlines (lastOf diagnosticLines (outputLines r.stdout))
      if output = "" then .ended r.ending else .reported output :=
  buildFault_of_silent fun text htext => absurd htext (h text)

namespace Connection

section

variable {c : Connection} {m : Machine} {request : BuildRequest}

/-- A build that was started and has failed, where the error output, read loosely, has a line that
is not blank. If the error output is a text, its last such lines are what is reported, twenty at
most. If it is none, not a word of it is: then it is the end of the other output, or how podman
ended where that is empty. So the error output is reported exactly if it is a text, or by chance. -/
theorem answer_build_of_failure {r : Response} (hr : c.Ends request m r)
    (hending : r.ending ≠ .exited 0)
    (hfilled : ∃ line ∈ Text.linesOf (Text.decodeLoosely r.stderr),
      Text.isBlankText line = false) :
    let tail (lines : List String) := Text.unlines (lines.drop (lines.length - 20))
    let diagnostic := tail ((Text.linesOf (Text.decodeLoosely r.stderr)).filter
      fun line => !Text.isBlankText line)
    let output := tail (outputLines r.stdout)
    let answer := (c.build request m).answer
    (∀ text, r.stderr = Text.encode text → answer = .error (.build (.reported diagnostic))) ∧
    ((∀ text, r.stderr ≠ Text.encode text) → answer =
      .error (.build (if output = "" then .ended r.ending else .reported output))) ∧
    (answer = .error (.build (.reported diagnostic)) ↔
      (∃ text, r.stderr = Text.encode text) ∨ output = diagnostic) := by
  intro tail diagnostic output answer
  have hanswer : answer = _ := hr.answer_of_not_success hending
  have hlines : filledLines (Text.decodeLoosely r.stderr) ≠ [] := by
    obtain ⟨line, hline, hblank⟩ := hfilled
    exact List.ne_nil_of_mem (List.mem_filter.2 ⟨hline, by simp [hblank]⟩)
  have htext : ∀ text, r.stderr = Text.encode text →
      answer = .error (.build (.reported diagnostic)) := by
    intro text h
    have hloosely : Text.decodeLoosely r.stderr = text := by
      rw [h, Text.decodeLoosely_encode]
    rw [hloosely] at hlines
    rw [hanswer, buildFault_of_text h hlines, ← hloosely]
    rfl
  have hother : (∀ text, r.stderr ≠ Text.encode text) → answer =
      .error (.build (if output = "" then .ended r.ending else .reported output)) := by
    intro h
    rw [hanswer, buildFault_of_not_text h]
    rfl
  have hdiagnostic : diagnostic ≠ "" := unlines_lastOf_ne_empty hlines
  refine ⟨htext, hother, ?_⟩
  by_cases h : ∃ text, r.stderr = Text.encode text
  · obtain ⟨text, htext'⟩ := h
    exact iff_of_true (htext text htext') (.inl ⟨text, htext'⟩)
  · rw [hother (not_exists.1 h)]
    by_cases hempty : output = ""
    · simp [hempty, hdiagnostic.symm, h]
    · simp [hempty, h]

end

/-- A machine on which podman refuses every start with this error output. -/
def complaining (stderr : Bytes) : Machine where
  script _ := { ending := .exited 125, stderr }
  clock := id
  process := 7
  scratch := "/tmp"

/-- A request for an image of one step. -/
def smallRequest : BuildRequest := ⟨"app", ⟨"debian", "root", .empty, ["true"]⟩, {}, ""⟩

theorem ends_complaining (stderr : Bytes) :
    Ends ⟨none, ⟨"robot", "hunter2"⟩⟩ smallRequest (complaining stderr)
      { ending := .exited 125, stderr } :=
  ends_answering ⟨rfl, rfl, rfl⟩ (by decide)

/-- Lines that are blank are left out, and carriage returns. -/
theorem answer_build_of_failure_blanks :
    let c : Connection := ⟨none, ⟨"robot", "hunter2"⟩⟩
    let text := "Error: no\r\n \t\n\nspace"
    (c.build smallRequest (complaining (Text.encode text))).answer =
      .error (.build (.reported "Error: no\nspace")) := by
  intro c text
  have hlines : (Text.linesOf text).filter (fun line => !Text.isBlankText line) =
      ["Error: no", "space"] := by
    decide +kernel
  have hspace : "space" ∈ Text.linesOf (Text.decodeLoosely (Text.encode text)) := by
    rw [Text.decodeLoosely_encode]
    decide +kernel
  obtain ⟨h, -⟩ := answer_build_of_failure (ends_complaining (Text.encode text)) (by decide)
    ⟨"space", hspace, by decide⟩
  rw [h text rfl, Text.decodeLoosely_encode, hlines]
  rfl

/-- One byte that is no text takes the whole error output away. -/
theorem answer_build_hides_broken :
    let c : Connection := ⟨none, ⟨"robot", "hunter2"⟩⟩
    let stderr := Text.encode "Error: " ++ [0xFF]
    filledLines (Text.decodeLoosely stderr) = ["Error: \ufffd"] ∧
      (c.build smallRequest (complaining stderr)).answer =
        .error (.build (.ended (.exited 125))) := by
  intro c stderr
  have hfault : buildFault { ending := .exited 125, stderr } = .ended (.exited 125) := by
    decide +kernel
  have hanswer := (ends_complaining stderr).answer_of_not_success (by decide)
  exact ⟨by decide +kernel, hanswer.trans (by rw [hfault])⟩

end Connection
end Podman
end SandboxImage
