import SandboxImage.Proofs.Podman.Building
import SandboxImage.Proofs.Text.LineFeeds

/-!
# The output of a build, line by line and as a whole

The lines that are told while a build runs are those of its whole output, read at once
(`Podman.Intake.told_whole`), and the window always holds the last of them
(`Podman.Intake.Kept.through`). So what a failed build is reported with, where it has no diagnostic
of its own, is the end of that text (`Podman.Connection.build_streams`).
-/

namespace SandboxImage.Podman

/-- The lines of a build's output, each read on its own. -/
def outputLines (bytes : Bytes) : List String :=
  let ps := Text.pieces (0x0A : UInt8) bytes
  let ps := if ps.getLast? = some [] then ps.dropLast else ps
  ps.map fun p => dropEndings (Text.decodeLoosely p)

section

variable {α : Type}

theorem lastOf_suffix (n : Nat) (l : List α) : lastOf n l <:+ l := List.drop_suffix ..

theorem length_lastOf (n : Nat) (l : List α) : (lastOf n l).length = min n l.length := by
  rw [lastOf, List.length_drop]
  omega

theorem lastOf_of_length_le {n : Nat} {l : List α} (h : l.length ≤ n) : lastOf n l = l := by
  rw [lastOf, Nat.sub_eq_zero_of_le h, List.drop_zero]

/-- A list of fewer than `n` members is seen whole. -/
theorem lastOf_eq_iff {n : Nat} {l k : List α} (hk : k.length < n) : lastOf n l = k ↔ l = k := by
  constructor
  · intro h
    have hlength := length_lastOf n l
    rw [h] at hlength
    rw [← h, lastOf_of_length_le (by omega)]
  · rintro rfl
    exact lastOf_of_length_le (Nat.le_of_lt hk)

/-- The last `n` after one more: where there are `n` already, the first of them goes. -/
theorem lastOf_concat {n : Nat} (hn : 0 < n) (l : List α) (a : α) :
    lastOf n (l ++ [a]) =
      (if (lastOf n l).length = n then (lastOf n l).tail else lastOf n l) ++ [a] := by
  have hlength := length_lastOf n l
  by_cases hfull : n ≤ l.length
  · have hdrop : (l ++ [a]).length - n = l.length - n + 1 := by
      rw [List.length_append, List.length_singleton]
      omega
    rw [if_pos (by omega), lastOf, hdrop, List.drop_append_of_le_length (by omega), lastOf,
      List.tail_drop]
  · have hdrop : (l ++ [a]).length - n = 0 := by
      rw [List.length_append, List.length_singleton]
      omega
    have hall : l.length - n = 0 := by omega
    rw [if_neg (by omega), lastOf, hdrop, lastOf, hall, List.drop_zero, List.drop_zero]

theorem dropWhile_congr {p q : α → Bool} {l : List α} (h : ∀ a ∈ l, p a = q a) :
    l.dropWhile p = l.dropWhile q := by
  induction l with
  | nil => rfl
  | cons a l ih =>
    rw [List.dropWhile_cons, List.dropWhile_cons, h a List.mem_cons_self,
      ih fun b hb => h b (List.mem_cons_of_mem _ hb)]

end

/-- Some output without a line feed is one line. -/
theorem cutLine_of_not_mem {s : Bytes} (h : 0x0A ∉ s) : cutLine s = (s, []) := by
  induction s with
  | nil => rfl
  | cons b s ih =>
    obtain ⟨hb, hs⟩ := not_or.1 fun hor => h (List.mem_cons.2 hor)
    rw [cutLine, if_neg (Ne.symm hb), ih hs]

theorem cutLine_append {line : Bytes} (h : 0x0A ∉ line) (rest : Bytes) :
    cutLine (line ++ 0x0A :: rest) = (line ++ [0x0A], rest) := by
  induction line with
  | nil => rfl
  | cons b line ih =>
    obtain ⟨hb, hline⟩ := not_or.1 fun hor => h (List.mem_cons.2 hor)
    rw [List.cons_append, cutLine, if_neg (Ne.symm hb), ih hline]
    rfl

/-- The line feed that ends a line goes with its ending. -/
theorem dropEndings_append_feed (line : Bytes) :
    dropEndings (Text.decodeLoosely (line ++ [0x0A])) = dropEndings (Text.decodeLoosely line) := by
  have hempty : (Text.decodeLoosely []).toList = [] := by
    rw [Text.toList_decodeLoosely, Text.pieceList]
    rfl
  rw [dropEndings, Text.decodeLoosely_append_feed, hempty, dropEndings, List.reverse_append]
  rfl

/-- Where there is no line feed, the endings are carriage returns. -/
theorem dropEndings_of_not_mem {s : String} (h : '\n' ∉ s.toList) :
    dropEndings s = String.ofList (s.toList.rdropWhile (· == '\r')) := by
  rw [dropEndings, List.rdropWhile, dropWhile_congr]
  intro c hc
  have hne : c ≠ '\n' := fun heq => h (heq ▸ List.mem_reverse.1 hc)
  simp [hne]

theorem outputLines_eq (bytes : Bytes) :
    outputLines bytes =
      (Text.endedPieces 0x0A bytes).map fun p => dropEndings (Text.decodeLoosely p) := rfl

/-- The lines of some output, each read on its own, are those of the text that all of it is. -/
theorem outputLines_eq_bareLines (bytes : Bytes) :
    outputLines bytes = Text.bareLines (Text.decodeLoosely bytes) := by
  rw [outputLines_eq, Text.bareLines, Text.endedPieces_decodeLoosely, List.map_map]
  refine List.map_congr_left fun p hp => ?_
  apply dropEndings_of_not_mem
  exact Text.newline_not_mem_decodeLoosely (Text.not_mem_of_mem_endedPieces hp)

theorem endedLines_cases (bytes : Bytes) : endedLines bytes = [] ∨
    ∃ s rest, endedLines bytes = s ++ [0x0A] ∧ bytes = s ++ 0x0A :: rest := by
  by_cases hne : endedLines bytes = []
  · exact .inl hne
  · have hlast : (endedLines bytes).getLast hne = 0x0A := by
      have hstop := List.rdropWhile_last_not (fun b : UInt8 => b != 0x0A) bytes hne
      simp only [bne_iff_ne, ne_eq, not_not] at hstop
      exact hstop
    have hconcat := List.dropLast_append_getLast hne
    rw [hlast] at hconcat
    obtain ⟨rest, hrest⟩ : endedLines bytes <+: bytes := List.rdropWhile_prefix _ _
    refine .inr ⟨_, rest, hconcat.symm, ?_⟩
    rw [List.append_cons, hconcat, hrest]

/-- Without the last line that nothing ends, the lines are the same ones but for that. -/
theorem outputLines_endedLines_prefix (bytes : Bytes) :
    outputLines (endedLines bytes) <+: outputLines bytes := by
  obtain hnil | ⟨s, rest, hended, hbytes⟩ := endedLines_cases bytes
  · rw [hnil]
    exact List.nil_prefix
  · rw [hended, outputLines_eq, outputLines_eq]
    refine List.IsPrefix.map _ ?_
    conv_rhs => rw [hbytes, Text.endedPieces_append_sep]
    rw [Text.endedPieces_append_sep, Text.endedPieces_nil, List.append_nil]
    exact List.prefix_append ..

namespace Intake

/-- The window holds the last lines that have been told. -/
def Kept (i : Intake) : Prop := i.window = lastOf diagnosticLines i.told

theorem Kept.push {i : Intake} (h : i.Kept) (line : String) : (i.push line).Kept := by
  change (if i.window.length = diagnosticLines then i.window.tail else i.window) ++ [line] =
    lastOf diagnosticLines (i.told ++ [line])
  rw [lastOf_concat (by decide), h]

theorem Kept.through {i : Intake} (h : i.Kept) (bytes : Bytes) : (i.through bytes).Kept := by
  induction i, bytes using through.induct with
  | case1 i =>
    rw [Intake.through]
    exact h
  | case2 i b rest cut ih =>
    rw [Intake.through]
    exact ih (h.push _)

theorem through_nil (i : Intake) : i.through [] = i := by
  rw [through]

/-- One more line is taken in. -/
theorem through_of_ne_nil (i : Intake) {bytes : Bytes} (h : bytes ≠ []) :
    i.through bytes =
      (i.push (dropEndings (Text.decodeLoosely (cutLine bytes).1))).through (cutLine bytes).2 := by
  match bytes with
  | [] => exact absurd rfl h
  | b :: rest => rw [through]

theorem told_through (i : Intake) (bytes : Bytes) :
    (i.through bytes).told = i.told ++ outputLines bytes := by
  induction bytes using Text.pieces_induction (0x0A : UInt8) generalizing i with
  | nil => rw [through_nil, outputLines_eq, Text.endedPieces_nil, List.map_nil, List.append_nil]
  | last s hs hne =>
    rw [i.through_of_ne_nil hne, cutLine_of_not_mem hs, through_nil, outputLines_eq,
      Text.endedPieces_of_not_mem hs hne]
    rfl
  | ended line rest hline ih =>
    rw [i.through_of_ne_nil (by simp), cutLine_append hline, ih, outputLines_eq, outputLines_eq,
      Text.endedPieces_append hline, dropEndings_append_feed, List.map_cons]
    exact List.append_assoc ..

theorem told_whole (bytes : Bytes) : (whole bytes).told = outputLines bytes :=
  told_through {} bytes

theorem window_whole (bytes : Bytes) :
    (whole bytes).window = lastOf diagnosticLines (outputLines bytes) := by
  have hnone : Kept {} := rfl
  rw [← told_whole]
  exact hnone.through bytes

end Intake

/-! ## Builds -/

/-- There is nothing in the error output to report: it is no text, or only blank lines are in it. -/
def Silent (stderr : Bytes) : Prop :=
  ∀ text, stderr = Text.encode text → ∀ line ∈ Text.linesOf text, Text.isBlankText line = true

theorem filledLines_eq_nil_iff {text : String} :
    filledLines text = [] ↔ ∀ line ∈ Text.linesOf text, Text.isBlankText line = true := by
  simp [filledLines, List.filter_eq_nil_iff]

theorem silent_iff {stderr : Bytes} :
    Silent stderr ↔ filledLines ((Text.decode? stderr).getD "") = [] := by
  rw [filledLines_eq_nil_iff]
  cases h : Text.decode? stderr with
  | none =>
    refine iff_of_true (fun text htext => ?_) (by decide)
    rw [htext, Text.decode?_encode] at h
    cases h
  | some text =>
    obtain rfl := Text.decode?_eq_some_iff.1 h
    refine ⟨fun hsilent => hsilent text rfl, fun hblank text' htext' => ?_⟩
    have heq := congrArg Text.decode? htext'
    rw [Text.decode?_encode, Text.decode?_encode] at heq
    exact Option.some.inj heq ▸ hblank

/-- Without a word in the error output, the end of the output is reported, if it is not empty. -/
theorem buildFault_of_silent {r : Response} (h : Silent r.stderr) :
    buildFault r =
      let output := Text.unlines (lastOf diagnosticLines (outputLines r.stdout))
      if output = "" then .ended r.ending else .reported output := by
  simp [buildFault, silent_iff.1 h, Intake.window_whole]

namespace Connection

variable {c : Connection} {m : Machine} {request : BuildRequest} {r : Response}

theorem Ends.answer_of_not_success (hr : c.Ends request m r) (hending : r.ending ≠ .exited 0) :
    (c.build request m).answer = .error (.build (buildFault r)) := by
  have hlog : m.workspace.log r = r.stderr := by simp [Workspace.log, hr.log]
  rw [answer_build_of_launches hr.launched, Workspace.outcome_of_failed hr.waited hr.read hending,
    hlog]
  rfl

theorem Launches.progress_eq (hr : c.Launches request m r) :
    (c.build request m).trace.filterMap Note.progress? = outputLines (readOutput r) := by
  obtain ⟨directory, -, hbuild⟩ := build_of_launches hr
  rw [hbuild, Intake.told_whole]
  change ((outputLines (readOutput r)).map Note.progress).filterMap Note.progress? = _
  rw [List.filterMap_map]
  exact List.filterMap_some

/-- The lines that are told of a build that was started are those of its whole output, read at once
and cut at line feeds, in order and however the build ends; if the output can't be read to its end,
they are the first of these. If a build that was read fails and has nothing to say in its error
output, what is reported are the last of these lines, twenty at most. -/
theorem build_streams (hr : c.Launches request m r) :
    let lines := Text.bareLines (Text.decodeLoosely r.stdout)
    let told := (c.build request m).trace.filterMap Note.progress?
    told <+: lines ∧ (r.readFault = none → told = lines) ∧
    (c.Ends request m r → r.ending ≠ .exited 0 → Silent r.stderr →
      ∃ earlier last, lines = earlier ++ last ∧ last.length = min 20 lines.length ∧
        (c.build request m).answer = .error (.build
          (if Text.unlines last = "" then .ended r.ending
            else .reported (Text.unlines last)))) := by
  intro lines told
  have hlines : outputLines r.stdout = lines := outputLines_eq_bareLines r.stdout
  have htold : told = outputLines (readOutput r) := hr.progress_eq
  refine ⟨?_, fun hread => ?_, fun hends hending hsilent => ?_⟩
  · rw [htold, ← hlines, readOutput]
    split
    · exact outputLines_endedLines_prefix r.stdout
    · exact List.prefix_rfl
  · rw [htold, ← hlines]
    simp [readOutput, hread]
  · obtain ⟨earlier, hearlier⟩ := lastOf_suffix diagnosticLines lines
    refine ⟨earlier, _, hearlier.symm, length_lastOf _ _, ?_⟩
    rw [hends.answer_of_not_success hending, buildFault_of_silent hsilent, hlines]

theorem ends_answering (hr : r.Undisturbed)
    (h : (c.buildArguments request "/tmp").all isPassable = true) :
    c.Ends request (answering r) r where
  launched := ⟨"/tmp", prepared_answering r, Machine.spawn_of_present rfl h hr.started⟩
  waited := hr.waited
  read := hr.read
  log := rfl

/-- A character that is broken by the end of its line is one of the lines, and so is a line of
carriage returns. -/
theorem build_streams_broken :
    let c : Connection := ⟨none, ⟨"robot", "hunter2"⟩⟩
    let request : BuildRequest := ⟨"app", Builder.minimal, {}, ""⟩
    let r : Response :=
      { ending := .signalled 9, stdout := [0xE2, 0x82, 0x0A, 0x41, 0x0D, 0x0D, 0x0A, 0x0D, 0x0A],
        stderr := Text.encode " \n" }
    (c.build request (answering r)).trace.filterMap Note.progress? = ["\ufffd", "A", ""] ∧
      (c.build request (answering r)).answer = .error (.build (.reported "\ufffd\nA\n")) := by
  intro c request r
  have hlines : Text.bareLines (Text.decodeLoosely r.stdout) = ["\ufffd", "A", ""] := by
    decide +kernel
  have hsilent : Silent r.stderr := silent_iff.2 (by decide +kernel)
  have hends : c.Ends request (answering r) r := ends_answering ⟨rfl, rfl, rfl⟩ (by decide)
  obtain ⟨-, hprogress, hfailed⟩ := build_streams hends.launched
  refine ⟨(hprogress rfl).trans hlines, ?_⟩
  obtain ⟨earlier, last, hsplit, hlength, hanswer⟩ := hfailed hends (by decide) hsilent
  rw [hlines] at hsplit hlength
  obtain rfl : earlier = [] := by
    have htotal := congrArg List.length hsplit
    rw [List.length_append, hlength] at htotal
    exact List.length_eq_zero_iff.1 (by simpa using htotal)
  rw [hanswer, ← show _ = last from hsplit]
  rfl

end Connection
end SandboxImage.Podman
