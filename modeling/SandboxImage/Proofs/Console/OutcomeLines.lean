import Mathlib.Algebra.GroupWithZero.Nat
import SandboxImage.Proofs.Console.Summary
import SandboxImage.Proofs.Text.Pieces
import SandboxImage.Proofs.Validation.Plans

/-!
# The lines of an outcome

An outcome is shown as a headline with the lines of error output under it
(`Console.outcome_eq`). Of an output only single lines are shown, but the label and the command are
written as they stand, so the headline is one line exactly if they are (`Console.IsPlain`). With
such checks the operator can tell the outcomes of a run apart by their headlines; with any others
the lines do not come out as one headline and the lines under it (`Console.outcome_lines_iff`).
-/

namespace SandboxImage

namespace Console

/-! ## Lines -/

/-- The lines of a text that was written line by line. -/
def writtenLines (text : String) : List (List Char) := Text.endedPieces '\n' text.toList

/-- The line that says whether a check was passed. -/
def headline (o : Outcome) : String :=
  if o.passed then
    styled .green "PASS " ++ labelOf o ++ "  " ++
      Text.trimmed ((Text.linesOf o.output.stdout).headD "")
  else
    styled .red "FAIL " ++ labelOf o ++ " (exit " ++ toString o.output.exit ++ "): " ++
      o.check.command

/-- The lines under a headline: of a failed check, the first ones of its error output. -/
def excerpt (o : Outcome) : List String :=
  if o.passed then []
  else ((Text.linesOf o.output.stderr).take excerptLines).map ("     " ++ ·)

/-- What is written of a check as it stands is one line. -/
def IsPlain (o : Outcome) : Prop :=
  '\n' ∉ o.check.label.toList ∧ (o.passed = false → '\n' ∉ o.check.command.toList)

/-- The lines of an outcome. -/
def block (o : Outcome) : List (List Char) := (headline o :: excerpt o).map String.toList

theorem outcome_eq (o : Outcome) :
    outcome o = headline o ++ "\n" ++ String.join ((excerpt o).map (· ++ "\n")) := by
  unfold outcome headline excerpt
  cases o.passed with
  | true => simp
  | false => simp [List.map_map, Function.comp_def]

theorem toList_outcome (o : Outcome) : (outcome o).toList = (block o).flatMap (· ++ ['\n']) := by
  rw [outcome_eq, String.toList_append, String.toList_append, String.toList_join, block,
    List.map_cons, List.flatMap_cons, List.flatMap_map, List.flatMap_map]
  simp [String.toList_append]

theorem toList_join_outcome (os : List Outcome) :
    (String.join (os.map outcome)).toList = (os.flatMap block).flatMap (· ++ ['\n']) := by
  rw [String.toList_join, List.flatMap_map, List.flatMap_assoc]
  simp only [toList_outcome]

/-! ## Where line feeds come from -/

theorem newline_not_mem_of_mem_lines {s line : List Char} (h : line ∈ Text.lines s) :
    '\n' ∉ line := by
  have hreturn {piece : List Char} (hpiece : piece ∈ Text.pieces '\n' s) :
      '\n' ∉ Text.dropReturn piece := by
    unfold Text.dropReturn
    split
    · exact fun hmem => Text.not_mem_of_mem_pieces hpiece ((List.dropLast_sublist _).subset hmem)
    · exact Text.not_mem_of_mem_pieces hpiece
  have hended {line : List Char} (h : line ∈ (Text.pieces '\n' s).dropLast.map Text.dropReturn) :
      '\n' ∉ line := by
    obtain ⟨piece, hpiece, rfl⟩ := List.mem_map.1 h
    exact hreturn ((List.dropLast_sublist _).subset hpiece)
  simp only [Text.lines] at h
  split at h
  · exact hended h
  · exact hended h
  next last hlast =>
    obtain h | h := List.mem_append.1 h
    · exact hended h
    · obtain rfl := List.mem_singleton.1 h
      exact Text.not_mem_of_mem_pieces (List.mem_of_getLast? hlast)

theorem newline_not_mem_of_mem_linesOf {s line : String} (h : line ∈ Text.linesOf s) :
    '\n' ∉ line.toList := by
  obtain ⟨l, hl, rfl⟩ := List.mem_map.1 h
  rw [String.toList_ofList]
  exact newline_not_mem_of_mem_lines hl

theorem newline_not_mem_first (s : String) :
    '\n' ∉ (Text.trimmed ((Text.linesOf s).headD "")).toList := by
  rw [Text.trimmed, String.toList_ofList]
  intro h
  have hmem := Text.mem_of_mem_trim h
  cases hlines : Text.linesOf s with
  | nil =>
    rw [hlines] at hmem
    exact absurd hmem (by decide)
  | cons line rest =>
    rw [hlines] at hmem
    exact newline_not_mem_of_mem_linesOf (hlines ▸ List.mem_cons_self) hmem

theorem newline_not_mem_toString (n : Int32) : '\n' ∉ (toString n).toList := by
  have hnat (k : Nat) : '\n' ∉ (toString k).toList := by
    rw [Nat.toString_eq_repr, Nat.repr, String.toList_ofList]
    intro h
    exact absurd (Nat.isDigit_of_mem_toDigits (by decide) (by decide) h) (by decide)
  change '\n' ∉ (toString n.toInt).toList
  cases n.toInt with
  | ofNat k => exact hnat k
  | negSucc k =>
    change '\n' ∉ ("-" ++ toString (k + 1)).toList
    rw [String.toList_append, List.mem_append, not_or]
    exact ⟨by decide, hnat (k + 1)⟩

theorem newline_not_mem_excerpt {o : Outcome} : ∀ line ∈ excerpt o, '\n' ∉ line.toList := by
  unfold excerpt
  split
  · exact nofun
  · intro line h
    obtain ⟨l, hl, rfl⟩ := List.mem_map.1 h
    rw [String.toList_append, List.mem_append, not_or]
    exact ⟨by decide, newline_not_mem_of_mem_linesOf (List.mem_of_mem_take hl)⟩

theorem newline_mem_labelOf_iff (o : Outcome) :
    '\n' ∈ (labelOf o).toList ↔ '\n' ∈ o.check.label.toList := by
  unfold labelOf
  cases o.kind with
  | command => rfl
  | smoke =>
    rw [String.toList_append, List.mem_append]
    exact or_iff_left (by decide)

theorem newline_not_mem_headline_iff (o : Outcome) :
    '\n' ∉ (headline o).toList ↔ IsPlain o := by
  have hpass : '\n' ∉ (styled .green "PASS ").toList := by decide
  have hfail : '\n' ∉ (styled .red "FAIL ").toList := by decide
  have hfirst := newline_not_mem_first o.output.stdout
  have hexit := newline_not_mem_toString o.output.exit
  unfold headline IsPlain
  cases o.passed with
  | true =>
    generalize Text.trimmed _ = first at hfirst ⊢
    simp [String.toList_append, newline_mem_labelOf_iff, hpass, hfirst]
  | false => simp [String.toList_append, newline_mem_labelOf_iff, hfail, hexit]

theorem newline_not_mem_block_iff (o : Outcome) : (∀ l ∈ block o, '\n' ∉ l) ↔ IsPlain o := by
  rw [block, List.forall_mem_map, List.forall_mem_cons, newline_not_mem_headline_iff]
  exact and_iff_left newline_not_mem_excerpt

/-! ## The lines of outcomes -/

theorem length_block (o : Outcome) : (block o).length =
    1 + if o.passed then 0 else min 5 (Text.linesOf o.output.stderr).length := by
  rw [block, List.length_map, List.length_cons, excerpt]
  cases o.passed with
  | true => rfl
  | false => simp [excerptLines, Nat.add_comm]

theorem length_writtenLines_iff (os : List Outcome) :
    (writtenLines (String.join (os.map outcome))).length = (os.flatMap block).length ↔
      ∀ o ∈ os, IsPlain o := by
  rw [writtenLines, toList_join_outcome, Text.length_endedPieces_flatMap_eq_iff]
  simp only [List.forall_mem_flatMap, newline_not_mem_block_iff]

theorem writtenLines_of_isPlain {os : List Outcome} (h : ∀ o ∈ os, IsPlain o) :
    writtenLines (String.join (os.map outcome)) = os.flatMap block := by
  rw [writtenLines, toList_join_outcome]
  apply Text.endedPieces_flatMap
  rw [List.forall_mem_flatMap]
  exact fun o ho => (newline_not_mem_block_iff o).2 (h o ho)

/-- The line starts as a headline does. -/
def isHeadline (line : List Char) : Bool :=
  (styled .green "PASS ").toList.isPrefixOf line || (styled .red "FAIL ").toList.isPrefixOf line

theorem isHeadline_iff {line : List Char} : isHeadline line = true ↔
    (styled .green "PASS ").toList <+: line ∨ (styled .red "FAIL ").toList <+: line := by
  rw [isHeadline, Bool.or_eq_true, List.isPrefixOf_iff_prefix, List.isPrefixOf_iff_prefix]

theorem isHeadline_headline (o : Outcome) : isHeadline (headline o).toList = true := by
  rw [isHeadline_iff, headline]
  cases o.passed with
  | true =>
    left
    simp only [if_true, String.append_assoc, String.toList_append]
    exact List.prefix_append ..
  | false =>
    right
    simp only [Bool.false_eq_true, if_false, String.append_assoc, String.toList_append]
    exact List.prefix_append ..

theorem isHeadline_excerpt {o : Outcome} : ∀ line ∈ excerpt o, ¬ isHeadline line.toList = true := by
  unfold excerpt
  split
  · exact nofun
  · intro line h
    obtain ⟨l, -, rfl⟩ := List.mem_map.1 h
    rw [isHeadline_iff, String.toList_append, not_or]
    constructor
    · exact not_prefix_append (by decide) (by decide) _
    · exact not_prefix_append (by decide) (by decide) _

theorem countP_block (o : Outcome) : (block o).countP isHeadline = 1 := by
  have hexcerpt : ((excerpt o).map String.toList).countP isHeadline = 0 := by
    rw [List.countP_eq_zero, List.forall_mem_map]
    exact isHeadline_excerpt
  rw [block, List.map_cons, List.countP_cons_of_pos (isHeadline_headline o), hexcerpt]

theorem countP_flatMap_block (os : List Outcome) :
    (os.flatMap block).countP isHeadline = os.length := by
  induction os with
  | nil => rfl
  | cons o os ih =>
    rw [List.flatMap_cons, List.countP_append, countP_block, ih, List.length_cons, Nat.add_comm]

theorem length_flatMap_block_le (os : List Outcome) :
    (os.flatMap block).length ≤ 6 * os.length := by
  induction os with
  | nil => exact Nat.le_refl 0
  | cons o os ih =>
    have hblock : (block o).length ≤ 6 := by
      rw [length_block]
      split <;> omega
    rw [List.flatMap_cons, List.length_append, List.length_cons]
    omega

end Console

/-! ## Runs -/

/-- The outcome that an event hands on. -/
def Event.outcome? : Event → Option Outcome
  | .outcome o => some o
  | _ => none

/-- The outcomes that are handed on in a trace. -/
def outcomesOf (trace : List Event) : List Outcome := trace.filterMap Event.outcome?

@[simp]
theorem outcomesOf_nil : outcomesOf [] = [] := rfl

@[simp]
theorem outcomesOf_append (t u : List Event) : outcomesOf (t ++ u) = outcomesOf t ++ outcomesOf u :=
  List.filterMap_append ..

@[simp]
theorem outcomesOf_cons (e : Event) (t : List Event) :
    outcomesOf (e :: t) = e.outcome?.toList ++ outcomesOf t := by
  cases e with
  | outcome o => rfl
  | note | build | acquire | exec | kill | print => rfl

@[simp]
theorem outcomesOf_map_note (ns : List Note) : outcomesOf (ns.map .note) = [] := by
  simp [outcomesOf, Event.outcome?]

/-- Outcomes are handed on while an instance lives. -/
theorem outcomesOf_lifeOf (t : List Event) : outcomesOf (lifeOf t) = outcomesOf t := by
  induction t with
  | nil => rfl
  | cons e t ih =>
    cases e with
    | outcome o => exact congrArg (o :: ·) ih
    | note | build | acquire | exec | kill | print => exact ih

/-- Of the life of an instance the operator sees the outcomes. -/
theorem Console.transcript_lifeOf (t : List Event) :
    transcript (lifeOf t) = String.join ((outcomesOf t).map outcome) := by
  induction t with
  | nil => rfl
  | cons e t ih =>
    cases e with
    | outcome o =>
      calc transcript (lifeOf (.outcome o :: t))
        _ = outcome o ++ transcript (lifeOf t) := String.join_cons
        _ = outcome o ++ String.join ((outcomesOf t).map outcome) := by rw [ih]
        _ = String.join ((outcomesOf (.outcome o :: t)).map outcome) := String.join_cons.symm
    | acquire | exec | kill => exact String.join_cons.trans (String.empty_append.trans ih)
    | note | build | print => exact ih

namespace Verifier

variable {σ : Type} (service : Service σ)

theorem outcomesOf_runCheck (g : Guard) (check : Check) (s : σ) :
    outcomesOf (runCheck service g check s).trace = [] := by
  unfold runCheck Guard.exec
  cases g.held with
  | true => simp [Event.outcome?]
  | false => simp [Event.outcome?]

/-- Checks have one outcome each, in their order, up to the one where the run stops; and if it does
not stop, these are the entries. -/
theorem outcomesOf_runChecks (g : Guard) (observer : Observer) (done : List Outcome)
    (checks : List (Check × CheckKind)) (s : σ) :
    let run := runChecks service g observer done checks s
    (outcomesOf run.trace).map (fun o => (o.check, o.kind)) <+: checks ∧
      ∀ entries, run.answer = .ok entries → entries = done ++ outcomesOf run.trace := by
  induction checks generalizing done s with
  | nil => simp [runChecks]
  | cons c rest ih =>
    obtain ⟨check, kind⟩ := c
    have hcheck := outcomesOf_runCheck service g check s
    cases h : (runCheck service g check s).answer with
    | error halt => simp [runChecks, h, hcheck]
    | ok output =>
      obtain ⟨hbegin, hentries⟩ :=
        ih (done ++ [⟨check, kind, output⟩]) (runCheck service g check s).state
      simp only [runChecks, Step.bind_apply, h]
      split
      · simp [hcheck, Event.outcome?]
      · refine ⟨?_, fun entries hanswer => ?_⟩
        · simpa [hcheck, Event.outcome?] using hbegin
        · rw [hentries entries hanswer]
          simp [hcheck, Event.outcome?]

theorem outcomesOf_runOn (name : String) (p : Plan) (observer : Observer) (i : String) (s : σ) :
    outcomesOf (runOn service name p observer i s).trace =
      outcomesOf (runChecks service (.hold i) observer [] (agenda p) s).trace := by
  have hlast (run : Except Halt (List Outcome)) (s : σ) :
      outcomesOf (conclude service name (.hold i) run s).trace = [] := by
    rw [← outcomesOf_lifeOf, lifeOf_conclude service rfl]
    rfl
  have hdrop (s : σ) : outcomesOf ((Guard.hold i).drop service s).trace = [] := by
    rw [← outcomesOf_lifeOf, Guard.lifeOf_drop]
    rfl
  simp only [runOn, Step.bind_apply, Step.log_apply, outcomesOf_append, outcomesOf_cons,
    outcomesOf_nil]
  -- only a panic leaves the kill to the end of the guard
  generalize runChecks service (.hold i) observer [] (agenda p) s = run
  rcases run with ⟨_, ⟨⟨e⟩ | ⟨⟩⟩ | entries, s'⟩
  · simp [Event.outcome?, hlast]
  · simp [Event.outcome?, hdrop]
  · simp [Event.outcome?, hlast]

theorem entries_of_runOn {name : String} {p : Plan} {observer : Observer} {i : String} {s : σ}
    {report : Report} (h : (runOn service name p observer i s).answer = .ok report) :
    report.entries = outcomesOf (runOn service name p observer i s).trace := by
  rw [outcomesOf_runOn]
  obtain ⟨-, hentries⟩ := outcomesOf_runChecks service (.hold i) observer [] (agenda p) s
  by_cases hpanic :
      (runChecks service (.hold i) observer [] (agenda p) s).answer = .error .panic
  · simp [runOn, hpanic] at h
  · rw [runOn_of_ne_panic service hpanic] at h
    have hreport := (conclude_of_held service (g := .hold i) rfl name _ _).1.symm.trans h
    cases hrun : (runChecks service (.hold i) observer [] (agenda p) s).answer with
    | error => rw [hrun] at hreport; cases hreport
    | ok entries =>
      rw [hrun] at hreport
      cases hreport
      exact hentries entries hrun

theorem outcomesOf_verify (name : String) (p : Plan) (capacity : Capacity) (observer : Observer)
    (s : σ) :
    let run := verify service name p capacity observer s
    (outcomesOf run.trace).map (fun o => (o.check, o.kind)) <+: agenda p ∧
      ∀ report, run.answer = .ok report → report.entries = outcomesOf run.trace := by
  cases hp : p.violation? with
  | some => simp [verify_of_violation hp]
  | none =>
    cases ha : (service.acquire name p.env capacity s).answer with
    | error => simp [verify_of_refused hp ha, Event.outcome?]
    | ok i =>
      have hbegin := (outcomesOf_runChecks service (.hold i) observer [] (agenda p)
        (service.acquire name p.env capacity s).state).1
      rw [verify_of_granted hp ha]
      simp only [outcomesOf_cons, outcomesOf_append, outcomesOf_map_note, List.nil_append,
        Event.outcome?, Option.toList_none]
      refine ⟨by rwa [outcomesOf_runOn], fun report h => entries_of_runOn service h⟩

end Verifier

namespace Console

/-- An outcome has the one or more lines that it should have exactly if its label, and of a failed
check the command too, is on one line; then they are the headline and the lines under it. What is
written of the outcomes of a run, which are those of its first checks and the entries of its report,
has the lines of all of them exactly if this holds of each. There are then as many headlines as
outcomes, and at most six lines for each. -/
theorem outcome_lines_iff {σ : Type} (service : Service σ) (name : String) (p : Plan)
    (capacity : Capacity) (observer : Observer) (s : σ) :
    let count (o : Outcome) :=
      if o.passed then 1 else 1 + min 5 (Text.linesOf o.output.stderr).length
    (∀ o : Outcome,
      let lines := writtenLines (outcome o)
      (lines.length = count o ↔ IsPlain o) ∧
      (lines.length = count o → lines = (headline o :: excerpt o).map String.toList)) ∧
    let run := Verifier.verify service name p capacity observer s
    let outcomes := outcomesOf run.trace
    let lines := writtenLines (transcript (lifeOf run.trace))
    (outcomes.map fun o => (o.check, o.kind)) <+: Verifier.agenda p ∧
    (∀ report, run.answer = .ok report → report.entries = outcomes) ∧
    (lines.length = (outcomes.map count).sum ↔ ∀ o ∈ outcomes, IsPlain o) ∧
    (lines.length = (outcomes.map count).sum →
      lines.countP isHeadline = outcomes.length ∧ lines.length ≤ 6 * outcomes.length) := by
  intro count
  have hcount (o : Outcome) : (block o).length = count o := by
    rw [length_block]
    simp only [count]
    split <;> rfl
  refine ⟨fun o => ?_, ?_⟩
  · intro lines
    have hlines : lines = writtenLines (String.join ([o].map outcome)) := by
      rw [List.map_singleton, String.join_cons, String.join_nil, String.append_empty]
    have hblock : [o].flatMap block = block o := List.append_nil _
    have hiff : lines.length = count o ↔ IsPlain o := by
      rw [hlines, ← hcount, ← hblock, length_writtenLines_iff, List.forall_mem_singleton]
    refine ⟨hiff, fun h => ?_⟩
    rw [hlines, writtenLines_of_isPlain (List.forall_mem_singleton.2 (hiff.1 h))]
    exact hblock
  · intro run outcomes lines
    obtain ⟨hbegin, hentries⟩ := Verifier.outcomesOf_verify service name p capacity observer s
    have hlines : lines = writtenLines (String.join (outcomes.map outcome)) :=
      congrArg writtenLines (transcript_lifeOf run.trace)
    have hiff : lines.length = (outcomes.map count).sum ↔ ∀ o ∈ outcomes, IsPlain o := by
      rw [hlines, ← length_writtenLines_iff, List.length_flatMap]
      simp only [hcount]
    refine ⟨hbegin, hentries, hiff, fun h => ?_⟩
    rw [hlines, writtenLines_of_isPlain (hiff.1 h)]
    exact ⟨countP_flatMap_block outcomes, length_flatMap_block_le outcomes⟩

/-- A command that ends in a line feed is accepted, and a failed check of it has an empty line where
none should be. -/
theorem outcome_lines_feed :
    let p : Plan := ⟨.empty, [⟨"x", "false\n"⟩], none⟩
    let o : Outcome := ⟨⟨"x", "false\n"⟩, .command, { exit := 1 }⟩
    p.violation? = none ∧ o.check ∈ p.allChecks ∧
      o ∈ outcomesOf (Verifier.verify Scripted.service "a" p {} .calm
        { execs := [.ok { exit := 1 }] }).trace ∧
      o.passed = false ∧
      (writtenLines (outcome o)).length ≠ 1 + min 5 (Text.linesOf o.output.stderr).length := by
  decide +kernel

end Console
end SandboxImage
