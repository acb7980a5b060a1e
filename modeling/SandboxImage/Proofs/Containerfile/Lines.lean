import SandboxImage.Builder
import SandboxImage.Proofs.Containerfile.RoundTrip
import SandboxImage.Proofs.Digest.Delimited
import SandboxImage.Proofs.Podman.Starts
import SandboxImage.Proofs.Podman.Workspaces

/-!
# Logical lines of a Containerfile

A builder reads a line that ends in a backslash together with the next one. The Containerfile of an
accepted recipe has one such logical line for each instruction, unless a line feed stands in the
name of the image or a backslash ends its base or its user, which nothing refuses
(`Recipe.logicalLines_containerfile_iff`). Variables and steps cannot do this.
-/

namespace SandboxImage
namespace Containerfile

/-- The line goes on with the next one. -/
def continues (line : List Char) : Bool := line.getLast? == some '\\'

/-- Lines, of which those that end in a backslash have been joined with the next one. -/
def joined : List (List Char) → List (List Char)
  | [] => []
  | line :: rest =>
    if continues line then (line.dropLast ++ (joined rest).headD []) :: (joined rest).drop 1
    else line :: joined rest

/-- The lines of a text, each ended by a line feed. -/
def physicalLines (text : List Char) : List (List Char) :=
  let ps := Text.pieces '\n' text
  if ps.getLast? = some [] then ps.dropLast else ps

/-- The lines of a text as the builder reads them. -/
def logicalLines (text : String) : List (List Char) := joined (physicalLines text.toList)

/-- The word in front of a line. -/
def keyword (line : List Char) : String := String.ofList (line.takeWhile (· != ' '))

theorem joined_of_continues {line : List Char} (h : continues line = true)
    (rest : List (List Char)) :
    joined (line :: rest) =
      (line.dropLast ++ (joined rest).headD []) :: (joined rest).drop 1 := by
  rw [joined, if_pos h]

theorem joined_of_not_continues {line : List Char} (h : continues line = false)
    (rest : List (List Char)) : joined (line :: rest) = line :: joined rest := by
  rw [joined, if_neg (by simp [h])]

theorem length_joined_le (lines : List (List Char)) :
    (joined lines).length ≤ lines.length := by
  induction lines with
  | nil => exact Nat.le_refl 0
  | cons line rest ih =>
    cases h : continues line with
    | true =>
      rw [joined_of_continues h, List.length_cons, List.length_cons, List.length_drop]
      omega
    | false =>
      rw [joined_of_not_continues h]
      exact Nat.succ_le_succ ih

/-- Joining changes a text of lines exactly if one of them goes on. -/
theorem joined_eq_self_iff {lines : List (List Char)} :
    joined lines = lines ↔ ∀ line ∈ lines, continues line = false := by
  induction lines with
  | nil => simp [joined]
  | cons line rest ih =>
    rw [List.forall_mem_cons]
    cases h : continues line with
    | false => simp [joined_of_not_continues h, ih]
    | true =>
      refine iff_of_false (fun heq => ?_) (by simp)
      rw [joined_of_continues h] at heq
      obtain ⟨hline, hrest⟩ := List.cons.inj heq
      -- a line is lost, so it must have been the last one
      have hnil : rest = [] := by
        have hlength := congrArg List.length hrest
        have hle := length_joined_le rest
        rw [List.length_drop] at hlength
        exact List.length_eq_zero_iff.1 (by omega)
      subst hnil
      have hlast : line = [] := by
        have hlength := congrArg List.length hline
        simp only [joined, List.headD_nil, List.append_nil, List.length_dropLast] at hlength
        exact List.length_eq_zero_iff.1 (by omega)
      rw [hlast] at h
      exact absurd h (by decide)

theorem not_mem_of_mem_joined {c : Char} {lines : List (List Char)}
    (h : ∀ line ∈ lines, c ∉ line) : ∀ line ∈ joined lines, c ∉ line := by
  induction lines with
  | nil => exact h
  | cons line rest ih =>
    obtain ⟨hline, hrest⟩ := List.forall_mem_cons.1 h
    have ih := ih hrest
    cases hcontinues : continues line with
    | false =>
      rw [joined_of_not_continues hcontinues]
      exact List.forall_mem_cons.2 ⟨hline, ih⟩
    | true =>
      rw [joined_of_continues hcontinues]
      refine List.forall_mem_cons.2 ⟨List.not_mem_append ?_ ?_, fun l hl => ih l ?_⟩
      · exact fun hmem => hline ((List.dropLast_sublist line).subset hmem)
      · cases hjoined : joined rest with
        | nil => exact List.not_mem_nil
        | cons next more => exact ih next (hjoined ▸ List.mem_cons_self)
      · exact (List.drop_sublist 1 _).subset hl

theorem newline_not_mem_logicalLines {text : String} {line : List Char}
    (h : line ∈ logicalLines text) : '\n' ∉ line := by
  refine not_mem_of_mem_joined (fun l hl => Text.not_mem_of_mem_pieces (s := text.toList) ?_) line h
  unfold physicalLines at hl
  simp only at hl
  split at hl
  · exact (List.dropLast_sublist _).subset hl
  · exact hl

theorem logicalLines_containerfile (r : Recipe) (name fingerprint : String) :
    logicalLines (r.containerfile name fingerprint) =
      joined (physicalLines ((r.instructions name fingerprint).flatMap
        fun i => i.line ++ ['\n'])) := by
  rw [logicalLines, Recipe.containerfile, String.toList_ofList]

theorem physicalLines_flatMap {lines : List (List Char)} (h : ∀ line ∈ lines, '\n' ∉ line) :
    physicalLines (lines.flatMap (· ++ ['\n'])) = lines := by
  have hpieces := Text.pieces_flatMap h
  simp only [physicalLines, hpieces, List.getLast?_concat, if_true, List.dropLast_concat]

end Containerfile

open Containerfile

/-! ## Lines of instructions -/

namespace Instruction

theorem mem_quoted {c : Char} {value : String} (h : c ∈ value.toList) : c ∈ quoted value := by
  have hc : c ∈ quotedChar c := by
    unfold quotedChar
    split <;> simp
  have hmem : c ∈ value.toList.flatMap quotedChar := List.mem_flatMap.2 ⟨c, h, hc⟩
  simp [quoted, hmem]

theorem mem_intersperse {part sep : List Char} {parts : List (List Char)} (h : part ∈ parts) :
    part ∈ parts.intersperse sep := by
  induction parts with
  | nil => exact h
  | cons p parts ih =>
    cases parts with
    | nil => exact h
    | cons q parts =>
      rw [List.intersperse_cons_cons]
      rcases List.mem_cons.1 h with rfl | h
      · exact List.mem_cons_self
      · exact List.mem_cons_of_mem _ (List.mem_cons_of_mem _ (ih h))

theorem mem_line_label {settings : List (String × String)} {s : String × String}
    (hs : s ∈ settings) {c : Char} (hc : c ∈ s.2.toList) : c ∈ (label settings).line := by
  have hsetting : c ∈ setting s :=
    List.mem_append_right _ (List.mem_cons_of_mem _ (mem_quoted hc))
  have hpart : setting s ∈ (settings.map setting).intersperse [' '] :=
    mem_intersperse (List.mem_map_of_mem hs)
  exact List.mem_append_right _ (List.mem_flatten.2 ⟨_, hpart, hsetting⟩)

/-- The keyword of an instruction. -/
def keyword : Instruction → String
  | .base _ => "FROM"
  | .label _ => "LABEL"
  | .variable _ _ => "ENV"
  | .user _ => "USER"
  | .run _ => "RUN"

theorem keyword_line (i : Instruction) : Containerfile.keyword i.line = i.keyword := by
  cases i <;> rfl

/-- What stands at the end of an instruction's line as it is, without quotes around it. -/
def bareEnd : Instruction → List Char
  | .base image => image.toList
  | .user name => name.toList
  | .label _ | .variable _ _ | .run _ => []

theorem continues_append {front : List Char} (h : continues front = false) (line : List Char) :
    continues (front ++ line) = continues line := by
  cases line with
  | nil => rw [List.append_nil, h]; rfl
  | cons c line =>
    rw [continues, continues, List.getLast?_append_of_ne_nil _ (List.cons_ne_nil c line)]

theorem not_continues_concat (line : List Char) {c : Char} (h : c ≠ '\\') :
    continues (line ++ [c]) = false := by
  simp [continues, h]

theorem not_continues_setting (s : String × String) : continues (setting s) = false := by
  have hequals : continues (s.1.toList ++ ['=']) = false := not_continues_concat _ (by decide)
  have hquoted : continues (quoted s.2) = false := not_continues_concat ('"' :: _) (by decide)
  have h : setting s = (s.1.toList ++ ['=']) ++ quoted s.2 := by simp [setting]
  rw [h, continues_append hequals, hquoted]

theorem not_continues_settings (settings : List (String × String)) :
    continues ((settings.map setting).intersperse [' ']).flatten = false := by
  induction settings with
  | nil => rfl
  | cons s rest ih =>
    cases rest with
    | nil => simpa using not_continues_setting s
    | cons next rest =>
      have hspace : continues (setting s ++ [' ']) = false := not_continues_concat _ (by decide)
      rw [List.map_cons, List.map_cons, List.intersperse_cons_cons, List.flatten_cons,
        List.flatten_cons, ← List.append_assoc, continues_append hspace]
      exact ih

/-- Only what is written as it is can end in a backslash. -/
theorem continues_line (i : Instruction) : continues i.line = continues i.bareEnd := by
  cases i with
  | base image | user name => exact continues_append (by decide) _
  | label settings =>
    exact (continues_append (by decide) _).trans (not_continues_settings settings)
  | «variable» name value =>
    exact (continues_append (by decide) _).trans (not_continues_setting (name, value))
  | run arguments =>
    refine (continues_append (by decide) _).trans ?_
    exact not_continues_concat ('[' :: _) (by decide)

end Instruction

namespace Recipe

variable {r : Recipe} {name fingerprint : String}

theorem continues_instructions_iff :
    (∀ i ∈ r.instructions name fingerprint, continues i.line = false) ↔
      continues r.base.toList = false ∧ continues r.user.toList = false := by
  constructor
  · intro h
    have hbase := h (.base r.base) (by simp [instructions])
    have huser := h (.user r.user) (by simp [instructions])
    rw [Instruction.continues_line] at hbase huser
    exact ⟨hbase, huser⟩
  · rintro ⟨hbase, huser⟩ i hi
    rw [Instruction.continues_line]
    simp only [instructions, List.cons_append, List.mem_cons, List.mem_append, List.mem_map] at hi
    rcases hi with rfl | rfl | ⟨e, -, rfl⟩ | rfl | ⟨step, -, rfl⟩
    · exact hbase
    · rfl
    · rfl
    · exact huser
    · rfl

/-- The lines are those of the instructions unless the name of the image breaks its own, or the
base or the user goes on with the next one. -/
theorem logicalLines_containerfile_iff (hr : r.Accepted) (name : String)
    (hfingerprint : '\n' ∉ fingerprint.toList) :
    logicalLines (r.containerfile name fingerprint) =
        (r.instructions name fingerprint).map Instruction.line ↔
      '\n' ∉ name.toList ∧ continues r.base.toList = false ∧
        continues r.user.toList = false := by
  by_cases hname : '\n' ∈ name.toList
  · refine iff_of_false (fun heq => ?_) (fun h => h.1 hname)
    have hlabel : (Instruction.label [(nameLabel, name), (fingerprintLabel, fingerprint)]).line ∈
        logicalLines (r.containerfile name fingerprint) := by
      rw [heq]
      exact List.mem_map_of_mem (by simp [instructions])
    exact newline_not_mem_logicalLines hlabel (Instruction.mem_line_label List.mem_cons_self hname)
  · have hlines : ∀ line ∈ (r.instructions name fingerprint).map Instruction.line,
        '\n' ∉ line := by
      intro line hline
      obtain ⟨i, hi, rfl⟩ := List.mem_map.1 hline
      exact Instruction.newline_not_mem_line (hr.readable hname hfingerprint i hi)
    have hphysical := physicalLines_flatMap hlines
    rw [List.flatMap_map] at hphysical
    rw [logicalLines_containerfile, hphysical, joined_eq_self_iff, List.forall_mem_map,
      continues_instructions_iff, and_iff_right hname]

/-- The keywords of the instructions: the variables before the user, the steps behind it. -/
def keywords (r : Recipe) : List String :=
  ["FROM", "LABEL"] ++ List.replicate r.env.entries.length "ENV" ++ ["USER"] ++
    List.replicate r.steps.length "RUN"

theorem keyword_line_instructions :
    ((r.instructions name fingerprint).map Instruction.line).map keyword = r.keywords := by
  have hkeyword : keyword ∘ Instruction.line = Instruction.keyword :=
    funext Instruction.keyword_line
  have henv : Instruction.keyword ∘ (fun e : String × String => .variable e.1 e.2) =
      Function.const _ "ENV" := rfl
  have hsteps : Instruction.keyword ∘ (fun step => .run ["/bin/sh", "-c", step]) =
      Function.const _ "RUN" := rfl
  rw [List.map_map, hkeyword]
  simp [instructions, keywords, henv, hsteps, List.map_const, Instruction.keyword]

theorem newline_not_mem_fingerprint (r : Recipe) : '\n' ∉ r.fingerprint.toList := by
  have hdigit : ∀ k : Fin 16, '\n' ≠ Nat.digitChar k := by decide
  rw [fingerprint, String.toList_ofList]
  intro hmem
  obtain ⟨k, hk⟩ := Blake3.exists_of_mem_hexDigest hmem
  exact hdigit k hk

end Recipe

/-! ## What is submitted -/

namespace Builder

theorem accepted_of_verdict {name : String} {r : Recipe} (h : (verdict name r).violation = none) :
    r.Accepted := by
  unfold verdict at h
  split at h
  · cases h
  · exact Recipe.Accepted.of_validate h

/-- What a build that has its directory is told to read is the Containerfile of its recipe. -/
theorem containerfile_of_mem_started {name : String} {r : Recipe}
    (h : (verdict name r).violation = none) (c : Podman.Connection) (capacity : Capacity)
    (m : Podman.Machine) : ∀ s ∈ started (build c.service name r capacity m).trace,
      s.containerfile = some (r.containerfile name r.fingerprint) := by
  intro s hs
  cases hprepared : m.workspace.prepared with
  | error e =>
    rw [c.started_build_of_unprepared h capacity hprepared] at hs
    cases hs
  | ok directory =>
    rw [c.started_build_of_prepared h capacity hprepared] at hs
    rw [List.mem_singleton.1 hs]
    exact c.containerfile_build ..

/-- For a request that is accepted podman is started once, unless the system hinders the build
before. What podman is told to read is, read as the builder does, line for line what the
instructions of the recipe are, exactly if no line feed stands in the name and neither the base nor
the user ends in a backslash; then there is one line for each instruction. Nothing refuses a request
that breaks this. Whatever the variables and the steps are, they stay on their lines. -/
theorem build_submits_lines {name : String} {r : Recipe} (h : (verdict name r).violation = none)
    (c : Podman.Connection) (capacity : Capacity) (m : Podman.Machine) :
    let starts := started (build c.service name r capacity m).trace
    ((∃ s, starts = [s]) ∨ starts = [] ∧ ∃ e, m.workspace.Hinders e) ∧
    ∀ s ∈ starts, ∃ text, s.containerfile = some text ∧
      (logicalLines text = (r.instructions name r.fingerprint).map Instruction.line ↔
        '\n' ∉ name.toList ∧ r.base.toList.getLast? ≠ some '\\' ∧
          r.user.toList.getLast? ≠ some '\\') ∧
      ('\n' ∉ name.toList → r.base.toList.getLast? ≠ some '\\' →
        r.user.toList.getLast? ≠ some '\\' →
        (logicalLines text).map keyword = ["FROM", "LABEL"] ++
          List.replicate r.env.entries.length "ENV" ++ ["USER"] ++
          List.replicate r.steps.length "RUN") := by
  intro starts
  have hlines := Recipe.logicalLines_containerfile_iff (accepted_of_verdict h) name
    r.newline_not_mem_fingerprint
  simp only [continues, beq_eq_false_iff_ne] at hlines
  refine ⟨?_, fun s hs => ⟨_, containerfile_of_mem_started h c capacity m s hs, hlines,
    fun hname hbase huser => ?_⟩⟩
  · obtain ⟨e, hhinders⟩ | ⟨directory, hprepared⟩ := m.workspace.hinders_or_prepared
    · have hstarts := c.started_build_of_unprepared h capacity hhinders.prepared_eq
      exact .inr ⟨hstarts, e, hhinders⟩
    · exact .inl ⟨_, c.started_build_of_prepared h capacity hprepared⟩
  · rw [hlines.2 ⟨hname, hbase, huser⟩]
    exact Recipe.keyword_line_instructions

/-- A recipe of one step. -/
def plain (base : String) : Recipe := ⟨base, "root", .empty, ["true"]⟩

theorem exists_start_answering {name : String} {r : Recipe}
    (h : (verdict name r).violation = none) (c : Podman.Connection) (response : Podman.Response) :
    ∃ s, started (build c.service name r {} (Podman.answering response)).trace = [s] :=
  ⟨_, c.started_build_of_prepared h {} (Podman.prepared_answering response)⟩

theorem build_submits_lines_plain :
    let c : Podman.Connection := ⟨none, ⟨"robot", "hunter2"⟩⟩
    let obliging := Podman.answering {}
    (verdict "app" (plain "debian")).violation = none ∧
      ∃ s text, started (build c.service "app" (plain "debian") {} obliging).trace = [s] ∧
        s.containerfile = some text ∧
        (logicalLines text).map keyword = ["FROM", "LABEL", "USER", "RUN"] := by
  intro c obliging
  have h : (verdict "app" (plain "debian")).violation = none := by decide
  obtain ⟨s, hs⟩ := exists_start_answering h c {}
  obtain ⟨-, htexts⟩ := build_submits_lines h c {} obliging
  obtain ⟨text, htext, -, hkeywords⟩ := htexts s (hs ▸ List.mem_singleton_self s)
  exact ⟨h, s, text, hs, htext, hkeywords (by decide) (by decide) (by decide)⟩

/-- A name that adds an instruction, and a base that takes one away. -/
theorem build_submits_lines_broken :
    let c : Podman.Connection := ⟨none, ⟨"robot", "hunter2"⟩⟩
    let obliging := Podman.answering {}
    ((verdict "a\nRUN touch /x" (plain "debian")).violation = none ∧
      ∃ s text,
        started (build c.service "a\nRUN touch /x" (plain "debian") {} obliging).trace = [s] ∧
        s.containerfile = some text ∧
        (logicalLines text).map keyword = ["FROM", "LABEL", "RUN", "USER", "RUN"]) ∧
    (verdict "a" (plain "debian\\")).violation = none ∧
      ∃ s text, started (build c.service "a" (plain "debian\\") {} obliging).trace = [s] ∧
        s.containerfile = some text ∧
        (logicalLines text).map keyword = ["FROM", "USER", "RUN"] := by
  intro c obliging
  have hname : (verdict "a\nRUN touch /x" (plain "debian")).violation = none := by decide
  have hbase : (verdict "a" (plain "debian\\")).violation = none := by decide
  have htext {name : String} {r : Recipe} {s : Start} (h : (verdict name r).violation = none)
      (hs : started (build c.service name r {} obliging).trace = [s]) :
      s.containerfile = some (r.containerfile name r.fingerprint) :=
    containerfile_of_mem_started h c {} obliging s (hs ▸ List.mem_singleton_self s)
  obtain ⟨s, hs⟩ := exists_start_answering hname c {}
  obtain ⟨s', hs'⟩ := exists_start_answering hbase c {}
  refine ⟨⟨hname, s, _, hs, htext hname hs, ?_⟩, hbase, s', _, hs', htext hbase hs', ?_⟩
  · rw [logicalLines_containerfile]
    decide +kernel
  · rw [logicalLines_containerfile]
    decide +kernel

end Builder
end SandboxImage
