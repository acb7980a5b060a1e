import SandboxImage.Proofs.Containerfile.Values
import SandboxImage.Proofs.Validation.Accepted

/-!
# Containerfiles read back

Reading the Containerfile of an accepted recipe gives its parts back
(`Recipe.containerfile_reads_back`). A line is read back if no line feed stands in it and no equals
sign in its names (`Instruction.Readable`); acceptance sees to that for all lines of a recipe
(`Recipe.Accepted.readable`).
-/

namespace SandboxImage
namespace Instruction

/-- A setting whose line ends where it should, and whose name does. -/
structure ReadableSetting (s : String × String) : Prop where
  equals : '=' ∉ s.1.toList
  name : '\n' ∉ s.1.toList
  value : '\n' ∉ s.2.toList

/-- An instruction that is read back from its line. -/
def Readable : Instruction → Prop
  | .base image => '\n' ∉ image.toList
  | .label settings => settings ≠ [] ∧ ∀ s ∈ settings, ReadableSetting s
  | .variable name value => ReadableSetting (name, value)
  | .user name => '\n' ∉ name.toList
  | .run _ => True

theorem mapValues_mapValues (f g : String → String) (i : Instruction) :
    (i.mapValues f).mapValues g = i.mapValues (g ∘ f) := by
  cases i with
  | label settings => simp [mapValues]
  | _ => rfl

theorem mapValues_id (i : Instruction) : i.mapValues id = i := by
  cases i with
  | label settings => simp [mapValues]
  | _ => rfl

theorem resolve_comp_written : resolve ∘ written = id := by
  funext value
  simp [resolve, written, Quoting.resolve_flatMap_quotedChar]

theorem map_resolve_written (is : List Instruction) :
    (is.map (mapValues written)).map (mapValues resolve) = is := by
  induction is with
  | nil => rfl
  | cons i is ih =>
    rw [List.map_cons, List.map_cons, mapValues_mapValues, resolve_comp_written, mapValues_id, ih]

/-- No value of a line stands for anything but itself. -/
theorem plain_of_mem_values {i : Instruction} {value : String}
    (hvalue : value ∈ (i.mapValues written).values) {c : Char}
    (hc : c ∈ Quoting.bare value.toList) : c ≠ '$' ∧ c ≠ '"' ∧ c ≠ '\\' := by
  obtain ⟨v, rfl⟩ : ∃ v, value = written v := by
    cases i with
    | label settings =>
      simp only [mapValues, values, List.map_map, List.mem_map] at hvalue
      obtain ⟨s, -, rfl⟩ := hvalue
      exact ⟨s.2, rfl⟩
    | «variable» name v => exact ⟨v, by simpa [mapValues, values] using hvalue⟩
    | base | user | run => cases hvalue
  rw [written, String.toList_ofList] at hc
  exact Quoting.plain_of_mem_bare hc

/-! ## Lines -/

theorem read?_line {i : Instruction} (h : i.Readable) :
    read? i.line = some (i.mapValues written) := by
  cases i with
  | base image =>
    change some (base (String.ofList image.toList)) = some (base image)
    rw [String.ofList_toList]
  | label settings =>
    change (Quoting.settings? ((settings.map setting).intersperse [' ']).flatten).map label = _
    rw [Quoting.settings?_intersperse h.1 fun s hs => (h.2 s hs).equals]
    rfl
  | «variable» name value =>
    have hsettings := Quoting.settings?_intersperse (List.cons_ne_nil (name, value) []) fun s hs =>
      (List.mem_singleton.1 hs) ▸ h.equals
    rw [List.map_singleton, List.intersperse_singleton, List.flatten_singleton] at hsettings
    change (Quoting.settings? (setting (name, value))).bind ofSettings? = _
    rw [hsettings]
    rfl
  | user name =>
    change some (user (String.ofList name.toList)) = some (user name)
    rw [String.ofList_toList]
  | run arguments =>
    change (Json.array? (jsonArray arguments)).map run = some (run arguments)
    rw [Json.array?_jsonArray]
    rfl

theorem newline_not_mem_quoted {value : String} (h : '\n' ∉ value.toList) :
    '\n' ∉ quoted value := by
  have hvalue : '\n' ∉ value.toList.flatMap quotedChar := by
    intro hmem
    obtain ⟨c, hc, hmem⟩ := List.mem_flatMap.1 hmem
    have heq : '\n' = c := by
      unfold quotedChar at hmem
      split at hmem <;> simpa using hmem
    exact h (heq ▸ hc)
  simp [quoted, hvalue]

theorem newline_not_mem_setting {s : String × String} (h : ReadableSetting s) :
    '\n' ∉ setting s := by
  simp [setting, h.name, newline_not_mem_quoted h.value]

theorem newline_not_mem_jsonChar (c : Char) : '\n' ∉ jsonChar c := by
  unfold jsonChar
  split
  case h_8 hfeed _ _ _ _ =>
    split
    next hcontrol =>
      -- the two digits are all that could be a line feed in an escape
      have hhigh : ∀ k : Fin 16, '\n' ≠ Nat.digitChar k := by decide
      have hdiv := hhigh ⟨c.toNat / 16, by omega⟩
      have hmod := hhigh ⟨c.toNat % 16, by omega⟩
      simp only [List.mem_cons, List.not_mem_nil, or_false, not_or]
      exact ⟨by decide, by decide, by decide, by decide, hdiv, hmod⟩
    next => simpa using Ne.symm hfeed
  all_goals decide

theorem not_mem_intersperse {c : Char} {sep : List Char} {parts : List (List Char)}
    (hsep : c ∉ sep) (h : ∀ p ∈ parts, c ∉ p) : c ∉ (parts.intersperse sep).flatten := by
  induction parts with
  | nil => exact List.not_mem_nil
  | cons p parts ih =>
    have hp := h p List.mem_cons_self
    have ih := ih fun q hq => h q (List.mem_cons_of_mem _ hq)
    cases parts with
    | nil => simpa using hp
    | cons q parts =>
      rw [List.intersperse_cons_cons, List.flatten_cons, List.flatten_cons]
      simp only [List.mem_append, not_or]
      exact ⟨hp, hsep, ih⟩

theorem newline_not_mem_jsonArray (texts : List String) : '\n' ∉ jsonArray texts := by
  have htexts : '\n' ∉ ((texts.map jsonText).intersperse [',']).flatten := by
    refine not_mem_intersperse (by decide) fun p hp => ?_
    obtain ⟨t, -, rfl⟩ := List.mem_map.1 hp
    simp [jsonText, newline_not_mem_jsonChar]
  simp [jsonArray, htexts]

/-- The line of a readable instruction is one line. -/
theorem newline_not_mem_line {i : Instruction} (h : i.Readable) : '\n' ∉ i.line := by
  cases i with
  | base image | user name => exact List.not_mem_append (by decide) h
  | label settings =>
    refine List.not_mem_append (by decide) (not_mem_intersperse (by decide) fun p hp => ?_)
    obtain ⟨s, hs, rfl⟩ := List.mem_map.1 hp
    exact newline_not_mem_setting (h.2 s hs)
  | «variable» name value => exact List.not_mem_append (by decide) (newline_not_mem_setting h)
  | run arguments => exact List.not_mem_append (by decide) (newline_not_mem_jsonArray arguments)

theorem mapM_read?_line {is : List Instruction} (h : ∀ i ∈ is, i.Readable) :
    (is.map line).mapM read? = some (is.map (mapValues written)) := by
  induction is with
  | nil => rfl
  | cons i is ih =>
    rw [List.map_cons, List.mapM_cons, read?_line (h i List.mem_cons_self),
      ih fun j hj => h j (List.mem_cons_of_mem _ hj)]
    rfl

/-- Instructions are read back from their lines, and only their values look otherwise. -/
theorem readAll?_lines {is : List Instruction} (h : ∀ i ∈ is, i.Readable) :
    readAll? (String.ofList (is.flatMap fun i => i.line ++ ['\n'])) =
      some (is.map (mapValues written)) := by
  have hlines : ∀ l ∈ is.map line, '\n' ∉ l := by
    intro l hl
    obtain ⟨i, hi, rfl⟩ := List.mem_map.1 hl
    exact newline_not_mem_line (h i hi)
  have hpieces := Text.pieces_flatMap hlines
  rw [List.flatMap_map] at hpieces
  simp only [readAll?, String.toList_ofList, hpieces, List.getLast?_concat, if_true,
    List.dropLast_concat]
  exact mapM_read?_line h

end Instruction

/-! ## Recipes -/

namespace Contents

theorem takeEnv_append (env : List (String × String)) (user : String) (is : List Instruction) :
    takeEnv ((env.map fun e => .variable e.1 e.2) ++ .user user :: is) =
      (env, .user user :: is) := by
  induction env with
  | nil => rfl
  | cons e env ih =>
    rw [List.map_cons, List.cons_append, takeEnv, ih]

theorem runs?_map (arguments : List (List String)) :
    runs? (arguments.map .run) = some arguments := by
  induction arguments with
  | nil => rfl
  | cons a arguments ih => simp [runs?, ih]

end Contents

namespace Recipe

/-- What the Containerfile of a recipe says. -/
def contents (r : Recipe) (name fingerprint : String) : Contents where
  name := name
  fingerprint := fingerprint
  base := r.base
  env := r.env.entries
  user := r.user
  runs := r.steps.map fun step => ["/bin/sh", "-c", step]

theorem ofInstructions?_instructions (r : Recipe) (name fingerprint : String) :
    Contents.ofInstructions? (r.instructions name fingerprint) =
      some (r.contents name fingerprint) := by
  have hruns := Contents.runs?_map (r.steps.map fun step => ["/bin/sh", "-c", step])
  rw [List.map_map] at hruns
  simp only [instructions, Contents.ofInstructions?, List.cons_append, Contents.takeEnv_append,
    and_self, if_true]
  exact congrArg _ hruns

theorem contents_inj {r r' : Recipe} {name name' fingerprint fingerprint' : String}
    (h : r.contents name fingerprint = r'.contents name' fingerprint') :
    r = r' ∧ name = name' ∧ fingerprint = fingerprint' := by
  obtain ⟨base, user, ⟨entries, hentries⟩, steps⟩ := r
  obtain ⟨base', user', ⟨entries', hentries'⟩, steps'⟩ := r'
  simp only [contents, Contents.mk.injEq] at h
  obtain ⟨hname, hfingerprint, rfl, rfl, rfl, hruns⟩ := h
  obtain rfl : steps = steps' := by
    refine (List.map_inj_right fun s t hst => ?_).1 hruns
    simpa using hst
  exact ⟨rfl, hname, hfingerprint⟩

theorem Accepted.readable {r : Recipe} (hr : r.Accepted) {name fingerprint : String}
    (hname : '\n' ∉ name.toList) (hfingerprint : '\n' ∉ fingerprint.toList) :
    ∀ i ∈ r.instructions name fingerprint, i.Readable := by
  intro i hi
  simp only [instructions, List.cons_append, List.mem_cons, List.mem_append, List.mem_map] at hi
  rcases hi with rfl | rfl | ⟨e, he, rfl⟩ | rfl | ⟨step, -, rfl⟩
  · exact not_mem_of_wordFault hr.base (by decide)
  · refine ⟨List.cons_ne_nil _ _, fun s hs => ?_⟩
    have hnameLabel : '=' ∉ nameLabel.toList ∧ '\n' ∉ nameLabel.toList := by decide
    have hprintLabel : '=' ∉ fingerprintLabel.toList ∧ '\n' ∉ fingerprintLabel.toList := by decide
    simp only [List.mem_cons, List.not_mem_nil, or_false] at hs
    rcases hs with rfl | rfl
    · exact ⟨hnameLabel.1, hnameLabel.2, hname⟩
    · exact ⟨hprintLabel.1, hprintLabel.2, hfingerprint⟩
  · have hcontinues : ∀ c ∈ e.1.toList, continuesName c = true := fun c =>
      continuesName_of_mem (isVariableName_of_entryFault (hr.env e he))
    refine ⟨fun h => ?_, fun h => ?_, fun h => ?_⟩
    · exact absurd (hcontinues _ h) (by decide)
    · exact absurd (hcontinues _ h) (by decide)
    · exact (ne_of_mem_plainValue (isPlainValue_of_entryFault (hr.env e he)) h).1 rfl
  · exact not_mem_of_wordFault hr.user (by decide)
  · trivial

theorem Accepted.readAll?_containerfile {r : Recipe} (hr : r.Accepted) {name fingerprint : String}
    (hname : '\n' ∉ name.toList) (hfingerprint : '\n' ∉ fingerprint.toList) :
    Instruction.readAll? (r.containerfile name fingerprint) =
      some ((r.instructions name fingerprint).map (Instruction.mapValues Instruction.written)) :=
  Instruction.readAll?_lines (hr.readable hname hfingerprint)

theorem Accepted.read?_containerfile {r : Recipe} (hr : r.Accepted) {name fingerprint : String}
    (hname : '\n' ∉ name.toList) (hfingerprint : '\n' ∉ fingerprint.toList) :
    Contents.read? (r.containerfile name fingerprint) = some (r.contents name fingerprint) := by
  rw [Contents.read?, hr.readAll?_containerfile hname hfingerprint]
  simp only [Instruction.map_resolve_written]
  exact ofInstructions?_instructions r name fingerprint

/-- The Containerfile of an accepted recipe is read back as its parts; what it quotes holds nothing
that stands for something else, and no other recipe has this Containerfile. -/
theorem containerfile_reads_back {r : Recipe} (hr : r.validate.violation = none)
    {name fingerprint : String} (hname : '\n' ∉ name.toList)
    (hfingerprint : '\n' ∉ fingerprint.toList) :
    Contents.read? (r.containerfile name fingerprint) =
      some ⟨name, fingerprint, r.base, r.env.entries, r.user,
        r.steps.map fun step => ["/bin/sh", "-c", step]⟩ ∧
    (∀ is, Instruction.readAll? (r.containerfile name fingerprint) = some is →
      ∀ i ∈ is, ∀ value ∈ i.values, ∀ c ∈ Quoting.bare value.toList,
        c ≠ '$' ∧ c ≠ '"' ∧ c ≠ '\\') ∧
    ∀ (r' : Recipe) (name' fingerprint' : String), r'.validate.violation = none →
      '\n' ∉ name'.toList → '\n' ∉ fingerprint'.toList →
      r.containerfile name fingerprint = r'.containerfile name' fingerprint' →
      r = r' ∧ name = name' ∧ fingerprint = fingerprint' := by
  have hr := Accepted.of_validate hr
  refine ⟨hr.read?_containerfile hname hfingerprint, ?_, ?_⟩
  · intro is his i hi value hvalue c hc
    rw [hr.readAll?_containerfile hname hfingerprint, Option.some.injEq] at his
    subst his
    obtain ⟨j, -, rfl⟩ := List.mem_map.1 hi
    exact Instruction.plain_of_mem_values hvalue hc
  · intro r' name' fingerprint' hr' hname' hfingerprint' heq
    have hread := hr.read?_containerfile hname hfingerprint
    rw [heq, (Accepted.of_validate hr').read?_containerfile hname' hfingerprint'] at hread
    exact contents_inj (Option.some.inj hread).symm

/-- A recipe with what has to be escaped in its variable and in its step. -/
def thorny : Recipe where
  base := "debian:12"
  user := "root"
  env := ⟨[("A", "\\$HOME=\""), ("B_2", "a\\nb")], by decide⟩
  steps := ["echo \"$A\" >> '/x'", "cat <<E\n\t\x07E"]

theorem containerfile_reads_back_thorny :
    Contents.read? (thorny.containerfile "my \"image\"" "e$0") =
      some ⟨"my \"image\"", "e$0", "debian:12", [("A", "\\$HOME=\""), ("B_2", "a\\nb")], "root",
        [["/bin/sh", "-c", "echo \"$A\" >> '/x'"], ["/bin/sh", "-c", "cat <<E\n\t\x07E"]]⟩ ∧
    (∀ is, Instruction.readAll? (thorny.containerfile "my \"image\"" "e$0") = some is →
      ∀ i ∈ is, ∀ value ∈ i.values, ∀ c ∈ Quoting.bare value.toList,
        c ≠ '$' ∧ c ≠ '"' ∧ c ≠ '\\') ∧
    ∀ (r' : Recipe) (name' fingerprint' : String), r'.validate.violation = none →
      '\n' ∉ name'.toList → '\n' ∉ fingerprint'.toList →
      thorny.containerfile "my \"image\"" "e$0" = r'.containerfile name' fingerprint' →
      thorny = r' ∧ "my \"image\"" = name' ∧ "e$0" = fingerprint' :=
  containerfile_reads_back (by decide) (by decide) (by decide)

end Recipe
end SandboxImage
