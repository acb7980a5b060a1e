import Mathlib.Data.List.Induction
import SandboxImage.EnvTable

/-!
# The last setting of a name

What is in a table after one more setting (`EnvTable.mem_insert_iff`), and so what is in the table
of a list of settings: of each name the last one, and nothing else (`EnvTable.mem_ofList_iff`).
-/

namespace SandboxImage.EnvTable

theorem mem_place_iff {name value : String} {l : List (String × String)} {e : String × String}
    (h : l.Pairwise fun a b => a.1 < b.1) :
    e ∈ place name value l ↔ e = (name, value) ∨ e ∈ l ∧ e.1 ≠ name := by
  induction l with
  | nil => simp [place]
  | cons a l ih =>
    obtain ⟨ha, hl⟩ := List.pairwise_cons.1 h
    unfold place
    split
    next hlt =>
      have hall : ∀ b ∈ a :: l, name < b.1 :=
        List.forall_mem_cons.2 ⟨hlt, fun b hb => String.lt_trans hlt (ha b hb)⟩
      rw [List.mem_cons]
      exact or_congr_right (iff_self_and.2 fun he => (String.ne_of_lt (hall e he)).symm)
    next hge =>
      split
      next hgt =>
        have hne : a.1 ≠ name := String.ne_of_lt hgt
        rw [List.mem_cons, List.mem_cons, ih hl]
        grind
      next hle =>
        have heq : a.1 = name := String.le_antisymm (String.not_lt.1 hge) (String.not_lt.1 hle)
        have hne : ∀ b ∈ l, b.1 ≠ name := fun b hb => heq ▸ (String.ne_of_lt (ha b hb)).symm
        rw [List.mem_cons, List.mem_cons]
        grind

theorem mem_insert_iff {t : EnvTable} {name value : String} {e : String × String} :
    e ∈ (t.insert name value).entries ↔ e = (name, value) ∨ e ∈ t.entries ∧ e.1 ≠ name :=
  mem_place_iff t.ascending

theorem ofList_concat (settings : List (String × String)) (s : String × String) :
    ofList (settings ++ [s]) = (ofList settings).insert s.1 s.2 :=
  List.foldl_append ..

/-- By induction from the end of the settings: the last one counts for its name, and the others for
theirs. -/
theorem mem_ofList_iff {settings : List (String × String)} {e : String × String} :
    e ∈ (ofList settings).entries ↔
      ∃ before after, settings = before ++ e :: after ∧ ∀ s ∈ after, s.1 ≠ e.1 := by
  induction settings using List.reverseRecOn with
  | nil => simp [ofList, empty]
  | append_singleton settings s ih =>
    rw [ofList_concat, mem_insert_iff, ih]
    constructor
    · rintro (rfl | ⟨⟨before, after, rfl, hafter⟩, hne⟩)
      · exact ⟨settings, [], rfl, List.forall_mem_nil _⟩
      · refine ⟨before, after ++ [s], by simp, List.forall_mem_append.2 ⟨hafter, ?_⟩⟩
        exact List.forall_mem_singleton.2 hne.symm
    · rintro ⟨before, after, hsettings, hafter⟩
      cases after using List.reverseRecOn with
      | nil =>
        obtain ⟨-, ⟨⟩⟩ := List.append_inj' hsettings rfl
        exact .inl rfl
      | append_singleton after s' =>
        rw [← List.cons_append, ← List.append_assoc] at hsettings
        obtain ⟨rfl, ⟨⟩⟩ := List.append_inj' hsettings rfl
        obtain ⟨hafter, hlast⟩ := List.forall_mem_append.1 hafter
        exact .inr ⟨⟨before, after, rfl, hafter⟩, (hlast s List.mem_cons_self).symm⟩

end SandboxImage.EnvTable
