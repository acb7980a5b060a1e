import Mathlib.Data.List.DropRight
import Mathlib.Data.List.TakeWhile
import SandboxImage.Text.Blank

/-!
# Texts without blanks at their ends

A text is its own trimmed form exactly if no blank stands first or last in it
(`Text.trim_eq_self_iff`). Blanks added at the ends are lost again (`Text.trim_append_blanks`), and
what is cut off at the end are blanks (`Text.exists_blanks_trimEnd`).
-/

namespace SandboxImage.Text

variable {s : List Char}

theorem trimEnd_eq_rdropWhile (s : List Char) : trimEnd s = s.rdropWhile isBlank := rfl

theorem exists_blanks_trimEnd (s : List Char) :
    ∃ blanks, blanks.all isBlank = true ∧ trimEnd s ++ blanks = s := by
  refine ⟨s.rtakeWhile isBlank, ?_, List.rdropWhile_append_rtakeWhile ..⟩
  exact List.all_eq_true.2 fun c hc => List.mem_rtakeWhile_imp hc

theorem trimStart_eq_self_iff : trimStart s = s ↔ ∀ c ∈ s.head?, isBlank c = false := by
  cases s with
  | nil => simp [trimStart]
  | cons c s => simp [trimStart, List.dropWhile_eq_self_iff]

theorem trimEnd_eq_self_iff : trimEnd s = s ↔ ∀ c ∈ s.getLast?, isBlank c = false := by
  rw [trimEnd_eq_rdropWhile, List.rdropWhile_eq_self_iff]
  cases s using List.reverseRecOn with
  | nil => simp
  | append_singleton s c => simp

theorem trim_eq_self_iff : trim s = s ↔
    (∀ c ∈ s.head?, isBlank c = false) ∧ ∀ c ∈ s.getLast?, isBlank c = false := by
  rw [← trimStart_eq_self_iff, ← trimEnd_eq_self_iff]
  constructor
  · intro h
    have hend : (trim s).length ≤ (trimStart s).length := (List.rdropWhile_prefix _ _).length_le
    have hstart : trimStart s <:+ s := List.dropWhile_suffix _
    rw [h] at hend
    have hself : trimStart s = s := hstart.eq_of_length_le hend
    exact ⟨hself, by rwa [trim, hself] at h⟩
  · rintro ⟨hstart, hend⟩
    rw [trim, hstart, hend]

section Parts

variable {t : List Char}

theorem trimStart_eq_self_congr (h : t <+: s) (hne : t ≠ []) :
    trimStart s = s ↔ trimStart t = t := by
  obtain ⟨rest, rfl⟩ := h
  rw [trimStart_eq_self_iff, trimStart_eq_self_iff, List.head?_append_of_ne_nil _ hne]

theorem trimEnd_eq_self_congr (h : t <:+ s) (hne : t ≠ []) :
    trimEnd s = s ↔ trimEnd t = t := by
  obtain ⟨front, rfl⟩ := h
  rw [trimEnd_eq_self_iff, trimEnd_eq_self_iff, List.getLast?_append_of_ne_nil _ hne]

theorem trimStart_of_trim_append (h : trim (s ++ t) = s ++ t) : trimStart s = s := by
  cases s with
  | nil => rfl
  | cons c s =>
    have hstart : trimStart (c :: s ++ t) = c :: s ++ t :=
      trimStart_eq_self_iff.2 (trim_eq_self_iff.1 h).1
    exact (trimStart_eq_self_congr ⟨t, rfl⟩ (List.cons_ne_nil c s)).1 hstart

theorem trimEnd_of_trim_append (h : trim (s ++ t) = s ++ t) : trimEnd t = t := by
  cases t with
  | nil => rfl
  | cons c t =>
    have hend : trimEnd (s ++ c :: t) = s ++ c :: t :=
      trimEnd_eq_self_iff.2 (trim_eq_self_iff.1 h).2
    exact (trimEnd_eq_self_congr ⟨s, rfl⟩ (List.cons_ne_nil c t)).1 hend

end Parts

theorem trim_append_blanks {b b' : List Char} (h : b.all isBlank = true)
    (h' : b'.all isBlank = true) (s : List Char) : trim (b ++ s ++ b') = trim s := by
  rw [List.append_assoc, trim, trimStart_append _ _ h, trim]
  by_cases hs : s.all isBlank = true
  · have hnone : trimStart s = [] := dropWhile_eq_nil_iff_all.2 hs
    have hnone' : trimStart b' = [] := dropWhile_eq_nil_iff_all.2 h'
    rw [trimStart_append _ _ hs, hnone, hnone']
  · have hsome : trimStart s ≠ [] := mt dropWhile_eq_nil_iff_all.1 hs
    have hrest : trimStart (s ++ b') = trimStart s ++ b' := by
      rw [trimStart, List.dropWhile_append, if_neg (by simpa [trimStart] using hsome)]
      rfl
    rw [hrest, trimEnd_append _ _ h']

end SandboxImage.Text
