import Mathlib.Data.List.Basic
import SandboxImage.Text.Lines

/-!
# Pieces of a text

What is known of a text that is cut at a separator from what is known of its pieces. Induction goes
from piece to piece (`Text.pieces_induction`): there may be a last one that nothing ends, and before
it stand pieces that are ended.
-/

namespace SandboxImage.Text

/-- The pieces of a text; a last piece that is empty is none. -/
def endedPieces {α : Type} [DecidableEq α] (sep : α) (s : List α) : List (List α) :=
  if (pieces sep s).getLast? = some [] then (pieces sep s).dropLast else pieces sep s

/-! ## Parts of a text around a character -/

section

variable {α : Type} {c : α} {l s t : List α}

/-- A beginning ends before a character or goes on behind it. -/
theorem prefix_append_cons_cases (h : l <+: s ++ c :: t) :
    l <+: s ∨ ∃ t', l = s ++ c :: t' ∧ t' <+: t := by
  obtain hls | ⟨u, rfl⟩ := List.prefix_or_prefix_of_prefix h (List.prefix_append s (c :: t))
  · exact .inl hls
  · rw [List.prefix_append_right_inj] at h
    cases u with
    | nil => exact .inl ((List.append_nil s).symm ▸ List.prefix_rfl)
    | cons b u =>
      obtain ⟨rfl, hu⟩ := List.cons_prefix_cons.1 h
      exact .inr ⟨u, rfl, hu⟩

theorem prefix_append_cons_iff (h : c ∉ l) : l <+: s ++ c :: t ↔ l <+: s := by
  constructor
  · intro hl
    obtain hls | ⟨t', rfl, -⟩ := prefix_append_cons_cases hl
    · exact hls
    · exact absurd (List.mem_append_right s List.mem_cons_self) h
  · exact fun hl => hl.trans (List.prefix_append s _)

theorem suffix_append_cons_iff (h : c ∉ l) : l <:+ s ++ c :: t ↔ l <:+ t := by
  have hreverse : c ∉ l.reverse := mt List.mem_reverse.1 h
  rw [← List.reverse_prefix, ← List.reverse_prefix, List.reverse_append, List.reverse_cons,
    List.append_assoc, List.singleton_append, prefix_append_cons_iff hreverse]

end

/-! ## Cutting -/

section

variable {α : Type} [DecidableEq α] {sep : α} {s : List α}

theorem pieces_of_not_mem (h : sep ∉ s) : pieces sep s = [s] := by
  induction s with
  | nil => rfl
  | cons c s ih =>
    obtain ⟨hc, hs⟩ := not_or.1 fun hor => h (List.mem_cons.2 hor)
    rw [pieces, if_neg (by simpa using Ne.symm hc), ih hs]

theorem not_mem_of_mem_endedPieces {piece : List α} (h : piece ∈ endedPieces sep s) :
    sep ∉ piece := by
  rw [endedPieces] at h
  split at h
  · exact not_mem_of_mem_pieces ((List.dropLast_sublist _).subset h)
  · exact not_mem_of_mem_pieces h

/-- Induction on the pieces of a text: there may be a last one that nothing ends, and before it
stand pieces that are ended. -/
theorem pieces_induction (sep : α) {P : List α → Prop} (nil : P [])
    (last : ∀ s, sep ∉ s → s ≠ [] → P s)
    (ended : ∀ piece rest, sep ∉ piece → P rest → P (piece ++ sep :: rest)) (s : List α) : P s := by
  by_cases hmem : sep ∈ s
  · obtain ⟨piece, rest, hs, hpiece⟩ := List.eq_append_cons_of_mem hmem
    have hlength : rest.length < s.length := by
      rw [hs, List.length_append, List.length_cons]
      omega
    rw [hs]
    exact ended piece rest hpiece (pieces_induction sep nil last ended rest)
  · by_cases hs : s = []
    · rw [hs]
      exact nil
    · exact last s hmem hs
termination_by s.length

/-- A text may be cut at any of its separators first. -/
theorem pieces_append_sep (s t : List α) :
    pieces sep (s ++ sep :: t) = pieces sep s ++ pieces sep t := by
  induction s using pieces_induction sep with
  | nil => exact pieces_append List.not_mem_nil t
  | last s hs => rw [pieces_append hs, pieces_of_not_mem hs]; rfl
  | ended piece rest hpiece ih =>
    rw [List.append_assoc, List.cons_append, pieces_append hpiece, ih, pieces_append hpiece]
    rfl

theorem endedPieces_nil : endedPieces sep [] = [] := rfl

theorem endedPieces_of_not_mem (h : sep ∉ s) (hs : s ≠ []) : endedPieces sep s = [s] := by
  rw [endedPieces, pieces_of_not_mem h, if_neg (by simpa using hs)]

theorem endedPieces_append_sep (s t : List α) :
    endedPieces sep (s ++ sep :: t) = pieces sep s ++ endedPieces sep t := by
  have hne := pieces_ne_nil sep t
  rw [endedPieces, pieces_append_sep, List.getLast?_append_of_ne_nil _ hne,
    List.dropLast_append_of_ne_nil hne, endedPieces]
  split <;> rfl

theorem endedPieces_append {piece : List α} (h : sep ∉ piece) (s : List α) :
    endedPieces sep (piece ++ sep :: s) = piece :: endedPieces sep s := by
  rw [endedPieces_append_sep, pieces_of_not_mem h]
  rfl

theorem length_pieces (s : List α) : (pieces sep s).length = 1 + s.count sep := by
  induction s using pieces_induction sep with
  | nil => rfl
  | last s hs => rw [pieces_of_not_mem hs, List.count_eq_zero_of_not_mem hs]; rfl
  | ended piece rest hpiece ih =>
    rw [pieces_append hpiece, List.length_cons, ih, List.count_append, List.count_cons_self,
      List.count_eq_zero_of_not_mem hpiece]
    omega

/-- Texts that are ended one by one are the pieces of the whole if they are pieces themselves. -/
theorem endedPieces_flatMap {ps : List (List α)} (h : ∀ p ∈ ps, sep ∉ p) :
    endedPieces sep (ps.flatMap (· ++ [sep])) = ps := by
  rw [endedPieces, pieces_flatMap h, List.getLast?_concat, if_pos rfl, List.dropLast_concat]

theorem length_endedPieces_flatMap (ps : List (List α)) :
    (endedPieces sep (ps.flatMap (· ++ [sep]))).length = ps.length + ps.flatten.count sep := by
  induction ps with
  | nil => rfl
  | cons p ps ih =>
    rw [List.flatMap_cons, List.append_assoc, List.singleton_append, endedPieces_append_sep,
      List.length_append, length_pieces, ih, List.length_cons, List.flatten_cons,
      List.count_append]
    omega

/-- There are more pieces than texts unless the texts are pieces themselves. -/
theorem length_endedPieces_flatMap_eq_iff {ps : List (List α)} :
    (endedPieces sep (ps.flatMap (· ++ [sep]))).length = ps.length ↔ ∀ p ∈ ps, sep ∉ p := by
  have hcount : ps.flatten.count sep = 0 ↔ ∀ p ∈ ps, sep ∉ p := by
    rw [List.count_eq_zero, List.mem_flatten]
    simp
  rw [length_endedPieces_flatMap, ← hcount]
  omega

end

end SandboxImage.Text
