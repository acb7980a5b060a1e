import SandboxImage.Text.Blank

/-!
# Pieces and lines

A text cut at every occurrence of one character, and the lines of a text: a line ends at a line
feed, and one carriage return before the line feed belongs to the ending. Cutting
gives at least one piece (`pieces_ne_nil`), and the pieces that were ended (`pieces_flatMap`).
-/

namespace SandboxImage.Text

/-- The pieces between the occurrences of `sep`: one more than there are occurrences. -/
def pieces {α : Type} [BEq α] (sep : α) : List α → List (List α)
  | [] => [[]]
  | c :: cs =>
    if c == sep then [] :: pieces sep cs
    else
      match pieces sep cs with
      | p :: ps => (c :: p) :: ps
      | [] => [[c]]

theorem pieces_ne_nil {α : Type} [BEq α] (sep : α) (s : List α) : pieces sep s ≠ [] := by
  cases s with
  | nil => simp [pieces]
  | cons c cs =>
    unfold pieces
    split
    · exact List.cons_ne_nil _ _
    · split <;> exact List.cons_ne_nil _ _

theorem not_mem_of_mem_pieces {α : Type} [BEq α] [LawfulBEq α] {sep : α} {s piece : List α}
    (h : piece ∈ pieces sep s) : sep ∉ piece := by
  induction s generalizing piece with
  | nil =>
    obtain rfl := List.mem_singleton.1 h
    exact List.not_mem_nil
  | cons c cs ih =>
    unfold pieces at h
    split at h
    · rcases List.mem_cons.1 h with rfl | h
      · exact List.not_mem_nil
      · exact ih h
    next hc =>
      split at h
      next p ps hps =>
        rcases List.mem_cons.1 h with rfl | h
        · have hp := ih (hps ▸ List.mem_cons_self)
          intro hmem
          rcases List.mem_cons.1 hmem with rfl | hmem
          · exact hc BEq.rfl
          · exact hp hmem
        · exact ih (hps ▸ List.mem_cons_of_mem _ h)
      next hps => exact absurd hps (pieces_ne_nil sep cs)

theorem pieces_append {α : Type} [BEq α] [LawfulBEq α] {sep : α} {piece : List α}
    (h : sep ∉ piece) (s : List α) : pieces sep (piece ++ sep :: s) = piece :: pieces sep s := by
  induction piece with
  | nil => simp [pieces]
  | cons c piece ih =>
    obtain ⟨hc, hpiece⟩ := not_or.1 (fun hor => h (List.mem_cons.2 hor))
    rw [List.cons_append, pieces, if_neg (by simpa using Ne.symm hc), ih hpiece]

/-- Pieces that are ended one by one are cut where they end, and the last piece is empty. -/
theorem pieces_flatMap {α : Type} [BEq α] [LawfulBEq α] {sep : α} {ps : List (List α)}
    (h : ∀ p ∈ ps, sep ∉ p) : pieces sep (ps.flatMap (· ++ [sep])) = ps ++ [[]] := by
  induction ps with
  | nil => rfl
  | cons p ps ih =>
    rw [List.flatMap_cons, List.append_assoc, List.singleton_append,
      pieces_append (h p List.mem_cons_self), ih fun q hq => h q (List.mem_cons_of_mem _ hq)]
    rfl

/-- A line without the carriage return that ends it. -/
def dropReturn (line : List Char) : List Char :=
  if line.getLast? = some '\r' then line.dropLast else line

/-- The lines of a text; the last one keeps a carriage return if no line feed follows it. -/
def lines (s : List Char) : List (List Char) :=
  let ps := pieces '\n' s
  let ended := ps.dropLast.map dropReturn
  match ps.getLast? with
  | some [] | none => ended
  | some last => ended ++ [last]

/-- The lines of `s`, as texts. -/
def linesOf (s : String) : List String :=
  (lines s.toList).map String.ofList

/-- Texts joined by line feeds. -/
def unlines (ls : List String) : String :=
  String.intercalate "\n" ls

end SandboxImage.Text
