import Mathlib.Data.List.DropRight
import SandboxImage.Proofs.Text.Pieces
import SandboxImage.Proofs.Text.Utf8

/-!
# Line feeds in bytes that are read loosely

A line feed is never part of a longer unit, and it ends a broken one (`Text.follow_append_feed`). So
bytes may be cut at line feeds before they are read: what comes out are the pieces of the text that
all of them are read as (`Text.endedPieces_decodeLoosely`).
-/

namespace SandboxImage.Text

/-- The lines of a text. All carriage returns at the end of a line are part of its ending. -/
def bareLines (s : String) : List String :=
  (endedPieces '\n' s.toList).map fun p => String.ofList (p.rdropWhile (· == '\r'))

/-! ## Units in front of a line feed -/

variable {b low high : UInt8} {s : Bytes}

theorem low_of_lead {l : Lead} (h : lead? b = some l) : 0x80 ≤ l.low.toNat := by
  have hlow : l.low = 0x80 ∨ l.low = 0xA0 ∨ l.low = 0x90 := by
    unfold lead? at h
    dsimp only at h
    split_ifs at h <;> cases h <;> simp
  rcases hlow with h | h | h <;> rw [h] <;> decide

/-- No byte that belongs to a character after its first one is a line feed. -/
theorem follow_append_feed (hlow : 0x80 ≤ low.toNat) (k acc taken : Nat) (s rest : Bytes) :
    follow k low high acc taken (s ++ 0x0A :: rest) = follow k low high acc taken s := by
  induction k generalizing low high acc taken s with
  | zero => simp only [follow]
  | succ k ih =>
    cases s with
    | nil =>
      have hfeed : ¬ low ≤ 0x0A := by
        rw [UInt8.le_iff_toNat_le]
        exact Nat.not_le.2 (Nat.lt_of_lt_of_le (by decide) hlow)
      simp [follow, hfeed]
    | cons b s => rw [List.cons_append, follow, follow, ih (by decide)]

theorem le_length_of_follow_ok {k acc taken n : Nat}
    (h : follow k low high acc taken s = .ok n) : k ≤ s.length := by
  induction k generalizing low high acc taken s with
  | zero => exact Nat.zero_le _
  | succ k ih =>
    obtain ⟨b, rest, rfl, -, -, h⟩ := exists_of_follow h
    exact Nat.succ_le_succ (ih h)

theorem le_length_of_follow_error {k acc taken n : Nat}
    (h : follow k low high acc taken s = .error n) : n ≤ taken + s.length := by
  induction k generalizing low high acc taken s with
  | zero => cases h
  | succ k ih =>
    match s with
    | [] =>
      cases h
      exact Nat.le_refl _
    | b :: rest =>
      rw [follow] at h
      split at h
      · have hn := ih h
        simp only [List.length_cons]
        omega
      · cases h
        exact Nat.le_add_right _ _

theorem firstPiece_le_length (b : UInt8) (s : Bytes) : (firstPiece b s).2 ≤ s.length := by
  unfold firstPiece
  split
  · exact Nat.zero_le _
  · split
    · exact Nat.zero_le _
    · split
      next h => exact le_length_of_follow_ok h
      next h => exact (Nat.zero_add s.length) ▸ le_length_of_follow_error h

/-- A unit is the same whatever follows the line feed after it. -/
theorem firstPiece_append_feed (b : UInt8) (s rest : Bytes) :
    firstPiece b (s ++ 0x0A :: rest) = firstPiece b s := by
  unfold firstPiece
  split
  · rfl
  · split
    · rfl
    next l hl =>
      rw [follow_append_feed (low_of_lead hl)]
      split
      · rfl
      next n h =>
        have hn : n ≤ s.length := (Nat.zero_add s.length) ▸ le_length_of_follow_error h
        rw [List.take_append_of_le_length hn]

theorem pieceList_feed (rest : Bytes) :
    pieceList (0x0A :: rest) = .char '\n' :: pieceList rest := by
  rw [pieceList]
  rfl

/-- Units are cut at a line feed, whatever stands in front of it. -/
theorem pieceList_append_feed (s rest : Bytes) :
    pieceList (s ++ 0x0A :: rest) = pieceList s ++ .char '\n' :: pieceList rest := by
  induction s using pieceList.induct with
  | case1 => rw [List.nil_append, pieceList_feed, pieceList, List.nil_append]
  | case2 b s first ih =>
    have hdrop : (s ++ 0x0A :: rest).drop first.2 = s.drop first.2 ++ 0x0A :: rest :=
      List.drop_append_of_le_length (firstPiece_le_length b s)
    rw [List.cons_append, pieceList, firstPiece_append_feed, hdrop, ih, pieceList, List.cons_append]

/-- Only a line feed is read as one. -/
theorem feed_mem_of_piece {s : Bytes} (h : .char '\n' ∈ pieceList s) : 0x0A ∈ s := by
  induction s using pieceList.induct with
  | case1 => simp [pieceList] at h
  | case2 b s first ih =>
    rw [pieceList] at h
    rcases List.mem_cons.1 h with h | h
    · have hfirst : firstPiece b s = (.char '\n', first.2) := Prod.ext h.symm rfl
      have hbytes := encodeChar_of_firstPiece hfirst
      exact (List.cons.inj hbytes).1 ▸ List.mem_cons_self
    · exact List.mem_cons_of_mem _ (List.mem_of_mem_drop (ih h))

/-! ## Texts -/

theorem toList_decodeLoosely (s : Bytes) :
    (decodeLoosely s).toList = (pieceList s).map Piece.looseChar :=
  String.toList_ofList

theorem decodeLoosely_append_feed (s rest : Bytes) :
    (decodeLoosely (s ++ 0x0A :: rest)).toList =
      (decodeLoosely s).toList ++ '\n' :: (decodeLoosely rest).toList := by
  simp only [toList_decodeLoosely, pieceList_append_feed, List.map_append, List.map_cons]
  rfl

theorem decodeLoosely_ne_nil (h : s ≠ []) : (decodeLoosely s).toList ≠ [] := by
  match s with
  | [] => exact absurd rfl h
  | b :: s => simp [toList_decodeLoosely, pieceList]

theorem newline_not_mem_decodeLoosely (h : 0x0A ∉ s) : '\n' ∉ (decodeLoosely s).toList := by
  rw [toList_decodeLoosely]
  intro hmem
  obtain ⟨piece, hpiece, hchar⟩ := List.mem_map.1 hmem
  cases piece with
  | char c =>
    obtain rfl : c = '\n' := hchar
    exact h (feed_mem_of_piece hpiece)
  | broken bytes => exact absurd hchar (by decide : replacement ≠ '\n')

/-- The pieces of the text that bytes are read as are what the pieces of the bytes are read as. -/
theorem endedPieces_decodeLoosely (s : Bytes) :
    endedPieces '\n' (decodeLoosely s).toList =
      (endedPieces 0x0A s).map fun p => (decodeLoosely p).toList := by
  induction s using pieces_induction (0x0A : UInt8) with
  | nil =>
    rw [endedPieces_nil, toList_decodeLoosely, pieceList]
    rfl
  | last s hs hne =>
    rw [endedPieces_of_not_mem hs hne,
      endedPieces_of_not_mem (newline_not_mem_decodeLoosely hs) (decodeLoosely_ne_nil hne)]
    rfl
  | ended piece rest hpiece ih =>
    rw [decodeLoosely_append_feed, endedPieces_append (newline_not_mem_decodeLoosely hpiece),
      endedPieces_append hpiece, ih, List.map_cons]

end SandboxImage.Text
