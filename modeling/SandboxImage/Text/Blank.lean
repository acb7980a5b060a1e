/-!
# White space

The 25 characters with the property White_Space, and texts without them at their ends. Blanks
added at either end change nothing (`trimStart_append`, `trimEnd_append`).
-/

namespace SandboxImage.Text

/-- The code points with the property White_Space, ascending. -/
def blankRanges : List (Nat × Nat) :=
  [(0x09, 0x0D), (0x20, 0x20), (0x85, 0x85), (0xA0, 0xA0), (0x1680, 0x1680), (0x2000, 0x200A),
   (0x2028, 0x2029), (0x202F, 0x202F), (0x205F, 0x205F), (0x3000, 0x3000)]

/-- `c` is white space. -/
def isBlank (c : Char) : Bool :=
  blankRanges.any fun r => r.1 ≤ c.toNat && c.toNat ≤ r.2

/-- The text from its first character that is not blank. -/
def trimStart (s : List Char) : List Char :=
  s.dropWhile isBlank

/-- The text up to its last character that is not blank. -/
def trimEnd (s : List Char) : List Char :=
  (s.reverse.dropWhile isBlank).reverse

/-- The text without the blanks at both ends. -/
def trim (s : List Char) : List Char :=
  trimEnd (trimStart s)

/-- A text without the blanks at both ends. -/
def trimmed (s : String) : String :=
  String.ofList (trim s.toList)

/-- Nothing but white space stands in `s`. -/
def isBlankText (s : String) : Bool :=
  s.toList.all isBlank

section

variable {α : Type}

theorem dropWhile_append_of_all {p : α → Bool} {b s : List α} (h : b.all p) :
    (b ++ s).dropWhile p = s.dropWhile p := by
  induction b with
  | nil => rfl
  | cons c b ih =>
    simp only [List.all_cons, Bool.and_eq_true] at h
    simp [h.1, ih h.2]

theorem dropWhile_eq_nil_iff_all {p : α → Bool} {s : List α} :
    s.dropWhile p = [] ↔ s.all p := by
  induction s with
  | nil => simp
  | cons c s ih => cases h : p c <;> simp_all

end

theorem mem_of_mem_trim {c : Char} {s : List Char} (h : c ∈ trim s) : c ∈ s := by
  have hend : c ∈ (trimStart s).reverse.dropWhile isBlank := List.mem_reverse.1 h
  have hstart : c ∈ trimStart s := List.mem_reverse.1 ((List.dropWhile_sublist _).subset hend)
  exact (List.dropWhile_sublist _).subset hstart

theorem trimStart_append (b s : List Char) (h : b.all isBlank) :
    trimStart (b ++ s) = trimStart s :=
  dropWhile_append_of_all h

theorem trimEnd_append (s b : List Char) (h : b.all isBlank) :
    trimEnd (s ++ b) = trimEnd s := by
  unfold trimEnd
  rw [List.reverse_append, dropWhile_append_of_all (by simpa using h)]

end SandboxImage.Text
