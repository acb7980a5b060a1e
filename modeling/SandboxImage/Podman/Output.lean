import SandboxImage.Text.Lines
import SandboxImage.Text.Utf8

/-!
# The output of a build

Output is taken in line by line, as it comes: a line is read loosely on its own and told at once,
and a window of bounded size holds the last lines, for the case that the build fails.
-/

namespace SandboxImage.Podman

/-- How many lines of a failed build are reported. -/
def diagnosticLines : Nat := 20

/-- The last `n` members of a list. -/
def lastOf {α : Type} (n : Nat) (l : List α) : List α := l.drop (l.length - n)

/-- The lines of some output that are ended by a line feed. -/
def endedLines (bytes : Bytes) : Bytes := (bytes.reverse.dropWhile fun b => b != 0x0A).reverse

/-- A text without the line endings at its end. -/
def dropEndings (s : String) : String :=
  String.ofList (s.toList.reverse.dropWhile fun c => c == '\r' || c == '\n').reverse

/-- The first line of some output, with the line feed that ends it, and what follows it. -/
def cutLine : Bytes → Bytes × Bytes
  | [] => ([], [])
  | b :: rest =>
    if b = 0x0A then ([b], rest)
    else
      let cut := cutLine rest
      (b :: cut.1, cut.2)

theorem length_cutLine_le (bytes : Bytes) : (cutLine bytes).2.length ≤ bytes.length - 1 := by
  induction bytes with
  | nil => exact Nat.le_refl 0
  | cons b rest ih =>
    rw [cutLine]
    split
    · exact Nat.le_refl _
    · simp only [List.length_cons, Nat.add_sub_cancel]
      omega

/-- How far the output of a build has been taken in. -/
structure Intake where
  /-- The lines that have been told. -/
  told : List String := []
  /-- The last of them. -/
  window : List String := []

namespace Intake

/-- A full window loses its first line to the next one. -/
def push (r : Intake) (line : String) : Intake where
  told := r.told ++ [line]
  window :=
    (if r.window.length = diagnosticLines then r.window.tail else r.window) ++ [line]

/-- Takes in the rest of the output. -/
def through (r : Intake) (bytes : Bytes) : Intake :=
  match bytes with
  | [] => r
  | b :: rest =>
    let cut := cutLine (b :: rest)
    (r.push (dropEndings (Text.decodeLoosely cut.1))).through cut.2
termination_by bytes.length
decreasing_by exact Nat.lt_succ_of_le (length_cutLine_le _)

/-- Takes in a whole output. -/
def whole (bytes : Bytes) : Intake := through {} bytes

end Intake
end SandboxImage.Podman
