import SandboxImage.Text.Utf8

/-!
# Paths

A path is a text of bytes, cut at its slashes. Parents are taken of the text alone: no file is
looked at, `..` is a component like any other, and empty components and single points are passed
over, except a single point in front.
-/

namespace SandboxImage.Files

/-- The way to a file, as it is written. -/
abbrev Path := Bytes

/-- The byte between two components. -/
def slash : UInt8 := 0x2F

/-- The byte of a point. -/
def point : UInt8 := 0x2E

namespace Path

/-- The front that no parent is taken of: a slash, or a single point. -/
def front : Path → Path
  | 0x2F :: _ => [slash]
  | [0x2E] => [point]
  | 0x2E :: 0x2F :: _ => [point]
  | _ => []

/-- The last component of a reversed path, reversed. -/
def lastName (r : Path) : Path := r.takeWhile (· != slash)

/-- A component that is passed over. -/
def isIdle (name : Path) : Bool := name == [] || name == [point]

/-- A path behind its front, reversed, without components at its end that are passed over. -/
def trimBack (r : Path) : Path :=
  match r with
  | [] => []
  | b :: rest =>
    if isIdle (lastName (b :: rest)) then trimBack (rest.drop (lastName (b :: rest)).length)
    else b :: rest
termination_by r.length
decreasing_by simp only [List.length_drop, List.length_cons]; omega

/-- The path without its last component; the root and the empty path have no parent. -/
def parent? (p : Path) : Option Path :=
  match trimBack (p.drop (front p).length).reverse with
  | [] => if front p = [point] then some [] else none
  | b :: r =>
    some (front p ++ (trimBack (((b :: r).dropWhile (· != slash)).drop 1)).reverse)

theorem length_trimBack_le (r : Path) : (trimBack r).length ≤ r.length := by
  fun_induction trimBack r with
  | case1 => simp
  | case2 b rest _ ih => simp only [List.length_drop, List.length_cons] at ih ⊢; omega
  | case3 => simp

theorem length_front_le (p : Path) : (front p).length ≤ p.length := by
  unfold front; split <;> simp

theorem length_parent?_lt {p q : Path} (h : parent? p = some q) : q.length < p.length := by
  unfold parent? at h
  have hf := length_front_le p
  have ht := length_trimBack_le (p.drop (front p).length).reverse
  simp only [List.length_reverse, List.length_drop] at ht
  split at h
  next =>
    split at h
    next hp =>
      simp only [Option.some.injEq] at h
      rw [hp] at hf
      simp only [List.length_cons, List.length_nil] at hf
      simp only [← h, List.length_nil]
      omega
    next => simp at h
  next b r hr =>
    simp only [Option.some.injEq] at h
    have h1 := length_trimBack_le (((b :: r).dropWhile (· != slash)).drop 1)
    have h2 : ((b :: r).dropWhile (· != slash)).length ≤ (b :: r).length :=
      (List.dropWhile_sublist _).length_le
    rw [hr] at ht
    simp only [List.length_drop, List.length_cons] at h1 h2 ht
    rw [← h]
    simp only [List.length_append, List.length_reverse]
    omega

/-- A path with its parents, the nearest first. -/
def ancestors (p : Path) : List Path :=
  match _parent : parent? p with
  | some q => p :: ancestors q
  | none => [p]
termination_by p.length
decreasing_by exact length_parent?_lt _parent

/-- The path of a file in the directory `p`. -/
def join (p name : Path) : Path :=
  if p.isEmpty || p.getLast? == some slash then p ++ name else p ++ slash :: name

end Path
end SandboxImage.Files
