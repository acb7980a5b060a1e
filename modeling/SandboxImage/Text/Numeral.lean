/-!
# Numbers in texts

Unsigned numbers as a user writes them: decimal digits, with a plus sign in front allowed, up to a
limit.
-/

namespace SandboxImage.Text

/-- The value of a digit in a base up to 16, in either case. -/
def digitValue? (base : Nat) (c : Char) : Option Nat :=
  let value :=
    if c.isDigit then some (c.toNat - 48)
    else if 'a' ≤ c && c ≤ 'f' then some (c.toNat - 87)
    else if 'A' ≤ c && c ≤ 'F' then some (c.toNat - 55)
    else none
  value.filter (· < base)

/-- The value of a text that holds digits only, at least one. -/
def readDigits? (base : Nat) (s : List Char) : Option Nat :=
  if s.isEmpty then none
  else s.foldlM (fun n c => (digitValue? base c).map (n * base + ·)) 0

/-- The value of a text of digits after an optional plus sign, if it is at most `limit`. -/
def readUnsigned? (base limit : Nat) (s : List Char) : Option Nat :=
  let digits := match s with
    | '+' :: rest => rest
    | _ => s
  (readDigits? base digits).filter (· ≤ limit)

/-- The largest number of `bits` bits. -/
def maxUnsigned (bits : Nat) : Nat := Nat.pow 2 bits - 1

end SandboxImage.Text
