import SandboxImage.Text.Numeral

/-!
# Decimals and binary floating point

Decimal texts read to the nearest 64-bit binary number, and such numbers written with the fewest
digits that identify them. A finite number is `m * 2 ^ q`; the reals that round to it form an
interval, and the digits are the first grid point found in it, from the coarsest grid on.
-/

namespace SandboxImage.Decimal

/-- A finite number without sign, `m * 2 ^ q`. -/
structure Binary where
  m : Nat
  q : Int
  /-- The gap to the number below is half the gap to the number above. -/
  narrowBelow : Bool

/-- The magnitude of finite bits. -/
def Binary.ofBits (b : UInt64) : Binary :=
  let e := ((b >>> 52) &&& 0x7FF).toNat
  let f := (b &&& 0xFFFFFFFFFFFFF).toNat
  if e == 0 then ⟨f, -1074, false⟩ else ⟨Nat.pow 2 52 + f, (e : Int) - 1075, f == 0 && e > 1⟩

/-- Compares `a * 10 ^ i` with `n * 2 ^ j`. -/
def compareScaled (a : Nat) (i : Int) (n : Nat) (j : Int) : Ordering :=
  compare (a * Nat.pow 10 i.toNat * Nat.pow 2 (-j).toNat)
    (n * Nat.pow 2 j.toNat * Nat.pow 10 (-i).toNat)

/-- The decimal `digits * 10 ^ exp` rounds to the number: halfway points belong to the even one. -/
def Binary.isReadFrom (x : Binary) (digits : Nat) (exp : Int) : Bool :=
  let low := if x.narrowBelow then 4 * x.m - 1 else 4 * x.m - 2
  let high := 4 * x.m + 2
  let even := x.m % 2 == 0
  let atLow := compareScaled digits exp low (x.q - 2)
  let atHigh := compareScaled digits exp high (x.q - 2)
  (atLow == .gt || (even && atLow == .eq)) && (atHigh == .lt || (even && atHigh == .eq))

/-- The number in units of `10 ^ g`, rounded down. -/
def Binary.floorAt (x : Binary) (g : Int) : Nat :=
  (x.m * Nat.pow 2 x.q.toNat * Nat.pow 10 (-g).toNat) /
    (Nat.pow 2 (-x.q).toNat * Nat.pow 10 g.toNat)

/-- The least power of ten that exceeds the number. -/
def Binary.scale (x : Binary) : Int :=
  let tries := (List.range 650).map fun k : Nat => (k : Int) - 330
  (tries.find? fun k => compareScaled 1 k x.m x.q == .gt).getD 330

/-- The decimal on a grid that is read as the number: of two the nearer, and halfway the upper. -/
def Binary.onGrid? (x : Binary) (g : Int) : Option (Nat × Int) :=
  let below := x.floorAt g
  let above := below + 1
  match x.isReadFrom below g, x.isReadFrom above g with
  | true, true =>
    if compareScaled (below + above) g (2 * x.m) x.q == .gt then some (below, g)
    else some (above, g)
  | true, false => some (below, g)
  | false, true => some (above, g)
  | false, false => none

/-- The fewest digits that are read as the number, with their power of ten. -/
def Binary.shortest (x : Binary) : Nat × Int :=
  if x.m == 0 then (0, 0)
  else
    let grids := (List.range 17).map fun n : Nat => x.scale - 1 - (n : Int)
    (grids.findSome? x.onGrid?).getD (x.floorAt (-1100), -1100)

/-- A decimal written out without exponent, with at least one digit on each side of the point. -/
def writeOut (digits : Nat) (exp : Int) : String :=
  let ds := Nat.toDigits 10 digits
  if 0 ≤ exp then String.ofList (ds ++ List.replicate exp.toNat '0') ++ ".0"
  else
    let places := (-exp).toNat
    let padded := List.replicate (places + 1 - ds.length) '0' ++ ds
    let whole := padded.length - places
    String.ofList (padded.take whole ++ '.' :: padded.drop whole)

/-- The bits of plus infinity. -/
def infinity : UInt64 := 0x7FF0000000000000

/-- The bits of the number that is none. -/
def notANumber : UInt64 := 0x7FF8000000000000

/-- The bits with the sign set. -/
def negative (b : UInt64) : UInt64 := b ||| 0x8000000000000000

/-- The bits are those of a finite number. -/
def isFinite (b : UInt64) : Bool := b &&& infinity != infinity

/-- The text of a number: written out if finite. -/
def write (b : UInt64) : String :=
  let sign := if b &&& 0x8000000000000000 == 0 then "" else "-"
  if isFinite b then
    let d := (Binary.ofBits b).shortest
    sign ++ writeOut d.1 d.2
  else if b &&& 0xFFFFFFFFFFFFF == 0 then sign ++ "inf"
  else "NaN"

/-- The bits nearest to `digits * 10 ^ exp`. -/
def nearest (digits : Nat) (exp : Int) : UInt64 :=
  let size := (Nat.toDigits 10 digits).length + exp
  if digits == 0 || size < -400 then 0
  else if size > 400 then infinity
  else (Float.ofScientific digits (exp < 0) exp.natAbs).toBits

/-- Reads an unsigned exponent of up to eighteen digits; a longer one is as good as that. -/
def readExponent? (s : List Char) : Option Nat :=
  (Text.readDigits? 10 s).map (min · (Nat.pow 10 18))

/-- Reads digits with an optional point and an optional exponent; at least one digit stands before
the exponent. -/
def readUnsigned? (s : List Char) : Option UInt64 := do
  let isMark := fun c => c == 'e' || c == 'E'
  let body := s.takeWhile (!isMark ·)
  let whole := body.takeWhile (· != '.')
  let fraction := (body.dropWhile (· != '.')).drop 1
  let digits ← Text.readDigits? 10 (whole ++ fraction)
  let exp ← match s.dropWhile (!isMark ·) with
    | [] => some (0 : Int)
    | _ :: '-' :: e => (readExponent? e).map fun n => -(n : Int)
    | _ :: '+' :: e => (readExponent? e).map Int.ofNat
    | _ :: e => (readExponent? e).map Int.ofNat
  return nearest digits (exp - fraction.length)

/-- The bits that a word for a number without digits stands for, in any case. -/
def readWord? (s : List Char) : Option UInt64 :=
  match String.ofList (s.map Char.toLower) with
  | "inf" | "infinity" => some infinity
  | "nan" => some notANumber
  | _ => none

/-- Reads a decimal with an optional sign; the words for infinity and for no number count. -/
def read? (s : List Char) : Option UInt64 :=
  match s with
  | '-' :: rest => ((readUnsigned? rest).or (readWord? rest)).map negative
  | '+' :: rest => (readUnsigned? rest).or (readWord? rest)
  | _ => (readUnsigned? s).or (readWord? s)

end SandboxImage.Decimal
