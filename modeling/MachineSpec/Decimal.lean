/-
MachineSpec.Decimal — decimal fractions with finitely many places.

A fraction is `mantissa / 10 ^ places` with at least one place and no place to
spare: the last digit is a zero only if it is the only one behind the point.
So equal fractions are equal as data, and `text` writes each number one way.
-/

namespace MachineSpec

/-- A decimal fraction. -/
structure Decimal where
  mantissa : Int
  places : Nat
deriving DecidableEq, Repr

namespace Decimal

/-- Drops zeros at the end as long as a place remains. -/
def reduce (mantissa : Int) : Nat → Decimal
  | 0 => ⟨mantissa * 10, 1⟩
  | 1 => ⟨mantissa, 1⟩
  | places + 2 =>
    if mantissa % 10 = 0 then reduce (mantissa / 10) (places + 1) else ⟨mantissa, places + 2⟩

/-- A whole number as a fraction. -/
def ofInt (n : Int) : Decimal := ⟨n * 10, 1⟩

/-- The mantissa of a fraction with at least as many places as it has. -/
def scaled (d : Decimal) (places : Nat) : Int := d.mantissa * Nat.pow 10 (places - d.places)

/-- The sum of two fractions. -/
def add (a b : Decimal) : Decimal :=
  let places := max a.places b.places
  reduce (a.scaled places + b.scaled places) places

/-- The number that digits write, and whether there were only digits. -/
def ofDigits? (digits : List Char) : Option Nat :=
  if digits.isEmpty || !digits.all Char.isDigit then none
  else some (digits.foldl (fun n c => n * 10 + (c.toNat - 48)) 0)

/-- The fraction that a text such as `-2.25` writes. -/
def ofText? (text : String) : Option Decimal :=
  let (negative, unsigned) := match text.toList with
    | '-' :: rest => (true, rest)
    | all => (false, all)
  let whole := unsigned.takeWhile (· != '.')
  let fraction := (unsigned.dropWhile (· != '.')).drop 1
  match ofDigits? whole, ofDigits? (whole ++ fraction) with
  | some _, some n => some (reduce (if negative then -(n : Int) else n) fraction.length)
  | _, _ => none

/-- The text of a fraction: the point always has a digit on either side. -/
def text (d : Decimal) : String :=
  let digits := (toString d.mantissa.natAbs).toList
  let padded := List.replicate (d.places + 1 - digits.length) '0' ++ digits
  let cut := padded.length - d.places
  (if d.mantissa < 0 then "-" else "") ++ String.ofList (padded.take cut) ++ "." ++
    String.ofList (padded.drop cut)

end Decimal

end MachineSpec
