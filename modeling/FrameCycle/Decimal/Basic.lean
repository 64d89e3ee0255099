/-!
Decimal numbers as digits and a power of ten, and the two ways in which they are written: with the
digits in their places, or as a figure times a power.
-/
namespace FrameCycle

/-- The number `digits` times ten to the `exponent`. -/
structure Decimal where
  digits : Nat
  exponent : Int
  deriving DecidableEq

namespace Decimal

def figures (number : Decimal) : List Char :=
  Nat.toDigits 10 number.digits

/-- The exponent of the leading figure. -/
def magnitude (number : Decimal) : Int :=
  number.exponent + (number.figures.length - 1)

/-- Drops zeros at the end of the digits. -/
def strip (number : Decimal) : Decimal :=
  if number.digits = 0 then ⟨0, 0⟩
  else if number.digits % 10 = 0 then strip ⟨number.digits / 10, number.exponent + 1⟩
  else number
termination_by number.digits
decreasing_by omega

/-- Every digit in its place, and a point only if one is needed. -/
def plain (number : Decimal) : List Char :=
  let figures := number.figures
  if 0 ≤ number.exponent then
    if number.digits = 0 then ['0'] else figures ++ List.replicate number.exponent.toNat '0'
  else
    let places := (-number.exponent).toNat
    if places < figures.length then
      figures.take (figures.length - places) ++ '.' :: figures.drop (figures.length - places)
    else '0' :: '.' :: List.replicate (places - figures.length) '0' ++ figures

/-- As `plain`, with a point in every case. -/
def pointed (number : Decimal) : List Char :=
  if 0 ≤ number.exponent then number.plain ++ ['.', '0'] else number.plain

/-- One figure before the point, and the power of ten with its sign. -/
def scientific (number : Decimal) : List Char :=
  let power := number.magnitude
  let mantissa :=
    match number.figures with
    | first :: second :: rest => first :: '.' :: second :: rest
    | figures => figures
  let sign := if 0 ≤ power then '+' else '-'
  mantissa ++ 'e' :: sign :: Nat.toDigits 10 power.natAbs

/-- In places for magnitudes from -5 to 15, else with a power of ten. -/
def compact (number : Decimal) : List Char :=
  if number.digits = 0 then number.pointed
  else if -5 ≤ number.magnitude ∧ number.magnitude ≤ 15 then number.pointed
  else number.scientific

end Decimal

end FrameCycle
