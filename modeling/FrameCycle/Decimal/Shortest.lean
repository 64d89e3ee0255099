import FrameCycle.Decimal.Basic

/-!
The shortest decimal that reads back as a given binary number: the point nearest to the number on
the coarsest decimal grid that has a point in the interval of reals rounding to it. A number halfway
between two points goes to one of them by a rule of the format it is written in.
-/
namespace FrameCycle

/-- Where a number halfway between two points of a grid goes. -/
inductive Tie where
  | toEven
  | away
  deriving DecidableEq

/-- Whether a number halfway between `point` and the next goes down to `point`. -/
def Tie.keeps (tie : Tie) (point : Nat) : Bool :=
  match tie with
  | toEven => point % 2 == 0
  | away => false

/-- The positive number `mantissa` times two to the `exponent`. Its lower neighbour is at half the
usual distance if `narrowBelow`. -/
structure Binary where
  mantissa : Nat
  exponent : Int
  narrowBelow : Bool
  deriving DecidableEq

namespace Binary

/-- The denominator over which the ends of the interval are whole. -/
def denominator (number : Binary) : Nat :=
  Nat.pow 2 (2 - number.exponent).toNat

/-- A count of quarters of the last place, over `denominator`. -/
def quarters (number : Binary) (count : Nat) : Nat :=
  count * Nat.pow 2 (number.exponent - 2).toNat

def value (number : Binary) : Nat :=
  number.quarters (4 * number.mantissa)

def upperEnd (number : Binary) : Nat :=
  number.quarters (4 * number.mantissa + 2)

def lowerEnd (number : Binary) : Nat :=
  number.quarters (4 * number.mantissa - if number.narrowBelow then 1 else 2)

/-- The point nearest to the number on the grid of multiples of ten to the `power`, if the grid has
a point in the interval. -/
def onGrid? (tie : Tie) (number : Binary) (power : Int) : Option Decimal :=
  let step := Nat.pow 10 power.toNat * number.denominator
  let scale := Nat.pow 10 (-power).toNat
  let whole := number.value * scale / step
  let fits (point : Nat) : Bool :=
    if number.mantissa % 2 = 0 then
      decide (number.lowerEnd * scale ≤ point * step) &&
        decide (point * step ≤ number.upperEnd * scale)
    else
      decide (number.lowerEnd * scale < point * step) &&
        decide (point * step < number.upperEnd * scale)
  let below := number.value * scale - whole * step
  let above := (whole + 1) * step - number.value * scale
  let nearest := if below < above ∨ (below = above ∧ tie.keeps whole) then whole else whole + 1
  let other := if nearest = whole then whole + 1 else whole
  if fits nearest then some ⟨nearest, power⟩
  else if fits other then some ⟨other, power⟩
  else none

/-- The number itself, in as many digits as it takes. -/
def exact (number : Binary) : Decimal :=
  if 0 ≤ number.exponent then ⟨number.mantissa * Nat.pow 2 number.exponent.toNat, 0⟩
  else ⟨number.mantissa * Nat.pow 5 number.exponent.natAbs, number.exponent⟩

/-- Grids from ten to the 310th down to ten to the -330th reach every number of 64 bits. -/
def shortest (tie : Tie) (number : Binary) : Decimal :=
  let grids := (List.range 641).map fun (index : Nat) => (310 : Int) - index
  ((grids.findSome? (number.onGrid? tie)).getD number.exact).strip

end Binary

/-- A number of a floating-point format. -/
inductive FloatShape where
  | nan
  | infinite (negative : Bool)
  | zero (negative : Bool)
  | finite (negative : Bool) (magnitude : Binary)
  deriving DecidableEq

namespace FloatShape

/-- Decodes the bits of a format with `fractionBits` bits of fraction and `exponentBits` bits of
exponent. -/
def ofBits (fractionBits exponentBits bits : Nat) : FloatShape :=
  let fraction := bits % Nat.pow 2 fractionBits
  let biased := bits / Nat.pow 2 fractionBits % Nat.pow 2 exponentBits
  let negative := bits / Nat.pow 2 (fractionBits + exponentBits) % 2 = 1
  let bias : Int := Nat.pow 2 (exponentBits - 1) - 1 + fractionBits
  if biased = Nat.pow 2 exponentBits - 1 then
    if fraction = 0 then infinite negative else nan
  else if biased = 0 then
    if fraction = 0 then zero negative else finite negative ⟨fraction, 1 - bias, false⟩
  else
    finite negative
      ⟨Nat.pow 2 fractionBits + fraction, biased - bias, fraction == 0 && decide (1 < biased)⟩

def ofFloat32 (x : Float32) : FloatShape :=
  ofBits 23 8 x.toBits.toNat

def ofFloat (x : Float) : FloatShape :=
  ofBits 52 11 x.toBits.toNat

def signed (negative : Bool) (text : List Char) : List Char :=
  if negative then '-' :: text else text

/-- The text of a number, its finite magnitudes written by `write`. -/
def text (tie : Tie) (write : Decimal → List Char) : FloatShape → String
  | nan => "NaN"
  | infinite negative => String.ofList (signed negative ['i', 'n', 'f'])
  | zero negative => String.ofList (signed negative (write ⟨0, 0⟩))
  | finite negative magnitude => String.ofList (signed negative (write (magnitude.shortest tie)))

end FloatShape

end FrameCycle
