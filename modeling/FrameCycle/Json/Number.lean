import FrameCycle.Json.Scan

/-!
Numbers. Digits are gathered while they fit a 64-bit word; whatever does not fit, and whatever has a
fraction or an exponent, is a floating-point number.
-/
namespace FrameCycle.Json

inductive Number where
  | natural (value : Nat)
  | negative (magnitude : Nat)
  | real (value : Float)

namespace Number

def found : Number → Found
  | natural value => .integer value
  | negative magnitude => .integer (-(magnitude : Int))
  | real value => .real (.ofFloat value)

/-- Gathers digits onto `value` while the sum stays below `limit`. -/
def gather (limit : Nat) : (value : Nat) → List Char → Nat × List Char
  | value, [] => (value, [])
  | value, c :: rest =>
      if isDigit c ∧ value * 10 + digitValue c < limit then
        gather limit (value * 10 + digitValue c) rest
      else (value, c :: rest)

def wordLimit : Nat := UInt64.size

def powerLimit : Nat := 2147483648

def tenTo (power : Nat) : Float :=
  Float.ofScientific 1 false power

/-- The greatest power of ten with a finite floating-point value. -/
def greatestPower : Nat := 308

/-- Divides by ten to the `power`, in steps that a floating-point number can hold. -/
def scaleDown (value : Float) (power : Nat) : Float :=
  if power ≤ greatestPower then value / tenTo power
  else if value == 0 then value
  else scaleDown (value / tenTo greatestPower) (power - greatestPower)
termination_by power
decreasing_by simp_all [greatestPower]; omega

/-- `significand` times ten to the `exponent`, if that is finite. -/
def scaled? (significand : Nat) (exponent : Int) : Option Float :=
  let value := significand.toUInt64.toFloat
  match exponent with
  | .ofNat power =>
      if power ≤ greatestPower then
        let product := value * tenTo power
        if product.isInf then none else some product
      else if value == 0 then some value
      else none
  | .negSucc power => some (scaleDown value (power + 1))

/-- The sign and the digits read so far. -/
structure Significand where
  positive : Bool
  digits : Nat

namespace Significand

def signed (significand : Significand) (value : Float) : Number :=
  .real (if significand.positive then value else -value)

/-- The number without an exponent of its own. -/
def settle (significand : Significand) (exponent : Int) (rest : List Char) :
    Except Failure (Number × List Char) :=
  match scaled? significand.digits exponent with
  | some value => .ok (significand.signed value, rest)
  | none => .error (.behind .numberOutOfRange rest)

/-- Reads an exponent from behind its letter; `exponent` is what the digits read so far add. -/
def withPower (significand : Significand) (exponent : Int) (text : List Char) :
    Except Failure (Number × List Char) :=
  match (exponentSign text).2 with
  | [] => .error (.behind .eofInValue [])
  | c :: rest =>
      if isDigit c then
        let (power, rest) := gather powerLimit (digitValue c) rest
        match rest with
        | next :: beyond =>
            if isDigit next then
              if significand.digits ≠ 0 ∧ (exponentSign text).1 then
                .error (.behind .numberOutOfRange beyond)
              else .ok (significand.signed 0, skipDigits beyond)
            else
              significand.settle
                (if (exponentSign text).1 then exponent + power else exponent - power) (next :: beyond)
        | [] =>
            significand.settle
              (if (exponentSign text).1 then exponent + power else exponent - power) []
      else .error (.atNext .invalidNumber (c :: rest))

/-- Reads an exponent if there is one. -/
def power (significand : Significand) (exponent : Int) :
    List Char → Except Failure (Number × List Char)
  | 'e' :: rest => significand.withPower exponent rest
  | 'E' :: rest => significand.withPower exponent rest
  | rest => significand.settle exponent rest

/-- Reads a fraction from behind its point. Digits that no longer fit are dropped. -/
def withFraction (significand : Significand) (exponent : Int) (text : List Char) :
    Except Failure (Number × List Char) :=
  let (digits, rest) := gather wordLimit significand.digits text
  let places := text.length - rest.length
  if startsWithDigit rest then
    Significand.power ⟨significand.positive, digits⟩ (exponent - places) (skipDigits rest)
  else if places = 0 then
    .error (.atNext (if rest.isEmpty then .eofInValue else .invalidNumber) rest)
  else Significand.power ⟨significand.positive, digits⟩ (exponent - places) rest

/-- A whole number in range, or a negative one beyond it. -/
def whole (significand : Significand) : Number :=
  if significand.positive then .natural significand.digits
  else if 1 ≤ significand.digits ∧ 2 * significand.digits ≤ wordLimit then .negative significand.digits
  else .real (-significand.digits.toUInt64.toFloat)

/-- Reads what follows whole digits; `dropped` digits before it did not fit. -/
def tail (significand : Significand) (dropped : Nat) :
    List Char → Except Failure (Number × List Char)
  | '.' :: rest => significand.withFraction dropped rest
  | 'e' :: rest => significand.withPower dropped rest
  | 'E' :: rest => significand.withPower dropped rest
  | rest => if dropped = 0 then .ok (significand.whole, rest) else significand.settle dropped rest

end Significand

/-- Reads a number from behind its sign. -/
def read (positive : Bool) (text : List Char) : Except Failure (Number × List Char) :=
  match text with
  | [] => .error (.behind .eofInValue [])
  | c :: rest =>
      if c = '0' then
        if startsWithDigit rest then .error (.atNext .invalidNumber rest)
        else Significand.tail ⟨positive, 0⟩ 0 rest
      else if isDigit c then
        let (digits, rest) := gather wordLimit (digitValue c) rest
        let beyond := skipDigits rest
        Significand.tail ⟨positive, digits⟩ (rest.length - beyond.length) beyond
      else .error (.atNext .invalidNumber (c :: rest))

theorem gather_length_le (limit value : Nat) (text : List Char) :
    (gather limit value text).2.length ≤ text.length := by
  induction text generalizing value with
  | nil => simp [gather]
  | cons c rest inductionHypothesis =>
      simp only [gather]
      split
      · exact Nat.le_succ_of_le (inductionHypothesis _)
      · simp

namespace Significand

variable {significand : Significand} {exponent : Int} {dropped : Nat} {text rest : List Char}
  {number : Number}

theorem settle_length_le (read : significand.settle exponent text = .ok (number, rest)) :
    rest.length ≤ text.length := by
  unfold settle at read
  split at read
  · cases read
    exact Nat.le_refl _
  · cases read

theorem withPower_length_le (read : significand.withPower exponent text = .ok (number, rest)) :
    rest.length ≤ text.length := by
  have signBound := exponentSign_length_le text
  unfold withPower at read
  split at read
  · cases read
  · next c behindSign found =>
      rw [found, List.length_cons] at signBound
      split at read
      · have digitBound := gather_length_le powerLimit (digitValue c) behindSign
        split at read
        next power afterDigits gathered =>
        rw [gathered] at digitBound
        simp only at digitBound
        split at read
        · next after beyond =>
            rw [List.length_cons] at digitBound
            split at read
            · split at read
              · cases read
              · cases read
                have := skipDigits_length_le beyond
                omega
            · have := settle_length_le read
              rw [List.length_cons] at this
              omega
        · have := settle_length_le read
          rw [List.length_nil] at this
          omega
      · cases read

theorem power_length_le (read : significand.power exponent text = .ok (number, rest)) :
    rest.length ≤ text.length := by
  unfold power at read
  split at read
  · exact Nat.le_succ_of_le (withPower_length_le read)
  · exact Nat.le_succ_of_le (withPower_length_le read)
  · exact settle_length_le read

theorem withFraction_length_le
    (read : significand.withFraction exponent text = .ok (number, rest)) :
    rest.length ≤ text.length := by
  have digitBound := gather_length_le wordLimit significand.digits text
  unfold withFraction at read
  simp only at read
  split at read
  · exact Nat.le_trans (power_length_le read)
      (Nat.le_trans (skipDigits_length_le _) digitBound)
  · split at read
    · cases read
    · exact Nat.le_trans (power_length_le read) digitBound

theorem tail_length_le (read : significand.tail dropped text = .ok (number, rest)) :
    rest.length ≤ text.length := by
  unfold tail at read
  split at read
  · exact Nat.le_succ_of_le (withFraction_length_le read)
  · exact Nat.le_succ_of_le (withPower_length_le read)
  · exact Nat.le_succ_of_le (withPower_length_le read)
  · split at read
    · cases read
      exact Nat.le_refl _
    · exact settle_length_le read

end Significand

theorem read_length {positive : Bool} {text rest : List Char} {number : Number}
    (result : read positive text = .ok (number, rest)) : rest.length < text.length := by
  unfold read at result
  split at result
  · cases result
  · next c behindFirst =>
      split at result
      · split at result
        · cases result
        · exact Nat.lt_succ_of_le (Significand.tail_length_le result)
      · split at result
        · exact Nat.lt_succ_of_le (Nat.le_trans (Significand.tail_length_le result)
            (Nat.le_trans (skipDigits_length_le _) (gather_length_le _ _ _)))
        · cases result

end Number

end FrameCycle.Json
