/-!
Arithmetic on words of fixed size. A result that its word cannot hold is a fault, never a smaller
number, so every caller sees which operation failed.
-/
namespace FrameCycle

/-- Why a computation could not go on. -/
inductive Fault where
  | addOverflow
  | mulOverflow
  | indexOutOfBounds (length index : Nat)
  | capacityOverflow
  deriving DecidableEq

namespace Fault

def message : Fault → String
  | addOverflow => "attempt to add with overflow"
  | mulOverflow => "attempt to multiply with overflow"
  | indexOutOfBounds length index =>
      s!"index out of bounds: the len is {length} but the index is {index}"
  | capacityOverflow => "capacity overflow"

end Fault

namespace Checked

/-- One more than the greatest size a buffer can be asked for. -/
def sizeLimit : Nat := UInt64.size

def add32 (a b : UInt32) : Except Fault UInt32 :=
  if a.toNat + b.toNat < UInt32.size then .ok (a + b) else .error .addOverflow

def mul32 (a b : UInt32) : Except Fault UInt32 :=
  if a.toNat * b.toNat < UInt32.size then .ok (a * b) else .error .mulOverflow

def add64 (a b : UInt64) : Except Fault UInt64 :=
  if a.toNat + b.toNat < UInt64.size then .ok (a + b) else .error .addOverflow

/-- A product of sizes, which are natural numbers below `sizeLimit`. -/
def mulSize (a b : Nat) : Except Fault Nat :=
  if a * b < sizeLimit then .ok (a * b) else .error .mulOverflow

theorem add32_eq_ok {a b c : UInt32} (sum : add32 a b = .ok c) :
    c.toNat = a.toNat + b.toNat := by
  unfold add32 at sum
  split at sum
  · next fits =>
      cases sum
      rw [UInt32.toNat_add, Nat.mod_eq_of_lt fits]
  · cases sum

theorem mul32_eq_ok {a b c : UInt32} (product : mul32 a b = .ok c) :
    c.toNat = a.toNat * b.toNat := by
  unfold mul32 at product
  split at product
  · next fits =>
      cases product
      rw [UInt32.toNat_mul, Nat.mod_eq_of_lt fits]
  · cases product

theorem add64_eq_ok {a b c : UInt64} (sum : add64 a b = .ok c) :
    c.toNat = a.toNat + b.toNat := by
  unfold add64 at sum
  split at sum
  · next fits =>
      cases sum
      rw [UInt64.toNat_add, Nat.mod_eq_of_lt fits]
  · cases sum

end Checked

theorem bind_eq_ok {ε α β : Type} {first : Except ε α} {next : α → Except ε β} {value : β} :
    first >>= next = .ok value ↔ ∃ found, first = .ok found ∧ next found = .ok value := by
  cases first <;> simp [bind, Except.bind]

end FrameCycle
