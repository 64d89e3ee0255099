import FrameCycle.Decimal.Shortest
import FrameCycle.Fault

/-!
Running averages of measured times. One more sample first raises the count and then weighs the old
average by that count, so that every sample weighs less than in an arithmetic mean. The fold is
written for any numbers: the program runs it on 32-bit floating point.
-/
namespace FrameCycle

/-- Numbers in which times are averaged. -/
class Measure (α : Type) extends Add α, Mul α, Div α where
  zero : α
  one : α
  ofCount : UInt64 → α

instance : Measure Float32 where
  zero := 0
  one := 1
  ofCount count := count.toFloat32

structure RunningStat (α : Type) where
  name : String
  count : UInt64
  average : α

namespace RunningStat

variable {α : Type} [Measure α]

def fresh (name : String) : RunningStat α :=
  ⟨name, 0, Measure.zero⟩

/-- The average after a sample, `count` including it. -/
def blend (count average sample : α) : α :=
  (count * average + sample) / (count + Measure.one)

/-- Folds a sample in; a count that cannot be raised is a fault. -/
def record (stat : RunningStat α) (sample : α) : Except Fault (RunningStat α) :=
  match Checked.add64 stat.count 1 with
  | .error fault => .error fault
  | .ok count =>
      .ok { stat with count, average := blend (Measure.ofCount count) stat.average sample }

end RunningStat

/-- Measured times in milliseconds. -/
abbrev Millis := Float32

namespace Millis

/-- Times are measured in whole microseconds. -/
def ofMicros (micros : UInt64) : Millis :=
  micros.toFloat32 / 1000

/-- A time has every figure in its place, and a half goes up in size. -/
def text (time : Millis) : String :=
  (FloatShape.ofFloat32 time).text .away Decimal.plain

end Millis

/-- The elapsed times that successive measurements find. -/
structure Clock where
  micros : Nat → UInt64
  taken : Nat

namespace Clock

def ofReadings (micros : Nat → UInt64) : Clock :=
  ⟨micros, 0⟩

def next (clock : Clock) : Millis × Clock :=
  (Millis.ofMicros (clock.micros clock.taken), { clock with taken := clock.taken + 1 })

end Clock

end FrameCycle
