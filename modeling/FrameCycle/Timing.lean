import FrameCycle.Core

/-!
Timing work on a bench: a time is either folded into an average or only reported.
-/
namespace FrameCycle.Bench

variable {State Store : Type}

/-- Measures a time and folds it into an average. -/
def accumulate (stat : RunningStat Millis) (bench : Bench State Store) :
    Except Fault (RunningStat Millis) × Bench State Store :=
  let (time, bench) := bench.measure
  match stat.record time with
  | .ok stat => (.ok stat, bench.log (.accumulated stat.name time))
  | .error fault => (.error fault, bench)

/-- Measures a time and reports it. -/
def timed (name : String) (bench : Bench State Store) : Millis × Bench State Store :=
  let (time, bench) := bench.measure
  (time, bench.log (.timed name time))

end FrameCycle.Bench
