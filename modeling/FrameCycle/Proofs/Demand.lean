import FrameCycle.Cycle.Basic

/-!
What the journal of a bench demands of the machine, the upscalers and the image store: its calls
without their outcomes, and of an image only its size. Each operation on a bench adds its own
demands behind those that were there.
-/
namespace FrameCycle

/-- A call without its outcome. -/
inductive Demand where
  | create (params : CreateParams)
  | advance
  | display
  | audio (channel : Nat) (buffer : Array UInt8)
  | key (key : Key) (pressed : Bool)
  | snapshot (path : Path)
  | release
  | upscale (name : String) (factor : UInt32)
  | write (path : Path) (width height : Nat)
  deriving DecidableEq

namespace Demand

/-- Keys, snapshots and sound buffers: all that is handed to the machine after it is made. -/
def isInput : Demand → Bool
  | key _ _ | snapshot _ | audio _ _ => true
  | _ => false

def isUpscale : Demand → Bool
  | upscale _ _ => true
  | _ => false

def isWrite : Demand → Bool
  | write _ _ _ => true
  | _ => false

end Demand

def Call.demand : Call → Demand
  | .create params => .create params
  | .advance => .advance
  | .display => .display
  | .audio channel buffer => .audio channel buffer
  | .key name pressed => .key name pressed
  | .snapshot path _ => .snapshot path
  | .release => .release
  | .upscale name factor => .upscale name factor
  | .write path frame _ => .write path frame.width.toNat frame.height.toNat

namespace Bench

variable {State Store : Type}

def calls (bench : Bench State Store) : List Call :=
  bench.journal.calls

def demands (bench : Bench State Store) : List Demand :=
  bench.calls.map Call.demand

theorem demands_eq (bench : Bench State Store) : bench.demands = bench.calls.map Call.demand := rfl

@[simp]
theorem calls_call (call : Call) (bench : Bench State Store) :
    (bench.call call).calls = bench.calls ++ [call] :=
  Journal.calls_push_call bench.journal call

@[simp]
theorem calls_log (message : Log.Message) (bench : Bench State Store) :
    (bench.log message).calls = bench.calls :=
  Journal.calls_push_message bench.journal message

@[simp]
theorem demands_log (message : Log.Message) (bench : Bench State Store) :
    (bench.log message).demands = bench.demands :=
  congrArg (List.map Call.demand) (calls_log message bench)

@[simp]
theorem calls_logAll (messages : List Log.Message) (bench : Bench State Store) :
    (bench.logAll messages).calls = bench.calls := by
  induction messages generalizing bench with
  | nil => rfl
  | cons message rest inductionHypothesis =>
      rw [← calls_log message bench]
      exact inductionHypothesis (bench.log message)

@[simp]
theorem calls_measure (bench : Bench State Store) : bench.measure.2.calls = bench.calls := rfl

@[simp]
theorem calls_accumulate (stat : RunningStat Millis) (bench : Bench State Store) :
    (bench.accumulate stat).2.calls = bench.calls := by
  simp only [accumulate]
  split <;> simp

@[simp]
theorem calls_timed (name : String) (bench : Bench State Store) :
    (bench.timed name).2.calls = bench.calls := by
  simp [timed]

@[simp]
theorem calls_create (core : Core State) (params : CreateParams) (bench : Bench State Store) :
    (bench.create core params).2.calls = bench.calls ++ [.create params] := by
  have asked : ((bench.logAll (core.opening params)).call (.create params)).calls =
      bench.calls ++ [.create params] := by simp
  simp only [create]
  split
  · exact asked
  · rw [calls_logAll]
    exact asked

@[simp]
theorem calls_resolution (core : Core State) (bench : Bench State Store) :
    (bench.resolution core).2.calls = bench.calls := rfl

@[simp]
theorem calls_advance (core : Core State) (bench : Bench State Store) :
    (bench.advance core).calls = bench.calls ++ [.advance] :=
  calls_call .advance bench

@[simp]
theorem calls_display (core : Core State) (frame : Frame) (bench : Bench State Store) :
    (bench.display core frame).2.calls = bench.calls ++ [.display] :=
  calls_call .display bench

@[simp]
theorem calls_audio (core : Core State) (channel : Nat) (buffer : Array UInt8)
    (bench : Bench State Store) :
    (bench.audio core channel buffer).calls = bench.calls ++ [.audio channel buffer] :=
  calls_call (.audio channel buffer) bench

@[simp]
theorem calls_key (core : Core State) (key : Key) (pressed : Bool) (bench : Bench State Store) :
    (bench.key core key pressed).calls = bench.calls ++ [.key key pressed] :=
  calls_call (.key key pressed) bench

@[simp]
theorem calls_snapshot (core : Core State) (path : Path) (bench : Bench State Store) :
    (bench.snapshot core path).2.calls =
      bench.calls ++ [.snapshot path (bench.snapshot core path).1] :=
  calls_call (.snapshot path _) bench

@[simp]
theorem calls_release (core : Core State) (bench : Bench State Store) :
    (bench.release core).calls = bench.calls ++ [.release] := by
  rw [← calls_logAll core.closing bench]
  exact calls_call .release (bench.logAll core.closing)

@[simp]
theorem calls_write (sink : Sink Store) (path : Path) (frame : Frame) (bench : Bench State Store) :
    (bench.write sink path frame).2.calls =
      bench.calls ++ [.write path frame (bench.write sink path frame).1.isOk] :=
  calls_call (.write path frame _) bench

@[simp]
theorem demands_call (call : Call) (bench : Bench State Store) :
    (bench.call call).demands = bench.demands ++ [call.demand] := by
  simp [demands_eq]

@[simp]
theorem demands_accumulate (stat : RunningStat Millis) (bench : Bench State Store) :
    (bench.accumulate stat).2.demands = bench.demands := by
  simp [demands_eq]

@[simp]
theorem demands_advance (core : Core State) (bench : Bench State Store) :
    (bench.advance core).demands = bench.demands ++ [.advance] := by
  simp [demands_eq, Call.demand]

@[simp]
theorem demands_display (core : Core State) (frame : Frame) (bench : Bench State Store) :
    (bench.display core frame).2.demands = bench.demands ++ [.display] := by
  simp [demands_eq, Call.demand]

end Bench

end FrameCycle
