import FrameCycle.Cycle.Basic

/-!
One step of the cycle: the machine runs for a frame, the frame is read and enlarged, and the tick
goes on to what the script and the capture ask for. A step that stops early keeps what it did.
-/
namespace FrameCycle

variable {State Store Memory : Type}

/-- Work on a cycle that may stop early, what it did so far being kept. -/
abbrev Work (State Store Memory α : Type) :=
  EStateM Stop (Cycle State Store Memory) α

namespace Cycle

def onBench (change : Bench State Store → Bench State Store) : Work State Store Memory Unit :=
  modify fun cycle => { cycle with bench := change cycle.bench }

/-- Goes on with a checked value, or stops at its fault. -/
def checked {α : Type} : Except Fault α → Work State Store Memory α
  | .ok value => pure value
  | .error fault => throw (.fault fault)

/-- Runs the machine for a frame and counts it. -/
def advance (core : Core State) : Work State Store Memory Unit := do
  onBench (Bench.advance core)
  let frames ← checked (Checked.add64 (← get).frames 1)
  modify fun cycle => { cycle with frames }

/-- Folds a measured time into the display's average. -/
def recordDisplay : Work State Store Memory Unit := do
  let (stat, bench) := (← get).bench.accumulate (← get).displayStat
  modify fun cycle => { cycle with bench }
  let displayStat ← checked stat
  modify fun cycle => { cycle with displayStat }

/-- Reads the display into the frame. -/
def readDisplay (core : Core State) : Work State Store Memory Unit := do
  modify fun cycle =>
    let (frame, bench) := cycle.bench.display core cycle.frame
    { cycle with frame, bench }
  recordDisplay

/-- Folds a measured time into the upscaler's average. -/
def recordUpscale : Work State Store Memory Unit := do
  let (stat, bench) := (← get).bench.accumulate (← get).upscaleStat
  modify fun cycle => { cycle with bench }
  let upscaleStat ← checked stat
  modify fun cycle => { cycle with upscaleStat }

/-- Enlarges the frame. Its time counts also when the upscaler stops early. -/
def upscaleFrame : Work State Store Memory Unit := do
  let cycle ← get
  match cycle.pipeline with
  | none => pure ()
  | some pipeline =>
      onBench (Bench.call (.upscale pipeline.perFrame.name pipeline.perFrame.factor))
      let (result, pipeline) := pipeline.runPerFrame cycle.frame
      modify fun cycle => { cycle with pipeline := some pipeline }
      recordUpscale
      match result with
      | .ok () => pure ()
      | .error stop => throw stop

def nextTick : Work State Store Memory Unit := do
  let tick ← checked (Checked.add32 (← get).tick 1)
  modify fun cycle => { cycle with tick }
  onBench (Bench.log (.tick tick))

def perform (core : Core State) (snapshot : Path) (action : Action) (bench : Bench State Store) :
    Bench State Store :=
  match action with
  | .keyDown key => (bench.log (.keyPressed key)).key core key true
  | .keyUp key => (bench.log (.keyReleased key)).key core key false
  | .loadSnapshot path =>
      let path := path.getD snapshot
      match (bench.log (.loading path)).snapshot core path with
      | (true, bench) => bench
      | (false, bench) => bench.log (.loadFailed path)

/-- Does what the script says for `tick`. -/
def followScript (core : Core State) (script : Script) (snapshot : Path) (tick : UInt32)
    (bench : Bench State Store) : Bench State Store :=
  let bench :=
    match script.labelAt tick with
    | some label => bench.log (.label label)
    | none => bench
  (script.actionsAt tick).foldl (fun bench action => perform core snapshot action bench) bench

def applyScript (core : Core State) : Work State Store Memory Unit :=
  modify fun cycle =>
    { cycle with bench := followScript core cycle.script cycle.snapshot cycle.tick cycle.bench }

/-- At the tick of the capture, captures and goes back to tick 0. -/
def captureFrame (sink : Sink Store) : Work State Store Memory Unit := do
  let cycle ← get
  if cycle.tick = cycle.latch.tick then
    let shot := cycle.latch.capture sink cycle.tick cycle.frame cycle.pipeline cycle.bench
    set { cycle with latch := shot.latch, pipeline := shot.pipeline, bench := shot.bench }
    match ← checked shot.outcome with
    | some report => modify fun cycle => { cycle with report := some report, tick := 0 }
    | none => modify fun cycle => { cycle with tick := 0 }

/-- The cycle is over once its tick is back at 0. -/
def settle : Work State Store Memory Bool := do
  if (← get).tick = 0 then
    modify fun cycle => { cycle with phase := .terminating }
    pure false
  else pure true

/-- One step; `false` once the cycle is over. -/
def step (rig : Rig State Store) : Work State Store Memory Bool := do
  if (← get).phase ≠ .running then pure false
  else
    advance rig.core
    readDisplay rig.core
    upscaleFrame
    nextTick
    applyScript rig.core
    captureFrame rig.sink
    settle

/-- Up to `count` steps, as long as the cycle is not over. -/
def stepUpTo (rig : Rig State Store) : (count : Nat) → Work State Store Memory Bool
  | 0 => pure true
  | count + 1 => do if ← step rig then stepUpTo rig count else pure false

/-- Steps until the cycle is over. The tick grows with every step, so it has no more steps to go
than there are ticks above it. -/
def runToCompletion (rig : Rig State Store) : Work State Store Memory Unit := do
  discard (stepUpTo rig (UInt32.size - (← get).tick.toNat))

end Cycle

/-- How a run ended. -/
inductive RunOutcome where
  | notStarted
  | completed (report : RunReport)
  | stopped (stop : Stop)

/-- A whole run: start, steps and finish. -/
def run (rig : Rig State Store) (config : Config) (upscalers : Option (Upscalers Memory))
    (bench : Bench State Store) : RunOutcome × Bench State Store :=
  match Cycle.start rig config upscalers bench with
  | .refused bench => (.notStarted, bench.log .notCreated)
  | .faulted fault bench => (.stopped (.fault fault), bench)
  | .started cycle =>
      match (Cycle.runToCompletion rig).run cycle with
      | .error stop cycle => (.stopped stop, cycle.abandon rig)
      | .ok () cycle =>
          let (report, bench) := cycle.finish rig
          (.completed report, bench.log .done)

end FrameCycle
