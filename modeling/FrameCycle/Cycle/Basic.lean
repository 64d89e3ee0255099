import FrameCycle.Capture
import FrameCycle.Config
import FrameCycle.Frame.Grid

/-!
The frame cycle: its memory between ticks, how it starts, and how it ends. A machine that has been
made is released on every way out.
-/
namespace FrameCycle

inductive Phase where
  | created
  | running
  | terminating
  | destroyed
  deriving DecidableEq

namespace Phase

def name : Phase → String
  | created => "Created"
  | running => "Running"
  | terminating => "Terminating"
  | destroyed => "Destroyed"

end Phase

/-- A cycle under way, with the bench it runs on. -/
structure Cycle (State Store Memory : Type) where
  script : Script
  /-- Loaded by actions that name no snapshot. -/
  snapshot : Path
  frame : Frame
  pipeline : Option (Pipeline Memory)
  latch : Latch
  report : Option CaptureReport
  tick : UInt32
  frames : UInt64
  displayStat : RunningStat Millis
  upscaleStat : RunningStat Millis
  phase : Phase
  bench : Bench State Store

def displayStatName : String := "display-read"

def upscaleStatName : String := "upscale"

def gridFile : String := "grid.png"

/-- What starting a cycle leads to. -/
inductive Start (State Store Memory : Type) where
  /-- The machine could not be made. -/
  | refused (bench : Bench State Store)
  /-- A size did not fit its word; the machine has been released. -/
  | faulted (fault : Fault) (bench : Bench State Store)
  | started (cycle : Cycle State Store Memory)

variable {State Store Memory : Type}

/-- The grid for a display of `width` by `height`, one pixel larger on both axes. -/
def referenceGrid (width height : UInt32) : Except Fault Frame := do
  Frame.grid (← Checked.add32 width 1) (← Checked.add32 height 1)

/-- Writes the reference grid; a write that fails is only logged. -/
def Bench.writeGrid (sink : Sink Store) (directory : Path) (grid : Frame)
    (bench : Bench State Store) : Bench State Store :=
  match bench.write sink (directory.join (.ofString gridFile)) grid with
  | (.ok (), bench) => bench
  | (.error error, bench) => bench.log (.gridFailed error)

/-- Gives the machine its sound buffers, which are silent. -/
def Bench.registerAudio (core : Core State) (bench : Bench State Store) : Bench State Store :=
  (List.range Config.audioChannels).foldl
    (fun bench channel => bench.audio core channel (Array.replicate Config.bufferLength.toNat 0))
    bench

namespace Cycle

/-- Writes the grid if the configuration asks for one. -/
def startGrid (sink : Sink Store) (config : Config) (width height : UInt32)
    (bench : Bench State Store) : Except Fault (Bench State Store) :=
  if config.grid then
    (referenceGrid width height).map fun grid => bench.writeGrid sink config.outputDir grid
  else .ok bench

/-- The buffers for a display of `width` by `height`. -/
def startBuffers (upscalers : Option (Upscalers Memory)) (width height : UInt32) :
    Except Fault (Frame × Option (Pipeline Memory)) := do
  let frame ← Frame.blank width height
  match upscalers with
  | none => return (frame, none)
  | some upscalers => return (frame, some (← Pipeline.make upscalers width height))

/-- A cycle at its first tick. -/
def initial (config : Config) (frame : Frame) (pipeline : Option (Pipeline Memory))
    (bench : Bench State Store) : Cycle State Store Memory where
  script := config.script
  snapshot := config.snapshot
  frame
  pipeline
  latch := .armed config.captureTick config.outputDir
  report := none
  tick := 0
  frames := 0
  displayStat := .fresh displayStatName
  upscaleStat := .fresh upscaleStatName
  phase := .running
  bench

/-- Makes the machine and everything that depends on the size of its display. -/
def start (rig : Rig State Store) (config : Config) (upscalers : Option (Upscalers Memory))
    (bench : Bench State Store) : Start State Store Memory :=
  match bench.create rig.core config.createParams with
  | (false, bench) => .refused bench
  | (true, bench) =>
      let ((width, height), bench) := bench.resolution rig.core
      let bench := bench.log (.resolution width height)
      match startGrid rig.sink config width height bench with
      | .error fault => .faulted fault (bench.release rig.core)
      | .ok bench =>
          match startBuffers upscalers width height with
          | .error fault => .faulted fault (bench.release rig.core)
          | .ok (frame, pipeline) =>
              .started (initial config frame pipeline (bench.registerAudio rig.core))

end Cycle

/-- What a finished run reports. -/
structure RunReport where
  frames : UInt64
  display : RunningStat Millis
  /-- Present if there were upscalers. -/
  upscale : Option (RunningStat Millis)
  capture : Option CaptureReport
  phase : Phase

namespace RunReport

def summary (report : RunReport) : List Log.Message :=
  let display := report.display
  .average display.name display.count display.average ::
    match report.upscale with
    | none => []
    | some upscale =>
        [.average upscale.name upscale.count upscale.average,
         .combined (upscale.average + display.average)]

end RunReport

namespace Cycle

/-- The bench of a cycle that is given up, its machine released. -/
def abandon (rig : Rig State Store) (cycle : Cycle State Store Memory) : Bench State Store :=
  cycle.bench.release rig.core

def runReport (cycle : Cycle State Store Memory) : RunReport where
  frames := cycle.frames
  display := cycle.displayStat
  upscale := cycle.pipeline.map fun _ => cycle.upscaleStat
  capture := cycle.report
  phase := .destroyed

/-- Releases the machine and reports. -/
def finish (rig : Rig State Store) (cycle : Cycle State Store Memory) :
    RunReport × Bench State Store :=
  let report := cycle.runReport
  (report, (cycle.abandon rig).logAll report.summary)

end Cycle

end FrameCycle
