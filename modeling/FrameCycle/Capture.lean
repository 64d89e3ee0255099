import FrameCycle.Timing
import FrameCycle.Upscale.Pipeline

/-!
The capture: once in a run, at its tick, the frame and its enlargements are written as images. A
write that fails is logged and listed, and the rest of the capture goes on.
-/
namespace FrameCycle

/-- What a capture did. -/
structure CaptureReport where
  /-- The paths written, in order. -/
  exported : List Path
  /-- How long the upscale for the capture took, if there was one. -/
  upscaleTime : Option Millis
  /-- What went wrong, in order. -/
  failures : List Error

namespace CaptureReport

def empty : CaptureReport := ⟨[], none, []⟩

def addExported (report : CaptureReport) (path : Path) : CaptureReport :=
  { report with exported := report.exported ++ [path] }

def addFailure (report : CaptureReport) (error : Error) : CaptureReport :=
  { report with failures := report.failures ++ [error] }

end CaptureReport

def originalFile : String := "original.png"

/-- The file for a frame enlarged by `factor`. -/
def resizedFile (factor : UInt32) : String :=
  s!"resized_{factor.toNat}x.png"

/-- Fires at `tick`, and only once. -/
structure Latch where
  tick : UInt32
  outputDir : Path
  fired : Bool

namespace Latch

def armed (tick : UInt32) (outputDir : Path) : Latch :=
  ⟨tick, outputDir, false⟩

end Latch

variable {State Store Memory : Type}

/-- Writes one image of a capture. -/
def Bench.shoot (sink : Sink Store) (directory : Path) (file : String) (frame : Frame)
    (report : CaptureReport) (bench : Bench State Store) : CaptureReport × Bench State Store :=
  let path := directory.join (.ofString file)
  match (bench.log (.screenshot path)).write sink path frame with
  | (.ok (), bench) => (report.addExported path, bench)
  | (.error error, bench) => (report.addFailure error, bench.log (.captureFailed error))

/-- Runs a pipeline's upscaler for the capture and times it, also when it stops early. -/
def Bench.upscaleCapture (pipeline : Pipeline Memory) (frame : Frame)
    (bench : Bench State Store) :
    Except Stop Unit × Millis × Pipeline Memory × Bench State Store :=
  let stage := pipeline.capture
  let bench := (bench.log (.upscaling stage.name)).call (.upscale stage.name stage.factor)
  let (result, pipeline) := pipeline.runCapture frame
  let (time, bench) := bench.timed stage.name
  (result, time, pipeline, bench)

/-- What a capture leaves behind. Its outcome is a report if it fired, and a fault if the upscaler
for the capture ended in one. -/
structure Shot (State Store Memory : Type) where
  outcome : Except Fault (Option CaptureReport)
  latch : Latch
  pipeline : Option (Pipeline Memory)
  bench : Bench State Store

/-- The part of a capture that needs upscalers. -/
def Bench.shootUpscaled (sink : Sink Store) (directory : Path) (pipeline : Pipeline Memory)
    (frame : Frame) (report : CaptureReport) (bench : Bench State Store) :
    Except Fault CaptureReport × Pipeline Memory × Bench State Store :=
  let (report, bench) :=
    bench.shoot sink directory (resizedFile pipeline.perFrame.factor) pipeline.perFrame.output
      report
  match bench.upscaleCapture pipeline frame with
  | (.error (.fault fault), _, pipeline, bench) => (.error fault, pipeline, bench)
  | (.error (.error error), time, pipeline, bench) =>
      let report := { report with upscaleTime := some time }.addFailure error
      (.ok report, pipeline, bench.log (.upscaleFailed pipeline.capture.name error))
  | (.ok (), time, pipeline, bench) =>
      let (report, bench) :=
        bench.shoot sink directory (resizedFile pipeline.capture.factor) pipeline.capture.output
          { report with upscaleTime := some time }
      (.ok report, pipeline, bench)

/-- Captures `frame` if the latch has not fired and `tick` is its tick. The latch is spent before
anything is written, so a failed capture is not tried again. -/
def Latch.capture (latch : Latch) (sink : Sink Store) (tick : UInt32) (frame : Frame)
    (pipeline : Option (Pipeline Memory)) (bench : Bench State Store) :
    Shot State Store Memory :=
  if latch.fired ∨ tick ≠ latch.tick then ⟨.ok none, latch, pipeline, bench⟩
  else
    let latch := { latch with fired := true }
    let (report, bench) := bench.shoot sink latch.outputDir originalFile frame .empty
    match pipeline with
    | none => ⟨.ok (some report), latch, none, bench⟩
    | some pipeline =>
        let (outcome, pipeline, bench) :=
          bench.shootUpscaled sink latch.outputDir pipeline frame report
        ⟨outcome.map some, latch, some pipeline, bench⟩

end FrameCycle
