import FrameCycle.Upscale.Geometry

/-!
Upscalers and the pair of them that a run uses: one for every frame and one for the capture. Each
has an output of its own, and writes nothing but the pixels of that output.
-/
namespace FrameCycle

variable {Memory : Type}

/-- What an upscaler leaves behind. -/
structure Upscaled (Memory : Type) (target : Frame) where
  outcome : Except Stop Unit
  content : target.Content
  memory : Memory

/-- A filter that enlarges frames by a factor on both axes; `Memory` is what it keeps from call to
call. -/
structure Upscaler (Memory : Type) where
  name : String
  factor : UInt32
  filter : Memory → (source target : Frame) → Upscaled Memory target

/-- A resize filter as its library has it. It is told no sizes but those of the source, and fills its
target by them. -/
abbrev Resizer (Memory : Type) :=
  Memory → (source target : Frame) → target.Content × Memory

/-- A filter behind a check of the geometry: on other sizes it is not called, and the target stays
as it is. -/
def Upscaler.linked (name : String) (factor : UInt32) (resizer : Resizer Memory) :
    Upscaler Memory where
  name
  factor
  filter memory source target :=
    match ensureTargetSize source target factor with
    | .ok () =>
        let (content, memory) := resizer memory source target
        ⟨.ok (), content, memory⟩
    | .error stop => ⟨.error stop, target.content, memory⟩

/-- A filter without a memory behind the check. -/
def Upscaler.checked (name : String) (factor : UInt32)
    (filter : (source target : Frame) → target.Content) : Upscaler Unit :=
  .linked name factor fun _ source target => (filter source target, ())

/-- The upscalers that a run is given, with their memories. -/
structure Upscalers (Memory : Type) where
  perFrame : Upscaler Memory
  perFrameMemory : Memory
  capture : Upscaler Memory
  captureMemory : Memory

/-- The filters that a program is linked with, and the memory that each of them begins with. -/
structure Resizers (Memory : Type) where
  threefold : Resizer Memory
  twofold : Resizer Memory
  memory : Memory

/-- The upscalers of a program: three times for every frame, twice for the capture. -/
def Resizers.upscalers (resizers : Resizers Memory) : Upscalers Memory where
  perFrame := .linked "hq3x" 3 resizers.threefold
  perFrameMemory := resizers.memory
  capture := .linked "hq2x" 2 resizers.twofold
  captureMemory := resizers.memory

/-- An upscaler with its output. -/
structure Stage (Memory : Type) where
  upscaler : Upscaler Memory
  memory : Memory
  output : Frame

namespace Stage

def name (stage : Stage Memory) : String :=
  stage.upscaler.name

def factor (stage : Stage Memory) : UInt32 :=
  stage.upscaler.factor

def make (upscaler : Upscaler Memory) (memory : Memory) (width height : UInt32) :
    Except Fault (Stage Memory) := do
  return ⟨upscaler, memory, ← Frame.scaled width height upscaler.factor⟩

def run (stage : Stage Memory) (source : Frame) : Except Stop Unit × Stage Memory :=
  let result := stage.upscaler.filter stage.memory source stage.output
  (result.outcome,
   { stage with memory := result.memory, output := stage.output.withPixels result.content })

end Stage

structure Pipeline (Memory : Type) where
  perFrame : Stage Memory
  capture : Stage Memory

namespace Pipeline

/-- Outputs for frames of `width` by `height`. -/
def make (upscalers : Upscalers Memory) (width height : UInt32) :
    Except Fault (Pipeline Memory) := do
  let perFrame ← Stage.make upscalers.perFrame upscalers.perFrameMemory width height
  let capture ← Stage.make upscalers.capture upscalers.captureMemory width height
  return ⟨perFrame, capture⟩

def runPerFrame (pipeline : Pipeline Memory) (source : Frame) :
    Except Stop Unit × Pipeline Memory :=
  let (result, perFrame) := pipeline.perFrame.run source
  (result, { pipeline with perFrame })

def runCapture (pipeline : Pipeline Memory) (source : Frame) :
    Except Stop Unit × Pipeline Memory :=
  let (result, capture) := pipeline.capture.run source
  (result, { pipeline with capture })

end Pipeline

end FrameCycle
