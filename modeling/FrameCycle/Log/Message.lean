import FrameCycle.Error
import FrameCycle.Telemetry

/-!
What the program says while it runs. A message knows its level and which part of the program speaks;
its wording stands in one function.
-/
namespace FrameCycle.Log

inductive Level where
  | error
  | warn
  | info
  | debug
  | trace
  deriving DecidableEq

namespace Level

def name : Level → String
  | error => "ERROR"
  | warn => "WARN"
  | info => "INFO"
  | debug => "DEBUG"
  | trace => "TRACE"

/-- Grows with the detail that a level admits. -/
def rank : Level → Nat
  | error => 1
  | warn => 2
  | info => 3
  | debug => 4
  | trace => 5

end Level

/-- The parts of the program that speak. -/
inductive Speaker where
  | program
  | controller
  | capture
  | timer
  | library
  deriving DecidableEq

namespace Speaker

/-- The name by which a part is addressed when messages are filtered. -/
def path : Speaker → String
  | program => "gumak_bench"
  | controller => "gumak_bench::controller"
  | capture => "gumak_bench::capture"
  | timer => "gumak_bench::telemetry::timer"
  | library => "gumak_bench::emulator::gumak"

end Speaker

inductive Message where
  | banner
  | notCreated
  | resolution (width height : UInt32)
  | gridFailed (error : Error)
  | accumulated (name : String) (time : Millis)
  | tick (number : UInt32)
  | label (text : String)
  | keyPressed (key : Key)
  | keyReleased (key : Key)
  | loading (path : Path)
  | loadFailed (path : Path)
  | screenshot (path : Path)
  | captureFailed (error : Error)
  | upscaling (name : String)
  | timed (name : String) (time : Millis)
  | upscaleFailed (name : String) (error : Error)
  | average (name : String) (count : UInt64) (time : Millis)
  | combined (time : Millis)
  | done
  | loadingRoms (path : Path)
  | nullInstance
  | releasing

namespace Message

def level : Message → Level
  | notCreated | captureFailed _ | upscaleFailed _ _ | nullInstance => .error
  | gridFailed _ | loadFailed _ => .warn
  | accumulated _ _ | tick _ => .trace
  | _ => .info

def speaker : Message → Speaker
  | banner => .program
  | accumulated _ _ | timed _ _ => .timer
  | screenshot _ | captureFailed _ | upscaling _ | upscaleFailed _ _ => .capture
  | loadingRoms _ | nullInstance | releasing => .library
  | _ => .controller

def text : Message → String
  | banner => "Gumak frame-cycle benchmark"
  | notCreated => "Failed to create instance"
  | resolution width height => s!"Resolution {width.toNat}x{height.toNat}"
  | gridFailed error => s!"Reference grid not written: {error.message}"
  | accumulated name time => s!"{name} took {time.text}ms"
  | tick number => s!"Tick {number.toNat}"
  | label text => text
  | keyPressed key => s!"Key {key.title} pressed"
  | keyReleased key => s!"Key {key.title} released"
  | loading path => s!"Loading snapshot {path.quoted}"
  | loadFailed path => s!"Failed to load snapshot {path.quoted}"
  | screenshot path => s!"=> Capture screenshot {path.quoted}"
  | captureFailed error => s!"Capture failed: {error.message}"
  | upscaling name => s!"{name} upscale"
  | timed name time => s!"  {name} took {time.text}ms"
  | upscaleFailed name error => s!"{name} upscale failed: {error.message}"
  | average name count time => s!"{name}: {count.toNat}x - avg. {time.text}ms"
  | combined time => s!"=> Upscaled frame: avg. {time.text}ms"
  | done => "Done."
  | loadingRoms path => s!"Loading roms from {path.quoted}"
  | nullInstance => "GumakCreate returned a null instance"
  | releasing => "Destroy instance"

end Message

end FrameCycle.Log
