import FrameCycle.Core
import FrameCycle.Storage.FileSystem
import FrameCycle.Storage.PngBytes

/-!
Storing frames as image files. The file is created before the frame is looked at, so a frame without
pixels leaves the end of an image behind, and nothing before it.
-/
namespace FrameCycle

namespace Png

/-- All that is needed to show a frame: an encoder is given its sides and its bytes. -/
def body (encode : Encoder) (frame : Frame) : List UInt8 :=
  encode frame.width frame.height frame.bytes

/-- Why a frame of this size has no image. -/
def refusal? (frame : Frame) : Option ImageError :=
  if frame.width = 0 then some .zeroWidth
  else if frame.height = 0 then some .zeroHeight
  else none

/-- Writes a frame to a file. -/
def write (files : FileSystem) (path : Path) (frame : Frame) : Except Error Unit × FileSystem :=
  match files.writable path with
  | .error error => (.error (.image path (.file error)), files)
  | .ok place =>
      match refusal? frame with
      | some error => (.error (.image path error), files.put place (.file (.bytes closing)))
      | none => (.ok (), files.put place (.file (.image frame closing)))

def sink : Sink FileSystem where
  write := write

end Png

/-- The bytes of a file whose image an encoder has made. -/
def FileContent.data (encode : Png.Encoder) : FileContent → List UInt8
  | bytes data => data
  | image frame after => Png.body encode frame ++ after

end FrameCycle
