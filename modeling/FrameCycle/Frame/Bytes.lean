import FrameCycle.Frame.Basic

/-!
The bytes of a frame: four to a pixel, the lowest first, rows without gaps.
-/
namespace FrameCycle

namespace Pixel

def bytes (pixel : UInt32) : List UInt8 :=
  [pixel.toUInt8, (pixel >>> 8).toUInt8, (pixel >>> 16).toUInt8, (pixel >>> 24).toUInt8]

def ofBytes (red green blue alpha : UInt8) : UInt32 :=
  red.toUInt32 ||| green.toUInt32 <<< 8 ||| blue.toUInt32 <<< 16 ||| alpha.toUInt32 <<< 24

end Pixel

namespace Frame

def bytes (frame : Frame) : List UInt8 :=
  frame.pixels.toList.flatMap Pixel.bytes

/-- The content whose byte at each offset is `byte` of it. -/
def contentOfBytes (frame : Frame) (byte : Nat → UInt8) : frame.Content :=
  frame.tabulate fun index =>
    Pixel.ofBytes (byte (4 * index)) (byte (4 * index + 1)) (byte (4 * index + 2))
      (byte (4 * index + 3))

end Frame

end FrameCycle
