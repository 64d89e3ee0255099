import FrameCycle.Fault

/-!
Frames of pixels in rows. A frame holds exactly as many pixels as its geometry says; one pixel is
reached through its index, which is reckoned in 32 bits and not held to the row.
-/
namespace FrameCycle

/-- Pixels row by row. A pixel holds red, green, blue and alpha, red in its lowest byte. -/
@[ext]
structure Frame where
  width : UInt32
  height : UInt32
  pixels : Array UInt32
  size_pixels : pixels.size = width.toNat * height.toNat

namespace Frame

/-- The number of pixels that a geometry asks for. -/
def area (width height : UInt32) : Nat :=
  width.toNat * height.toNat

/-- No buffer has more bytes. -/
def byteLimit : Nat := 0x7FFFFFFFFFFFFFFF

def bytesPerPixel : Nat := 4

/-- A frame of pixels that are zero, before its size has been weighed. -/
def zeros (width height : UInt32) : Frame where
  width
  height
  pixels := Array.replicate (area width height) 0
  size_pixels := Array.size_replicate

def blank (width height : UInt32) : Except Fault Frame :=
  if bytesPerPixel * area width height ≤ byteLimit then .ok (zeros width height)
  else .error .capacityOverflow

/-- A frame with room for one of `width` by `height` enlarged `factor` times on both axes. -/
def scaled (width height factor : UInt32) : Except Fault Frame := do
  blank (← Checked.mul32 width factor) (← Checked.mul32 height factor)

/-- The number of pixels. -/
def length (frame : Frame) : Nat :=
  frame.pixels.size

/-- The bytes in a row. -/
def stride (frame : Frame) : Nat :=
  frame.width.toNat * bytesPerPixel

def byteLength (frame : Frame) : Nat :=
  frame.length * bytesPerPixel

/-- Where the pixel at `x` in row `y` is stored. -/
def index (frame : Frame) (x y : UInt32) : Except Fault UInt32 := do
  Checked.add32 (← Checked.mul32 y frame.width) x

def pixel (frame : Frame) (x y : UInt32) : Except Fault UInt32 := do
  let place ← frame.index x y
  match frame.pixels[place.toNat]? with
  | some value => .ok value
  | none => .error (.indexOutOfBounds frame.length place.toNat)

def setPixel (frame : Frame) (x y value : UInt32) : Except Fault Frame :=
  match frame.index x y with
  | .error fault => .error fault
  | .ok place =>
      if inside : place.toNat < frame.pixels.size then
        .ok { frame with
          pixels := frame.pixels.set place.toNat value inside
          size_pixels := by rw [Array.size_set]; exact frame.size_pixels }
      else .error (.indexOutOfBounds frame.length place.toNat)

/-- The contents that a frame of some geometry can take. -/
abbrev Content (frame : Frame) :=
  Vector UInt32 (frame.width.toNat * frame.height.toNat)

/-- The same geometry with other pixels. -/
def withPixels (frame : Frame) (content : frame.Content) : Frame where
  width := frame.width
  height := frame.height
  pixels := content.toArray
  size_pixels := content.size_toArray

def content (frame : Frame) : frame.Content :=
  ⟨frame.pixels, frame.size_pixels⟩

/-- The content whose pixel at each index is `value` of it. -/
def tabulate (frame : Frame) (value : Nat → UInt32) : frame.Content :=
  Vector.ofFn fun index => value index

@[simp]
theorem length_eq (frame : Frame) : frame.length = frame.width.toNat * frame.height.toNat :=
  frame.size_pixels

theorem index_eq_ok {frame : Frame} {x y place : UInt32} (found : frame.index x y = .ok place) :
    place.toNat = y.toNat * frame.width.toNat + x.toNat := by
  unfold index at found
  cases product : Checked.mul32 y frame.width with
  | error fault => simp [product, bind, Except.bind] at found
  | ok row =>
      simp only [product, bind, Except.bind] at found
      rw [Checked.add32_eq_ok found, Checked.mul32_eq_ok product]

@[simp]
theorem withPixels_content (frame : Frame) : frame.withPixels frame.content = frame := rfl

end Frame

end FrameCycle
