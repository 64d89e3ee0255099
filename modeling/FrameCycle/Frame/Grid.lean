import FrameCycle.Frame.Basic

/-!
The reference grid: black lines at every eighth row and column of an otherwise transparent frame.
-/
namespace FrameCycle.Frame

def gridSpacing : UInt32 := 8

/-- Opaque black. -/
def gridLine : UInt32 := 0xFF000000

def gridEmpty : UInt32 := 0

def gridPixel (x y : UInt32) : UInt32 :=
  if x % gridSpacing = 0 ∨ y % gridSpacing = 0 then gridLine else gridEmpty

/-- Paints `count` pixels of row `y` from `x` on. -/
def paintRow (y : UInt32) : (count : Nat) → (x : UInt32) → Frame → Except Fault Frame
  | 0, _, frame => .ok frame
  | count + 1, x, frame =>
      match frame.setPixel x y (gridPixel x y) with
      | .ok frame => paintRow y count (x + 1) frame
      | .error fault => .error fault

/-- Paints `count` rows of `width` pixels from row `y` on. -/
def paintRows (width : Nat) : (count : Nat) → (y : UInt32) → Frame → Except Fault Frame
  | 0, _, frame => .ok frame
  | count + 1, y, frame =>
      match paintRow y width 0 frame with
      | .ok frame => paintRows width count (y + 1) frame
      | .error fault => .error fault

def grid (width height : UInt32) : Except Fault Frame := do
  paintRows width.toNat height.toNat 0 (← blank width height)

end FrameCycle.Frame
