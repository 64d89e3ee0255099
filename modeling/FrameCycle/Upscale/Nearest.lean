import FrameCycle.Upscale.Pipeline

/-!
The nearest-neighbour filter: every pixel of the source becomes a square of its colour.
-/
namespace FrameCycle.Nearest

/-- The pixel of the source that the target's pixel `index` shows; zero where there is none. -/
def sourcePixel (factor : UInt32) (source target : Frame) (index : Nat) : UInt32 :=
  let column := index % target.width.toNat / factor.toNat
  let row := index / target.width.toNat / factor.toNat
  source.pixels.getD (row * source.width.toNat + column) 0

def fill (factor : UInt32) (source target : Frame) : target.Content :=
  target.tabulate (sourcePixel factor source target)

end FrameCycle.Nearest

def FrameCycle.Resizers.nearest : FrameCycle.Resizers Unit where
  threefold _ source target := (Nearest.fill 3 source target, ())
  twofold _ source target := (Nearest.fill 2 source target, ())
  memory := ()
