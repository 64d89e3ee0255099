import FrameCycle.Error
import FrameCycle.Frame.Basic

/-!
The size that an upscaled frame must have: the factor times its source on both axes.
-/
namespace FrameCycle

open Checked in
/-- Accepts a target that is `factor` times its source on both axes. The products are checked in
order, the height's only when the widths agree. -/
def ensureTargetSize (source target : Frame) (factor : UInt32) : Except Stop Unit := do
  let square ← Stop.ofFault (mul32 factor factor)
  let expected ← Stop.ofFault (mulSize source.length square.toNat)
  let refused : Stop := .error (.bufferSize expected target.length)
  let width ← Stop.ofFault (mul32 source.width factor)
  if target.width ≠ width then throw refused
  let height ← Stop.ofFault (mul32 source.height factor)
  if target.height ≠ height ∨ target.length ≠ expected then throw refused

end FrameCycle
