import FrameCycle.Machine.Library

/-!
A library without a machine behind it: its display is a test card that changes from frame to frame,
and its answers are settings.
-/
namespace FrameCycle.Machine

/-- What the library answers. -/
structure TestCard where
  id : Int64
  width : Int64
  height : Int64
  snapshot : UInt8
  ready : UInt8
  /-- The frames shown so far. -/
  frame : Nat

namespace TestCard

def standard : TestCard := ⟨1, 8, 6, 1, 1, 0⟩

/-- The byte at an offset of a frame's display. -/
def byte (frame offset : Nat) : UInt8 :=
  (7 * offset + 13 * frame).toUInt8

def library : Library TestCard where
  create _ _ _ _ card := (card.id, card)
  resolution card := ((card.width, card.height), card)
  update _ card := (card.ready, { card with frame := card.frame + 1 })
  display _ _ _ _ card := (byte card.frame, card)
  audio _ _ _ card := card
  key _ _ _ card := card
  snapshot _ _ card := (card.snapshot, card)
  destroy _ card := card

end TestCard

end FrameCycle.Machine
