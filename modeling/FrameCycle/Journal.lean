import FrameCycle.Frame.Basic
import FrameCycle.Log.Message

/-!
The record of a run: the calls made on the machine, the upscalers and the image store, and the
messages logged, in one order.
-/
namespace FrameCycle

/-- What a machine is made from. -/
structure CreateParams where
  /-- The 48K model, not the 128K one. -/
  is48k : Bool
  sampleRate : Int64
  bufferFrames : UInt64
  romDir : Path
  deriving DecidableEq

/-- A call, with what it was given and whether it succeeded where that can fail. -/
inductive Call where
  | create (params : CreateParams)
  | advance
  | display
  | audio (channel : Nat) (buffer : Array UInt8)
  | key (key : Key) (pressed : Bool)
  | snapshot (path : Path) (loaded : Bool)
  | release
  | upscale (name : String) (factor : UInt32)
  | write (path : Path) (frame : Frame) (stored : Bool)

inductive Entry where
  | call (call : Call)
  | message (message : Log.Message)

abbrev Journal := Array Entry

namespace Journal

def calls (journal : Journal) : List Call :=
  journal.toList.filterMap fun
    | .call call => some call
    | .message _ => none

def messages (journal : Journal) : List Log.Message :=
  journal.toList.filterMap fun
    | .call _ => none
    | .message message => some message

@[simp]
theorem calls_push_call (journal : Journal) (call : Call) :
    calls (journal.push (.call call)) = journal.calls ++ [call] := by
  simp [calls]

@[simp]
theorem calls_push_message (journal : Journal) (message : Log.Message) :
    calls (journal.push (.message message)) = journal.calls := by
  simp [calls]

@[simp]
theorem messages_push_call (journal : Journal) (call : Call) :
    messages (journal.push (.call call)) = journal.messages := by
  simp [messages]

@[simp]
theorem messages_push_message (journal : Journal) (message : Log.Message) :
    messages (journal.push (.message message)) = journal.messages ++ [message] := by
  simp [messages]

end Journal

end FrameCycle
