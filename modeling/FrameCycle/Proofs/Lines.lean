import FrameCycle.Proofs.Accounting
import FrameCycle.Proofs.Cycle.Told
import FrameCycle.Proofs.Text.Decoding
import Mathlib.Data.List.Forall2

/-!
The lines of a log as they are read, each a level and a text. What is said of a tick or of a capture
settles its lines, up to the times that are measured.
-/
namespace FrameCycle

namespace Log

/-- A line that a log is to have. -/
inductive Line where
  | settled (level : Level) (text : String)
  /-- A time in milliseconds ends the line. -/
  | measured (level : Level) (text : String)

/-- How a line is read in a log. -/
inductive Line.Reads : Line → Level × String → Prop where
  | settled {level : Level} {text : String} : Reads (.settled level text) (level, text)
  | measured {level : Level} {text : String} (time : Millis) :
      Reads (.measured level text) (level, text ++ time.text ++ "ms")

namespace Message

/-- The line that a message makes. -/
def line : Message → Line
  | accumulated name _ => .measured .trace (name ++ " took ")
  | timed name _ => .measured .info ("  " ++ name ++ " took ")
  | average name count _ => .measured .info s!"{name}: {count.toNat}x - avg. "
  | combined _ => .measured .info "=> Upscaled frame: avg. "
  | message => .settled message.level message.text

@[simp]
theorem line_masked (message : Message) : message.masked.line = message.line := by
  cases message <;> rfl

theorem reads_line (message : Message) : message.line.Reads (message.level, message.text) := by
  cases message with
  | accumulated name time => exact .measured time
  | timed name time => exact .measured time
  | average name count time => exact .measured time
  | combined time => exact .measured time
  | _ => exact .settled

end Message

end Log

/-- The name of a key in a line tells it from every other key. -/
theorem Key.title_injective : Function.Injective Key.title := by
  have apart : ∀ key ∈ all, ∀ other ∈ all, key.title = other.title → key = other := by
    decide +kernel
  exact fun key other same => apart key key.mem_all other other.mem_all same

/-- A path that needs no escapes stands in a line as it is, between quotes. -/
theorem Path.quoted_of_shown {text : List Char} (shown : ∀ c ∈ text, Text.escaped c = [c]) :
    (Path.ofChars text).quoted = String.ofList ('"' :: text ++ ['"']) := by
  have spelled : (text.map Utf8.Piece.char).flatMap Text.escapedPiece = text := by
    rw [List.flatMap_map]
    exact (List.flatMap_congr shown).trans (List.flatMap_singleton' text)
  rw [quoted, ofChars, Text.quotedBytes, Utf8.pieces_encode, spelled]

/-- The lines that an input makes. A snapshot that was not loaded is warned of as well. -/
def Call.lines : Call → List Log.Line
  | .key name true => [.settled .info ("Key " ++ name.title ++ " pressed")]
  | .key name false => [.settled .info ("Key " ++ name.title ++ " released")]
  | .snapshot path true => [.settled .info ("Loading snapshot " ++ path.quoted)]
  | .snapshot path false =>
      [.settled .info ("Loading snapshot " ++ path.quoted),
        .settled .warn ("Failed to load snapshot " ++ path.quoted)]
  | _ => []

theorem Call.line_said (call : Call) : call.said.map Log.Message.line = call.lines := by
  cases call with
  | key key pressed => cases pressed <;> rfl
  | snapshot path loaded => cases loaded <;> rfl
  | _ => rfl

/-- The lines that a step of a capture makes, the last one if it has failed. -/
def CaptureStep.Taken.lines : CaptureStep.Taken → List Log.Line
  | (write path _, error) =>
      .settled .info ("=> Capture screenshot " ++ path.quoted) ::
        error.toList.map fun error => .settled .error ("Capture failed: " ++ error.message)
  | (upscale name _, error) =>
      [.settled .info (name ++ " upscale"), .measured .info ("  " ++ name ++ " took ")] ++
        error.toList.map fun error => .settled .error (name ++ " upscale failed: " ++ error.message)

theorem CaptureStep.Taken.line_said (taken : Taken) :
    taken.said.map Log.Message.line = taken.lines := by
  obtain ⟨step, error⟩ := taken
  cases step <;> cases error <;> rfl

namespace Plan

variable {Memory : Type}

/-- The lines of a tick in which these calls are made. -/
def tickLines (plan : Plan Memory) (tick : Nat) (calls : List Call) : List Log.Line :=
  [.measured .trace "display-read took "] ++
    (plan.upscalers.toList.map fun _ => .measured .trace "upscale took ") ++
    [.settled .trace ("Tick " ++ toString tick)] ++
    (((plan.config.script.eventsAt tick).filterMap Event.label).map (.settled .info)) ++
    calls.flatMap Call.lines

theorem line_tickSaid (plan : Plan Memory) {tick : Nat} (fits : tick < UInt32.size)
    (calls : List Call) :
    (plan.tickSaid tick calls).map Log.Message.line = plan.tickLines tick calls := by
  have number : (Log.Message.tick (.ofNat tick)).line =
      .settled .trace ("Tick " ++ toString tick) := by
    have same : (UInt32.ofNat tick).toNat = tick :=
      UInt32.toNat_ofNat'.trans (Nat.mod_eq_of_lt fits)
    change Log.Line.settled .trace ("Tick " ++ toString (UInt32.ofNat tick).toNat) = _
    rw [same]
  have labels : (plan.labels tick).map Log.Message.line =
      ((plan.config.script.eventsAt tick).filterMap Event.label).map (.settled .info) := by
    rw [Plan.labels, List.map_map]
    rfl
  have inputs : (calls.flatMap Call.said).map Log.Message.line = calls.flatMap Call.lines := by
    rw [List.map_flatMap]
    exact List.flatMap_congr fun call _ => call.line_said
  have display : displayStatName ++ " took " = "display-read took " := by decide
  have upscale : upscaleStatName ++ " took " = "upscale took " := by decide
  have frame : plan.frameSaid.map Log.Message.line = .measured .trace "display-read took " ::
      plan.upscalers.toList.map fun _ => .measured .trace "upscale took " := by
    simp only [Plan.frameSaid, List.map_cons, List.map_map, Function.comp_def, Log.Message.line,
      display, upscale]
  simp only [tickSaid, tickLines, List.map_append, frame, labels, inputs, List.map_cons, number]
  rfl

end Plan

end FrameCycle
