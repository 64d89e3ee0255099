import FrameCycle.Proofs.Script.Accepted
import FrameCycle.Proofs.Script.Document
import FrameCycle.Proofs.Text.Utf8
import FrameCycle.Script.Printer
import Mathlib.Data.Set.Operations

/-!
What is printed is read back as it was. A document holds paths as text, so this is about events
whose paths are text, and every event that was read is one of them.
-/
namespace FrameCycle

open Json Json.Grammar Json.Printer

/-- The path is some text, encoded. -/
def Path.Textual (path : Path) : Prop :=
  ∃ text, path = ofChars text

theorem Key.print_written (key : Key) : Prints Written key.print key :=
  fun rest => .bare (string_written key.name.toList rest)

namespace Action

/-- The path of a snapshot, if the action names one, is text. -/
def Textual : Action → Prop
  | loadSnapshot (some path) => path.Textual
  | _ => True

theorem print_written {action : Action} (textual : action.Textual) :
    Prints Written action.print action := by
  intro rest
  cases action with
  | keyDown key => exact .keyDown (one_written "KeyDown" key.print_written rest)
  | keyUp key => exact .keyUp (one_written "KeyUp" key.print_written rest)
  | loadSnapshot path =>
      cases path with
      | none =>
          have null : Prints (Nullable Text) Printer.null none :=
            fun rest => .none (null_written rest)
          exact .loadSnapshot (one_written "LoadSnapshot" null rest)
      | some path =>
          obtain ⟨text, rfl⟩ := textual
          rw [print, Path.lossy_ofChars]
          have named := nullable_written (string_written text)
          exact .loadSnapshot (one_written "LoadSnapshot" named rest)

theorem printList_written {actions : List Action} (textual : ∀ action ∈ actions, action.Textual) :
    Prints (Listed Written) (printList actions) actions :=
  map_written fun action member => print_written (textual action member)

theorem textual_of_written {text rest : List Char} {action : Action}
    (written : Written text action rest) : action.Textual := by
  cases written with
  | keyDown | keyUp => trivial
  | @loadSnapshot _ _ path =>
      cases path with
      | none => trivial
      | some name => exact ⟨name, rfl⟩

end Action

namespace Event

def Textual (event : Event) : Prop :=
  ∀ action ∈ event.actions, action.Textual

/-- The fields in which an event is printed. -/
def fields (event : Event) : List Field :=
  [.tick event.tick, .actions event.actions] ++
    event.label.toList.map fun label => .label (some label)

theorem denoted_fields (event : Event) : Denoted event.fields event := by
  obtain ⟨tick, actions, label⟩ := event
  cases label with
  | none => exact ⟨rfl, rfl, .inl ⟨rfl, rfl⟩⟩
  | some label => exact ⟨rfl, rfl, .inr rfl⟩

theorem print_written {event : Event} (textual : event.Textual) :
    Prints Written event.print event := by
  have tick : Prints Field.Written (field "tick" (natural event.tick.toNat)) (.tick event.tick) :=
    fun rest => .tick (field_written "tick" (fun rest => .intro (natural_written _ rest)) rest)
  have actions : Prints Field.Written (field "actions" (Action.printList event.actions))
      (.actions event.actions) :=
    fun rest => .actions (field_written "actions" (Action.printList_written textual) rest)
  have label : ∀ label : String, Prints Field.Written
      (field "label" (string label.toList)) (.label (some label)) := by
    intro label rest
    have named := nullable_written (string_written label.toList)
    have written := Field.Written.label (field_written "label" named rest)
    rwa [Option.map_some, String.ofList_toList] at written
  have printed : Prints (Enclosed '\x7b' '\x7d' Field.Written) event.print event.fields := by
    unfold print fields
    cases event.label with
    | none => exact object_written (.cons tick (.cons actions .nil))
    | some text => exact object_written (.cons tick (.cons actions (.cons (label text) .nil)))
  exact fun rest => .object (printed rest) event.denoted_fields

def Field.Textual (field : Field) : Prop :=
  ∀ actions, field.actions? = some actions → ∀ action ∈ actions, action.Textual

theorem actions_textual_of_written {text rest : List Char} {actions : List Action}
    (written : Listed Action.Written text actions rest) : ∀ action ∈ actions, action.Textual :=
  written.forall Action.textual_of_written

theorem Field.textual_of_written {text rest : List Char} {field : Field}
    (written : Written text field rest) : field.Textual := by
  intro actions held
  cases written with
  | actions member =>
      obtain ⟨-, -, ⟨-, listed⟩⟩ := member
      cases held
      exact actions_textual_of_written listed
  | tick | label | other => cases held

theorem textual_of_written {text rest : List Char} {event : Event}
    (written : Written text event rest) : event.Textual := by
  cases written with
  | object enclosed denoted =>
      have once : event.actions ∈ [event.actions] := List.mem_cons_self
      rw [← denoted.actions_eq] at once
      obtain ⟨field, member, held⟩ := List.mem_filterMap.mp once
      exact enclosed.forall Field.textual_of_written field member event.actions held
  | list _ _ second _ =>
      obtain ⟨-, listed⟩ := second
      exact actions_textual_of_written listed

end Event

namespace Script

theorem textual_of_written {text : List Char} {events : List Event}
    (written : Written text events) : ∀ event ∈ events, event.Textual := by
  obtain ⟨⟨-, listed⟩, -⟩ := written
  exact listed.forall Event.textual_of_written

theorem exists_written_of_ofDocument {text : List Char} {captureTick : UInt32} {script : Script}
    (loaded : ofDocument text captureTick = .ok script) :
    ∃ events, Written text events ∧ ofEvents events captureTick = .ok script := by
  unfold ofDocument at loaded
  split at loaded
  · cases loaded
  · next events parsed =>
      split at loaded
      · cases loaded
      · next accepted =>
          cases loaded
          exact ⟨events, parse_eq_ok_iff.mp parsed, accepted⟩

/-- A script that was read names text only. -/
theorem textual_of_ofDocument {text : List Char} {captureTick : UInt32} {script : Script}
    (loaded : ofDocument text captureTick = .ok script) :
    ∀ event ∈ script.events.toList, event.Textual := by
  obtain ⟨events, written, accepted⟩ := exists_written_of_ofDocument loaded
  intro event member
  rw [(ofEvents_eq_ok_iff.mp accepted).1, List.mem_mergeSort] at member
  exact textual_of_written written event member

theorem printList_written {events : List Event} (textual : ∀ event ∈ events, event.Textual) :
    Written (Event.printList events) events :=
  written_of_prints (map_written fun event member => Event.print_written (textual event member))

theorem ofDocument_printList_events {text : List Char} {captureTick : UInt32} {script : Script}
    (loaded : ofDocument text captureTick = .ok script) :
    ofDocument (Event.printList script.events.toList) captureTick = .ok script := by
  obtain ⟨events, written, accepted⟩ := exists_written_of_ofDocument loaded
  have textual := textual_of_ofDocument loaded
  rw [ofDocument_of_written (printList_written textual), ofEvents_events accepted]
  rfl

/-- Printing events and reading them back gives the same events, so the document is accepted or
refused just as they are. A script that was accepted from any document is accepted again from the
document that its own events make, and no two lists of events make the same document. -/
theorem printList_reads_back :
    (∀ events : List Event, (∀ event ∈ events, event.Textual) →
      eventsReader.parse (Event.printList events) = .ok events ∧
        ∀ captureTick, ofDocument (Event.printList events) captureTick =
          (ofEvents events captureTick).mapError .script) ∧
    (∀ text captureTick script, ofDocument text captureTick = .ok script →
      ofDocument (Event.printList script.events.toList) captureTick = .ok script) ∧
    Set.InjOn Event.printList {events | ∀ event ∈ events, event.Textual} := by
  refine ⟨?_, fun text captureTick script => ofDocument_printList_events, ?_⟩
  · intro events textual
    have written := printList_written textual
    exact ⟨parse_eq_ok_iff.mpr written, ofDocument_of_written written⟩
  · intro events textual others otherTextual same
    have parsed := parse_eq_ok_iff.mpr (printList_written textual)
    rw [same, parse_eq_ok_iff.mpr (printList_written otherTextual)] at parsed
    exact (Except.ok.inj parsed).symm

/-- A quote, a backslash, two controls, and a character that takes four bytes. -/
def awkwardText : List Char :=
  ['"', '\\', '\x00', '\n', Char.ofNat 0x1F600]

def awkward : Script where
  events := #[
    ⟨1, [.keyDown .digit1, .loadSnapshot (some (Path.ofChars awkwardText))],
      some (String.ofList awkwardText)⟩,
    ⟨149, [.loadSnapshot none, .keyUp .digit1], none⟩]
  increasing := by
    simp

theorem printList_reads_back_awkward :
    eventsReader.parse (Event.printList awkward.events.toList) = .ok awkward.events.toList ∧
      ofDocument (Event.printList awkward.events.toList) 150 = .ok awkward ∧
      Event.printList awkward.events.toList ≠ Event.printList [] := by
  have textual : ∀ event ∈ awkward.events.toList, event.Textual := by
    simp [awkward, Event.Textual, Action.Textual, Path.Textual]
  have sorted : awkward.events.toList.mergeSort byTick = awkward.events.toList := by
    apply List.mergeSort_of_pairwise
    simp [awkward, byTick]
  have accepted : ofEvents awkward.events.toList 150 = .ok awkward := by
    apply ofEvents_eq_ok_iff.mpr
    rw [sorted]
    decide
  obtain ⟨readsBack, again, injective⟩ := printList_reads_back
  obtain ⟨parsed, document⟩ := readsBack _ textual
  have loaded : ofDocument (Event.printList awkward.events.toList) 150 = .ok awkward := by
    rw [document, accepted]
    rfl
  refine ⟨parsed, again _ _ _ loaded, fun same => ?_⟩
  exact absurd (injective textual (by simp) same) (by decide)

end Script

end FrameCycle
