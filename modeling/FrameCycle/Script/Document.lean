import FrameCycle.Json.Reader
import FrameCycle.Json.Skip
import FrameCycle.Script.Basic

/-!
Reading scripts. A document is a list of events; an event is an object with named fields, or a list
of its parts in order.
-/
namespace FrameCycle

open Json

namespace Key

/-- A key is written as its name, or as an object that holds null under the name. -/
def reader : Reader Key :=
  .choice (all.map fun key => ⟨key.name, Reader.null.map fun _ => key, some key⟩)

end Key

namespace Action

def pathReader : Reader Path :=
  (Reader.string "path string").map Path.ofChars

def reader : Reader Action :=
  .choice
    [⟨"KeyDown", Key.reader.map keyDown, none⟩,
     ⟨"KeyUp", Key.reader.map keyUp, none⟩,
     ⟨"LoadSnapshot", pathReader.option.map loadSnapshot, none⟩]

end Action

namespace Event

def actionsReader : Reader (List Action) :=
  .list "a sequence" Action.reader

def labelReader : Reader (Option String) :=
  ((Reader.string "a string").map String.ofList).option

/-- The fields of an event that have been read so far. -/
structure Draft where
  tick : Option UInt32
  actions : Option (List Action)
  label : Option (Option String)

namespace Draft

def empty : Draft := ⟨none, none, none⟩

def finish (draft : Draft) : Except Cause Event :=
  match draft.tick, draft.actions with
  | none, _ => .error (.missingField "tick")
  | some _, none => .error (.missingField "actions")
  | some tick, some actions => .ok ⟨tick, actions, draft.label.join⟩

/-- Reads the value of a field that may stand once, from behind its name. -/
def once {α : Type} (name : String) (held : Option α) (reader : Reader α) (set : α → Draft)
    (text : List Char) : Except Failure (Draft × List Char) :=
  if held.isSome then .error (.behind (.duplicateField name) (closeObject text))
  else
    match colon text with
    | .error failure => .error failure
    | .ok text =>
        match reader.read text with
        | .error failure => .error failure
        | .ok (value, rest) => .ok (set value, rest)

/-- Skips the value of a field that means nothing here. -/
def unknown (draft : Draft) (text : List Char) : Except Failure (Draft × List Char) :=
  match colon text with
  | .error failure => .error failure
  | .ok text =>
      match Skip.skipFrom .before [] text with
      | .error failure => .error failure
      | .ok rest => .ok (draft, rest)

/-- Reads the value of the field `name`. -/
def value (draft : Draft) (name text : List Char) : Except Failure (Draft × List Char) :=
  if name = "tick".toList then
    once "tick" draft.tick Reader.word32 (fun tick => { draft with tick := some tick }) text
  else if name = "actions".toList then
    once "actions" draft.actions actionsReader
      (fun actions => { draft with actions := some actions }) text
  else if name = "label".toList then
    once "label" draft.label labelReader (fun label => { draft with label := some label }) text
  else draft.unknown text

/-- Reads a field from behind the quote that opens its name. -/
def field (draft : Draft) (text : List Char) : Except Failure (Draft × List Char) :=
  match Quote.read text with
  | .error failure => .error failure
  | .ok (name, rest) => draft.value name rest

theorem once_length {α : Type} {name : String} {held : Option α} {reader : Reader α}
    {set : α → Draft} {text rest : List Char} {draft : Draft}
    (result : once name held reader set text = .ok (draft, rest)) :
    rest.length < text.length := by
  unfold once at result
  split at result
  · cases result
  · split at result
    · cases result
    · next parted =>
        split at result
        · cases result
        · next read =>
            cases result
            exact Nat.lt_trans (reader.shorter read) (colon_length parted)

theorem unknown_length {draft draft' : Draft} {text rest : List Char}
    (result : draft.unknown text = .ok (draft', rest)) : rest.length < text.length := by
  unfold unknown at result
  split at result
  · cases result
  · next parted =>
      split at result
      · cases result
      · next skipped =>
          cases result
          exact Nat.lt_of_le_of_lt (Skip.skipFrom_length_le skipped).1 (colon_length parted)

theorem field_length {draft draft' : Draft} {text rest : List Char}
    (result : draft.field text = .ok (draft', rest)) : rest.length < text.length := by
  unfold field at result
  split at result
  · cases result
  · next name text' named =>
      have := Quote.read_length named
      have : rest.length < text'.length := by
        unfold value at result
        split at result
        · exact once_length result
        split at result
        · exact once_length result
        split at result
        · exact once_length result
        · exact unknown_length result
      omega

/-- Reads the fields of an event up to the end of its object. -/
def fields (draft : Draft) (isFirst : Bool) (text : List Char) :
    Except Failure (Event × List Char) :=
  match _ : nextField isFirst text with
  | .error failure => .error failure
  | .ok (.closing rest) =>
      match draft.finish with
      | .ok event => .ok (event, rest)
      | .error cause => .error (.behind cause rest)
  | .ok (.element text') =>
      match _ : draft.field text' with
      | .error failure => .error failure
      | .ok (draft, rest) => fields draft false rest
termination_by text.length
decreasing_by exact Nat.lt_trans (field_length (by assumption)) (nextField_length (by assumption))

theorem fields_length {draft : Draft} {isFirst : Bool} {text rest : List Char} {event : Event}
    (result : draft.fields isFirst text = .ok (event, rest)) : rest.length < text.length := by
  fun_induction fields draft isFirst text with
  | case2 _ _ _ _ closed =>
      cases result
      exact nextField_closing_length closed
  | case5 _ _ _ _ found _ _ read inductionHypothesis =>
      have := nextField_length found
      have := field_length read
      have := inductionHypothesis result
      omega
  | _ => cases result

end Draft

def shape : String := "struct ScriptEvent with 3 elements"

/-- Reads the label that may end the parts of an event. -/
def lastPart (tick : UInt32) (actions : List Action) (text : List Char) :
    Except Failure (Event × List Char) :=
  match nextElement false text with
  | .error failure => .error failure
  | .ok (.closing rest) => .ok (⟨tick, actions, none⟩, rest)
  | .ok (.element text) =>
      match labelReader.read text with
      | .error failure => .error failure
      | .ok (label, text) =>
          match closeList text with
          | (.ok (), rest) => .ok (⟨tick, actions, label⟩, rest)
          | (.error failure, _) => .error failure

/-- Reads the parts of an event that follow its tick. -/
def laterParts (tick : UInt32) (text : List Char) : Except Failure (Event × List Char) :=
  match nextElement false text with
  | .error failure => .error failure
  | .ok (.closing rest) => .error (.behind (.invalidLength 1 shape) rest)
  | .ok (.element text) =>
      match actionsReader.read text with
      | .error failure => .error failure
      | .ok (actions, text) => lastPart tick actions text

/-- Reads the parts of an event from behind the bracket that opens them. -/
def parts (text : List Char) : Except Failure (Event × List Char) :=
  match nextElement true text with
  | .error failure => .error failure
  | .ok (.closing rest) => .error (.behind (.invalidLength 0 shape) rest)
  | .ok (.element text) =>
      match Reader.word32.read text with
      | .error failure => .error failure
      | .ok (tick, text) => laterParts tick text

theorem lastPart_length {tick : UInt32} {actions : List Action} {text rest : List Char}
    {event : Event} (result : lastPart tick actions text = .ok (event, rest)) :
    rest.length < text.length := by
  unfold lastPart at result
  split at result
  · cases result
  · next closed =>
      cases result
      exact nextElement_closing_length closed
  · next found =>
      have := nextElement_length_le found
      split at result
      · cases result
      · next _ text' read =>
          have := labelReader.shorter read
          split at result
          · next closed =>
              have closes : (closeList text').1 = .ok () := by rw [closed]
              have shorter := closeList_length closes
              rw [closed] at shorter
              cases result
              simp only at shorter
              omega
          · cases result

theorem laterParts_length {tick : UInt32} {text rest : List Char} {event : Event}
    (result : laterParts tick text = .ok (event, rest)) : rest.length < text.length := by
  unfold laterParts at result
  split at result
  · cases result
  · cases result
  · next found =>
      have := nextElement_length_le found
      split at result
      · cases result
      · next read =>
          have := actionsReader.shorter read
          have := lastPart_length result
          omega

theorem parts_length {text rest : List Char} {event : Event}
    (result : parts text = .ok (event, rest)) : rest.length < text.length := by
  unfold parts at result
  split at result
  · cases result
  · cases result
  · next found =>
      have := nextElement_length_le found
      split at result
      · cases result
      · next read =>
          have := Reader.word32.shorter read
          have := laterParts_length result
          omega

def read (text : List Char) : Except Failure (Event × List Char) :=
  match skipBlank text with
  | [] => .error (.atNext .eofInValue [])
  | c :: rest =>
      if c = '[' then parts rest
      else if c = '\x7b' then Draft.empty.fields true rest
      else .error (Reader.mismatch "struct ScriptEvent" (c :: rest))

def reader : Reader Event where
  read := read
  shorter {text rest value} result := by
    unfold read at result
    split at result
    · cases result
    · next opened =>
        split at result
        · exact Nat.lt_trans (parts_length result) (skipBlank_cons_length opened)
        · split at result
          · exact Nat.lt_trans (Draft.fields_length result) (skipBlank_cons_length opened)
          · cases result

end Event

namespace Script

def eventsReader : Reader (List Event) :=
  .list "a sequence" Event.reader

end Script

end FrameCycle
