import FrameCycle.Proofs.Json.Grammar
import FrameCycle.Script.Basic

/-!
The format of scripts: how keys, actions, events and whole scripts are written in JSON.
-/
namespace FrameCycle

open Json Json.Grammar

/-- Strings that mean something are decoded, and so are names. -/
abbrev Text : Form (List Char) := Quoted Spelt

/-- A key is its name, or an object that holds null under the name. -/
inductive Key.Written : Form Key where
  | bare {text rest : List Char} {key : Key} :
      Text text key.name.toList rest → Written text key rest
  | held {text rest : List Char} {key : Key} :
      Fields Text Null text [(key.name.toList, ())] rest → Written text key rest

/-- An action is an object with one field. -/
inductive Action.Written : Form Action where
  | keyDown {text rest : List Char} {key : Key} :
      Fields Text Key.Written text [("KeyDown".toList, key)] rest →
      Written text (.keyDown key) rest
  | keyUp {text rest : List Char} {key : Key} :
      Fields Text Key.Written text [("KeyUp".toList, key)] rest → Written text (.keyUp key) rest
  | loadSnapshot {text rest : List Char} {path : Option (List Char)} :
      Fields Text (Nullable Text) text [("LoadSnapshot".toList, path)] rest →
      Written text (.loadSnapshot (path.map Path.ofChars)) rest

namespace Event

/-- A field of an event, as far as it means anything. -/
inductive Field where
  | tick (tick : UInt32)
  | actions (actions : List Action)
  | label (label : Option String)
  | other

namespace Field

def tick? : Field → Option UInt32
  | tick value => some value
  | _ => none

def actions? : Field → Option (List Action)
  | actions value => some value
  | _ => none

def label? : Field → Option (Option String)
  | label value => some value
  | _ => none

def names : List String := ["tick", "actions", "label"]

inductive Written : Form Field where
  | tick {text rest : List Char} {tick : UInt32} :
      Member Text Word32 text ("tick".toList, tick) rest → Written text (.tick tick) rest
  | actions {text rest : List Char} {actions : List Action} :
      Member Text (Listed Action.Written) text ("actions".toList, actions) rest →
      Written text (.actions actions) rest
  | label {text rest : List Char} {label : Option (List Char)} :
      Member Text (Nullable Text) text ("label".toList, label) rest →
      Written text (.label (label.map String.ofList)) rest
  | other {text name rest : List Char} :
      (∀ known ∈ names, name ≠ known.toList) → Member Text Value text (name, ()) rest →
      Written text .other rest

end Field

/-- What an object with these fields stands for: a tick and actions are there just once, and a label
once or not at all. -/
structure Denoted (fields : List Field) (event : Event) : Prop where
  tick_eq : fields.filterMap Field.tick? = [event.tick]
  actions_eq : fields.filterMap Field.actions? = [event.actions]
  label_eq : fields.filterMap Field.label? = [] ∧ event.label = none ∨
    fields.filterMap Field.label? = [event.label]

/-- What ends an event that is written as a list: a label, or nothing. -/
inductive Ending : Form (Option String) where
  | bare {text rest : List Char} : Blank text (']' :: rest) → Ending text none rest
  | labelled {text next behind rest : List Char} {label : Option (List Char)} :
      Blank text (',' :: next) → Spaced (Nullable Text) next label behind →
      Blank behind (']' :: rest) → Ending text (label.map String.ofList) rest

/-- An event is an object with fields in any order, or a list of a tick, actions and maybe a
label. -/
inductive Written : Form Event where
  | object {text rest : List Char} {fields : List Field} {event : Event} :
      Enclosed '\x7b' '\x7d' Field.Written text fields rest → Denoted fields event →
      Written text event rest
  | list {text behind next closing rest : List Char} {tick : UInt32} {actions : List Action}
      {label : Option String} :
      Spaced Word32 text tick behind → Blank behind (',' :: next) →
      Spaced (Listed Action.Written) next actions closing → Ending closing label rest →
      Written ('[' :: text) ⟨tick, actions, label⟩ rest

end Event

/-- A script is written as a list of events, with nothing but blanks around it. -/
inductive Script.Written (text : List Char) (events : List Event) : Prop where
  | intro {rest : List Char} :
      Spaced (Listed Event.Written) text events rest → Blank rest [] → Written text events

end FrameCycle
