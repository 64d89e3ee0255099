import FrameCycle.Json.Printer
import FrameCycle.Script.Basic

/-!
Writing scripts as documents: events as objects with their fields in order, keys as their names. A
path is written as text, which is what a document can hold.
-/
namespace FrameCycle

open Json

def Key.print (key : Key) : List Char :=
  Printer.string key.name.toList

def Action.print : Action → List Char
  | keyDown key => Printer.object [Printer.field "KeyDown" key.print]
  | keyUp key => Printer.object [Printer.field "KeyUp" key.print]
  | loadSnapshot none => Printer.object [Printer.field "LoadSnapshot" Printer.null]
  | loadSnapshot (some path) =>
      Printer.object [Printer.field "LoadSnapshot" (Printer.string path.lossy)]

def Action.printList (actions : List Action) : List Char :=
  Printer.list (actions.map print)

def Event.print (event : Event) : List Char :=
  let label :=
    match event.label with
    | none => []
    | some label => [Printer.field "label" (Printer.string label.toList)]
  Printer.object
    ([Printer.field "tick" (Printer.natural event.tick.toNat),
      Printer.field "actions" (Action.printList event.actions)] ++ label)

def Event.printList (events : List Event) : List Char :=
  Printer.list (events.map print)

end FrameCycle
