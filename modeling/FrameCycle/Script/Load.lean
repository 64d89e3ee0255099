import FrameCycle.Script.Document
import FrameCycle.Storage.FileSystem

/-!
Scripts from texts and files.
-/
namespace FrameCycle.Script

/-- The script that a document holds. -/
def ofDocument (text : List Char) (captureTick : UInt32) : Except Error Script :=
  match eventsReader.parse text with
  | .error error => .error (.document error)
  | .ok events =>
      match ofEvents events captureTick with
      | .error error => .error (.script error)
      | .ok script => .ok script

/-- The script that a file holds. -/
def load (files : FileSystem) (path : Path) (captureTick : UInt32) : Except Error Script :=
  match files.readText path with
  | .error error => .error (.file error)
  | .ok text => ofDocument text captureTick

end FrameCycle.Script
