import FrameCycle.Fault
import FrameCycle.Json.Error
import FrameCycle.Script.Basic

/-!
What can go wrong outside the cycle's own arithmetic. Errors are causes; their wording stands in
the `message` functions only.
-/
namespace FrameCycle

/-- Why the file system refused an operation. -/
inductive FileError where
  | notFound
  | exists
  | notDirectory
  | isDirectory
  | nameTooLong
  | nulInPath
  | notText
  | other (reason : String)
  deriving DecidableEq

namespace FileError

def message : FileError → String
  | notFound => "No such file or directory (os error 2)"
  | «exists» => "File exists (os error 17)"
  | notDirectory => "Not a directory (os error 20)"
  | isDirectory => "Is a directory (os error 21)"
  | nameTooLong => "File name too long (os error 36)"
  | nulInPath => "file name contained an unexpected NUL byte"
  | notText => "stream did not contain valid UTF-8"
  | other reason => reason

end FileError

/-- Why a frame was not stored as an image. -/
inductive ImageError where
  | file (error : FileError)
  | zeroWidth
  | zeroHeight
  deriving DecidableEq

namespace ImageError

def message : ImageError → String
  | file error => error.message
  | zeroWidth => "Zero width not allowed"
  | zeroHeight => "Zero height not allowed"

end ImageError

inductive Error where
  | file (error : FileError)
  | image (path : Path) (error : ImageError)
  | script (error : ScriptError)
  | document (error : Json.Error)
  | bufferSize (expected found : Nat)
  deriving DecidableEq

namespace Error

def message : Error → String
  | file error => s!"I/O error: {error.message}"
  | image path error => s!"Failed to write image {path.quoted}: {error.message}"
  | script error => s!"Invalid script: {error.message}"
  | document error => s!"Script parse error: {error.message}"
  | bufferSize expected found =>
      s!"Pixel buffer size mismatch: expected {expected} pixels, found {found}"

/-- The text of the error behind this one, if there is one. -/
def source? : Error → Option String
  | file error => some error.message
  | image _ error => some error.message
  | document error => some error.message
  | _ => none

end Error

/-- What ends an operation early. -/
inductive Stop where
  | error (error : Error)
  | fault (fault : Fault)
  deriving DecidableEq

def Stop.ofFault {α : Type} : Except Fault α → Except Stop α
  | .ok value => .ok value
  | .error cause => .error (.fault cause)

end FrameCycle
