import FrameCycle.Text.Quoted

/-!
File paths as bytes: how they are joined, cut into names and shown.
-/
namespace FrameCycle

/-- A path is any sequence of bytes; a slash parts its names. -/
structure Path where
  bytes : List UInt8
  deriving DecidableEq

namespace Path

def slash : UInt8 := 0x2F

def dot : List UInt8 := [0x2E]

def dotDot : List UInt8 := [0x2E, 0x2E]

def ofChars (text : List Char) : Path :=
  ⟨Utf8.encode text⟩

def ofString (text : String) : Path :=
  ofChars text.toList

def isAbsolute (path : Path) : Bool :=
  path.bytes.head? == some slash

/-- The path `file` as seen from the directory `dir`. -/
def join (dir file : Path) : Path :=
  if file.isAbsolute then file
  else if dir.bytes.isEmpty ∨ dir.bytes.getLast? = some slash then ⟨dir.bytes ++ file.bytes⟩
  else ⟨dir.bytes ++ slash :: file.bytes⟩

/-- The stretches between slashes, empty ones included. -/
def segments (path : Path) : List (List UInt8) :=
  path.bytes.splitOn slash

/-- The names on the way, without empty stretches and without dots that lead nowhere; a dot that
opens a relative path is kept. -/
def names (path : Path) : List (List UInt8) :=
  let segments := path.segments
  let opening := if segments.head? == some dot then [dot] else []
  opening ++ segments.filter fun name => !name.isEmpty && name != dot

def ofNames (absolute : Bool) (names : List (List UInt8)) : Path :=
  ⟨(if absolute then [slash] else []) ++ List.intercalate [slash] names⟩

/-- The path without its last name; a path without names has none. -/
def parent? (path : Path) : Option Path :=
  if path.names.isEmpty then none else some (ofNames path.isAbsolute path.names.dropLast)

/-- The last name, if it is not a step upwards. -/
def fileName? (path : Path) : Option (List UInt8) :=
  match path.names.getLast? with
  | none => none
  | some name => if name = dotDot ∨ name = dot then none else some name

/-- The path as messages show it. -/
def quoted (path : Path) : String :=
  Text.quotedBytes path.bytes

/-- The path as text, with replacement characters for bytes that are not text. -/
def lossy (path : Path) : List Char :=
  Utf8.lossy path.bytes

end Path

end FrameCycle
