import FrameCycle.Error
import FrameCycle.Frame.Bytes

/-!
A file system: directories and files by their places below the root, and the directory that relative
paths start from. Operations give the error that a path leads to, or the file system afterwards.
-/
namespace FrameCycle

/-- What a file holds. -/
inductive FileContent where
  | bytes (data : List UInt8)
  /-- An image, and the bytes that stand behind what is needed to show it. -/
  | image (frame : Frame) (after : List UInt8)

inductive Node where
  | directory
  | file (content : FileContent)

def Node.isDirectory : Node → Bool
  | directory => true
  | file _ => false

/-- The names that lead from the root to a place. -/
abbrev Place := List (List UInt8)

structure FileSystem where
  nodes : List (Place × Node)
  workDir : Place

namespace FileSystem

/-- Longer names are refused. -/
def nameLimit : Nat := 255

/-- Paths must be shorter. -/
def pathLimit : Nat := 4096

/-- Nothing but the directory `workDir` and those above it. -/
def empty (workDir : Place) : FileSystem where
  nodes := (List.range workDir.length).map fun depth => (workDir.take (depth + 1), .directory)
  workDir

def node? (files : FileSystem) (place : Place) : Option Node :=
  if place.isEmpty then some .directory else files.nodes.lookup place

def put (files : FileSystem) (place : Place) (node : Node) : FileSystem :=
  { files with nodes := (place, node) :: files.nodes.filter fun held => held.1 != place }

/-- What a name in a directory stands for. -/
def entry? (files : FileSystem) (directory : Place) (name : List UInt8) :
    Except FileError (Option Node) :=
  if nameLimit < name.length then .error .nameTooLong else .ok (files.node? (directory ++ [name]))

/-- Goes from one directory to another. -/
def walk (files : FileSystem) : Place → List (List UInt8) → Except FileError Place
  | place, [] => .ok place
  | place, name :: rest =>
      if name.isEmpty ∨ name = Path.dot then walk files place rest
      else if name = Path.dotDot then walk files place.dropLast rest
      else
        match files.entry? place name with
        | .error error => .error error
        | .ok none => .error .notFound
        | .ok (some (.file _)) => .error .notDirectory
        | .ok (some .directory) => walk files (place ++ [name]) rest

/-- Where a path leads. -/
inductive Target where
  /-- A directory that the path reaches without naming it last. -/
  | reached (place : Place)
  /-- A name in a directory; `slashed` if a slash follows it. -/
  | named (directory : Place) (name : List UInt8) (slashed : Bool)

/-- Walks to the directory that a path's last name is in. -/
def locate (files : FileSystem) (path : Path) : Except FileError Target := do
  if 0 ∈ path.bytes then throw .nulInPath
  if path.bytes.isEmpty then throw .notFound
  if pathLimit ≤ path.bytes.length then throw .nameTooLong
  let start := if path.isAbsolute then [] else files.workDir
  let ways := path.segments.reverse
  let slashed := ways.head? == some []
  match ways.dropWhile List.isEmpty with
  | [] => return .reached (← files.walk start [])
  | last :: before =>
      let directory ← files.walk start before.reverse
      if last = Path.dot ∨ last = Path.dotDot then
        return .reached (← files.walk directory [last])
      else return .named directory last slashed

def isDirectory (files : FileSystem) (path : Path) : Bool :=
  match files.locate path with
  | .error _ => false
  | .ok (.reached _) => true
  | .ok (.named directory name _) =>
      match files.entry? directory name with
      | .error _ => false
      | .ok node => node.any Node.isDirectory

/-- The place at which a file can be created or written anew. -/
def writable (files : FileSystem) (path : Path) : Except FileError Place := do
  match ← files.locate path with
  | .reached _ => throw .isDirectory
  | .named directory name slashed =>
      if slashed then throw .isDirectory
      match ← files.entry? directory name with
      | some .directory => throw .isDirectory
      | _ => return directory ++ [name]

/-- Writes a file, whatever it held before. -/
def write (files : FileSystem) (path : Path) (content : FileContent) :
    Except FileError FileSystem := do
  return files.put (← files.writable path) (.file content)

def read (files : FileSystem) (path : Path) : Except FileError FileContent := do
  match ← files.locate path with
  | .reached _ => throw .isDirectory
  | .named directory name slashed =>
      match ← files.entry? directory name with
      | none => throw .notFound
      | some .directory => throw .isDirectory
      | some (.file content) => if slashed then throw .notDirectory else return content

/-- Reads a file as text. -/
def readText (files : FileSystem) (path : Path) : Except FileError (List Char) := do
  match ← files.read path with
  | .bytes data =>
      match Utf8.decode? data with
      | some text => return text
      | none => throw .notText
  | _ => throw .notText

def hasFile (files : FileSystem) (path : Path) : Bool :=
  match files.read path with
  | .ok _ => true
  | .error _ => false

def makeDirectory (files : FileSystem) (path : Path) : Except FileError FileSystem := do
  match ← files.locate path with
  | .reached _ => throw .exists
  | .named directory name _ =>
      match ← files.entry? directory name with
      | some _ => throw .exists
      | none => return files.put (directory ++ [name]) .directory

/-- What is left of an error when the directory is there all the same. -/
def unlessDirectory (files : FileSystem) (path : Path) (error : FileError) :
    Except FileError Unit :=
  if files.isDirectory path then .ok () else .error error

/-- Makes the first of the directories in a chain, each of which lies in the next, and with it as
many of the others as are missing. Directories made before an error stay. -/
def makeChain : List Path → FileSystem → Except FileError Unit × FileSystem
  | [], files => (.ok (), files)
  | path :: outer, files =>
      if path.bytes.isEmpty then (.ok (), files)
      else
        match files.makeDirectory path with
        | .ok files => (.ok (), files)
        | .error .notFound =>
            match makeChain outer files with
            | (.error error, files) => (.error error, files)
            | (.ok (), files) =>
                match files.makeDirectory path with
                | .ok files => (.ok (), files)
                | .error error => (files.unlessDirectory path error, files)
        | .error error => (files.unlessDirectory path error, files)

/-- The directories that a path lies in, the nearest first. -/
def enclosing (path : Path) : List Path :=
  (List.range path.names.length).reverse.map fun count =>
    .ofNames path.isAbsolute (path.names.take count)

/-- Makes a directory and those it lies in, as far as they are missing. -/
def makeDirectories (files : FileSystem) (path : Path) : Except FileError Unit × FileSystem :=
  makeChain (path :: enclosing path) files

end FileSystem

end FrameCycle
