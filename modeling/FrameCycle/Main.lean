import FrameCycle.Machine.TestCard
import FrameCycle.Program

/-!
The command line program. The disk is read before a run and written after it; the run itself is
pure, so it is made once to find how long a measurement takes and once more to report that.
-/
namespace FrameCycle.Disk

/-- A place as the disk knows it. -/
def name (place : Place) : String :=
  "/" ++ "/".intercalate (place.map fun part => String.ofList (Utf8.lossy part))

/-- What stands at a place of the disk. -/
def look (place : Place) : IO (Option Node) := do
  let path := (← IO.currentDir) / name place
  if ← path.isDir then return some .directory
  if ← path.pathExists then
    return some (.file (.bytes (← IO.FS.readBinFile path).toList))
  return none

/-- Takes in what the disk holds at `names` below a place, as far as they lead. -/
def load (place : Place) (names : List (List UInt8)) (files : FileSystem) : IO FileSystem := do
  match names with
  | [] => return files
  | part :: rest =>
      if part = Path.dot then load place rest files
      else if part = Path.dotDot then load place.dropLast rest files
      else
        match ← look (place ++ [part]) with
        | some node => load (place ++ [part]) rest (files.put (place ++ [part]) node)
        | none => return files

def loadPath (files : FileSystem) (path : Path) : IO FileSystem :=
  load (if path.isAbsolute then [] else files.workDir) path.names files

/-- The paths that a run with these options looks at. -/
def paths (options : Options) : List Path :=
  let outputDir := options.path .outputDir Config.standardOutputDir
  let images := [gridFile, originalFile, resizedFile 2, resizedFile 3]
  (options.value .script).toList ++ (options.value .logPath).toList ++
    images.map fun file => outputDir.join (.ofString file)

/-- Writes what a run has left at a place. -/
def store (before : FileSystem) (place : Place) (node : Node) : IO Unit := do
  match node with
  | .directory => IO.FS.createDirAll (name place)
  | .file content =>
      let data := content.data Png.encode
      match before.node? place with
      | some (.file (.bytes held)) =>
          if held ≠ data then IO.FS.writeBinFile (name place) ⟨data.toArray⟩
      | _ => IO.FS.writeBinFile (name place) ⟨data.toArray⟩

end FrameCycle.Disk

namespace FrameCycle.CommandLine

open Machine

def workingFiles : IO FileSystem := do
  let place : Path := .ofString (← IO.currentDir).toString
  return .empty place.names

/-- What is shown, and complaints about how that was asked for. -/
def filter : IO (Log.Filter × List String) := do
  match ← IO.getEnv "RUST_LOG" with
  | some spec => return Log.Filter.parse spec.toList
  | none => return (.standard, [])

/-- Runs with a clock that finds the same time at every measurement. -/
def execute (filter : Log.Filter) (options : Options) (files : FileSystem) (micros : UInt64) :
    IO (Program.Session TestCard) :=
  IO.lazyPure fun _ =>
    Program.execute TestCard.library .nearest .standard (.ofReadings fun _ => micros) filter options
      files

/-- The mean time of a measurement in a run. -/
def calibrate (filter : Log.Filter) (options : Options) (files : FileSystem) : IO UInt64 := do
  let start ← IO.monoNanosNow
  let session ← execute filter options files 0
  let calls := session.machine.requests.size + 1
  let finish ← IO.monoNanosNow
  return ((finish - start) / (1000 * calls)).toUInt64

def run (options : Options) : IO UInt32 := do
  let (filter, complaints) ← filter
  let mut files ← workingFiles
  for path in Disk.paths options do
    files ← Disk.loadPath files path
  let session ← execute filter options files (← calibrate filter options files)
  for (place, node) in session.files.nodes.reverse do
    Disk.store files place node
  IO.eprint (String.ofList (session.notices filter complaints options))
  return session.exitCode

end FrameCycle.CommandLine

def main (arguments : List String) : IO UInt32 := do
  match FrameCycle.Options.parse (arguments.map fun argument => argument.toUTF8.toList) with
  | .error (.error error) =>
      IO.eprintln error.written
      return 2
  | .error .help =>
      for line in FrameCycle.Options.helpLines do
        IO.println line
      return 0
  | .error .version =>
      for line in FrameCycle.Options.versionLines do
        IO.println line
      return 0
  | .ok options => FrameCycle.CommandLine.run options
