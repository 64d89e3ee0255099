import FrameCycle.Cycle.Step
import FrameCycle.Log.Filter
import FrameCycle.Machine.Binding
import FrameCycle.Options
import FrameCycle.Script.Load
import FrameCycle.Storage.LogFile
import FrameCycle.Upscale.Nearest

/-!
The program: options become a configuration, and a run is made on a library and a file system. Each
phase can end the program, and none that follows has any effect then.
-/
namespace FrameCycle

/-- The configuration that options ask for; the script is read from its file. -/
def Config.ofOptions (options : Options) (files : FileSystem) : Except Error Config := do
  let script ←
    match options.value .script with
    | some path => Script.load files path standardCaptureTick
    | none => pure Script.standard
  return {
    romDir := options.path .romDir standardRomDir
    snapshot := options.path .snapshot standardSnapshot
    outputDir := options.path .outputDir standardOutputDir
    script
    captureTick := standardCaptureTick
    upscale := !options.flag .noUpscale
    grid := !options.flag .noGrid
    is48k := options.flag .model48k }

/-- The upscalers of a program whose filters go by the nearest pixel. -/
def linkedUpscalers : Upscalers Unit :=
  Resizers.nearest.upscalers

namespace Program

/-- A message as a record of the log; every record is made plain by itself. -/
def logRecord (message : Log.Message) : List Char :=
  Terminal.streamed (s!"[{message.level.name}] {message.text}\n").toList

/-- A line with its ending. -/
def ended (line : String) : List Char :=
  line.toList ++ ['\n']

def logText (filter : Log.Filter) (messages : List Log.Message) : List Char :=
  (messages.filter filter.admits).flatMap logRecord

/-- How the program ended. -/
inductive Ending where
  | finished (outcome : RunOutcome)
  | failed (error : Error)

/-- A run that an error has stopped is a failure of the program. -/
def Ending.ofRun : RunOutcome → Ending
  | .stopped (.error error) => .failed error
  | outcome => .finished outcome

/-- What the program leaves behind. -/
structure Session (State : Type) where
  ending : Ending
  files : FileSystem
  machine : Machine.Instance State
  messages : List Log.Message

/-- Creates the log file, if one is asked for. -/
def openLog (options : Options) (files : FileSystem) :
    Except FileError (Option LogFile × FileSystem) :=
  match options.value .logPath with
  | none => .ok (none, files)
  | some path => do
      let (log, files) ← LogFile.create files path
      return (some log, files)

/-- Adds a message to the log file. -/
def keep (filter : Log.Filter) (log : LogFile) (message : Log.Message) (files : FileSystem) :
    LogFile × FileSystem :=
  log.write (Utf8.encode (logText filter [message])) files

/-- Adds what is said before everything else. -/
def keepBanner (filter : Log.Filter) (log : Option LogFile) (files : FileSystem) :
    Option LogFile × FileSystem :=
  match log with
  | none => (none, files)
  | some log =>
      let (log, files) := keep filter log .banner files
      (some log, files)

/-- Takes in the log file and the images, in the order in which they were written. -/
def keepEntry (filter : Log.Filter) (held : LogFile × FileSystem) (entry : Entry) :
    LogFile × FileSystem :=
  match entry with
  | .message message => keep filter held.1 message held.2
  | .call (.write path frame _) => (held.1, (Png.write held.2 path frame).2)
  | .call _ => held

/-- What a run leaves on the file system it started from. -/
def keepRun {State : Type} (filter : Log.Filter) (log : Option LogFile) (files : FileSystem)
    (bench : Bench State FileSystem) : FileSystem :=
  match log with
  | none => bench.store
  | some log => (bench.journal.toList.foldl (keepEntry filter) (log, files)).2

/-- The upscalers that a configuration asks for. -/
def upscalers {Memory : Type} (resizers : Resizers Memory) (config : Config) :
    Option (Upscalers Memory) :=
  if config.upscale then some resizers.upscalers else none

/-- The run itself, once everything is prepared. -/
def benchmark {State Memory : Type} (library : Machine.Library State) (resizers : Resizers Memory)
    (state : State) (clock : Clock) (config : Config) (files : FileSystem) :
    RunOutcome × Bench (Machine.Instance State) FileSystem :=
  run ⟨library.core, Png.sink⟩ config (upscalers resizers config)
    (.ready (.unbound state) files clock)

/-- Runs the program with options that have been read. -/
def execute {State Memory : Type} (library : Machine.Library State) (resizers : Resizers Memory)
    (state : State) (clock : Clock) (filter : Log.Filter) (options : Options)
    (files : FileSystem) : Session State :=
  let unused := Machine.Instance.unbound state
  match openLog options files with
  | .error error => ⟨.failed (.file error), files, unused, []⟩
  | .ok (log, files) =>
      let (log, files) := keepBanner filter log files
      match Config.ofOptions options files with
      | .error error => ⟨.failed error, files, unused, [.banner]⟩
      | .ok config =>
          match files.makeDirectories config.outputDir with
          | (.error error, files) => ⟨.failed (.file error), files, unused, [.banner]⟩
          | (.ok (), files) =>
              let (outcome, bench) := benchmark library resizers state clock config files
              let messages := bench.journal.messages
              ⟨.ofRun outcome, keepRun filter log files bench, bench.machine, .banner :: messages⟩

namespace Session

variable {State : Type}

/-- Zero after a run, also one whose machine could not be made. -/
def exitCode (session : Session State) : UInt32 :=
  match session.ending with
  | .finished (.stopped (.fault _)) => 101
  | .finished _ => 0
  | .failed _ => 1

/-- What is said besides the log. -/
def complaint? (session : Session State) : Option String :=
  match session.ending with
  | .finished (.stopped (.fault fault)) => some fault.message
  | .finished _ => none
  | .failed error => some s!"Error: {error.message}"

/-- All that is said: first about the filter, then the log unless it goes to a file, then about the
end. -/
def notices (session : Session State) (filter : Log.Filter) (complaints : List String)
    (options : Options) : List Char :=
  let warnings := complaints.map fun complaint => s!"warning: {complaint}, ignoring it"
  let log := if (options.value .logPath).isSome then [] else logText filter session.messages
  warnings.flatMap ended ++ log ++ session.complaint?.toList.flatMap ended

end Session

/-- What a command line leads to. -/
inductive Result (State : Type) where
  | refused (error : UsageError)
  | said (lines : List String)
  | ran (options : Options) (session : Session State)

/-- Runs the program on a command line. -/
def runLinked {State Memory : Type} (library : Machine.Library State) (resizers : Resizers Memory)
    (state : State) (clock : Clock) (filter : Log.Filter) (arguments : List (List UInt8))
    (files : FileSystem) : Result State :=
  match Options.parse arguments with
  | .error (.error error) => .refused error
  | .error .help => .said Options.helpLines
  | .error .version => .said Options.versionLines
  | .ok options => .ran options (execute library resizers state clock filter options files)

/-- Runs the program that is linked with the filters of the nearest pixel. -/
def runOn {State : Type} (library : Machine.Library State) (state : State) (clock : Clock)
    (filter : Log.Filter) (arguments : List (List UInt8)) (files : FileSystem) : Result State :=
  runLinked library .nearest state clock filter arguments files

end Program

end FrameCycle
