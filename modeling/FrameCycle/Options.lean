import FrameCycle.Path
import FrameCycle.Text.Terminal

/-!
The command line. An option takes a value, behind an equals sign or as the next argument; a flag
takes none. What is wrong with an option is found when the argument after its value is known, or at
the end, so a stray argument in between is reported first.
-/
namespace FrameCycle

inductive Opt where
  | romDir
  | snapshot
  | outputDir
  | script
  | logPath
  deriving DecidableEq

inductive Flag where
  | noUpscale
  | noGrid
  | model48k
  deriving DecidableEq

namespace Opt

def all : List Opt := [romDir, snapshot, outputDir, script, logPath]

def name : Opt → String
  | romDir => "--rom-dir"
  | snapshot => "--snapshot"
  | outputDir => "--output-dir"
  | script => "--script"
  | logPath => "--log-path"

def valueName : Opt → String
  | romDir => "ROM_DIR"
  | snapshot => "SNAPSHOT"
  | outputDir => "OUTPUT_DIR"
  | script => "SCRIPT"
  | logPath => "LOG_PATH"

/-- An option as messages show it. -/
def usage (opt : Opt) : String :=
  s!"{opt.name} <{opt.valueName}>"

end Opt

namespace Flag

def all : List Flag := [noUpscale, noGrid, model48k]

def name : Flag → String
  | noUpscale => "--no-upscale"
  | noGrid => "--no-grid"
  | model48k => "--model-48k"

end Flag

/-- The values and flags given. -/
structure Options where
  value : Opt → Option Path
  flag : Flag → Bool

/-- What is wrong with a command line. -/
inductive UsageError where
  | unexpectedArgument (shown : List Char)
  | missingValue (opt : Opt)
  | unexpectedValue (value : List Char) (name : String)
  | repeated (usage : String)
  deriving DecidableEq

namespace UsageError

/-- The kind of error, by the name it is known under. -/
def kind : UsageError → String
  | unexpectedArgument _ => "UnknownArgument"
  | missingValue _ => "InvalidValue"
  | unexpectedValue _ _ => "TooManyValues"
  | repeated _ => "ArgumentConflict"

/-- The message, with the user's own text made plain. The text is shown in a colour that is taken back
behind it. -/
def messageWith (plain : List Char → List Char) (error : UsageError) : String :=
  let said (text : List Char) : String := String.ofList (plain (text ++ Terminal.reset))
  match error with
  | unexpectedArgument text => s!"error: unexpected argument '{said text}' found"
  | missingValue opt =>
      s!"error: a value is required for '{opt.usage}' but none was supplied"
  | unexpectedValue text name =>
      s!"error: unexpected value '{said text}' for '{name}' found; no more were expected"
  | repeated usage => s!"error: the argument '{usage}' cannot be used multiple times"

def message : UsageError → String :=
  messageWith Terminal.plain

/-- The message as the program writes it. -/
def written : UsageError → String :=
  messageWith Terminal.streamed

end UsageError

/-- Why reading a command line ended before its options were known. -/
inductive Halt where
  | error (error : UsageError)
  | help
  | version
  deriving DecidableEq

namespace Options

def none : Options := ⟨fun _ => Option.none, fun _ => false⟩

/-- An option's value, or `standard` if it was left out. -/
def path (options : Options) (opt : Opt) (standard : Path) : Path :=
  (options.value opt).getD standard

/-- What a long name stands for. -/
inductive Switch where
  | opt (opt : Opt)
  | flag (flag : Flag)
  | help
  | version
  deriving DecidableEq

def switches : List (String × Switch) :=
  Opt.all.map (fun opt => (opt.name, .opt opt)) ++
    Flag.all.map (fun flag => (flag.name, .flag flag)) ++
    [("--help", .help), ("--version", .version)]

def switch? (name : List UInt8) : Option Switch :=
  (switches.find? fun entry => Utf8.encode entry.1.toList == name).map Prod.snd

/-- The options read so far, and the option whose value comes or has just come. -/
structure Progress where
  options : Options
  pending : Option (Opt × Option Path)

namespace Progress

/-- Takes an option's value in. -/
def assign (options : Options) (opt : Opt) (value : Option Path) : Except Halt Options :=
  match value with
  | .none => .error (.error (.missingValue opt))
  | some value =>
      if (options.value opt).isSome then .error (.error (.repeated opt.usage))
      else if value.bytes.isEmpty then .error (.error (.missingValue opt))
      else .ok { options with
        value := fun other => if other = opt then some value else options.value other }

/-- Takes in the option whose value has come. -/
def settle (progress : Progress) : Except Halt Options :=
  match progress.pending with
  | .none => .ok progress.options
  | some (opt, value) => assign progress.options opt value

def raise (options : Options) (flag : Flag) : Except Halt Options :=
  if options.flag flag then .error (.error (.repeated flag.name))
  else .ok { options with flag := fun other => other == flag || options.flag other }

/-- Reads an argument that starts with two dashes. -/
def long (progress : Progress) (name : List UInt8) (value : Option Path) :
    Except Halt Progress := do
  let plain (named : String) : Except Halt Options :=
    match value with
    | .none => progress.settle
    | some value => .error (.error (.unexpectedValue value.lossy named))
  match switch? name with
  | .none => throw (.error (.unexpectedArgument (Utf8.lossy name)))
  | some (.opt opt) =>
      let options ← progress.settle
      match value with
      | .none => return ⟨options, some (opt, .none)⟩
      | some value => return ⟨← assign options opt (some value), .none⟩
  | some (.flag flag) => return ⟨← raise (← plain flag.name) flag, .none⟩
  | some .help => let _ ← plain "--help"; throw .help
  | some .version => let _ ← plain "--version"; throw .version

/-- Reads an argument that starts with one dash, from behind it. -/
def short (progress : Progress) (letters : List UInt8) : Except Halt Progress := do
  match letters with
  | 0x68 :: _ => let _ ← progress.settle; throw .help
  | 0x56 :: _ => let _ ← progress.settle; throw .version
  | _ =>
      match Utf8.pieces letters with
      | .char c :: _ => throw (.error (.unexpectedArgument ['-', c]))
      | _ => throw (.error (.unexpectedArgument ('-' :: Utf8.lossy letters)))

/-- Reads an argument that names nothing: the value of an option that waits for one. -/
def bare (progress : Progress) (argument : List UInt8) : Except Halt Progress :=
  match progress.pending with
  | some (opt, .none) => .ok { progress with pending := some (opt, some ⟨argument⟩) }
  | _ => .error (.error (.unexpectedArgument (Utf8.lossy argument)))

def dash : UInt8 := 0x2D

def equals : UInt8 := 0x3D

/-- Cuts an argument at its first equals sign. -/
def cut (argument : List UInt8) : List UInt8 × Option Path :=
  match argument.dropWhile (· != equals) with
  | [] => (argument, .none)
  | _ :: value => (argument.takeWhile (· != equals), some ⟨value⟩)

/-- Reads arguments; two dashes alone mean that no more options follow. -/
def readAll (progress : Progress) : List (List UInt8) → Except Halt Progress
  | [] => .ok progress
  | argument :: rest =>
      if argument = [dash, dash] then
        match rest with
        | [] => .ok progress
        | stray :: _ => .error (.error (.unexpectedArgument (Utf8.lossy stray)))
      else
        let read :=
          match argument with
          | [] => progress.bare argument
          | [_] => progress.bare argument
          | first :: second :: letters =>
              if first ≠ dash then progress.bare argument
              else if second = dash then
                let (name, value) := cut argument
                progress.long name value
              else progress.short (second :: letters)
        match read with
        | .ok progress => readAll progress rest
        | .error halt => .error halt

end Progress

/-- Reads a command line, without the program's name. -/
def parse (arguments : List (List UInt8)) : Except Halt Options := do
  (← Progress.readAll ⟨none, .none⟩ arguments).settle

def versionLines : List String := ["gumak_bench 0.1.0"]

def helpLines : List String :=
  ["Drives the Gumak core through a scripted 150-frame scenario and reports display-read and " ++
     "upscale timings",
   "",
   "Usage: gumak_bench [OPTIONS]",
   "",
   "Options:",
   "      --rom-dir <ROM_DIR>        Directory the core loads its ROM images from [default: roms]",
   "      --snapshot <SNAPSHOT>      Snapshot loaded by the scenario [default: roms/tmp.z80]",
   "      --output-dir <OUTPUT_DIR>  Directory screenshots are written to [default: .]",
   "      --script <SCRIPT>          ",
   "      --no-upscale               Skip the per-frame and capture upscalers",
   "      --no-grid                  Skip writing the reference grid",
   "      --model-48k                Emulate the 48K model",
   "      --log-path <LOG_PATH>      ",
   "  -h, --help                     Print help",
   "  -V, --version                  Print version"]

end Options

end FrameCycle
