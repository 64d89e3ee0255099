import FrameCycle.Program
import FrameCycle.Proofs.Directories
import FrameCycle.Proofs.Script.Document
import FrameCycle.Proofs.Script.Validation

/-!
What comes before the run: the log file is opened, the script is read and the directory for the
images is made. A phase that fails ends the program, and nothing of the later ones has happened
then.
-/
namespace FrameCycle.Program

open FileSystem

variable {filter : Log.Filter} {options : Options} {files : FileSystem}

inductive Preparation where
  | log
  | script
  | output

/-- The log file is open, if one is asked for, and the banner is in it. -/
structure Noted (filter : Log.Filter) (options : Options) (files : FileSystem)
    (log : Option LogFile) (noted : FileSystem) : Prop where
  opened : ∃ empty created, openLog options files = .ok (empty, created) ∧
    keepBanner filter empty created = (log, noted)

/-- The script that a program goes by: the one in the file that is asked for, or the standard
one. -/
inductive Scripted (options : Options) (files : FileSystem) : Script → Prop where
  | standard : options.value .script = none → Scripted options files .standard
  | read {path : Path} {text : List Char} {events : List Event} {script : Script} :
      options.value .script = some path → files.HoldsText path text →
      Script.Written text events →
      Script.Verdict events Config.standardCaptureTick (.ok script) →
      Scripted options files script

/-- Why a file holds no script for the program, said of the text and of the events it is written
for. -/
inductive Unscripted (files : FileSystem) (path : Path) : Error → Prop where
  | unread {error : FileError} :
      (∀ text, ¬ files.HoldsText path text) → files.readText path = .error error →
      Unscripted files path (.file error)
  | unwritten {text : List Char} {error : Json.Error} :
      files.HoldsText path text → (∀ events, ¬ Script.Written text events) →
      Script.eventsReader.parse text = .error error → Unscripted files path (.document error)
  | invalid {text : List Char} {events : List Event} {error : ScriptError} :
      files.HoldsText path text → Script.Written text events →
      Script.Verdict events Config.standardCaptureTick (.error error) →
      Unscripted files path (.script error)

/-- The program ends in one of its preparations; each of them comes after the earlier ones have
passed, and on the files that they have left. -/
inductive Refused (filter : Log.Filter) (options : Options) (files : FileSystem) :
    Preparation → Error → FileSystem → Prop where
  | log {path : Path} {error : FileError} :
      options.value .logPath = some path →
      (∀ directory name, ¬ files.Creatable path directory name) →
      files.writable path = .error error → Refused filter options files .log (.file error) files
  | script {path : Path} {log : Option LogFile} {noted : FileSystem} {error : Error} :
      Noted filter options files log noted → options.value .script = some path →
      Unscripted noted path error → Refused filter options files .script error noted
  | output {log : Option LogFile} {noted left : FileSystem} {config : Config}
      {error : FileError} :
      Noted filter options files log noted → Config.ofOptions options noted = .ok config →
      (∀ made place, ¬ noted.Makes config.outputDir made place) →
      noted.makeDirectories config.outputDir = (.error error, left) →
      Refused filter options files .output (.file error) left

/-- The preparations have passed. -/
structure Prepared (filter : Log.Filter) (options : Options) (files : FileSystem)
    (log : Option LogFile) (config : Config) (ready : FileSystem) : Prop where
  passed : ∃ noted, Noted filter options files log noted ∧
    Config.ofOptions options noted = .ok config ∧
    noted.makeDirectories config.outputDir = (.ok (), ready)

theorem readText_eq_error {path : Path} {error : FileError}
    (failed : files.readText path = .error error) (text : List Char) :
    ¬ files.HoldsText path text := by
  intro holds
  cases failed.symm.trans (readText_eq_ok_iff.mpr holds)

theorem load_eq_error_iff {path : Path} {error : Error} :
    Script.load files path Config.standardCaptureTick = .error error ↔
      Unscripted files path error := by
  unfold Script.load
  constructor
  · intro failed
    cases read : files.readText path with
    | error error =>
        simp only [read, Except.error.injEq] at failed
        exact failed ▸ .unread (readText_eq_error read) read
    | ok text =>
        have holds := readText_eq_ok_iff.mp read
        simp only [read, Script.ofDocument] at failed
        cases parsed : Script.eventsReader.parse text with
        | error error =>
            simp only [parsed, Except.error.injEq] at failed
            refine failed ▸ .unwritten holds (fun events written => ?_) parsed
            cases parsed.symm.trans (Script.parse_eq_ok_iff.mpr written)
        | ok events =>
            cases checked : Script.ofEvents events Config.standardCaptureTick with
            | error error =>
                simp only [parsed, checked, Except.error.injEq] at failed
                exact failed ▸ .invalid holds (Script.parse_eq_ok_iff.mp parsed)
                  (Script.ofEvents_eq_iff_verdict.mp checked)
            | ok script => simp [parsed, checked] at failed
  · intro unscripted
    cases unscripted with
    | unread unheld read => rw [read]
    | unwritten holds unwritten parsed =>
        simp only [readText_eq_ok_iff.mpr holds, Script.ofDocument, parsed]
    | invalid holds written refused =>
        simp only [readText_eq_ok_iff.mpr holds, Script.ofDocument_of_written written,
          Script.ofEvents_eq_iff_verdict.mpr refused, Except.mapError]

theorem written_of_load {path : Path} {script : Script}
    (loaded : Script.load files path Config.standardCaptureTick = .ok script) :
    ∃ text events, files.HoldsText path text ∧ Script.Written text events ∧
      Script.Verdict events Config.standardCaptureTick (.ok script) := by
  unfold Script.load at loaded
  cases read : files.readText path with
  | error error => simp [read] at loaded
  | ok text =>
      simp only [read, Script.ofDocument] at loaded
      cases parsed : Script.eventsReader.parse text with
      | error error => simp [parsed] at loaded
      | ok events =>
          cases checked : Script.ofEvents events Config.standardCaptureTick with
          | error error => simp [parsed, checked] at loaded
          | ok found =>
              simp only [parsed, checked, Except.ok.injEq] at loaded
              exact ⟨text, events, readText_eq_ok_iff.mp read, Script.parse_eq_ok_iff.mp parsed,
                loaded ▸ Script.ofEvents_eq_iff_verdict.mp checked⟩

theorem ofOptions_eq_error_iff {error : Error} :
    Config.ofOptions options files = .error error ↔
      ∃ path, options.value .script = some path ∧ Unscripted files path error := by
  simp only [← load_eq_error_iff, Config.ofOptions]
  cases options.value .script with
  | none => simp [bind, Except.bind, pure, Except.pure]
  | some path =>
      cases loaded : Script.load files path Config.standardCaptureTick <;>
        simp [loaded, bind, Except.bind, pure, Except.pure]

theorem scripted_of_ofOptions {config : Config}
    (read : Config.ofOptions options files = .ok config) :
    Scripted options files config.script := by
  simp only [Config.ofOptions, bind, Except.bind, pure, Except.pure] at read
  cases given : options.value .script with
  | none =>
      simp only [given, Except.ok.injEq] at read
      rw [← read]
      exact .standard given
  | some path =>
      cases loaded : Script.load files path Config.standardCaptureTick with
      | error error => simp [given, loaded] at read
      | ok script =>
          simp only [given, loaded, Except.ok.injEq] at read
          obtain ⟨text, events, holds, written, accepted⟩ := written_of_load loaded
          rw [← read]
          exact .read given holds written accepted

theorem openLog_eq_error {error : FileError} (failed : openLog options files = .error error) :
    ∃ path, options.value .logPath = some path ∧ files.writable path = .error error := by
  unfold openLog at failed
  cases given : options.value .logPath with
  | none => simp [given] at failed
  | some path =>
      refine ⟨path, rfl, ?_⟩
      cases found : files.writable path with
      | error error => simpa [given, LogFile.create, found, bind, Except.bind] using failed
      | ok place =>
          simp [given, LogFile.create, found, bind, Except.bind, pure, Except.pure] at failed

theorem writable_eq_error {path : Path} {error : FileError}
    (failed : files.writable path = .error error) (directory : Place) (name : List UInt8) :
    ¬ files.Creatable path directory name := by
  intro creatable
  cases failed.symm.trans creatable.writable_eq

theorem makeDirectories_eq_error {path : Path} {error : FileError} {left : FileSystem}
    (failed : files.makeDirectories path = (.error error, left)) (made : FileSystem)
    (place : Place) : ¬ files.Makes path made place := by
  intro makes
  cases failed.symm.trans (makeDirectories_eq_ok_iff.mpr ⟨place, makes⟩)

theorem refused_or_prepared (filter : Log.Filter) (options : Options) (files : FileSystem) :
    (∃ phase error left, Refused filter options files phase error left) ∨
      ∃ log config ready, Prepared filter options files log config ready := by
  cases opened : openLog options files with
  | error error =>
      obtain ⟨path, given, failed⟩ := openLog_eq_error opened
      exact .inl ⟨_, _, _, .log given (writable_eq_error failed) failed⟩
  | ok opening =>
      obtain ⟨empty, created⟩ := opening
      rcases noting : keepBanner filter empty created with ⟨log, noted⟩
      have banner : Noted filter options files log noted := ⟨empty, created, opened, noting⟩
      cases read : Config.ofOptions options noted with
      | error error =>
          obtain ⟨path, given, unscripted⟩ := ofOptions_eq_error_iff.mp read
          exact .inl ⟨_, _, _, .script banner given unscripted⟩
      | ok config =>
          rcases made : noted.makeDirectories config.outputDir with ⟨error | done, left⟩
          · exact .inl ⟨_, _, _, .output banner read (makeDirectories_eq_error made) made⟩
          · exact .inr ⟨log, config, left, noted, banner, read, made⟩

section Execute

variable {State Memory : Type} {library : Machine.Library State} {resizers : Resizers Memory}
  {state : State} {clock : Clock}

/-- What has been said when a preparation fails. -/
def Preparation.said : Preparation → List Log.Message
  | log => []
  | script | output => [.banner]

/-- A refused program has called no library. -/
theorem execute_of_refused {phase : Preparation} {error : Error} {left : FileSystem}
    (refused : Refused filter options files phase error left) :
    execute library resizers state clock filter options files =
      ⟨.failed error, left, .unbound state, phase.said⟩ := by
  cases refused with
  | log given uncreatable failed =>
      simp [execute, openLog, given, LogFile.create, failed, bind, Except.bind, Preparation.said]
  | script noted given unscripted =>
      obtain ⟨empty, created, opened, banner⟩ := noted
      simp only [execute, opened, banner, ofOptions_eq_error_iff.mpr ⟨_, given, unscripted⟩,
        Preparation.said]
  | output noted read unmade made =>
      obtain ⟨empty, created, opened, banner⟩ := noted
      simp only [execute, opened, banner, read, made, Preparation.said]

theorem execute_of_prepared {log : Option LogFile} {config : Config} {ready : FileSystem}
    (prepared : Prepared filter options files log config ready) :
    let ran := benchmark library resizers state clock config ready
    execute library resizers state clock filter options files =
      ⟨.ofRun ran.1, keepRun filter log ready ran.2, ran.2.machine,
        .banner :: ran.2.journal.messages⟩ := by
  obtain ⟨noted, ⟨empty, created, opened, banner⟩, read, made⟩ := prepared
  simp only [execute, opened, banner, read, made]

end Execute

section Logged

/-- Nothing has changed but the log file, if one was asked for on `files`. -/
def Logged (options : Options) (files before after : FileSystem) : Prop :=
  match options.value .logPath with
  | none => after = before
  | some path => ∃ directory name, files.Creatable path directory name ∧
      Relogged (directory ++ [name]) before after

/-- What a preparation that has failed leaves of the files. -/
def Preparation.Leaves (options : Options) (files left : FileSystem) : Preparation → Prop
  | log => left = files
  | script => Logged options files files left
  | output => ∃ noted, Logged options files files noted ∧ Grown noted left

/-- The log that is kept, if one is, is the file that was asked for. -/
inductive Logging (options : Options) (files noted : FileSystem) : Option LogFile → Prop where
  | off : options.value .logPath = none → noted = files → Logging options files noted none
  | on {path : Path} {log : LogFile} {directory : Place} {name : List UInt8} :
      options.value .logPath = some path → files.Creatable path directory name →
      log.place = directory ++ [name] → Relogged log.place files noted →
      Logging options files noted (some log)

variable {log : Option LogFile} {noted : FileSystem}

theorem Noted.logging (banner : Noted filter options files log noted) :
    Logging options files noted log := by
  obtain ⟨empty, created, opened, kept⟩ := banner
  unfold openLog at opened
  cases given : options.value .logPath with
  | none =>
      simp only [given, Except.ok.injEq, Prod.mk.injEq] at opened
      obtain ⟨rfl, rfl⟩ := opened
      cases kept
      exact .off given rfl
  | some path =>
      cases made : LogFile.create files path with
      | error error => simp [given, made, bind, Except.bind] at opened
      | ok opening =>
          obtain ⟨file, emptied⟩ := opening
          simp only [given, made, bind, Except.bind, pure, Except.pure, Except.ok.injEq,
            Prod.mk.injEq] at opened
          obtain ⟨rfl, rfl⟩ := opened
          cases kept
          obtain ⟨found, relogged⟩ := LogFile.relogged_of_create made
          obtain ⟨same, further⟩ := LogFile.relogged_write (writable_eq_ok found) relogged
            (Utf8.encode (logText filter [.banner]))
          rw [← same] at found further
          obtain ⟨directory, name, creatable, placed⟩ := writable_eq_ok_iff.mp found
          exact .on given creatable placed further

theorem Noted.logged (banner : Noted filter options files log noted) :
    Logged options files files noted := by
  unfold Logged
  cases banner.logging with
  | off given same => rw [given]; exact same
  | on given creatable placed relogged =>
      rw [given]
      exact ⟨_, _, creatable, placed ▸ relogged⟩

theorem leaves_of_refused {phase : Preparation} {error : Error} {left : FileSystem}
    (refused : Refused filter options files phase error left) :
    phase.Leaves options files left := by
  cases refused with
  | log given uncreatable failed => rfl
  | script banner given unscripted => exact banner.logged
  | @output log noted left config error banner read unmade made =>
      have grown := grown_makeDirectories noted config.outputDir
      rw [made] at grown
      exact ⟨noted, banner.logged, grown⟩

/-- The preparations have passed: the log is open, the script is there, and so is the directory for
the images. -/
structure Passed (filter : Log.Filter) (options : Options) (files noted ready : FileSystem)
    (log : Option LogFile) (config : Config) (place : Place) : Prop where
  banner : Noted filter options files log noted
  logging : Logging options files noted log
  configured : Config.ofOptions options noted = .ok config
  scripted : Scripted options noted config.script
  makes : noted.Makes config.outputDir ready place
  leads : ready.Leads (ready.start config.outputDir) config.outputDir.names place

theorem Prepared.passes {config : Config} {ready : FileSystem}
    (prepared : Prepared filter options files log config ready) :
    ∃ noted place, Passed filter options files noted ready log config place := by
  obtain ⟨noted, banner, read, made⟩ := prepared.passed
  obtain ⟨place, makes⟩ := makeDirectories_eq_ok_iff.mp made
  exact ⟨noted, place, banner, banner.logging, read, scripted_of_ofOptions read, makes, makes.leads⟩

end Logged

end FrameCycle.Program
