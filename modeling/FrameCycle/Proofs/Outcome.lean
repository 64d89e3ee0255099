import FrameCycle.Proofs.Completion
import FrameCycle.Proofs.Preparation
import FrameCycle.Proofs.Replay
import FrameCycle.Proofs.Resizers

/-!
How a program ends. Once it is prepared it asks for a machine; without one nothing more happens, and
with one the run completes, unless a size that depends on the display does not fit.
-/
namespace FrameCycle

variable {State Store Memory : Type}

/-- The sizes that a start computes fit their words, and there is room for the buffers. -/
structure Plan.Sized (plan : Plan Memory) : Prop where
  grid : plan.config.grid = true → ∃ grid, referenceGrid plan.width plan.height = .ok grid
  buffers : ∃ buffers, Cycle.startBuffers plan.upscalers plan.width plan.height = .ok buffers

namespace Cycle

theorem exists_startGrid_iff (sink : Sink Store) (config : Config) (width height : UInt32)
    (bench : Bench State Store) :
    (∃ next, startGrid sink config width height bench = .ok next) ↔
      (config.grid = true → ∃ grid, referenceGrid width height = .ok grid) := by
  unfold startGrid
  cases config.grid with
  | false => simp
  | true =>
      cases made : referenceGrid width height <;> simp [Except.map]

/-- Once there is a machine, only a size can stop the start. -/
theorem start_of_made (rig : Rig State Store) (config : Config)
    (upscalers : Option (Upscalers Memory)) {machine : State} (store : Store) (clock : Clock)
    (made : (rig.core.create config.createParams machine).1 = true) :
    let plan := rig.plan config upscalers machine
    let begun := start rig config upscalers (.ready machine store clock)
    (plan.Sized → ∃ cycle, begun = .started cycle) ∧
      (¬ plan.Sized → ∃ fault bench, begun = .faulted fault bench) := by
  intro plan begun
  obtain ⟨answer, machine_eq⟩ :=
    (Bench.ready machine store clock).machine_create rig.core config.createParams
  have created : (rig.core.create config.createParams
      (Bench.ready machine store clock : Bench State Store).machine).1 = true := made
  rw [created] at answer
  simp only [begun]
  unfold start
  rw [answer]
  generalize ((Bench.ready machine store clock).create rig.core config.createParams).2 = fresh
    at machine_eq
  -- the plan asks the machine itself for its size, the start asks it on the bench
  have size : (fresh.resolution rig.core).1 = (plan.width, plan.height) := by
    rw [Bench.resolution, machine_eq]
    rfl
  rcases resolution : fresh.resolution rig.core with ⟨shown, resolved⟩
  obtain rfl : shown = (plan.width, plan.height) := by rw [← size, resolution]
  simp only [resolution]
  have gridded := exists_startGrid_iff rig.sink config plan.width plan.height
    (resolved.log (.resolution plan.width plan.height))
  cases grid : startGrid rig.sink config plan.width plan.height
      (resolved.log (.resolution plan.width plan.height)) with
  | error fault =>
      refine ⟨fun sized => ?_, fun _ => ⟨fault, _, rfl⟩⟩
      obtain ⟨next, done⟩ := gridded.mpr sized.grid
      cases grid.symm.trans done
  | ok next =>
      cases buffered : startBuffers upscalers plan.width plan.height with
      | error fault =>
          refine ⟨fun sized => ?_, fun _ => ⟨fault, _, rfl⟩⟩
          obtain ⟨buffers, done⟩ := sized.buffers
          cases buffered.symm.trans done
      | ok buffers =>
          have sized : plan.Sized := ⟨gridded.mp ⟨next, grid⟩, buffers, buffered⟩
          exact ⟨fun _ => ⟨_, rfl⟩, fun unsized => absurd sized unsized⟩

theorem start_of_unmade (rig : Rig State Store) (config : Config)
    (upscalers : Option (Upscalers Memory)) {machine : State} (store : Store) (clock : Clock)
    (unmade : (rig.core.create config.createParams machine).1 = false) :
    start rig config upscalers (.ready machine store clock) =
      .refused ((Bench.ready machine store clock).create rig.core config.createParams).2 := by
  have answer :=
    ((Bench.ready machine store clock : Bench State Store).machine_create rig.core
      config.createParams).1
  have refused : (rig.core.create config.createParams
      (Bench.ready machine store clock : Bench State Store).machine).1 = false := unmade
  rw [refused] at answer
  unfold start
  rw [answer]

end Cycle

/-- Without a machine a run is over when it has asked for one. -/
theorem run_of_unmade (rig : Rig State Store) (config : Config)
    (upscalers : Option (Upscalers Memory)) {machine : State} (store : Store) (clock : Clock)
    (unmade : (rig.core.create config.createParams machine).1 = false) :
    ∃ last, run rig config upscalers (.ready machine store clock) = (.notStarted, last) ∧
      last.machine = (rig.core.create config.createParams machine).2 ∧ last.store = store ∧
      last.calls = [.create config.createParams] := by
  have asked := (Bench.ready machine store clock).asked_create rig config
  simp only [run, Cycle.start_of_unmade rig config upscalers store clock unmade]
  refine ⟨_, rfl, asked.machine_eq, asked.store_eq, ?_⟩
  rw [Bench.calls_log, asked.calls_eq]
  rfl

namespace Machine

/-- The call that asks for a machine. -/
def Request.opening (params : CreateParams) : Request :=
  .create params.is48k params.sampleRate params.bufferFrames.toInt64 (pathBytes params.romDir)

/-- What a library answers to it. -/
def Library.answer (library : Library State) (params : CreateParams) (state : State) :
    Int64 × State :=
  library.create params.is48k params.sampleRate params.bufferFrames.toInt64
    (pathBytes params.romDir) state

end Machine

namespace Program

open FileSystem

variable {filter : Log.Filter} {options : Options} {files : FileSystem} {log : Option LogFile}
  {noted ready : FileSystem}

/-- As long as no image is handed over, a log file is all that changes. -/
theorem relogged_keepEntries {log : LogFile} {before held : FileSystem} (named : log.place ≠ [])
    (relogged : Relogged log.place before held) {entries : List Entry}
    (imageless : ∀ path frame stored, Entry.call (.write path frame stored) ∉ entries) :
    Relogged log.place before (entries.foldl (keepEntry filter) (log, held)).2 := by
  induction entries generalizing log held with
  | nil => exact relogged
  | cons entry rest inductionHypothesis =>
      have later : ∀ path frame stored, Entry.call (.write path frame stored) ∉ rest :=
        fun path frame stored member => imageless path frame stored (List.mem_cons_of_mem _ member)
      cases entry with
      | message message =>
          -- the log goes on with another offset, at the same place
          obtain ⟨same, further⟩ := LogFile.relogged_write named relogged
            (Utf8.encode (logText filter [message]))
          rw [← same] at named further ⊢
          exact inductionHypothesis named further later
      | call call =>
          cases call with
          | write path frame stored => exact absurd List.mem_cons_self (imageless path frame stored)
          | _ => exact inductionHypothesis named relogged later

theorem logged_keepRun {bench : Bench State FileSystem} (logging : Logging options files noted log)
    (grown : Grown noted ready) (store : bench.store = ready)
    (imageless : ∀ path frame stored, Call.write path frame stored ∉ bench.calls) :
    Logged options files ready (keepRun filter log ready bench) := by
  unfold Logged
  cases logging with
  | off given same =>
      rw [given]
      exact store
  | @on path log directory name given creatable placed relogged =>
      rw [given]
      refine ⟨directory, name, creatable, placed ▸ ?_⟩
      refine relogged_keepEntries (by simp [placed]) (relogged.refl_of_grown grown) ?_
      intro path frame stored member
      exact imageless path frame stored (List.mem_filterMap.mpr ⟨_, member, rfl⟩)

/-- What a program is set up with for the display of a machine that its library makes. -/
def plan (library : Machine.Library State) (resizers : Resizers Memory) (state : State)
    (config : Config) : Plan Memory :=
  Rig.plan ⟨library.core, (Png.sink : Sink FileSystem)⟩ config (upscalers resizers config)
    (.unbound state)

/-- What a prepared program does with its library. -/
structure Proceeds (library : Machine.Library State) (resizers : Resizers Memory) (state : State)
    (options : Options) (files : FileSystem) (config : Config) (ready : FileSystem)
    (session : Session State) : Prop where
  /-- The library has come to where the requests that were made bring it. -/
  replayed : session.machine.Replays library state
  notStarted_iff : session.ending = .finished .notStarted ↔
    (library.answer config.createParams state).1 = 0
  /-- Without a machine one call has been made, and nothing written but the log. -/
  refused : (library.answer config.createParams state).1 = 0 →
    session.machine = ⟨0, (library.answer config.createParams state).2,
      #[.opening config.createParams]⟩ ∧
    Logged options files ready session.files
  completed : (library.answer config.createParams state).1 ≠ 0 →
    (plan library resizers state config).Sized →
    ∃ report, session.ending = .finished (.completed report)
  faulted : (library.answer config.createParams state).1 ≠ 0 →
    ¬ (plan library resizers state config).Sized →
    ∃ fault, session.ending = .finished (.stopped (.fault fault))

variable {library : Machine.Library State} {resizers : Resizers Memory} {state : State}
  {clock : Clock} {config : Config}

theorem linked_of_started {cycle : Cycle (Machine.Instance State) FileSystem Memory}
    (started : Cycle.start ⟨library.core, Png.sink⟩ config (upscalers resizers config)
      (.ready (.unbound state) ready clock) = .started cycle) :
    (plan library resizers state config).Linked resizers := by
  refine Cycle.linked_of_start ?_ started
  unfold upscalers
  cases config.upscale with
  | true => exact .inr rfl
  | false => exact .inl rfl

theorem captureTick_of_ofOptions (read : Config.ofOptions options noted = .ok config) :
    config.captureTick = Config.standardCaptureTick := by
  simp only [Config.ofOptions, bind, Except.bind, pure, Except.pure] at read
  cases given : options.value .script with
  | none =>
      simp only [given, Except.ok.injEq] at read
      rw [← read]
  | some path =>
      cases loaded : Script.load noted path Config.standardCaptureTick with
      | error error => simp [given, loaded] at read
      | ok script =>
          simp only [given, loaded, Except.ok.injEq] at read
          rw [← read]

theorem Prepared.captureTick_eq (prepared : Prepared filter options files log config ready) :
    config.captureTick = Config.standardCaptureTick := by
  obtain ⟨noted, -, read, -⟩ := prepared.passed
  exact captureTick_of_ofOptions read

theorem Prepared.positive (prepared : Prepared filter options files log config ready) :
    0 < config.captureTick := by
  rw [prepared.captureTick_eq]
  decide

/-- A run that its library has made a machine for completes, unless a size does not fit. -/
theorem benchmark_of_made (resizers : Resizers Memory) (clock : Clock) (ready : FileSystem)
    (positive : 0 < config.captureTick)
    (made : (library.core.create config.createParams (.unbound state)).1 = true) :
    let outcome := (benchmark library resizers state clock config ready).1
    ((plan library resizers state config).Sized → ∃ report, outcome = .completed report) ∧
      (¬ (plan library resizers state config).Sized →
        ∃ fault, outcome = .stopped (.fault fault)) := by
  obtain ⟨starts, faults⟩ := Cycle.start_of_made ⟨library.core, Png.sink⟩ config
    (upscalers resizers config) ready clock made
  simp only [benchmark]
  constructor
  · intro sized
    obtain ⟨cycle, started⟩ := starts sized
    obtain ⟨before, last, -, -, -, -, ran⟩ :=
      run_of_linked (linked_of_started started) started positive
    exact ⟨_, by rw [ran]⟩
  · intro unsized
    obtain ⟨fault, bench, faulted⟩ := faults unsized
    exact ⟨fault, by simp only [run, faulted]⟩

theorem proceeds_of_prepared (clock : Clock)
    (prepared : Prepared filter options files log config ready) :
    Proceeds library resizers state options files config ready
      (execute library resizers state clock filter options files) := by
  obtain ⟨noted, banner, -, output⟩ := prepared.passed
  have grown : Grown noted ready := by
    have grown := grown_makeDirectories noted config.outputDir
    rwa [output] at grown
  have replayed : (benchmark library resizers state clock config ready).2.machine.Replays
      library state := WayOut.run.replays.library
  rw [execute_of_prepared prepared]
  by_cases none : (library.answer config.createParams state).1 = 0
  · have unmade : (library.core.create config.createParams (.unbound state)).1 = false :=
      bne_eq_false_iff_eq.mpr none
    obtain ⟨last, ran, machine, store, calls⟩ :=
      run_of_unmade ⟨library.core, Png.sink⟩ config (upscalers resizers config) ready clock unmade
    have imageless : ∀ path frame stored, Call.write path frame stored ∉ last.calls := by
      simp [calls]
    rw [benchmark, ran] at replayed ⊢
    refine ⟨replayed, ⟨fun _ => none, fun _ => rfl⟩, fun _ => ⟨?_, ?_⟩,
      fun some => absurd none some, fun some => absurd none some⟩
    · rw [machine, ← none]
      rfl
    · exact logged_keepRun banner.logging grown store imageless
  · have made : (library.core.create config.createParams (.unbound state)).1 = true :=
      bne_iff_ne.mpr none
    obtain ⟨completes, faults⟩ := benchmark_of_made resizers clock ready prepared.positive made
    refine ⟨replayed, ⟨fun early => ?_, fun zero => absurd zero none⟩,
      fun zero => absurd zero none,
      fun _ sized => ?_, fun _ unsized => ?_⟩
    · by_cases sized : (plan library resizers state config).Sized
      · obtain ⟨report, completed⟩ := completes sized
        simp [completed, Ending.ofRun] at early
      · obtain ⟨fault, faulted⟩ := faults sized
        simp [faulted, Ending.ofRun] at early
    · obtain ⟨report, completed⟩ := completes sized
      exact ⟨report, by rw [completed]; rfl⟩
    · obtain ⟨fault, faulted⟩ := faults unsized
      exact ⟨fault, by rw [faulted]; rfl⟩

theorem Proceeds.not_failed {session : Session State}
    (proceeds : Proceeds library resizers state options files config ready session) :
    session.ending = .finished .notStarted ∨
      (∃ report, session.ending = .finished (.completed report)) ∨
      ∃ fault, session.ending = .finished (.stopped (.fault fault)) := by
  by_cases none : (library.answer config.createParams state).1 = 0
  · exact .inl (proceeds.notStarted_iff.mpr none)
  · by_cases sized : (plan library resizers state config).Sized
    · exact .inr (.inl (proceeds.completed none sized))
    · exact .inr (.inr (proceeds.faulted none sized))

/-- The preparations of a program fail one after the other, and a program that fails in one of them
has done no more than the earlier ones and has asked for no machine. Once it is prepared it does not
fail: it ends without a machine, or it completes. It exits with success if it has not failed, and
says the error otherwise. -/
theorem execute_phases (library : Machine.Library State) (resizers : Resizers Memory)
    (state : State) (clock : Clock) (filter : Log.Filter) (options : Options)
    (files : FileSystem) :
    let session := execute library resizers state clock filter options files
    (∀ error, session.ending = .failed error ↔
      ∃ phase left, Refused filter options files phase error left) ∧
    (∀ phase error left, Refused filter options files phase error left →
      session = ⟨.failed error, left, .unbound state, phase.said⟩ ∧
        phase.Leaves options files left) ∧
    ((¬ ∃ phase error left, Refused filter options files phase error left) →
      ∃ noted log config ready place,
        Passed filter options files noted ready log config place ∧
        Proceeds library resizers state options files config ready session) ∧
    (session.exitCode = 0 ↔ session.ending = .finished .notStarted ∨
      ∃ report, session.ending = .finished (.completed report)) ∧
    ∀ error complaints, session.ending = .failed error → session.exitCode = 1 ∧
      ∃ said, session.notices filter complaints options =
        said ++ ended s!"Error: {error.message}" := by
  intro session
  have refused : ∀ phase error left, Refused filter options files phase error left →
      session = ⟨.failed error, left, .unbound state, phase.said⟩ ∧
        phase.Leaves options files left :=
    fun phase error left refused => ⟨execute_of_refused refused, leaves_of_refused refused⟩
  have ends : (∃ phase error left, Refused filter options files phase error left) ∨
      ∃ noted log config ready place, Passed filter options files noted ready log config place ∧
        Proceeds library resizers state options files config ready session := by
    rcases refused_or_prepared filter options files with stopped | ⟨log, config, ready, prepared⟩
    · exact .inl stopped
    · obtain ⟨noted, place, passed⟩ := prepared.passes
      exact .inr ⟨noted, log, config, ready, place, passed, proceeds_of_prepared clock prepared⟩
  refine ⟨fun error => ⟨fun failed => ?_, ?_⟩, refused, ends.resolve_left, ?_, ?_⟩
  · rcases ends with
      ⟨phase, error', left, stopped⟩ | ⟨noted, log, config, ready, place, -, proceeds⟩
    · obtain ⟨same, -⟩ := refused phase error' left stopped
      rw [same] at failed
      cases failed
      exact ⟨phase, left, stopped⟩
    · rcases proceeds.not_failed with ending | ⟨report, ending⟩ | ⟨fault, ending⟩ <;>
        cases ending.symm.trans failed
  · rintro ⟨phase, left, stopped⟩
    rw [(refused phase error left stopped).1]
  · rcases ends with
      ⟨phase, error, left, stopped⟩ | ⟨noted, log, config, ready, place, -, proceeds⟩
    · rw [(refused phase error left stopped).1]
      simp [Session.exitCode]
    · rcases proceeds.not_failed with ending | ⟨report, ending⟩ | ⟨fault, ending⟩ <;>
        simp [Session.exitCode, ending]
  · intro error complaints failed
    have said : session.complaint?.toList.flatMap ended = ended s!"Error: {error.message}" := by
      simp [Session.complaint?, failed]
    exact ⟨by simp [Session.exitCode, failed], _, congrArg (_ ++ ·) said⟩

/-- Options that name a script and nothing else. -/
def scripted (path : Path) : Options where
  value opt := if opt = .script then some path else none
  flag _ := false

/-- Without options the test card is shown to its end, and with a script that is not there it is not
shown at all. -/
theorem execute_phases_testCard :
    (∃ report, (execute Machine.TestCard.library .nearest .standard (.ofReadings fun _ => 0)
      .standard .none (.empty [])).ending = .finished (.completed report)) ∧
    execute Machine.TestCard.library .nearest .standard (.ofReadings fun _ => 0) .standard
        (scripted (.ofString "script.json")) (.empty []) =
      ⟨.failed (.file .notFound), .empty [], .unbound .standard, [.banner]⟩ := by
  constructor
  · obtain ⟨-, -, prepares, -⟩ := execute_phases Machine.TestCard.library .nearest .standard
      (.ofReadings fun _ => 0) .standard .none (.empty [])
    have passes : ¬ ∃ phase error left,
        Refused .standard Options.none (.empty []) phase error left := by
      rintro ⟨phase, error, left, refused⟩
      cases refused with
      | log given uncreatable failed => cases given
      | script banner given unscripted => cases given
      | output banner read unmade made =>
          obtain ⟨empty, created, opened, kept⟩ := banner
          cases opened
          cases kept
          cases read
          cases made
    obtain ⟨noted, log, config, ready, place, passed, proceeds⟩ := prepares passes
    cases passed.configured
    exact proceeds.completed (by decide) ⟨fun _ => ⟨_, rfl⟩, _, rfl⟩
  · obtain ⟨-, refused, -⟩ := execute_phases Machine.TestCard.library .nearest .standard
      (.ofReadings fun _ => 0) .standard (scripted (.ofString "script.json")) (.empty [])
    have missing : Refused .standard (scripted (.ofString "script.json")) (.empty []) .script
        (.file .notFound) (.empty []) :=
      .script ⟨none, .empty [], rfl, rfl⟩ rfl (.unread (readText_eq_error rfl) rfl)
    exact (refused _ _ _ missing).1

end Program

end FrameCycle
