import FrameCycle.Proofs.Lifetime
import FrameCycle.Proofs.Completion
import FrameCycle.Proofs.Delivery
import FrameCycle.Proofs.Script.Printer
import FrameCycle.Proofs.Script.Timetable
import FrameCycle.Proofs.Text.Decoding

/-!
The paths that a library is told. They are text always, so a path that is no text is told as another
one; a run tells the paths of its script as they are, and that of its configuration if it is text.
-/
namespace FrameCycle

variable {State Store Memory : Type}

namespace Machine

theorem valid_pathBytes (path : Path) : Utf8.Valid (pathBytes path) :=
  Utf8.valid_encode path.lossy

theorem pathBytes_eq_iff {path : Path} : pathBytes path = path.bytes ↔ Utf8.Valid path.bytes :=
  Utf8.valid_iff.symm

theorem pathBytes_of_textual {path : Path} (textual : path.Textual) :
    pathBytes path = path.bytes := by
  obtain ⟨text, rfl⟩ := textual
  exact pathBytes_eq_iff.mpr (Utf8.valid_encode text)

/-- The bytes of a replacement character. -/
def replacement : List UInt8 := [0xEF, 0xBF, 0xBD]

theorem replacement_isInfix {path : Path} (invalid : ¬ Utf8.Valid path.bytes) :
    replacement <:+: pathBytes path := by
  have encoded : String.utf8EncodeChar '\uFFFD' = replacement := by decide
  exact encoded ▸ Utf8.isInfix_encode (Utf8.replacement_mem_lossy invalid)

theorem pathBytes_pathBytes (path : Path) : pathBytes ⟨pathBytes path⟩ = pathBytes path :=
  pathBytes_eq_iff.mpr (valid_pathBytes path)

theorem pathBytes_inj {path other : Path} (valid : Utf8.Valid path.bytes)
    (otherValid : Utf8.Valid other.bytes) (same : pathBytes path = pathBytes other) :
    path = other := by
  rw [pathBytes_eq_iff.mpr valid, pathBytes_eq_iff.mpr otherValid] at same
  obtain ⟨bytes⟩ := path
  exact congrArg Path.mk same

/-- The directory of a request for a machine. -/
def Request.romDir? : Request → Option (List UInt8)
  | create _ _ _ romDir => some romDir
  | _ => none

/-- The file of a request for a snapshot. -/
def Request.file? : Request → Option (List UInt8)
  | snapshot _ file => some file
  | _ => none

namespace Instance

def romDirs (machine : Instance State) : List (List UInt8) :=
  machine.requests.toList.filterMap Request.romDir?

def files (machine : Instance State) : List (List UInt8) :=
  machine.requests.toList.filterMap Request.file?

end Instance

end Machine

def Demand.snapshot? : Demand → Option Path
  | snapshot path => some path
  | _ => none

/-- The snapshots that have been demanded. -/
def Bench.snapshots (bench : Bench State Store) : List Path :=
  bench.demands.filterMap Demand.snapshot?

/-- The library has heard of one directory, and of the snapshots that were demanded. -/
structure Bench.Tells (romDir : List UInt8) (bench : Bench (Machine.Instance State) Store) :
    Prop where
  romDirs_eq : bench.machine.romDirs = [romDir]
  files_eq : bench.machine.files = bench.snapshots.map Machine.pathBytes

namespace Bench

variable {romDir : List UInt8} {bench next : Bench (Machine.Instance State) Store}

theorem snapshots_eq {calls : List Call} (called : next.calls = bench.calls ++ calls) :
    next.snapshots = bench.snapshots ++ (calls.map Call.demand).filterMap Demand.snapshot? := by
  simp only [snapshots, demands_eq, called, List.map_append, List.filterMap_append]

/-- Calls that are told as one request. -/
theorem Tells.request (tells : bench.Tells romDir) {request : Machine.Request} {calls : List Call}
    (requested : next.machine.requests = bench.machine.requests.push request)
    (called : next.calls = bench.calls ++ calls) (noDir : request.romDir? = none)
    (told : request.file?.toList =
      ((calls.map Call.demand).filterMap Demand.snapshot?).map Machine.pathBytes) :
    next.Tells romDir where
  romDirs_eq := by
    have pushed : next.machine.romDirs = bench.machine.romDirs ++ request.romDir?.toList := by
      rw [Machine.Instance.romDirs, requested, Array.toList_push, List.filterMap_append,
        Machine.Instance.romDirs]
      cases request <;> rfl
    rw [pushed, tells.romDirs_eq, noDir, Option.toList_none, List.append_nil]
  files_eq := by
    have pushed : next.machine.files = bench.machine.files ++ request.file?.toList := by
      rw [Machine.Instance.files, requested, Array.toList_push, List.filterMap_append,
        Machine.Instance.files]
      cases request <;> rfl
    rw [pushed, tells.files_eq, told, snapshots_eq called, List.map_append]

/-- Calls that the library does not hear of. -/
theorem Tells.unheard (tells : bench.Tells romDir) {calls : List Call}
    (machine : next.machine = bench.machine) (called : next.calls = bench.calls ++ calls)
    (none : (calls.map Call.demand).filterMap Demand.snapshot? = []) : next.Tells romDir := by
  have same : next.snapshots = bench.snapshots := by
    rw [snapshots_eq called, none, List.append_nil]
  exact ⟨machine ▸ tells.romDirs_eq, by rw [machine, same, tells.files_eq]⟩

theorem Used.tells {library : Machine.Library State} {sink : Sink Store}
    (used : Used ⟨library.core, sink⟩ bench next) (tells : bench.Tells romDir) :
    next.Tells romDir := by
  induction used with
  | refl => exact tells
  | log message _ inductionHypothesis =>
      exact inductionHypothesis.unheard rfl ((calls_log _ _).trans (List.append_nil _).symm) rfl
  | measure _ inductionHypothesis =>
      exact inductionHypothesis.unheard rfl (List.append_nil _).symm rfl
  | resolution _ inductionHypothesis =>
      exact inductionHypothesis.request rfl (List.append_nil _).symm rfl rfl
  | advance _ inductionHypothesis =>
      exact inductionHypothesis.request rfl (calls_advance _ _) rfl rfl
  | display frame _ inductionHypothesis =>
      exact inductionHypothesis.request rfl (calls_display _ frame _) rfl rfl
  | audio channel buffer _ inductionHypothesis =>
      exact inductionHypothesis.request rfl (calls_audio _ channel buffer _) rfl rfl
  | key name pressed _ inductionHypothesis =>
      exact inductionHypothesis.request rfl (calls_key _ name pressed _) rfl rfl
  | snapshot path _ inductionHypothesis =>
      exact inductionHypothesis.request rfl (calls_snapshot _ path _) rfl rfl
  | upscale name factor _ inductionHypothesis =>
      exact inductionHypothesis.unheard rfl (calls_call _ _) rfl
  | write path frame _ inductionHypothesis =>
      exact inductionHypothesis.unheard rfl (calls_write _ path frame _) rfl

end Bench

theorem LeftBehind.tells {library : Machine.Library State} {sink : Sink Store} {config : Config}
    {state : State} {store : Store} {clock : Clock}
    {last : Bench (Machine.Instance State) Store}
    (left : LeftBehind ⟨library.core, sink⟩ config (.ready (.unbound state) store clock) last) :
    last.Tells (Machine.pathBytes config.romDir) := by
  have opened : ∀ {fresh : Bench (Machine.Instance State) Store},
      Bench.Asked ⟨library.core, sink⟩ config (.ready (.unbound state) store clock) fresh →
      fresh.Tells (Machine.pathBytes config.romDir) := by
    intro fresh asked
    have none : fresh.snapshots = [] := by
      rw [Bench.snapshots, Bench.demands_eq, asked.calls_eq]
      rfl
    constructor
    · rw [asked.machine_eq]
      rfl
    · rw [asked.machine_eq, none]
      rfl
  cases left with
  | refused made asked => exact opened asked
  | released made asked used calls released =>
      exact (used.tells (opened asked)).request (congrArg Machine.Instance.requests released) calls
        rfl rfl

def Input.snapshot? : Input → Option Path
  | snapshot path => some path
  | _ => none

theorem snapshots_inputsFrom (frames : Nat) (demands : List Demand) :
    (inputsFrom frames demands).filterMap (fun input => input.2.snapshot?) =
      demands.filterMap Demand.snapshot? := by
  induction demands generalizing frames with
  | nil => rfl
  | cons demand rest inductionHypothesis =>
      cases demand with
      | snapshot path => exact congrArg (path :: ·) (inductionHypothesis frames)
      | advance => exact inductionHypothesis (frames + 1)
      | _ => exact inductionHypothesis frames

/-- The file that an action has the library load: the one that it names as it is, and otherwise the
configured one as far as it is text. -/
def Action.file? (snapshot : Path) : Action → Option (List UInt8)
  | loadSnapshot (some path) => some path.bytes
  | loadSnapshot none => some (Machine.pathBytes snapshot)
  | _ => none

def Event.files (snapshot : Path) (event : Event) : List (List UInt8) :=
  event.actions.filterMap (Action.file? snapshot)

theorem Action.file?_of_textual {action : Action} (textual : action.Textual) (snapshot : Path) :
    (action.input snapshot).snapshot?.map Machine.pathBytes = action.file? snapshot := by
  cases action with
  | keyDown | keyUp => rfl
  | loadSnapshot path =>
      cases path with
      | none => rfl
      | some path => exact congrArg some (Machine.pathBytes_of_textual textual)

theorem Event.files_of_textual {event : Event} (textual : event.Textual) (snapshot : Path) :
    ((event.inputs snapshot).filterMap fun input => input.2.snapshot?).map Machine.pathBytes =
      event.files snapshot := by
  rw [inputs, List.filterMap_map, List.map_filterMap]
  exact List.filterMap_congr fun action member =>
    Action.file?_of_textual (textual action member) snapshot

/-- The library of a completed run hears of the files of its script, in their order. -/
theorem files_of_completed {library : Machine.Library State} {sink : Sink Store}
    {config : Config} {upscalers : Option (Upscalers Memory)} {state : State} {store : Store}
    {clock : Clock} {text : List Char} {report : RunReport}
    {bench : Bench (Machine.Instance State) Store}
    (loaded : Script.ofDocument text config.captureTick = .ok config.script)
    (completed : run ⟨library.core, sink⟩ config upscalers (.ready (.unbound state) store clock) =
      (.completed report, bench)) :
    bench.machine.files = config.script.events.toList.flatMap (Event.files config.snapshot) := by
  obtain ⟨cycle, ended, completes⟩ := completes_of_completed completed
  have positive := positive_of_started (Cycle.fresh_of_start completes.started) completes.ran
  obtain ⟨events, holds⟩ := Script.holds_of_ofDocument loaded
  have seen := inputsFrom_completed (ran_of_completed positive completed) holds
  have tells := (leftBehind_run ⟨library.core, sink⟩ config upscalers
    (.ready (.unbound state) store clock)).tells
  rw [completed] at tells
  rw [tells.files_eq, Bench.snapshots, ← snapshots_inputsFrom 0, seen, List.filterMap_flatMap,
    List.map_flatMap]
  refine List.flatMap_congr fun event member => ?_
  exact Event.files_of_textual (Script.textual_of_ofDocument loaded event member) config.snapshot

/-- What is told of any path is text: the path itself just if it is text, and otherwise another
path, with a replacement character in it. Telling it again changes nothing, and no two paths that
are text are told alike. Whatever way out a run takes, its library has heard of no other path; and
if the run was completed with a script that was read, then every path in the script has been told as
it is, and for the actions without one what can be told of the configured path. -/
theorem library_paths :
    (∀ path : Path,
      Utf8.Valid (Machine.pathBytes path) ∧
        (Machine.pathBytes path = path.bytes ↔ Utf8.Valid path.bytes) ∧
        (¬ Utf8.Valid path.bytes →
          Machine.replacement <:+: Machine.pathBytes path ∧ ⟨Machine.pathBytes path⟩ ≠ path) ∧
        Machine.pathBytes ⟨Machine.pathBytes path⟩ = Machine.pathBytes path) ∧
      (∀ path other : Path, Utf8.Valid path.bytes → Utf8.Valid other.bytes →
        Machine.pathBytes path = Machine.pathBytes other → path = other) ∧
      (∀ (library : Machine.Library State) (sink : Sink Store) (config : Config)
        (upscalers : Option (Upscalers Memory)) (state : State) (store : Store) (clock : Clock)
        (last : Bench (Machine.Instance State) Store),
        WayOut ⟨library.core, sink⟩ config upscalers (.ready (.unbound state) store clock) last →
        last.machine.romDirs = [Machine.pathBytes config.romDir] ∧
          last.machine.files = last.snapshots.map Machine.pathBytes ∧
          (∀ file ∈ last.machine.files, Utf8.Valid file) ∧
          (¬ Utf8.Valid config.snapshot.bytes →
            config.snapshot.bytes ∉ last.machine.files)) ∧
      (∀ (library : Machine.Library State) (sink : Sink Store) (config : Config)
        (upscalers : Option (Upscalers Memory)) (state : State) (store : Store) (clock : Clock)
        (text : List Char) (report : RunReport) (bench : Bench (Machine.Instance State) Store),
        Script.ofDocument text config.captureTick = .ok config.script →
        run ⟨library.core, sink⟩ config upscalers (.ready (.unbound state) store clock) =
          (.completed report, bench) →
        bench.machine.files =
          config.script.events.toList.flatMap (Event.files config.snapshot)) := by
  refine ⟨fun path => ?_, fun path other valid otherValid => Machine.pathBytes_inj valid otherValid,
    ?_, ?_⟩
  · refine ⟨Machine.valid_pathBytes path, Machine.pathBytes_eq_iff, fun invalid => ?_,
      Machine.pathBytes_pathBytes path⟩
    refine ⟨Machine.replacement_isInfix invalid, fun same => ?_⟩
    exact invalid (Machine.pathBytes_eq_iff.mp (congrArg Path.bytes same))
  · intro library sink config upscalers state store clock last out
    obtain ⟨romDirs, files⟩ := out.leftBehind.tells
    have valid : ∀ file ∈ last.machine.files, Utf8.Valid file := by
      intro file member
      rw [files] at member
      obtain ⟨path, -, rfl⟩ := List.mem_map.mp member
      exact Machine.valid_pathBytes path
    exact ⟨romDirs, files, valid, fun invalid member => invalid (valid _ member)⟩
  · intro library sink config upscalers state store clock text report bench loaded completed
    exact files_of_completed loaded completed

/-- Two snapshots at the first tick, the second of them from a path that is no text. -/
def Config.unprintable : Config :=
  { short with
    snapshot := ⟨[0xFF]⟩
    script := {
      events := #[⟨1, [.loadSnapshot (some (.ofString "game.z80")), .loadSnapshot none], none⟩]
      increasing := by simp } }

theorem library_paths_unprintable :
    ∃ report bench,
      run .testCard .unprintable (none : Option (Upscalers Unit)) .testCard =
        (.completed report, bench) ∧
      bench.machine.files = [(Path.ofString "game.z80").bytes, Machine.replacement] ∧
      ¬ Utf8.Valid Config.unprintable.snapshot.bytes := by
  have shown : Machine.pathBytes Config.unprintable.snapshot = Machine.replacement := by
    have strays : Utf8.pieces [0xFF] = [.stray [0xFF]] := by
      rw [Utf8.pieces]
      simp [Utf8.first, Utf8.lead?, Utf8.pieces]
    rw [Machine.pathBytes, Path.lossy, Utf8.lossy, Config.unprintable, strays]
    decide
  obtain ⟨facts, -, -, told⟩ := @library_paths Machine.TestCard Unit Unit
  have loaded : Script.ofDocument (Event.printList Config.unprintable.script.events.toList)
      Config.unprintable.captureTick = .ok Config.unprintable.script := by
    have textual : ∀ event ∈ Config.unprintable.script.events.toList, event.Textual := by
      simp [Config.unprintable, Event.Textual, Action.Textual, Path.Textual, Path.ofString]
    have accepted : Script.ofEvents Config.unprintable.script.events.toList
        Config.unprintable.captureTick = .ok Config.unprintable.script := by
      rw [Script.ofEvents_eq_ok_iff, Config.unprintable, List.mergeSort_singleton]
      decide
    rw [Script.ofDocument_of_written (Script.printList_written textual), accepted]
    rfl
  obtain ⟨cycle, started⟩ : ∃ cycle, Cycle.start .testCard .unprintable
      (none : Option (Upscalers Unit)) .testCard = .started cycle := ⟨_, rfl⟩
  obtain ⟨report, bench, completed⟩ := completed_of_bare started (by decide)
  have files := told Machine.TestCard.library Rig.testCard.sink .unprintable none .standard ()
    (.ofReadings fun _ => 0) _ report bench loaded completed
  refine ⟨report, bench, completed, ?_, fun valid => ?_⟩
  · rw [files, ← shown]
    rfl
  · have same := (facts Config.unprintable.snapshot).2.1.mpr valid
    rw [shown] at same
    exact absurd same (by decide)

end FrameCycle
