import FrameCycle.Machine.Binding
import FrameCycle.Proofs.Cycle.Use
import FrameCycle.Proofs.Run

/-!
The lifetime of a machine. Whatever way a run takes, a machine that was made is released once,
after every other call; a library is given the one id of that machine with every call.
-/
namespace FrameCycle

variable {State Store Memory : Type}

/-- Calls that neither make nor release a machine. -/
def Call.isUse : Call → Bool
  | .create _ | .release => false
  | _ => true

/-- Calls of which the first makes a machine and the last releases it, and no other does either. -/
def Released (params : CreateParams) (calls : List Call) : Prop :=
  ∃ uses, calls = .create params :: uses ++ [.release] ∧ ∀ call ∈ uses, call.isUse = true

namespace Machine

namespace Request

/-- The id that a call of the library carries. -/
def id? : Request → Option Int64
  | create _ _ _ _ | resolution => none
  | update id | display id _ _ _ | audio id _ _ | key id _ _ | snapshot id _ | destroy id => some id

def isUse : Request → Bool
  | create _ _ _ _ | destroy _ => false
  | _ => true

/-- A call that neither makes nor destroys a machine, and is about the machine `id` if about any. -/
def Concerns (id : Int64) (request : Request) : Prop :=
  request.isUse = true ∧ ∀ carried, request.id? = some carried → carried = id

end Request

/-- Calls of a library that begin by asking for a machine and end by destroying the machine `id`,
and are about no other machine. -/
def Destroyed (opening : Request) (id : Int64) (requests : List Request) : Prop :=
  ∃ uses, requests = opening :: uses ++ [.destroy id] ∧ ∀ request ∈ uses, request.Concerns id

namespace Instance

variable {State : Type}

/-- From `first` to `last` the binding has called its library about its own machine only. -/
structure Follows (first last : Instance State) : Prop where
  id_eq : last.id = first.id
  requests : ∃ uses, last.requests.toList = first.requests.toList ++ uses ∧
    ∀ request ∈ uses, request.Concerns first.id

theorem Follows.request {first last next : Instance State} {request : Request}
    (follows : first.Follows last) (pushed : next.requests = last.requests.push request)
    (concerns : request.Concerns last.id) (same : next.id = last.id) : first.Follows next := by
  obtain ⟨id_eq, uses, listed, every⟩ := follows
  rw [id_eq] at concerns
  refine ⟨same.trans id_eq, uses ++ [request], ?_, ?_⟩
  · rw [pushed, Array.toList_push, listed, List.append_assoc]
  · intro other member
    rcases List.mem_append.mp member with earlier | last
    · exact every other earlier
    · rwa [List.mem_singleton.mp last]

end Instance

end Machine

namespace Bench

@[simp]
theorem machine_release (core : Core State) (bench : Bench State Store) :
    (bench.release core).machine = core.release bench.machine := by
  simp only [release]
  exact congrArg core.release (machine_logAll core.closing bench)

theorem machine_create (core : Core State) (params : CreateParams) (bench : Bench State Store) :
    bench.create core params =
      ((core.create params bench.machine).1, (bench.create core params).2) ∧
      (bench.create core params).2.machine = (core.create params bench.machine).2 := by
  have asked : ((bench.logAll (core.opening params)).call (.create params)).machine =
      bench.machine := machine_logAll (core.opening params) bench
  simp only [create, asked, true_and]
  split
  · rfl
  · exact machine_logAll core.refusal _

theorem store_create (core : Core State) (params : CreateParams) (bench : Bench State Store) :
    (bench.create core params).2.store = bench.store := by
  have asked : ((bench.logAll (core.opening params)).call (.create params)).store = bench.store :=
    store_logAll (core.opening params) bench
  simp only [create]
  split
  · exact asked
  · rw [store_logAll]
    exact asked

theorem store_abandon (rig : Rig State Store) (cycle : Cycle State Store Memory) :
    (cycle.abandon rig).store = cycle.bench.store :=
  store_logAll rig.core.closing cycle.bench

theorem store_finish (rig : Rig State Store) (cycle : Cycle State Store Memory) :
    (cycle.finish rig).2.store = cycle.bench.store := by
  rw [← store_abandon rig cycle]
  exact store_logAll cycle.runReport.summary (cycle.abandon rig)

namespace Used

variable {rig : Rig State Store} {bench next : Bench State Store}

theorem calls (used : Used rig bench next) :
    ∃ uses, next.calls = bench.calls ++ uses ∧ ∀ call ∈ uses, call.isUse = true := by
  have further : ∀ {middle : Bench State Store} {call : Call}, call.isUse = true →
      (∃ uses, middle.calls = bench.calls ++ uses ∧ ∀ call ∈ uses, call.isUse = true) →
      ∃ uses, middle.calls ++ [call] = bench.calls ++ uses ∧ ∀ call ∈ uses, call.isUse = true := by
    rintro middle call isUse ⟨uses, listed, every⟩
    refine ⟨uses ++ [call], by rw [listed, List.append_assoc], ?_⟩
    intro other member
    rcases List.mem_append.mp member with earlier | last
    · exact every other earlier
    · rwa [List.mem_singleton.mp last]
  induction used with
  | refl => exact ⟨[], (List.append_nil _).symm, by simp⟩
  | log message _ inductionHypothesis => rwa [calls_log]
  | measure _ inductionHypothesis => exact inductionHypothesis
  | resolution _ inductionHypothesis => exact inductionHypothesis
  | advance _ inductionHypothesis =>
      rw [calls_advance]
      exact further rfl inductionHypothesis
  | display frame _ inductionHypothesis =>
      rw [calls_display]
      exact further rfl inductionHypothesis
  | audio channel buffer _ inductionHypothesis =>
      rw [calls_audio]
      exact further rfl inductionHypothesis
  | key name pressed _ inductionHypothesis =>
      rw [calls_key]
      exact further rfl inductionHypothesis
  | snapshot path _ inductionHypothesis =>
      rw [calls_snapshot]
      exact further rfl inductionHypothesis
  | upscale name factor _ inductionHypothesis =>
      rw [calls_call]
      exact further rfl inductionHypothesis
  | write path frame _ inductionHypothesis =>
      rw [calls_write]
      exact further rfl inductionHypothesis

theorem follows {library : Machine.Library State} {sink : Sink Store}
    {bench next : Bench (Machine.Instance State) Store}
    (used : Used ⟨library.core, sink⟩ bench next) : bench.machine.Follows next.machine := by
  induction used with
  | refl => exact ⟨rfl, [], (List.append_nil _).symm, by simp⟩
  | log message _ inductionHypothesis => exact inductionHypothesis
  | measure _ inductionHypothesis => exact inductionHypothesis
  | resolution _ inductionHypothesis =>
      exact inductionHypothesis.request rfl ⟨rfl, by simp [Machine.Request.id?]⟩ rfl
  | advance _ inductionHypothesis =>
      exact inductionHypothesis.request rfl ⟨rfl, by simp [Machine.Request.id?]⟩ rfl
  | display frame _ inductionHypothesis =>
      exact inductionHypothesis.request rfl ⟨rfl, by simp [Machine.Request.id?]⟩ rfl
  | audio channel buffer _ inductionHypothesis =>
      exact inductionHypothesis.request rfl ⟨rfl, by simp [Machine.Request.id?]⟩ rfl
  | key name pressed _ inductionHypothesis =>
      exact inductionHypothesis.request rfl ⟨rfl, by simp [Machine.Request.id?]⟩ rfl
  | snapshot path _ inductionHypothesis =>
      exact inductionHypothesis.request rfl ⟨rfl, by simp [Machine.Request.id?]⟩ rfl
  | upscale name factor _ inductionHypothesis => exact inductionHypothesis
  | write path frame _ inductionHypothesis => exact inductionHypothesis

end Used

end Bench

theorem Cycle.used_startGrid {rig : Rig State Store} {config : Config} {width height : UInt32}
    {fresh bench next : Bench State Store} (used : Bench.Used rig fresh bench)
    (done : startGrid rig.sink config width height bench = .ok next) :
    Bench.Used rig fresh next := by
  rcases startGrid_eq_ok done with ⟨skipped, rfl⟩ | ⟨asked, grid, made, rfl⟩
  · exact used
  · exact used.writeGrid config.outputDir grid

/-- The benches that a run can be left with: those of a whole run, and those of a cycle that its
caller drops or finishes after any orders. -/
inductive WayOut (rig : Rig State Store) (config : Config)
    (upscalers : Option (Upscalers Memory)) (bench : Bench State Store) :
    Bench State Store → Prop where
  | run : WayOut rig config upscalers bench (run rig config upscalers bench).2
  | refused {last : Bench State Store} :
      Cycle.start rig config upscalers bench = .refused last →
      WayOut rig config upscalers bench last
  | faulted {fault : Fault} {last : Bench State Store} :
      Cycle.start rig config upscalers bench = .faulted fault last →
      WayOut rig config upscalers bench last
  | dropped {cycle : Cycle State Store Memory} (orders : List Order) :
      Cycle.start rig config upscalers bench = .started cycle →
      WayOut rig config upscalers bench ((serve rig cycle orders).cycle.abandon rig)
  | finished {cycle : Cycle State Store Memory} (orders : List Order) :
      Cycle.start rig config upscalers bench = .started cycle →
      WayOut rig config upscalers bench ((serve rig cycle orders).cycle.finish rig).2

section WayOut

variable {rig : Rig State Store} {config : Config} {upscalers : Option (Upscalers Memory)}
  {bench last : Bench State Store}

/-- A bench whose one call since `bench` has asked for a machine. -/
structure Bench.Asked (rig : Rig State Store) (config : Config) (bench fresh : Bench State Store) :
    Prop where
  calls_eq : fresh.calls = bench.calls ++ [.create config.createParams]
  machine_eq : fresh.machine = (rig.core.create config.createParams bench.machine).2
  store_eq : fresh.store = bench.store

theorem Bench.asked_create (rig : Rig State Store) (config : Config) (bench : Bench State Store) :
    bench.Asked rig config (bench.create rig.core config.createParams).2 :=
  ⟨calls_create rig.core config.createParams bench,
    (machine_create rig.core config.createParams bench).2,
    store_create rig.core config.createParams bench⟩

inductive Begun (rig : Rig State Store) (config : Config) (bench : Bench State Store) :
    Start State Store Memory → Prop where
  | refused {fresh : Bench State Store} :
      (rig.core.create config.createParams bench.machine).1 = false →
      bench.Asked rig config fresh → Begun rig config bench (.refused fresh)
  | faulted {fresh used : Bench State Store} (fault : Fault) :
      (rig.core.create config.createParams bench.machine).1 = true →
      bench.Asked rig config fresh → Bench.Used rig fresh used →
      Begun rig config bench (.faulted fault (used.release rig.core))
  | started {fresh : Bench State Store} {cycle : Cycle State Store Memory} :
      (rig.core.create config.createParams bench.machine).1 = true →
      bench.Asked rig config fresh → Bench.Used rig fresh cycle.bench →
      Begun rig config bench (.started cycle)

theorem begun_start (rig : Rig State Store) (config : Config)
    (upscalers : Option (Upscalers Memory)) (bench : Bench State Store) :
    Begun rig config bench (Cycle.start rig config upscalers bench) := by
  have asked := bench.asked_create rig config
  have answer := (bench.machine_create rig.core config.createParams).1
  unfold Cycle.start
  rw [answer]
  generalize (bench.create rig.core config.createParams).2 = fresh at asked
  cases made : (rig.core.create config.createParams bench.machine).1 with
  | false => exact .refused made asked
  | true =>
      have sized : Bench.Used rig fresh (fresh.resolution rig.core).2 := .resolution .refl
      rcases resolution : fresh.resolution rig.core with ⟨⟨width, height⟩, resolved⟩
      rw [resolution] at sized
      have named := sized.log (.resolution width height)
      simp only [resolution]
      split
      · exact .faulted _ made asked named
      · next gridded done =>
          have used := Cycle.used_startGrid named done
          split
          · exact .faulted _ made asked used
          · exact .started made asked used.registerAudio

/-- What is left of a run: nothing but the refusal of a machine, or a machine used and released. -/
inductive LeftBehind (rig : Rig State Store) (config : Config) (bench last : Bench State Store) :
    Prop where
  | refused :
      (rig.core.create config.createParams bench.machine).1 = false →
      bench.Asked rig config last → LeftBehind rig config bench last
  | released {fresh used : Bench State Store} :
      (rig.core.create config.createParams bench.machine).1 = true →
      bench.Asked rig config fresh → Bench.Used rig fresh used →
      last.calls = used.calls ++ [.release] → last.machine = rig.core.release used.machine →
      last.store = used.store → LeftBehind rig config bench last

theorem LeftBehind.of_abandon {fresh : Bench State Store} {cycle : Cycle State Store Memory}
    (made : (rig.core.create config.createParams bench.machine).1 = true)
    (asked : bench.Asked rig config fresh) (used : Bench.Used rig fresh cycle.bench) :
    LeftBehind rig config bench (cycle.abandon rig) :=
  .released made asked used (Bench.calls_abandon rig cycle)
    (Bench.machine_release rig.core cycle.bench) (Bench.store_abandon rig cycle)

theorem LeftBehind.of_finish {fresh : Bench State Store} {cycle : Cycle State Store Memory}
    (made : (rig.core.create config.createParams bench.machine).1 = true)
    (asked : bench.Asked rig config fresh) (used : Bench.Used rig fresh cycle.bench) :
    LeftBehind rig config bench (cycle.finish rig).2 := by
  refine .released made asked used (Bench.calls_finish rig cycle) ?_ (Bench.store_finish rig cycle)
  rw [← Bench.machine_release rig.core cycle.bench]
  exact Bench.machine_logAll cycle.runReport.summary (cycle.abandon rig)

theorem LeftBehind.log (left : LeftBehind rig config bench last) (message : Log.Message) :
    LeftBehind rig config bench (last.log message) := by
  cases left with
  | refused made asked =>
      exact .refused made
        ⟨(Bench.calls_log message last).trans asked.calls_eq, asked.machine_eq, asked.store_eq⟩
  | released made asked used calls machine store =>
      exact .released made asked used ((Bench.calls_log message last).trans calls) machine store

theorem leftBehind_run (rig : Rig State Store) (config : Config)
    (upscalers : Option (Upscalers Memory)) (bench : Bench State Store) :
    LeftBehind rig config bench (run rig config upscalers bench).2 := by
  have begun := begun_start rig config upscalers bench
  unfold run
  generalize Cycle.start rig config upscalers bench = start at begun
  cases begun with
  | refused made asked => exact (LeftBehind.refused made asked).log _
  | faulted fault made asked used =>
      exact .released made asked used (Bench.calls_release rig.core _)
        (Bench.machine_release rig.core _) (Bench.store_logAll rig.core.closing _)
  | @started fresh cycle made asked used =>
      have worked :
          Bench.Used rig cycle.bench (cycle.after (Cycle.runToCompletion rig)).bench :=
        Cycle.uses_runToCompletion cycle
      unfold Cycle.after at worked
      simp only
      split
      · next stop next ended =>
          rw [ended] at worked
          exact .of_abandon made asked (used.trans worked)
      · next next ended =>
          rw [ended] at worked
          exact (LeftBehind.of_finish made asked (used.trans worked)).log _

theorem WayOut.leftBehind (out : WayOut rig config upscalers bench last) :
    LeftBehind rig config bench last := by
  have begun := begun_start rig config upscalers bench
  cases out with
  | run => exact leftBehind_run rig config upscalers bench
  | refused start =>
      rw [start] at begun
      cases begun with
      | refused made asked => exact .refused made asked
  | faulted start =>
      rw [start] at begun
      cases begun with
      | faulted fault made asked used =>
          exact .released made asked used (Bench.calls_release rig.core _)
            (Bench.machine_release rig.core _) (Bench.store_logAll rig.core.closing _)
  | dropped orders start =>
      rw [start] at begun
      cases begun with
      | started made asked used =>
          exact .of_abandon made asked (used.trans (used_serve rig _ orders))
  | finished orders start =>
      rw [start] at begun
      cases begun with
      | started made asked used =>
          exact .of_finish made asked (used.trans (used_serve rig _ orders))

end WayOut

theorem LeftBehind.calls {rig : Rig State Store} {config : Config} {machine : State}
    {store : Store} {clock : Clock} {last : Bench State Store}
    (left : LeftBehind rig config (.ready machine store clock) last) :
    if (rig.core.create config.createParams machine).1 then Released config.createParams last.calls
    else last.calls = [.create config.createParams] := by
  cases left with
  | refused made asked =>
      rw [if_neg (by simpa [Bench.ready] using made)]
      exact asked.calls_eq
  | released made asked used calls released =>
      obtain ⟨uses, listed, every⟩ := used.calls
      rw [if_pos (by simpa [Bench.ready] using made)]
      refine ⟨uses, ?_, every⟩
      rw [calls, listed, asked.calls_eq]
      rfl

theorem LeftBehind.requests {library : Machine.Library State} {sink : Sink Store}
    {config : Config} {state : State} {store : Store} {clock : Clock}
    {last : Bench (Machine.Instance State) Store}
    (left : LeftBehind ⟨library.core, sink⟩ config (.ready (.unbound state) store clock) last) :
    let params := config.createParams
    let frames := params.bufferFrames.toInt64
    let romDir := Machine.pathBytes params.romDir
    let opening : Machine.Request := .create params.is48k params.sampleRate frames romDir
    let id := (library.create params.is48k params.sampleRate frames romDir state).1
    if id = 0 then last.machine.requests.toList = [opening]
    else Machine.Destroyed opening id last.machine.requests.toList := by
  intro params frames romDir opening id
  cases left with
  | refused made asked =>
      have none : id = 0 := bne_eq_false_iff_eq.mp made
      rw [if_pos none, asked.machine_eq]
      rfl
  | @released fresh used made asked uses calls released =>
      have some : id ≠ 0 := bne_iff_ne.mp made
      have opened : fresh.machine.requests.toList = [opening] := by
        rw [asked.machine_eq]
        rfl
      have named : fresh.machine.id = id := by
        rw [asked.machine_eq]
        rfl
      obtain ⟨same, requests, listed, every⟩ := uses.follows
      rw [if_neg some]
      refine ⟨requests, ?_, named ▸ every⟩
      have closed : last.machine.requests = used.machine.requests.push (.destroy id) := by
        rw [released, ← named, ← same]
        rfl
      rw [closed, Array.toList_push, listed, opened]
      rfl

/-- Whatever way out a run takes, a machine that could not be made has been asked for and nothing
else, and a machine that was made is released once, behind all other calls. The library of a machine
hears the id that it gave with every call that carries one. -/
theorem wayOut_releases_once :
    (∀ (rig : Rig State Store) (config : Config) (upscalers : Option (Upscalers Memory))
      (machine : State) (store : Store) (clock : Clock) (last : Bench State Store),
      WayOut rig config upscalers (.ready machine store clock) last →
      if (rig.core.create config.createParams machine).1 then
        Released config.createParams last.calls
      else last.calls = [.create config.createParams]) ∧
    (∀ (library : Machine.Library State) (sink : Sink Store) (config : Config)
      (upscalers : Option (Upscalers Memory)) (state : State) (store : Store) (clock : Clock)
      (last : Bench (Machine.Instance State) Store),
      WayOut ⟨library.core, sink⟩ config upscalers (.ready (.unbound state) store clock) last →
      let params := config.createParams
      let frames := params.bufferFrames.toInt64
      let romDir := Machine.pathBytes params.romDir
      let opening : Machine.Request := .create params.is48k params.sampleRate frames romDir
      let id := (library.create params.is48k params.sampleRate frames romDir state).1
      if id = 0 then last.machine.requests.toList = [opening]
      else Machine.Destroyed opening id last.machine.requests.toList) := by
  constructor
  · intro rig config upscalers machine store clock last out
    exact out.leftBehind.calls
  · intro library sink config upscalers state store clock last out
    exact out.leftBehind.requests

/-- The second of three frames errs and the run stops; its machine has been released, and its
library has heard the id 1. -/
theorem wayOut_releases_once_testCard :
    let ended := run .testCard .short (some (.erringAt {1})) .testCard
    Released Config.short.createParams ended.2.calls ∧
      ∃ opening, Machine.Destroyed opening 1 ended.2.machine.requests.toList := by
  intro ended
  have out : WayOut .testCard .short (some (.erringAt {1})) .testCard ended.2 := .run
  constructor
  · exact wayOut_releases_once.1 .testCard .short (some (.erringAt {1})) (.unbound .standard) ()
      (.ofReadings fun _ => 0) ended.2 out
  · have destroyed := wayOut_releases_once.2 Machine.TestCard.library Rig.testCard.sink .short
      (some (.erringAt {1})) .standard () (.ofReadings fun _ => 0) ended.2 out
    exact ⟨_, destroyed⟩

end FrameCycle
