import FrameCycle.Proofs.Geometry
import FrameCycle.Proofs.Lifetime

/-!
What a library hears of the frames it is to fill. A run shows frames of one size only: it is the
same run on a core that shows no others.
-/
namespace FrameCycle

variable {State Store Memory : Type}

/-- The core, except that it shows nothing on frames of other sizes. -/
def Core.showing (core : Core State) (width height : UInt32) : Core State :=
  { core with
    display := fun machine frame =>
      if frame.width = width ∧ frame.height = height then core.display machine frame
      else (frame.content, machine) }

def Rig.showing (rig : Rig State Store) (width height : UInt32) : Rig State Store :=
  ⟨rig.core.showing width height, rig.sink⟩

namespace Cycle

theorem start_showing (rig : Rig State Store) (width height : UInt32) (config : Config)
    (upscalers : Option (Upscalers Memory)) (bench : Bench State Store) :
    start (rig.showing width height) config upscalers bench = start rig config upscalers bench :=
  rfl

variable {width height : UInt32} {cycle : Cycle State Store Memory}

theorem run_readDisplay_showing (frameWidth : cycle.frame.width = width)
    (frameHeight : cycle.frame.height = height) (core : Core State) :
    (readDisplay (core.showing width height)).run cycle = (readDisplay core).run cycle := by
  simp only [readDisplay, EStateM.run_bind, EStateM.run_modify, Bench.display, Core.showing,
    frameWidth, frameHeight, and_self, if_true]

theorem run_showFrame_showing (frameWidth : cycle.frame.width = width)
    (frameHeight : cycle.frame.height = height) (core : Core State) :
    (showFrame (core.showing width height)).run cycle = (showFrame core).run cycle := by
  have advances : (advance (core.showing width height) : Work State Store Memory Unit) =
      advance core := rfl
  by_cases room : cycle.frames.toNat + 1 < UInt64.size
  · simp only [showFrame, EStateM.run_bind, advances, run_advance cycle core room]
    refine run_readDisplay_showing ?_ ?_ core <;> assumption
  · simp only [showFrame, EStateM.run_bind, advances, run_advance_full cycle core room]

theorem run_step_showing (frameWidth : cycle.frame.width = width)
    (frameHeight : cycle.frame.height = height) (rig : Rig State Store) :
    (step (rig.showing width height)).run cycle = (step rig).run cycle := by
  by_cases running : cycle.phase = .running
  · have follows : (followTick (rig.showing width height).core : Work State Store Memory Unit) =
        followTick rig.core := rfl
    have shows := run_showFrame_showing frameWidth frameHeight rig.core
    rw [run_step cycle _ running, run_step cycle _ running, follows]
    simp only [enlargeFrame, bind_assoc, EStateM.run_bind]
    change (showFrame (rig.core.showing width height)).run cycle = _ at shows
    simp only [Rig.showing, shows]
  · rw [run_step_idle cycle _ running, run_step_idle cycle _ running]

/-- A cycle under way has a frame of the size of its display before each of its steps. -/
theorem run_stepUpTo_showing {plan : Plan Memory} {answers : List (Option Error)}
    (underway : cycle.Underway plan answers) (rig : Rig State Store) (count : Nat) :
    (stepUpTo (rig.showing plan.width plan.height) count).run cycle =
      (stepUpTo rig count).run cycle := by
  induction count generalizing answers cycle with
  | zero => rfl
  | succ count inductionHypothesis =>
      have stepped := stepped_of_underway underway rig
      simp only [stepUpTo, EStateM.run_bind,
        run_step_showing underway.reached.frameWidth underway.reached.frameHeight]
      generalize (step rig).run cycle = result at stepped ⊢
      cases stepped with
      | ticked onward => exact inductionHypothesis onward
      | captured | erred | exhausted | faulted => rfl

end Cycle

theorem run_showing {rig : Rig State Store} {config : Config}
    {upscalers : Option (Upscalers Memory)} {machine : State} {store : Store} {clock : Clock}
    (positive : 0 < config.captureTick) :
    let plan := rig.plan config upscalers machine
    run (rig.showing plan.width plan.height) config upscalers (.ready machine store clock) =
      run rig config upscalers (.ready machine store clock) := by
  intro plan
  simp only [run, Cycle.start_showing]
  cases started : Cycle.start rig config upscalers (.ready machine store clock) with
  | refused bench => rfl
  | faulted fault bench => rfl
  | started cycle =>
      have underway : cycle.Underway plan [] := Cycle.underway_of_start started positive
      simp only [Cycle.run_runToCompletion, Cycle.run_discard,
        Cycle.run_stepUpTo_showing underway]
      rfl

namespace Machine.Request

def isUpdate : Request → Bool
  | update _ => true
  | _ => false

/-- A buffer to fill holds the rows of a display of `width` by `height`, one behind the other, with
nothing between them or left over. -/
def Covers (width height : UInt32) : Request → Prop
  | display _ length capacity pitch =>
      pitch.toInt = 4 * width.toNat ∧ length.toInt = pitch.toInt * height.toNat ∧
        capacity = length
  | _ => True

theorem covers_display {frame : Frame} (small : frame.byteLength ≤ Frame.byteLimit) (id : Int64) :
    Covers frame.width frame.height (.display id (.ofNat frame.byteLength)
      (.ofNat frame.byteLength) (.ofNat frame.stride)) := by
  have width := frame.width.toNat_lt_size
  have limit : Frame.byteLimit < 2 ^ 63 := by decide
  have stride : frame.stride < 2 ^ 63 := by
    simp only [Frame.stride, Frame.bytesPerPixel, UInt32.size] at width ⊢
    omega
  have pitch : (Int64.ofNat frame.stride).toInt = frame.stride :=
    Int64.toInt_ofNat_of_lt stride
  have length : (Int64.ofNat frame.byteLength).toInt = frame.byteLength :=
    Int64.toInt_ofNat_of_lt (Nat.lt_of_le_of_lt small limit)
  refine ⟨?_, ?_, rfl⟩
  · rw [pitch, Frame.stride, Frame.bytesPerPixel]
    push_cast
    ring
  · rw [pitch, length, Frame.byteLength, Frame.length_eq, Frame.stride]
    push_cast
    ring

end Machine.Request

namespace Machine.Instance

/-- Every buffer that the library was told to fill covers a display of this size. -/
def Covered (width height : UInt32) (machine : Instance State) : Prop :=
  ∀ request ∈ machine.requests.toList, request.Covers width height

theorem Covered.request {width height : UInt32} {machine next : Instance State}
    {request : Request} (covered : machine.Covered width height)
    (pushed : next.requests = machine.requests.push request)
    (covers : request.Covers width height) : next.Covered width height := by
  intro other member
  rw [pushed, Array.toList_push, List.mem_append, List.mem_singleton] at member
  rcases member with earlier | last
  · exact covered other earlier
  · exact last ▸ covers

def updates (machine : Instance State) : Nat :=
  machine.requests.toList.countP Request.isUpdate

end Machine.Instance

namespace Bench.Used

variable {library : Machine.Library State} {sink : Sink Store} {width height : UInt32}
  {bench next : Bench (Machine.Instance State) Store}

theorem covered
    (small : ∀ frame : Frame, frame.width = width → frame.height = height →
      frame.byteLength ≤ Frame.byteLimit)
    (used : Used (Rig.showing ⟨library.core, sink⟩ width height) bench next)
    (covered : bench.machine.Covered width height) : next.machine.Covered width height := by
  induction used with
  | refl => exact covered
  | log _ _ inductionHypothesis => exact inductionHypothesis
  | measure _ inductionHypothesis => exact inductionHypothesis
  | resolution _ inductionHypothesis => exact inductionHypothesis.request rfl trivial
  | advance _ inductionHypothesis => exact inductionHypothesis.request rfl trivial
  | @display middle frame _ inductionHypothesis =>
      simp only [Bench.display, Rig.showing, Core.showing]
      split
      · next sized =>
          obtain ⟨rfl, rfl⟩ := sized
          exact inductionHypothesis.request rfl
            (Machine.Request.covers_display (small frame rfl rfl) middle.machine.id)
      · exact inductionHypothesis
  | audio _ _ _ inductionHypothesis => exact inductionHypothesis.request rfl trivial
  | key _ _ _ inductionHypothesis => exact inductionHypothesis.request rfl trivial
  | snapshot _ _ inductionHypothesis => exact inductionHypothesis.request rfl trivial
  | upscale _ _ _ inductionHypothesis => exact inductionHypothesis
  | write _ _ _ inductionHypothesis => exact inductionHypothesis

/-- The machine has been advanced as often as its library has been told to. -/
theorem updates_eq (used : Used ⟨library.core, sink⟩ bench next) :
    next.machine.updates + bench.demands.count .advance =
      bench.machine.updates + next.demands.count .advance := by
  have further : ∀ {middle last : Bench (Machine.Instance State) Store}
      {request : Machine.Request} {calls : List Call},
      last.machine.requests = middle.machine.requests.push request →
      last.calls = middle.calls ++ calls →
      (calls.map Call.demand).count .advance = (if request.isUpdate then 1 else 0) →
      middle.machine.updates + bench.demands.count .advance =
        bench.machine.updates + middle.demands.count .advance →
      last.machine.updates + bench.demands.count .advance =
        bench.machine.updates + last.demands.count .advance := by
    intro middle last request calls requested called same counted
    have updates : last.machine.updates =
        middle.machine.updates + if request.isUpdate then 1 else 0 := by
      rw [Machine.Instance.updates, requested, Array.toList_push, List.countP_append,
        List.countP_singleton, Machine.Instance.updates]
    rw [updates, ← same, demands_eq last, called, List.map_append, List.count_append, ← demands_eq]
    omega
  induction used with
  | refl => rfl
  | log _ _ inductionHypothesis => rwa [demands_log]
  | measure _ inductionHypothesis => exact inductionHypothesis
  | resolution _ inductionHypothesis =>
      exact further rfl (List.append_nil _).symm rfl inductionHypothesis
  | advance _ inductionHypothesis =>
      exact further rfl (calls_advance _ _) rfl inductionHypothesis
  | display frame _ inductionHypothesis =>
      exact further rfl (calls_display _ frame _) rfl inductionHypothesis
  | audio channel buffer _ inductionHypothesis =>
      exact further rfl (calls_audio _ channel buffer _) rfl inductionHypothesis
  | key name pressed _ inductionHypothesis =>
      exact further rfl (calls_key _ name pressed _) rfl inductionHypothesis
  | snapshot path _ inductionHypothesis =>
      exact further rfl (calls_snapshot _ path _) rfl inductionHypothesis
  | upscale name factor _ inductionHypothesis =>
      rw [demands_call, List.count_append]
      exact inductionHypothesis
  | write path frame _ inductionHypothesis =>
      rw [demands_eq (Bench.write _ path frame _).2, calls_write, List.map_append,
        List.count_append, ← demands_eq]
      exact inductionHypothesis

end Bench.Used

theorem Cycle.byteLength_le_of_start {rig : Rig State Store} {config : Config}
    {upscalers : Option (Upscalers Memory)} {machine : State} {store : Store} {clock : Clock}
    {cycle : Cycle State Store Memory}
    (started : start rig config upscalers (.ready machine store clock) = .started cycle)
    {frame : Frame} (width : frame.width = (rig.plan config upscalers machine).width)
    (height : frame.height = (rig.plan config upscalers machine).height) :
    frame.byteLength ≤ Frame.byteLimit := by
  obtain ⟨-, -, shown, pipeline, -, -, buffered, -⟩ := start_eq_started started
  unfold startBuffers at buffered
  cases cleared : Frame.blank (rig.plan config upscalers machine).width
      (rig.plan config upscalers machine).height with
  | error fault => simp [cleared, bind, Except.bind] at buffered
  | ok blank =>
      have small := Frame.byteLength_le_of_blank cleared
      cases Frame.blank_eq_ok cleared
      rw [Frame.byteLength, Frame.length_eq] at small ⊢
      rw [width, height]
      exact small

/-- A run that has started tells its library of buffers of the size of its display only. -/
theorem covered_of_run {library : Machine.Library State} {sink : Sink Store} {config : Config}
    {upscalers : Option (Upscalers Memory)} {state : State} {store : Store} {clock : Clock}
    {cycle : Cycle (Machine.Instance State) Store Memory}
    (started : Cycle.start ⟨library.core, sink⟩ config upscalers
      (.ready (.unbound state) store clock) = .started cycle)
    (positive : 0 < config.captureTick) :
    let rig : Rig (Machine.Instance State) Store := ⟨library.core, sink⟩
    let plan := rig.plan config upscalers (.unbound state)
    (run rig config upscalers (.ready (.unbound state) store clock)).2.machine.Covered
      plan.width plan.height := by
  intro rig plan
  have left := leftBehind_run (rig.showing plan.width plan.height) config upscalers
    (.ready (.unbound state) store clock)
  rw [run_showing positive] at left
  have opened : ∀ {fresh : Bench (Machine.Instance State) Store},
      Bench.Asked (rig.showing plan.width plan.height) config
        (.ready (.unbound state) store clock) fresh →
      fresh.machine.Covered plan.width plan.height := by
    intro fresh asked
    have nothing : (Machine.Instance.unbound state).Covered plan.width plan.height := by
      simp [Machine.Instance.Covered, Machine.Instance.unbound]
    exact nothing.request (congrArg Machine.Instance.requests asked.machine_eq) trivial
  cases left with
  | refused made asked => exact opened asked
  | released made asked used calls released =>
      have covered := used.covered
        (fun _ width height => Cycle.byteLength_le_of_start started width height) (opened asked)
      exact covered.request (congrArg Machine.Instance.requests released) trivial

/-- A run tells its library to go on for as many frames as it advances its machine. -/
theorem updates_of_run (library : Machine.Library State) (sink : Sink Store) (config : Config)
    (upscalers : Option (Upscalers Memory)) (state : State) (store : Store) (clock : Clock) :
    let last := (run ⟨library.core, sink⟩ config upscalers
      (.ready (.unbound state) store clock)).2
    last.machine.updates = last.demands.count .advance := by
  intro last
  have opened : ∀ {fresh : Bench (Machine.Instance State) Store},
      Bench.Asked ⟨library.core, sink⟩ config (.ready (.unbound state) store clock) fresh →
      fresh.machine.updates = 0 ∧ fresh.demands.count .advance = 0 := by
    intro fresh asked
    constructor
    · rw [asked.machine_eq]
      rfl
    · rw [Bench.demands_eq, asked.calls_eq]
      rfl
  cases leftBehind_run ⟨library.core, sink⟩ config upscalers
      (.ready (.unbound state) store clock) with
  | refused made asked =>
      obtain ⟨updates, advances⟩ := opened asked
      exact updates.trans advances.symm
  | @released fresh used made asked uses calls released =>
      obtain ⟨updates, advances⟩ := opened asked
      have counted := uses.updates_eq
      have released : last.machine.updates = used.machine.updates := by
        rw [released, Machine.Instance.updates]
        simp [Machine.Library.core, Machine.Instance.destroy, Machine.Instance.request,
          Machine.Instance.updates, Machine.Request.isUpdate]
      rw [released, Bench.demands_eq, calls, List.map_append, List.count_append,
        ← Bench.demands_eq]
      simp [Call.demand]
      omega

end FrameCycle
