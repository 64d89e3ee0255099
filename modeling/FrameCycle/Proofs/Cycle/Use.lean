import FrameCycle.Proofs.Cycle.Service

/-!
What a cycle does with its bench as long as it holds a machine: it uses the machine, the upscalers
and the image store, and neither makes nor releases a machine. This holds of every piece of work,
however it ends.
-/
namespace FrameCycle

variable {State Store Memory : Type}

namespace Bench

/-- The benches that a cycle can come to from `bench` without making or releasing a machine. -/
inductive Used (rig : Rig State Store) (bench : Bench State Store) : Bench State Store → Prop where
  | refl : Used rig bench bench
  | log {next : Bench State Store} (message : Log.Message) :
      Used rig bench next → Used rig bench (next.log message)
  | measure {next : Bench State Store} : Used rig bench next → Used rig bench next.measure.2
  | resolution {next : Bench State Store} :
      Used rig bench next → Used rig bench (next.resolution rig.core).2
  | advance {next : Bench State Store} :
      Used rig bench next → Used rig bench (next.advance rig.core)
  | display {next : Bench State Store} (frame : Frame) :
      Used rig bench next → Used rig bench (next.display rig.core frame).2
  | audio {next : Bench State Store} (channel : Nat) (buffer : Array UInt8) :
      Used rig bench next → Used rig bench (next.audio rig.core channel buffer)
  | key {next : Bench State Store} (key : Key) (pressed : Bool) :
      Used rig bench next → Used rig bench (next.key rig.core key pressed)
  | snapshot {next : Bench State Store} (path : Path) :
      Used rig bench next → Used rig bench (next.snapshot rig.core path).2
  | upscale {next : Bench State Store} (name : String) (factor : UInt32) :
      Used rig bench next → Used rig bench (next.call (.upscale name factor))
  | write {next : Bench State Store} (path : Path) (frame : Frame) :
      Used rig bench next → Used rig bench (next.write rig.sink path frame).2

namespace Used

variable {rig : Rig State Store} {bench next : Bench State Store}

theorem trans {last : Bench State Store} (first : Used rig bench next)
    (second : Used rig next last) : Used rig bench last := by
  induction second with
  | refl => exact first
  | log message _ inductionHypothesis => exact inductionHypothesis.log message
  | measure _ inductionHypothesis => exact inductionHypothesis.measure
  | resolution _ inductionHypothesis => exact inductionHypothesis.resolution
  | advance _ inductionHypothesis => exact inductionHypothesis.advance
  | display frame _ inductionHypothesis => exact inductionHypothesis.display frame
  | audio channel buffer _ inductionHypothesis => exact inductionHypothesis.audio channel buffer
  | key name pressed _ inductionHypothesis => exact inductionHypothesis.key name pressed
  | snapshot path _ inductionHypothesis => exact inductionHypothesis.snapshot path
  | upscale name factor _ inductionHypothesis => exact inductionHypothesis.upscale name factor
  | write path frame _ inductionHypothesis => exact inductionHypothesis.write path frame

theorem accumulate (used : Used rig bench next) (stat : RunningStat Millis) :
    Used rig bench (next.accumulate stat).2 := by
  simp only [Bench.accumulate]
  split
  · exact used.measure.log _
  · exact used.measure

theorem timed (used : Used rig bench next) (name : String) :
    Used rig bench (next.timed name).2 :=
  used.measure.log _

theorem perform (used : Used rig bench next) (snapshot : Path) (action : Action) :
    Used rig bench (Cycle.perform rig.core snapshot action next) := by
  cases action with
  | keyDown name => exact (used.log _).key name true
  | keyUp name => exact (used.log _).key name false
  | loadSnapshot path =>
      have loaded := (used.log (.loading (path.getD snapshot))).snapshot (path.getD snapshot)
      simp only [Cycle.perform]
      split
      · next done =>
          rw [done] at loaded
          exact loaded
      · next done =>
          rw [done] at loaded
          exact loaded.log _

theorem followScript (used : Used rig bench next) (script : Script) (snapshot : Path)
    (tick : UInt32) : Used rig bench (Cycle.followScript rig.core script snapshot tick next) := by
  have performed : ∀ (actions : List Action) {next : Bench State Store}, Used rig bench next →
      Used rig bench (actions.foldl
        (fun bench action => Cycle.perform rig.core snapshot action bench) next) := by
    intro actions
    induction actions with
    | nil => exact id
    | cons action rest inductionHypothesis =>
        exact fun used => inductionHypothesis (used.perform snapshot action)
  unfold Cycle.followScript
  apply performed
  split
  · exact used.log _
  · exact used

theorem shoot (used : Used rig bench next) (directory : Path) (file : String) (frame : Frame)
    (report : CaptureReport) :
    Used rig bench (next.shoot rig.sink directory file frame report).2 := by
  have written := (used.log (.screenshot (directory.join (.ofString file)))).write
    (directory.join (.ofString file)) frame
  simp only [Bench.shoot]
  split
  · next done =>
      rw [done] at written
      exact written
  · next done =>
      rw [done] at written
      exact written.log _

theorem upscaleCapture (used : Used rig bench next) (pipeline : Pipeline Memory)
    (frame : Frame) : Used rig bench (next.upscaleCapture pipeline frame).2.2.2 :=
  ((used.log _).upscale _ _).timed _

theorem shootUpscaled (used : Used rig bench next) (directory : Path)
    (pipeline : Pipeline Memory) (frame : Frame) (report : CaptureReport) :
    Used rig bench (next.shootUpscaled rig.sink directory pipeline frame report).2.2 := by
  have called := (used.shoot directory (resizedFile pipeline.perFrame.factor)
    pipeline.perFrame.output report).upscaleCapture pipeline frame
  rw [Bench.shootUpscaled_eq]
  split
  · exact called
  · exact called.log _
  · exact called.shoot _ _ _ _

theorem capture (used : Used rig bench next) (latch : Latch) (tick : UInt32) (frame : Frame)
    (pipeline : Option (Pipeline Memory)) :
    Used rig bench (latch.capture rig.sink tick frame pipeline next).bench := by
  have first := used.shoot latch.outputDir originalFile frame .empty
  unfold Latch.capture
  split
  · exact used
  · cases pipeline with
    | none => exact first
    | some pipeline => exact first.shootUpscaled _ _ _ _

theorem writeGrid (used : Used rig bench next) (directory : Path) (grid : Frame) :
    Used rig bench (next.writeGrid rig.sink directory grid) := by
  have written := used.write (directory.join (.ofString gridFile)) grid
  simp only [Bench.writeGrid]
  split
  · next done =>
      rw [done] at written
      exact written
  · next done =>
      rw [done] at written
      exact written.log _

theorem registerAudio (used : Used rig bench next) :
    Used rig bench (next.registerAudio rig.core) :=
  (used.audio 0 _).audio 1 _

end Used

end Bench

namespace Cycle

/-- The cycle that work leaves behind, also when it stops early. -/
def after {α : Type} (work : Work State Store Memory α) (cycle : Cycle State Store Memory) :
    Cycle State Store Memory :=
  match work.run cycle with
  | .ok _ next => next
  | .error _ next => next

/-- Work that neither makes nor releases a machine. -/
def Uses {α : Type} (rig : Rig State Store) (work : Work State Store Memory α) : Prop :=
  ∀ cycle : Cycle State Store Memory, Bench.Used rig cycle.bench (cycle.after work).bench

variable {rig : Rig State Store} {α β : Type}

theorem Uses.bind {first : Work State Store Memory α} {next : α → Work State Store Memory β}
    (uses : Uses rig first) (usesNext : ∀ value, Uses rig (next value)) :
    Uses rig (first >>= next) := by
  intro cycle
  have used := uses cycle
  simp only [after, EStateM.run_bind] at used ⊢
  cases ran : first.run cycle with
  | error stop middle =>
      simp only [ran] at used ⊢
      exact used
  | ok value middle =>
      simp only [ran] at used ⊢
      exact used.trans (usesNext value middle)

theorem Uses.discard {work : Work State Store Memory α} (uses : Uses rig work) :
    Uses rig (discard work) := by
  intro cycle
  have used := uses cycle
  simp only [after, run_discard] at used ⊢
  cases ran : work.run cycle <;> simpa only [ran] using used

theorem Uses.used_of_run {work : Work State Store Memory α} (uses : Uses rig work)
    {cycle last : Cycle State Store Memory} {value : α} (ran : work.run cycle = .ok value last) :
    Bench.Used rig cycle.bench last.bench := by
  have used := uses cycle
  unfold after at used
  rw [ran] at used
  exact used

theorem uses_pure (value : α) : Uses rig (pure value : Work State Store Memory α) :=
  fun _ => .refl

theorem uses_get : Uses rig (get : Work State Store Memory (Cycle State Store Memory)) :=
  fun _ => .refl

theorem uses_modify {change : Cycle State Store Memory → Cycle State Store Memory}
    (used : ∀ cycle, Bench.Used rig cycle.bench (change cycle).bench) :
    Uses rig (modify change : Work State Store Memory Unit) :=
  used

/-- A change of anything but the bench. -/
theorem uses_modify_of_bench_eq {change : Cycle State Store Memory → Cycle State Store Memory}
    (same : ∀ cycle, (change cycle).bench = cycle.bench) :
    Uses rig (modify change : Work State Store Memory Unit) :=
  uses_modify fun cycle => same cycle ▸ .refl

theorem uses_throw (stop : Stop) : Uses rig (throw stop : Work State Store Memory α) :=
  fun _ => .refl

theorem uses_checked (result : Except Fault α) :
    Uses rig (checked result : Work State Store Memory α) := by
  cases result with
  | ok value => exact uses_pure value
  | error fault => exact uses_throw (.fault fault)

theorem uses_advance : Uses rig (advance rig.core : Work State Store Memory Unit) := by
  unfold advance
  refine (uses_modify fun cycle => .advance .refl).bind fun _ => uses_get.bind fun _ => ?_
  exact (uses_checked _).bind fun _ => uses_modify_of_bench_eq fun _ => rfl

theorem uses_recordDisplay : Uses rig (recordDisplay : Work State Store Memory Unit) := by
  intro cycle
  have used : Bench.Used rig cycle.bench (cycle.bench.accumulate cycle.displayStat).2 :=
    .accumulate .refl cycle.displayStat
  simp only [after, recordDisplay, EStateM.run_bind, EStateM.run_modify, EStateM.run_get]
  cases (cycle.bench.accumulate cycle.displayStat).1 <;> exact used

theorem uses_recordUpscale : Uses rig (recordUpscale : Work State Store Memory Unit) := by
  intro cycle
  have used : Bench.Used rig cycle.bench (cycle.bench.accumulate cycle.upscaleStat).2 :=
    .accumulate .refl cycle.upscaleStat
  simp only [after, recordUpscale, EStateM.run_bind, EStateM.run_modify, EStateM.run_get]
  cases (cycle.bench.accumulate cycle.upscaleStat).1 <;> exact used

theorem uses_readDisplay : Uses rig (readDisplay rig.core : Work State Store Memory Unit) :=
  (uses_modify fun cycle => .display cycle.frame .refl).bind fun _ => uses_recordDisplay

theorem uses_upscaleFrame : Uses rig (upscaleFrame : Work State Store Memory Unit) := by
  unfold upscaleFrame
  refine uses_get.bind fun cycle => ?_
  cases cycle.pipeline with
  | none => exact uses_pure ()
  | some pipeline =>
      refine (uses_modify fun _ => .upscale _ _ .refl).bind fun _ => ?_
      rcases pipeline.runPerFrame cycle.frame with ⟨result, pipeline⟩
      refine Uses.bind (uses_modify_of_bench_eq fun _ => rfl) fun _ => ?_
      refine uses_recordUpscale.bind fun _ => ?_
      cases result with
      | ok done => exact uses_pure ()
      | error stop => exact uses_throw stop

theorem uses_nextTick : Uses rig (nextTick : Work State Store Memory Unit) := by
  unfold nextTick
  refine uses_get.bind fun _ => (uses_checked _).bind fun tick => ?_
  refine Uses.bind (uses_modify_of_bench_eq fun _ => rfl) fun _ => ?_
  exact uses_modify fun _ => .log (.tick tick) .refl

theorem uses_applyScript : Uses rig (applyScript rig.core : Work State Store Memory Unit) :=
  uses_modify fun cycle => Bench.Used.refl.followScript cycle.script cycle.snapshot cycle.tick

theorem uses_captureFrame : Uses rig (captureFrame rig.sink : Work State Store Memory Unit) := by
  intro cycle
  by_cases due : cycle.tick = cycle.latch.tick
  · have used : Bench.Used rig cycle.bench
        (cycle.latch.capture rig.sink cycle.tick cycle.frame cycle.pipeline cycle.bench).bench :=
      .capture .refl cycle.latch cycle.tick cycle.frame cycle.pipeline
    simp only [after, run_captureFrame_due cycle rig.sink due]
    rcases (cycle.latch.capture rig.sink cycle.tick cycle.frame cycle.pipeline
      cycle.bench).outcome with fault | _ | report <;> exact used
  · simp only [after, run_captureFrame_early cycle rig.sink due]
    exact .refl

theorem uses_settle : Uses rig (settle : Work State Store Memory Bool) := by
  unfold settle
  refine uses_get.bind fun cycle => ?_
  split
  · exact (uses_modify_of_bench_eq fun _ => rfl).bind fun _ => uses_pure false
  · exact uses_pure true

theorem uses_step : Uses rig (step rig : Work State Store Memory Bool) := by
  unfold step
  refine uses_get.bind fun cycle => ?_
  split
  · exact uses_pure false
  · exact uses_advance.bind fun _ => uses_readDisplay.bind fun _ => uses_upscaleFrame.bind fun _ =>
      uses_nextTick.bind fun _ => uses_applyScript.bind fun _ => uses_captureFrame.bind fun _ =>
      uses_settle

theorem uses_stepUpTo (count : Nat) :
    Uses rig (stepUpTo rig count : Work State Store Memory Bool) := by
  induction count with
  | zero => exact uses_pure true
  | succ count inductionHypothesis =>
      refine uses_step.bind fun going => ?_
      cases going with
      | true => exact inductionHypothesis
      | false => exact uses_pure false

theorem uses_runToCompletion : Uses rig (runToCompletion rig : Work State Store Memory Unit) :=
  uses_get.bind fun _ => (uses_stepUpTo _).discard

end Cycle

theorem Order.uses_work (rig : Rig State Store) (order : Order) :
    Cycle.Uses rig (order.work rig : Work State Store Memory Unit) := by
  cases order with
  | step => exact Cycle.uses_step.discard
  | complete => exact Cycle.uses_runToCompletion

theorem used_serve (rig : Rig State Store) (cycle : Cycle State Store Memory)
    (orders : List Order) : Bench.Used rig cycle.bench (serve rig cycle orders).cycle.bench := by
  suffices ∀ served : Served State Store Memory, Bench.Used rig served.cycle.bench
      (orders.foldl (Served.obey rig) served).cycle.bench from this ⟨[], cycle, none⟩
  induction orders with
  | nil => exact fun _ => .refl
  | cons order rest inductionHypothesis =>
      intro served
      refine Bench.Used.trans ?_ (inductionHypothesis (served.obey rig order))
      have used := order.uses_work rig served.cycle
      simp only [Served.obey]
      split
      · exact .refl
      · unfold Cycle.after at used
        split <;> simp_all only

end FrameCycle
