import FrameCycle.Cycle.Step
import FrameCycle.Proofs.Plan
import FrameCycle.Proofs.Said

/-!
The parts of a step one by one: how each ends, what it changes in the cycle, and what it adds to the
journal.
-/
namespace FrameCycle

variable {State Store Memory : Type}

namespace Checked

theorem add64_one {count : UInt64} (room : count.toNat + 1 < UInt64.size) :
    add64 count 1 = .ok (count + 1) ∧ (count + 1).toNat = count.toNat + 1 := by
  have sum : add64 count 1 = .ok (count + 1) := if_pos room
  exact ⟨sum, add64_eq_ok sum⟩

theorem add64_one_full {count : UInt64} (full : ¬ count.toNat + 1 < UInt64.size) :
    add64 count 1 = .error .addOverflow :=
  if_neg full

theorem add32_one {tick : UInt32} (room : tick.toNat + 1 < UInt32.size) :
    add32 tick 1 = .ok (tick + 1) ∧ (tick + 1).toNat = tick.toNat + 1 := by
  have sum : add32 tick 1 = .ok (tick + 1) := if_pos room
  exact ⟨sum, add32_eq_ok sum⟩

end Checked

theorem Bench.accumulate_ok {stat : RunningStat Millis} (bench : Bench State Store)
    (room : stat.count.toNat + 1 < UInt64.size) :
    ∃ folded, (bench.accumulate stat).1 = .ok folded ∧
      folded.count.toNat = stat.count.toNat + 1 := by
  obtain ⟨sum, counted⟩ := Checked.add64_one room
  simp only [accumulate, RunningStat.record, sum]
  exact ⟨_, rfl, counted⟩

theorem Bench.adds_perform (core : Core State) (snapshot : Path) (action : Action)
    (bench : Bench State Store) :
    ∃ call, Adds [call] call.said bench (Cycle.perform core snapshot action bench) ∧
      call.demand = action.demand snapshot := by
  cases action with
  | keyDown pressed =>
      have told := adds_log (.keyPressed pressed) bench
      exact ⟨.key pressed true, told.trans (adds_key core pressed true _), rfl⟩
  | keyUp released =>
      have told := adds_log (.keyReleased released) bench
      exact ⟨.key released false, told.trans (adds_key core released false _), rfl⟩
  | loadSnapshot path =>
      have told := adds_log (.loading (path.getD snapshot)) bench
      simp only [Cycle.perform]
      rcases loaded : (bench.log (.loading (path.getD snapshot))).snapshot core
        (path.getD snapshot) with ⟨answer, after⟩
      have asked := told.trans (adds_snapshot loaded)
      refine ⟨.snapshot (path.getD snapshot) answer, ?_, rfl⟩
      cases answer with
      | true => exact asked
      | false => exact asked.trans (adds_log (.loadFailed (path.getD snapshot)) after)

theorem Bench.adds_foldl_perform (core : Core State) (snapshot : Path) (actions : List Action)
    (bench : Bench State Store) :
    ∃ calls, Adds calls (calls.flatMap Call.said) bench
        (actions.foldl (fun bench action => Cycle.perform core snapshot action bench) bench) ∧
      calls.map Call.demand = actions.map (Action.demand snapshot) := by
  induction actions generalizing bench with
  | nil => exact ⟨[], .refl bench, rfl⟩
  | cons action rest inductionHypothesis =>
      obtain ⟨call, first, demand⟩ := adds_perform core snapshot action bench
      obtain ⟨calls, later, demands⟩ :=
        inductionHypothesis (Cycle.perform core snapshot action bench)
      exact ⟨call :: calls, first.trans later, by simp [demand, demands]⟩

/-- The script adds the label of its event, and the inputs that it asks for. -/
theorem Bench.adds_followScript (core : Core State) (script : Script) (snapshot : Path)
    (tick : UInt32) (bench : Bench State Store) :
    ∃ calls, Adds calls
        (((script.eventsAt tick.toNat).filterMap Event.label).map Log.Message.label ++
          calls.flatMap Call.said)
        bench (Cycle.followScript core script snapshot tick bench) ∧
      calls.map Call.demand = ((script.eventsAt tick.toNat).flatMap Event.actions).map
        (Action.demand snapshot) := by
  simp only [Cycle.followScript, script.actionsAt_eq, ← script.labelAt_eq]
  cases script.labelAt tick with
  | none => exact adds_foldl_perform core snapshot _ bench
  | some label =>
      obtain ⟨calls, inputs, demands⟩ := adds_foldl_perform core snapshot
        ((script.eventsAt tick.toNat).flatMap Event.actions) (bench.log (.label label))
      exact ⟨calls, (adds_log (.label label) bench).trans inputs, demands⟩

theorem Bench.demands_followScript (core : Core State) (script : Script) (snapshot : Path)
    (tick : UInt32) (bench : Bench State Store) :
    (Cycle.followScript core script snapshot tick bench).demands =
      bench.demands ++ ((script.eventsAt tick.toNat).flatMap Event.actions).map
        (Action.demand snapshot) := by
  obtain ⟨calls, inputs, demands⟩ := adds_followScript core script snapshot tick bench
  rw [demands_eq, inputs.calls_eq, List.map_append, demands, demands_eq]

namespace Cycle

def showFrame (core : Core State) : Work State Store Memory Unit := do
  advance core
  readDisplay core

/-- The part of a step for which its frame is counted. -/
def enlargeFrame (core : Core State) : Work State Store Memory Unit := do
  showFrame core
  upscaleFrame

/-- The part of a step for which its tick is counted. -/
def followTick (core : Core State) : Work State Store Memory Unit := do
  nextTick
  applyScript core

theorem run_discard {α : Type} (work : Work State Store Memory α)
    (cycle : Cycle State Store Memory) :
    EStateM.run (discard work) cycle =
      match work.run cycle with
      | .ok _ next => .ok () next
      | .error stop next => .error stop next := by
  simp only [discard, map_const, Function.comp, map_eq_pure_bind, EStateM.run_bind]
  cases work.run cycle <;> rfl

variable (cycle : Cycle State Store Memory)

theorem run_advance_full (core : Core State) (full : ¬ cycle.frames.toNat + 1 < UInt64.size) :
    (advance core).run cycle =
      .error (.fault .addOverflow) { cycle with bench := cycle.bench.advance core } := by
  simp [advance, onBench, Checked.add64_one_full full, checked]
  rfl

theorem run_advance (core : Core State) (room : cycle.frames.toNat + 1 < UInt64.size) :
    (advance core).run cycle =
      .ok () { cycle with bench := cycle.bench.advance core, frames := cycle.frames + 1 } := by
  simp [advance, onBench, (Checked.add64_one room).1, checked]

theorem run_showFrame_full (core : Core State) (full : ¬ cycle.frames.toNat + 1 < UInt64.size) :
    (showFrame core).run cycle =
      .error (.fault .addOverflow) { cycle with bench := cycle.bench.advance core } := by
  simp only [showFrame, EStateM.run_bind, run_advance_full cycle core full]

theorem run_readDisplay (core : Core State)
    (room : cycle.displayStat.count.toNat + 1 < UInt64.size) :
    ∃ displayStat, displayStat.count.toNat = cycle.displayStat.count.toNat + 1 ∧
      (readDisplay core).run cycle = .ok () { cycle with
        frame := (cycle.bench.display core cycle.frame).1
        bench := ((cycle.bench.display core cycle.frame).2.accumulate cycle.displayStat).2
        displayStat } := by
  obtain ⟨displayStat, folded, counted⟩ :=
    (cycle.bench.display core cycle.frame).2.accumulate_ok room
  refine ⟨displayStat, counted, ?_⟩
  simp [readDisplay, recordDisplay, folded, checked]

theorem run_showFrame (core : Core State) (room : cycle.frames.toNat + 1 < UInt64.size)
    (counted : cycle.displayStat.count = cycle.frames) :
    ∃ displayStat, displayStat.count.toNat = cycle.frames.toNat + 1 ∧
      let shown := (cycle.bench.advance core).display core cycle.frame
      (showFrame core).run cycle = .ok () { cycle with
        frame := shown.1
        bench := (shown.2.accumulate cycle.displayStat).2
        frames := cycle.frames + 1
        displayStat } := by
  obtain ⟨displayStat, grown, read⟩ := run_readDisplay
    { cycle with bench := cycle.bench.advance core, frames := cycle.frames + 1 } core
    (counted ▸ room)
  refine ⟨displayStat, counted ▸ grown, ?_⟩
  simp only [showFrame, EStateM.run_bind, run_advance cycle core room, read]

theorem run_recordUpscale (room : cycle.upscaleStat.count.toNat + 1 < UInt64.size) :
    ∃ upscaleStat, upscaleStat.count.toNat = cycle.upscaleStat.count.toNat + 1 ∧
      recordUpscale.run cycle = .ok () { cycle with
        bench := (cycle.bench.accumulate cycle.upscaleStat).2
        upscaleStat } := by
  obtain ⟨upscaleStat, folded, counted⟩ := cycle.bench.accumulate_ok room
  refine ⟨upscaleStat, counted, ?_⟩
  simp [recordUpscale, folded, checked]

theorem run_upscaleFrame_bare (bare : cycle.pipeline = none) :
    upscaleFrame.run cycle = .ok () cycle := by
  simp [upscaleFrame, bare]

/-- The cycle after its frame was enlarged is the same whether or not the upscaler stopped early. -/
theorem run_upscaleFrame {pipeline : Pipeline Memory} (staged : cycle.pipeline = some pipeline)
    (room : cycle.upscaleStat.count.toNat + 1 < UInt64.size) :
    ∃ upscaleStat, upscaleStat.count.toNat = cycle.upscaleStat.count.toNat + 1 ∧
      let called :=
        cycle.bench.call (.upscale pipeline.perFrame.name pipeline.perFrame.factor)
      let next : Cycle State Store Memory := { cycle with
        pipeline := some ⟨(pipeline.perFrame.run cycle.frame).2, pipeline.capture⟩
        bench := (called.accumulate cycle.upscaleStat).2
        upscaleStat }
      upscaleFrame.run cycle =
        match (pipeline.perFrame.run cycle.frame).1 with
        | .ok () => .ok () next
        | .error stop => .error stop next := by
  obtain ⟨upscaleStat, counted, recorded⟩ := run_recordUpscale { cycle with
    bench := cycle.bench.call (.upscale pipeline.perFrame.name pipeline.perFrame.factor)
    pipeline := some ⟨(pipeline.perFrame.run cycle.frame).2, pipeline.capture⟩ } room
  refine ⟨upscaleStat, counted, ?_⟩
  simp only [upscaleFrame, onBench, Pipeline.runPerFrame, EStateM.run_bind, EStateM.run_get,
    EStateM.run_modify, staged, recorded]
  cases (pipeline.perFrame.run cycle.frame).1 <;> rfl

theorem run_nextTick (room : cycle.tick.toNat + 1 < UInt32.size) :
    nextTick.run cycle = .ok () { cycle with
      tick := cycle.tick + 1
      bench := cycle.bench.log (.tick (cycle.tick + 1)) } := by
  simp [nextTick, (Checked.add32_one room).1, checked, onBench]

theorem run_applyScript (core : Core State) :
    (applyScript core).run cycle = .ok () { cycle with
      bench :=
        followScript core cycle.script cycle.snapshot cycle.tick cycle.bench } := rfl

theorem run_followTick (core : Core State) (room : cycle.tick.toNat + 1 < UInt32.size) :
    (followTick core).run cycle = .ok () { cycle with
      tick := cycle.tick + 1
      bench := followScript core cycle.script cycle.snapshot (cycle.tick + 1)
        (cycle.bench.log (.tick (cycle.tick + 1))) } := by
  simp only [followTick, EStateM.run_bind, run_nextTick cycle room, run_applyScript]

theorem run_followTick_full (core : Core State) (full : ¬ cycle.tick.toNat + 1 < UInt32.size) :
    (followTick core).run cycle = .error (.fault .addOverflow) cycle := by
  have sum : Checked.add32 cycle.tick 1 = .error .addOverflow := if_neg full
  simp only [followTick, nextTick, EStateM.run_bind, EStateM.run_get, sum, checked]
  rfl

theorem run_captureFrame_early (sink : Sink Store) (early : cycle.tick ≠ cycle.latch.tick) :
    (captureFrame sink).run cycle = .ok () cycle := by
  simp [captureFrame, early]

theorem run_captureFrame_due (sink : Sink Store) (due : cycle.tick = cycle.latch.tick) :
    let shot := cycle.latch.capture sink cycle.tick cycle.frame cycle.pipeline cycle.bench
    let after : Cycle State Store Memory :=
      { cycle with latch := shot.latch, pipeline := shot.pipeline, bench := shot.bench }
    (captureFrame sink).run cycle =
      match shot.outcome with
      | .ok (some report) => .ok () { after with report := some report, tick := 0 }
      | .ok none => .ok () { after with tick := 0 }
      | .error fault => .error (.fault fault) after := by
  simp only [captureFrame, EStateM.run_bind, EStateM.run_get, if_pos due, EStateM.run_set]
  generalize cycle.latch.capture sink cycle.tick cycle.frame cycle.pipeline cycle.bench = shot
  rcases shot with ⟨fault | _ | report, latch, pipeline, bench⟩ <;> rfl

theorem run_settle_over (settled : cycle.tick = 0) :
    settle.run cycle = .ok false { cycle with phase := .terminating } := by
  simp only [settle, EStateM.run_bind, EStateM.run_get, if_pos settled]
  rfl

theorem run_settle_on (on : cycle.tick ≠ 0) : settle.run cycle = .ok true cycle := by
  simp [settle, on]

theorem run_step_idle (rig : Rig State Store) (idle : cycle.phase ≠ .running) :
    (step rig).run cycle = .ok false cycle := by
  simp [step, idle]

theorem run_step (rig : Rig State Store) (running : cycle.phase = .running) :
    (step rig).run cycle = EStateM.run (do
      enlargeFrame rig.core
      followTick rig.core
      captureFrame rig.sink
      settle) cycle := by
  simp only [step, enlargeFrame, showFrame, followTick, bind_assoc]
  simp only [EStateM.run_bind, EStateM.run_get, running]
  rfl

end Cycle

end FrameCycle
