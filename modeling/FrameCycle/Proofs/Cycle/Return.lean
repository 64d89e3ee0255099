import FrameCycle.Proofs.Images

/-!
A step that returns, read backwards: which part of it did what, and with which values. Such a step
has enlarged, without an error, the very frame that it read.
-/
namespace FrameCycle.Cycle

variable {State Store Memory : Type}

theorem run_bind_eq_ok {α β : Type} {first : Work State Store Memory α}
    {next : α → Work State Store Memory β} {cycle last : Cycle State Store Memory} {value : β} :
    (first >>= next).run cycle = .ok value last ↔
      ∃ given middle, first.run cycle = .ok given middle ∧
        (next given).run middle = .ok value last := by
  rw [EStateM.run_bind]
  cases first.run cycle <;> simp

/-- What the machine shows after its next frame. -/
def nextFrame (core : Core State) (cycle : Cycle State Store Memory) : Frame :=
  let machine := (core.advance cycle.bench.machine).2
  cycle.frame.withPixels (core.display machine cycle.frame).1

/-- The frame has been read and enlarged in the step that began with the cycle `before`. -/
structure Exposed (core : Core State) (before next : Cycle State Store Memory) : Prop where
  frame_eq : next.frame = before.nextFrame core
  enlarged : ∀ pipeline, before.pipeline = some pipeline →
    (pipeline.perFrame.run (before.nextFrame core)).1 = .ok ()
  pipeline_eq : next.pipeline =
    before.pipeline.map fun pipeline => (pipeline.runPerFrame (before.nextFrame core)).2
  writes_eq : next.bench.writes = before.bench.writes
  latch_eq : next.latch = before.latch
  report_eq : next.report = before.report
  phase_eq : next.phase = before.phase

variable {cycle last : Cycle State Store Memory}

theorem advance_eq_ok {core : Core State} (ran : (advance core).run cycle = .ok () last) :
    ∃ frames, last = { cycle with bench := cycle.bench.advance core, frames } := by
  by_cases room : cycle.frames.toNat + 1 < UInt64.size
  · rw [run_advance cycle core room] at ran
    cases ran
    exact ⟨_, rfl⟩
  · rw [run_advance_full cycle core room] at ran
    cases ran

theorem readDisplay_eq_ok {core : Core State} (ran : (readDisplay core).run cycle = .ok () last) :
    ∃ displayStat,
      ((cycle.bench.display core cycle.frame).2.accumulate cycle.displayStat).1 =
          .ok displayStat ∧
        last = { cycle with
          frame := (cycle.bench.display core cycle.frame).1
          bench := ((cycle.bench.display core cycle.frame).2.accumulate cycle.displayStat).2
          displayStat } := by
  simp only [readDisplay, recordDisplay, EStateM.run_bind, EStateM.run_modify, EStateM.run_get]
    at ran
  cases folded : ((cycle.bench.display core cycle.frame).2.accumulate cycle.displayStat).1 with
  | error fault =>
      simp only [folded, checked] at ran
      cases ran
  | ok displayStat =>
      simp only [folded, checked] at ran
      cases ran
      exact ⟨displayStat, rfl, rfl⟩

theorem recordUpscale_eq_ok (ran : recordUpscale.run cycle = .ok () last) :
    ∃ upscaleStat, (cycle.bench.accumulate cycle.upscaleStat).1 = .ok upscaleStat ∧
      last = { cycle with
        bench := (cycle.bench.accumulate cycle.upscaleStat).2
        upscaleStat } := by
  simp only [recordUpscale, EStateM.run_bind, EStateM.run_modify, EStateM.run_get] at ran
  cases folded : (cycle.bench.accumulate cycle.upscaleStat).1 with
  | error fault =>
      simp only [folded, checked] at ran
      cases ran
  | ok upscaleStat =>
      simp only [folded, checked] at ran
      cases ran
      exact ⟨upscaleStat, rfl, rfl⟩

/-- The upscaler for every frame, if there is one, has not erred. -/
theorem upscaleFrame_eq_ok (ran : upscaleFrame.run cycle = .ok () last) :
    (∀ pipeline, cycle.pipeline = some pipeline →
      (pipeline.perFrame.run cycle.frame).1 = .ok ()) ∧
    Bench.Adds
      (cycle.pipeline.toList.map fun pipeline =>
        .upscale pipeline.perFrame.name pipeline.perFrame.factor)
      (cycle.pipeline.toList.map fun _ => .accumulated cycle.upscaleStat.name 0)
      cycle.bench last.bench ∧
    ∃ upscaleStat bench, upscaleStat.name = cycle.upscaleStat.name ∧ last = { cycle with
      pipeline := cycle.pipeline.map fun pipeline => (pipeline.runPerFrame cycle.frame).2
      upscaleStat
      bench } := by
  cases staged : cycle.pipeline with
  | none =>
      rw [run_upscaleFrame_bare cycle staged] at ran
      cases ran
      exact ⟨nofun, .refl _, _, _, rfl, by rw [Option.map_none, ← staged]⟩
  | some pipeline =>
      simp only [upscaleFrame, onBench, Pipeline.runPerFrame, EStateM.run_bind, EStateM.run_get,
        EStateM.run_modify, staged] at ran
      cases recorded : recordUpscale.run { cycle with
          bench := cycle.bench.call (.upscale pipeline.perFrame.name pipeline.perFrame.factor)
          pipeline := some ⟨(pipeline.perFrame.run cycle.frame).2, pipeline.capture⟩ } with
      | error stop middle =>
          rw [recorded] at ran
          cases ran
      | ok done middle =>
          rw [recorded] at ran
          obtain ⟨upscaleStat, folded, rfl⟩ := recordUpscale_eq_ok recorded
          obtain ⟨name, told⟩ := Bench.adds_accumulate folded
          cases outcome : (pipeline.perFrame.run cycle.frame).1 with
          | error stop =>
              simp only [outcome] at ran
              cases ran
          | ok enlarged =>
              simp only [outcome] at ran
              cases ran
              refine ⟨?_, (Bench.adds_call _ cycle.bench).trans told, _, _, name, rfl⟩
              rintro _ ⟨⟩
              exact outcome

theorem followTick_eq_ok {core : Core State} (ran : (followTick core).run cycle = .ok () last) :
    last.tick.toNat = cycle.tick.toNat + 1 ∧
      last.bench = followScript core cycle.script cycle.snapshot last.tick
        (cycle.bench.log (.tick last.tick)) ∧
      ∃ tick bench, last = { cycle with tick, bench } := by
  by_cases room : cycle.tick.toNat + 1 < UInt32.size
  · rw [run_followTick cycle core room] at ran
    cases ran
    exact ⟨(Checked.add32_one room).2, rfl, _, _, rfl⟩
  · rw [run_followTick_full cycle core room] at ran
    cases ran

theorem exposed_of_enlargeFrame {core : Core State}
    (ran : (enlargeFrame core).run cycle = .ok () last) :
    Exposed core cycle last ∧ last.tick = cycle.tick := by
  obtain ⟨_, shown, ran, enlarged⟩ := run_bind_eq_ok.mp ran
  obtain ⟨_, advanced, advancing, reading⟩ := run_bind_eq_ok.mp ran
  obtain ⟨outcome, upscaled, upscaleStat, bench, -, rfl⟩ := upscaleFrame_eq_ok enlarged
  have writes := upscaled.writes_eq (by cases shown.pipeline <;> rfl)
  obtain ⟨frames, rfl⟩ := advance_eq_ok advancing
  obtain ⟨displayStat, -, rfl⟩ := readDisplay_eq_ok reading
  refine ⟨⟨rfl, outcome, rfl, writes.trans ?_, rfl, rfl, rfl⟩, rfl⟩
  simp [Bench.writes_eq, Call.write?]

theorem Exposed.of_followTick {core : Core State} {before : Cycle State Store Memory}
    (exposed : Exposed core before cycle) (ran : (followTick core).run cycle = .ok () last) :
    Exposed core before last ∧ last.tick.toNat = cycle.tick.toNat + 1 := by
  obtain ⟨ticked, followed, tick, bench, rfl⟩ := followTick_eq_ok ran
  refine ⟨⟨exposed.frame_eq, exposed.enlarged, exposed.pipeline_eq, ?_, exposed.latch_eq,
    exposed.report_eq, exposed.phase_eq⟩, ticked⟩
  rw [followed, Bench.writes_followScript, Bench.writes_log, exposed.writes_eq]

/-- The shot that a cycle takes when its capture is due. -/
def shot (sink : Sink Store) (cycle : Cycle State Store Memory) : Shot State Store Memory :=
  cycle.latch.capture sink cycle.tick cycle.frame cycle.pipeline cycle.bench

/-- How a step ends whose frame has been read and whose tick has been counted. -/
inductive Ends (sink : Sink Store) (exposed : Cycle State Store Memory) :
    Bool → Cycle State Store Memory → Prop where
  | ticked : exposed.tick ≠ exposed.latch.tick → Ends sink exposed true exposed
  | captured {outcome : Option CaptureReport} :
      exposed.tick = exposed.latch.tick → (exposed.shot sink).outcome = .ok outcome →
      Ends sink exposed false { exposed with
        latch := (exposed.shot sink).latch
        pipeline := (exposed.shot sink).pipeline
        bench := (exposed.shot sink).bench
        report := outcome.or exposed.report
        tick := 0
        phase := .terminating }

theorem step_eq_ok {rig : Rig State Store} {going : Bool} (running : cycle.phase = .running)
    (ran : (step rig).run cycle = .ok going last) :
    ∃ enlarged exposed, (enlargeFrame rig.core).run cycle = .ok () enlarged ∧
      (followTick rig.core).run enlarged = .ok () exposed ∧ Ends rig.sink exposed going last := by
  rw [run_step cycle rig running] at ran
  obtain ⟨_, enlarged, enlarging, ran⟩ := run_bind_eq_ok.mp ran
  obtain ⟨_, exposed, following, ran⟩ := run_bind_eq_ok.mp ran
  refine ⟨enlarged, exposed, enlarging, following, ?_⟩
  rw [EStateM.run_bind] at ran
  by_cases due : exposed.tick = exposed.latch.tick
  · rw [run_captureFrame_due exposed rig.sink due] at ran
    cases outcome : (exposed.shot rig.sink).outcome with
    | error fault =>
        simp only [shot] at outcome
        simp only [outcome] at ran
        cases ran
    | ok report =>
        have captured := Ends.captured due outcome
        simp only [shot] at outcome
        cases report <;>
        · simp only [outcome, run_settle_over] at ran
          cases ran
          exact captured
  · have positive : exposed.tick ≠ 0 := by
      rintro zero
      have ticked := (followTick_eq_ok following).1
      rw [zero] at ticked
      cases ticked
    rw [run_captureFrame_early exposed rig.sink due] at ran
    simp only [run_settle_on exposed positive] at ran
    cases ran
    exact .ticked due

/-- How a step of a running cycle returns. -/
inductive Returned (rig : Rig State Store) (before : Cycle State Store Memory) :
    Bool → Cycle State Store Memory → Prop where
  | ticked {next : Cycle State Store Memory} :
      Exposed rig.core before next → next.tick.toNat = before.tick.toNat + 1 →
      next.tick ≠ next.latch.tick → Returned rig before true next
  | captured {exposed : Cycle State Store Memory} {outcome : Option CaptureReport} :
      Exposed rig.core before exposed → exposed.tick.toNat = before.tick.toNat + 1 →
      exposed.tick = exposed.latch.tick → (exposed.shot rig.sink).outcome = .ok outcome →
      Returned rig before false { exposed with
        latch := (exposed.shot rig.sink).latch
        pipeline := (exposed.shot rig.sink).pipeline
        bench := (exposed.shot rig.sink).bench
        report := outcome.or exposed.report
        tick := 0
        phase := .terminating }

theorem returned_of_step {rig : Rig State Store} {going : Bool} (running : cycle.phase = .running)
    (ran : (step rig).run cycle = .ok going last) : Returned rig cycle going last := by
  obtain ⟨enlarged, exposed, enlarging, following, ends⟩ := step_eq_ok running ran
  obtain ⟨shown, sameTick⟩ := exposed_of_enlargeFrame enlarging
  obtain ⟨shown, tick⟩ := shown.of_followTick following
  rw [sameTick] at tick
  cases ends with
  | ticked early => exact .ticked shown tick early
  | captured due outcome => exact .captured shown tick due outcome

end FrameCycle.Cycle
