import FrameCycle.Proofs.Capture
import FrameCycle.Proofs.Cycle.Work

/-!
What one step does to a cycle that follows its plan. `Underway` holds between steps until the
capture and `Over` after it; a step that errs has counted its frame, but neither the tick nor the
script nor the latch has moved.
-/
namespace FrameCycle

variable {State Store Memory : Type}

namespace Cycle

/-- A cycle that has read `shown` frames and enlarged those of which `answers` tells, and its
demands since it started. -/
structure Reached (plan : Plan Memory) (shown : Nat) (answers : List (Option Error))
    (demands : List Demand) (cycle : Cycle State Store Memory) : Prop where
  script_eq : cycle.script = plan.config.script
  snapshot_eq : cycle.snapshot = plan.config.snapshot
  frameWidth : cycle.frame.width = plan.width
  frameHeight : cycle.frame.height = plan.height
  equipped : plan.Equips answers cycle.pipeline
  frames_eq : cycle.frames.toNat = shown
  displayCount : cycle.displayStat.count.toNat = shown
  upscaleCount :
    cycle.upscaleStat.count.toNat = if plan.upscalers.isSome then answers.length else 0
  demands_eq : cycle.bench.demands = plan.opening ++ demands

/-- A running cycle `ticks` ticks on, its capture still to come. -/
structure Waiting (plan : Plan Memory) (ticks : Nat) (cycle : Cycle State Store Memory) :
    Prop where
  phase_eq : cycle.phase = .running
  tick_eq : cycle.tick.toNat = ticks
  latch_eq : cycle.latch = .armed plan.config.captureTick plan.config.outputDir
  report_eq : cycle.report = none
  spared : plan.Spares cycle.pipeline

/-- A cycle between two steps. -/
structure Underway (plan : Plan Memory) (answers : List (Option Error))
    (cycle : Cycle State Store Memory) : Prop where
  reached : cycle.Reached plan answers.length answers (plan.walk 0 answers)
  waiting : cycle.Waiting plan (passed answers)
  early : passed answers < plan.captureTick

/-- A cycle after its capture. -/
structure Over (plan : Plan Memory) (answers : List (Option Error))
    (cycle : Cycle State Store Memory) : Prop where
  reached : cycle.Reached plan answers.length answers
    (plan.walk 0 answers ++ plan.shots (plan.enlarges cycle.frame))
  phase_eq : cycle.phase = .terminating
  tick_eq : cycle.tick = 0
  complete : passed answers = plan.captureTick
  fired : cycle.latch.fired = true
  reported : cycle.report.isSome
  captured : ∃ stored, .write (plan.image originalFile) cycle.frame stored ∈ cycle.bench.calls

/-- How running the machine, reading it and enlarging what it shows can end. -/
inductive Enlarged (plan : Plan Memory) (answers : List (Option Error)) :
    EStateM.Result Stop (Cycle State Store Memory) Unit → Prop where
  | passed {next : Cycle State Store Memory} :
      next.Reached plan (answers.length + 1) (answers ++ [none])
        (plan.walk 0 answers ++ plan.frame) →
      next.Waiting plan (passed answers) → Enlarged plan answers (.ok () next)
  | erred {error : Error} {next : Cycle State Store Memory} :
      next.Underway plan (answers ++ [some error]) →
      Enlarged plan answers (.error (.error error) next)
  /-- The frames cannot be counted any more. -/
  | exhausted {next : Cycle State Store Memory} :
      answers.length + 1 = UInt64.size → next.phase = .running →
      Enlarged plan answers (.error (.fault .addOverflow) next)
  | faulted {fault : Fault} {next : Cycle State Store Memory} :
      ¬ plan.Calm → Enlarged plan answers (.error (.fault fault) next)

/-- How a step of a running cycle can end. -/
inductive Stepped (plan : Plan Memory) (answers : List (Option Error)) :
    EStateM.Result Stop (Cycle State Store Memory) Bool → Prop where
  | ticked {next : Cycle State Store Memory} :
      next.Underway plan (answers ++ [none]) → Stepped plan answers (.ok true next)
  | captured {next : Cycle State Store Memory} :
      next.Over plan (answers ++ [none]) → Stepped plan answers (.ok false next)
  | erred {error : Error} {next : Cycle State Store Memory} :
      next.Underway plan (answers ++ [some error]) →
      Stepped plan answers (.error (.error error) next)
  | exhausted {next : Cycle State Store Memory} :
      answers.length + 1 = UInt64.size → next.phase = .running →
      Stepped plan answers (.error (.fault .addOverflow) next)
  | faulted {fault : Fault} {next : Cycle State Store Memory} :
      ¬ plan.Calm → Stepped plan answers (.error (.fault fault) next)

variable {plan : Plan Memory} {answers : List (Option Error)} {cycle : Cycle State Store Memory}

theorem shown_of_underway (underway : cycle.Underway plan answers)
    (core : Core State) (room : cycle.frames.toNat + 1 < UInt64.size) :
    ∃ next : Cycle State Store Memory,
      (showFrame core).run cycle = .ok () next ∧
        next.Reached plan (answers.length + 1) answers
          (plan.walk 0 answers ++ [.advance, .display]) ∧
        next.Waiting plan (passed answers) := by
  obtain ⟨reached, waiting, -⟩ := underway
  have counted : cycle.displayStat.count = cycle.frames :=
    UInt64.toNat_inj.mp (reached.displayCount.trans reached.frames_eq.symm)
  obtain ⟨displayStat, displayCount, run⟩ := run_showFrame cycle core room counted
  refine ⟨_, run, ?_, ?_⟩
  · refine ⟨reached.script_eq, reached.snapshot_eq, reached.frameWidth, reached.frameHeight,
      reached.equipped, ?_, ?_, reached.upscaleCount, ?_⟩
    · change (cycle.frames + 1).toNat = _
      rw [(Checked.add64_one room).2, reached.frames_eq]
    · rw [displayCount, reached.frames_eq]
    · simp [reached.demands_eq]
  · exact ⟨waiting.phase_eq, waiting.tick_eq, waiting.latch_eq, waiting.report_eq,
      waiting.spared⟩

/-- Without upscalers a frame that has been read is through. -/
theorem enlarged_of_bare
    (reached : cycle.Reached plan (answers.length + 1) answers
      (plan.walk 0 answers ++ [.advance, .display]))
    (waiting : cycle.Waiting plan (passed answers)) (bare : cycle.pipeline = none) :
    Enlarged plan answers (upscaleFrame.run cycle) := by
  have equipped := reached.equipped
  rw [bare] at equipped
  cases equipped with
  | bare absent quiet =>
      have frame : plan.frame = [.advance, .display] := by simp [Plan.frame, absent]
      rw [run_upscaleFrame_bare cycle bare]
      refine .passed ⟨reached.script_eq, reached.snapshot_eq, reached.frameWidth,
        reached.frameHeight, ?_, reached.frames_eq, reached.displayCount, ?_, ?_⟩ waiting
      · rw [bare]
        refine .bare absent ?_
        intro answer member
        rcases List.mem_append.mp member with earlier | last
        · exact quiet answer earlier
        · exact List.mem_singleton.mp last
      · simpa [absent] using reached.upscaleCount
      · rw [frame]
        exact reached.demands_eq

/-- Whatever the upscaler answers, it has been called and its time has been counted. -/
theorem reached_of_answer
    (reached : cycle.Reached plan (answers.length + 1) answers
      (plan.walk 0 answers ++ [.advance, .display]))
    {upscalers : Upscalers Memory} {pipeline : Pipeline Memory}
    (present : plan.upscalers = some upscalers)
    (fits : pipeline.Fits upscalers plan.width plan.height)
    (answered : upscalers.perFrame.Answers plan.width plan.height upscalers.perFrameMemory
      answers pipeline.perFrame.memory)
    {answer : Option Error} (outcome : (pipeline.perFrame.run cycle.frame).1 = outcomeOf answer)
    {upscaleStat : RunningStat Millis} (counted : upscaleStat.count.toNat = answers.length + 1) :
    Reached plan (answers.length + 1) (answers ++ [answer])
      (plan.walk 0 answers ++ plan.frame) { cycle with
        pipeline := some ⟨(pipeline.perFrame.run cycle.frame).2, pipeline.capture⟩
        bench := ((cycle.bench.call (.upscale pipeline.perFrame.name
          pipeline.perFrame.factor)).accumulate cycle.upscaleStat).2
        upscaleStat } := by
  have name : pipeline.perFrame.name = upscalers.perFrame.name :=
    congrArg Upscaler.name fits.perFrame.upscaler_eq
  have factor : pipeline.perFrame.factor = upscalers.perFrame.factor :=
    congrArg Upscaler.factor fits.perFrame.upscaler_eq
  have frame : plan.frame = [.advance, .display,
      .upscale pipeline.perFrame.name pipeline.perFrame.factor] := by
    simp [Plan.frame, present, name, factor]
  refine ⟨reached.script_eq, reached.snapshot_eq, reached.frameWidth, reached.frameHeight, ?_,
    reached.frames_eq, reached.displayCount, ?_, ?_⟩
  · exact .staged present ⟨fits.perFrame.run cycle.frame, fits.capture⟩
      (fits.perFrame.answers answered reached.frameWidth reached.frameHeight outcome)
  · simp [present, counted]
  · simp [reached.demands_eq, frame, Call.demand]

/-- With upscalers the step goes on or errs as the one for every frame does. -/
theorem enlarged_of_staged
    (reached : cycle.Reached plan (answers.length + 1) answers
      (plan.walk 0 answers ++ [.advance, .display]))
    (waiting : cycle.Waiting plan (passed answers)) (early : passed answers < plan.captureTick)
    (room : answers.length + 1 < UInt64.size) {pipeline : Pipeline Memory}
    (staged : cycle.pipeline = some pipeline) :
    Enlarged plan answers (upscaleFrame.run cycle) := by
  have equipped := reached.equipped
  rw [staged] at equipped
  cases equipped with
  | @staged upscalers pipeline present fits answered =>
      have upscaleCount : cycle.upscaleStat.count.toNat = answers.length := by
        simpa [present] using reached.upscaleCount
      obtain ⟨upscaleStat, counted, run⟩ :=
        run_upscaleFrame cycle staged (upscaleCount ▸ room)
      rw [upscaleCount] at counted
      have spared : plan.Spares
          (some ⟨(pipeline.perFrame.run cycle.frame).2, pipeline.capture⟩) := by
        have before := waiting.spared
        rw [staged] at before
        exact before
      rw [run]
      rcases outcome : (pipeline.perFrame.run cycle.frame).1 with (error | fault) | done
      · have answer : (pipeline.perFrame.run cycle.frame).1 = outcomeOf (some error) := outcome
        refine .erred ⟨?_, ?_, by simpa using early⟩
        · rw [Plan.walk_concat_some, List.length_append]
          exact reached_of_answer reached present fits answered answer counted
        · rw [passed_append, passed_some]
          exact ⟨waiting.phase_eq, waiting.tick_eq, waiting.latch_eq, waiting.report_eq, spared⟩
      · apply Enlarged.faulted
        intro calm
        exact fits.perFrame.not_fault (calm upscalers present).1 reached.frameWidth
          reached.frameHeight fault outcome
      · have answer : (pipeline.perFrame.run cycle.frame).1 = outcomeOf none := outcome
        apply Enlarged.passed
        · exact reached_of_answer reached present fits answered answer counted
        · exact ⟨waiting.phase_eq, waiting.tick_eq, waiting.latch_eq, waiting.report_eq, spared⟩

theorem enlarged_of_underway (underway : cycle.Underway plan answers)
    (core : Core State) :
    Enlarged plan answers ((enlargeFrame core).run cycle) := by
  have frames := underway.reached.frames_eq
  by_cases room : cycle.frames.toNat + 1 < UInt64.size
  · obtain ⟨next, run, reached, waiting⟩ := shown_of_underway underway core room
    simp only [enlargeFrame, EStateM.run_bind, run]
    cases staged : next.pipeline with
    | none => exact enlarged_of_bare reached waiting staged
    | some pipeline =>
        exact enlarged_of_staged reached waiting underway.early (frames ▸ room) staged
  · simp only [enlargeFrame, EStateM.run_bind, run_showFrame_full cycle core room]
    refine .exhausted ?_ underway.waiting.phase_eq
    have := cycle.frames.toNat_lt_size
    omega

theorem scripted_of_enlarged
    (reached : cycle.Reached plan (answers.length + 1) (answers ++ [none])
      (plan.walk 0 answers ++ plan.frame))
    (waiting : cycle.Waiting plan (passed answers)) (early : passed answers < plan.captureTick)
    (core : Core State) :
    ∃ next : Cycle State Store Memory,
      (followTick core).run cycle = .ok () next ∧
        next.Reached plan (answers ++ [none]).length (answers ++ [none])
          (plan.walk 0 (answers ++ [none])) ∧
        next.Waiting plan (passed (answers ++ [none])) := by
  have room : cycle.tick.toNat + 1 < UInt32.size := by
    have := plan.config.captureTick.toNat_lt_size
    rw [Plan.captureTick] at early
    have := waiting.tick_eq
    omega
  have tick := (Checked.add32_one room).2
  rw [waiting.tick_eq] at tick
  refine ⟨_, run_followTick cycle core room, ?_, ?_⟩
  · refine ⟨reached.script_eq, reached.snapshot_eq, reached.frameWidth, reached.frameHeight,
      reached.equipped, ?_, ?_, ?_, ?_⟩
    · simpa using reached.frames_eq
    · simpa using reached.displayCount
    · simpa using reached.upscaleCount
    · simp only [Bench.demands_followScript, Bench.demands_log, reached.demands_eq, tick,
        reached.script_eq, reached.snapshot_eq, Plan.walk_concat_none, Plan.tick, Plan.actions,
        List.append_assoc]
  · exact ⟨waiting.phase_eq, by simpa using tick, waiting.latch_eq, waiting.report_eq,
      waiting.spared⟩

theorem stepped_of_scripted
    (reached : cycle.Reached plan (answers ++ [none]).length (answers ++ [none])
      (plan.walk 0 (answers ++ [none])))
    (waiting : cycle.Waiting plan (passed (answers ++ [none])))
    (early : passed answers < plan.captureTick) (sink : Sink Store) :
    Stepped plan answers (EStateM.run (do captureFrame sink; settle) cycle) := by
  have tick := waiting.tick_eq
  have latchTick : cycle.latch.tick = plan.config.captureTick := by
    rw [waiting.latch_eq]
    rfl
  have positive : cycle.tick ≠ 0 := by
    rintro zero
    simp [zero] at tick
  by_cases due : cycle.tick = plan.config.captureTick
  · have shot := Latch.capture_cases reached.equipped waiting.spared reached.frameWidth
      reached.frameHeight sink cycle.bench
    rw [← waiting.latch_eq, ← due] at shot
    simp only [EStateM.run_bind, run_captureFrame_due cycle sink (due.trans latchTick.symm)]
    rcases shot with ⟨fault, outcome, restless⟩ |
      ⟨report, stored, outcome, latch, equipped, demands, written⟩
    · rw [outcome]
      exact .faulted restless
    · rw [outcome]
      simp only [run_settle_over]
      refine .captured ⟨?_, rfl, rfl, ?_, ?_, rfl, stored, written⟩
      · refine ⟨reached.script_eq, reached.snapshot_eq, reached.frameWidth, reached.frameHeight,
          equipped, reached.frames_eq, reached.displayCount, reached.upscaleCount, ?_⟩
        rw [← List.append_assoc, ← reached.demands_eq]
        exact demands
      · rw [← tick, due, Plan.captureTick]
      · exact congrArg Latch.fired latch
  · have later : cycle.tick ≠ cycle.latch.tick := latchTick ▸ due
    simp only [EStateM.run_bind, run_captureFrame_early cycle sink later,
      run_settle_on cycle positive]
    refine .ticked ⟨reached, waiting, ?_⟩
    have : passed (answers ++ [none]) ≠ plan.captureTick := by
      rw [← tick, Plan.captureTick]
      exact fun same => due (UInt32.toNat_inj.mp same)
    rw [passed_append, passed_none] at this ⊢
    omega

theorem stepped_of_underway (underway : cycle.Underway plan answers)
    (rig : Rig State Store) : Stepped plan answers ((step rig).run cycle) := by
  rw [run_step cycle rig underway.waiting.phase_eq]
  have enlarged := enlarged_of_underway underway rig.core
  rw [EStateM.run_bind]
  generalize (enlargeFrame rig.core).run cycle = result at enlarged ⊢
  cases enlarged with
  | passed reached waiting =>
      obtain ⟨next, run, reached, waiting⟩ :=
        scripted_of_enlarged reached waiting underway.early rig.core
      have onward := stepped_of_scripted reached waiting underway.early rig.sink
      simpa only [EStateM.run_bind, run] using onward
  | erred underway => exact .erred underway
  | exhausted full running => exact .exhausted full running
  | faulted restless => exact .faulted restless

end Cycle

end FrameCycle
