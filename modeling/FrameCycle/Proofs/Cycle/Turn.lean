import FrameCycle.Proofs.Cycle.Return
import FrameCycle.Proofs.Cycle.Step

/-!
How a step turns out, as its upscaler and its counters have it. Of a cycle whose frames are counted
nothing else has to be known: until its capture is due, a step moves nothing that a capture moves.
-/
namespace FrameCycle.Cycle

variable {State Store Memory : Type}

/-- How the upscaler for every frame answers in the next step; without upscalers nothing errs. -/
def enlargement (core : Core State) (cycle : Cycle State Store Memory) : Except Stop Unit :=
  match cycle.pipeline with
  | none => .ok ()
  | some pipeline => (pipeline.runPerFrame (cycle.nextFrame core)).1

/-- Every frame that was read is counted, and no more frames than those were enlarged. -/
structure Counted (cycle : Cycle State Store Memory) : Prop where
  displayCount : cycle.displayStat.count = cycle.frames
  upscaleCount : cycle.upscaleStat.count.toNat ≤ cycle.frames.toNat

theorem Underway.counted {plan : Plan Memory} {answers : List (Option Error)}
    {cycle : Cycle State Store Memory} (underway : cycle.Underway plan answers) :
    cycle.Counted := by
  have reached := underway.reached
  refine ⟨UInt64.toNat_inj.mp (reached.displayCount.trans reached.frames_eq.symm), ?_⟩
  have calls := reached.upscaleCount
  have frames := reached.frames_eq
  split at calls <;> omega

/-- What a capture moves stays as it was. -/
structure Kept (before next : Cycle State Store Memory) : Prop where
  phase_eq : next.phase = before.phase
  latch_eq : next.latch = before.latch
  report_eq : next.report = before.report
  capture_eq : next.pipeline.map Pipeline.capture = before.pipeline.map Pipeline.capture
  writes_eq : next.bench.writes = before.bench.writes

theorem Kept.trans {before next last : Cycle State Store Memory} (first : Kept before next)
    (second : Kept next last) : Kept before last :=
  ⟨second.phase_eq.trans first.phase_eq, second.latch_eq.trans first.latch_eq,
    second.report_eq.trans first.report_eq, second.capture_eq.trans first.capture_eq,
    second.writes_eq.trans first.writes_eq⟩

theorem run_showFrame_kept {cycle : Cycle State Store Memory} (counted : cycle.Counted)
    (core : Core State) (room : cycle.frames.toNat + 1 < UInt64.size) :
    ∃ next, (showFrame core).run cycle = .ok () next ∧ next.frame = cycle.nextFrame core ∧
      next.pipeline = cycle.pipeline ∧ next.tick = cycle.tick ∧
      next.frames.toNat = cycle.frames.toNat + 1 ∧ next.displayStat.count = next.frames ∧
      next.upscaleStat = cycle.upscaleStat ∧ Kept cycle next := by
  have frames : (cycle.frames + 1).toNat = cycle.frames.toNat + 1 := (Checked.add64_one room).2
  obtain ⟨displayStat, grown, shown⟩ := run_showFrame cycle core room counted.displayCount
  refine ⟨_, shown, rfl, rfl, rfl, frames, UInt64.toNat_inj.mp (grown.trans frames.symm), rfl,
    rfl, rfl, rfl, rfl, ?_⟩
  simp [Bench.writes_eq, Call.write?]

/-- The part of a step that calls the upscaler for every frame ends as that one answers. -/
theorem run_upscaleFrame_kept (cycle : Cycle State Store Memory)
    (room : cycle.upscaleStat.count.toNat + 1 < UInt64.size) :
    ∃ next, upscaleFrame.run cycle =
        (match (match cycle.pipeline with
            | none => .ok ()
            | some pipeline => (pipeline.runPerFrame cycle.frame).1 : Except Stop Unit) with
          | .ok () => .ok () next
          | .error stop => .error stop next) ∧
      next.tick = cycle.tick ∧ next.frames = cycle.frames ∧
      next.displayStat = cycle.displayStat ∧
      next.upscaleStat.count.toNat ≤ cycle.upscaleStat.count.toNat + 1 ∧ Kept cycle next := by
  cases staged : cycle.pipeline with
  | none =>
      exact ⟨cycle, run_upscaleFrame_bare cycle staged, rfl, rfl, rfl, Nat.le_succ _,
        rfl, rfl, rfl, rfl, rfl⟩
  | some pipeline =>
      obtain ⟨upscaleStat, counted, run⟩ := run_upscaleFrame cycle staged room
      refine ⟨_, run, rfl, rfl, rfl, counted.le, rfl, rfl, rfl, by rw [staged]; rfl, ?_⟩
      simp [Bench.writes_eq, Call.write?]

/-- As long as frames can be counted, the part of a step that enlarges the frame ends as the
upscaler for every frame answers. -/
theorem run_enlargeFrame {cycle : Cycle State Store Memory} (counted : cycle.Counted)
    (core : Core State) (room : cycle.frames.toNat + 1 < UInt64.size) :
    ∃ next, (enlargeFrame core).run cycle =
        (match cycle.enlargement core with
          | .ok () => .ok () next
          | .error stop => .error stop next) ∧
      next.tick = cycle.tick ∧ next.frames.toNat = cycle.frames.toNat + 1 ∧ next.Counted ∧
      Kept cycle next := by
  obtain ⟨shown, showing, frame, pipeline, tick, frames, displayCount, upscaleStat, kept⟩ :=
    run_showFrame_kept counted core room
  have few := counted.upscaleCount
  rw [← upscaleStat] at few
  obtain ⟨next, run, nextTick, nextFrames, displayStat, upscaleCount, still⟩ :=
    run_upscaleFrame_kept shown (by omega)
  refine ⟨next, ?_, nextTick.trans tick, by rw [nextFrames, frames], ⟨?_, ?_⟩, kept.trans still⟩
  · simp only [enlargeFrame, EStateM.run_bind, showing, run, enlargement, pipeline, frame,
      nextFrame]
  · rw [displayStat, nextFrames, displayCount]
  · rw [nextFrames]
    omega

theorem run_followTick_kept {cycle : Cycle State Store Memory} (counted : cycle.Counted)
    (core : Core State) (room : cycle.tick.toNat + 1 < UInt32.size) :
    ∃ next, (followTick core).run cycle = .ok () next ∧
      next.tick.toNat = cycle.tick.toNat + 1 ∧ next.frames = cycle.frames ∧ next.Counted ∧
      Kept cycle next := by
  refine ⟨_, run_followTick cycle core room, (Checked.add32_one room).2, rfl,
    ⟨counted.displayCount, counted.upscaleCount⟩, rfl, rfl, rfl, rfl, ?_⟩
  rw [Bench.writes_followScript, Bench.writes_log]

/-- How a step of a running cycle can turn out. -/
inductive Turned (core : Core State) (cycle : Cycle State Store Memory) :
    EStateM.Result Stop (Cycle State Store Memory) Bool → Prop where
  | stopped {stop : Stop} {next : Cycle State Store Memory} :
      cycle.enlargement core = .error stop → next.Counted → Kept cycle next →
      Turned core cycle (.error stop next)
  /-- The frames cannot be counted any more. -/
  | uncounted {next : Cycle State Store Memory} :
      cycle.frames.toNat + 1 = UInt64.size → next.Counted → Kept cycle next →
      Turned core cycle (.error (.fault .addOverflow) next)
  /-- There is no next tick. -/
  | unticked {next : Cycle State Store Memory} :
      cycle.enlargement core = .ok () → cycle.tick.toNat + 1 = UInt32.size → next.Counted →
      Kept cycle next → Turned core cycle (.error (.fault .addOverflow) next)
  | ticked {next : Cycle State Store Memory} :
      cycle.enlargement core = .ok () → next.tick.toNat = cycle.tick.toNat + 1 →
      next.frames.toNat = cycle.frames.toNat + 1 → next.Counted → Kept cycle next →
      Turned core cycle (.ok true next)
  | captured {last : Cycle State Store Memory} :
      cycle.enlargement core = .ok () → cycle.tick.toNat + 1 = cycle.latch.tick.toNat →
      Turned core cycle (.ok false last)
  | unshot {fault : Fault} {last : Cycle State Store Memory} :
      cycle.enlargement core = .ok () → cycle.tick.toNat + 1 = cycle.latch.tick.toNat →
      Turned core cycle (.error (.fault fault) last)

variable {cycle : Cycle State Store Memory}

/-- What the last part of a step makes of a tick that has been counted. -/
theorem turned_of_counted {core : Core State} {shown : Cycle State Store Memory}
    (answer : cycle.enlargement core = .ok ()) (tick : shown.tick.toNat = cycle.tick.toNat + 1)
    (frames : shown.frames.toNat = cycle.frames.toNat + 1) (counted : shown.Counted)
    (kept : Kept cycle shown) (sink : Sink Store) :
    Turned core cycle (EStateM.run (do captureFrame sink; settle) shown) := by
  simp only [EStateM.run_bind]
  by_cases due : shown.tick = shown.latch.tick
  · have captureTick : cycle.tick.toNat + 1 = cycle.latch.tick.toNat := by
      rw [← tick, due, kept.latch_eq]
    rw [run_captureFrame_due shown sink due]
    cases (shown.latch.capture sink shown.tick shown.frame shown.pipeline shown.bench).outcome with
    | error fault => exact .unshot answer captureTick
    | ok report =>
        cases report <;>
        · simp only [run_settle_over]
          exact .captured answer captureTick
  · -- a tick that has been counted is not 0, so the step does not take it for the end
    have positive : shown.tick ≠ 0 := by
      rintro zero
      rw [zero] at tick
      cases tick
    rw [run_captureFrame_early shown sink due]
    simp only [run_settle_on shown positive]
    exact .ticked answer tick frames counted kept

theorem turned_of_step (counted : cycle.Counted) (running : cycle.phase = .running)
    (rig : Rig State Store) : Turned rig.core cycle ((step rig).run cycle) := by
  rw [run_step cycle rig running, EStateM.run_bind]
  by_cases room : cycle.frames.toNat + 1 < UInt64.size
  · obtain ⟨next, run, tick, frames, counted, kept⟩ := run_enlargeFrame counted rig.core room
    rw [run]
    cases answer : cycle.enlargement rig.core with
    | error stop => exact .stopped answer counted kept
    | ok done =>
        simp only
        rw [EStateM.run_bind]
        by_cases early : next.tick.toNat + 1 < UInt32.size
        · obtain ⟨shown, following, nextTick, nextFrames, counted, still⟩ :=
            run_followTick_kept counted rig.core early
          rw [following]
          exact turned_of_counted answer (nextTick.trans (tick ▸ rfl)) (nextFrames ▸ frames) counted
            (kept.trans still) rig.sink
        · rw [run_followTick_full next rig.core early]
          refine .unticked answer ?_ counted kept
          have := next.tick.toNat_lt_size
          rw [← tick]
          omega
  · simp only [enlargeFrame, EStateM.run_bind, run_showFrame_full cycle rig.core room]
    refine .uncounted ?_ ⟨counted.displayCount, counted.upscaleCount⟩ ⟨rfl, rfl, rfl, rfl, ?_⟩
    · have := cycle.frames.toNat_lt_size
      omega
    · simp [Bench.writes_eq, Call.write?]

/-- A step goes on as far as the upscaler for every frame lets it, and errs as that one errs. -/
theorem enlargement_of_step (counted : cycle.Counted) (running : cycle.phase = .running)
    (rig : Rig State Store) :
    match (step rig).run cycle with
    | .ok _ _ => cycle.enlargement rig.core = .ok ()
    | .error (.error error) _ => cycle.enlargement rig.core = .error (.error error)
    | .error (.fault _) _ => True := by
  have turned := turned_of_step counted running rig
  generalize (step rig).run cycle = result at turned ⊢
  cases turned with
  | @stopped stop next answer counted kept =>
      cases stop with
      | error error => exact answer
      | fault fault => trivial
  | uncounted full counted kept => trivial
  | unticked answer full counted kept => trivial
  | ticked answer tick frames counted kept => exact answer
  | captured answer due => exact answer
  | unshot answer due => trivial

end FrameCycle.Cycle
