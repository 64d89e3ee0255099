import FrameCycle.Proofs.Exposure

/-!
What lies behind a completed run: a start that has handed over the grid, and frames up to the step
of the capture, with which the run has ended.
-/
namespace FrameCycle

variable {State Store Memory : Type}

namespace Bench

theorem images_writeGrid (sink : Sink Store) (directory : Path) (grid : Frame)
    (bench : Bench State Store) :
    (bench.writeGrid sink directory grid).images =
      bench.images ++ [(directory.join (.ofString gridFile), grid)] := by
  obtain ⟨stored, written⟩ := bench.calls_writeGrid sink directory grid
  simp [images_eq, writes_eq, written, Call.write?]

theorem images_registerAudio (core : Core State) (bench : Bench State Store) :
    (bench.registerAudio core).images = bench.images := by
  rw [images_eq, (adds_registerAudio core bench).writes_eq rfl, images_eq]

end Bench

/-- The grid that the configuration asks for; without it no run starts. -/
def Plan.gridImages (plan : Plan Memory) : List (Path × Frame) :=
  if plan.config.grid then
    (referenceGrid plan.width plan.height).toOption.toList.map fun grid =>
      (plan.image gridFile, grid)
  else []

namespace Cycle

theorem images_startGrid {plan : Plan Memory} {sink : Sink Store} {bench next : Bench State Store}
    (done : startGrid sink plan.config plan.width plan.height bench = .ok next) :
    next.images = bench.images ++ plan.gridImages ∧
      plan.gridImages.map Prod.fst =
        if plan.config.grid then [plan.image gridFile] else [] := by
  unfold Plan.gridImages
  rcases startGrid_eq_ok done with ⟨skipped, rfl⟩ | ⟨asked, grid, made, rfl⟩
  · simp [skipped]
  · rw [if_pos asked, if_pos asked, made, Bench.images_writeGrid]
    exact ⟨rfl, rfl⟩

theorem ticked_of_stepUpTo {rig : Rig State Store} {count : Nat} {going : Bool}
    {cycle last : Cycle State Store Memory} (running : cycle.phase = .running)
    (never : cycle.latch.tick = 0) (ran : (stepUpTo rig count).run cycle = .ok going last) :
    last.tick.toNat = cycle.tick.toNat + count := by
  induction count generalizing cycle with
  | zero =>
      cases ran
      rfl
  | succ count inductionHypothesis =>
      rw [stepUpTo] at ran
      obtain ⟨onward, next, stepped, ran⟩ := run_bind_eq_ok.mp ran
      cases returned_of_step running stepped with
      | ticked exposed tick early =>
          have latch := exposed.latch_eq
          have further := inductionHypothesis (exposed.phase_eq.trans running) (latch ▸ never) ran
          omega
      | captured exposed tick due outcome =>
          rw [due, exposed.latch_eq, never] at tick
          simp at tick

/-- A cycle whose capture is set for tick 0 is not run to an end: no tick comes back to it. -/
theorem run_runToCompletion_never {rig : Rig State Store} {cycle last : Cycle State Store Memory}
    (running : cycle.phase = .running) (never : cycle.latch.tick = 0) :
    (runToCompletion rig).run cycle ≠ .ok () last := by
  intro ran
  rw [run_runToCompletion, run_discard] at ran
  cases stepped : (stepUpTo rig (UInt32.size - cycle.tick.toNat)).run cycle with
  | error stop next =>
      rw [stepped] at ran
      cases ran
  | ok going next =>
      have ticked := ticked_of_stepUpTo running never stepped
      have small := next.tick.toNat_lt_size
      omega

theorem over_of_completed {plan : Plan Memory} {rig : Rig State Store}
    {cycle ended : Cycle State Store Memory} (underway : cycle.Underway plan [])
    (ran : (runToCompletion rig).run cycle = .ok () ended) :
    ended.Over plan (List.replicate plan.captureTick none) := by
  have finish := finish_of_underway underway rig
  rw [ran] at finish
  cases finish with
  | settled settled => exact settled

end Cycle

/-- What a cycle is before its first step; its run has handed over the grid. -/
structure Cycle.Fresh (plan : Plan Memory) (cycle : Cycle State Store Memory) : Prop where
  phase_eq : cycle.phase = .running
  latch_eq : cycle.latch = .armed plan.config.captureTick plan.config.outputDir
  images_eq : cycle.bench.images = plan.gridImages
  gridPaths : plan.gridImages.map Prod.fst =
    if plan.config.grid then [plan.image gridFile] else []

theorem Cycle.fresh_of_start {rig : Rig State Store} {config : Config}
    {upscalers : Option (Upscalers Memory)} {machine : State} {store : Store} {clock : Clock}
    {cycle : Cycle State Store Memory}
    (started : start rig config upscalers (.ready machine store clock) = .started cycle) :
    cycle.Fresh (rig.plan config upscalers machine) := by
  obtain ⟨fresh, gridded, frame, pipeline, told, gridDone, -, rfl⟩ := start_eq_started started
  have silent : fresh.images = [] := by
    rw [Bench.images_eq, told.writes_eq rfl]
    rfl
  generalize planned : rig.plan config upscalers machine = plan at gridDone ⊢
  obtain rfl : config = plan.config := by
    subst planned
    rfl
  obtain ⟨gridImages, gridPaths⟩ := images_startGrid gridDone
  rw [silent, List.nil_append] at gridImages
  exact ⟨rfl, rfl, (Bench.images_registerAudio rig.core gridded).trans gridImages, gridPaths⟩

/-- The cycle that a completed run started, the cycle it ended with, and what it left of that. -/
structure Completes (rig : Rig State Store) (config : Config)
    (upscalers : Option (Upscalers Memory)) (opening : Bench State Store)
    (cycle ended : Cycle State Store Memory) (report : RunReport) (closing : Bench State Store) :
    Prop where
  started : Cycle.start rig config upscalers opening = .started cycle
  ran : (Cycle.runToCompletion rig).run cycle = .ok () ended
  report_eq : report = ended.runReport
  writes_eq : closing.writes = ended.bench.writes
  store_eq : closing.store = ended.bench.store

theorem run_eq_completed {rig : Rig State Store} {config : Config}
    {upscalers : Option (Upscalers Memory)} {opening closing : Bench State Store}
    {report : RunReport}
    (completed : run rig config upscalers opening = (.completed report, closing)) :
    ∃ cycle ended, Cycle.start rig config upscalers opening = .started cycle ∧
      (Cycle.runToCompletion rig).run cycle = .ok () ended ∧ report = ended.runReport ∧
      closing = (ended.finish rig).2.log .done := by
  unfold run at completed
  cases started : Cycle.start rig config upscalers opening with
  | refused bench => simp [started] at completed
  | faulted fault bench => simp [started] at completed
  | started cycle =>
      simp only [started] at completed
      cases ran : (Cycle.runToCompletion rig).run cycle with
      | error stop ended => simp [ran] at completed
      | ok done ended =>
          simp only [ran] at completed
          cases completed
          exact ⟨cycle, ended, rfl, ran, rfl, rfl⟩

theorem completes_of_completed {rig : Rig State Store} {config : Config}
    {upscalers : Option (Upscalers Memory)} {opening closing : Bench State Store}
    {report : RunReport}
    (completed : run rig config upscalers opening = (.completed report, closing)) :
    ∃ cycle ended, Completes rig config upscalers opening cycle ended report closing := by
  obtain ⟨cycle, ended, started, ran, rfl, rfl⟩ := run_eq_completed completed
  refine ⟨cycle, ended, started, ran, rfl, ?_, Bench.store_finish rig ended⟩
  rw [Bench.writes_log, Bench.writes_eq, Bench.calls_finish, List.filterMap_append]
  exact List.append_nil _

/-- A run that completes has a capture that is set for a tick. -/
theorem positive_of_started {rig : Rig State Store} {plan : Plan Memory}
    {cycle ended : Cycle State Store Memory} (fresh : cycle.Fresh plan)
    (ran : (Cycle.runToCompletion rig).run cycle = .ok () ended) : 0 < plan.config.captureTick := by
  by_contra zero
  have never : cycle.latch.tick = 0 := by
    rw [fresh.latch_eq]
    exact UInt32.le_zero_iff.mp (UInt32.not_lt.mp zero)
  exact Cycle.run_runToCompletion_never fresh.phase_eq never ran

/-- A completed run has ended with the step of its capture. -/
theorem captures_of_completed {rig : Rig State Store} {config : Config}
    {upscalers : Option (Upscalers Memory)} {machine : State} {store : Store} {clock : Clock}
    {report : RunReport} {closing : Bench State Store}
    (completed :
      run rig config upscalers (.ready machine store clock) = (.completed report, closing)) :
    ∃ cycle before ended : Cycle State Store Memory,
      Completes rig config upscalers (.ready machine store clock) cycle ended report closing ∧
      cycle.Fresh (rig.plan config upscalers machine) ∧
      before.bench.images = cycle.bench.images ∧
      before.Captures rig (rig.plan config upscalers machine) ended := by
  obtain ⟨cycle, ended, completes⟩ := completes_of_completed completed
  have ran := completes.ran
  have fresh := Cycle.fresh_of_start completes.started
  have underway := Cycle.underway_of_start completes.started (positive_of_started fresh ran)
  have settled := Cycle.over_of_completed underway ran
  have served : serve rig cycle [.complete] =
      ⟨[] ++ Order.complete.ends rig cycle, ended, none⟩ := by
    simp only [serve, List.foldl_cons, List.foldl_nil, Served.obey, Order.work, ran]
  have terminating : (serve rig cycle [.complete]).cycle.phase = .terminating := by
    rw [served]
    exact settled.phase_eq
  obtain ⟨count, same, captures⟩ :=
    captures_of_serve underway (congrArg Served.fault served) terminating
  rw [served] at captures
  exact ⟨cycle, _, ended, completes, fresh, same, captures⟩

end FrameCycle
