import FrameCycle.Proofs.Cycle.Loop
import FrameCycle.Proofs.Replay

/-!
The schedule of a whole run. A run that started makes exactly the calls of its plan up to the
capture and the release, and only an error of the upscaler for every frame cuts it short.
-/
namespace FrameCycle

variable {State Store Memory : Type}

namespace Plan

/-- The upscaler for every frame gave these answers; without upscalers nothing errs. -/
def Answered (plan : Plan Memory) (answers : List (Option Error)) : Prop :=
  match plan.upscalers with
  | none => ∀ answer ∈ answers, answer = none
  | some upscalers => ∃ held, upscalers.perFrame.Answers plan.width plan.height
      upscalers.perFrameMemory answers held

theorem Equips.answered {plan : Plan Memory} {answers : List (Option Error)}
    {pipeline : Option (Pipeline Memory)} (equipped : plan.Equips answers pipeline) :
    plan.Answered answers := by
  cases equipped with
  | bare absent quiet => simpa [Answered, absent] using quiet
  | staged present fits answered =>
      simp only [Answered, present]
      exact ⟨_, answered⟩

/-- A run whose upscaler for every frame errs after `made` ticks. -/
def cutShort (plan : Plan Memory) (made : Nat) : List Demand :=
  plan.opening ++ (List.range' 1 made).flatMap plan.tick ++ plan.frame ++ [.release]

end Plan

/-- What the report of a completed run has counted. -/
structure RunReport.Counts (plan : Plan Memory) (report : RunReport) : Prop where
  frames_eq : report.frames.toNat = plan.captureTick
  displayCount : report.display.count.toNat = plan.captureTick
  upscaleCount : report.upscale.map (fun stat => stat.count.toNat) =
    plan.upscalers.map fun _ => plan.captureTick
  captured : report.capture.isSome
  phase_eq : report.phase = .destroyed

theorem Cycle.Over.counts {plan : Plan Memory} {cycle : Cycle State Store Memory}
    (settled : cycle.Over plan (List.replicate plan.captureTick none)) :
    cycle.runReport.Counts plan := by
  have reached := settled.reached
  rw [List.length_replicate] at reached
  refine ⟨reached.frames_eq, reached.displayCount, ?_, settled.reported, rfl⟩
  have upscaleCount := reached.upscaleCount
  have equipped := reached.equipped
  simp only [runReport]
  cases staged : cycle.pipeline with
  | none =>
      rw [staged] at equipped
      cases equipped with
      | bare absent quiet => simp [absent]
  | some pipeline =>
      rw [staged] at equipped
      cases equipped with
      | staged present fits answered => simpa [present] using upscaleCount

namespace Cycle

variable {rig : Rig State Store} {plan : Plan Memory} {cycle before next : Cycle State Store Memory}

/-- A step ends as the upscaler for every frame has it, if that one does not enlarge the frame. -/
theorem erred_of_enlargement {made : Nat} {stop : Stop}
    (underway : cycle.Underway plan (List.replicate made none)) (calm : plan.Calm)
    (failed : cycle.enlargement rig.core = .error stop) :
    ∃ error next, stop = .error error ∧ (step rig).run cycle = .error (.error error) next ∧
      next.Underway plan (List.replicate made none ++ [some error]) := by
  have stepped := stepped_of_underway underway rig
  have answer := enlargement_of_step underway.counted underway.waiting.phase_eq rig
  cases ran : (step rig).run cycle with
  | ok going next =>
      rw [ran] at answer
      cases failed.symm.trans answer
  | error cause next =>
      rw [ran] at stepped answer
      cases stepped with
      | erred underway =>
          cases failed.symm.trans answer
          exact ⟨_, next, rfl, rfl, underway⟩
      | exhausted full running =>
          -- no run has so many ticks before its capture
          have early := underway.early
          have captureTick := plan.config.captureTick.toNat_lt_size
          have sizes : UInt32.size + 1 < UInt64.size := by decide
          rw [passed_replicate, Plan.captureTick] at early
          rw [List.length_replicate] at full
          omega
      | faulted restless => exact absurd calm restless

/-- The loop goes on from wherever single steps have led. -/
theorem run_runToCompletion_of_steps {made : Nat}
    (reached : (stepUpTo rig made).run cycle = .ok true before) :
    (runToCompletion rig).run cycle = (runToCompletion rig).run before := by
  induction made generalizing cycle with
  | zero =>
      cases reached
      rfl
  | succ made inductionHypothesis =>
      obtain ⟨going, next, ran, rest⟩ := run_bind_eq_ok.mp reached
      cases going with
      | true =>
          rw [run_runToCompletion_eq, ran]
          exact inductionHypothesis rest
      | false => cases rest

/-- The answers of a run are the plan's, up to a first frame that is not enlarged. -/
theorem underway_of_steps {made : Nat} (underway : cycle.Underway plan [])
    (reached : (stepUpTo rig made).run cycle = .ok true before) :
    before.Underway plan (List.replicate made none) := by
  have ended := ended_of_underway underway rig made
  rw [reached] at ended
  generalize endsUpTo rig made cycle = ends at ended
  cases ended with
  | on underway => exact underway

/-- Steps that end with an error end with the first one. -/
theorem exists_enlargement_of_steps {answers : List (Option Error)} {count : Nat} {error : Error}
    (underway : cycle.Underway plan answers)
    (ran : (stepUpTo rig count).run cycle = .error (.error error) next) :
    ∃ made before, (stepUpTo rig made).run cycle = .ok true before ∧
      before.enlargement rig.core = .error (.error error) := by
  induction count generalizing answers cycle with
  | zero => cases ran
  | succ count inductionHypothesis =>
      have stepped := stepped_of_underway underway rig
      have answer := enlargement_of_step underway.counted underway.waiting.phase_eq rig
      rw [stepUpTo, EStateM.run_bind] at ran
      cases first : (step rig).run cycle with
      | error stop last =>
          simp only [first] at ran answer
          cases ran
          exact ⟨0, cycle, rfl, answer⟩
      | ok going last =>
          simp only [first] at ran stepped
          cases stepped with
          | captured settled => cases ran
          | ticked onward =>
              obtain ⟨made, before, reached, failed⟩ := inductionHypothesis onward ran
              exact ⟨made + 1, before, (run_stepUpTo_of_step first made).trans reached, failed⟩

/-- A loop that ends with an error has come to a frame that is not enlarged. -/
theorem exists_enlargement_of_run {error : Error} (underway : cycle.Underway plan [])
    (ran : (runToCompletion rig).run cycle = .error (.error error) next) :
    ∃ made before, (stepUpTo rig made).run cycle = .ok true before ∧
      before.enlargement rig.core = .error (.error error) := by
  rw [run_runToCompletion, run_discard] at ran
  cases steps : (stepUpTo rig (UInt32.size - cycle.tick.toNat)).run cycle with
  | ok going last =>
      rw [steps] at ran
      cases ran
  | error stop last =>
      rw [steps] at ran
      cases ran
      exact exists_enlargement_of_steps underway steps

end Cycle

section Run

variable {rig : Rig State Store} {config : Config} {upscalers : Option (Upscalers Memory)}
  {machine : State} {store : Store} {clock : Clock} {cycle before : Cycle State Store Memory}

theorem completed_of_undisturbed
    (started : Cycle.start rig config upscalers (.ready machine store clock) = .started cycle)
    (positive : 0 < config.captureTick) (calm : (rig.plan config upscalers machine).Calm)
    (undisturbed : cycle.Undisturbed rig) :
    let plan := rig.plan config upscalers machine
    let ended := run rig config upscalers (.ready machine store clock)
    ∃ report shown stored,
      ended.1 = .completed report ∧ report.Counts plan ∧
      .write (plan.image originalFile) shown stored ∈ ended.2.calls ∧
      ended.2.demands = plan.schedule (plan.enlarges shown) := by
  intro plan ended
  have underway : cycle.Underway plan [] := Cycle.underway_of_start started positive
  have finish := Cycle.finish_of_underway underway rig
  have outcome : ended = run rig config upscalers (.ready machine store clock) := rfl
  simp only [run, started] at outcome
  cases ran : (Cycle.runToCompletion rig).run cycle with
  | error stop next =>
      rw [ran] at finish
      cases finish with
      | faulted restless => exact absurd calm restless
      | erred =>
          obtain ⟨made, before, reached, failed⟩ := Cycle.exists_enlargement_of_run underway ran
          cases (undisturbed made before reached).symm.trans failed
  | ok done last =>
      rw [ran] at finish
      simp only [ran] at outcome
      cases finish with
      | settled settled =>
          have calls : ended.2.calls = last.bench.calls ++ [.release] := by
            rw [outcome, Bench.calls_log, Bench.calls_finish]
          obtain ⟨stored, written⟩ := settled.captured
          refine ⟨last.runReport, last.frame, stored, congrArg Prod.fst outcome, settled.counts,
            calls ▸ List.mem_append_left _ written, ?_⟩
          rw [Bench.demands_released calls, settled.reached.demands_eq, plan.walk_replicate]
          simp only [Plan.schedule, Nat.zero_add, List.append_assoc]

theorem stopped_of_enlargement
    (started : Cycle.start rig config upscalers (.ready machine store clock) = .started cycle)
    (positive : 0 < config.captureTick) (calm : (rig.plan config upscalers machine).Calm)
    {made : Nat} {stop : Stop} (reached : (Cycle.stepUpTo rig made).run cycle = .ok true before)
    (failed : before.enlargement rig.core = .error stop) :
    let plan := rig.plan config upscalers machine
    let ended := run rig config upscalers (.ready machine store clock)
    made < plan.captureTick ∧ (∃ error, stop = .error error) ∧ ended.1 = .stopped stop ∧
      ended.2.demands = plan.cutShort made := by
  intro plan ended
  have underway : before.Underway plan (List.replicate made none) :=
    Cycle.underway_of_steps (Cycle.underway_of_start started positive) reached
  have early : made < plan.captureTick := by
    have early := underway.early
    rwa [passed_replicate] at early
  obtain ⟨error, next, rfl, ran, erred⟩ := Cycle.erred_of_enlargement underway calm failed
  have outcome : ended = (.stopped (.error error), next.abandon rig) := by
    simp only [ended, run, started, Cycle.run_runToCompletion_of_steps reached]
    rw [Cycle.run_runToCompletion_eq, ran]
  have calls : ended.2.calls = next.bench.calls ++ [.release] := by
    rw [outcome, Bench.calls_abandon]
  refine ⟨early, ⟨error, rfl⟩, congrArg Prod.fst outcome, ?_⟩
  rw [Bench.demands_released calls, erred.reached.demands_eq, plan.walk_concat_some,
    plan.walk_replicate]
  simp only [Plan.cutShort, Nat.zero_add, List.append_assoc]

/-- A run that started completes its schedule if no frame of it errs in the upscaler for every
frame; if one does, the run ends with the error of the first such frame, after it. What the journal
says has been done to the machine and the store. -/
theorem run_schedule
    (started : Cycle.start rig config upscalers (.ready machine store clock) = .started cycle)
    (positive : 0 < config.captureTick) (calm : (rig.plan config upscalers machine).Calm) :
    let plan := rig.plan config upscalers machine
    let ended := run rig config upscalers (.ready machine store clock)
    rig.Replays machine store ended.2.calls ended.2.machine ended.2.store ∧
    (cycle.Undisturbed rig →
      ∃ report shown stored,
        ended.1 = .completed report ∧ report.Counts plan ∧
        .write (plan.image originalFile) shown stored ∈ ended.2.calls ∧
        ended.2.demands = plan.schedule (plan.enlarges shown)) ∧
    (∀ made before error, (Cycle.stepUpTo rig made).run cycle = .ok true before →
      before.enlargement rig.core = .error (.error error) →
      made < plan.captureTick ∧ ended.1 = .stopped (.error error) ∧
        ended.2.demands = plan.cutShort made) ∧
    (cycle.Undisturbed rig ∨
      ∃ made before error, (Cycle.stepUpTo rig made).run cycle = .ok true before ∧
        before.enlargement rig.core = .error (.error error)) := by
  intro plan ended
  refine ⟨WayOut.run.replays, completed_of_undisturbed started positive calm, ?_, ?_⟩
  · intro made before error reached failed
    obtain ⟨early, -, outcome, demands⟩ :=
      stopped_of_enlargement started positive calm reached failed
    exact ⟨early, outcome, demands⟩
  · by_cases undisturbed : cycle.Undisturbed rig
    · exact .inl undisturbed
    · unfold Cycle.Undisturbed at undisturbed
      push Not at undisturbed
      obtain ⟨made, before, reached, disturbed⟩ := undisturbed
      cases failed : before.enlargement rig.core with
      | ok done => exact absurd failed disturbed
      | error stop =>
          obtain ⟨-, ⟨error, rfl⟩, -⟩ :=
            stopped_of_enlargement started positive calm reached failed
          exact .inr ⟨made, before, error, reached, failed⟩

end Run

theorem not_completed_of_erringAt :
    ∀ report, (run .testCard .short (some (.erringAt {1})) .testCard).1 ≠ .completed report := by
  obtain ⟨cycle, started⟩ : ∃ cycle,
      Cycle.start .testCard .short (some (.erringAt {1})) .testCard = .started cycle := ⟨_, rfl⟩
  intro report completed
  have ran := ran_of_start started (by decide)
  change Ran _ (run .testCard .short (some (.erringAt {1})) .testCard) at ran
  generalize run .testCard .short (some (.erringAt {1})) .testCard = ended at completed ran
  cases ran with
  | completed settled calls =>
      obtain ⟨calls, answered⟩ := settled.reached.equipped.answered
      obtain ⟨rfl, listed⟩ := Upscaler.erringAt_answers answered
      change List.replicate 3 none = (List.range 3).map _ at listed
      exact absurd listed (by decide)
  | erred early underway calls => cases completed
  | faulted restless => cases completed

/-- Without a frame that errs the run is completed, and with the second of three it is cut short. -/
theorem run_schedule_testCard :
    (∃ cycle, Cycle.start .testCard .short (some (.erringAt ∅)) .testCard = .started cycle ∧
      cycle.Undisturbed .testCard ∧
      let plan := Rig.testCard.plan .short (some (.erringAt ∅)) (.unbound .standard)
      let ended := run .testCard .short (some (.erringAt ∅)) .testCard
      ∃ report shown,
        ended.1 = .completed report ∧ ended.2.demands = plan.schedule (plan.enlarges shown)) ∧
    let plan := Rig.testCard.plan .short (some (.erringAt {1})) (.unbound .standard)
    let ended := run .testCard .short (some (.erringAt {1})) .testCard
    ∃ made error, made < plan.captureTick ∧ ended.1 = .stopped (.error error) ∧
      ended.2.demands = plan.cutShort made := by
  have positive : 0 < Config.short.captureTick := by decide
  constructor
  · obtain ⟨cycle, started⟩ : ∃ cycle,
        Cycle.start .testCard .short (some (.erringAt ∅)) .testCard = .started cycle := ⟨_, rfl⟩
    have calm : (Rig.testCard.plan .short (some (.erringAt ∅)) (.unbound .standard)).Calm :=
      Plan.calm_of_erringAt rfl
    obtain ⟨-, completes, -, undisturbed | ⟨made, before, error, reached, failed⟩⟩ :=
      run_schedule started positive calm
    · obtain ⟨report, shown, stored, outcome, counts, written, demands⟩ := completes undisturbed
      exact ⟨cycle, started, undisturbed, report, shown, outcome, demands⟩
    · have underway := Cycle.underway_of_steps (Cycle.underway_of_start started positive) reached
      obtain ⟨cause, next, -, -, erred⟩ := Cycle.erred_of_enlargement underway calm failed
      obtain ⟨held, answered⟩ := erred.reached.equipped.answered
      exact absurd (Upscaler.erringAt_errsOnlyAt _ _ _ _ _ answered) (Finset.notMem_empty _)
  · obtain ⟨cycle, started⟩ : ∃ cycle,
        Cycle.start .testCard .short (some (.erringAt {1})) .testCard = .started cycle := ⟨_, rfl⟩
    obtain ⟨-, completes, stops, undisturbed | ⟨made, before, error, reached, failed⟩⟩ :=
      run_schedule started positive (Plan.calm_of_erringAt rfl)
    · obtain ⟨report, -, -, outcome, -⟩ := completes undisturbed
      exact absurd outcome (not_completed_of_erringAt report)
    · exact ⟨made, error, stops made before error reached failed⟩

/-- Here the second of three frames errs, and the run is not completed. -/
theorem run_erring_not_completed :
    let upscalers := Upscalers.erringAt {1}
    (∃ cycle, Cycle.start .testCard .short (some upscalers) .testCard = .started cycle) ∧
      0 < Config.short.captureTick ∧
      (Rig.testCard.plan .short (some upscalers) (.unbound .standard)).Calm ∧
      ∀ report, (run .testCard .short (some upscalers) .testCard).1 ≠ .completed report :=
  ⟨⟨_, rfl⟩, by decide, Plan.calm_of_erringAt rfl, not_completed_of_erringAt⟩

end FrameCycle
