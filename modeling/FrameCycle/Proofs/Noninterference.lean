import FrameCycle.Proofs.Cycle.Turn
import FrameCycle.Proofs.Cycle.Use
import FrameCycle.Proofs.Resume
import FrameCycle.Proofs.Run

/-!
What a machine is asked for depends on the script, on the tick of the capture and on the frames that
the upscaler errs on. Two runs that agree in these look the same to their machines, whatever images
are written, whatever snapshots load and whatever is shown.
-/
namespace FrameCycle

variable {State Store Memory : Type}

namespace Demand

/-- What is asked of the machine, not of an upscaler or of the image store. -/
def isCore : Demand → Bool
  | upscale _ _ | write _ _ _ => false
  | _ => true

theorem isCore_of_isInput {demand : Demand} (input : demand.isInput = true) :
    demand.isCore = true := by
  cases demand <;> simp [isInput, isCore] at input ⊢

theorem not_isCore_of_isWrite_or_isUpscale {demand : Demand}
    (other : demand.isWrite = true ∨ demand.isUpscale = true) : demand.isCore = false := by
  cases demand <;> simp [isWrite, isUpscale, isCore] at other ⊢

end Demand

namespace Cycle

/-- The numbers, from `number` on, of the frames on which the upscaler for every frame errs, as far
as up to `count` steps go. -/
def failuresFrom (rig : Rig State Store) :
    (count number : Nat) → Cycle State Store Memory → List Nat
  | 0, _, _ => []
  | count + 1, number, cycle =>
      if cycle.phase = .running then
        let here := if (cycle.enlargement rig.core).isOk then [] else [number]
        match (step rig).run cycle with
        | .ok _ next => here ++ failuresFrom rig count (number + 1) next
        | .error _ _ => here
      else []

/-- The numbers of the frames on which the upscaler for every frame errs, in a run from here. -/
def failures (rig : Rig State Store) (cycle : Cycle State Store Memory) : List Nat :=
  failuresFrom rig (UInt32.size - cycle.tick.toNat) 0 cycle

/-- Steps that went well had no failures, and an error is the failure of the frame it ends on. -/
theorem failuresFrom_of_underway {plan : Plan Memory} {answers : List (Option Error)}
    {cycle : Cycle State Store Memory} (underway : cycle.Underway plan answers)
    (rig : Rig State Store) (count number : Nat) :
    match (stepUpTo rig count).run cycle with
    | .ok _ _ => failuresFrom rig count number cycle = []
    | .error (.error _) next => ∃ made, next.frames.toNat = cycle.frames.toNat + made + 1 ∧
        failuresFrom rig count number cycle = [number + made]
    | .error (.fault _) _ => True := by
  induction count generalizing answers cycle number with
  | zero => rfl
  | succ count inductionHypothesis =>
      have stepped := stepped_of_underway underway rig
      have answer := enlargement_of_step underway.counted underway.waiting.phase_eq rig
      have running := underway.waiting.phase_eq
      have frames := underway.reached.frames_eq
      simp only [stepUpTo, EStateM.run_bind, failuresFrom, if_pos running]
      generalize (step rig).run cycle = result at stepped answer ⊢
      cases stepped with
      | @ticked next underway =>
          have nextFrames := underway.reached.frames_eq
          have further := inductionHypothesis underway (number + 1)
          simp only at answer
          simp only [answer, Except.isOk, Except.toBool, ↓reduceIte, List.nil_append]
          split
          · next ended => simpa only [ended] using further
          · next error last ended =>
              simp only [ended] at further
              obtain ⟨made, lastFrames, failures⟩ := further
              refine ⟨made + 1, ?_, ?_⟩
              · rw [List.length_append, List.length_singleton] at nextFrames
                omega
              · rw [failures]
                congr 1
                omega
          · trivial
      | @captured next settled =>
          have idle : next.phase ≠ .running := by simp [settled.phase_eq]
          simp only at answer
          have nothing : failuresFrom rig count (number + 1) next = [] := by
            cases count with
            | zero => rfl
            | succ count => simp only [failuresFrom, if_neg idle]
          simp [answer, Except.isOk, Except.toBool, nothing]
      | @erred error next underway =>
          have nextFrames := underway.reached.frames_eq
          rw [List.length_append, List.length_singleton] at nextFrames
          simp only at answer
          exact ⟨0, by omega, by simp [answer, Except.isOk, Except.toBool]⟩
      | exhausted full running => trivial
      | faulted restless => trivial

end Cycle

namespace Plan

/-- What a tick asks of the machine. -/
def coreTick (plan : Plan Memory) (tick : Nat) : List Demand :=
  .advance :: .display :: plan.actions tick

theorem filter_isCore_opening (plan : Plan Memory) :
    plan.opening.filter Demand.isCore =
      [.create plan.config.createParams, .audio 0 silence, .audio 1 silence] := by
  unfold opening
  split <;> rfl

theorem filter_isCore_frame (plan : Plan Memory) :
    plan.frame.filter Demand.isCore = [.advance, .display] := by
  unfold frame
  cases plan.upscalers <;> rfl

theorem filter_isCore_tick (plan : Plan Memory) (tick : Nat) :
    (plan.tick tick).filter Demand.isCore = plan.coreTick tick := by
  have actions : (plan.actions tick).filter Demand.isCore = plan.actions tick :=
    List.filter_eq_self.mpr fun demand member =>
      Demand.isCore_of_isInput (isInput_of_mem_actions member)
  rw [Plan.tick, List.filter_append, filter_isCore_frame, actions]
  rfl

theorem filter_isCore_shots (plan : Plan Memory) (enlarged : Bool) :
    (plan.shots enlarged).filter Demand.isCore = [] := by
  apply List.filter_eq_nil_iff.mpr
  intro demand member
  simp [Demand.not_isCore_of_isWrite_or_isUpscale (isWrite_or_isUpscale_of_mem_shots member)]

theorem filter_isCore_walk (plan : Plan Memory) (count : Nat) :
    (plan.walk 0 (List.replicate count none)).filter Demand.isCore =
      (List.range' 1 count).flatMap plan.coreTick := by
  rw [walk_replicate, List.filter_flatMap]
  exact List.flatMap_congr fun tick _ => plan.filter_isCore_tick tick

/-- All that a run asks of its machine that passes `count` ticks, and then errs on a frame or
not. -/
def coreDemands (plan : Plan Memory) (count : Nat) (errs : Bool) : List Demand :=
  [.create plan.config.createParams, .audio 0 silence, .audio 1 silence] ++
    (List.range' 1 count).flatMap plan.coreTick ++
    (if errs then [.advance, .display] else []) ++ [.release]

theorem filter_isCore_completed (plan : Plan Memory) (count : Nat) (enlarged : Bool) :
    (plan.opening ++ (plan.walk 0 (List.replicate count none) ++ plan.shots enlarged) ++
      [Demand.release]).filter Demand.isCore = plan.coreDemands count false := by
  simp only [List.filter_append, filter_isCore_opening, filter_isCore_walk, filter_isCore_shots]
  simp [coreDemands, Demand.isCore]

theorem filter_isCore_erred (plan : Plan Memory) (count : Nat) :
    (plan.opening ++ (plan.walk 0 (List.replicate count none) ++ plan.frame) ++
      [Demand.release]).filter Demand.isCore = plan.coreDemands count true := by
  simp only [List.filter_append, filter_isCore_opening, filter_isCore_walk, filter_isCore_frame]
  simp [coreDemands, Demand.isCore]

end Plan

namespace Cycle

theorem failures_of_underway {plan : Plan Memory} {cycle : Cycle State Store Memory}
    (underway : cycle.Underway plan []) (rig : Rig State Store) :
    match (runToCompletion rig).run cycle with
    | .ok _ _ => cycle.failures rig = []
    | .error (.error _) next => ∃ made, next.frames.toNat = made + 1 ∧
        cycle.failures rig = [made]
    | .error (.fault _) _ => True := by
  have frames : cycle.frames.toNat = 0 := underway.reached.frames_eq
  have failures := failuresFrom_of_underway underway rig (UInt32.size - cycle.tick.toNat) 0
  rw [run_runToCompletion, run_discard]
  simp only [frames, Nat.zero_add] at failures
  unfold Cycle.failures
  generalize (stepUpTo rig (UInt32.size - cycle.tick.toNat)).run cycle = result at failures ⊢
  rcases result with ⟨going, next⟩ | ⟨error | fault, next⟩
  · exact failures
  · exact failures
  · trivial

/-- What a machine, and whoever counts frames, see of a run from here that ends without a fault. -/
structure Seen (plan : Plan Memory) (rig : Rig State Store) (cycle : Cycle State Store Memory)
    (count : Nat) (errs : Bool) (ended : RunOutcome × Bench State Store) : Prop where
  frames_eq : (cycle.after (runToCompletion rig)).frames.toNat = count + errs.toNat
  displayCount : (cycle.after (runToCompletion rig)).displayStat.count.toNat = count + errs.toNat
  demands_eq : ended.2.demands.filter Demand.isCore = plan.coreDemands count errs
  completed : errs = false → ended.1 = .completed (cycle.after (runToCompletion rig)).runReport
  erred : errs = true → ∃ error, ended.1 = .stopped (.error error)

end Cycle

theorem seen_of_start {rig : Rig State Store} {config : Config}
    {upscalers : Option (Upscalers Memory)} {machine : State} {store : Store} {clock : Clock}
    {cycle : Cycle State Store Memory}
    (started : Cycle.start rig config upscalers (.ready machine store clock) = .started cycle)
    (positive : 0 < config.captureTick)
    (whole : ∀ fault,
      (run rig config upscalers (.ready machine store clock)).1 ≠ .stopped (.fault fault)) :
    let plan := rig.plan config upscalers machine
    let ended := run rig config upscalers (.ready machine store clock)
    (cycle.failures rig = [] ∧ cycle.Seen plan rig plan.captureTick false ended) ∨
      ∃ made, cycle.failures rig = [made] ∧ cycle.Seen plan rig made true ended := by
  intro plan ended
  have underway : cycle.Underway plan [] := Cycle.underway_of_start started positive
  have finish := Cycle.finish_of_underway underway rig
  have failures := Cycle.failures_of_underway underway rig
  have after : cycle.after (Cycle.runToCompletion rig) =
      match (Cycle.runToCompletion rig).run cycle with
      | .ok _ next => next
      | .error _ next => next := by
    unfold Cycle.after
    cases (Cycle.runToCompletion rig).run cycle <;> rfl
  have outcome : ended = run rig config upscalers (.ready machine store clock) := rfl
  simp only [run, started] at outcome
  change ∀ fault, ended.1 ≠ .stopped (.fault fault) at whole
  clear_value ended plan
  generalize (Cycle.runToCompletion rig).run cycle = result at finish failures after outcome
  cases finish with
  | @settled next settled =>
      simp only at failures after outcome
      have reached := settled.reached
      rw [List.length_replicate] at reached
      refine .inl ⟨failures, ?_, ?_, ?_, fun _ => ?_, fun errs => absurd errs Bool.false_ne_true⟩
      · rw [after, reached.frames_eq]
        rfl
      · rw [after, reached.displayCount]
        rfl
      · have calls : ended.2.calls = next.bench.calls ++ [.release] := by
          rw [outcome, Bench.calls_log, Bench.calls_finish]
        rw [Bench.demands_released calls, reached.demands_eq, plan.filter_isCore_completed]
      · rw [after, outcome]
        rfl
  | @erred made error next early underway =>
      simp only at failures after outcome
      obtain ⟨number, frames, failures⟩ := failures
      have reached := underway.reached
      have same : number = made := by
        have := reached.frames_eq
        simp only [List.length_append, List.length_replicate, List.length_singleton] at this
        omega
      subst same
      refine .inr ⟨number, failures, ?_, ?_, ?_, fun whole => absurd whole.symm Bool.false_ne_true,
        fun _ => ⟨error, by rw [outcome]⟩⟩
      · rw [after, frames]
        rfl
      · rw [after, reached.displayCount]
        simp
      · have calls : ended.2.calls = next.bench.calls ++ [.release] := by
          rw [outcome, Bench.calls_abandon]
        rw [Bench.demands_released calls, reached.demands_eq, plan.walk_concat_some,
          plan.filter_isCore_erred]
  | @faulted fault next restless => exact absurd (congrArg Prod.fst outcome) (whole fault)

namespace Cycle.Seen

variable {plan : Plan Memory} {rig : Rig State Store} {cycle : Cycle State Store Memory}
  {count : Nat} {errs : Bool} {ended : RunOutcome × Bench State Store}

theorem completed_iff (seen : cycle.Seen plan rig count errs ended) :
    (∃ report, ended.1 = .completed report) ↔ errs = false := by
  constructor
  · rintro ⟨report, completed⟩
    cases errs with
    | false => rfl
    | true =>
        obtain ⟨error, erred⟩ := seen.erred rfl
        rw [erred] at completed
        cases completed
  · exact fun whole => ⟨_, seen.completed whole⟩

theorem erred_iff (seen : cycle.Seen plan rig count errs ended) :
    (∃ error, ended.1 = .stopped (.error error)) ↔ errs = true := by
  constructor
  · rintro ⟨error, erred⟩
    cases errs with
    | false =>
        rw [seen.completed rfl] at erred
        cases erred
    | true => rfl
  · exact seen.erred

theorem counts_of_completed (seen : cycle.Seen plan rig count errs ended) {report : RunReport}
    (completed : ended.1 = .completed report) :
    report.frames.toNat = count ∧ report.display.count.toNat = count := by
  have whole : errs = false := seen.completed_iff.mp ⟨report, completed⟩
  subst whole
  have same := seen.completed rfl
  rw [completed] at same
  cases same
  exact ⟨seen.frames_eq, seen.displayCount⟩

end Cycle.Seen

/-- A run whose upscaler for every frame never errs, or is absent, has no failures. -/
theorem failures_eq_nil_of_start {rig : Rig State Store} {config : Config}
    {upscalers : Option (Upscalers Memory)} {machine : State} {store : Store} {clock : Clock}
    {cycle : Cycle State Store Memory}
    (started : Cycle.start rig config upscalers (.ready machine store clock) = .started cycle)
    (positive : 0 < config.captureTick) :
    let plan := rig.plan config upscalers machine
    let ended := run rig config upscalers (.ready machine store clock)
    plan.Calm → plan.ErrsOnlyAt ∅ →
      (∀ fault, ended.1 ≠ .stopped (.fault fault)) ∧ cycle.failures rig = [] := by
  intro plan ended calm never
  have ran : Ran plan ended := ran_of_start started positive
  have completed : ∃ report, ended.1 = .completed report := by
    clear_value ended
    cases ran with
    | completed settled calls => exact ⟨_, rfl⟩
    | @erred made error cycle bench early underway calls =>
        have none := underway.reached.equipped.failed_le_card never
        simp [failed] at none
    | faulted restless => exact absurd calm restless
  obtain ⟨report, completed⟩ := completed
  have whole : ∀ fault, ended.1 ≠ .stopped (.fault fault) := by
    intro fault
    simp [completed]
  refine ⟨whole, ?_⟩
  rcases seen_of_start started positive whole with ⟨none, seen⟩ | ⟨made, failed, seen⟩
  · exact none
  · cases seen.completed_iff.mp ⟨report, completed⟩

section TwoRuns

variable {State' Store' Memory' : Type}

/-- What is asked of the machine depends on the configuration but for its grid and its directory. -/
theorem Plan.coreDemands_congr {plan : Plan Memory} {otherPlan : Plan Memory'}
    (config : otherPlan.config = { plan.config with
      grid := otherPlan.config.grid, outputDir := otherPlan.config.outputDir })
    (count : Nat) (errs : Bool) :
    otherPlan.coreDemands count errs = plan.coreDemands count errs := by
  have script : otherPlan.config.script = plan.config.script := by rw [config]
  have snapshot : otherPlan.config.snapshot = plan.config.snapshot := by rw [config]
  have params : otherPlan.config.createParams = plan.config.createParams := by
    rw [config]
    rfl
  have ticks : otherPlan.coreTick = plan.coreTick := by
    funext tick
    simp only [coreTick, actions, script, snapshot]
  simp only [coreDemands, params, ticks]

/-- Take two runs, without a fault, whose configurations differ at most in the grid and in the
directory that images go to, and whose upscalers for every frame err on the same frames. Whatever
their machines show and load, their stores take and their upscalers make of a frame, the two ask
the same of their machines, count the same frames, and both complete or both err. -/
theorem run_noninterferes {config otherConfig : Config} (positive : 0 < config.captureTick)
    (alike : otherConfig = { config with
      grid := otherConfig.grid, outputDir := otherConfig.outputDir })
    {rig : Rig State Store} {upscalers : Option (Upscalers Memory)} {machine : State}
    {store : Store} {clock : Clock} {cycle : Cycle State Store Memory}
    (started : Cycle.start rig config upscalers (.ready machine store clock) = .started cycle)
    {otherRig : Rig State' Store'} {otherUpscalers : Option (Upscalers Memory')}
    {otherMachine : State'} {otherStore : Store'} {otherClock : Clock}
    {otherCycle : Cycle State' Store' Memory'}
    (otherStarted : Cycle.start otherRig otherConfig otherUpscalers
      (.ready otherMachine otherStore otherClock) = .started otherCycle) :
    let ended := run rig config upscalers (.ready machine store clock)
    let otherEnded := run otherRig otherConfig otherUpscalers
      (.ready otherMachine otherStore otherClock)
    let last := cycle.after (Cycle.runToCompletion rig)
    let otherLast := otherCycle.after (Cycle.runToCompletion otherRig)
    (∀ fault, ended.1 ≠ .stopped (.fault fault)) →
    (∀ fault, otherEnded.1 ≠ .stopped (.fault fault)) →
    cycle.failures rig = otherCycle.failures otherRig →
    otherEnded.2.demands.filter Demand.isCore = ended.2.demands.filter Demand.isCore ∧
    otherLast.frames = last.frames ∧
    otherLast.displayStat.count = last.displayStat.count ∧
    ((∃ report, otherEnded.1 = .completed report) ↔ ∃ report, ended.1 = .completed report) ∧
    ((∃ error, otherEnded.1 = .stopped (.error error)) ↔
      ∃ error, ended.1 = .stopped (.error error)) ∧
    (∀ report otherReport, ended.1 = .completed report → otherEnded.1 = .completed otherReport →
      otherReport.frames = report.frames ∧
      otherReport.display.count = report.display.count) := by
  intro ended otherEnded last otherLast whole otherWhole failures
  have otherPositive : 0 < otherConfig.captureTick := by
    rw [alike]
    exact positive
  -- both runs make the same number of ticks, and both err after them or neither does
  obtain ⟨count, errs, seen, otherSeen⟩ : ∃ count errs,
      cycle.Seen (rig.plan config upscalers machine) rig count errs ended ∧
      otherCycle.Seen (otherRig.plan otherConfig otherUpscalers otherMachine) otherRig count errs
        otherEnded := by
    have captureTick : (otherRig.plan otherConfig otherUpscalers otherMachine).captureTick =
        (rig.plan config upscalers machine).captureTick := by
      change otherConfig.captureTick.toNat = config.captureTick.toNat
      rw [alike]
    rcases seen_of_start started positive whole with
      ⟨none, seen⟩ | ⟨made, failed, seen⟩ <;>
    rcases seen_of_start otherStarted otherPositive otherWhole with
      ⟨otherNone, otherSeen⟩ | ⟨otherMade, otherFailed, otherSeen⟩
    · exact ⟨_, _, seen, captureTick ▸ otherSeen⟩
    · simp [none, otherFailed] at failures
    · simp [failed, otherNone] at failures
    · rw [failed, otherFailed, List.singleton_inj] at failures
      exact ⟨_, _, seen, failures ▸ otherSeen⟩
  refine ⟨?_, ?_, ?_, ?_, ?_, ?_⟩
  · rw [seen.demands_eq, otherSeen.demands_eq]
    exact Plan.coreDemands_congr alike count errs
  · exact UInt64.toNat_inj.mp (otherSeen.frames_eq.trans seen.frames_eq.symm)
  · exact UInt64.toNat_inj.mp (otherSeen.displayCount.trans seen.displayCount.symm)
  · rw [seen.completed_iff, otherSeen.completed_iff]
  · rw [seen.erred_iff, otherSeen.erred_iff]
  · intro report otherReport completed otherCompleted
    obtain ⟨frames, displayCount⟩ := seen.counts_of_completed completed
    obtain ⟨otherFrames, otherDisplayCount⟩ := otherSeen.counts_of_completed otherCompleted
    exact ⟨UInt64.toNat_inj.mp (otherFrames.trans frames.symm),
      UInt64.toNat_inj.mp (otherDisplayCount.trans displayCount.symm)⟩

/-- A machine that shows a test card, and a store that takes no image. -/
def Rig.full : Rig (Machine.Instance Machine.TestCard) Unit where
  core := Machine.TestCard.library.core
  sink := ⟨fun store _ _ => (.error (.bufferSize 1 0), store)⟩

def Config.gridless : Config :=
  { short with grid := false, outputDir := .ofString "out" }

def Machine.TestCard.small : TestCard := ⟨7, 4, 3, 0, 0, 5⟩

/-- One run writes a grid, loads its snapshots and enlarges nothing. The other writes nothing, loads
none, has a smaller display and enlarges it. -/
theorem run_noninterferes_testCard :
    (run .full .gridless (some (.erringAt ∅))
      (.ready (.unbound .small) () (.ofReadings fun _ => 5))).2.demands.filter Demand.isCore =
    (run .testCard .short (none : Option (Upscalers Nat)) .testCard).2.demands.filter
      Demand.isCore := by
  obtain ⟨cycle, started⟩ : ∃ cycle,
      Cycle.start .testCard .short (none : Option (Upscalers Nat)) .testCard = .started cycle :=
    ⟨_, rfl⟩
  obtain ⟨otherCycle, otherStarted⟩ : ∃ cycle,
      Cycle.start .full .gridless (some (.erringAt ∅))
        (.ready (.unbound .small) () (.ofReadings fun _ => 5)) = .started cycle := ⟨_, rfl⟩
  obtain ⟨whole, failures⟩ := failures_eq_nil_of_start started (by decide) nofun nofun
  obtain ⟨otherWhole, otherFailures⟩ := failures_eq_nil_of_start otherStarted (by decide)
    (Plan.calm_of_erringAt rfl) (Plan.errsOnlyAt_of_erringAt rfl)
  exact (run_noninterferes (by decide) rfl started otherStarted whole otherWhole
    (failures.trans otherFailures.symm)).1

end TwoRuns

end FrameCycle
