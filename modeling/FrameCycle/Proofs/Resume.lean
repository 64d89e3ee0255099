import FrameCycle.Proofs.Cycle.Service

/-!
Going on after errors. A step that errs repeats the frame and nothing else, so a caller who takes
single steps until the cycle is over sees the inputs and the images of a run without errors.
-/
namespace FrameCycle

variable {State Store Memory : Type}

/-- Single steps; the caller goes on after errors. -/
def steps (rig : Rig State Store) (cycle : Cycle State Store Memory) (count : Nat) :
    Served State Store Memory :=
  serve rig cycle (List.replicate count .step)

theorem steps_succ (rig : Rig State Store) (cycle : Cycle State Store Memory) (count : Nat) :
    steps rig cycle (count + 1) = (steps rig cycle count).obey rig .step := by
  simp [steps, serve, List.replicate_succ', List.foldl_append]

namespace Served

theorem obey_step {cycle : Cycle State Store Memory} (running : cycle.phase = .running)
    (ends : List (Option Error)) (rig : Rig State Store) :
    (⟨ends, cycle, none⟩ : Served State Store Memory).obey rig .step =
      match (Cycle.step rig).run cycle with
      | .ok _ next => ⟨ends ++ [none], next, none⟩
      | .error (.error error) next => ⟨ends ++ [some error], next, none⟩
      | .error (.fault fault) next => ⟨ends, next, some fault⟩ := by
  simp only [obey, Order.work, Cycle.run_discard, Order.ends, Order.limit, Cycle.endsUpTo,
    if_pos running]
  rcases (Cycle.step rig).run cycle with ⟨going, next⟩ | ⟨error | fault, next⟩ <;> simp

theorem obey_step_idle {cycle : Cycle State Store Memory} (idle : cycle.phase ≠ .running)
    (ends : List (Option Error)) (rig : Rig State Store) :
    (⟨ends, cycle, none⟩ : Served State Store Memory).obey rig .step = ⟨ends, cycle, none⟩ := by
  simp only [obey, Order.work, Cycle.run_discard, Cycle.run_step_idle cycle rig idle, Order.ends,
    Cycle.endsUpTo_idle idle, List.append_nil]

/-- Where `count` single steps lead; each step of a running cycle is one more end. -/
inductive Paced (plan : Plan Memory) (count : Nat) : Served State Store Memory → Prop where
  | underway {ends : List (Option Error)} {cycle : Cycle State Store Memory} :
      cycle.Underway plan ends → ends.length = count → Paced plan count ⟨ends, cycle, none⟩
  | settled {ends : List (Option Error)} {cycle : Cycle State Store Memory} :
      cycle.Over plan ends → Paced plan count ⟨ends, cycle, none⟩
  | exhausted {ends : List (Option Error)} {cycle : Cycle State Store Memory} :
      ends.length + 1 = UInt64.size → ends.length < count → cycle.phase = .running →
      Paced plan count ⟨ends, cycle, some .addOverflow⟩

theorem paced_obey {plan : Plan Memory} (calm : plan.Calm) {count : Nat}
    {served : Served State Store Memory} (paced : served.Paced plan count)
    (rig : Rig State Store) : (served.obey rig .step).Paced plan (count + 1) := by
  cases paced with
  | @underway ends cycle underway many =>
      have stepped := Cycle.stepped_of_underway underway rig
      rw [obey_step underway.waiting.phase_eq]
      generalize (Cycle.step rig).run cycle = result at stepped ⊢
      cases stepped with
      | ticked underway => exact .underway underway (by simp [many])
      | captured settled => exact .settled settled
      | erred underway => exact .underway underway (by simp [many])
      | exhausted full running => exact .exhausted full (by omega) running
      | faulted restless => exact absurd calm restless
  | settled settled =>
      rw [obey_step_idle (by simp [settled.phase_eq])]
      exact .settled settled
  | exhausted full few running => exact .exhausted full (by omega) running

end Served

theorem paced_steps {plan : Plan Memory} (calm : plan.Calm) {cycle : Cycle State Store Memory}
    (underway : cycle.Underway plan []) (rig : Rig State Store) (count : Nat) :
    (steps rig cycle count).Paced plan count := by
  induction count with
  | zero => exact .underway underway rfl
  | succ count inductionHypothesis =>
      rw [steps_succ]
      exact Served.paced_obey calm inductionHypothesis rig

namespace Plan

/-- The upscaler for every frame, if there is one, errs in no calls but those with these numbers. -/
def ErrsOnlyAt (plan : Plan Memory) (numbers : Finset Nat) : Prop :=
  ∀ upscalers, plan.upscalers = some upscalers → upscalers.perFrame.ErrsOnlyAt plan.width
    plan.height upscalers.perFrameMemory numbers

theorem errsOnlyAt_of_erringAt {plan : Plan Nat} {numbers : Finset Nat}
    (present : plan.upscalers = some (.erringAt numbers)) : plan.ErrsOnlyAt numbers := by
  intro upscalers same
  rw [present] at same
  cases same
  exact Upscaler.erringAt_errsOnlyAt plan.width plan.height

theorem Equips.failed_le_card {plan : Plan Memory} {ends : List (Option Error)}
    {pipeline : Option (Pipeline Memory)} (equipped : plan.Equips ends pipeline)
    {numbers : Finset Nat} (errsOnlyAt : plan.ErrsOnlyAt numbers) :
    failed ends ≤ numbers.card := by
  cases equipped with
  | bare absent quiet =>
      have none : failed ends = 0 := by
        apply List.countP_eq_zero.mpr
        intro answer member
        simp [quiet answer member]
      omega
  | staged present fits answered =>
      exact Upscaler.failed_le_card (errsOnlyAt _ present) answered

theorem filter_isInput_opening (plan : Plan Memory) :
    plan.opening.filter Demand.isInput = [.audio 0 silence, .audio 1 silence] := by
  unfold opening
  split <;> simp [Demand.isInput]

theorem filter_isInput_shots (plan : Plan Memory) (enlarged : Bool) :
    (plan.shots enlarged).filter Demand.isInput = [] := by
  apply List.filter_eq_nil_iff.mpr
  intro demand member
  have := isWrite_or_isUpscale_of_mem_shots member
  cases demand <;> simp [Demand.isInput, Demand.isWrite, Demand.isUpscale] at this ⊢

theorem filter_isWrite_walk (plan : Plan Memory) (reached : Nat)
    (answers : List (Option Error)) : (plan.walk reached answers).filter Demand.isWrite = [] := by
  have none : (plan.walk reached answers).countP Demand.isWrite = 0 := by
    rw [plan.countP_walk (by rintro (_ | _) <;> simp [Demand.isInput, Demand.isWrite])]
    unfold frame
    split <;> simp [Demand.isWrite]
  exact List.filter_eq_nil_iff.mpr (List.countP_eq_zero.mp none)

end Plan

/-- As many steps as there are ticks and errors lead to the end. -/
theorem terminating_of_paced {plan : Plan Memory} {numbers : Finset Nat}
    (seldom : plan.ErrsOnlyAt numbers) {served : Served State Store Memory}
    (paced : served.Paced plan (plan.captureTick + numbers.card))
    (few : plan.captureTick + numbers.card < UInt64.size) :
    served.cycle.phase = .terminating := by
  cases paced with
  | @underway ends cycle underway many =>
      have := underway.reached.equipped.failed_le_card seldom
      have := passed_add_failed ends
      have := underway.early
      omega
  | settled settled => exact settled.phase_eq
  | exhausted full short running => omega

/-- What a caller has that went on after errors, compared with one that met none. -/
structure Resumed {State' Store' Memory' : Type} (plan : Plan Memory) (erringPlan : Plan Memory')
    (steady : Served State Store Memory) (erring : Served State' Store' Memory') : Prop where
  inputs : erring.cycle.bench.demands.filter Demand.isInput =
    steady.cycle.bench.demands.filter Demand.isInput
  advances : erring.cycle.bench.demands.count .advance =
    steady.cycle.bench.demands.count .advance + failed erring.ends
  reads : erring.cycle.bench.demands.count .display =
    steady.cycle.bench.demands.count .display + failed erring.ends
  upscales : erring.cycle.bench.demands.countP Demand.isUpscale =
    steady.cycle.bench.demands.countP Demand.isUpscale + failed erring.ends
  reported : steady.cycle.report.isSome ∧ erring.cycle.report.isSome
  fired : steady.cycle.latch.fired = true ∧ erring.cycle.latch.fired = true
  demands_eq : steady.cycle.bench.demands =
    plan.opening ++ (plan.walk 0 steady.ends ++ plan.shots (plan.enlarges steady.cycle.frame))
  erringDemands_eq : erring.cycle.bench.demands = erringPlan.opening ++
    (erringPlan.walk 0 erring.ends ++ erringPlan.shots (erringPlan.enlarges erring.cycle.frame))

namespace Cycle.Over

theorem inputs {plan : Plan Memory} {ends : List (Option Error)}
    {cycle : Cycle State Store Memory} (settled : cycle.Over plan ends) :
    cycle.bench.demands.filter Demand.isInput =
      [.audio 0 Plan.silence, .audio 1 Plan.silence] ++
        (List.range' 1 plan.captureTick).flatMap plan.actions := by
  simp only [settled.reached.demands_eq, List.filter_append, plan.filter_isInput_opening,
    plan.filter_isInput_walk, plan.filter_isInput_shots, settled.complete, List.append_nil,
    Nat.zero_add]

theorem writes {plan : Plan Memory} {ends : List (Option Error)}
    {cycle : Cycle State Store Memory} (settled : cycle.Over plan ends) :
    cycle.bench.demands.filter Demand.isWrite =
      plan.opening.filter Demand.isWrite ++
        (plan.shots (plan.enlarges cycle.frame)).filter Demand.isWrite := by
  simp only [settled.reached.demands_eq, List.filter_append, plan.filter_isWrite_walk,
    List.nil_append]

end Cycle.Over

namespace Served.Paced

theorem over_of_terminating {plan : Plan Memory} {count : Nat} {served : Served State Store Memory}
    (paced : served.Paced plan count) (terminating : served.cycle.phase = .terminating) :
    served.cycle.Over plan served.ends := by
  cases paced with
  | underway underway many => simp [underway.waiting.phase_eq] at terminating
  | settled settled => exact settled
  | exhausted full few running => simp [running] at terminating

/-- A step that passes brings the inputs of its tick, and a step that errs brings none. -/
theorem inputs_obey {plan : Plan Memory} (calm : plan.Calm) {count : Nat}
    {served : Served State Store Memory} (paced : served.Paced plan count)
    (running : served.cycle.phase = .running) (rig : Rig State Store)
    (whole : (served.obey rig .step).fault = none) :
    ∃ answer fresh, (served.obey rig .step).ends = served.ends ++ [answer] ∧
      (served.obey rig .step).cycle.bench.demands = served.cycle.bench.demands ++ fresh ∧
      fresh.filter Demand.isInput =
        match answer with
        | none => plan.actions (passed served.ends + 1)
        | some _ => [] := by
  cases paced with
  | @underway ends cycle underway many =>
      have stepped := Cycle.stepped_of_underway underway rig
      have before := underway.reached.demands_eq
      have frame := plan.filter_isInput_walk (passed ends) [none]
      rw [obey_step running] at whole ⊢
      generalize (Cycle.step rig).run cycle = result at stepped whole ⊢
      cases stepped with
      | ticked next =>
          refine ⟨none, plan.tick (passed ends + 1), rfl, ?_, ?_⟩
          · rw [next.reached.demands_eq, before, plan.walk_concat_none, List.append_assoc]
          · simpa [Plan.walk] using frame
      | @captured next settled =>
          refine ⟨none, plan.tick (passed ends + 1) ++ plan.shots (plan.enlarges next.frame), rfl,
            ?_, ?_⟩
          · rw [settled.reached.demands_eq, before, plan.walk_concat_none]
            simp
          · rw [List.filter_append, plan.filter_isInput_shots]
            simpa [Plan.walk] using frame
      | @erred error next underway =>
          refine ⟨some error, plan.frame, rfl, ?_, ?_⟩
          · rw [underway.reached.demands_eq, before, plan.walk_concat_some, List.append_assoc]
          · have nothing := plan.filter_isInput_walk (passed ends) [some error]
            simpa [Plan.walk] using nothing
      | exhausted full still => cases whole
      | faulted restless => exact absurd calm restless
  | settled settled => simp [settled.phase_eq] at running
  | exhausted full few still => cases whole

end Served.Paced

section TwoRuns

variable {State' Store' Memory' : Type}

theorem Plan.opening_congr {plan : Plan Memory} {erringPlan : Plan Memory'}
    (config : erringPlan.config = plan.config) (width : erringPlan.width = plan.width)
    (height : erringPlan.height = plan.height) : erringPlan.opening = plan.opening := by
  simp only [opening, image, config, width, height]

theorem Plan.actions_congr {plan : Plan Memory} {erringPlan : Plan Memory'}
    (config : erringPlan.config = plan.config) (tick : Nat) :
    erringPlan.actions tick = plan.actions tick := by
  simp only [actions, config]

/-- The writes of a capture depend on the upscalers only through their factors. -/
theorem Plan.filter_isWrite_shots_congr {plan : Plan Memory} {erringPlan : Plan Memory'}
    {upscalers : Upscalers Memory} {erringUpscalers : Upscalers Memory'}
    (present : plan.upscalers = some upscalers)
    (erringPresent : erringPlan.upscalers = some erringUpscalers)
    (config : erringPlan.config = plan.config) (width : erringPlan.width = plan.width)
    (height : erringPlan.height = plan.height)
    (perFrame : erringUpscalers.perFrame.factor = upscalers.perFrame.factor)
    (capture : erringUpscalers.capture.factor = upscalers.capture.factor) (enlarged : Bool) :
    (erringPlan.shots enlarged).filter Demand.isWrite =
      (plan.shots enlarged).filter Demand.isWrite := by
  cases enlarged <;>
    simp [shots, enlargements, resized, image, present, erringPresent, config, width, height,
      perFrame, capture, Demand.isWrite, List.filter_cons]

theorem resumed_of_over {plan : Plan Memory} {erringPlan : Plan Memory'}
    (config : erringPlan.config = plan.config) (upscaled : plan.upscalers.isSome)
    (erringUpscaled : erringPlan.upscalers.isSome)
    {steady : Served State Store Memory} {erring : Served State' Store' Memory'}
    (settled : steady.cycle.Over plan steady.ends)
    (erringSettled : erring.cycle.Over erringPlan erring.ends) (none : failed steady.ends = 0) :
    Resumed plan erringPlan steady erring := by
  have accounts := Cycle.accounts_of_over settled
  have erringAccounts := Cycle.accounts_of_over erringSettled
  have captureTick : erringPlan.captureTick = plan.captureTick := by
    rw [Plan.captureTick, Plan.captureTick, config]
  have lengths : erring.ends.length = steady.ends.length + failed erring.ends := by
    rw [← passed_add_failed, ← passed_add_failed steady.ends, settled.complete,
      erringSettled.complete, captureTick, none, Nat.add_zero]
  refine ⟨?_, ?_, ?_, ?_, ⟨settled.reported, erringSettled.reported⟩,
    ⟨settled.fired, erringSettled.fired⟩, settled.reached.demands_eq,
    erringSettled.reached.demands_eq⟩
  · rw [settled.inputs, erringSettled.inputs, captureTick, funext (Plan.actions_congr config)]
  · rw [accounts.advances, erringAccounts.advances, lengths]
  · rw [accounts.reads, erringAccounts.reads, lengths]
  · rw [settled.reached.upscales, erringSettled.reached.upscales, Plan.countP_isUpscale_shots,
      Plan.countP_isUpscale_shots, if_pos upscaled, if_pos upscaled, if_pos erringUpscaled,
      if_pos erringUpscaled, lengths]
    ring

/-- Take a cycle whose upscaler for every frame never errs, and one for the same configuration and
display whose upscaler errs in finitely many calls. Single steps lead both to their end. Then both
machines have had the same inputs, each at the success of its tick, and both stores have been asked
for the same images; the errors have only cost frames. -/
theorem steps_resume {config : Config} (positive : 0 < config.captureTick)
    {rig : Rig State Store} {upscalers : Upscalers Memory} {machine : State} {store : Store}
    {clock : Clock} {cycle : Cycle State Store Memory}
    (started :
      Cycle.start rig config (some upscalers) (.ready machine store clock) = .started cycle)
    {erringRig : Rig State' Store'} {erringUpscalers : Upscalers Memory'} {erringMachine : State'}
    {erringStore : Store'} {erringClock : Clock} {erringCycle : Cycle State' Store' Memory'}
    (erringStarted : Cycle.start erringRig config (some erringUpscalers)
      (.ready erringMachine erringStore erringClock) = .started erringCycle)
    (numbers : Finset Nat) :
    let plan := rig.plan config (some upscalers) machine
    let erringPlan := erringRig.plan config (some erringUpscalers) erringMachine
    erringPlan.width = plan.width → erringPlan.height = plan.height →
    plan.Calm → erringPlan.Calm → plan.ErrsOnlyAt ∅ → erringPlan.ErrsOnlyAt numbers →
    (∃ count, (steps rig cycle count).cycle.phase = .terminating) ∧
    (plan.captureTick + numbers.card < UInt64.size →
      ∃ count, (steps erringRig erringCycle count).cycle.phase = .terminating) ∧
    (∀ count erringCount,
      let steady := steps rig cycle count
      let erring := steps erringRig erringCycle erringCount
      steady.cycle.phase = .terminating → erring.cycle.phase = .terminating →
      Resumed plan erringPlan steady erring ∧
      (plan.enlarges steady.cycle.frame = erringPlan.enlarges erring.cycle.frame →
        erringUpscalers.perFrame.factor = upscalers.perFrame.factor →
        erringUpscalers.capture.factor = upscalers.capture.factor →
        erring.cycle.bench.demands.filter Demand.isWrite =
          steady.cycle.bench.demands.filter Demand.isWrite)) ∧
    (∀ count,
      let before := steps erringRig erringCycle count
      let after := steps erringRig erringCycle (count + 1)
      before.cycle.phase = .running → after.fault = none →
      ∃ answer fresh, after.ends = before.ends ++ [answer] ∧
        after.cycle.bench.demands = before.cycle.bench.demands ++ fresh ∧
        fresh.filter Demand.isInput =
          match answer with
          | none => erringPlan.actions (passed before.ends + 1)
          | some _ => []) := by
  intro plan erringPlan width height calm erringCalm never seldom
  have paced := paced_steps calm (Cycle.underway_of_start started positive) rig
  have erringPaced :=
    paced_steps erringCalm (Cycle.underway_of_start erringStarted positive) erringRig
  refine ⟨⟨_, terminating_of_paced never (paced _) ?_⟩,
    fun few => ⟨_, terminating_of_paced seldom (erringPaced _) few⟩, ?_, ?_⟩
  · have sizes : UInt32.size < UInt64.size := by decide
    rw [Finset.card_empty, Nat.add_zero]
    exact Nat.lt_trans config.captureTick.toNat_lt_size sizes
  · intro count erringCount steady erring terminating erringTerminating
    have settled := (paced count).over_of_terminating terminating
    have erringSettled := (erringPaced erringCount).over_of_terminating erringTerminating
    have none : failed steady.ends = 0 :=
      Nat.le_zero.mp (settled.reached.equipped.failed_le_card never)
    have present : plan.upscalers = some upscalers := rfl
    have erringPresent : erringPlan.upscalers = some erringUpscalers := rfl
    have sameConfig : erringPlan.config = plan.config := rfl
    refine ⟨resumed_of_over sameConfig (by simp [present]) (by simp [erringPresent]) settled
      erringSettled none, fun same perFrame capture => ?_⟩
    rw [settled.writes, erringSettled.writes, Plan.opening_congr sameConfig width height, same,
      Plan.filter_isWrite_shots_congr present erringPresent sameConfig width height perFrame
        capture]
  · intro count before after running whole
    simp only [after, steps_succ] at whole ⊢
    exact (erringPaced count).inputs_obey erringCalm running erringRig whole

/-- The first and the third frame err, and the run catches up. -/
theorem steps_resume_testCard :
    ∃ cycle erringCycle count erringCount,
      Cycle.start .testCard .short (some (.erringAt ∅)) .testCard = .started cycle ∧
      Cycle.start .testCard .short (some (.erringAt {0, 2})) .testCard = .started erringCycle ∧
      Resumed (Rig.testCard.plan .short (some (.erringAt ∅)) (.unbound .standard))
        (Rig.testCard.plan .short (some (.erringAt {0, 2})) (.unbound .standard))
        (steps .testCard cycle count) (steps .testCard erringCycle erringCount) := by
  obtain ⟨cycle, started⟩ : ∃ cycle,
      Cycle.start .testCard .short (some (.erringAt ∅)) .testCard = .started cycle := ⟨_, rfl⟩
  obtain ⟨erringCycle, erringStarted⟩ : ∃ cycle,
      Cycle.start .testCard .short (some (.erringAt {0, 2})) .testCard = .started cycle := ⟨_, rfl⟩
  obtain ⟨⟨count, terminating⟩, finite, resumed, -⟩ :=
    steps_resume (by decide) started erringStarted {0, 2} rfl rfl (Plan.calm_of_erringAt rfl)
      (Plan.calm_of_erringAt rfl) (Plan.errsOnlyAt_of_erringAt rfl)
      (Plan.errsOnlyAt_of_erringAt rfl)
  obtain ⟨erringCount, erringTerminating⟩ := finite (by decide)
  exact ⟨cycle, erringCycle, count, erringCount, started, erringStarted,
    (resumed count erringCount terminating erringTerminating).1⟩

end TwoRuns

end FrameCycle
