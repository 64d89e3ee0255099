import FrameCycle.Proofs.Cycle.Start
import FrameCycle.Proofs.Cycle.Steps

/-!
A cycle in the hands of a caller, who may make single steps and whole runs in any order and go on
after errors. The frames are counted by all steps, the ticks only by those that did not err.
-/
namespace FrameCycle

variable {State Store Memory : Type}

inductive Order where
  | step
  | complete
  deriving DecidableEq

namespace Order

def work (rig : Rig State Store) : Order → Work State Store Memory Unit
  | step => discard (Cycle.step rig)
  | complete => Cycle.runToCompletion rig

def limit (cycle : Cycle State Store Memory) : Order → Nat
  | step => 1
  | complete => UInt32.size - cycle.tick.toNat

/-- How the steps end that an order makes in a running cycle, as far as they return. -/
def ends (rig : Rig State Store) (cycle : Cycle State Store Memory) (order : Order) :
    List (Option Error) :=
  Cycle.endsUpTo rig (order.limit cycle) cycle

theorem run_work (rig : Rig State Store) (cycle : Cycle State Store Memory) (order : Order) :
    (order.work rig).run cycle =
      EStateM.run (discard (Cycle.stepUpTo rig (order.limit cycle))) cycle := by
  cases order with
  | complete => exact Cycle.run_runToCompletion rig cycle
  | step =>
      simp only [work, Cycle.run_discard, limit, Cycle.stepUpTo, EStateM.run_bind]
      cases (Cycle.step rig).run cycle with
      | ok going next => cases going <;> rfl
      | error stop next => rfl

theorem limit_pos (cycle : Cycle State Store Memory) (order : Order) : 0 < order.limit cycle := by
  cases order with
  | step => exact Nat.one_pos
  | complete => exact Nat.sub_pos_of_lt cycle.tick.toNat_lt_size

end Order

/-- What became of a cycle: how its steps ended that returned, the cycle after them, and the fault
that broke it, if there was one. -/
structure Served (State Store Memory : Type) where
  ends : List (Option Error)
  cycle : Cycle State Store Memory
  fault : Option Fault

namespace Served

/-- An error leaves the cycle to its caller, a fault does not. -/
def obey (rig : Rig State Store) (served : Served State Store Memory) (order : Order) :
    Served State Store Memory :=
  match served.fault with
  | some _ => served
  | none =>
      let ends := served.ends ++ order.ends rig served.cycle
      match (order.work rig).run served.cycle with
      | .ok () next => ⟨ends, next, none⟩
      | .error (.error _) next => ⟨ends, next, none⟩
      | .error (.fault fault) next => ⟨ends, next, some fault⟩

/-- A cycle that has kept to its plan as long as its frames could be counted. -/
inductive Sound (plan : Plan Memory) : Served State Store Memory → Prop where
  | underway {ends : List (Option Error)} {cycle : Cycle State Store Memory} :
      cycle.Underway plan ends → Sound plan ⟨ends, cycle, none⟩
  | settled {ends : List (Option Error)} {cycle : Cycle State Store Memory} :
      cycle.Over plan ends → Sound plan ⟨ends, cycle, none⟩
  | exhausted {ends : List (Option Error)} {cycle : Cycle State Store Memory} :
      ends.length + 1 = UInt64.size → Sound plan ⟨ends, cycle, some .addOverflow⟩

theorem sound_obey {plan : Plan Memory} (calm : plan.Calm) {served : Served State Store Memory}
    (sound : served.Sound plan) (rig : Rig State Store) (order : Order) :
    (served.obey rig order).Sound plan := by
  cases sound with
  | @underway ends cycle underway =>
      have ended := Cycle.ended_of_underway underway rig (order.limit cycle)
      simp only [obey, order.run_work, Cycle.run_discard]
      change Cycle.Ended plan ends (order.limit cycle) (order.ends rig cycle) _ at ended
      generalize order.ends rig cycle = more at ended ⊢
      generalize (Cycle.stepUpTo rig (order.limit cycle)).run cycle = result at ended ⊢
      cases ended with
      | on underway => exact .underway underway
      | settled settled => exact .settled settled
      | erred underway => exact .underway underway
      | exhausted few full => exact .exhausted full
      | faulted restless => exact absurd calm restless
  | @settled ends cycle settled =>
      have idle : cycle.phase ≠ .running := by simp [settled.phase_eq]
      obtain ⟨count, limit⟩ := Nat.exists_eq_add_one.mpr (order.limit_pos cycle)
      simp only [obey, order.run_work, Cycle.run_discard, Order.ends, limit,
        Cycle.run_stepUpTo_idle idle, Cycle.endsUpTo_idle idle, List.append_nil]
      exact .settled settled
  | exhausted full => exact .exhausted full

end Served

def serve (rig : Rig State Store) (cycle : Cycle State Store Memory) (orders : List Order) :
    Served State Store Memory :=
  orders.foldl (Served.obey rig) ⟨[], cycle, none⟩

theorem sound_foldl_obey {plan : Plan Memory} (calm : plan.Calm)
    {served : Served State Store Memory} (sound : served.Sound plan) (rig : Rig State Store)
    (orders : List Order) : (orders.foldl (Served.obey rig) served).Sound plan := by
  induction orders generalizing served with
  | nil => exact sound
  | cons order rest inductionHypothesis =>
      exact inductionHypothesis (Served.sound_obey calm sound rig order)

namespace Cycle

/-- What is seen of a running cycle whose capture is still to come. -/
structure Pending (plan : Plan Memory) (ends : List (Option Error))
    (cycle : Cycle State Store Memory) : Prop where
  phase_eq : cycle.phase = .running
  tick_eq : cycle.tick.toNat + failed ends = ends.length
  early : cycle.tick.toNat < plan.captureTick
  unfired : cycle.latch.fired = false
  unreported : cycle.report = none
  writes : cycle.bench.demands.countP Demand.isWrite = if plan.config.grid then 1 else 0
  upscales : cycle.bench.demands.countP Demand.isUpscale =
    if plan.upscalers.isSome then ends.length else 0
  demands_eq : cycle.bench.demands = plan.opening ++ plan.walk 0 ends

/-- What is seen of a cycle after its capture; nothing goes on any more. -/
structure Finished (plan : Plan Memory) (ends : List (Option Error))
    (cycle : Cycle State Store Memory) : Prop where
  phase_eq : cycle.phase = .terminating
  tick_eq : cycle.tick = 0
  passed_eq : plan.captureTick + failed ends = ends.length
  fired : cycle.latch.fired = true
  reported : cycle.report.isSome
  upscales : cycle.bench.demands.countP Demand.isUpscale =
    if plan.upscalers.isSome then ends.length + 1 else 0
  demands_eq : cycle.bench.demands =
    plan.opening ++ plan.walk 0 ends ++ plan.shots (plan.enlarges cycle.frame)
  step_still : ∀ rig : Rig State Store, (step rig).run cycle = .ok false cycle
  complete_still : ∀ rig : Rig State Store, (runToCompletion rig).run cycle = .ok () cycle

/-- What is seen of a cycle of which this many steps returned, and of its calls. -/
structure Accounts (plan : Plan Memory) (ends : List (Option Error))
    (cycle : Cycle State Store Memory) : Prop where
  frames_eq : cycle.frames.toNat = ends.length
  displayCount : cycle.displayStat.count.toNat = ends.length
  advances : cycle.bench.demands.count .advance = ends.length
  reads : cycle.bench.demands.count .display = ends.length
  upscaleCount :
    cycle.upscaleStat.count.toNat = if plan.upscalers.isSome then ends.length else 0
  equipped : plan.Equips ends cycle.pipeline
  standing : cycle.Pending plan ends ∨ cycle.Finished plan ends

namespace Reached

variable {plan : Plan Memory} {ends : List (Option Error)} {shots : List Demand}
  {cycle : Cycle State Store Memory}

/-- Demands that are no inputs come with the start, with the frames and with the capture. -/
theorem countP
    (reached : cycle.Reached plan ends.length ends (plan.walk 0 ends ++ shots))
    {counts : Demand → Bool} (noInput : ∀ demand, demand.isInput = true → counts demand = false) :
    cycle.bench.demands.countP counts =
      plan.opening.countP counts + ends.length * plan.frame.countP counts +
        shots.countP counts := by
  rw [reached.demands_eq, List.countP_append, List.countP_append, plan.countP_walk noInput,
    Nat.add_assoc]

theorem advances
    (reached : cycle.Reached plan ends.length ends (plan.walk 0 ends ++ shots)) :
    cycle.bench.demands.count .advance = ends.length + shots.count .advance := by
  rw [List.count, reached.countP (by rintro (_ | _) <;> simp [Demand.isInput])]
  cases asked : plan.config.grid <;> cases present : plan.upscalers <;>
    simp [Plan.opening, Plan.frame, asked, present]

theorem reads
    (reached : cycle.Reached plan ends.length ends (plan.walk 0 ends ++ shots)) :
    cycle.bench.demands.count .display = ends.length + shots.count .display := by
  rw [List.count, reached.countP (by rintro (_ | _) <;> simp [Demand.isInput])]
  cases asked : plan.config.grid <;> cases present : plan.upscalers <;>
    simp [Plan.opening, Plan.frame, asked, present]

theorem upscales
    (reached : cycle.Reached plan ends.length ends (plan.walk 0 ends ++ shots)) :
    cycle.bench.demands.countP Demand.isUpscale =
      (if plan.upscalers.isSome then ends.length else 0) + shots.countP Demand.isUpscale := by
  rw [reached.countP (by rintro (_ | _) <;> simp [Demand.isInput, Demand.isUpscale])]
  cases asked : plan.config.grid <;> cases present : plan.upscalers <;>
    simp [Plan.opening, Plan.frame, asked, present, Demand.isUpscale]

theorem writes
    (reached : cycle.Reached plan ends.length ends (plan.walk 0 ends ++ shots)) :
    cycle.bench.demands.countP Demand.isWrite =
      (if plan.config.grid then 1 else 0) + shots.countP Demand.isWrite := by
  rw [reached.countP (by rintro (_ | _) <;> simp [Demand.isInput, Demand.isWrite])]
  cases asked : plan.config.grid <;> cases present : plan.upscalers <;>
    simp [Plan.opening, Plan.frame, asked, present, Demand.isWrite, List.countP_cons]

end Reached

theorem accounts_of_underway {plan : Plan Memory} {ends : List (Option Error)}
    {cycle : Cycle State Store Memory} (underway : cycle.Underway plan ends) :
    cycle.Accounts plan ends := by
  obtain ⟨reached, waiting, early⟩ := underway
  have unshot := reached
  rw [← List.append_nil (plan.walk 0 ends)] at unshot
  refine ⟨reached.frames_eq, reached.displayCount, unshot.advances, unshot.reads,
    reached.upscaleCount, reached.equipped, .inl ⟨waiting.phase_eq, ?_, ?_, ?_, waiting.report_eq,
      unshot.writes, unshot.upscales, reached.demands_eq⟩⟩
  · rw [waiting.tick_eq, passed_add_failed]
  · rwa [waiting.tick_eq]
  · rw [waiting.latch_eq, Latch.armed]

theorem accounts_of_over {plan : Plan Memory} {ends : List (Option Error)}
    {cycle : Cycle State Store Memory} (settled : cycle.Over plan ends) :
    cycle.Accounts plan ends := by
  have reached := settled.reached
  have idle : cycle.phase ≠ .running := by simp [settled.phase_eq]
  refine ⟨reached.frames_eq, reached.displayCount, ?_, ?_, reached.upscaleCount, reached.equipped,
    .inr ⟨settled.phase_eq, settled.tick_eq, ?_, settled.fired, settled.reported, ?_, ?_, ?_, ?_⟩⟩
  · rw [reached.advances, Nat.add_eq_left, List.count_eq_zero]
    intro member
    simpa [Demand.isWrite, Demand.isUpscale] using Plan.isWrite_or_isUpscale_of_mem_shots member
  · rw [reached.reads, Nat.add_eq_left, List.count_eq_zero]
    intro member
    simpa [Demand.isWrite, Demand.isUpscale] using Plan.isWrite_or_isUpscale_of_mem_shots member
  · rw [← settled.complete, passed_add_failed]
  · rw [reached.upscales, Plan.countP_isUpscale_shots]
    split <;> rfl
  · rw [reached.demands_eq, List.append_assoc]
  · exact fun rig => run_step_idle cycle rig idle
  · intro rig
    obtain ⟨count, limit⟩ := Nat.exists_eq_add_one.mpr (Order.complete.limit_pos cycle)
    have run := Order.complete.run_work rig cycle
    rw [limit, run_discard, run_stepUpTo_idle idle] at run
    exact run

end Cycle

/-- Whatever a caller orders, the accounts of a cycle hold, unless there were more frames than can
be counted. -/
theorem serve_accounts {rig : Rig State Store} {config : Config}
    {upscalers : Option (Upscalers Memory)} {machine : State} {store : Store} {clock : Clock}
    {cycle : Cycle State Store Memory}
    (started : Cycle.start rig config upscalers (.ready machine store clock) = .started cycle)
    (positive : 0 < config.captureTick) (calm : (rig.plan config upscalers machine).Calm)
    (orders : List Order) :
    let served := serve rig cycle orders
    (served.fault = none ∧
        served.cycle.Accounts (rig.plan config upscalers machine) served.ends) ∨
      (served.fault = some .addOverflow ∧ served.ends.length + 1 = UInt64.size) := by
  intro served
  have sound : served.Sound (rig.plan config upscalers machine) :=
    sound_foldl_obey calm (.underway (Cycle.underway_of_start started positive)) rig orders
  clear_value served
  cases sound with
  | underway underway => exact .inl ⟨rfl, Cycle.accounts_of_underway underway⟩
  | settled settled => exact .inl ⟨rfl, Cycle.accounts_of_over settled⟩
  | exhausted full => exact .inr ⟨rfl, full⟩

/-- The second frame of three errs, and the caller goes on. -/
theorem serve_accounts_testCard :
    ∃ cycle, Cycle.start .testCard .short (some (.erringAt {1})) .testCard = .started cycle ∧
      let served := serve .testCard cycle [.step, .step, .complete]
      (served.fault = none ∧ served.cycle.Accounts
          (Rig.testCard.plan .short (some (.erringAt {1})) (.unbound .standard)) served.ends) ∨
        (served.fault = some .addOverflow ∧ served.ends.length + 1 = UInt64.size) := by
  obtain ⟨cycle, started⟩ : ∃ cycle,
      Cycle.start .testCard .short (some (.erringAt {1})) .testCard = .started cycle := ⟨_, rfl⟩
  exact ⟨cycle, started, serve_accounts started (by decide) (Plan.calm_of_erringAt rfl) _⟩

end FrameCycle
