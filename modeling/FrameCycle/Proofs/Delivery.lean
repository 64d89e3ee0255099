import FrameCycle.Proofs.Replay
import FrameCycle.Proofs.Script.Accepted

/-!
The inputs of a script reach the machine. Whoever watches the machine sees the actions of the
events in the order of their ticks, each after as many frames as its event's tick says.
-/
namespace FrameCycle

variable {State Store Memory : Type}

inductive Input where
  | key (code : Nat) (pressed : Bool)
  | snapshot (path : Path)
  deriving DecidableEq

def Demand.input? : Demand → Option Input
  | key name pressed => some (.key name.code pressed)
  | snapshot path => some (.snapshot path)
  | _ => none

/-- The inputs among demands, each with the number of frames run before it. -/
def inputsFrom : (frames : Nat) → List Demand → List (Nat × Input)
  | _, [] => []
  | frames, .advance :: demands => inputsFrom (frames + 1) demands
  | frames, demand :: demands =>
      (demand.input?.map fun input => (frames, input)).toList ++ inputsFrom frames demands

def Action.input (snapshot : Path) : Action → Input
  | .keyDown pressed => .key pressed.code true
  | .keyUp released => .key released.code false
  | .loadSnapshot path => .snapshot (path.getD snapshot)

/-- The inputs of an event, each with the tick of the event. -/
def Event.inputs (snapshot : Path) (event : Event) : List (Nat × Input) :=
  event.actions.map fun action => (event.tick.toNat, action.input snapshot)

theorem inputsFrom_append (frames : Nat) (first second : List Demand) :
    inputsFrom frames (first ++ second) =
      inputsFrom frames first ++ inputsFrom (frames + first.count .advance) second := by
  induction first generalizing frames with
  | nil => simp [inputsFrom]
  | cons demand rest inductionHypothesis =>
      cases demand with
      | advance =>
          rw [List.cons_append, inputsFrom, inputsFrom, inductionHypothesis, List.count_cons_self,
            Nat.add_right_comm, Nat.add_assoc]
      | _ => simp [inputsFrom, inductionHypothesis]

namespace Plan

theorem inputsFrom_opening (plan : Plan Memory) (frames : Nat) :
    inputsFrom frames plan.opening = [] ∧ plan.opening.count .advance = 0 := by
  unfold opening
  split <;> simp [inputsFrom, Demand.input?]

theorem inputsFrom_frame (plan : Plan Memory) (frames : Nat) :
    inputsFrom frames plan.frame = [] ∧ plan.frame.count .advance = 1 := by
  unfold frame
  split <;> simp [inputsFrom, Demand.input?]

theorem inputsFrom_shots (plan : Plan Memory) (enlarged : Bool) (frames : Nat) :
    inputsFrom frames (plan.shots enlarged) = [] := by
  unfold shots enlargements resized
  cases plan.upscalers <;> cases enlarged <;> simp [inputsFrom, Demand.input?]

theorem inputsFrom_actions (plan : Plan Memory) (frames tick : Nat) :
    inputsFrom frames (plan.actions tick) =
      ((plan.config.script.eventsAt tick).flatMap Event.actions).map fun action =>
        (frames, action.input plan.config.snapshot) := by
  unfold actions
  induction (plan.config.script.eventsAt tick).flatMap Event.actions with
  | nil => rfl
  | cons action rest inductionHypothesis =>
      cases action <;>
        simp [inputsFrom, Demand.input?, Action.demand, Action.input, inductionHypothesis]

theorem count_advance_actions (plan : Plan Memory) (tick : Nat) :
    (plan.actions tick).count .advance = 0 := by
  apply List.count_eq_zero.mpr
  intro member
  simpa [Demand.isInput] using isInput_of_mem_actions member

theorem inputsFrom_tick (plan : Plan Memory) (passed : Nat) :
    inputsFrom passed (plan.tick (passed + 1)) =
      (plan.config.script.eventsAt (passed + 1)).flatMap
        (Event.inputs plan.config.snapshot) := by
  obtain ⟨none, one⟩ := plan.inputsFrom_frame passed
  rw [tick, inputsFrom_append, none, one, List.nil_append, inputsFrom_actions, List.map_flatMap]
  refine List.flatMap_congr fun event member => ?_
  have due : event.tick.toNat = passed + 1 := by
    simpa [Script.eventsAt] using (List.mem_filter.mp member).2
  simp only [Event.inputs, due]

theorem inputsFrom_walk (plan : Plan Memory) (passed count : Nat) :
    inputsFrom passed (plan.walk passed (List.replicate count none)) =
      ((List.range' (passed + 1) count).flatMap plan.config.script.eventsAt).flatMap
        (Event.inputs plan.config.snapshot) := by
  induction count generalizing passed with
  | zero => rfl
  | succ count inductionHypothesis =>
      have advances : (plan.tick (passed + 1)).count .advance = 1 := by
        rw [tick, List.count_append, (plan.inputsFrom_frame passed).2, count_advance_actions]
      rw [List.replicate_succ, walk, inputsFrom_append, advances, inputsFrom_tick,
        inductionHypothesis, List.range'_succ, List.flatMap_cons, List.flatMap_append]

end Plan

theorem inputsFrom_completed {plan : Plan Memory} {report : RunReport}
    {bench : Bench State Store} {events : List Event} (ran : Ran plan (.completed report, bench))
    (holds : plan.config.script.Holds events plan.config.captureTick) :
    inputsFrom 0 bench.demands =
      plan.config.script.events.toList.flatMap (Event.inputs plan.config.snapshot) := by
  cases ran with
  | @completed cycle bench settled calls =>
      obtain ⟨none, zero⟩ := plan.inputsFrom_opening 0
      rw [Bench.demands_released calls, settled.reached.demands_eq]
      simp only [inputsFrom_append, none, zero, Nat.add_zero, List.nil_append,
        plan.inputsFrom_walk, plan.inputsFrom_shots, List.append_nil]
      rw [Nat.zero_add, Plan.captureTick, holds.flatMap_eventsAt]
      simp [inputsFrom, Demand.input?]

/-- The machine of a completed run is what the calls of the journal have made of it, and among these
every event of the script is met once: in the order of the ticks, at its tick, and before the
capture. -/
theorem run_delivers {rig : Rig State Store} {config : Config}
    {upscalers : Option (Upscalers Memory)} {machine : State} {store : Store} {clock : Clock}
    {report : RunReport} {bench : Bench State Store} {events : List Event}
    (holds : config.script.Holds events config.captureTick) (positive : 0 < config.captureTick)
    (completed :
      run rig config upscalers (.ready machine store clock) = (.completed report, bench)) :
    rig.Replays machine store bench.calls bench.machine bench.store ∧
    ∃ sorted : List Event, sorted.Perm events ∧
      (sorted.Pairwise fun earlier later => earlier.tick < later.tick) ∧
      inputsFrom 0 bench.demands = sorted.flatMap (Event.inputs config.snapshot) ∧
      ∀ frames input, (frames, input) ∈ inputsFrom 0 bench.demands →
        0 < frames ∧ frames < config.captureTick.toNat := by
  have out : WayOut rig config upscalers (.ready machine store clock) bench := by
    have out : WayOut rig config upscalers (.ready machine store clock)
        (run rig config upscalers (.ready machine store clock)).2 := .run
    rwa [completed] at out
  have seen := inputsFrom_completed (ran_of_completed positive completed) holds
  change inputsFrom 0 bench.demands =
    config.script.events.toList.flatMap (Event.inputs config.snapshot) at seen
  refine ⟨out.replays, config.script.events.toList, holds.perm, config.script.increasing, seen, ?_⟩
  intro frames input member
  rw [seen] at member
  obtain ⟨event, listed, given⟩ := List.mem_flatMap.mp member
  obtain ⟨action, -, same⟩ := List.mem_map.mp given
  cases same
  exact holds.between listed

/-- Two events, the later one first. -/
def Script.lateFirst : List Event :=
  [⟨2, [.keyUp .enter], none⟩, ⟨1, [.loadSnapshot none, .keyDown .enter], none⟩]

def Config.sorted : Config :=
  { short with script := {
      events := #[⟨1, [.loadSnapshot none, .keyDown .enter], none⟩, ⟨2, [.keyUp .enter], none⟩]
      increasing := by simp } }

theorem run_delivers_lateFirst :
    ∃ report bench, Config.sorted.script.Holds Script.lateFirst Config.sorted.captureTick ∧
      run .testCard .sorted (none : Option (Upscalers Unit)) .testCard =
        (.completed report, bench) ∧
      Rig.testCard.Replays (.unbound .standard) () bench.calls bench.machine bench.store ∧
      ∃ sorted : List Event, sorted.Perm Script.lateFirst ∧
        inputsFrom 0 bench.demands = sorted.flatMap (Event.inputs Config.sorted.snapshot) := by
  have accepted : Config.sorted.script.Holds Script.lateFirst Config.sorted.captureTick := by
    refine .inl (Script.ofEvents_eq_ok_iff.mpr ?_)
    simp [Config.sorted, Config.short, Script.lateFirst, List.mergeSort, Script.byTick,
      Script.sharedTick?, Script.unreachable?]
  obtain ⟨cycle, started⟩ : ∃ cycle, Cycle.start .testCard .sorted
      (none : Option (Upscalers Unit)) .testCard = .started cycle := ⟨_, rfl⟩
  obtain ⟨report, bench, completed⟩ := completed_of_bare started (by decide)
  obtain ⟨replays, sorted, perm, -, inputs, -⟩ := run_delivers accepted (by decide) completed
  exact ⟨report, bench, accepted, completed, replays, sorted, perm, inputs⟩

end FrameCycle
