import FrameCycle.Proofs.Cycle.Start
import FrameCycle.Proofs.Cycle.Steps

/-!
How a run ends that has started: completed after its capture, or stopped by the first error of the
upscaler for every frame. The machine is released either way.
-/
namespace FrameCycle

variable {State Store Memory : Type}

namespace Bench

theorem calls_abandon (rig : Rig State Store) (cycle : Cycle State Store Memory) :
    (cycle.abandon rig).calls = cycle.bench.calls ++ [.release] :=
  calls_release rig.core cycle.bench

theorem calls_finish (rig : Rig State Store) (cycle : Cycle State Store Memory) :
    (cycle.finish rig).2.calls = cycle.bench.calls ++ [.release] := by
  simp only [Cycle.finish, calls_logAll, calls_abandon]

theorem demands_released {cycle : Cycle State Store Memory} {bench : Bench State Store}
    (calls : bench.calls = cycle.bench.calls ++ [.release]) :
    bench.demands = cycle.bench.demands ++ [.release] := by
  simp [demands_eq, calls, Call.demand]

end Bench

inductive Ran (plan : Plan Memory) : RunOutcome × Bench State Store → Prop where
  | completed {cycle : Cycle State Store Memory} {bench : Bench State Store} :
      cycle.Over plan (List.replicate plan.captureTick none) →
      bench.calls = cycle.bench.calls ++ [.release] →
      Ran plan (.completed cycle.runReport, bench)
  | erred {made : Nat} {error : Error} {cycle : Cycle State Store Memory}
      {bench : Bench State Store} :
      made < plan.captureTick →
      cycle.Underway plan (List.replicate made none ++ [some error]) →
      bench.calls = cycle.bench.calls ++ [.release] →
      Ran plan (.stopped (.error error), bench)
  | faulted {fault : Fault} {bench : Bench State Store} :
      ¬ plan.Calm → Ran plan (.stopped (.fault fault), bench)

theorem ran_of_start {rig : Rig State Store} {config : Config}
    {upscalers : Option (Upscalers Memory)} {machine : State} {store : Store} {clock : Clock}
    {cycle : Cycle State Store Memory}
    (started : Cycle.start rig config upscalers (.ready machine store clock) = .started cycle)
    (positive : 0 < config.captureTick) :
    Ran (rig.plan config upscalers machine)
      (run rig config upscalers (.ready machine store clock)) := by
  have finish := Cycle.finish_of_underway (Cycle.underway_of_start started positive) rig
  simp only [run, started]
  generalize (Cycle.runToCompletion rig).run cycle = result at finish ⊢
  cases finish with
  | settled settled => exact .completed settled (by rw [Bench.calls_log, Bench.calls_finish])
  | erred early underway => exact .erred early underway (Bench.calls_abandon rig _)
  | faulted restless => exact .faulted restless

theorem ran_of_completed {rig : Rig State Store} {config : Config}
    {upscalers : Option (Upscalers Memory)} {machine : State} {store : Store} {clock : Clock}
    {report : RunReport} {bench : Bench State Store} (positive : 0 < config.captureTick)
    (completed :
      run rig config upscalers (.ready machine store clock) = (.completed report, bench)) :
    Ran (rig.plan config upscalers machine) (.completed report, bench) := by
  cases started : Cycle.start rig config upscalers (.ready machine store clock) with
  | refused bench => simp [run, started] at completed
  | faulted fault bench => simp [run, started] at completed
  | started cycle =>
      rw [← completed]
      exact ran_of_start started positive

theorem completed_of_bare {rig : Rig State Store} {config : Config} {machine : State}
    {store : Store} {clock : Clock} {cycle : Cycle State Store Memory}
    (started : Cycle.start rig config none (.ready machine store clock) = .started cycle)
    (positive : 0 < config.captureTick) :
    ∃ report bench, run rig config (none : Option (Upscalers Memory))
      (.ready machine store clock) = (.completed report, bench) := by
  have ran := ran_of_start started positive
  generalize run rig config none (.ready machine store clock) = ended at ran
  cases ran with
  | completed settled calls => exact ⟨_, _, rfl⟩
  | @erred made error cycle bench early underway calls =>
      have equipped := underway.reached.equipped
      generalize cycle.pipeline = pipeline at equipped
      cases equipped with
      | bare absent quiet => simpa using quiet (some error)
      | staged present fits answered => cases present
  | faulted restless => exact absurd (fun upscalers present => by cases present) restless

end FrameCycle
