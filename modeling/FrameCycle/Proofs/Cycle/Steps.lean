import FrameCycle.Proofs.Cycle.Step

/-!
Many steps: up to a first error every step passes, so the steps that returned are known from their
number and from how the last of them ended.
-/
namespace FrameCycle.Cycle

variable {State Store Memory : Type}

/-- How the steps end that `stepUpTo` makes in a running cycle, as far as they return. -/
def endsUpTo (rig : Rig State Store) :
    (count : Nat) → Cycle State Store Memory → List (Option Error)
  | 0, _ => []
  | count + 1, cycle =>
      if cycle.phase = .running then
        match (step rig).run cycle with
        | .ok _ next => none :: endsUpTo rig count next
        | .error (.error error) _ => [some error]
        | .error (.fault _) _ => []
      else []

/-- How up to `count` steps of a running cycle can end, and how the single ones did. -/
inductive Ended (plan : Plan Memory) (answers : List (Option Error)) (count : Nat) :
    List (Option Error) → EStateM.Result Stop (Cycle State Store Memory) Bool → Prop where
  | on {next : Cycle State Store Memory} :
      next.Underway plan (answers ++ List.replicate count none) →
      Ended plan answers count (List.replicate count none) (.ok true next)
  | settled {made : Nat} {next : Cycle State Store Memory} :
      next.Over plan (answers ++ List.replicate made none) →
      Ended plan answers count (List.replicate made none) (.ok false next)
  | erred {made : Nat} {error : Error} {next : Cycle State Store Memory} :
      next.Underway plan (answers ++ (List.replicate made none ++ [some error])) →
      Ended plan answers count (List.replicate made none ++ [some error])
        (.error (.error error) next)
  | exhausted {made : Nat} {next : Cycle State Store Memory} :
      made < count → (answers ++ List.replicate made none).length + 1 = UInt64.size →
      Ended plan answers count (List.replicate made none) (.error (.fault .addOverflow) next)
  | faulted {ends : List (Option Error)} {fault : Fault} {next : Cycle State Store Memory} :
      ¬ plan.Calm → Ended plan answers count ends (.error (.fault fault) next)

theorem run_stepUpTo_idle {cycle : Cycle State Store Memory} (idle : cycle.phase ≠ .running)
    (rig : Rig State Store) (count : Nat) :
    (stepUpTo rig (count + 1)).run cycle = .ok false cycle := by
  simp [stepUpTo, run_step_idle cycle rig idle]

theorem endsUpTo_idle {cycle : Cycle State Store Memory} (idle : cycle.phase ≠ .running)
    (rig : Rig State Store) (count : Nat) : endsUpTo rig count cycle = [] := by
  cases count with
  | zero => rfl
  | succ count => simp [endsUpTo, idle]

theorem Ended.cons {plan : Plan Memory} {answers ends : List (Option Error)} {count : Nat}
    {result : EStateM.Result Stop (Cycle State Store Memory) Bool}
    (ended : Ended plan (answers ++ [none]) count ends result) :
    Ended plan answers (count + 1) (none :: ends) result := by
  cases ended with
  | on underway =>
      rw [← List.append_cons, ← List.replicate_succ] at underway
      exact .on underway
  | settled settled =>
      rw [← List.append_cons, ← List.replicate_succ] at settled
      exact .settled settled
  | erred underway =>
      rw [← List.append_cons, ← List.cons_append, ← List.replicate_succ] at underway
      exact .erred underway
  | exhausted few full =>
      rw [← List.append_cons, ← List.replicate_succ] at full
      exact .exhausted (Nat.succ_lt_succ few) full
  | faulted restless => exact .faulted restless

theorem ended_of_underway {plan : Plan Memory} {answers : List (Option Error)}
    {cycle : Cycle State Store Memory} (underway : cycle.Underway plan answers)
    (rig : Rig State Store) (count : Nat) :
    Ended plan answers count (endsUpTo rig count cycle) ((stepUpTo rig count).run cycle) := by
  induction count generalizing answers cycle with
  | zero =>
      refine .on ?_
      rw [List.replicate_zero, List.append_nil]
      exact underway
  | succ count inductionHypothesis =>
      have stepped := stepped_of_underway underway rig
      have running := underway.waiting.phase_eq
      simp only [stepUpTo, EStateM.run_bind, endsUpTo, if_pos running]
      generalize (step rig).run cycle = result at stepped ⊢
      cases stepped with
      | ticked underway => exact (inductionHypothesis underway).cons
      | @captured next settled =>
          have idle : next.phase ≠ .running := by simp [settled.phase_eq]
          change Ended plan answers (count + 1) (none :: endsUpTo rig count next) (.ok false next)
          rw [endsUpTo_idle idle]
          change Ended plan answers (count + 1) (List.replicate 1 none) (.ok false next)
          exact .settled settled
      | @erred error next underway =>
          change Ended plan answers (count + 1) (List.replicate 0 none ++ [some error])
            (.error (.error error) next)
          exact .erred underway
      | @exhausted next full running =>
          change Ended plan answers (count + 1) (List.replicate 0 none)
            (.error (.fault .addOverflow) next)
          exact .exhausted (Nat.succ_pos count) (by simpa using full)
      | faulted restless => exact .faulted restless

theorem run_runToCompletion (rig : Rig State Store) (cycle : Cycle State Store Memory) :
    (runToCompletion rig).run cycle =
      EStateM.run (discard (stepUpTo rig (UInt32.size - cycle.tick.toNat))) cycle := by
  simp only [runToCompletion, EStateM.run_bind, EStateM.run_get]

inductive Finish (plan : Plan Memory) :
    EStateM.Result Stop (Cycle State Store Memory) Unit → Prop where
  | settled {next : Cycle State Store Memory} :
      next.Over plan (List.replicate plan.captureTick none) → Finish plan (.ok () next)
  | erred {made : Nat} {error : Error} {next : Cycle State Store Memory} :
      made < plan.captureTick →
      next.Underway plan (List.replicate made none ++ [some error]) →
      Finish plan (.error (.error error) next)
  | faulted {fault : Fault} {next : Cycle State Store Memory} :
      ¬ plan.Calm → Finish plan (.error (.fault fault) next)

/-- From its start a cycle has steps enough to come to its capture, and too few to lose count. -/
theorem finish_of_underway {plan : Plan Memory} {cycle : Cycle State Store Memory}
    (underway : cycle.Underway plan []) (rig : Rig State Store) :
    Finish plan ((runToCompletion rig).run cycle) := by
  have tick : cycle.tick.toNat = 0 := underway.waiting.tick_eq
  have ended := ended_of_underway underway rig (UInt32.size - cycle.tick.toNat)
  have captureTick := plan.config.captureTick.toNat_lt_size
  rw [run_runToCompletion, run_discard]
  generalize endsUpTo rig (UInt32.size - cycle.tick.toNat) cycle = ends at ended
  generalize (stepUpTo rig (UInt32.size - cycle.tick.toNat)).run cycle = result at ended ⊢
  cases ended with
  | on underway =>
      have early := underway.early
      rw [List.nil_append, passed_replicate, Plan.captureTick] at early
      omega
  | @settled made next settled =>
      rw [List.nil_append] at settled
      have complete := settled.complete
      rw [passed_replicate] at complete
      exact .settled (complete ▸ settled)
  | @erred made error next underway =>
      rw [List.nil_append] at underway
      refine .erred ?_ underway
      simpa using underway.early
  | @exhausted made next few full =>
      rw [List.nil_append, List.length_replicate] at full
      have sizes : UInt32.size + 1 < UInt64.size := by decide
      omega
  | faulted restless => exact .faulted restless

end FrameCycle.Cycle
