import FrameCycle.Proofs.Cycle.Single
import FrameCycle.Proofs.Cycle.Turn

/-!
The loop that runs a cycle to its end. It is one step and, as long as that one says so, the loop
again; so a caller who makes some of its steps himself and leaves it the rest gets the same run.
-/
namespace FrameCycle

variable {State Store Memory : Type}

namespace Cycle

variable {rig : Rig State Store} {cycle next : Cycle State Store Memory}

theorem running_of_step (ran : (step rig).run cycle = .ok true next) : cycle.phase = .running := by
  by_contra idle
  rw [run_step_idle cycle rig idle] at ran
  cases ran

/-- A step that goes on takes one of the steps that were left. -/
theorem left_of_step (ran : (step rig).run cycle = .ok true next) :
    UInt32.size - cycle.tick.toNat = UInt32.size - next.tick.toNat + 1 := by
  cases returned_of_step (running_of_step ran) ran with
  | ticked exposed tick early =>
      have := next.tick.toNat_lt_size
      omega

theorem run_stepUpTo_of_step (ran : (step rig).run cycle = .ok true next) (count : Nat) :
    (stepUpTo rig (count + 1)).run cycle = (stepUpTo rig count).run next := by
  simp only [stepUpTo, EStateM.run_bind, ran, ↓reduceIte]

theorem run_runToCompletion_eq (rig : Rig State Store) (cycle : Cycle State Store Memory) :
    (runToCompletion rig).run cycle =
      match (step rig).run cycle with
      | .ok true next => (runToCompletion rig).run next
      | .ok false next => .ok () next
      | .error stop next => .error stop next := by
  rw [run_runToCompletion, run_discard]
  obtain ⟨count, limit⟩ := Nat.exists_eq_add_one.mpr (Nat.sub_pos_of_lt cycle.tick.toNat_lt_size)
  cases ran : (step rig).run cycle with
  | error stop next => simp only [limit, stepUpTo, EStateM.run_bind, ran]
  | ok going next =>
      cases going with
      | false => simp only [limit, stepUpTo, EStateM.run_bind, ran]; rfl
      | true =>
          simp only [left_of_step ran, run_stepUpTo_of_step ran, run_runToCompletion, run_discard]

/-- In no step from here does the upscaler for every frame fail. -/
def Undisturbed (rig : Rig State Store) (cycle : Cycle State Store Memory) : Prop :=
  ∀ count before, (stepUpTo rig count).run cycle = .ok true before →
    before.enlargement rig.core = .ok ()

theorem undisturbed_iff :
    cycle.Undisturbed rig ↔ cycle.enlargement rig.core = .ok () ∧
      ∀ next, (step rig).run cycle = .ok true next → next.Undisturbed rig := by
  constructor
  · intro undisturbed
    refine ⟨undisturbed 0 cycle rfl, fun next ran count before reached => ?_⟩
    exact undisturbed (count + 1) before ((run_stepUpTo_of_step ran count).trans reached)
  · rintro ⟨answer, later⟩ count before reached
    cases count with
    | zero =>
        cases reached
        exact answer
    | succ count =>
        obtain ⟨going, next, ran, rest⟩ := run_bind_eq_ok.mp reached
        cases going with
        | true => exact later next ran count before rest
        | false => cases rest

theorem undisturbed_of_bare (bare : cycle.pipeline = none) : cycle.Undisturbed rig := by
  intro count before reached
  induction count generalizing cycle with
  | zero =>
      cases reached
      simp [enlargement, bare]
  | succ count inductionHypothesis =>
      obtain ⟨going, next, ran, rest⟩ := run_bind_eq_ok.mp reached
      cases going with
      | true =>
          cases returned_of_step (running_of_step ran) ran with
          | ticked exposed tick early =>
              exact inductionHypothesis (by rw [exposed.pipeline_eq, bare]; rfl) rest
      | false => cases rest

end Cycle

namespace Served

variable {rig : Rig State Store} {cycle : Cycle State Store Memory}

theorem obey_idle (idle : cycle.phase ≠ .running) (ends : List (Option Error))
    (rig : Rig State Store) (order : Order) :
    (⟨ends, cycle, none⟩ : Served State Store Memory).obey rig order = ⟨ends, cycle, none⟩ := by
  obtain ⟨count, limit⟩ := Nat.exists_eq_add_one.mpr (order.limit_pos cycle)
  rw [obey_eq_upTo, limit]
  simp only [upTo, Cycle.run_stepUpTo_idle idle, Cycle.endsUpTo_idle idle, List.append_nil]

/-- The loop is one step, and what is left of it. -/
theorem obey_complete (running : cycle.phase = .running) (ends : List (Option Error))
    (rig : Rig State Store) :
    (⟨ends, cycle, none⟩ : Served State Store Memory).obey rig .complete =
      match (Cycle.step rig).run cycle with
      | .ok true next =>
          (⟨ends ++ [none], next, none⟩ : Served State Store Memory).obey rig .complete
      | .ok false next => ⟨ends ++ [none], next, none⟩
      | .error (.error error) next => ⟨ends ++ [some error], next, none⟩
      | .error (.fault fault) next => ⟨ends, next, some fault⟩ := by
  obtain ⟨count, limit⟩ := Nat.exists_eq_add_one.mpr (Order.complete.limit_pos cycle)
  rw [obey_eq_upTo, limit, upTo_succ running]
  rcases ran : (Cycle.step rig).run cycle with ⟨going, next⟩ | ⟨error | fault, next⟩
  · cases going with
    | true =>
        have left := Cycle.left_of_step ran
        change Order.complete.limit cycle = Order.complete.limit next + 1 at left
        rw [limit] at left
        simp only [obey_eq_upTo, Nat.succ.inj left]
    | false => rfl
  · rfl
  · rfl

/-- Steps that are made before the loop are taken from the loop, as long as none of them errs. -/
theorem foldl_obey_steps_complete (running : cycle.phase = .running) (counted : cycle.Counted)
    (undisturbed : cycle.Undisturbed rig) (ends : List (Option Error)) (count : Nat) :
    (List.replicate count Order.step ++ [Order.complete]).foldl (obey rig) ⟨ends, cycle, none⟩ =
      (⟨ends, cycle, none⟩ : Served State Store Memory).obey rig .complete := by
  induction count generalizing cycle ends with
  | zero => rfl
  | succ count inductionHypothesis =>
      obtain ⟨answer, later⟩ := Cycle.undisturbed_iff.mp undisturbed
      have turned := Cycle.turned_of_step counted running rig
      rw [List.replicate_succ, List.cons_append, List.foldl_cons, obey_step running,
        obey_complete running]
      cases ran : (Cycle.step rig).run cycle with
      | ok going next =>
          rw [ran] at turned
          cases turned with
          | ticked answer tick frames counted kept =>
              exact inductionHypothesis (kept.phase_eq.trans running) counted (later next ran) _
          | captured =>
              have idle : next.phase ≠ .running := by
                simp [(Cycle.returned_of_step running ran).terminating]
              exact List.foldl_fixed' (fun order => obey_idle idle _ rig order) _
      | error stop next =>
          rw [ran] at turned
          -- an error would be left to the caller, who makes the next step; a fault is not
          cases stop with
          | error error =>
              cases turned with
              | stopped erred => cases answer.symm.trans erred
          | fault fault => exact List.foldl_fixed' (fun order => rfl) _

end Served

/-- A caller who makes some steps of an undisturbed run himself gets the run of the loop. -/
theorem serve_steps_complete {rig : Rig State Store} {cycle : Cycle State Store Memory}
    (running : cycle.phase = .running) (counted : cycle.Counted)
    (undisturbed : cycle.Undisturbed rig) (count : Nat) :
    serve rig cycle (List.replicate count .step ++ [.complete]) = serve rig cycle [.complete] :=
  Served.foldl_obey_steps_complete running counted undisturbed [] count

end FrameCycle
