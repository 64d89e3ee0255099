import FrameCycle.Proofs.Cycle.Return
import FrameCycle.Proofs.Resume

/-!
Single steps. Whatever a caller orders comes to a number of them, and a cycle that is over was led
there by one of them, from a cycle that was under way.
-/
namespace FrameCycle

variable {State Store Memory : Type}

theorem Cycle.Returned.terminating {rig : Rig State Store}
    {before last : Cycle State Store Memory} (returned : before.Returned rig false last) :
    last.phase = .terminating := by
  cases returned
  rfl

namespace Served

/-- What is served after up to `count` steps. -/
def upTo (rig : Rig State Store) (count : Nat) (ends : List (Option Error))
    (cycle : Cycle State Store Memory) : Served State Store Memory :=
  let ends := ends ++ Cycle.endsUpTo rig count cycle
  match (Cycle.stepUpTo rig count).run cycle with
  | .ok _ next => ⟨ends, next, none⟩
  | .error (.error _) next => ⟨ends, next, none⟩
  | .error (.fault fault) next => ⟨ends, next, some fault⟩

theorem obey_eq_upTo (rig : Rig State Store) (ends : List (Option Error))
    (cycle : Cycle State Store Memory) (order : Order) :
    (⟨ends, cycle, none⟩ : Served State Store Memory).obey rig order =
      upTo rig (order.limit cycle) ends cycle := by
  simp only [obey, upTo, order.run_work, Cycle.run_discard, Order.ends]
  rcases (Cycle.stepUpTo rig (order.limit cycle)).run cycle with
    ⟨going, next⟩ | ⟨error | fault, next⟩ <;> rfl

theorem upTo_succ {cycle : Cycle State Store Memory} (running : cycle.phase = .running)
    (rig : Rig State Store) (count : Nat) (ends : List (Option Error)) :
    upTo rig (count + 1) ends cycle =
      match (Cycle.step rig).run cycle with
      | .ok true next => upTo rig count (ends ++ [none]) next
      | .ok false next => ⟨ends ++ [none], next, none⟩
      | .error (.error error) next => ⟨ends ++ [some error], next, none⟩
      | .error (.fault fault) next => ⟨ends, next, some fault⟩ := by
  simp only [upTo, Cycle.stepUpTo, Cycle.endsUpTo, if_pos running, EStateM.run_bind]
  rcases ran : (Cycle.step rig).run cycle with ⟨going, next⟩ | ⟨error | fault, next⟩
  · cases going with
    | true =>
        simp only [List.append_assoc, List.singleton_append]
        rfl
    | false =>
        have idle : next.phase ≠ .running := by
          simp [(Cycle.returned_of_step running ran).terminating]
        simp only [Cycle.endsUpTo_idle idle]
        rfl
  · rfl
  · simp only [List.append_nil]

theorem upTo_eq_steps (rig : Rig State Store) (count : Nat) (ends : List (Option Error))
    (cycle : Cycle State Store Memory) :
    ∃ made, upTo rig count ends cycle =
      (List.replicate made Order.step).foldl (obey rig) ⟨ends, cycle, none⟩ := by
  induction count generalizing ends cycle with
  | zero => exact ⟨0, by simp [upTo, Cycle.stepUpTo, Cycle.endsUpTo]⟩
  | succ count inductionHypothesis =>
      by_cases running : cycle.phase = .running
      · have single := obey_step running ends rig
        rw [upTo_succ running]
        rcases ran : (Cycle.step rig).run cycle with ⟨going, next⟩ | ⟨error | fault, next⟩
        · rw [ran] at single
          cases going with
          | true =>
              obtain ⟨made, further⟩ := inductionHypothesis (ends ++ [none]) next
              refine ⟨made + 1, ?_⟩
              rw [List.replicate_succ, List.foldl_cons, single]
              exact further
          | false => exact ⟨1, single.symm⟩
        · rw [ran] at single
          exact ⟨1, single.symm⟩
        · rw [ran] at single
          exact ⟨1, single.symm⟩
      · refine ⟨0, ?_⟩
        simp only [upTo, Cycle.run_stepUpTo_idle running, Cycle.endsUpTo_idle running,
          List.append_nil]
        rfl

theorem obey_eq_steps (rig : Rig State Store) (served : Served State Store Memory)
    (order : Order) :
    ∃ made, served.obey rig order = (List.replicate made Order.step).foldl (obey rig) served := by
  rcases served with ⟨ends, cycle, fault | fault⟩
  · rw [obey_eq_upTo]
    exact upTo_eq_steps rig (order.limit cycle) ends cycle
  · exact ⟨0, rfl⟩

end Served

/-- Whatever a caller orders comes to a number of single steps. -/
theorem serve_eq_steps (rig : Rig State Store) (cycle : Cycle State Store Memory)
    (orders : List Order) : ∃ count, serve rig cycle orders = steps rig cycle count := by
  suffices ∀ served : Served State Store Memory, ∃ count, orders.foldl (Served.obey rig) served =
      (List.replicate count Order.step).foldl (Served.obey rig) served from this ⟨[], cycle, none⟩
  induction orders with
  | nil => exact fun _ => ⟨0, rfl⟩
  | cons order rest inductionHypothesis =>
      intro served
      obtain ⟨made, first⟩ := served.obey_eq_steps rig order
      obtain ⟨further, later⟩ := inductionHypothesis (served.obey rig order)
      refine ⟨made + further, ?_⟩
      rw [List.foldl_cons, later, first, List.replicate_add, List.foldl_append]

theorem Served.Paced.whole_of_terminating {plan : Plan Memory} {count : Nat}
    {served : Served State Store Memory} (paced : served.Paced plan count)
    (terminating : served.cycle.phase = .terminating) : served.fault = none := by
  cases paced with
  | underway underway many => rfl
  | settled settled => rfl
  | exhausted full few running => cases running.symm.trans terminating

/-- As long as no fault has stopped it, a cycle is under way, or a step has ended it. -/
theorem underway_or_ended {plan : Plan Memory} {cycle : Cycle State Store Memory}
    (underway : cycle.Underway plan []) {rig : Rig State Store} {count : Nat}
    (whole : (steps rig cycle count).fault = none) :
    (∃ ends, (steps rig cycle count).cycle.Underway plan ends) ∨
      ∃ made ends, (steps rig cycle made).cycle.Underway plan ends ∧
        (Cycle.step rig).run (steps rig cycle made).cycle =
          .ok false (steps rig cycle count).cycle := by
  induction count with
  | zero => exact .inl ⟨[], underway⟩
  | succ count inductionHypothesis =>
      rw [steps_succ] at whole ⊢
      generalize served : steps rig cycle count = earlier at whole inductionHypothesis ⊢
      rcases earlier with ⟨answers, earlier, fault | fault⟩
      · rcases inductionHypothesis rfl with ⟨ends, underway⟩ | ⟨made, ends, before, ran⟩
        · have stepped := Cycle.stepped_of_underway underway rig
          rw [Served.obey_step underway.waiting.phase_eq] at whole ⊢
          cases ran : (Cycle.step rig).run earlier with
          | ok going next =>
              rw [ran] at stepped
              cases stepped with
              | ticked underway => exact .inl ⟨_, underway⟩
              | captured settled =>
                  refine .inr ⟨count, ends, ?_, ?_⟩
                  · rw [served]
                    exact underway
                  · rw [served]
                    exact ran
          | error stop next =>
              rw [ran] at stepped whole
              cases stepped with
              | erred underway => exact .inl ⟨_, underway⟩
              | exhausted full running => cases whole
              | faulted restless => cases whole
        · have terminating : earlier.phase = .terminating :=
            (Cycle.returned_of_step before.waiting.phase_eq ran).terminating
          rw [Served.obey_step_idle (by simp [terminating])]
          exact .inr ⟨made, ends, before, ran⟩
      · cases whole

end FrameCycle
