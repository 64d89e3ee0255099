import FrameCycle.Proofs.Completion
import FrameCycle.Proofs.Cycle.Loop
import FrameCycle.Proofs.Startup

/-!
Where the loop ends. Every step that does not fail brings the capture one tick nearer, so the loop
ends as many ticks from here as the capture is away. No tick comes from no step, so a capture at
tick 0 is never due: the loop then ends only where the ticks do.
-/
namespace FrameCycle

variable {State Store Memory : Type}

namespace Cycle

/-- How the loop ends that runs a cycle whose capture is `left` ticks away, and after which step. -/
inductive Ending (rig : Rig State Store) (cycle : Cycle State Store Memory) (left : Nat) :
    EStateM.Result Stop (Cycle State Store Memory) Unit → Prop where
  | completed {made : Nat} {before last : Cycle State Store Memory} :
      made + 1 = left → (stepUpTo rig made).run cycle = .ok true before →
      (step rig).run before = .ok false last → last.phase = .terminating →
      cycle.Undisturbed rig → Ending rig cycle left (.ok () last)
  /-- The steps before the one that erred have all gone on, so its failure is the first. -/
  | erred {made : Nat} {error : Error} {before last : Cycle State Store Memory} :
      made < left → (stepUpTo rig made).run cycle = .ok true before →
      before.enlargement rig.core = .error (.error error) →
      (step rig).run before = .error (.error error) last →
      Ending rig cycle left (.error (.error error) last)
  /-- The frames cannot be counted any more. -/
  | exhausted {made : Nat} {before last : Cycle State Store Memory} :
      made < left → (stepUpTo rig made).run cycle = .ok true before →
      before.frames.toNat + 1 = UInt64.size →
      (step rig).run before = .error (.fault .addOverflow) last →
      Ending rig cycle left (.error (.fault .addOverflow) last)

variable {rig : Rig State Store} {cycle next : Cycle State Store Memory}

theorem Ending.cons {left : Nat} {result : EStateM.Result Stop (Cycle State Store Memory) Unit}
    (ending : Ending rig next left result) (ran : (step rig).run cycle = .ok true next)
    (answer : cycle.enlargement rig.core = .ok ()) : Ending rig cycle (left + 1) result := by
  have shift := fun made => run_stepUpTo_of_step ran made
  cases ending with
  | completed last reached stepped terminating undisturbed =>
      refine .completed (Nat.succ_inj.mpr last) ((shift _).trans reached) stepped terminating ?_
      refine undisturbed_iff.mpr ⟨answer, fun other stepped => ?_⟩
      cases ran.symm.trans stepped
      exact undisturbed
  | erred early reached failure stepped =>
      exact .erred (Nat.succ_lt_succ early) ((shift _).trans reached) failure stepped
  | exhausted early reached full stepped =>
      exact .exhausted (Nat.succ_lt_succ early) ((shift _).trans reached) full stepped

theorem ending_of_underway {plan : Plan Memory} (calm : plan.Calm) {answers : List (Option Error)}
    (underway : cycle.Underway plan answers) (rig : Rig State Store) {left : Nat}
    (away : passed answers + left = plan.captureTick) :
    Ending rig cycle left ((runToCompletion rig).run cycle) := by
  -- a step that goes on leaves one tick less, and the cycle under way
  induction left generalizing answers cycle with
  | zero =>
      have early := underway.early
      omega
  | succ left inductionHypothesis =>
      have stepped := stepped_of_underway underway rig
      have answer := enlargement_of_step underway.counted underway.waiting.phase_eq rig
      rw [run_runToCompletion_eq]
      cases ran : (step rig).run cycle with
      | ok going next =>
          rw [ran] at stepped answer
          cases stepped with
          | ticked underway =>
              refine (inductionHypothesis underway ?_).cons ran answer
              rw [passed_append, passed_none]
              omega
          | captured settled =>
              have complete := settled.complete
              rw [passed_append, passed_none] at complete
              have last : 0 + 1 = left + 1 := by omega
              refine .completed last rfl ran settled.phase_eq ?_
              refine undisturbed_iff.mpr ⟨answer, fun other stepped => ?_⟩
              cases ran.symm.trans stepped
      | error stop next =>
          rw [ran] at stepped answer
          cases stepped with
          | erred underway => exact .erred (Nat.succ_pos left) rfl answer ran
          | exhausted full running =>
              exact .exhausted (Nat.succ_pos left) rfl (underway.reached.frames_eq ▸ full) ran
          | faulted restless => exact absurd calm restless

/-- On its way the loop counts every step as a frame and as a tick, and never passes the tick of
the capture. -/
theorem ticks_of_underway {plan : Plan Memory} {answers : List (Option Error)}
    (underway : cycle.Underway plan answers) {count : Nat} {before : Cycle State Store Memory}
    (reached : (stepUpTo rig count).run cycle = .ok true before) :
    before.tick.toNat = cycle.tick.toNat + count ∧
      before.frames.toNat = cycle.frames.toNat + count ∧
      before.tick.toNat + 1 ≤ plan.captureTick := by
  have ended := ended_of_underway underway rig count
  rw [reached] at ended
  generalize endsUpTo rig count cycle = ends at ended
  cases ended with
  | on onward =>
      have early := onward.early
      have tick := onward.waiting.tick_eq
      have frames := onward.reached.frames_eq
      rw [passed_append, passed_replicate] at early tick
      rw [List.length_append, List.length_replicate] at frames
      rw [underway.waiting.tick_eq, underway.reached.frames_eq]
      omega

/-- What is known of a running cycle whose capture is still to come. -/
structure Converges (rig : Rig State Store) (captureTick : Nat)
    (cycle : Cycle State Store Memory) : Prop where
  ending : cycle.Ending rig (captureTick - cycle.tick.toNat) ((runToCompletion rig).run cycle)
  completes : cycle.Undisturbed rig →
    cycle.frames.toNat + (captureTick - cycle.tick.toNat) < UInt64.size →
    ∃ last, (runToCompletion rig).run cycle = .ok () last ∧ last.phase = .terminating
  ticks : ∀ count before, (stepUpTo rig count).run cycle = .ok true before →
    before.tick.toNat = cycle.tick.toNat + count ∧
      before.frames.toNat = cycle.frames.toNat + count ∧
      before.tick.toNat + 1 ≤ captureTick
  resumes : cycle.Undisturbed rig → ∀ count,
    serve rig cycle (List.replicate count .step ++ [.complete]) = serve rig cycle [.complete]

/-- What is known of a cycle that was started with a capture at tick 0. -/
structure Revolves (rig : Rig State Store) (opening cycle : Cycle State Store Memory) : Prop where
  step_on : ∀ last, (step rig).run cycle ≠ .ok false last
  complete_never : ∀ last, (runToCompletion rig).run cycle ≠ .ok () last
  unfired : cycle.latch.fired = false
  unreported : cycle.report = none
  kept : Kept opening cycle

/-- A cycle whose steps go on to the last tick there is, and stop there. -/
structure Overflows (rig : Rig State Store) (cycle : Cycle State Store Memory) : Prop where
  ticks : ∀ count < UInt32.size, ∃ next, (stepUpTo rig count).run cycle = .ok true next ∧
    next.tick.toNat = count
  stops : ∀ next, (stepUpTo rig (UInt32.size - 1)).run cycle = .ok true next →
    ∃ fault last, (step rig).run next = .error (.fault fault) last ∧
      fault.message = "attempt to add with overflow"

theorem converges_of_underway {plan : Plan Memory} (calm : plan.Calm)
    {answers : List (Option Error)} (underway : cycle.Underway plan answers)
    (rig : Rig State Store) : cycle.Converges rig plan.captureTick := by
  have away : passed answers + (plan.captureTick - cycle.tick.toNat) = plan.captureTick := by
    have early := underway.early
    rw [underway.waiting.tick_eq]
    omega
  have ending := ending_of_underway calm underway rig away
  refine ⟨ending, fun undisturbed room => ?_, fun count before => ticks_of_underway underway,
    serve_steps_complete underway.waiting.phase_eq underway.counted⟩
  generalize (runToCompletion rig).run cycle = result at ending ⊢
  cases ending with
  | completed last reached stepped terminating => exact ⟨_, rfl, terminating⟩
  | erred early reached failure => cases (undisturbed _ _ reached).symm.trans failure
  | exhausted early reached full =>
      obtain ⟨-, frames, -⟩ := ticks_of_underway underway reached
      omega

theorem Blank.counted {plan : Plan Memory} (blank : cycle.Blank plan) : cycle.Counted := by
  refine ⟨?_, ?_⟩
  · rw [blank.displayStat_eq, blank.frames_eq]
    rfl
  · rw [blank.upscaleStat_eq]
    exact Nat.zero_le _

/-- A step whose capture is at tick 0 moves nothing that a capture moves. -/
theorem kept_of_step (running : cycle.phase = .running) (never : cycle.latch.tick = 0)
    (counted : cycle.Counted) (rig : Rig State Store) :
    match (step rig).run cycle with
    | .ok going next => going = true ∧ next.Counted ∧ Kept cycle next
    | .error _ next => next.Counted ∧ Kept cycle next := by
  have turned := turned_of_step counted running rig
  generalize (step rig).run cycle = result at turned ⊢
  cases turned with
  | stopped answer counted kept => exact ⟨counted, kept⟩
  | uncounted full counted kept => exact ⟨counted, kept⟩
  | unticked answer full counted kept => exact ⟨counted, kept⟩
  | ticked answer tick frames counted kept => exact ⟨rfl, counted, kept⟩
  | captured answer due => simp [never] at due
  | unshot answer due => simp [never] at due

theorem kept_steps (running : cycle.phase = .running) (never : cycle.latch.tick = 0)
    (counted : cycle.Counted) (rig : Rig State Store) (count : Nat) :
    (steps rig cycle count).cycle.Counted ∧ Kept cycle (steps rig cycle count).cycle := by
  induction count with
  | zero => exact ⟨counted, rfl, rfl, rfl, rfl, rfl⟩
  | succ count inductionHypothesis =>
      rw [steps_succ]
      generalize steps rig cycle count = served at inductionHypothesis ⊢
      rcases served with ⟨ends, earlier, fault | fault⟩
      · obtain ⟨counted, kept⟩ := inductionHypothesis
        have earlierRunning : earlier.phase = .running := kept.phase_eq.trans running
        have earlierNever : earlier.latch.tick = 0 := kept.latch_eq ▸ never
        have stepped := kept_of_step earlierRunning earlierNever counted rig
        rw [Served.obey_step earlierRunning]
        generalize (step rig).run earlier = result at stepped ⊢
        rcases result with ⟨going, next⟩ | ⟨error | fault, next⟩
        · exact ⟨stepped.2.1, kept.trans stepped.2.2⟩
        · exact ⟨stepped.1, kept.trans stepped.2⟩
        · exact ⟨stepped.1, kept.trans stepped.2⟩
      · exact inductionHypothesis

/-- Without a capture that is ever due, an undisturbed cycle goes on as long as it can count. -/
theorem ticked_of_undisturbed (running : cycle.phase = .running) (never : cycle.latch.tick = 0)
    (counted : cycle.Counted) (undisturbed : cycle.Undisturbed rig) (count : Nat)
    (ticks : cycle.tick.toNat + count < UInt32.size)
    (frames : cycle.frames.toNat + count < UInt64.size) :
    ∃ next, (stepUpTo rig count).run cycle = .ok true next ∧
      next.tick.toNat = cycle.tick.toNat + count ∧
      next.frames.toNat = cycle.frames.toNat + count ∧ next.Counted ∧ Kept cycle next := by
  -- both counters have room for every step up to the last, and no tick is that of the latch
  induction count generalizing cycle with
  | zero => exact ⟨cycle, rfl, rfl, rfl, counted, rfl, rfl, rfl, rfl, rfl⟩
  | succ count inductionHypothesis =>
      obtain ⟨answer, later⟩ := undisturbed_iff.mp undisturbed
      have turned := turned_of_step counted running rig
      cases ran : (step rig).run cycle with
      | ok going next =>
          rw [ran] at turned
          cases turned with
          | ticked answer tick shown counted kept =>
              obtain ⟨last, reached, lastTick, lastFrames, counted, still⟩ :=
                inductionHypothesis (kept.phase_eq.trans running) (kept.latch_eq ▸ never) counted
                  (later next ran) (by omega) (by omega)
              exact ⟨last, (run_stepUpTo_of_step ran count).trans reached, by omega, by omega,
                counted, kept.trans still⟩
          | captured answer due => simp [never] at due
      | error stop next =>
          rw [ran] at turned
          cases turned with
          | stopped erred => cases answer.symm.trans erred
          | uncounted full => omega
          | unticked answer full => omega
          | unshot answer due => simp [never] at due

theorem overflows_of_undisturbed (running : cycle.phase = .running)
    (never : cycle.latch.tick = 0) (counted : cycle.Counted) (tick : cycle.tick = 0)
    (frames : cycle.frames = 0) (undisturbed : cycle.Undisturbed rig) : cycle.Overflows rig := by
  have positive : 0 < UInt32.size := by decide
  have sizes : UInt32.size < UInt64.size := by decide
  have goesOn : ∀ count < UInt32.size, ∃ next, (stepUpTo rig count).run cycle = .ok true next ∧
      next.tick.toNat = count ∧ next.frames.toNat = count ∧ next.Counted ∧ Kept cycle next := by
    intro count few
    have ticked := ticked_of_undisturbed running never counted undisturbed count
      (by rw [tick]; simpa using few) (by rw [frames]; simpa using few.trans sizes)
    simpa only [tick, frames, UInt32.toNat_zero, UInt64.toNat_zero, Nat.zero_add] using ticked
  refine ⟨fun count few => ?_, fun next reached => ?_⟩
  · obtain ⟨next, reached, ticks, -⟩ := goesOn count few
    exact ⟨next, reached, ticks⟩
  · obtain ⟨other, same, ticks, shown, counted, kept⟩ :=
      goesOn (UInt32.size - 1) (by decide)
    cases reached.symm.trans same
    have answer := undisturbed _ next reached
    have turned := turned_of_step counted (kept.phase_eq.trans running) rig
    generalize (step rig).run next = result at turned ⊢
    cases turned with
    | stopped erred => cases answer.symm.trans erred
    | uncounted full => omega
    | @unticked last answer full => exact ⟨.addOverflow, last, rfl, rfl⟩
    | @ticked last answer tick =>
        have := last.tick.toNat_lt_size
        omega
    | captured answer due => simp [kept.latch_eq, never] at due
    | unshot answer due => simp [kept.latch_eq, never] at due

end Cycle

/-- As long as no fault has stopped it, a running cycle with a capture to come is run to its end in
as many steps as it has ticks to go, or to the first failure, whoever makes the steps. With a capture
at tick 0 it is not run to an end at all: if nothing fails, it goes on to the last tick there is. -/
theorem cycle_terminates {rig : Rig State Store} {config : Config}
    {upscalers : Option (Upscalers Memory)} {machine : State} {store : Store} {clock : Clock}
    {cycle : Cycle State Store Memory}
    (started : Cycle.start rig config upscalers (.ready machine store clock) = .started cycle) :
    (0 < config.captureTick → (rig.plan config upscalers machine).Calm →
      ∀ orders, (serve rig cycle orders).fault = none →
        (serve rig cycle orders).cycle.phase = .running →
        (serve rig cycle orders).cycle.Converges rig config.captureTick.toNat) ∧
    (config.captureTick = 0 →
      (∀ orders, Cycle.Revolves rig cycle (serve rig cycle orders).cycle) ∧
      (cycle.Undisturbed rig → cycle.Overflows rig)) := by
  constructor
  · intro positive calm orders whole running
    have sound : (serve rig cycle orders).Sound (rig.plan config upscalers machine) :=
      sound_foldl_obey calm (.underway (Cycle.underway_of_start started positive)) rig orders
    generalize serve rig cycle orders = served at sound whole running ⊢
    cases sound with
    | underway underway => exact Cycle.converges_of_underway calm underway rig
    | settled settled => cases settled.phase_eq.symm.trans running
    | exhausted full => cases whole
  · intro zero
    have blank := Cycle.blank_of_start started
    have never : cycle.latch.tick = 0 := by
      rw [blank.latch_eq]
      exact zero
    have counted := blank.counted
    refine ⟨fun orders => ?_, fun undisturbed => Cycle.overflows_of_undisturbed blank.phase_eq
      never counted blank.tick_eq blank.frames_eq undisturbed⟩
    obtain ⟨count, served⟩ := serve_eq_steps rig cycle orders
    obtain ⟨stillCounted, kept⟩ := Cycle.kept_steps blank.phase_eq never counted rig count
    rw [served]
    have running := kept.phase_eq.trans blank.phase_eq
    have stillNever := (congrArg Latch.tick kept.latch_eq).trans never
    refine ⟨fun last ran => ?_, fun last => Cycle.run_runToCompletion_never running stillNever, ?_,
      kept.report_eq.trans blank.report_eq, kept⟩
    · have stepped := Cycle.kept_of_step running stillNever stillCounted rig
      rw [ran] at stepped
      cases stepped.1
    · rw [kept.latch_eq, blank.latch_eq]
      rfl

def Config.unending : Config :=
  { short with captureTick := 0 }

/-- The loop errs with the second frame or comes to the end of three; with a capture at tick 0 it
goes on to the last tick. -/
theorem cycle_terminates_testCard :
    (∃ cycle, Cycle.start .testCard .short (some (.erringAt {1})) .testCard = .started cycle ∧
      cycle.Converges .testCard 3) ∧
    ∃ cycle, Cycle.start .testCard .unending (none : Option (Upscalers Unit)) .testCard =
      .started cycle ∧ cycle.Overflows .testCard := by
  constructor
  · obtain ⟨cycle, started⟩ : ∃ cycle,
        Cycle.start .testCard .short (some (.erringAt {1})) .testCard = .started cycle := ⟨_, rfl⟩
    obtain ⟨converges, -⟩ := cycle_terminates started
    exact ⟨cycle, started, converges (by decide) (Plan.calm_of_erringAt rfl) [] rfl
      (Cycle.blank_of_start started).phase_eq⟩
  · obtain ⟨cycle, started⟩ : ∃ cycle, Cycle.start .testCard .unending
        (none : Option (Upscalers Unit)) .testCard = .started cycle := ⟨_, rfl⟩
    obtain ⟨-, unending⟩ := cycle_terminates started
    have bare := (Cycle.blank_of_start started).bare rfl
    exact ⟨cycle, started, (unending rfl).2 (Cycle.undisturbed_of_bare bare)⟩

end FrameCycle
