import FrameCycle.Proofs.Cycle.Service
import FrameCycle.Proofs.Outcome
import FrameCycle.Proofs.Requests
import FrameCycle.Proofs.ImageFiles

/-!
The linked program. Its filters and its library are handed buffers of the sizes that they take them
to have, in every step and in the capture, and so nothing fails in a run but the writing of images.
-/
namespace FrameCycle

variable {State Memory : Type}

/-- The buffers of a cycle pass every check in the steps up to its capture and in the capture, and
nothing is called after it. -/
theorem exact_steps {Store : Type} {plan : Plan Memory} {resizers : Resizers Memory}
    {cycle : Cycle State Store Memory} (linked : plan.Linked resizers)
    (underway : cycle.Underway plan []) (rig : Rig State Store) (count : Nat) :
    ∃ reached, steps rig cycle count =
        ⟨List.replicate (min count plan.captureTick) none, reached, none⟩ ∧
      reached.Exact plan resizers (min count plan.captureTick)
        (if count < plan.captureTick then 0 else 1) := by
  by_cases early : count < plan.captureTick
  · obtain ⟨reached, served, going⟩ := steps_before_capture linked underway rig early
    rw [Nat.min_eq_left early.le, if_pos early]
    exact ⟨reached, served, Cycle.exact_of_underway linked going⟩
  · obtain ⟨before, last, going, ran, -, served⟩ := steps_from_capture linked underway rig
    have positive : 0 < plan.captureTick := underway.early
    have exact := Cycle.exact_of_captures linked going (Cycle.captures_of_step going ran)
    rw [Nat.sub_add_cancel positive] at exact
    rw [Nat.min_eq_right (Nat.le_of_not_lt early), if_neg early]
    exact ⟨last, served count (Nat.le_of_not_lt early), exact⟩

namespace Program

variable {library : Machine.Library State} {resizers : Resizers Memory} {state : State}
  {clock : Clock} {filter : Log.Filter} {arguments : List (List UInt8)} {files : FileSystem}
  {options : Options} {session : Session State} {log : Option LogFile} {config : Config}
  {ready : FileSystem}

theorem runLinked_eq_ran
    (ran : runLinked library resizers state clock filter arguments files = .ran options session) :
    session = execute library resizers state clock filter options files := by
  unfold runLinked at ran
  split at ran <;> cases ran
  rfl

theorem isSome_upscalers (library : Machine.Library State) (resizers : Resizers Memory)
    (state : State) (config : Config) :
    (plan library resizers state config).upscalers.isSome = config.upscale := by
  simp only [plan, Rig.plan, upscalers]
  cases config.upscale <;> rfl

/-- A session that has come to its end after so many frames. Its capture lists a path or an error
for each image, and no error but those of image files; its library has been told the right sizes. -/
structure Session.Captures (session : Session State) (plan : Plan Memory) (frames : Nat) :
    Prop where
  completed : ∃ report captured, session.ending = .finished (.completed report) ∧
    report.frames.toNat = frames ∧ report.capture = some captured ∧
    captured.exported.length + captured.failures.length = (if plan.config.upscale then 3 else 1) ∧
    ∀ error ∈ captured.failures, ∃ path cause, error = .image path cause
  updates_eq : session.machine.updates = frames
  covered : session.machine.Covered plan.width plan.height

section Started

variable {cycle : Cycle (Machine.Instance State) FileSystem Memory}
  (prepared : Prepared filter options files log config ready)
  (started : Cycle.start ⟨library.core, Png.sink⟩ config (upscalers resizers config)
    (.ready (.unbound state) ready clock) = .started cycle)

include prepared started

theorem captures_of_started :
    (execute library resizers state clock filter options files).Captures
      (plan library resizers state config) config.captureTick.toNat := by
  have linked := linked_of_started started
  obtain ⟨before, last, going, stepped, settled, -, ran⟩ :=
    run_of_linked linked started prepared.positive
  obtain ⟨captured, reported, listed, stored⟩ := Cycle.reported_of_step linked going stepped
  have covered := covered_of_run started prepared.positive
  have updates :=
    updates_of_run library Png.sink config (upscalers resizers config) state ready clock
  rw [isSome_upscalers] at listed
  simp only [ran] at covered updates
  rw [execute_of_prepared prepared, benchmark, ran]
  refine ⟨⟨last.runReport, captured, rfl, ?_, reported, listed, ?_⟩, ?_, covered⟩
  · exact settled.reached.frames_eq.trans List.length_replicate
  · intro error failed
    obtain ⟨files, path, frame, refused⟩ := stored error failed
    exact ⟨path, Png.image_of_write refused⟩
  · have advances := (Cycle.accounts_of_over settled).advances
    rw [List.length_replicate] at advances
    have released := Bench.demands_released (Bench.calls_finish ⟨library.core, Png.sink⟩ last)
    rw [updates, Bench.demands_log, released, List.count_append, advances]
    rfl

/-- A session reports what single steps lead to. -/
theorem ending_of_steps {count : Nat} (late : config.captureTick.toNat ≤ count) :
    (execute library resizers state clock filter options files).ending =
      .finished (.completed (steps ⟨library.core, Png.sink⟩ cycle count).cycle.runReport) := by
  obtain ⟨before, last, -, -, -, served, ran⟩ :=
    run_of_linked (linked_of_started started) started prepared.positive
  rw [execute_of_prepared prepared, benchmark, ran, served count late]
  rfl

end Started

/-- A linked program that has been prepared does not fail. Once its cycle has started, the buffers
of each step and of the capture pass the check of the filters, and the filters and the library hear
of the right sizes only; the cycle makes 150 frames and its report lists no upscale that failed. -/
theorem runLinked_fits (library : Machine.Library State) (resizers : Resizers Memory)
    (state : State) (clock : Clock) (filter : Log.Filter) (arguments : List (List UInt8))
    (files : FileSystem) {options : Options} {session : Session State}
    (ran : runLinked library resizers state clock filter arguments files = .ran options session)
    {log : Option LogFile} {config : Config} {ready : FileSystem}
    (prepared : Prepared filter options files log config ready) :
    (∀ error, session.ending ≠ .failed error) ∧
    ∀ cycle, Cycle.start ⟨library.core, Png.sink⟩ config (upscalers resizers config)
        (.ready (.unbound state) ready clock) = .started cycle →
      session.Captures (plan library resizers state config) 150 ∧
      ∀ count, ∃ reached, steps ⟨library.core, Png.sink⟩ cycle count =
          ⟨List.replicate (min count 150) none, reached, none⟩ ∧
        reached.Exact (plan library resizers state config) resizers (min count 150)
          (if count < 150 then 0 else 1) ∧
        (150 ≤ count → session.ending = .finished (.completed reached.runReport)) := by
  obtain rfl := runLinked_eq_ran ran
  have due : config.captureTick.toNat = 150 := congrArg UInt32.toNat prepared.captureTick_eq
  have proceeds : Proceeds library resizers state options files config ready
      (execute library resizers state clock filter options files) :=
    proceeds_of_prepared clock prepared
  constructor
  · intro error failed
    rcases proceeds.not_failed with ending | ⟨report, ending⟩ | ⟨fault, ending⟩ <;>
      cases ending.symm.trans failed
  · intro cycle started
    have captures := captures_of_started prepared started
    have underway := Cycle.underway_of_start started prepared.positive
    have late : (plan library resizers state config).captureTick = 150 := due
    rw [due] at captures
    refine ⟨captures, fun count => ?_⟩
    obtain ⟨reached, served, exact⟩ :=
      exact_steps (linked_of_started started) underway ⟨library.core, Png.sink⟩ count
    rw [late] at served exact
    refine ⟨reached, served, exact, fun passed => ?_⟩
    rw [ending_of_steps prepared started (due ▸ passed), served]

/-- Without arguments the test card is shown and enlarged 150 times. -/
theorem runLinked_fits_testCard :
    ∃ options session, runLinked Machine.TestCard.library .nearest .standard
        (.ofReadings fun _ => 0) .standard [] (.empty []) = .ran options session ∧
      session.Captures (plan Machine.TestCard.library .nearest .standard .standard) 150 := by
  have parsed : Options.parse [] = .ok .none := rfl
  have ran : runLinked Machine.TestCard.library .nearest .standard (.ofReadings fun _ => 0)
      .standard [] (.empty []) = .ran .none (execute Machine.TestCard.library .nearest .standard
        (.ofReadings fun _ => 0) .standard .none (.empty [])) := by
    simp only [runLinked, parsed]
  have prepared : Prepared .standard .none (.empty []) none .standard (.empty []) :=
    ⟨.empty [], ⟨none, .empty [], rfl, rfl⟩, rfl, rfl⟩
  obtain ⟨cycle, started⟩ : ∃ cycle, Cycle.start ⟨Machine.TestCard.library.core, Png.sink⟩ .standard
      (upscalers .nearest .standard) (.ready (.unbound .standard) (.empty [])
        (.ofReadings fun _ => 0)) = .started cycle := ⟨_, rfl⟩
  exact ⟨_, _, ran, ((runLinked_fits _ _ _ _ _ _ _ ran prepared).2 cycle started).1⟩

end Program

end FrameCycle
