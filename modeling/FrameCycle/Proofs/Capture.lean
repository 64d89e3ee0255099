import FrameCycle.Proofs.Plan

/-!
A capture that is due writes the frame, what was made of it for the display and, unless its own
upscaler errs, what that makes of it: exactly the shots of the plan, whatever writes fail.
-/
namespace FrameCycle

variable {State Store Memory : Type}

namespace Bench

/-- A shot hands over one image, and the report lists its path if it was stored. -/
theorem calls_shoot (sink : Sink Store) (directory : Path) (file : String) (frame : Frame)
    (report : CaptureReport) (bench : Bench State Store) :
    ∃ stored, (bench.shoot sink directory file frame report).2.calls =
        bench.calls ++ [.write (directory.join (.ofString file)) frame stored] ∧
      (bench.shoot sink directory file frame report).1.exported =
        report.exported ++ if stored then [directory.join (.ofString file)] else [] := by
  simp only [shoot]
  have calls := calls_write sink (directory.join (.ofString file)) frame
    (bench.log (.screenshot (directory.join (.ofString file))))
  rcases written : (bench.log (.screenshot (directory.join (.ofString file)))).write sink
    (directory.join (.ofString file)) frame with ⟨result, after⟩
  rw [written, calls_log] at calls
  cases result with
  | ok done => exact ⟨true, calls, rfl⟩
  | error error => exact ⟨false, (calls_log _ after).trans calls, (List.append_nil _).symm⟩

theorem demands_shoot (sink : Sink Store) (directory : Path) (file : String) (frame : Frame)
    (report : CaptureReport) (bench : Bench State Store) :
    (bench.shoot sink directory file frame report).2.demands =
      bench.demands ++
        [.write (directory.join (.ofString file)) frame.width.toNat frame.height.toNat] := by
  obtain ⟨stored, shot, -⟩ := calls_shoot sink directory file frame report bench
  simp [demands_eq, shot, Call.demand]

theorem calls_upscaleCapture (pipeline : Pipeline Memory) (frame : Frame)
    (bench : Bench State Store) :
    (bench.upscaleCapture pipeline frame).2.2.2.calls =
      bench.calls ++ [.upscale pipeline.capture.name pipeline.capture.factor] := by
  simp [upscaleCapture]

theorem demands_upscaleCapture (pipeline : Pipeline Memory) (frame : Frame)
    (bench : Bench State Store) :
    (bench.upscaleCapture pipeline frame).2.2.2.demands =
      bench.demands ++ [.upscale pipeline.capture.name pipeline.capture.factor] := by
  simp [demands_eq, calls_upscaleCapture, Call.demand]

theorem demands_shoot_stage {plan : Plan Memory} {stage : Stage Memory}
    {upscaler : Upscaler Memory} (fits : stage.Fits upscaler plan.width plan.height)
    (sink : Sink Store) (report : CaptureReport) (bench : Bench State Store) :
    (bench.shoot sink plan.config.outputDir (resizedFile stage.factor) stage.output
      report).2.demands = bench.demands ++ [plan.resized upscaler.factor] := by
  rw [demands_shoot, fits.outputWidth, fits.outputHeight, Stage.factor, fits.upscaler_eq]
  rfl

theorem calls_prefix_shoot (sink : Sink Store) (directory : Path) (file : String) (frame : Frame)
    (report : CaptureReport) (bench : Bench State Store) :
    bench.calls <+: (bench.shoot sink directory file frame report).2.calls := by
  obtain ⟨stored, shot, -⟩ := calls_shoot sink directory file frame report bench
  exact ⟨_, shot.symm⟩

theorem shootUpscaled_eq (sink : Sink Store) (directory : Path) (pipeline : Pipeline Memory)
    (frame : Frame) (report : CaptureReport) (bench : Bench State Store) :
    let first := bench.shoot sink directory (resizedFile pipeline.perFrame.factor)
      pipeline.perFrame.output report
    let time := (first.2.upscaleCapture pipeline frame).2.1
    let called := (first.2.upscaleCapture pipeline frame).2.2.2
    let left : Pipeline Memory := ⟨pipeline.perFrame, (pipeline.capture.run frame).2⟩
    let last := called.shoot sink directory (resizedFile left.capture.factor) left.capture.output
      { first.1 with upscaleTime := some time }
    bench.shootUpscaled sink directory pipeline frame report =
      match (pipeline.capture.run frame).1 with
      | .error (.fault fault) => (.error fault, left, called)
      | .error (.error error) =>
          (.ok ({ first.1 with upscaleTime := some time }.addFailure error), left,
            called.log (.upscaleFailed pipeline.capture.name error))
      | .ok () => (.ok last.1, left, last.2) := by
  simp only [shootUpscaled, upscaleCapture, Pipeline.runCapture]
  rcases (pipeline.capture.run frame).1 with (error | fault) | done <;> rfl

/-- The part of a capture that needs upscalers asks for the enlargements of the plan, unless the
upscaler for the capture ends in a fault. -/
theorem shootUpscaled_cases {plan : Plan Memory} {upscalers : Upscalers Memory}
    (present : plan.upscalers = some upscalers) {pipeline : Pipeline Memory}
    (fits : pipeline.Fits upscalers plan.width plan.height)
    (untouched : pipeline.capture =
      .fresh upscalers.capture upscalers.captureMemory plan.width plan.height)
    {frame : Frame} (width : frame.width = plan.width) (height : frame.height = plan.height)
    (sink : Sink Store) (report : CaptureReport) (bench : Bench State Store) :
    let shot := bench.shootUpscaled sink plan.config.outputDir pipeline frame report
    (∃ fault, shot.1 = .error fault ∧ ¬ plan.Calm) ∨
      (∃ report, shot.1 = .ok report ∧ shot.2.1.Fits upscalers plan.width plan.height ∧
        shot.2.1.perFrame = pipeline.perFrame ∧ bench.calls <+: shot.2.2.calls ∧
        shot.2.2.demands =
          bench.demands ++ plan.enlargements upscalers (plan.enlarges frame)) := by
  have enlarges : plan.enlarges frame = (pipeline.capture.run frame).1.isOk := by
    rw [untouched]
    simp [Plan.enlarges, present]
  have kept : Pipeline.Fits ⟨pipeline.perFrame, (pipeline.capture.run frame).2⟩ upscalers
      plan.width plan.height := ⟨fits.perFrame, fits.capture.run frame⟩
  have name : pipeline.capture.name = upscalers.capture.name :=
    congrArg Upscaler.name fits.capture.upscaler_eq
  have factor : pipeline.capture.factor = upscalers.capture.factor :=
    congrArg Upscaler.factor fits.capture.upscaler_eq
  simp only [shootUpscaled_eq, enlarges]
  -- the image of the enlarged display
  have firstDemands := demands_shoot_stage fits.perFrame sink report bench
  have firstCalls := calls_prefix_shoot sink plan.config.outputDir
    (resizedFile pipeline.perFrame.factor) pipeline.perFrame.output report bench
  generalize bench.shoot sink plan.config.outputDir (resizedFile pipeline.perFrame.factor)
    pipeline.perFrame.output report = first at firstDemands firstCalls ⊢
  -- the call of the upscaler for the capture
  have calledDemands := demands_upscaleCapture pipeline frame first.2
  rw [firstDemands, name, factor] at calledDemands
  have calledCalls : bench.calls <+: (first.2.upscaleCapture pipeline frame).2.2.2.calls := by
    rw [calls_upscaleCapture]
    exact firstCalls.trans (List.prefix_append _ _)
  generalize first.2.upscaleCapture pipeline frame = called at calledDemands calledCalls ⊢
  rcases outcome : (pipeline.capture.run frame).1 with (error | fault) | done
  · refine .inr ⟨_, rfl, kept, rfl, (calls_log _ _).symm ▸ calledCalls, ?_⟩
    simp [calledDemands, Plan.enlargements, Except.isOk, Except.toBool]
  · refine .inl ⟨fault, rfl, ?_⟩
    intro calm
    exact fits.capture.not_fault (calm upscalers present).2 width height fault outcome
  · refine .inr ⟨_, rfl, kept, rfl, calledCalls.trans (calls_prefix_shoot _ _ _ _ _ _), ?_⟩
    rw [demands_shoot_stage kept.capture, calledDemands]
    simp [Plan.enlargements, Except.isOk, Except.toBool]

end Bench

/-- A capture that is due fires its latch and asks for the shots of the plan, unless an upscaler
ends in a fault. -/
theorem Latch.capture_cases {plan : Plan Memory} {answers : List (Option Error)}
    {pipeline : Option (Pipeline Memory)} (equipped : plan.Equips answers pipeline)
    (spared : plan.Spares pipeline) {frame : Frame} (width : frame.width = plan.width)
    (height : frame.height = plan.height) (sink : Sink Store) (bench : Bench State Store) :
    let shot := (armed plan.config.captureTick plan.config.outputDir).capture sink
      plan.config.captureTick frame pipeline bench
    (∃ fault, shot.outcome = .error fault ∧ ¬ plan.Calm) ∨
      (∃ report stored, shot.outcome = .ok (some report) ∧
        shot.latch = ⟨plan.config.captureTick, plan.config.outputDir, true⟩ ∧
        plan.Equips answers shot.pipeline ∧
        shot.bench.demands = bench.demands ++ plan.shots (plan.enlarges frame) ∧
        .write (plan.image originalFile) frame stored ∈ shot.bench.calls) := by
  have original := Bench.demands_shoot sink plan.config.outputDir originalFile frame .empty bench
  obtain ⟨stored, written, -⟩ :=
    Bench.calls_shoot sink plan.config.outputDir originalFile frame .empty bench
  simp only [capture, armed, Bool.false_eq_true, ne_eq, not_true_eq_false, or_self, ↓reduceIte]
  rcases first : bench.shoot sink plan.config.outputDir originalFile frame .empty with
    ⟨report, afterFirst⟩
  rw [first, width, height] at original
  rw [first] at written
  have member : Call.write (plan.image originalFile) frame stored ∈ afterFirst.calls :=
    written ▸ List.mem_append_right _ List.mem_cons_self
  cases equipped with
  | bare absent quiet =>
      refine .inr ⟨report, stored, rfl, rfl, .bare absent quiet, ?_, member⟩
      simpa [Plan.shots, absent, Plan.image] using original
  | @staged upscalers pipeline present fits answered =>
      have untouched : pipeline.capture =
          .fresh upscalers.capture upscalers.captureMemory plan.width plan.height := by
        simpa [Plan.Spares, present] using spared
      rcases Bench.shootUpscaled_cases present fits untouched width height sink report
          afterFirst with ⟨fault, outcome, restless⟩ | ⟨report, outcome, kept, same, grown, demands⟩
      · exact .inl ⟨fault, by simp [outcome, Except.map], restless⟩
      · refine .inr ⟨report, stored, by simp [outcome, Except.map], rfl,
          .staged present kept (same ▸ answered), ?_, grown.subset member⟩
        simp only [demands, original]
        simp [Plan.shots, present, Plan.image]

end FrameCycle
