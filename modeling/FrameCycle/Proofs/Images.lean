import FrameCycle.Proofs.Cycle.Work
import FrameCycle.Proofs.Capture

/-!
The images handed to the store, with their paths, and those of them that it took. Only the grid and
a capture hand over images: a capture the frame and what its pipeline holds.
-/
namespace FrameCycle

variable {State Store Memory : Type}

/-- The image that a call hands to the store, its path, and whether the store took it. -/
def Call.write? : Call → Option (Path × Frame × Bool)
  | .write path frame stored => some (path, frame, stored)
  | _ => none

namespace Bench

def writes (bench : Bench State Store) : List (Path × Frame × Bool) :=
  bench.calls.filterMap Call.write?

/-- The images handed to the store, whether or not it took them. -/
def images (bench : Bench State Store) : List (Path × Frame) :=
  bench.writes.map fun (path, frame, _) => (path, frame)

/-- The paths of the images that the store took. -/
def exports (bench : Bench State Store) : List Path :=
  bench.writes.filterMap fun (path, _, stored) => if stored then some path else none

theorem writes_eq (bench : Bench State Store) :
    bench.writes = bench.calls.filterMap Call.write? := rfl

theorem images_eq (bench : Bench State Store) :
    bench.images = bench.writes.map fun (path, frame, _) => (path, frame) := rfl

theorem exports_eq (bench : Bench State Store) :
    bench.exports =
      bench.writes.filterMap fun (path, _, stored) => if stored then some path else none := rfl

theorem length_images (bench : Bench State Store) :
    bench.images.length = bench.demands.countP Demand.isWrite := by
  rw [images_eq, List.length_map, writes_eq, demands_eq, List.countP_map,
    List.length_filterMap_eq_countP]
  congr 1
  funext call
  cases call <;> rfl

@[simp]
theorem writes_log (message : Log.Message) (bench : Bench State Store) :
    (bench.log message).writes = bench.writes := by
  rw [writes_eq, calls_log, writes_eq]

@[simp]
theorem images_log (message : Log.Message) (bench : Bench State Store) :
    (bench.log message).images = bench.images := by
  rw [images_eq, writes_log, images_eq]

@[simp]
theorem exports_log (message : Log.Message) (bench : Bench State Store) :
    (bench.log message).exports = bench.exports := by
  rw [exports_eq, writes_log, exports_eq]

theorem writes_write (sink : Sink Store) (path : Path) (frame : Frame)
    (bench : Bench State Store) :
    (bench.write sink path frame).2.writes =
      bench.writes ++ [(path, frame, (bench.write sink path frame).1.isOk)] := by
  rw [writes_eq, calls_write, List.filterMap_append]
  rfl

theorem images_write (sink : Sink Store) (path : Path) (frame : Frame)
    (bench : Bench State Store) :
    (bench.write sink path frame).2.images = bench.images ++ [(path, frame)] := by
  rw [images_eq, writes_write, List.map_append]
  rfl

theorem Adds.writes_eq {calls : List Call} {messages : List Log.Message}
    {before after : Bench State Store} (adds : Adds calls messages before after)
    (none : calls.filterMap Call.write? = []) : after.writes = before.writes := by
  rw [Bench.writes_eq, adds.calls_eq, List.filterMap_append, none, List.append_nil, Bench.writes_eq]

/-- Actions hand over no images. -/
theorem writes_followScript (core : Core State) (script : Script) (snapshot : Path)
    (tick : UInt32) (bench : Bench State Store) :
    (Cycle.followScript core script snapshot tick bench).writes = bench.writes := by
  obtain ⟨calls, inputs, demands⟩ := adds_followScript core script snapshot tick bench
  apply inputs.writes_eq
  apply List.filterMap_eq_nil_iff.mpr
  intro call member
  have demanded : call.demand ∈ calls.map Call.demand := List.mem_map_of_mem member
  rw [demands] at demanded
  obtain ⟨action, -, same⟩ := List.mem_map.mp demanded
  cases call <;> cases action <;> first | rfl | cases same

theorem writes_upscaleCapture (pipeline : Pipeline Memory) (frame : Frame)
    (bench : Bench State Store) :
    (bench.upscaleCapture pipeline frame).2.2.2.writes = bench.writes := by
  simp [writes_eq, calls_upscaleCapture, Call.write?]

theorem writes_shoot (sink : Sink Store) (directory : Path) (file : String) (frame : Frame)
    (report : CaptureReport) (bench : Bench State Store) :
    ∃ stored, (bench.shoot sink directory file frame report).2.writes =
        bench.writes ++ [(directory.join (.ofString file), frame, stored)] ∧
      (bench.shoot sink directory file frame report).1.exported =
        report.exported ++ if stored then [directory.join (.ofString file)] else [] := by
  obtain ⟨stored, calls, exported⟩ := calls_shoot sink directory file frame report bench
  refine ⟨stored, ?_, exported⟩
  rw [writes_eq, calls, List.filterMap_append]
  rfl

theorem images_shoot (sink : Sink Store) (directory : Path) (file : String) (frame : Frame)
    (report : CaptureReport) (bench : Bench State Store) :
    (bench.shoot sink directory file frame report).2.images =
      bench.images ++ [(directory.join (.ofString file), frame)] := by
  obtain ⟨stored, writes, -⟩ := writes_shoot sink directory file frame report bench
  simp [images_eq, writes]

/-- A report lists what was stored since it was begun. -/
theorem exports_shoot {opening : List Path} {report : CaptureReport} {bench : Bench State Store}
    (listed : bench.exports = opening ++ report.exported) (sink : Sink Store) (directory : Path)
    (file : String) (frame : Frame) :
    (bench.shoot sink directory file frame report).2.exports =
      opening ++ (bench.shoot sink directory file frame report).1.exported := by
  obtain ⟨stored, writes, exported⟩ := writes_shoot sink directory file frame report bench
  rw [exported, ← List.append_assoc, ← listed, exports_eq, writes, List.filterMap_append]
  cases stored <;> rfl

end Bench

/-- What a pipeline adds to a capture: its outputs, the one for the capture only if that was
`enlarged` without an error. -/
def Pipeline.exposures (directory : Path) (enlarged : Bool) (pipeline : Pipeline Memory) :
    List (Path × Frame) :=
  (directory.join (.ofString (resizedFile pipeline.perFrame.factor)), pipeline.perFrame.output) ::
    if enlarged then
      [(directory.join (.ofString (resizedFile pipeline.capture.factor)), pipeline.capture.output)]
    else []

/-- The images of a capture, in order. -/
def exposures (directory : Path) (shown : Frame) (enlarged : Bool)
    (pipeline : Option (Pipeline Memory)) : List (Path × Frame) :=
  (directory.join (.ofString originalFile), shown) ::
    pipeline.toList.flatMap (Pipeline.exposures directory enlarged)

theorem Bench.shootUpscaled_exposes {opening : List Path} {report : CaptureReport}
    {bench : Bench State Store} (listed : bench.exports = opening ++ report.exported)
    (sink : Sink Store) (directory : Path) (pipeline : Pipeline Memory) (frame : Frame) :
    let shot := bench.shootUpscaled sink directory pipeline frame report
    (∃ fault, shot.1 = .error fault) ∨
      ∃ report, shot.1 = .ok report ∧ shot.2.1 = (pipeline.runCapture frame).2 ∧
        shot.2.2.images = bench.images ++
          shot.2.1.exposures directory (pipeline.capture.run frame).1.isOk ∧
        shot.2.2.exports = opening ++ report.exported := by
  have firstImages := images_shoot sink directory (resizedFile pipeline.perFrame.factor)
    pipeline.perFrame.output report bench
  have firstExports := exports_shoot listed sink directory (resizedFile pipeline.perFrame.factor)
    pipeline.perFrame.output
  simp only [shootUpscaled_eq]
  generalize bench.shoot sink directory (resizedFile pipeline.perFrame.factor)
    pipeline.perFrame.output report = first at firstImages firstExports ⊢
  have writes := first.2.writes_upscaleCapture pipeline frame
  generalize first.2.upscaleCapture pipeline frame = called at writes ⊢
  have calledImages : called.2.2.2.images = first.2.images := by rw [images_eq, writes, images_eq]
  have calledExports : called.2.2.2.exports = opening ++ first.1.exported := by
    rw [← firstExports, exports_eq, writes, exports_eq]
  rcases (pipeline.capture.run frame).1 with (error | fault) | done
  · refine .inr ⟨_, rfl, rfl, ?_, ?_⟩
    · rw [images_log, calledImages, firstImages]
      rfl
    · rw [exports_log, calledExports]
      rfl
  · exact .inl ⟨fault, rfl⟩
  · refine .inr ⟨_, rfl, rfl, ?_, ?_⟩
    · rw [images_shoot, calledImages, firstImages, List.append_assoc]
      rfl
    · have timed : called.2.2.2.exports =
          opening ++ { first.1 with upscaleTime := some called.2.1 }.exported := calledExports
      exact exports_shoot timed ..

/-- What a capture without a fault leaves: the pipeline with its output for the capture, the images
handed over, and a report of those that were stored. -/
structure Shot.Exposes (shot : Shot State Store Memory) (directory : Path) (frame : Frame)
    (pipeline : Option (Pipeline Memory)) (bench : Bench State Store) (report : CaptureReport) :
    Prop where
  outcome_eq : shot.outcome = .ok (some report)
  pipeline_eq : shot.pipeline = pipeline.map fun pipeline => (pipeline.runCapture frame).2
  images_eq : shot.bench.images = bench.images ++ exposures directory frame
    (pipeline.any fun pipeline => (pipeline.capture.run frame).1.isOk) shot.pipeline
  exports_eq : shot.bench.exports = bench.exports ++ report.exported

theorem Latch.exposes_capture {latch : Latch} {tick : UInt32}
    (due : ¬ (latch.fired = true ∨ tick ≠ latch.tick)) (sink : Sink Store) (frame : Frame)
    (pipeline : Option (Pipeline Memory)) (bench : Bench State Store) :
    let shot := latch.capture sink tick frame pipeline bench
    (∃ fault, shot.outcome = .error fault) ∨
      ∃ report, shot.Exposes latch.outputDir frame pipeline bench report := by
  have images := Bench.images_shoot sink latch.outputDir originalFile frame .empty bench
  have begun : bench.exports = bench.exports ++ CaptureReport.empty.exported := by
    simp [CaptureReport.empty]
  have exports := Bench.exports_shoot begun sink latch.outputDir originalFile frame
  simp only [capture, if_neg due]
  generalize bench.shoot sink latch.outputDir originalFile frame .empty = first at images exports ⊢
  cases pipeline with
  | none => exact .inr ⟨first.1, rfl, rfl, images, exports⟩
  | some pipeline =>
      have exposes := Bench.shootUpscaled_exposes exports sink latch.outputDir pipeline frame
      simp only at exposes ⊢
      generalize first.2.shootUpscaled sink latch.outputDir pipeline frame first.1 = shot
        at exposes ⊢
      rcases exposes with ⟨fault, outcome⟩ | ⟨report, outcome, left, shotImages, shotExports⟩
      · exact .inl ⟨fault, by rw [outcome]; rfl⟩
      · refine .inr ⟨report, by rw [outcome]; rfl, congrArg some left, ?_, shotExports⟩
        simp [shotImages, images, exposures]

end FrameCycle
