import FrameCycle.Proofs.Capture

/-!
A latch in the hands of a caller, who calls it at any ticks with any frames, and has frames enlarged
in between. It fires at the first call of its tick, whatever fails then, and no other call of it
does anything.
-/
namespace FrameCycle

variable {State Store Memory : Type}

/-- A call of the latch, with the pipeline or without it, or of the upscaler for every frame. -/
inductive CaptureUse (Store : Type) where
  | capture (sink : Sink Store) (tick : UInt32) (frame : Frame) (upscaled : Bool)
  | enlarge (source : Frame)

def CaptureUse.isDue (due : UInt32) : CaptureUse Store → Bool
  | capture _ tick _ _ => tick == due
  | enlarge _ => false

/-- A latch, the pipeline beside it and the bench that its captures act on. -/
structure CaptureDesk (State Store Memory : Type) where
  latch : Latch
  pipeline : Pipeline Memory
  bench : Bench State Store

namespace CaptureDesk

def shoot (desk : CaptureDesk State Store Memory) (sink : Sink Store) (tick : UInt32)
    (frame : Frame) (upscaled : Bool) : Shot State Store Memory :=
  desk.latch.capture sink tick frame (if upscaled then some desk.pipeline else none) desk.bench

/-- The desk after a use, also after one that ended in an error or a fault. -/
def after (desk : CaptureDesk State Store Memory) :
    CaptureUse Store → CaptureDesk State Store Memory
  | .capture sink tick frame upscaled =>
      let shot := desk.shoot sink tick frame upscaled
      ⟨shot.latch, shot.pipeline.getD desk.pipeline, shot.bench⟩
  | .enlarge source => { desk with pipeline := (desk.pipeline.runPerFrame source).2 }

/-- A capture that does its work. It faults exactly as the upscaler for the capture does, and
reports otherwise. -/
structure Fires (desk : CaptureDesk State Store Memory) (frame : Frame) (upscaled : Bool)
    (shot : Shot State Store Memory) : Prop where
  reports : shot.outcome ≠ .ok none
  faults : ∀ fault, shot.outcome = .error fault ↔
    upscaled = true ∧ (desk.pipeline.capture.run frame).1 = .error (.fault fault)
  written : ∃ stored, desk.bench.calls ++
    [.write (desk.latch.outputDir.join (.ofString originalFile)) frame stored] <+: shot.bench.calls

theorem shoot_idle {desk : CaptureDesk State Store Memory} {tick : UInt32}
    (idle : desk.latch.fired = true ∨ tick ≠ desk.latch.tick) (sink : Sink Store) (frame : Frame)
    (upscaled : Bool) :
    desk.shoot sink tick frame upscaled =
      ⟨.ok none, desk.latch, if upscaled then some desk.pipeline else none, desk.bench⟩ := by
  simp only [shoot, Latch.capture, if_pos idle]

theorem after_idle {desk : CaptureDesk State Store Memory} {tick : UInt32}
    (idle : desk.latch.fired = true ∨ tick ≠ desk.latch.tick) (sink : Sink Store) (frame : Frame)
    (upscaled : Bool) : desk.after (.capture sink tick frame upscaled) = desk := by
  simp only [after, shoot_idle idle]
  cases upscaled <;> rfl

end CaptureDesk

namespace Bench

/-- The part of a capture that needs upscalers writes on, and faults only as its upscaler does. -/
theorem shootUpscaled_faults (sink : Sink Store) (directory : Path) (pipeline : Pipeline Memory)
    (frame : Frame) (report : CaptureReport) (bench : Bench State Store) :
    let shot := bench.shootUpscaled sink directory pipeline frame report
    (∀ fault, shot.1 = .error fault ↔ (pipeline.capture.run frame).1 = .error (.fault fault)) ∧
      bench.calls <+: shot.2.2.calls := by
  have first := calls_prefix_shoot sink directory (resizedFile pipeline.perFrame.factor)
    pipeline.perFrame.output report bench
  simp only [shootUpscaled_eq]
  generalize bench.shoot sink directory (resizedFile pipeline.perFrame.factor)
    pipeline.perFrame.output report = shot at first ⊢
  have called : bench.calls <+: (shot.2.upscaleCapture pipeline frame).2.2.2.calls := by
    rw [calls_upscaleCapture]
    exact first.trans (List.prefix_append _ _)
  rcases (pipeline.capture.run frame).1 with (error | fault) | done
  · exact ⟨by simp, (calls_log _ _).symm ▸ called⟩
  · exact ⟨by simp, called⟩
  · exact ⟨by simp, called.trans (calls_prefix_shoot _ _ _ _ _ _)⟩

end Bench

theorem Latch.latch_capture (latch : Latch) (sink : Sink Store) (tick : UInt32) (frame : Frame)
    (pipeline : Option (Pipeline Memory)) (bench : Bench State Store) :
    (latch.capture sink tick frame pipeline bench).latch =
      { latch with fired := latch.fired || tick == latch.tick } := by
  rcases latch with ⟨due, outputDir, fired⟩
  by_cases idle : fired = true ∨ tick ≠ due
  · rw [capture, if_pos idle]
    rcases idle with rfl | early
    · simp
    · simp [early]
  · obtain ⟨unfired, same⟩ := not_or.mp idle
    rw [capture, if_neg idle, not_not.mp same]
    cases pipeline <;> simp

namespace CaptureDesk

theorem fires_shoot {desk : CaptureDesk State Store Memory} (unfired : desk.latch.fired = false)
    (sink : Sink Store) (frame : Frame) (upscaled : Bool) :
    desk.Fires frame upscaled (desk.shoot sink desk.latch.tick frame upscaled) := by
  obtain ⟨stored, first, -⟩ := Bench.calls_shoot sink desk.latch.outputDir originalFile frame .empty
    desk.bench
  have due : ¬ (desk.latch.fired = true ∨ desk.latch.tick ≠ desk.latch.tick) := by simp [unfired]
  simp only [shoot, Latch.capture, if_neg due]
  generalize desk.bench.shoot sink desk.latch.outputDir originalFile frame .empty = shot at first ⊢
  cases upscaled with
  | false => exact ⟨by simp, by simp, stored, first ▸ List.prefix_rfl⟩
  | true =>
      obtain ⟨faults, further⟩ := shot.2.shootUpscaled_faults sink desk.latch.outputDir
        desk.pipeline frame shot.1
      simp only [↓reduceIte]
      generalize shot.2.shootUpscaled sink desk.latch.outputDir desk.pipeline frame shot.1 =
        enlarged at faults further ⊢
      refine ⟨?_, fun fault => ?_, stored, first ▸ further⟩
      · cases enlarged.1 <;> simp [Except.map]
      · rw [← faults fault]
        cases enlarged.1 <;> simp [Except.map]

theorem latch_after (desk : CaptureDesk State Store Memory) (use : CaptureUse Store) :
    (desk.after use).latch =
      { desk.latch with fired := desk.latch.fired || use.isDue desk.latch.tick } := by
  cases use with
  | enlarge source => simp [after, CaptureUse.isDue]
  | capture sink tick frame upscaled => exact Latch.latch_capture ..

/-- A latch has fired once it has been called at its tick, whatever came of that call. -/
theorem latch_foldl_after (desk : CaptureDesk State Store Memory) (uses : List (CaptureUse Store)) :
    (uses.foldl after desk).latch =
      { desk.latch with
        fired := desk.latch.fired || uses.any (CaptureUse.isDue desk.latch.tick) } := by
  induction uses generalizing desk with
  | nil => simp
  | cons use rest inductionHypothesis =>
      rw [List.foldl_cons, inductionHypothesis, latch_after, List.any_cons, Bool.or_assoc]

end CaptureDesk

/-- Whatever a caller has done with an armed latch, the next call fires if it is the first of the
latch's tick, and does nothing otherwise. -/
theorem capture_fires_once (tick : UInt32) (outputDir : Path) (pipeline : Pipeline Memory)
    (bench : Bench State Store) (uses : List (CaptureUse Store)) :
    let desk := uses.foldl CaptureDesk.after ⟨.armed tick outputDir, pipeline, bench⟩
    (desk.latch.fired = true ↔ ∃ use ∈ uses, use.isDue tick = true) ∧
      ∀ (sink : Sink Store) (called : UInt32) (frame : Frame) (upscaled : Bool),
        if called = tick ∧ ∀ use ∈ uses, use.isDue tick = false then
          desk.Fires frame upscaled (desk.shoot sink called frame upscaled)
        else
          (desk.shoot sink called frame upscaled).outcome = .ok none ∧
            desk.after (.capture sink called frame upscaled) = desk := by
  intro desk
  have latch : desk.latch = ⟨tick, outputDir, uses.any (CaptureUse.isDue tick)⟩ :=
    CaptureDesk.latch_foldl_after ⟨.armed tick outputDir, pipeline, bench⟩ uses
  clear_value desk
  refine ⟨by rw [latch, List.any_eq_true], fun sink called frame upscaled => ?_⟩
  split
  · next first =>
      have unfired : desk.latch.fired = false := by
        rw [latch]
        apply List.any_eq_false.mpr
        intro use member
        simp [first.2 use member]
      have due : called = desk.latch.tick := by rw [latch, first.1]
      subst due
      exact CaptureDesk.fires_shoot unfired sink frame upscaled
  · next later =>
      have idle : desk.latch.fired = true ∨ called ≠ desk.latch.tick := by
        rw [latch]
        by_cases due : called = tick
        · left
          by_contra unfired
          apply later
          refine ⟨due, fun use member => ?_⟩
          apply Bool.eq_false_iff.mpr
          intro isDue
          exact unfired (List.any_eq_true.mpr ⟨use, member, isDue⟩)
        · exact .inr due
      exact ⟨by rw [CaptureDesk.shoot_idle idle], CaptureDesk.after_idle idle sink frame upscaled⟩

end FrameCycle
