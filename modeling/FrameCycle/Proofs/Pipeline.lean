import FrameCycle.Proofs.Geometry

/-!
Pipelines in the hands of a caller, who has frames of any sizes enlarged by either half in any
order. Neither half sees the other's calls, and a linked filter sees no frames but those that its
output was made for.
-/
namespace FrameCycle

variable {Memory : Type}

/-- A target made for one size refuses sources of any other: a factor that is not zero can be
cancelled on either side, also where there are no pixels. -/
theorem ensureTargetSize_of_other {source target : Frame} {factor : UInt32} {width height : Nat}
    (targetWidth : target.width.toNat = width * factor.toNat)
    (targetHeight : target.height.toNat = height * factor.toNat) (positive : 0 < factor)
    (other : ¬ (source.width.toNat = width ∧ source.height.toNat = height)) :
    ensureTargetSize source target factor = source.missized target factor ∨
      ensureTargetSize source target factor = .error (.fault .mulOverflow) := by
  rw [ensureTargetSize_eq, targetWidth, targetHeight]
  split_ifs with square length wide width' tall height'
  · exact .inr rfl
  · exact .inr rfl
  · exact .inr rfl
  · exact .inl rfl
  · exact .inr rfl
  · exact .inl rfl
  · have sameWidth := Nat.eq_of_mul_eq_mul_right positive (not_not.mp width')
    have sameHeight := Nat.eq_of_mul_eq_mul_right positive (not_not.mp height')
    exact absurd ⟨sameWidth.symm, sameHeight.symm⟩ other

namespace Stage

variable {stage : Stage Memory} {name : String} {factor width height : UInt32}
  {resizer : Resizer Memory}

/-- A call that the check in front of a filter refuses leaves all as it is, whatever filter it
is. -/
theorem run_of_other (fits : stage.Fits (.linked name factor resizer) width height)
    (positive : 0 < factor) {source : Frame}
    (other : ¬ (source.width = width ∧ source.height = height)) :
    (stage.run source).2 = stage ∧
      ((stage.run source).1 = source.missized stage.output factor ∨
        (stage.run source).1 = .error (.fault .mulOverflow)) := by
  have misfits : ¬ (source.width.toNat = width.toNat ∧ source.height.toNat = height.toNat) := by
    simpa only [UInt32.toNat_inj] using other
  have refused := ensureTargetSize_of_other fits.outputWidth fits.outputHeight positive misfits
  change ensureTargetSize source stage.output factor = _ ∨ _ at refused
  obtain ⟨stop, checked⟩ : ∃ stop, ensureTargetSize source stage.output factor = .error stop := by
    rcases refused with missized | overflow
    · exact ⟨_, missized⟩
    · exact ⟨_, overflow⟩
  have run : stage.run source = (.error stop, stage) := by
    simp only [Stage.run, fits.upscaler_eq, Upscaler.linked, checked, Frame.withPixels_content]
    rw [← Upscaler.linked, ← fits.upscaler_eq]
  rw [run, ← checked]
  exact ⟨rfl, refused⟩

/-- Only frames of its own size reach a linked filter. -/
theorem called_of_linked (fits : stage.Fits (.linked name factor resizer) width height)
    (positive : 0 < factor) (sources : List Frame) :
    stage.called sources = stage.called
      (sources.filter fun source => source.width = width ∧ source.height = height) := by
  induction sources generalizing stage with
  | nil => rfl
  | cons source rest inductionHypothesis =>
      by_cases right : source.width = width ∧ source.height = height
      · rw [List.filter_cons_of_pos (by simpa using right)]
        exact inductionHypothesis (fits.run source)
      · rw [List.filter_cons_of_neg (by simpa using right), ← inductionHypothesis fits]
        exact congrArg (fun stage => stage.called rest) (run_of_other fits positive right).1

end Stage

/-- The two halves of a pipeline. -/
inductive Half where
  | perFrame
  | capture
  deriving DecidableEq

def Upscalers.upscaler (upscalers : Upscalers Memory) : Half → Upscaler Memory
  | .perFrame => upscalers.perFrame
  | .capture => upscalers.capture

/-- A frame that a caller hands to one half. -/
structure PipelineCall where
  half : Half
  source : Frame

namespace Pipeline

def stage (pipeline : Pipeline Memory) : Half → Stage Memory
  | .perFrame => pipeline.perFrame
  | .capture => pipeline.capture

def call (pipeline : Pipeline Memory) (call : PipelineCall) :
    Except Stop Unit × Pipeline Memory :=
  match call.half with
  | .perFrame => pipeline.runPerFrame call.source
  | .capture => pipeline.runCapture call.source

/-- The pipeline after calls, whatever each of them came to. -/
def after (pipeline : Pipeline Memory) (calls : List PipelineCall) : Pipeline Memory :=
  calls.foldl (fun pipeline made => (pipeline.call made).2) pipeline

/-- The frames that one half is handed. -/
def sources (half : Half) (calls : List PipelineCall) : List Frame :=
  (calls.filter fun call => call.half = half).map PipelineCall.source

theorem sources_filter (half : Half) (calls : List PipelineCall) :
    sources half (calls.filter fun call => call.half = half) = sources half calls := by
  simp [sources, List.filter_filter]

theorem outcome_call (pipeline : Pipeline Memory) (made : PipelineCall) :
    (pipeline.call made).1 = ((pipeline.stage made.half).run made.source).1 := by
  rcases made with ⟨half, source⟩
  cases half <;> rfl

theorem stage_call (pipeline : Pipeline Memory) (made : PipelineCall) (half : Half) :
    (pipeline.call made).2.stage half =
      if made.half = half then ((pipeline.stage half).run made.source).2
      else pipeline.stage half := by
  rcases made with ⟨called, source⟩
  cases called <;> cases half <;> rfl

theorem eq_of_stage_eq {pipeline other : Pipeline Memory}
    (same : ∀ half, pipeline.stage half = other.stage half) : pipeline = other := by
  rcases pipeline with ⟨perFrame, capture⟩
  rcases other with ⟨otherPerFrame, otherCapture⟩
  obtain rfl : perFrame = otherPerFrame := same .perFrame
  obtain rfl : capture = otherCapture := same .capture
  rfl

/-- A half is where its own calls have led it. -/
theorem stage_after (pipeline : Pipeline Memory) (calls : List PipelineCall) (half : Half) :
    (pipeline.after calls).stage half = (pipeline.stage half).called (sources half calls) := by
  induction calls generalizing pipeline with
  | nil => rfl
  | cons made rest inductionHypothesis =>
      have later : (pipeline.after (made :: rest)).stage half = _ :=
        inductionHypothesis (pipeline.call made).2
      rw [later, stage_call, sources, sources]
      by_cases own : made.half = half
      · rw [if_pos own, List.filter_cons_of_pos (by simpa using own)]
        rfl
      · rw [if_neg own, List.filter_cons_of_neg (by simpa using own)]

theorem fits_of_make {upscalers : Upscalers Memory} {width height : UInt32}
    {pipeline : Pipeline Memory} (made : make upscalers width height = .ok pipeline)
    (half : Half) : (pipeline.stage half).Fits (upscalers.upscaler half) width height := by
  have fits := (make_eq_ok made).1
  cases half with
  | perFrame => exact fits.perFrame
  | capture => exact fits.capture

/-- A call that ends in a refusal or in the arithmetic of the check, and changes nothing. -/
structure Refuses (pipeline : Pipeline Memory) (half : Half) (source : Frame) : Prop where
  unchanged : (pipeline.call ⟨half, source⟩).2 = pipeline
  outcome : (pipeline.call ⟨half, source⟩).1 =
      source.missized (pipeline.stage half).output (pipeline.stage half).factor ∨
    (pipeline.call ⟨half, source⟩).1 = .error (.fault .mulOverflow)

theorem refuses_of_linked {pipeline : Pipeline Memory} {half : Half} {name : String}
    {factor width height : UInt32} {resizer : Resizer Memory}
    (fits : (pipeline.stage half).Fits (.linked name factor resizer) width height)
    (positive : 0 < factor) {source : Frame}
    (other : ¬ (source.width = width ∧ source.height = height)) :
    pipeline.Refuses half source := by
  obtain ⟨unchanged, outcome⟩ := Stage.run_of_other fits positive other
  have factor_eq : (pipeline.stage half).factor = factor :=
    congrArg Upscaler.factor fits.upscaler_eq
  refine ⟨eq_of_stage_eq fun called => ?_, ?_⟩
  · rw [stage_call]
    by_cases own : half = called
    · subst own
      rw [if_pos rfl, unchanged]
    · rw [if_neg own]
  · rw [outcome_call, factor_eq]
    exact outcome

end Pipeline

/-- Whatever frames a caller hands to the halves of a pipeline, and whatever fails, each half keeps
the size of its output, and it is where its own calls alone lead it, beside any other half with any
other calls. A linked filter refuses all frames but those of the display, and they leave no trace. -/
theorem pipeline_halves_apart {upscalers : Upscalers Memory} {width height : UInt32}
    {pipeline : Pipeline Memory} (made : Pipeline.make upscalers width height = .ok pipeline)
    (half : Half) (calls : List PipelineCall) :
    let last := pipeline.after calls
    let factor := (upscalers.upscaler half).factor.toNat
    (last.stage half).output.width.toNat = width.toNat * factor ∧
    (last.stage half).output.height.toNat = height.toNat * factor ∧
    (last.stage half).output.pixels.size = width.toNat * factor * (height.toNat * factor) ∧
    last.stage half =
      (pipeline.after (calls.filter fun call => call.half = half)).stage half ∧
    (∀ (other : Pipeline Memory) (others : List PipelineCall),
      other.stage half = pipeline.stage half →
      Pipeline.sources half others = Pipeline.sources half calls →
      (other.after others).stage half = last.stage half) ∧
    ∀ name factor resizer, upscalers.upscaler half = .linked name factor resizer → 0 < factor →
      (∀ source : Frame, ¬ (source.width = width ∧ source.height = height) →
        last.Refuses half source) ∧
      last.stage half = (pipeline.stage half).called ((Pipeline.sources half calls).filter
        fun source => source.width = width ∧ source.height = height) := by
  intro last factor
  have fresh := Pipeline.fits_of_make made half
  have stage_eq : last.stage half = (pipeline.stage half).called (Pipeline.sources half calls) :=
    pipeline.stage_after calls half
  have fits : (last.stage half).Fits (upscalers.upscaler half) width height := by
    rw [stage_eq]
    exact fresh.called _
  refine ⟨fits.outputWidth, fits.outputHeight, ?_, ?_, fun other others same heard => ?_, ?_⟩
  · rw [(last.stage half).output.size_pixels, fits.outputWidth, fits.outputHeight]
  · rw [stage_eq, Pipeline.stage_after, Pipeline.sources_filter]
  · rw [Pipeline.stage_after, stage_eq, same, heard]
  · intro name factor resizer linked positive
    rw [linked] at fresh fits
    refine ⟨fun source other => Pipeline.refuses_of_linked fits positive other, ?_⟩
    rw [stage_eq]
    exact Stage.called_of_linked fresh positive _

/-- Filters that remember the frames they are called with. -/
def Resizers.recording : Resizers (List Frame) where
  threefold heard source target := (target.content, heard ++ [source])
  twofold heard source target := (target.content, heard ++ [source])
  memory := []

/-- A display without columns takes its own frames, and no other ones without pixels. -/
theorem pipeline_halves_apart_empty :
    ∃ pipeline, Pipeline.make Resizers.recording.upscalers 0 6 = .ok pipeline ∧
      let last := pipeline.after [⟨.perFrame, .zeros 0 6⟩, ⟨.capture, .zeros 0 6⟩,
        ⟨.capture, .zeros 0 7⟩, ⟨.perFrame, .zeros 8 6⟩]
      last.Refuses .capture (.zeros 0 7) ∧ (last.stage .capture).memory = [.zeros 0 6] := by
  obtain ⟨pipeline, made⟩ : ∃ pipeline,
      Pipeline.make Resizers.recording.upscalers 0 6 = .ok pipeline := ⟨_, rfl⟩
  obtain ⟨-, -, -, -, -, linked⟩ := pipeline_halves_apart made .capture
    [⟨.perFrame, .zeros 0 6⟩, ⟨.capture, .zeros 0 6⟩, ⟨.capture, .zeros 0 7⟩,
      ⟨.perFrame, .zeros 8 6⟩]
  obtain ⟨refuses, heard⟩ := linked "hq2x" 2 _ rfl (by decide)
  refine ⟨pipeline, made, refuses (.zeros 0 7) (by decide), ?_⟩
  rw [heard]
  cases made
  rfl

end FrameCycle
