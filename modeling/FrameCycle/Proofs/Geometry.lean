import FrameCycle.Proofs.Upscale
import FrameCycle.Upscale.Nearest
import Mathlib.Tactic.Ring

/-!
The check of the geometry, product by product. Frames that were made for it have the right sizes, so
it fails on them only in its own arithmetic: it squares the factor in a narrower word than that of
the sizes.
-/
namespace FrameCycle

variable {Memory : Type}

/-- How the check ends on frames of the right sizes. -/
def squareVerdict (factor : UInt32) : Except Stop Unit :=
  if factor.toNat * factor.toNat < UInt32.size then .ok () else .error (.fault .mulOverflow)

namespace Frame

theorem byteLength_le_of_blank {width height : UInt32} {frame : Frame}
    (made : blank width height = .ok frame) : frame.byteLength ≤ byteLimit := by
  have zeroed := blank_eq_ok made
  unfold blank at made
  split at made
  · next fits =>
      subst zeroed
      rw [byteLength, length_eq, Nat.mul_comm]
      exact fits
  · cases made

theorem byteLength_le_of_scaled {width height factor : UInt32} {frame : Frame}
    (made : scaled width height factor = .ok frame) : frame.byteLength ≤ byteLimit := by
  unfold scaled at made
  cases wide : Checked.mul32 width factor with
  | error fault => simp [wide, bind, Except.bind] at made
  | ok wider =>
      cases tall : Checked.mul32 height factor with
      | error fault => simp [wide, tall, bind, Except.bind] at made
      | ok taller =>
          simp only [wide, tall, bind, Except.bind] at made
          exact byteLength_le_of_blank made

end Frame

/-- How the check refuses a target of another size than the one asked for. -/
def Frame.missized (source target : Frame) (factor : UInt32) : Except Stop Unit :=
  .error (.error (.bufferSize (source.length * (factor.toNat * factor.toNat)) target.length))

theorem toNat_mul_of_fits {a b : UInt32} (fits : a.toNat * b.toNat < UInt32.size) :
    (a * b).toNat = a.toNat * b.toNat := by
  rw [UInt32.toNat_mul, Nat.mod_eq_of_lt fits]

/-- The check in the order of its products. That the numbers of pixels agree is no condition of its
own: frames with the right sides have them. -/
theorem ensureTargetSize_eq (source target : Frame) (factor : UInt32) :
    ensureTargetSize source target factor =
      if UInt32.size ≤ factor.toNat * factor.toNat then .error (.fault .mulOverflow)
      else if Checked.sizeLimit ≤ source.length * (factor.toNat * factor.toNat) then
        .error (.fault .mulOverflow)
      else if UInt32.size ≤ source.width.toNat * factor.toNat then .error (.fault .mulOverflow)
      else if target.width.toNat ≠ source.width.toNat * factor.toNat then
        source.missized target factor
      else if UInt32.size ≤ source.height.toNat * factor.toNat then .error (.fault .mulOverflow)
      else if target.height.toNat ≠ source.height.toNat * factor.toNat then
        source.missized target factor
      else .ok () := by
  unfold ensureTargetSize Checked.mul32 Checked.mulSize
  simp only [← Nat.not_lt, ite_not]
  by_cases narrow : factor.toNat * factor.toNat < UInt32.size
  · simp only [if_pos narrow, Stop.ofFault, bind, Except.bind, toNat_mul_of_fits narrow]
    by_cases fits : source.length * (factor.toNat * factor.toNat) < Checked.sizeLimit
    · simp only [if_pos fits]
      by_cases wide : source.width.toNat * factor.toNat < UInt32.size
      · simp only [if_pos wide, ne_eq, ← UInt32.toNat_inj, toNat_mul_of_fits wide]
        by_cases width : target.width.toNat = source.width.toNat * factor.toNat
        · simp only [width, ↓reduceIte]
          by_cases tall : source.height.toNat * factor.toNat < UInt32.size
          · simp only [if_pos tall, toNat_mul_of_fits tall]
            by_cases height : target.height.toNat = source.height.toNat * factor.toNat
            · have length : target.length = source.length * (factor.toNat * factor.toNat) := by
                rw [Frame.length_eq, Frame.length_eq, width, height]
                ring
              simp only [height, length, not_true_eq_false, or_self, ↓reduceIte]
              rfl
            · simp only [height, not_false_eq_true, true_or, ↓reduceIte]
              rfl
          · simp only [if_neg tall]
        · simp only [width, ↓reduceIte]
          rfl
      · simp only [if_neg wide]
    · simp only [if_neg fits]
  · simp only [if_neg narrow, Stop.ofFault, bind, Except.bind]

theorem ensureTargetSize_of_right {source target : Frame} {factor : UInt32}
    (width : target.width.toNat = source.width.toNat * factor.toNat)
    (height : target.height.toNat = source.height.toNat * factor.toNat)
    (small : target.byteLength ≤ Frame.byteLimit) :
    ensureTargetSize source target factor = squareVerdict factor := by
  have length : source.length * (factor.toNat * factor.toNat) = target.length := by
    rw [Frame.length_eq, Frame.length_eq, width, height]
    ring
  have fits : target.length < Checked.sizeLimit := by
    have pixel : target.length ≤ target.byteLength :=
      Nat.le_mul_of_pos_right _ (by decide)
    have limit : Frame.byteLimit < Checked.sizeLimit := by decide
    omega
  have wide : source.width.toNat * factor.toNat < UInt32.size := width ▸ target.width.toNat_lt_size
  have tall : source.height.toNat * factor.toNat < UInt32.size :=
    height ▸ target.height.toNat_lt_size
  rw [ensureTargetSize_eq, squareVerdict, length, if_neg (Nat.not_le.mpr fits),
    if_neg (Nat.not_le.mpr wide), if_neg (not_not.mpr width), if_neg (Nat.not_le.mpr tall),
    if_neg (not_not.mpr height)]
  simp only [← Nat.not_lt, ite_not]

/-- An upscaler that fails where the check of its own geometry does, and nowhere else. -/
def Upscaler.Guarded (upscaler : Upscaler Memory) : Prop :=
  ∀ memory source target, (upscaler.filter memory source target).outcome =
    ensureTargetSize source target upscaler.factor

theorem Upscaler.guarded_linked (name : String) (factor : UInt32) (resizer : Resizer Memory) :
    (linked name factor resizer).Guarded := by
  intro memory source target
  simp only [linked]
  cases ensureTargetSize source target factor <;> rfl

theorem Upscaler.guarded_checked (name : String) (factor : UInt32)
    (filter : (source target : Frame) → target.Content) :
    (checked name factor filter).Guarded :=
  guarded_linked name factor _

namespace Stage

/-- A stage after its upscaler has been called with each of these frames. -/
def called (stage : Stage Memory) (sources : List Frame) : Stage Memory :=
  sources.foldl (fun stage source => (stage.run source).2) stage

theorem Fits.called {stage : Stage Memory} {upscaler : Upscaler Memory} {width height : UInt32}
    (fits : stage.Fits upscaler width height) (sources : List Frame) :
    (stage.called sources).Fits upscaler width height := by
  induction sources generalizing stage with
  | nil => exact fits
  | cons source rest inductionHypothesis => exact inductionHypothesis (fits.run source)

theorem Fits.byteLength_eq {stage : Stage Memory} {upscaler : Upscaler Memory}
    {width height : UInt32} (fits : stage.Fits upscaler width height) :
    stage.output.byteLength = width.toNat * upscaler.factor.toNat *
      (height.toNat * upscaler.factor.toNat) * Frame.bytesPerPixel := by
  rw [Frame.byteLength, Frame.length_eq, fits.outputWidth, fits.outputHeight]

theorem run_guarded {upscaler : Upscaler Memory} (guarded : upscaler.Guarded) {memory : Memory}
    {width height : UInt32} {stage : Stage Memory}
    (made : make upscaler memory width height = .ok stage) (sources : List Frame) {source : Frame}
    (sourceWidth : source.width = width) (sourceHeight : source.height = height) :
    ((stage.called sources).run source).1 = squareVerdict upscaler.factor := by
  have fresh := (make_eq_ok made).2
  have fits := fresh.called sources
  have small : (stage.called sources).output.byteLength ≤ Frame.byteLimit := by
    rw [fits.byteLength_eq, ← fresh.byteLength_eq]
    exact Frame.byteLength_le_of_scaled (scaled_of_make made).1
  rw [fits.outcome, guarded]
  apply ensureTargetSize_of_right _ _ small
  · rw [sourceWidth]
    exact fits.outputWidth
  · rw [sourceHeight]
    exact fits.outputHeight

end Stage

/-- Frames made for a display and for its enlargement pass the check, and so does every frame of
the display that a guarded upscaler of a pipeline is called with, unless the square of the factor
does not fit. -/
theorem made_geometry_accepted (width height : UInt32) :
    (∀ factor source target, Frame.blank width height = .ok source →
      Frame.scaled width height factor = .ok target →
      ensureTargetSize source target factor = squareVerdict factor) ∧
    ∀ (upscalers : Upscalers Memory) (pipeline : Pipeline Memory),
      Pipeline.make upscalers width height = .ok pipeline →
      ∀ (sources : List Frame) (shown : Frame), shown.width = width → shown.height = height →
        (upscalers.perFrame.Guarded → ((pipeline.perFrame.called sources).run shown).1 =
          squareVerdict upscalers.perFrame.factor) ∧
        (upscalers.capture.Guarded → ((pipeline.capture.called sources).run shown).1 =
          squareVerdict upscalers.capture.factor) := by
  constructor
  · intro factor source target blank scaled
    obtain ⟨-, targetWidth, targetHeight⟩ := Frame.scaled_eq_ok scaled
    have small := Frame.byteLength_le_of_scaled scaled
    cases Frame.blank_eq_ok blank
    exact ensureTargetSize_of_right targetWidth targetHeight small
  · intro upscalers pipeline made sources shown shownWidth shownHeight
    obtain ⟨perFrame, capture⟩ := Pipeline.stages_of_make made
    exact ⟨fun guarded => Stage.run_guarded guarded perFrame sources shownWidth shownHeight,
      fun guarded => Stage.run_guarded guarded capture sources shownWidth shownHeight⟩

/-- Two filters behind the check. -/
def Upscalers.guarded : Upscalers Unit where
  perFrame := .checked "nearest 2x" 2 (Nearest.fill 2)
  perFrameMemory := ()
  capture := .checked "nearest 3x" 3 (Nearest.fill 3)
  captureMemory := ()

theorem made_geometry_accepted_testCard :
    ensureTargetSize (.zeros 8 6) (.zeros 16 12) 2 = .ok () ∧
      ∃ pipeline, Pipeline.make .guarded 8 6 = .ok pipeline ∧
        ((pipeline.capture.called [.zeros 8 6]).run (.zeros 8 6)).1 = .ok () := by
  obtain ⟨pipeline, made⟩ : ∃ pipeline, Pipeline.make .guarded 8 6 = .ok pipeline := ⟨_, rfl⟩
  obtain ⟨frames, stages⟩ := made_geometry_accepted 8 6
  have guarded : Upscalers.guarded.capture.Guarded := Upscaler.guarded_checked "nearest 3x" 3 _
  exact ⟨frames 2 _ _ rfl rfl, pipeline, made,
    (stages .guarded pipeline made [.zeros 8 6] (.zeros 8 6) rfl rfl).2 guarded⟩

/-- Without rows there is room for a factor whose square does not fit. -/
theorem made_geometry_refused :
    ∃ source target, Frame.blank 3 0 = .ok source ∧ Frame.scaled 3 0 65536 = .ok target ∧
      ensureTargetSize source target 65536 = .error (.fault .mulOverflow) :=
  ⟨.zeros 3 0, .zeros 196608 0, rfl, rfl, rfl⟩

end FrameCycle
