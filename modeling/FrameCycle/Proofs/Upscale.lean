import FrameCycle.Upscale.Pipeline
import Mathlib.Data.Finset.Card

/-!
Upscalers over many calls. A stage keeps its upscaler and the size of its output from call to call;
what its upscaler answers, call after call, is a list of errors and successes.
-/
namespace FrameCycle

namespace Frame

theorem blank_eq_ok {width height : UInt32} {frame : Frame}
    (made : blank width height = .ok frame) : frame = zeros width height := by
  unfold blank at made
  split at made
  · cases made
    rfl
  · cases made

theorem scaled_eq_ok {width height factor : UInt32} {frame : Frame}
    (made : scaled width height factor = .ok frame) :
    frame = zeros (width * factor) (height * factor) ∧
      frame.width.toNat = width.toNat * factor.toNat ∧
      frame.height.toNat = height.toNat * factor.toNat := by
  unfold scaled Checked.mul32 at made
  by_cases wide : width.toNat * factor.toNat < UInt32.size
  · by_cases tall : height.toNat * factor.toNat < UInt32.size
    · simp only [wide, tall, ↓reduceIte] at made
      have frameEq := blank_eq_ok made
      subst frameEq
      refine ⟨rfl, ?_, ?_⟩
      · change (width * factor).toNat = _
        rw [UInt32.toNat_mul, Nat.mod_eq_of_lt wide]
      · change (height * factor).toNat = _
        rw [UInt32.toNat_mul, Nat.mod_eq_of_lt tall]
    · simp [wide, tall, bind, Except.bind] at made
  · simp [wide, bind, Except.bind] at made

end Frame

variable {Memory : Type}

/-- How a call ends that gave `answer`: the error, or none. -/
def outcomeOf : (answer : Option Error) → Except Stop Unit
  | none => .ok ()
  | some error => .error (.error error)

/-- How many of the calls did not err. -/
def passed (answers : List (Option Error)) : Nat :=
  answers.countP Option.isNone

def failed (answers : List (Option Error)) : Nat :=
  answers.countP Option.isSome

@[simp]
theorem passed_nil : passed [] = 0 := rfl

@[simp]
theorem passed_append (first second : List (Option Error)) :
    passed (first ++ second) = passed first + passed second :=
  List.countP_append

@[simp]
theorem passed_none : passed [none] = 1 := rfl

@[simp]
theorem passed_some (error : Error) : passed [some error] = 0 := rfl

@[simp]
theorem failed_nil : failed [] = 0 := rfl

@[simp]
theorem failed_append (first second : List (Option Error)) :
    failed (first ++ second) = failed first + failed second :=
  List.countP_append

@[simp]
theorem failed_none : failed [none] = 0 := rfl

@[simp]
theorem failed_some (error : Error) : failed [some error] = 1 := rfl

@[simp]
theorem passed_replicate (count : Nat) : passed (List.replicate count none) = count := by
  simp [passed, List.countP_replicate]

theorem passed_add_failed (answers : List (Option Error)) :
    passed answers + failed answers = answers.length := by
  rw [List.length_eq_countP_add_countP Option.isNone, passed, failed]
  congr 2
  funext answer
  cases answer <;> simp

namespace Upscaler

/-- Frames of the sizes that an upscaler is given by displays of `width` by `height`. -/
structure Suits (upscaler : Upscaler Memory) (width height : UInt32) (source target : Frame) :
    Prop where
  sourceWidth : source.width = width
  sourceHeight : source.height = height
  targetWidth : target.width.toNat = width.toNat * upscaler.factor.toNat
  targetHeight : target.height.toNat = height.toNat * upscaler.factor.toNat

/-- On frames of the right sizes the upscaler may err, but there is no fault. -/
def Calm (upscaler : Upscaler Memory) (width height : UInt32) : Prop :=
  ∀ (memory : Memory) (source target : Frame), upscaler.Suits width height source target →
    ∀ fault, (upscaler.filter memory source target).outcome ≠ .error (.fault fault)

/-- Calls one after the other, on frames of the right sizes: from the memory at first the answers
lead to the memory at last. -/
inductive Answers (upscaler : Upscaler Memory) (width height : UInt32) (memory : Memory) :
    List (Option Error) → Memory → Prop where
  | nil : Answers upscaler width height memory [] memory
  | snoc {answers : List (Option Error)} {held : Memory} {source target : Frame}
      {answer : Option Error} :
      Answers upscaler width height memory answers held →
      upscaler.Suits width height source target →
      (upscaler.filter held source target).outcome = outcomeOf answer →
      Answers upscaler width height memory (answers ++ [answer])
        (upscaler.filter held source target).memory

/-- Whatever frames of the right sizes it is given, the upscaler errs in no calls but those with
these numbers, from 0 on. -/
def ErrsOnlyAt (upscaler : Upscaler Memory) (width height : UInt32) (memory : Memory)
    (numbers : Finset Nat) : Prop :=
  ∀ answers held error, upscaler.Answers width height memory (answers ++ [some error]) held →
    answers.length ∈ numbers

theorem failed_le_card {upscaler : Upscaler Memory} {width height : UInt32} {memory : Memory}
    {numbers : Finset Nat} (errsOnlyAt : upscaler.ErrsOnlyAt width height memory numbers)
    {answers : List (Option Error)} {held : Memory}
    (answered : upscaler.Answers width height memory answers held) :
    failed answers ≤ numbers.card := by
  suffices failed answers ≤ (numbers.filter (· < answers.length)).card from
    this.trans (Finset.card_filter_le _ _)
  induction answered with
  | nil => simp
  | @snoc answers held source target answer answered suits outcome inductionHypothesis =>
      have grows : numbers.filter (· < answers.length) ⊆
          numbers.filter (· < (answers ++ [answer]).length) := by
        refine Finset.monotone_filter_right _ fun number _ before => ?_
        rw [List.length_append]
        exact Nat.lt_add_right _ before
      cases answer with
      | none =>
          rw [failed_append, failed_none, Nat.add_zero]
          exact inductionHypothesis.trans (Finset.card_le_card grows)
      | some error =>
          have listed := errsOnlyAt answers _ error (.snoc answered suits outcome)
          rw [failed_append, failed_some]
          refine Nat.lt_of_le_of_lt inductionHypothesis (Finset.card_lt_card ?_)
          refine Finset.ssubset_iff_subset_ne.mpr ⟨grows, fun same => ?_⟩
          have member : answers.length ∈ numbers.filter (· < (answers ++ [some error]).length) := by
            simp [listed]
          rw [← same] at member
          simp at member

/-- An upscaler that errs in the calls with these numbers; its memory counts the calls. -/
def erringAt (numbers : Finset Nat) (name : String) (factor : UInt32) (error : Error) :
    Upscaler Nat where
  name
  factor
  filter calls _ target :=
    ⟨if calls ∈ numbers then .error (.error error) else .ok (), target.content, calls + 1⟩

variable {numbers : Finset Nat} {name : String} {factor : UInt32} {error : Error}

theorem erringAt_calm (width height : UInt32) :
    (erringAt numbers name factor error).Calm width height := by
  intro memory source target suits fault
  simp only [erringAt]
  split <;> simp

theorem erringAt_answers {width height : UInt32} {answers : List (Option Error)} {calls : Nat}
    (answered : (erringAt numbers name factor error).Answers width height 0 answers calls) :
    calls = answers.length ∧ answers = (List.range calls).map fun call =>
      if call ∈ numbers then some error else none := by
  induction answered with
  | nil => exact ⟨rfl, rfl⟩
  | @snoc answers calls source target answer answered suits outcome inductionHypothesis =>
      obtain ⟨counted, listed⟩ := inductionHypothesis
      have last : answer = if calls ∈ numbers then some error else none := by
        by_cases member : calls ∈ numbers <;> cases answer <;>
          simp [erringAt, outcomeOf, member] at outcome ⊢
        exact outcome.symm
      refine ⟨by simp [erringAt, counted], ?_⟩
      simp only [erringAt, List.range_succ, List.map_append, List.map_cons, List.map_nil, ← listed,
        ← last]

theorem erringAt_errsOnlyAt (width height : UInt32) :
    (erringAt numbers name factor error).ErrsOnlyAt width height 0 numbers := by
  intro answers held cause answered
  obtain ⟨counted, listed⟩ := erringAt_answers answered
  rw [List.length_append, List.length_singleton] at counted
  subst counted
  rw [List.range_succ, List.map_append] at listed
  have last := (List.append_inj' listed rfl).2
  by_cases member : answers.length ∈ numbers
  · exact member
  · simp [member] at last

end Upscaler

/-- Of these upscalers only the one for every frame errs, in the calls with these numbers. -/
def Upscalers.erringAt (numbers : Finset Nat) : Upscalers Nat where
  perFrame := .erringAt numbers "twofold" 2 (.bufferSize 1 0)
  perFrameMemory := 0
  capture := .erringAt ∅ "threefold" 3 (.bufferSize 1 0)
  captureMemory := 0

namespace Stage

structure Fits (stage : Stage Memory) (upscaler : Upscaler Memory) (width height : UInt32) :
    Prop where
  upscaler_eq : stage.upscaler = upscaler
  outputWidth : stage.output.width.toNat = width.toNat * upscaler.factor.toNat
  outputHeight : stage.output.height.toNat = height.toNat * upscaler.factor.toNat

/-- A stage before its first call. -/
def fresh (upscaler : Upscaler Memory) (memory : Memory) (width height : UInt32) :
    Stage Memory :=
  ⟨upscaler, memory, Frame.zeros (width * upscaler.factor) (height * upscaler.factor)⟩

theorem Fits.suits {stage : Stage Memory} {upscaler : Upscaler Memory} {width height : UInt32}
    (fits : stage.Fits upscaler width height) {source : Frame}
    (sourceWidth : source.width = width) (sourceHeight : source.height = height) :
    upscaler.Suits width height source stage.output :=
  ⟨sourceWidth, sourceHeight, fits.outputWidth, fits.outputHeight⟩

theorem Fits.run {stage : Stage Memory} {upscaler : Upscaler Memory} {width height : UInt32}
    (fits : stage.Fits upscaler width height) (source : Frame) :
    (stage.run source).2.Fits upscaler width height :=
  ⟨fits.upscaler_eq, fits.outputWidth, fits.outputHeight⟩

theorem Fits.outcome {stage : Stage Memory} {upscaler : Upscaler Memory} {width height : UInt32}
    (fits : stage.Fits upscaler width height) (source : Frame) :
    (stage.run source).1 = (upscaler.filter stage.memory source stage.output).outcome := by
  rw [← fits.upscaler_eq]
  rfl

theorem Fits.not_fault {stage : Stage Memory} {upscaler : Upscaler Memory} {width height : UInt32}
    (fits : stage.Fits upscaler width height) (calm : upscaler.Calm width height) {source : Frame}
    (sourceWidth : source.width = width) (sourceHeight : source.height = height) (fault : Fault) :
    (stage.run source).1 ≠ .error (.fault fault) := by
  rw [fits.outcome]
  exact calm _ source _ (fits.suits sourceWidth sourceHeight) fault

theorem Fits.answers {stage : Stage Memory} {upscaler : Upscaler Memory} {width height : UInt32}
    (fits : stage.Fits upscaler width height) {memory : Memory} {answers : List (Option Error)}
    (answered : upscaler.Answers width height memory answers stage.memory) {source : Frame}
    (sourceWidth : source.width = width) (sourceHeight : source.height = height)
    {answer : Option Error} (outcome : (stage.run source).1 = outcomeOf answer) :
    upscaler.Answers width height memory (answers ++ [answer]) (stage.run source).2.memory := by
  have held : (stage.run source).2.memory =
      (upscaler.filter stage.memory source stage.output).memory := by
    rw [← fits.upscaler_eq]
    rfl
  rw [held]
  exact .snoc answered (fits.suits sourceWidth sourceHeight) (fits.outcome source ▸ outcome)

theorem scaled_of_make {upscaler : Upscaler Memory} {memory : Memory} {width height : UInt32}
    {stage : Stage Memory} (made : make upscaler memory width height = .ok stage) :
    Frame.scaled width height upscaler.factor = .ok stage.output ∧
      stage = ⟨upscaler, memory, stage.output⟩ := by
  unfold make at made
  cases scaled : Frame.scaled width height upscaler.factor with
  | error fault => simp [scaled, bind, Except.bind] at made
  | ok output =>
      simp only [scaled, bind, Except.bind, pure, Except.pure, Except.ok.injEq] at made
      subst made
      exact ⟨rfl, rfl⟩

theorem make_eq_ok {upscaler : Upscaler Memory} {memory : Memory} {width height : UInt32}
    {stage : Stage Memory} (made : make upscaler memory width height = .ok stage) :
    stage = fresh upscaler memory width height ∧ stage.Fits upscaler width height := by
  obtain ⟨scaled, stageEq⟩ := scaled_of_make made
  obtain ⟨outputEq, outputWidth, outputHeight⟩ := Frame.scaled_eq_ok scaled
  refine ⟨?_, congrArg Stage.upscaler stageEq, outputWidth, outputHeight⟩
  rw [stageEq, outputEq]
  rfl

end Stage

namespace Pipeline

structure Fits (pipeline : Pipeline Memory) (upscalers : Upscalers Memory)
    (width height : UInt32) : Prop where
  perFrame : pipeline.perFrame.Fits upscalers.perFrame width height
  capture : pipeline.capture.Fits upscalers.capture width height

theorem stages_of_make {upscalers : Upscalers Memory} {width height : UInt32}
    {pipeline : Pipeline Memory} (made : make upscalers width height = .ok pipeline) :
    Stage.make upscalers.perFrame upscalers.perFrameMemory width height = .ok pipeline.perFrame ∧
      Stage.make upscalers.capture upscalers.captureMemory width height =
        .ok pipeline.capture := by
  unfold make at made
  cases first : Stage.make upscalers.perFrame upscalers.perFrameMemory width height with
  | error fault => simp [first, bind, Except.bind] at made
  | ok perFrame =>
      cases second : Stage.make upscalers.capture upscalers.captureMemory width height with
      | error fault => simp [first, second, bind, Except.bind] at made
      | ok capture =>
          simp only [first, second, bind, Except.bind, pure, Except.pure, Except.ok.injEq] at made
          subst made
          exact ⟨rfl, rfl⟩

theorem make_eq_ok {upscalers : Upscalers Memory} {width height : UInt32}
    {pipeline : Pipeline Memory} (made : make upscalers width height = .ok pipeline) :
    pipeline.Fits upscalers width height ∧
      pipeline.perFrame =
        .fresh upscalers.perFrame upscalers.perFrameMemory width height ∧
      pipeline.capture = .fresh upscalers.capture upscalers.captureMemory width height := by
  obtain ⟨first, second⟩ := stages_of_make made
  obtain ⟨perFrameEq, perFrameFits⟩ := Stage.make_eq_ok first
  obtain ⟨captureEq, captureFits⟩ := Stage.make_eq_ok second
  exact ⟨⟨perFrameFits, captureFits⟩, perFrameEq, captureEq⟩

end Pipeline

end FrameCycle
