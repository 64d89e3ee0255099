import FrameCycle.Proofs.Demand
import FrameCycle.Proofs.Script.Lookup
import FrameCycle.Proofs.Upscale
import Mathlib.Tactic.Ring

/-!
The plan of a run: what it demands and in which order, read off its configuration, its upscalers
and the size of its display alone. Frames whose upscaler errs are repeated without going on.
-/
namespace FrameCycle

def Action.demand (snapshot : Path) : Action → Demand
  | .keyDown pressed => .key pressed true
  | .keyUp released => .key released false
  | .loadSnapshot path => .snapshot (path.getD snapshot)

structure Plan (Memory : Type) where
  config : Config
  upscalers : Option (Upscalers Memory)
  /-- The size of the display. -/
  width : UInt32
  height : UInt32

namespace Plan

variable {Memory : Type}

def captureTick (plan : Plan Memory) : Nat :=
  plan.config.captureTick.toNat

/-- Neither upscaler ends in a fault. -/
def Calm (plan : Plan Memory) : Prop :=
  ∀ upscalers, plan.upscalers = some upscalers →
    upscalers.perFrame.Calm plan.width plan.height ∧ upscalers.capture.Calm plan.width plan.height

theorem calm_of_erringAt {plan : Plan Nat} {numbers : Finset Nat}
    (present : plan.upscalers = some (.erringAt numbers)) : plan.Calm := by
  intro upscalers same
  rw [present] at same
  cases same
  exact ⟨Upscaler.erringAt_calm plan.width plan.height,
    Upscaler.erringAt_calm plan.width plan.height⟩

def image (plan : Plan Memory) (file : String) : Path :=
  plan.config.outputDir.join (.ofString file)

def silence : Array UInt8 :=
  Array.replicate 1024 0

/-- All that comes before the first frame. -/
def opening (plan : Plan Memory) : List Demand :=
  .create plan.config.createParams ::
    (if plan.config.grid then
      [.write (plan.image gridFile) (plan.width.toNat + 1) (plan.height.toNat + 1)]
    else []) ++
    [.audio 0 silence, .audio 1 silence]

/-- One frame: the machine runs, is read, and what it shows is enlarged. -/
def frame (plan : Plan Memory) : List Demand :=
  .advance :: .display ::
    match plan.upscalers with
    | none => []
    | some upscalers => [.upscale upscalers.perFrame.name upscalers.perFrame.factor]

def actions (plan : Plan Memory) (tick : Nat) : List Demand :=
  ((plan.config.script.eventsAt tick).flatMap Event.actions).map
    (Action.demand plan.config.snapshot)

def tick (plan : Plan Memory) (tick : Nat) : List Demand :=
  plan.frame ++ plan.actions tick

/-- The frames of which `answers` tells, `reached` ticks having passed before. -/
def walk (plan : Plan Memory) : (reached : Nat) → (answers : List (Option Error)) → List Demand
  | _, [] => []
  | reached, none :: answers => plan.tick (reached + 1) ++ walk plan (reached + 1) answers
  | reached, some _ :: answers => plan.frame ++ walk plan reached answers

def resized (plan : Plan Memory) (factor : UInt32) : Demand :=
  .write (plan.image (resizedFile factor)) (plan.width.toNat * factor.toNat)
    (plan.height.toNat * factor.toNat)

/-- What upscalers add to a capture; `enlarged` if the one for the capture did not err. -/
def enlargements (plan : Plan Memory) (upscalers : Upscalers Memory) (enlarged : Bool) :
    List Demand :=
  plan.resized upscalers.perFrame.factor ::
    .upscale upscalers.capture.name upscalers.capture.factor ::
    if enlarged then [plan.resized upscalers.capture.factor] else []

def shots (plan : Plan Memory) (enlarged : Bool) : List Demand :=
  .write (plan.image originalFile) plan.width.toNat plan.height.toNat ::
    match plan.upscalers with
    | none => []
    | some upscalers => plan.enlargements upscalers enlarged

/-- Whether the upscaler for the capture, at its first call, enlarges `shown` without an error. -/
def enlarges (plan : Plan Memory) (shown : Frame) : Bool :=
  match plan.upscalers with
  | none => false
  | some upscalers =>
      let stage : Stage Memory :=
        .fresh upscalers.capture upscalers.captureMemory plan.width plan.height
      (stage.run shown).1.isOk

/-- A whole run without errors of the upscaler for every frame. -/
def schedule (plan : Plan Memory) (enlarged : Bool) : List Demand :=
  plan.opening ++ (List.range' 1 plan.captureTick).flatMap plan.tick ++ plan.shots enlarged ++
    [.release]

/-- The pipeline of a run whose upscaler for every frame has given `answers`; without upscalers
there is none, and nothing errs. -/
inductive Equips (plan : Plan Memory) (answers : List (Option Error)) :
    Option (Pipeline Memory) → Prop where
  | bare : plan.upscalers = none → (∀ answer ∈ answers, answer = none) → Equips plan answers none
  | staged {upscalers : Upscalers Memory} {pipeline : Pipeline Memory} :
      plan.upscalers = some upscalers →
      pipeline.Fits upscalers plan.width plan.height →
      upscalers.perFrame.Answers plan.width plan.height upscalers.perFrameMemory answers
        pipeline.perFrame.memory →
      Equips plan answers (some pipeline)

/-- The stage for the capture has not been used. -/
def Spares (plan : Plan Memory) (pipeline : Option (Pipeline Memory)) : Prop :=
  pipeline.map Pipeline.capture = plan.upscalers.map fun upscalers =>
    .fresh upscalers.capture upscalers.captureMemory plan.width plan.height

theorem walk_append (plan : Plan Memory) (reached : Nat) (first second : List (Option Error)) :
    plan.walk reached (first ++ second) =
      plan.walk reached first ++ plan.walk (reached + passed first) second := by
  induction first generalizing reached with
  | nil => simp [walk]
  | cons answer rest inductionHypothesis =>
      cases answer with
      | none =>
          simp only [List.cons_append, walk, inductionHypothesis, List.append_assoc]
          have split := passed_append [none] rest
          rw [List.singleton_append, passed_none] at split
          rw [split, Nat.add_assoc]
      | some error =>
          simp only [List.cons_append, walk, inductionHypothesis, List.append_assoc]
          have split := passed_append [some error] rest
          rw [List.singleton_append, passed_some, Nat.zero_add] at split
          rw [split]

theorem walk_concat_none (plan : Plan Memory) (answers : List (Option Error)) :
    plan.walk 0 (answers ++ [none]) = plan.walk 0 answers ++ plan.tick (passed answers + 1) := by
  simp [walk_append, walk]

theorem walk_concat_some (plan : Plan Memory) (answers : List (Option Error)) (error : Error) :
    plan.walk 0 (answers ++ [some error]) = plan.walk 0 answers ++ plan.frame := by
  simp [walk_append, walk]

theorem walk_replicate (plan : Plan Memory) (reached count : Nat) :
    plan.walk reached (List.replicate count none) =
      (List.range' (reached + 1) count).flatMap plan.tick := by
  induction count generalizing reached with
  | zero => rfl
  | succ count inductionHypothesis =>
      rw [List.replicate_succ, walk, inductionHypothesis, List.range'_succ, List.flatMap_cons]

theorem isInput_of_mem_actions {plan : Plan Memory} {tick : Nat} {demand : Demand}
    (member : demand ∈ plan.actions tick) : demand.isInput = true := by
  obtain ⟨action, -, rfl⟩ := List.mem_map.mp member
  cases action <;> rfl

/-- What is no input is demanded by frames alone. -/
theorem countP_walk (plan : Plan Memory) {counts : Demand → Bool}
    (noInput : ∀ demand, demand.isInput = true → counts demand = false) (reached : Nat)
    (answers : List (Option Error)) :
    (plan.walk reached answers).countP counts = answers.length * plan.frame.countP counts := by
  have quiet : ∀ tick, (plan.actions tick).countP counts = 0 := by
    intro tick
    apply List.countP_eq_zero.mpr
    intro demand member
    simp [noInput demand (isInput_of_mem_actions member)]
  induction answers generalizing reached with
  | nil => simp [walk]
  | cons answer rest inductionHypothesis =>
      cases answer with
      | none =>
          simp only [walk, tick, List.countP_append, inductionHypothesis, quiet, List.length_cons]
          ring
      | some error =>
          simp only [walk, List.countP_append, inductionHypothesis, List.length_cons]
          ring

/-- Inputs are demanded by the ticks that passed, each once. -/
theorem filter_isInput_walk (plan : Plan Memory) (reached : Nat)
    (answers : List (Option Error)) :
    (plan.walk reached answers).filter Demand.isInput =
      (List.range' (reached + 1) (passed answers)).flatMap plan.actions := by
  have frames : plan.frame.filter Demand.isInput = [] := by
    unfold frame
    cases plan.upscalers <;> rfl
  have actions : ∀ tick, (plan.actions tick).filter Demand.isInput = plan.actions tick :=
    fun tick => List.filter_eq_self.mpr fun demand member => isInput_of_mem_actions member
  induction answers generalizing reached with
  | nil => simp [walk]
  | cons answer rest inductionHypothesis =>
      have split := passed_append [answer] rest
      rw [List.singleton_append] at split
      rw [split]
      cases answer with
      | none =>
          rw [passed_none, Nat.add_comm 1, List.range'_succ, List.flatMap_cons]
          simp only [walk, tick, List.filter_append, inductionHypothesis, frames, actions,
            List.nil_append]
      | some error =>
          rw [passed_some, Nat.zero_add]
          simp only [walk, List.filter_append, inductionHypothesis, frames, List.nil_append]

theorem isWrite_or_isUpscale_of_mem_shots {plan : Plan Memory} {enlarged : Bool}
    {demand : Demand} (member : demand ∈ plan.shots enlarged) :
    demand.isWrite = true ∨ demand.isUpscale = true := by
  unfold shots enlargements at member
  cases present : plan.upscalers with
  | none =>
      simp only [present, List.mem_singleton] at member
      exact .inl (member ▸ rfl)
  | some upscalers =>
      cases enlarged <;> simp only [present, Bool.false_eq_true, ↓reduceIte, List.mem_cons,
        List.not_mem_nil, or_false] at member
      · rcases member with rfl | rfl | rfl <;> simp [resized, Demand.isWrite, Demand.isUpscale]
      · rcases member with rfl | rfl | rfl | rfl <;>
          simp [resized, Demand.isWrite, Demand.isUpscale]

theorem countP_isUpscale_shots (plan : Plan Memory) (enlarged : Bool) :
    (plan.shots enlarged).countP Demand.isUpscale = if plan.upscalers.isSome then 1 else 0 := by
  unfold shots enlargements resized
  cases plan.upscalers <;> cases enlarged <;> simp [Demand.isUpscale, List.countP_cons]

end Plan

end FrameCycle
