import FrameCycle.Proofs.Accounting
import FrameCycle.Proofs.Exposure
import FrameCycle.Proofs.Geometry

/-!
Cycles with linked filters. A linked filter stands behind a check of the geometry. The buffers that
a start has made pass it in every step and in the capture, so a filter is called with frames of its
own sizes only, and no upscale errs.
-/
namespace FrameCycle

variable {State Store Memory : Type}

namespace Resizer

/-- From the memory at first so many calls lead to the memory at last, each with a source of `width`
by `height` and a target `factor` times that on both axes. -/
inductive Heard (resizer : Resizer Memory) (factor width height : UInt32) (memory : Memory) :
    (calls : Nat) → Memory → Prop where
  | nil : Heard resizer factor width height memory 0 memory
  | snoc {calls : Nat} {held : Memory} {source target : Frame} :
      Heard resizer factor width height memory calls held →
      source.width = width → source.height = height →
      target.width.toNat = width.toNat * factor.toNat →
      target.height.toNat = height.toNat * factor.toNat →
      Heard resizer factor width height memory (calls + 1) (resizer held source target).2

/-- There is room in memory for a target, and the square of the factor fits its word. -/
structure Roomy (factor width height : UInt32) : Prop where
  narrow : factor.toNat * factor.toNat < UInt32.size
  bytes : width.toNat * factor.toNat * (height.toNat * factor.toNat) * Frame.bytesPerPixel ≤
    Frame.byteLimit

end Resizer

namespace Upscaler

variable {name : String} {factor width height : UInt32} {resizer : Resizer Memory}

theorem Suits.accepted {source target : Frame}
    (suits : (linked name factor resizer).Suits width height source target)
    (roomy : Resizer.Roomy factor width height) :
    ensureTargetSize source target factor = .ok () := by
  have small : target.byteLength ≤ Frame.byteLimit := by
    rw [Frame.byteLength, Frame.length_eq, suits.targetWidth, suits.targetHeight]
    exact roomy.bytes
  rw [ensureTargetSize_of_right _ _ small, squareVerdict, if_pos roomy.narrow]
  · rw [suits.sourceWidth]
    exact suits.targetWidth
  · rw [suits.sourceHeight]
    exact suits.targetHeight

theorem Suits.linked_filter {source target : Frame}
    (suits : (linked name factor resizer).Suits width height source target)
    (roomy : Resizer.Roomy factor width height) (memory : Memory) :
    (linked name factor resizer).filter memory source target =
      ⟨.ok (), (resizer memory source target).1, (resizer memory source target).2⟩ := by
  simp only [linked, suits.accepted roomy]

theorem calm_linked (roomy : Resizer.Roomy factor width height) :
    (linked name factor resizer).Calm width height := by
  intro memory source target suits fault
  simp [suits.linked_filter roomy]

/-- A linked filter never errs on frames of its sizes, and passes each of its calls on. -/
theorem heard_of_answers (roomy : Resizer.Roomy factor width height) {memory held : Memory}
    {answers : List (Option Error)}
    (answered : (linked name factor resizer).Answers width height memory answers held) :
    answers = List.replicate answers.length none ∧
      resizer.Heard factor width height memory answers.length held := by
  induction answered with
  | nil => exact ⟨rfl, .nil⟩
  | @snoc answers held source target answer _ suits outcome inductionHypothesis =>
      obtain ⟨passed, heard⟩ := inductionHypothesis
      rw [suits.linked_filter roomy] at outcome ⊢
      cases answer with
      | some error => cases outcome
      | none =>
          rw [List.length_append, List.length_singleton, List.replicate_succ', ← passed]
          exact ⟨rfl, heard.snoc suits.sourceWidth suits.sourceHeight suits.targetWidth
            suits.targetHeight⟩

end Upscaler

namespace Stage

/-- A stage whose output is what its filter asks for, and whose filter has been called so often. -/
structure Exact (stage : Stage Memory) (resizer : Resizer Memory) (factor width height : UInt32)
    (memory : Memory) (calls : Nat) : Prop where
  outputWidth : stage.output.width.toNat = width.toNat * factor.toNat
  outputHeight : stage.output.height.toNat = height.toNat * factor.toNat
  accepted : ∀ source : Frame, source.width = width → source.height = height →
    ensureTargetSize source stage.output factor = .ok ()
  heard : resizer.Heard factor width height memory calls stage.memory

variable {name : String} {factor width height : UInt32} {resizer : Resizer Memory}
  {stage : Stage Memory}

theorem Fits.exact (fits : stage.Fits (.linked name factor resizer) width height)
    (roomy : Resizer.Roomy factor width height) {memory : Memory} {calls : Nat}
    (heard : resizer.Heard factor width height memory calls stage.memory) :
    stage.Exact resizer factor width height memory calls :=
  ⟨fits.outputWidth, fits.outputHeight,
    fun _ sourceWidth sourceHeight => (fits.suits sourceWidth sourceHeight).accepted roomy, heard⟩

theorem Fits.run_linked (fits : stage.Fits (.linked name factor resizer) width height)
    (roomy : Resizer.Roomy factor width height) {source : Frame}
    (sourceWidth : source.width = width)
    (sourceHeight : source.height = height) :
    (stage.run source).1 = .ok () ∧
      (stage.run source).2.memory = (resizer stage.memory source stage.output).2 := by
  have called := (fits.suits sourceWidth sourceHeight).linked_filter roomy stage.memory
  simp only [Stage.run, fits.upscaler_eq, called, and_self]

theorem Exact.run {memory : Memory} {calls : Nat}
    (exact : stage.Exact resizer factor width height memory calls)
    (fits : stage.Fits (.linked name factor resizer) width height)
    (roomy : Resizer.Roomy factor width height) {source : Frame}
    (sourceWidth : source.width = width)
    (sourceHeight : source.height = height) :
    (stage.run source).2.Exact resizer factor width height memory (calls + 1) := by
  refine (fits.run source).exact roomy ?_
  rw [(fits.run_linked roomy sourceWidth sourceHeight).2]
  exact exact.heard.snoc sourceWidth sourceHeight exact.outputWidth exact.outputHeight

theorem roomy_of_make {upscaler : Upscaler Memory} {memory : Memory}
    (narrow : upscaler.factor.toNat * upscaler.factor.toNat < UInt32.size)
    (made : make upscaler memory width height = .ok stage) :
    Resizer.Roomy upscaler.factor width height := by
  refine ⟨narrow, ?_⟩
  rw [← (make_eq_ok made).2.byteLength_eq]
  exact Frame.byteLength_le_of_scaled (scaled_of_make made).1

end Stage

/-- A plan whose upscalers, if it has any, are linked filters that a start has made room for. -/
inductive Plan.Linked (plan : Plan Memory) (resizers : Resizers Memory) : Prop where
  | bare : plan.upscalers = none → Linked plan resizers
  | linked : plan.upscalers = some resizers.upscalers → Resizer.Roomy 3 plan.width plan.height →
      Resizer.Roomy 2 plan.width plan.height → Linked plan resizers

/-- A pipeline after so many frames and captures. -/
structure Pipeline.Exact (pipeline : Pipeline Memory) (resizers : Resizers Memory)
    (width height : UInt32) (shown captured : Nat) : Prop where
  perFrame : pipeline.perFrame.Exact resizers.threefold 3 width height resizers.memory shown
  capture : pipeline.capture.Exact resizers.twofold 2 width height resizers.memory captured

namespace Plan.Linked

variable {plan : Plan Memory} {resizers : Resizers Memory} {answers : List (Option Error)}
  {pipeline : Option (Pipeline Memory)}

theorem calm (linked : plan.Linked resizers) : plan.Calm := by
  intro upscalers present
  cases linked with
  | bare absent => cases absent.symm.trans present
  | linked same threefold twofold =>
      cases same.symm.trans present
      exact ⟨Upscaler.calm_linked threefold, Upscaler.calm_linked twofold⟩

/-- No frame has erred. -/
theorem passes (linked : plan.Linked resizers) (equipped : plan.Equips answers pipeline) :
    answers = List.replicate answers.length none := by
  cases equipped with
  | bare absent quiet => exact List.eq_replicate_iff.mpr ⟨rfl, quiet⟩
  | staged present fits answered =>
      cases linked with
      | bare absent => cases absent.symm.trans present
      | linked same threefold twofold =>
          cases same.symm.trans present
          exact (Upscaler.heard_of_answers threefold answered).1

theorem exact_of_spared (linked : plan.Linked resizers) (equipped : plan.Equips answers pipeline)
    (spared : plan.Spares pipeline) {staged : Pipeline Memory} (present : pipeline = some staged) :
    staged.Exact resizers plan.width plan.height answers.length 0 := by
  subst present
  cases equipped with
  | staged present fits answered =>
      cases linked with
      | bare absent => cases absent.symm.trans present
      | linked same threefold twofold =>
          cases same.symm.trans present
          refine ⟨fits.perFrame.exact threefold (Upscaler.heard_of_answers threefold answered).2,
            fits.capture.exact twofold ?_⟩
          have fresh : staged.capture = .fresh (.linked "hq2x" 2 resizers.twofold) resizers.memory
              plan.width plan.height := by
            simpa [Spares, same, Resizers.upscalers] using spared
          rw [fresh]
          exact .nil

end Plan.Linked

namespace Cycle

theorem make_of_startBuffers {upscalers : Upscalers Memory} {width height : UInt32} {frame : Frame}
    {pipeline : Option (Pipeline Memory)}
    (done : startBuffers (some upscalers) width height = .ok (frame, pipeline)) :
    ∃ made, pipeline = some made ∧ Pipeline.make upscalers width height = .ok made := by
  unfold startBuffers at done
  cases cleared : Frame.blank width height with
  | error fault => simp [cleared, bind, Except.bind] at done
  | ok frame =>
      cases made : Pipeline.make upscalers width height with
      | error fault => simp [cleared, made, bind, Except.bind] at done
      | ok staged =>
          simp only [cleared, made, bind, Except.bind] at done
          cases done
          exact ⟨staged, rfl, rfl⟩

/-- A cycle that has started has made its buffers, and so there was room for them. -/
theorem linked_of_start {rig : Rig State Store} {config : Config} {resizers : Resizers Memory}
    {upscalers : Option (Upscalers Memory)} {machine : State} {store : Store} {clock : Clock}
    {cycle : Cycle State Store Memory}
    (chosen : upscalers = none ∨ upscalers = some resizers.upscalers)
    (started : start rig config upscalers (.ready machine store clock) = .started cycle) :
    (rig.plan config upscalers machine).Linked resizers := by
  obtain ⟨-, -, frame, pipeline, -, -, buffered, -⟩ := start_eq_started started
  rcases chosen with rfl | rfl
  · exact .bare rfl
  · obtain ⟨made, -, making⟩ := make_of_startBuffers buffered
    obtain ⟨perFrame, capture⟩ := Pipeline.stages_of_make making
    have threefold : (3 : UInt32).toNat * (3 : UInt32).toNat < UInt32.size := by decide
    have twofold : (2 : UInt32).toNat * (2 : UInt32).toNat < UInt32.size := by decide
    exact .linked rfl (Stage.roomy_of_make threefold perFrame)
      (Stage.roomy_of_make twofold capture)

variable {plan : Plan Memory} {resizers : Resizers Memory} {cycle : Cycle State Store Memory}

/-- With linked filters a step does its work: it goes on, or it takes the capture. -/
theorem step_of_linked (linked : plan.Linked resizers) {count : Nat}
    (underway : cycle.Underway plan (List.replicate count none)) (rig : Rig State Store) :
    (count + 1 < plan.captureTick ∧ ∃ next, (step rig).run cycle = .ok true next ∧
        next.Underway plan (List.replicate (count + 1) none)) ∨
      (count + 1 = plan.captureTick ∧ ∃ last, (step rig).run cycle = .ok false last ∧
        last.Over plan (List.replicate (count + 1) none)) := by
  have early := underway.early
  rw [passed_replicate] at early
  have stepped := stepped_of_underway underway rig
  cases ran : (step rig).run cycle with
  | ok going next =>
      rw [ran] at stepped
      cases stepped with
      | ticked onward =>
          rw [← List.replicate_succ'] at onward
          have further := onward.early
          rw [passed_replicate] at further
          exact .inl ⟨further, next, rfl, onward⟩
      | captured settled =>
          rw [← List.replicate_succ'] at settled
          have complete := settled.complete
          rw [passed_replicate] at complete
          exact .inr ⟨complete, next, rfl, settled⟩
  | error stop next =>
      rw [ran] at stepped
      cases stepped with
      | erred erring =>
          have passes := linked.passes erring.reached.equipped
          simp [List.replicate_succ'] at passes
      | exhausted full running =>
          rw [List.length_replicate] at full
          have small := plan.config.captureTick.toNat_lt_size
          have sizes : UInt32.size < UInt64.size := by decide
          rw [Plan.captureTick] at early
          omega
      | faulted restless => exact absurd linked.calm restless

end Cycle

variable {plan : Plan Memory} {resizers : Resizers Memory} {cycle : Cycle State Store Memory}

theorem steps_before_capture (linked : plan.Linked resizers) (underway : cycle.Underway plan [])
    (rig : Rig State Store) {count : Nat} (early : count < plan.captureTick) :
    ∃ next, steps rig cycle count = ⟨List.replicate count none, next, none⟩ ∧
      next.Underway plan (List.replicate count none) := by
  induction count with
  | zero => exact ⟨cycle, rfl, underway⟩
  | succ count inductionHypothesis =>
      obtain ⟨before, served, going⟩ := inductionHypothesis (Nat.lt_of_succ_lt early)
      rcases Cycle.step_of_linked linked going rig with ⟨-, next, ran, onward⟩ | ⟨complete, -⟩
      · refine ⟨next, ?_, onward⟩
        rw [steps_succ, served, Served.obey_step going.waiting.phase_eq, ran,
          ← List.replicate_succ']
      · omega

/-- The capture comes with the step of its tick, and nothing goes on after it. -/
theorem steps_from_capture (linked : plan.Linked resizers) (underway : cycle.Underway plan [])
    (rig : Rig State Store) :
    ∃ before last, before.Underway plan (List.replicate (plan.captureTick - 1) none) ∧
      (Cycle.step rig).run before = .ok false last ∧
      last.Over plan (List.replicate plan.captureTick none) ∧
      ∀ count, plan.captureTick ≤ count →
        steps rig cycle count = ⟨List.replicate plan.captureTick none, last, none⟩ := by
  have positive : 0 < plan.captureTick := underway.early
  obtain ⟨before, served, going⟩ :=
    steps_before_capture linked underway rig (Nat.sub_lt positive Nat.one_pos)
  rcases Cycle.step_of_linked linked going rig with ⟨early, -⟩ | ⟨complete, last, ran, settled⟩
  · omega
  · rw [complete] at settled
    refine ⟨before, last, going, ran, settled, fun count late => ?_⟩
    induction count, late using Nat.le_induction with
    | base =>
        rw [← complete, steps_succ, served, Served.obey_step going.waiting.phase_eq, ran,
          List.replicate_succ']
    | succ count _ inductionHypothesis =>
        rw [steps_succ, inductionHypothesis, Served.obey_step_idle (by simp [settled.phase_eq])]

namespace Plan.Linked

variable {answers : List (Option Error)} {pipeline : Pipeline Memory}

/-- A frame of the right size makes its call of either filter. -/
theorem exact_run (linked : plan.Linked resizers) (equipped : plan.Equips answers (some pipeline))
    {shown captured : Nat}
    (exact : pipeline.Exact resizers plan.width plan.height shown captured) {source : Frame}
    (width : source.width = plan.width) (height : source.height = plan.height) :
    (pipeline.capture.run source).1 = .ok () ∧
      Pipeline.Exact ⟨(pipeline.perFrame.run source).2, (pipeline.capture.run source).2⟩ resizers
        plan.width plan.height (shown + 1) (captured + 1) := by
  cases equipped with
  | staged present fits answered =>
      cases linked with
      | bare absent => cases absent.symm.trans present
      | linked same threefold twofold =>
          cases same.symm.trans present
          exact ⟨(fits.capture.run_linked twofold width height).1,
            exact.perFrame.run fits.perFrame threefold width height,
            exact.capture.run fits.capture twofold width height⟩

end Plan.Linked

namespace Cycle

/-- A cycle whose buffers fit the plan, after so many frames and captures. -/
structure Exact (cycle : Cycle State Store Memory) (plan : Plan Memory) (resizers : Resizers Memory)
    (shown captured : Nat) : Prop where
  frameWidth : cycle.frame.width = plan.width
  frameHeight : cycle.frame.height = plan.height
  equipped : cycle.pipeline.isSome = plan.upscalers.isSome
  staged : ∀ pipeline, cycle.pipeline = some pipeline →
    pipeline.Exact resizers plan.width plan.height shown captured

variable {before last : Cycle State Store Memory} {rig : Rig State Store} {count : Nat}

theorem isSome_pipeline {answers : List (Option Error)} {pipeline : Option (Pipeline Memory)}
    (equipped : plan.Equips answers pipeline) : pipeline.isSome = plan.upscalers.isSome := by
  cases equipped with
  | bare absent quiet => rw [absent]; rfl
  | staged present fits answered => rw [present]; rfl

theorem exact_of_underway (linked : plan.Linked resizers)
    (underway : cycle.Underway plan (List.replicate count none)) :
    cycle.Exact plan resizers count 0 := by
  obtain ⟨reached, waiting, -⟩ := underway
  refine ⟨reached.frameWidth, reached.frameHeight, isSome_pipeline reached.equipped, ?_⟩
  intro pipeline present
  have exact := linked.exact_of_spared reached.equipped waiting.spared present
  rwa [List.length_replicate] at exact

theorem exact_of_captures (linked : plan.Linked resizers)
    (underway : before.Underway plan (List.replicate count none))
    (captures : before.Captures rig plan last) : last.Exact plan resizers (count + 1) 1 := by
  have exact := exact_of_underway linked underway
  refine ⟨captures.frameWidth, captures.frameHeight, ?_, ?_⟩
  · rw [captures.pipeline_eq, Option.isSome_map, exact.equipped]
  · intro pipeline present
    rw [captures.pipeline_eq] at present
    obtain ⟨unspent, staged, rfl⟩ := Option.map_eq_some_iff.mp present
    have equipped := underway.reached.equipped
    rw [staged] at equipped
    exact (linked.exact_run equipped (exact.staged unspent staged) captures.frameWidth
      captures.frameHeight).2

/-- The capture of a cycle with linked filters lists no failures but those of the image store. -/
theorem reported_of_step (linked : plan.Linked resizers)
    (underway : before.Underway plan (List.replicate count none))
    (ran : (step rig).run before = .ok false last) :
    ∃ report, last.report = some report ∧
      report.exported.length + report.failures.length = (if plan.upscalers.isSome then 3 else 1) ∧
      ∀ error ∈ report.failures, ∃ store path frame,
        (rig.sink.write store path frame).1 = .error error := by
  have exact := exact_of_underway linked underway
  have captures := captures_of_step underway ran
  cases returned_of_step underway.waiting.phase_eq ran with
  | @captured exposed outcome shown ticked due shot =>
      have unfired : exposed.latch.fired = false := by
        rw [shown.latch_eq, underway.waiting.latch_eq, Latch.armed]
      have enlarges : ∀ upscaling ∈ exposed.pipeline,
          (upscaling.capture.run exposed.frame).1 = .ok () := by
        intro upscaling present
        rw [shown.pipeline_eq, Option.mem_map] at present
        obtain ⟨unspent, staged, rfl⟩ := present
        have equipped := underway.reached.equipped
        rw [Option.mem_def.mp staged] at equipped
        exact (linked.exact_run equipped (exact.staged unspent staged) captures.frameWidth
          captures.frameHeight).1
      have calm : ∀ upscaling ∈ exposed.pipeline, ∀ fault,
          (upscaling.capture.run exposed.frame).1 ≠ .error (.fault fault) := by
        intro upscaling present fault
        simp [enlarges upscaling present]
      have silent : exposed.pipeline.bind (Pipeline.captureError? · exposed.frame) = none := by
        apply Option.bind_eq_none_iff.mpr
        intro upscaling present
        simp [Pipeline.captureError?, enlarges upscaling present]
      obtain ⟨report, accounts⟩ :=
        Latch.accounts_capture unfired calm rig.sink exposed.bench
      have reported : (Cycle.shot rig.sink exposed).outcome = .ok (some report) := by
        rw [Cycle.shot, due]
        exact accounts.outcome_eq
      have staged : exposed.pipeline.isSome = plan.upscalers.isSome := by
        rw [shown.pipeline_eq, Option.isSome_map, exact.equipped]
      refine ⟨report, ?_, ?_, ?_⟩
      · rw [Except.ok.inj (shot.symm.trans reported), Option.some_or]
      · rw [accounts.exported_eq, accounts.failures_eq, length_taken_captureSteps, staged]
      · intro error member
        rw [accounts.failures_eq, silent] at member
        exact CaptureStep.answered_of_mem member

end Cycle

/-- A cycle that is run to its end ends where single steps end. -/
theorem eq_last_of_completed {rig : Rig State Store} {next last : Cycle State Store Memory}
    (linked : plan.Linked resizers) (underway : cycle.Underway plan [])
    (served : ∀ count, plan.captureTick ≤ count →
      steps rig cycle count = ⟨List.replicate plan.captureTick none, last, none⟩)
    (completed : (Cycle.runToCompletion rig).run cycle = .ok () next)
    (finished : next.phase = .terminating) : next = last := by
  -- whatever is ordered comes to a number of steps; before the capture they leave it running
  obtain ⟨count, same⟩ := serve_eq_steps rig cycle [.complete]
  have ordered : serve rig cycle [.complete] =
      ⟨[] ++ Order.complete.ends rig cycle, next, none⟩ := by
    simp only [serve, List.foldl_cons, List.foldl_nil, Served.obey, Order.work, completed]
  have cycles : next = (steps rig cycle count).cycle :=
    congrArg Served.cycle (ordered.symm.trans same)
  rcases Nat.lt_or_ge count plan.captureTick with early | late
  · obtain ⟨middle, stepped, onward⟩ := steps_before_capture linked underway rig early
    rw [stepped] at cycles
    subst cycles
    cases finished.symm.trans onward.waiting.phase_eq
  · rw [served count late] at cycles
    exact cycles

/-- A started run with linked filters completes with the step of its capture. -/
theorem run_of_linked {rig : Rig State Store} {config : Config}
    {upscalers : Option (Upscalers Memory)} {machine : State} {store : Store} {clock : Clock}
    (linked : (rig.plan config upscalers machine).Linked resizers)
    (started : Cycle.start rig config upscalers (.ready machine store clock) = .started cycle)
    (positive : 0 < config.captureTick) :
    ∃ before last,
      before.Underway (rig.plan config upscalers machine)
        (List.replicate (config.captureTick.toNat - 1) none) ∧
      (Cycle.step rig).run before = .ok false last ∧
      last.Over (rig.plan config upscalers machine)
        (List.replicate config.captureTick.toNat none) ∧
      (∀ count, config.captureTick.toNat ≤ count → steps rig cycle count =
        ⟨List.replicate config.captureTick.toNat none, last, none⟩) ∧
      run rig config upscalers (.ready machine store clock) =
        (.completed last.runReport, (last.finish rig).2.log .done) := by
  have underway := Cycle.underway_of_start started positive
  obtain ⟨before, last, going, ran, settled, served⟩ := steps_from_capture linked underway rig
  refine ⟨before, last, going, ran, settled, served, ?_⟩
  have finish := Cycle.finish_of_underway underway rig
  simp only [run, started]
  cases completed : (Cycle.runToCompletion rig).run cycle with
  | error stop next =>
      rw [completed] at finish
      cases finish with
      | erred early erring =>
          have passes := linked.passes erring.reached.equipped
          simp [List.replicate_succ'] at passes
      | faulted restless => exact absurd linked.calm restless
  | ok done next =>
      rw [completed] at finish
      cases finish with
      | settled finished =>
          rw [eq_last_of_completed linked underway served completed finished.phase_eq]
          rfl

end FrameCycle
