import FrameCycle.Proofs.Cycle.Single
import FrameCycle.Proofs.Lifetime

/-!
What a capture shows: the frame read in the step that took it, and of that same frame both
enlargements. No step before hands over an image.
-/
namespace FrameCycle

variable {State Store Memory : Type}

theorem Plan.Spares.enlarges {plan : Plan Memory} {pipeline : Option (Pipeline Memory)}
    (spared : plan.Spares pipeline) (shown : Frame) :
    (pipeline.any fun pipeline => (pipeline.capture.run shown).1.isOk) = plan.enlarges shown := by
  unfold Spares at spared
  cases present : plan.upscalers with
  | none =>
      rw [present, Option.map_none, Option.map_eq_none_iff] at spared
      simp [spared, Plan.enlarges, present]
  | some upscalers =>
      rw [present, Option.map_some, Option.map_eq_some_iff] at spared
      obtain ⟨pipeline, rfl, unused⟩ := spared
      simp [unused, Plan.enlarges, present]

/-- The pipeline is there if upscalers are, and its outputs have their sizes. -/
theorem Plan.Equips.rel {plan : Plan Memory} {answers : List (Option Error)}
    {pipeline : Option (Pipeline Memory)} (equipped : plan.Equips answers pipeline) :
    Option.Rel (fun upscalers pipeline => pipeline.Fits upscalers plan.width plan.height)
      plan.upscalers pipeline := by
  cases equipped with
  | bare absent quiet => exact absent ▸ .none
  | staged present fits answered => exact present ▸ .some fits

namespace Cycle

/-- The step that takes the capture of a plan. -/
structure Captures (rig : Rig State Store) (plan : Plan Memory)
    (before last : Cycle State Store Memory) : Prop where
  ran : (step rig).run before = .ok false last
  /-- The frame has been read in this step, after the machine has run. -/
  frame_eq : last.frame = before.nextFrame rig.core
  /-- The upscaler for every frame has enlarged it without an error. -/
  enlarged : ∀ pipeline, before.pipeline = some pipeline →
    (pipeline.perFrame.run last.frame).1 = .ok ()
  /-- The upscaler for the capture has not been called in an earlier step. -/
  spared : plan.Spares before.pipeline
  /-- Both have been called once, with that frame. -/
  pipeline_eq : last.pipeline = before.pipeline.map fun pipeline =>
    ⟨(pipeline.perFrame.run last.frame).2, (pipeline.capture.run last.frame).2⟩
  images_eq : last.bench.images = before.bench.images ++
    exposures plan.config.outputDir last.frame (plan.enlarges last.frame) last.pipeline
  demands_eq : last.bench.demands = before.bench.demands ++
    (plan.tick plan.captureTick ++ plan.shots (plan.enlarges last.frame))
  reported : ∃ report, last.report = some report ∧
    last.bench.exports = before.bench.exports ++ report.exported
  frameWidth : last.frame.width = plan.width
  frameHeight : last.frame.height = plan.height
  fits : Option.Rel (fun upscalers pipeline => pipeline.Fits upscalers plan.width plan.height)
    plan.upscalers last.pipeline

variable {plan : Plan Memory} {answers : List (Option Error)}
  {before last : Cycle State Store Memory}

theorem Exposed.images_eq {core : Core State} (exposed : Exposed core before last) :
    last.bench.images = before.bench.images := by
  rw [Bench.images_eq, exposed.writes_eq, ← Bench.images_eq]

theorem Exposed.exports_eq {core : Core State} (exposed : Exposed core before last) :
    last.bench.exports = before.bench.exports := by
  rw [Bench.exports_eq, exposed.writes_eq, ← Bench.exports_eq]

/-- What has been read and enlarged in a step is what its capture shows. -/
theorem Exposed.exposes {core : Core State} {sink : Sink Store} {outcome : Option CaptureReport}
    (exposed : Exposed core before last) (underway : before.Underway plan answers)
    (due : last.tick = last.latch.tick) (shot : (last.shot sink).outcome = .ok outcome) :
    ∃ report, outcome = some report ∧ (last.shot sink).Exposes plan.config.outputDir last.frame
      last.pipeline last.bench report := by
  have armed := exposed.latch_eq.trans underway.waiting.latch_eq
  have unspent : ¬ (last.latch.fired = true ∨ last.tick ≠ last.latch.tick) := by
    simp [armed, Latch.armed, due]
  rcases Latch.exposes_capture unspent sink last.frame last.pipeline last.bench with
    ⟨fault, failed⟩ | ⟨report, exposes⟩
  · cases shot.symm.trans failed
  · have reported := shot.symm.trans exposes.outcome_eq
    simp only [Except.ok.injEq] at reported
    have outputDir : last.latch.outputDir = plan.config.outputDir := by
      rw [armed, Latch.armed]
    exact ⟨report, reported, outputDir ▸ exposes⟩

theorem captures_of_step {rig : Rig State Store} (underway : before.Underway plan answers)
    (ran : (step rig).run before = .ok false last) : before.Captures rig plan last := by
  have stepped := stepped_of_underway underway rig
  rw [ran] at stepped
  cases stepped with
  | captured settled =>
      cases returned_of_step underway.waiting.phase_eq ran with
      | @captured exposed outcome shown ticked due shot =>
          obtain ⟨report, reported, exposes⟩ := shown.exposes underway due shot
          have unused : plan.Spares exposed.pipeline := by
            rw [shown.pipeline_eq, Plan.Spares, Option.map_map]
            exact underway.waiting.spared
          refine ⟨ran, shown.frame_eq, ?_, underway.waiting.spared, ?_, ?_, ?_,
            ⟨report, ?_, ?_⟩, settled.reached.frameWidth, settled.reached.frameHeight,
            settled.reached.equipped.rel⟩
          · rw [shown.frame_eq]
            exact shown.enlarged
          · refine exposes.pipeline_eq.trans ?_
            rw [shown.pipeline_eq, Option.map_map, shown.frame_eq]
            rfl
          · have images := exposes.images_eq
            rw [shown.images_eq, unused.enlarges] at images
            exact images
          · rw [settled.reached.demands_eq, underway.reached.demands_eq, Plan.walk_concat_none]
            have complete : passed answers + 1 = plan.captureTick := by
              simpa using settled.complete
            simp only [complete, List.append_assoc]
          · rw [reported, Option.some_or]
          · have exports := exposes.exports_eq
            rw [shown.exports_eq] at exports
            exact exports

theorem Underway.length_images (underway : last.Underway plan answers) :
    last.bench.images.length = if plan.config.grid then 1 else 0 := by
  have unshot := underway.reached
  rw [← List.append_nil (plan.walk 0 answers)] at unshot
  rw [Bench.length_images, unshot.writes, List.countP_nil, Nat.add_zero]

/-- Until the capture no image is handed over but the grid. -/
theorem Underway.images_eq {rig : Rig State Store} {earlier : List (Option Error)}
    (first : before.Underway plan earlier) (underway : last.Underway plan answers)
    (used : Bench.Used rig before.bench last.bench) : last.bench.images = before.bench.images := by
  obtain ⟨uses, calls, -⟩ := used.calls
  have grown : before.bench.images <+: last.bench.images := by
    rw [Bench.images_eq, Bench.images_eq, Bench.writes_eq, Bench.writes_eq, calls,
      List.filterMap_append, List.map_append]
    exact List.prefix_append _ _
  have lengths : before.bench.images.length = last.bench.images.length := by
    rw [first.length_images, underway.length_images]
  exact (grown.eq_of_length lengths).symm

end Cycle

/-- A cycle that no fault has stopped, and that is over, has taken its capture. -/
theorem captures_of_serve {plan : Plan Memory} {cycle : Cycle State Store Memory}
    (underway : cycle.Underway plan []) {rig : Rig State Store} {orders : List Order}
    (whole : (serve rig cycle orders).fault = none)
    (terminating : (serve rig cycle orders).cycle.phase = .terminating) :
    ∃ count, (steps rig cycle count).cycle.bench.images = cycle.bench.images ∧
      (steps rig cycle count).cycle.Captures rig plan (serve rig cycle orders).cycle := by
  obtain ⟨made, same⟩ := serve_eq_steps rig cycle orders
  rw [same] at whole terminating ⊢
  rcases underway_or_ended underway whole with ⟨ends, going⟩ | ⟨count, ends, before, ran⟩
  · cases going.waiting.phase_eq.symm.trans terminating
  · exact ⟨count, underway.images_eq before (used_serve rig cycle _),
      Cycle.captures_of_step before ran⟩

/-- Whatever a caller has ordered when a capture has been taken, and however many frames have erred
before: the images show the frame that the machine showed last, and what the upscalers made of that
frame in the step of the capture. -/
theorem serve_captures {rig : Rig State Store} {config : Config}
    {upscalers : Option (Upscalers Memory)} {machine : State} {store : Store} {clock : Clock}
    {cycle : Cycle State Store Memory}
    (started : Cycle.start rig config upscalers (.ready machine store clock) = .started cycle)
    (positive : 0 < config.captureTick) (calm : (rig.plan config upscalers machine).Calm)
    {orders : List Order} (terminating : (serve rig cycle orders).cycle.phase = .terminating) :
    ∃ count, (steps rig cycle count).cycle.bench.images = cycle.bench.images ∧
      (steps rig cycle count).cycle.Captures rig (rig.plan config upscalers machine)
        (serve rig cycle orders).cycle := by
  have underway := Cycle.underway_of_start started positive
  obtain ⟨made, same⟩ := serve_eq_steps rig cycle orders
  have whole : (serve rig cycle orders).fault = none := by
    rw [same] at terminating ⊢
    exact (paced_steps calm underway rig made).whole_of_terminating terminating
  exact captures_of_serve underway whole terminating

/-- The second frame of three errs, and the capture shows the fourth. -/
theorem serve_captures_testCard :
    ∃ cycle, Cycle.start .testCard .short (some (.erringAt {1})) .testCard = .started cycle ∧
      let last := (serve .testCard cycle (List.replicate 4 .step)).cycle
      last.phase = .terminating ∧
        ∃ count, (steps .testCard cycle count).cycle.bench.images = cycle.bench.images ∧
          (steps .testCard cycle count).cycle.Captures .testCard
            (Rig.testCard.plan .short (some (.erringAt {1})) (.unbound .standard)) last := by
  obtain ⟨cycle, started⟩ : ∃ cycle,
      Cycle.start .testCard .short (some (.erringAt {1})) .testCard = .started cycle := ⟨_, rfl⟩
  have calm : (Rig.testCard.plan .short (some (.erringAt {1})) (.unbound .standard)).Calm :=
    Plan.calm_of_erringAt rfl
  have seldom : (Rig.testCard.plan .short (some (.erringAt {1})) (.unbound .standard)).ErrsOnlyAt
      {1} := Plan.errsOnlyAt_of_erringAt rfl
  have underway := Cycle.underway_of_start started (by decide)
  have terminating : (steps .testCard cycle 4).cycle.phase = .terminating :=
    terminating_of_paced seldom (paced_steps calm underway .testCard _) (by decide)
  exact ⟨cycle, started, terminating, serve_captures started (by decide) calm terminating⟩

end FrameCycle
