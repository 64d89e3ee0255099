import FrameCycle.Proofs.Completion
import FrameCycle.Proofs.FileNames

/-!
What the image store holds after a run all of whose images it took: each of them, unless the two
upscalers enlarge by one factor. Then two images have one path, and the second replaces the first.
-/
namespace FrameCycle

variable {State Store Memory : Type}

/-- A sink that keeps each image that it takes under its path; `image?` looks into its store. -/
structure Sink.Keeps (sink : Sink Store) (image? : Store → Path → Option Frame) : Prop where
  stored : ∀ store path frame, (sink.write store path frame).1 = .ok () →
    image? (sink.write store path frame).2 path = some frame
  others : ∀ store path frame other, (sink.write store path frame).1 = .ok () → other ≠ path →
    image? (sink.write store path frame).2 other = image? store other

namespace Bench

/-- Every image that was handed over has been taken. -/
def Lossless (bench : Bench State Store) : Prop :=
  ∀ write ∈ bench.writes, write.2.2 = true

/-- Images that were all taken, and each under a path of its own, are in the store. -/
def Holds (image? : Store → Path → Option Frame) (bench : Bench State Store) : Prop :=
  bench.Lossless → (bench.images.map Prod.fst).Nodup →
    ∀ image ∈ bench.images, image? bench.store image.1 = some image.2

variable {image? : Store → Path → Option Frame} {bench next : Bench State Store}

theorem Holds.congr (holds : bench.Holds image?) (writes : next.writes = bench.writes)
    (store : next.store = bench.store) : next.Holds image? := by
  simp only [Holds, Lossless, images_eq, writes, store]
  exact holds

/-- A call that hands over no image changes nothing. -/
theorem Holds.call {call : Call} (holds : bench.Holds image?) (silent : call.write? = none)
    (calls : next.calls = bench.calls ++ [call]) (store : next.store = bench.store) :
    next.Holds image? := by
  refine holds.congr ?_ store
  rw [writes_eq, calls, List.filterMap_append, List.filterMap_cons_none silent,
    List.filterMap_nil, List.append_nil, writes_eq]

theorem Holds.write {sink : Sink Store} (keeps : sink.Keeps image?) (holds : bench.Holds image?)
    (path : Path) (frame : Frame) : (bench.write sink path frame).2.Holds image? := by
  have writes := bench.writes_write sink path frame
  intro lossless nodup
  have taken : (sink.write bench.store path frame).1 = .ok () := by
    have last : (path, frame, (sink.write bench.store path frame).1.isOk) ∈
        (bench.write sink path frame).2.writes := by
      rw [writes]
      exact List.mem_append_right _ List.mem_cons_self
    have isOk := lossless _ last
    cases written : (sink.write bench.store path frame).1 with
    | ok done => rfl
    | error error => simp [written, Except.isOk, Except.toBool] at isOk
  have earlier : bench.Lossless := by
    intro earlier member
    apply lossless earlier
    rw [writes]
    exact List.mem_append_left _ member
  rw [images_write, List.map_append, List.map_singleton, List.nodup_append] at nodup
  obtain ⟨apart, -, fresh⟩ := nodup
  rw [images_write]
  rintro ⟨other, shown⟩ member
  rcases List.mem_append.mp member with before | last
  · have different : other ≠ path :=
      fresh other (List.mem_map_of_mem before) path List.mem_cons_self
    exact (keeps.others _ path frame other taken different).trans
      (holds earlier apart (other, shown) before)
  · cases List.mem_singleton.mp last
    exact keeps.stored bench.store path frame taken

/-- What holds on a bench holds on all that a cycle makes of it. -/
theorem Used.holds {rig : Rig State Store} (keeps : rig.sink.Keeps image?)
    (used : Used rig bench next) (holds : bench.Holds image?) : next.Holds image? := by
  induction used with
  | refl => exact holds
  | log message _ inductionHypothesis => exact inductionHypothesis.congr (writes_log _ _) rfl
  | measure _ inductionHypothesis => exact inductionHypothesis.congr rfl rfl
  | resolution _ inductionHypothesis => exact inductionHypothesis.congr rfl rfl
  | advance _ inductionHypothesis => exact inductionHypothesis.call rfl (calls_advance _ _) rfl
  | display frame _ inductionHypothesis =>
      exact inductionHypothesis.call rfl (calls_display _ _ _) rfl
  | audio channel buffer _ inductionHypothesis =>
      exact inductionHypothesis.call rfl (calls_audio _ _ _ _) rfl
  | key name pressed _ inductionHypothesis =>
      exact inductionHypothesis.call rfl (calls_key _ _ _ _) rfl
  | snapshot path _ inductionHypothesis =>
      exact inductionHypothesis.call rfl (calls_snapshot _ _ _) rfl
  | upscale name factor _ inductionHypothesis =>
      exact inductionHypothesis.call rfl (calls_call _ _) rfl
  | write path frame _ inductionHypothesis => exact inductionHypothesis.write keeps path frame

theorem Lossless.of_used {rig : Rig State Store} (lossless : next.Lossless)
    (used : Used rig bench next) : bench.Lossless := by
  obtain ⟨uses, calls, -⟩ := used.calls
  intro earlier member
  apply lossless earlier
  rw [writes_eq, calls, List.filterMap_append]
  exact List.mem_append_left _ member

theorem exports_of_lossless (lossless : bench.Lossless) :
    bench.exports = bench.images.map Prod.fst := by
  rw [exports_eq, images_eq, List.map_map, ← List.filterMap_eq_map]
  apply List.filterMap_congr
  rintro ⟨path, frame, stored⟩ member
  have taken : stored = true := lossless _ member
  rw [taken]
  rfl

end Bench

theorem Cycle.holds_of_start {rig : Rig State Store} {config : Config}
    {upscalers : Option (Upscalers Memory)} {machine : State} {store : Store} {clock : Clock}
    {cycle : Cycle State Store Memory} {image? : Store → Path → Option Frame}
    (started : start rig config upscalers (.ready machine store clock) = .started cycle)
    (keeps : rig.sink.Keeps image?) : cycle.bench.Holds image? := by
  have begun := begun_start rig config upscalers (.ready machine store clock)
  rw [started] at begun
  cases begun with
  | @started fresh cycle made asked used =>
      refine used.holds keeps ?_
      have silent : fresh.images = [] := by
        rw [Bench.images_eq, Bench.writes_eq, asked.calls_eq]
        rfl
      intro lossless nodup
      simp [silent]

/-- The files of a capture, in order. -/
def captureFiles (enlarged : Bool) (pipeline : Option (Pipeline Memory)) : List ImageFile :=
  .original :: pipeline.toList.flatMap fun pipeline =>
    .resized pipeline.perFrame.factor ::
      if enlarged then [.resized pipeline.capture.factor] else []

theorem map_fst_exposures (directory : Path) (shown : Frame) (enlarged : Bool)
    (pipeline : Option (Pipeline Memory)) :
    (exposures directory shown enlarged pipeline).map Prod.fst =
      (captureFiles enlarged pipeline).map (ImageFile.path directory) := by
  cases pipeline with
  | none => simp [exposures, captureFiles, ImageFile.path, ImageFile.name]
  | some pipeline =>
      cases enlarged <;>
        simp [exposures, Pipeline.exposures, captureFiles, ImageFile.path, ImageFile.name,
          Stage.factor]

theorem nodup_images_iff {plan : Plan Memory}
    (gridPaths : plan.gridImages.map Prod.fst =
      if plan.config.grid then [plan.image gridFile] else [])
    {pipeline : Option (Pipeline Memory)}
    (fits : Option.Rel (fun upscalers pipeline => pipeline.Fits upscalers plan.width plan.height)
      plan.upscalers pipeline)
    (shown : Frame) (enlarged : Bool) :
    ((plan.gridImages ++
        exposures plan.config.outputDir shown enlarged pipeline).map Prod.fst).Nodup ↔
      ∀ upscalers, plan.upscalers = some upscalers → enlarged = true →
        upscalers.perFrame.factor ≠ upscalers.capture.factor := by
  have files : (plan.gridImages ++
      exposures plan.config.outputDir shown enlarged pipeline).map Prod.fst =
      ((if plan.config.grid then [ImageFile.grid] else []) ++ captureFiles enlarged pipeline).map
        (ImageFile.path plan.config.outputDir) := by
    rw [List.map_append, gridPaths, map_fst_exposures, List.map_append]
    split <;> rfl
  rw [files, List.nodup_map_iff (ImageFile.path_injective _)]
  generalize plan.upscalers = present at fits
  cases fits with
  | none => split <;> simp [captureFiles]
  | some fits =>
      cases enlarged <;> split <;>
        simp [captureFiles, Stage.factor, fits.perFrame.upscaler_eq, fits.capture.upscaler_eq]

/-- A completed run hands over the grid, if there is one, and the images of its capture. Where the
store took them all, no two have one path, unless both upscalers enlarge by one factor; and then it
holds each of them. -/
theorem run_images_apart {rig : Rig State Store} {config : Config}
    {upscalers : Option (Upscalers Memory)} {machine : State} {store : Store} {clock : Clock}
    {report : RunReport} {bench : Bench State Store} {image? : Store → Path → Option Frame}
    (keeps : rig.sink.Keeps image?)
    (completed :
      run rig config upscalers (.ready machine store clock) = (.completed report, bench))
    (lossless : bench.Lossless) :
    let plan := rig.plan config upscalers machine
    ∃ cycle ended captured,
      Cycle.start rig config upscalers (.ready machine store clock) = .started cycle ∧
      (Cycle.runToCompletion rig).run cycle = .ok () ended ∧
      report.capture = some captured ∧
      bench.images = plan.gridImages ++
        exposures config.outputDir ended.frame (plan.enlarges ended.frame) ended.pipeline ∧
      bench.images.map Prod.fst =
        (if config.grid then [plan.image gridFile] else []) ++ captured.exported ∧
      ((bench.images.map Prod.fst).Nodup ↔
        ∀ present, upscalers = some present → plan.enlarges ended.frame = true →
          present.perFrame.factor ≠ present.capture.factor) ∧
      ((bench.images.map Prod.fst).Nodup →
        ∀ image ∈ bench.images, image? bench.store image.1 = some image.2) := by
  intro plan
  obtain ⟨cycle, before, ended, ⟨started, ran, rfl, writes, stored⟩, fresh, same, captures⟩ :=
    captures_of_completed completed
  obtain ⟨captured, reported, exported⟩ := captures.reported
  have images : bench.images = plan.gridImages ++
      exposures config.outputDir ended.frame (plan.enlarges ended.frame) ended.pipeline := by
    rw [Bench.images_eq, writes, ← Bench.images_eq, captures.images_eq, same, fresh.images_eq]
    rfl
  have endedLossless : ended.bench.Lossless := by
    unfold Bench.Lossless
    rw [← writes]
    exact lossless
  refine ⟨cycle, ended, captured, started, ran, reported, images, ?_, ?_, ?_⟩
  · have used := Cycle.uses_step.used_of_run captures.ran
    rw [Bench.exports_of_lossless endedLossless,
      Bench.exports_of_lossless (endedLossless.of_used used), same, fresh.images_eq,
      fresh.gridPaths] at exported
    rw [Bench.images_eq, writes, ← Bench.images_eq]
    exact exported
  · rw [images]
    exact nodup_images_iff fresh.gridPaths captures.fits ended.frame _
  · have holds : ended.bench.Holds image? :=
      (Cycle.uses_runToCompletion.used_of_run ran).holds keeps (Cycle.holds_of_start started keeps)
    exact holds.congr writes stored lossless

/-- Takes every image, and keeps the last one first. -/
def Sink.album : Sink (List (Path × Frame)) where
  write store path frame := (.ok (), (path, frame) :: store)

theorem Sink.album_keeps : Sink.album.Keeps fun store path => store.lookup path where
  stored store path frame _ := by simp [album]
  others store path frame other _ different := by
    have unequal : (other == path) = false := beq_eq_false_iff_ne.mpr different
    simp [album, List.lookup_cons, unequal]

def Rig.album : Rig (Machine.Instance Machine.TestCard) (List (Path × Frame)) where
  core := Machine.TestCard.library.core
  sink := .album

def Bench.album : Bench (Machine.Instance Machine.TestCard) (List (Path × Frame)) :=
  .ready (.unbound .standard) [] (.ofReadings fun _ => 0)

def RunOutcome.report? : RunOutcome → Option RunReport
  | completed report => some report
  | _ => none

theorem RunOutcome.eq_completed {outcome : RunOutcome} {report : RunReport}
    (reported : outcome.report? = some report) : outcome = .completed report := by
  cases outcome <;> simp [report?] at reported
  rw [reported]

theorem run_images_apart_album :
    ∃ report bench, run .album .short (some (.erringAt ∅)) .album = (.completed report, bench) ∧
      bench.Lossless ∧ (bench.images.map Prod.fst).Nodup ∧
      ∀ image ∈ bench.images, bench.store.lookup image.1 = some image.2 := by
  have completes : (run .album .short (some (.erringAt ∅)) .album).1.report?.isSome = true := by
    decide +kernel
  have lossless : (run .album .short (some (.erringAt ∅)) .album).2.Lossless := by
    unfold Bench.Lossless
    decide +kernel
  rcases ended : run .album .short (some (.erringAt ∅)) .album with ⟨outcome, bench⟩
  rw [ended] at completes lossless
  obtain ⟨report, reported⟩ := Option.isSome_iff_exists.mp completes
  cases RunOutcome.eq_completed reported
  obtain ⟨cycle, last, captured, -, -, -, -, -, apart, held⟩ :=
    run_images_apart Sink.album_keeps ended lossless
  have nodup : (bench.images.map Prod.fst).Nodup := by
    apply apart.mpr
    rintro present ⟨⟩ -
    decide
  exact ⟨report, bench, rfl, lossless, nodup, held nodup⟩

/-- Paints every pixel alike. -/
def Upscaler.painting (name : String) (factor pixel : UInt32) : Upscaler Unit where
  name
  factor
  filter _ _ target := ⟨.ok (), target.tabulate fun _ => pixel, ()⟩

def Upscalers.alike : Upscalers Unit where
  perFrame := .painting "black" 2 Frame.gridLine
  perFrameMemory := ()
  capture := .painting "clear" 2 Frame.gridEmpty
  captureMemory := ()

/-- Both upscalers enlarge twofold, and the second image of that size replaces the first. -/
theorem run_alike_overwrites :
    ∃ report captured bench, run .album .short (some .alike) .album = (.completed report, bench) ∧
      bench.Lossless ∧ report.capture = some captured ∧ ¬ captured.exported.Nodup ∧
      ∃ image ∈ bench.images, bench.store.lookup image.1 ≠ some image.2 := by
  have lossless : (run .album .short (some .alike) .album).2.Lossless := by
    unfold Bench.Lossless
    decide +kernel
  have repeats : ((run .album .short (some .alike) .album).1.report?.bind RunReport.capture).any
      (fun captured => ¬ captured.exported.Nodup) = true := by
    decide +kernel
  have lost : ∃ image ∈ (run .album .short (some .alike) .album).2.images,
      ((run .album .short (some .alike) .album).2.store.lookup image.1).map
        (fun frame => frame.pixels[0]?) ≠ some image.2.pixels[0]? := by
    decide +kernel
  rcases ended : run .album .short (some .alike) .album with ⟨outcome, bench⟩
  rw [ended] at lossless repeats lost
  obtain ⟨captured, found, repeated⟩ := (Option.any_eq_true _ _).mp repeats
  obtain ⟨report, reported, capture⟩ := Option.bind_eq_some_iff.mp found
  cases RunOutcome.eq_completed reported
  refine ⟨report, captured, bench, rfl, lossless, capture, of_decide_eq_true repeated, ?_⟩
  obtain ⟨image, member, differs⟩ := lost
  refine ⟨image, member, fun held => differs ?_⟩
  rw [held, Option.map_some]

end FrameCycle
