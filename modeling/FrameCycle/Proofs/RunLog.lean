import FrameCycle.Log.Filter
import FrameCycle.Proofs.Accounting
import FrameCycle.Proofs.Completion
import FrameCycle.Proofs.Cycle.Loop
import FrameCycle.Proofs.Cycle.Told
import FrameCycle.Proofs.Latch
import FrameCycle.Proofs.Lines
import FrameCycle.Proofs.Schedule

/-!
The log of a completed run: an opening, the ticks one after the other, the capture in the last of
them, and the averages. With measured times masked every message of it is settled by the plan and by
the outcomes of the calls, and so are its lines, level and text; its errors are those that the
capture reports.
-/
namespace FrameCycle

variable {State Store Memory : Type}

namespace Log

/-- The error that a message of a capture tells of. -/
def Message.failure? : Message → Option Error
  | .captureFailed error => some error
  | .upscaleFailed _ error => some error
  | _ => none

@[simp]
theorem Message.failure?_masked (message : Message) :
    message.masked.failure? = message.failure? := by
  cases message <;> rfl

theorem Message.text_of_failure? {message : Message} {error : Error}
    (failed : message.failure? = some error) :
    message.level = .error ∧
      (message.text = "Capture failed: " ++ error.message ∨
        ∃ name, message.text = name ++ " upscale failed: " ++ error.message) := by
  cases message with
  | captureFailed told =>
      cases failed
      exact ⟨rfl, .inl rfl⟩
  | upscaleFailed name told =>
      cases failed
      exact ⟨rfl, .inr ⟨name, rfl⟩⟩
  | _ => cases failed

/-- The filter that shows everything up to the level of traces. -/
def Filter.detailed : Filter :=
  ⟨[⟨none, some .trace⟩], none⟩

theorem Filter.admits_detailed (message : Message) : detailed.admits message = true := by
  cases message <;> rfl

theorem Filter.filter_detailed (messages : List Message) :
    messages.filter detailed.admits = messages :=
  List.filter_eq_self.mpr fun message _ => admits_detailed message

example : Filter.parse "trace".toList = (.detailed, []) := rfl

end Log

/-- A tick with the calls that were made in it. -/
abbrev CalledTick := Nat × List Call

namespace Plan

/-- The step that hands over the grid, if the configuration asks for one. -/
def gridSteps (plan : Plan Memory) : List CaptureStep :=
  plan.gridImages.map fun image => .write image.1 image.2

/-- The grid as it was handed to the store, with the error if that failed. -/
def given (plan : Plan Memory) (sink : Sink Store) (store : Store) : List CaptureStep.Taken :=
  CaptureStep.taken sink none store plan.gridSteps

/-- The steps of a capture behind the grid, with their errors. -/
def exported (plan : Plan Memory) (sink : Sink Store) (store : Store) (shown : Frame)
    (pipeline : Option (Pipeline Memory)) : List CaptureStep.Taken :=
  CaptureStep.taken sink (pipeline.bind (Pipeline.captureError? · shown))
    (plan.gridSteps.foldl (CaptureStep.left sink) store)
    (captureSteps plan.config.outputDir shown pipeline)

/-- The averages of a completed run, their times left out. -/
def summary (plan : Plan Memory) : List Log.Message :=
  .average displayStatName plan.config.captureTick.toUInt64 0 ::
    plan.upscalers.toList.flatMap fun _ =>
      [.average upscaleStatName plan.config.captureTick.toUInt64 0, .combined 0]

/-- The log of a run through these ticks that captures `shown` with `pipeline`. -/
def log (plan : Plan Memory) (rig : Rig State Store) (store : Store) (ticks : List CalledTick)
    (shown : Frame) (pipeline : Option (Pipeline Memory)) : List Log.Message :=
  (rig.core.opening plan.config.createParams).map Log.Message.masked ++
    [.resolution plan.width plan.height] ++
    ((plan.given rig.sink store).filterMap Prod.snd).map .gridFailed ++
    ticks.flatMap (fun entry => plan.tickSaid entry.1 entry.2) ++
    (plan.exported rig.sink store shown pipeline).flatMap CaptureStep.Taken.said ++
    rig.core.closing.map Log.Message.masked ++
    plan.summary ++
    [.done]

/-- The lines of the averages. -/
def summaryLines (plan : Plan Memory) : List Log.Line :=
  .measured .info ("display-read: " ++ toString plan.captureTick ++ "x - avg. ") ::
    plan.upscalers.toList.flatMap fun _ =>
      [.measured .info ("upscale: " ++ toString plan.captureTick ++ "x - avg. "),
        .measured .info "=> Upscaled frame: avg. "]

/-- The log in lines. A core may have lines of its own at the start and at the end. -/
def lines (plan : Plan Memory) (rig : Rig State Store) (store : Store) (ticks : List CalledTick)
    (shown : Frame) (pipeline : Option (Pipeline Memory)) : List Log.Line :=
  (rig.core.opening plan.config.createParams).map Log.Message.line ++
    [.settled .info
      ("Resolution " ++ toString plan.width.toNat ++ "x" ++ toString plan.height.toNat)] ++
    (((plan.given rig.sink store).filterMap Prod.snd).map fun error =>
      .settled .warn ("Reference grid not written: " ++ error.message)) ++
    ticks.flatMap (fun entry => plan.tickLines entry.1 entry.2) ++
    (plan.exported rig.sink store shown pipeline).flatMap CaptureStep.Taken.lines ++
    rig.core.closing.map Log.Message.line ++
    plan.summaryLines ++
    [.settled .info "Done."]

theorem line_summary (plan : Plan Memory) :
    plan.summary.map Log.Message.line = plan.summaryLines := by
  have count : plan.config.captureTick.toUInt64.toNat = plan.captureTick :=
    UInt32.toNat_toUInt64 _
  have display : displayStatName ++ ": " = "display-read: " := by decide
  have upscale : upscaleStatName ++ ": " = "upscale: " := by decide
  have line : ∀ name, (Log.Message.average name plan.config.captureTick.toUInt64 0).line =
      .measured .info (name ++ ": " ++ toString plan.captureTick ++ "x - avg. ") := by
    intro name
    change Log.Line.measured .info
      (name ++ ": " ++ toString plan.config.captureTick.toUInt64.toNat ++ "x - avg. ") = _
    rw [count]
  unfold summary summaryLines
  rw [List.map_cons, line, display, List.map_flatMap]
  simp only [List.map_cons, List.map_nil, line, upscale]
  rfl

theorem line_log (plan : Plan Memory) (rig : Rig State Store) (store : Store)
    {ticks : List CalledTick} (fit : ∀ entry ∈ ticks, entry.1 < UInt32.size) (shown : Frame)
    (pipeline : Option (Pipeline Memory)) :
    (plan.log rig store ticks shown pipeline).map Log.Message.line =
      plan.lines rig store ticks shown pipeline := by
  have spoken : (ticks.flatMap fun entry => plan.tickSaid entry.1 entry.2).map Log.Message.line =
      ticks.flatMap fun entry => plan.tickLines entry.1 entry.2 := by
    rw [List.map_flatMap]
    exact List.flatMap_congr fun entry member => plan.line_tickSaid (fit entry member) entry.2
  have taken : ((plan.exported rig.sink store shown pipeline).flatMap
      CaptureStep.Taken.said).map Log.Message.line =
        (plan.exported rig.sink store shown pipeline).flatMap CaptureStep.Taken.lines := by
    rw [List.map_flatMap]
    exact List.flatMap_congr fun step _ => CaptureStep.Taken.line_said step
  have own : ∀ messages : List Log.Message,
      (messages.map Log.Message.masked).map Log.Message.line = messages.map Log.Message.line :=
    fun messages => by simp [Function.comp_def]
  simp only [log, lines, List.map_append, own, spoken, taken, line_summary, List.map_map,
    Function.comp_def, List.map_cons, List.map_nil]
  rfl

/-- Messages that are the log but for measured times have its lines. -/
theorem reads_of_masked (plan : Plan Memory) (rig : Rig State Store) (store : Store)
    {ticks : List CalledTick} (fit : ∀ entry ∈ ticks, entry.1 < UInt32.size) {shown : Frame}
    {pipeline : Option (Pipeline Memory)} {messages : List Log.Message}
    (logged : messages.map Log.Message.masked = plan.log rig store ticks shown pipeline) :
    List.Forall₂ Log.Line.Reads (plan.lines rig store ticks shown pipeline)
      (messages.map fun message => (message.level, message.text)) := by
  have lined : messages.map Log.Message.line = plan.lines rig store ticks shown pipeline := by
    rw [← plan.line_log rig store fit, ← logged, List.map_map]
    simp [Function.comp_def]
  rw [← lined, List.forall₂_map_left_iff, List.forall₂_map_right_iff]
  exact List.forall₂_same.mpr fun message _ => message.reads_line

end Plan

/-- A capture that has ended without a fault has a report, which records its steps. -/
theorem Latch.records_of_outcome {latch : Latch} (unfired : latch.fired = false) {frame : Frame}
    {pipeline : Option (Pipeline Memory)} {sink : Sink Store} {bench : Bench State Store}
    {outcome : Option CaptureReport}
    (shot : (latch.capture sink latch.tick frame pipeline bench).outcome = .ok outcome) :
    ∃ report, outcome = some report ∧
      Bench.Records sink (pipeline.bind (Pipeline.captureError? · frame))
        (captureSteps latch.outputDir frame pipeline) (.empty, bench)
        (report, (latch.capture sink latch.tick frame pipeline bench).bench) := by
  have calm : ∀ upscaling ∈ pipeline, ∀ fault,
      (upscaling.capture.run frame).1 ≠ .error (.fault fault) := by
    rintro upscaling ⟨⟩ fault failed
    have fires := @CaptureDesk.fires_shoot _ _ _ ⟨latch, upscaling, bench⟩ unfired sink frame true
    cases shot.symm.trans ((fires.faults fault).mpr ⟨rfl, failed⟩)
  obtain ⟨report, reported, -, -, records⟩ := records_capture unfired calm sink bench
  exact ⟨report, Except.ok.inj (shot.symm.trans reported), records⟩

/-- A grid that is not stored is warned of, and nothing else comes of that. -/
theorem Bench.records_writeGrid (sink : Sink Store) (directory : Path) (grid : Frame)
    (bench : Bench State Store) :
    let step : CaptureStep := .write (directory.join (.ofString gridFile)) grid
    let given := CaptureStep.taken sink none bench.store [step]
    (bench.writeGrid sink directory grid).calls =
        bench.calls ++ given.map CaptureStep.Taken.call ∧
      (bench.writeGrid sink directory grid).said =
        bench.said ++ (given.filterMap Prod.snd).map .gridFailed ∧
      (bench.writeGrid sink directory grid).store = step.left sink bench.store := by
  simp only [writeGrid]
  generalize directory.join (.ofString gridFile) = path
  rcases done : bench.write sink path grid with ⟨answer, after⟩
  obtain ⟨written, calls, said⟩ := write_eq done
  have store : after.store = CaptureStep.left sink bench.store (.write path grid) :=
    congrArg Prod.snd written.symm
  cases answer with
  | ok done =>
      have passed : (CaptureStep.write path grid).error? sink none bench.store = none := by
        simp [CaptureStep.error?, written]
      simp only [CaptureStep.taken, passed]
      exact ⟨calls, said.trans (List.append_nil _).symm, store⟩
  | error error =>
      have failed : (CaptureStep.write path grid).error? sink none bench.store = some error := by
        simp [CaptureStep.error?, written]
      have told := adds_log (.gridFailed error) after
      rw [Adds.said_eq told, said]
      simp only [CaptureStep.taken, failed]
      exact ⟨(calls_log _ after).trans calls, rfl, store⟩

namespace Cycle

variable {plan : Plan Memory} {answers : List (Option Error)} {rig : Rig State Store}
  {cycle next exposed ended : Cycle State Store Memory} {ticks : List CalledTick}
  {captured : CaptureReport}

/-- From a cycle to its end: through these ticks, of the last of which `exposed` is left, and then
by the steps of its capture. -/
structure Recounts (rig : Rig State Store) (plan : Plan Memory) (ticks : List CalledTick)
    (captured : CaptureReport) (cycle exposed ended : Cycle State Store Memory) : Prop where
  demanded : ∀ entry ∈ ticks, entry.2.map Call.demand = plan.tick entry.1
  adds : Bench.Adds (ticks.flatMap Prod.snd)
    (ticks.flatMap fun entry => plan.tickSaid entry.1 entry.2) cycle.bench exposed.bench
  spared : plan.Spares exposed.pipeline
  fits : Option.Rel (fun upscalers pipeline => pipeline.Fits upscalers plan.width plan.height)
    plan.upscalers exposed.pipeline
  records : Bench.Records rig.sink
    (exposed.pipeline.bind (Pipeline.captureError? · exposed.frame))
    (captureSteps plan.config.outputDir exposed.frame exposed.pipeline)
    (.empty, exposed.bench) (captured, ended.bench)
  reported : ended.report = some captured
  named : ended.Named

theorem Recounts.cons {tick : Nat} {calls : List Call} (told : Told plan tick calls cycle next)
    (recounts : Recounts rig plan ticks captured next exposed ended) :
    Recounts rig plan ((tick, calls) :: ticks) captured cycle exposed ended where
  demanded := List.forall_mem_cons.mpr ⟨told.demanded, recounts.demanded⟩
  adds := told.adds.trans recounts.adds
  spared := recounts.spared
  fits := recounts.fits
  records := recounts.records
  reported := recounts.reported
  named := recounts.named

theorem recounts_of_captured (underway : cycle.Underway plan answers) (named : cycle.Named)
    (ran : (step rig).run cycle = .ok false ended) :
    ∃ exposed calls captured,
      Recounts rig plan [(passed answers + 1, calls)] captured cycle exposed ended := by
  obtain ⟨exposed, calls, told, shown, ends⟩ := told_of_step underway named ran
  cases ends with
  | @captured outcome due shot =>
      have armed := shown.latch_eq.trans underway.waiting.latch_eq
      have unfired : exposed.latch.fired = false := congrArg Latch.fired armed
      have outputDir : exposed.latch.outputDir = plan.config.outputDir :=
        congrArg Latch.outputDir armed
      rw [Cycle.shot, due] at shot
      obtain ⟨captured, reported, records⟩ := Latch.records_of_outcome unfired shot
      rw [← due, outputDir] at records
      refine ⟨exposed, calls, captured, ?_, ?_, ?_, ?_, records, ?_,
        told.named.displayName, told.named.upscaleName⟩
      · simpa using told.demanded
      · simpa using told.adds
      · rw [shown.pipeline_eq, Plan.Spares, Option.map_map]
        exact underway.waiting.spared
      · have fits := underway.reached.equipped.rel
        rw [shown.pipeline_eq]
        generalize plan.upscalers = upscalers, cycle.pipeline = pipeline at fits ⊢
        cases fits with
        | none => exact .none
        | some fits => exact .some ⟨fits.perFrame.run _, fits.capture⟩
      · simp [reported]

/-- A cycle that is run to its end goes through all ticks that are left before it captures. -/
theorem recounts_of_completed (underway : cycle.Underway plan answers) (named : cycle.Named)
    (ran : (runToCompletion rig).run cycle = .ok () ended) :
    ∃ ticks exposed captured,
      ticks.map Prod.fst =
        List.range' (passed answers + 1) (plan.captureTick - passed answers) ∧
      Recounts rig plan ticks captured cycle exposed ended := by
  -- by induction on the ticks that are left; the step that captures takes the last of them
  generalize left : plan.captureTick - passed answers = count
  induction count generalizing cycle answers with
  | zero =>
      have early := underway.early
      omega
  | succ count inductionHypothesis =>
      have stepped := stepped_of_underway underway rig
      rw [run_runToCompletion_eq] at ran
      cases result : (step rig).run cycle with
      | error stop next =>
          rw [result] at ran
          cases ran
      | ok going next =>
          rw [result] at ran stepped
          cases stepped with
          | captured settled =>
              cases ran
              obtain ⟨exposed, calls, captured, recounts⟩ :=
                recounts_of_captured underway named result
              have complete := settled.complete
              rw [passed_append, passed_none] at complete
              obtain rfl : count = 0 := by omega
              exact ⟨_, exposed, captured, rfl, recounts⟩
          | ticked onward =>
              obtain ⟨shown, calls, told, -, ends⟩ := told_of_step underway named result
              cases ends
              have fewer : plan.captureTick - passed (answers ++ [none]) = count := by
                rw [passed_append, passed_none]
                omega
              obtain ⟨ticks, exposed, captured, numbers, recounts⟩ :=
                inductionHypothesis onward told.named ran fewer
              refine ⟨_, exposed, captured, ?_, recounts.cons told⟩
              rw [List.map_cons, numbers, passed_append, passed_none, List.range'_succ]

theorem records_startGrid {sink : Sink Store} {bench gridded : Bench State Store}
    (done : startGrid sink plan.config plan.width plan.height bench = .ok gridded) :
    gridded.calls = bench.calls ++ (plan.given sink bench.store).map CaptureStep.Taken.call ∧
      gridded.said = bench.said ++
        ((plan.given sink bench.store).filterMap Prod.snd).map .gridFailed ∧
      gridded.store = plan.gridSteps.foldl (CaptureStep.left sink) bench.store := by
  unfold Plan.given Plan.gridSteps Plan.gridImages
  rcases startGrid_eq_ok done with ⟨skipped, rfl⟩ | ⟨asked, grid, made, rfl⟩
  · simp [skipped, CaptureStep.taken]
  · rw [if_pos asked, made]
    exact bench.records_writeGrid sink plan.config.outputDir grid

theorem told_of_start {config : Config} {upscalers : Option (Upscalers Memory)} {machine : State}
    {store : Store} {clock : Clock}
    (started : start rig config upscalers (.ready machine store clock) = .started cycle) :
    let plan := rig.plan config upscalers machine
    cycle.Named ∧
      cycle.bench.calls = .create config.createParams ::
        (plan.given rig.sink store).map CaptureStep.Taken.call ++
        [.audio 0 Plan.silence, .audio 1 Plan.silence] ∧
      cycle.bench.said = (rig.core.opening config.createParams).map Log.Message.masked ++
        [.resolution plan.width plan.height] ++
        ((plan.given rig.sink store).filterMap Prod.snd).map .gridFailed ∧
      cycle.bench.store = plan.gridSteps.foldl (CaptureStep.left rig.sink) store := by
  obtain ⟨fresh, gridded, frame, pipeline, told, gridDone, -, rfl⟩ := start_eq_started started
  obtain ⟨calls, said, left⟩ :=
    @records_startGrid _ _ _ (rig.plan config upscalers machine) _ _ _ gridDone
  have sound := Bench.adds_registerAudio rig.core gridded
  rw [told.store_eq] at calls said left
  refine ⟨⟨rfl, rfl⟩, ?_, ?_, sound.store_eq.trans left⟩
  · refine sound.calls_eq.trans ?_
    rw [calls, told.calls_eq]
    rfl
  · refine sound.said_eq.trans ?_
    rw [said, told.said_eq, List.append_nil]
    rfl

theorem masked_summary (settled : ended.Over plan (List.replicate plan.captureTick none))
    (named : ended.Named) : ended.runReport.summary.map Log.Message.masked = plan.summary := by
  have counts := settled.counts
  have counted : ∀ count : UInt64, count.toNat = plan.captureTick →
      count = plan.config.captureTick.toUInt64 := by
    intro count same
    rw [← UInt64.toNat_inj, same, UInt32.toNat_toUInt64, Plan.captureTick]
  have display := counted _ counts.displayCount
  have upscale := counts.upscaleCount
  unfold RunReport.summary Plan.summary
  simp only [runReport] at display upscale ⊢
  generalize plan.upscalers = upscalers, ended.pipeline = pipeline at upscale ⊢
  rw [List.map_cons, Log.Message.masked, display, named.displayName]
  cases pipeline with
  | none =>
      cases upscalers with
      | none => rfl
      | some upscalers => cases upscale
  | some pipeline =>
      cases upscalers with
      | none => cases upscale
      | some upscalers =>
          have upscale := counted _ (Option.some.inj upscale)
          simp only [Option.map_some, List.map_cons, List.map_nil, Log.Message.masked, upscale,
            named.upscaleName, Option.toList_some, List.flatMap_cons, List.flatMap_nil,
            List.append_nil]

theorem adds_finish (rig : Rig State Store)
    (settled : ended.Over plan (List.replicate plan.captureTick none)) (named : ended.Named) :
    Bench.Adds [.release] (rig.core.closing.map Log.Message.masked ++ plan.summary ++ [.done])
      ended.bench ((ended.finish rig).2.log .done) := by
  have summed := Bench.adds_logAll ended.runReport.summary (ended.abandon rig)
  rw [masked_summary settled named] at summed
  exact ((Bench.adds_release rig.core ended.bench).trans summed).trans
    (Bench.adds_log .done (ended.finish rig).2)

end Cycle

namespace Log.Message

theorem filterMap_masked (messages : List Log.Message) :
    (messages.map masked).filterMap failure? = messages.filterMap failure? := by
  simp [List.filterMap_map]

theorem failure?_said (call : Call) : call.said.filterMap failure? = [] := by
  fun_cases Call.said <;> rfl

theorem failure?_tickSaid (plan : Plan Memory) (tick : Nat) (calls : List Call) :
    (plan.tickSaid tick calls).filterMap failure? = [] := by
  have frame : plan.frameSaid.filterMap failure? = [] := by
    unfold Plan.frameSaid
    cases plan.upscalers <;> rfl
  have labels : (plan.labels tick).filterMap failure? = [] := by
    rw [Plan.labels, List.filterMap_map]
    exact List.filterMap_eq_nil_iff.mpr fun _ _ => rfl
  have inputs : (calls.flatMap Call.said).filterMap failure? = [] := by
    rw [List.filterMap_flatMap]
    exact List.flatMap_eq_nil_iff.mpr fun call _ => failure?_said call
  simp only [Plan.tickSaid, List.filterMap_append, frame, labels, inputs]
  rfl

theorem failure?_summary (plan : Plan Memory) : plan.summary.filterMap failure? = [] := by
  unfold Plan.summary
  cases plan.upscalers <;> rfl

/-- The errors that are said of the steps of a capture are their errors, in order. -/
theorem failure?_taken (taken : List CaptureStep.Taken) :
    (taken.flatMap CaptureStep.Taken.said).filterMap failure? = taken.filterMap Prod.snd := by
  rw [List.filterMap_flatMap, List.filterMap_eq_flatMap_toList]
  refine List.flatMap_congr fun entry _ => ?_
  obtain ⟨step, error⟩ := entry
  cases step <;> cases error <;> rfl

end Log.Message

theorem Bench.failure?_said (bench : Bench State Store) :
    bench.said.filterMap Log.Message.failure? =
      bench.journal.messages.filterMap Log.Message.failure? :=
  Log.Message.filterMap_masked bench.journal.messages

namespace Plan

theorem failure?_log (plan : Plan Memory) (rig : Rig State Store) (store : Store)
    (ticks : List CalledTick) (shown : Frame) (pipeline : Option (Pipeline Memory)) :
    (plan.log rig store ticks shown pipeline).filterMap Log.Message.failure? =
      (rig.core.opening plan.config.createParams).filterMap Log.Message.failure? ++
        (plan.exported rig.sink store shown pipeline).filterMap Prod.snd ++
        rig.core.closing.filterMap Log.Message.failure? := by
  have grid : (((plan.given rig.sink store).filterMap Prod.snd).map
      Log.Message.gridFailed).filterMap Log.Message.failure? = [] := by
    rw [List.filterMap_map]
    exact List.filterMap_eq_nil_iff.mpr fun _ _ => rfl
  have spoken : (ticks.flatMap fun entry => plan.tickSaid entry.1 entry.2).filterMap
      Log.Message.failure? = [] := by
    rw [List.filterMap_flatMap]
    exact List.flatMap_eq_nil_iff.mpr fun entry _ => Log.Message.failure?_tickSaid ..
  have resolution : [Log.Message.resolution plan.width plan.height].filterMap
      Log.Message.failure? = [] := rfl
  have done : [Log.Message.done].filterMap Log.Message.failure? = [] := rfl
  simp only [log, List.filterMap_append, Log.Message.filterMap_masked, resolution, grid, spoken,
    Log.Message.failure?_taken, Log.Message.failure?_summary, done, List.append_nil]

end Plan

/-- What a run that has captured `shown` with `pipeline` leaves in its journal, once completed. -/
structure Logged (rig : Rig State Store) (plan : Plan Memory) (store : Store)
    (ticks : List CalledTick) (shown : Frame) (pipeline : Option (Pipeline Memory))
    (captured : CaptureReport) (ended : Bench State Store) : Prop where
  positive : 0 < plan.captureTick
  /-- The upscalers are those of the plan, and the one for the capture has not been used. -/
  fits : Option.Rel (fun upscalers pipeline => pipeline.Fits upscalers plan.width plan.height)
    plan.upscalers pipeline
  spared : plan.Spares pipeline
  numbered : ticks.map Prod.fst = List.range' 1 plan.captureTick
  demanded : ∀ entry ∈ ticks, entry.2.map Call.demand = plan.tick entry.1
  calls_eq : ended.calls =
    .create plan.config.createParams ::
      (plan.given rig.sink store).map CaptureStep.Taken.call ++
      [.audio 0 Plan.silence, .audio 1 Plan.silence] ++
      ticks.flatMap Prod.snd ++
      (plan.exported rig.sink store shown pipeline).map CaptureStep.Taken.call ++
      [.release]
  log_eq : (ended.journal.messages.filter Log.Filter.detailed.admits).map Log.Message.masked =
    plan.log rig store ticks shown pipeline
  reads : List.Forall₂ Log.Line.Reads (plan.lines rig store ticks shown pipeline)
    ((ended.journal.messages.filter Log.Filter.detailed.admits).map fun message =>
      (message.level, message.text))
  failures_eq : captured.failures =
    (plan.exported rig.sink store shown pipeline).filterMap Prod.snd
  errors_eq : ended.journal.messages.filterMap Log.Message.failure? =
    (rig.core.opening plan.config.createParams).filterMap Log.Message.failure? ++
      captured.failures ++ rig.core.closing.filterMap Log.Message.failure?

/-- Whatever a completed run was given, its log follows from the calls of its ticks and from its
capture, of which it tells exactly the errors that are reported. -/
theorem log_of_completed {rig : Rig State Store} {config : Config}
    {upscalers : Option (Upscalers Memory)} {machine : State} {store : Store} {clock : Clock}
    {report : RunReport} {ended : Bench State Store}
    (completed :
      run rig config upscalers (.ready machine store clock) = (.completed report, ended)) :
    ∃ ticks shown pipeline captured, report.capture = some captured ∧
      Logged rig (rig.plan config upscalers machine) store ticks shown pipeline captured ended ∧
      ∀ message ∈ ended.journal.messages, ∀ error, message.failure? = some error →
        message.level = .error ∧
          (message.text = "Capture failed: " ++ error.message ∨
            ∃ name, message.text = name ++ " upscale failed: " ++ error.message) := by
  obtain ⟨cycle, last, started, ran, rfl, rfl⟩ := run_eq_completed completed
  have positive := positive_of_started (Cycle.fresh_of_start started) ran
  have underway := Cycle.underway_of_start started positive
  obtain ⟨named, calls, said, gridStored⟩ := Cycle.told_of_start started
  obtain ⟨ticks, exposed, captured, numbered, recounts⟩ :=
    Cycle.recounts_of_completed underway named ran
  have settled := Cycle.over_of_completed underway ran
  have closing := Cycle.adds_finish rig settled recounts.named
  obtain ⟨-, recorded, told, -, failed⟩ := recounts.records
  have stored := recounts.adds.store_eq.trans gridStored
  generalize planned : rig.plan config upscalers machine = plan at *
  obtain rfl : config = plan.config := by
    subst planned
    rfl
  simp only [stored] at recorded told failed
  have whole : ((last.finish rig).2.log .done).said =
      plan.log rig store ticks exposed.frame exposed.pipeline := by
    rw [closing.said_eq, told, recounts.adds.said_eq, said]
    simp only [Plan.log, Plan.exported, List.append_assoc]
  have fit : ∀ entry ∈ ticks, entry.1 < UInt32.size := by
    intro entry member
    have numbers : ticks.map Prod.fst = List.range' 1 plan.captureTick := numbered
    have between := List.mem_range'_1.mp (numbers ▸ List.mem_map_of_mem member)
    have small : plan.captureTick < UInt32.size := plan.config.captureTick.toNat_lt_size
    omega
  refine ⟨ticks, exposed.frame, exposed.pipeline, captured, recounts.reported,
    ⟨positive, recounts.fits, recounts.spared, numbered, recounts.demanded, ?_, ?_, ?_, failed, ?_⟩,
    fun message _ error failed => Log.Message.text_of_failure? failed⟩
  · rw [closing.calls_eq, recorded, recounts.adds.calls_eq, calls]
    rfl
  · rw [Log.Filter.filter_detailed]
    exact whole
  · rw [Log.Filter.filter_detailed]
    exact plan.reads_of_masked rig store fit whole
  · rw [← Bench.failure?_said, whole, Plan.failure?_log, failed]
    rfl

/-- A machine that shows a test card, and a store that takes no image. -/
def Rig.refusing : Rig (Machine.Instance Machine.TestCard) Unit where
  core := Machine.TestCard.library.core
  sink := ⟨fun store _ _ => (.error (.file .notFound), store)⟩

/-- Of these upscalers only the one for the capture errs. -/
def Upscalers.erringCapture : Upscalers Nat :=
  { erringAt ∅ with capture := .erringAt {0} "threefold" 3 (.bufferSize 1 0) }

/-- Of the three errors that are reported here two are of writes, and so they are in the log. -/
theorem log_of_completed_refusing :
    ∃ report ended captured,
      run .refusing .short (some .erringCapture) .testCard = (.completed report, ended) ∧
      report.capture = some captured ∧
      captured.failures = [.file .notFound, .file .notFound, .bufferSize 1 0] ∧
      ended.journal.messages.filterMap Log.Message.failure? = captured.failures := by
  obtain ⟨cycle, started⟩ : ∃ cycle,
      Cycle.start .refusing .short (some .erringCapture) .testCard = .started cycle := ⟨_, rfl⟩
  have ran := ran_of_start started (by decide)
  change Ran _ (run .refusing .short (some .erringCapture) .testCard) at ran
  rcases ended : run .refusing .short (some .erringCapture) .testCard with ⟨outcome, bench⟩
  rw [ended] at ran
  cases ran with
  | @completed last bench settled calls =>
      obtain ⟨ticks, shown, pipeline, captured, reported, logged, -⟩ := log_of_completed ended
      refine ⟨_, bench, captured, rfl, reported, ?_, ?_⟩
      · have spared := logged.spared
        rw [logged.failures_eq]
        cases pipeline with
        | none => cases spared
        | some pipeline =>
            have unused := Option.some.inj spared
            have erred : pipeline.captureError? shown = some (.bufferSize 1 0) := by
              simp [Pipeline.captureError?, unused, Stage.fresh, Stage.run, Upscalers.erringCapture,
                Upscalers.erringAt, Upscaler.erringAt]
            simp [Plan.exported, captureSteps, Pipeline.captureSteps, erred, CaptureStep.taken,
              CaptureStep.error?, Rig.refusing]
      · rw [logged.errors_eq]
        exact List.append_nil _
  | erred early underway calls =>
      obtain ⟨held, answered⟩ := underway.reached.equipped.answered
      exact absurd (Upscaler.erringAt_errsOnlyAt _ _ _ _ _ answered) (Finset.notMem_empty _)
  | faulted restless =>
      refine absurd ?_ restless
      rintro _ ⟨⟩
      exact ⟨Upscaler.erringAt_calm _ _, Upscaler.erringAt_calm _ _⟩

end FrameCycle
