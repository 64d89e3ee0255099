import FrameCycle.Proofs.Capture
import FrameCycle.Proofs.Said

/-!
The account of a capture. Which steps it takes follows from its frame and its pipeline alone. A
store only answers them, one by one, and the report says what came of each.
-/
namespace FrameCycle

variable {State Store Memory : Type}

/-- A store whose answers are all settled beforehand. -/
def Sink.scripted : Sink (List (Except Error Unit)) where
  write answers _ _ := (answers.headD (.ok ()), answers.tail)

inductive CaptureStep where
  | write (path : Path) (frame : Frame)
  | upscale (name : String) (factor : UInt32)

namespace CaptureStep

def isWrite : CaptureStep → Bool
  | write _ _ => true
  | upscale _ _ => false

/-- What goes wrong in a step: in a write what the store says, in an upscale `upscaled`. -/
def error? (sink : Sink Store) (upscaled : Option Error) (store : Store) :
    CaptureStep → Option Error
  | write path frame =>
      match (sink.write store path frame).1 with
      | .ok () => none
      | .error error => some error
  | upscale _ _ => upscaled

/-- The store after a step. -/
def left (sink : Sink Store) (store : Store) : CaptureStep → Store
  | write path frame => (sink.write store path frame).2
  | upscale _ _ => store

/-- A step that was taken, with its error if it failed. -/
abbrev Taken := CaptureStep × Option Error

namespace Taken

def exported? : Taken → Option Path
  | (write path _, none) => some path
  | _ => none

def call : Taken → Call
  | (write path frame, error) => .write path frame error.isNone
  | (upscale name factor, _) => .upscale name factor

/-- What is said of a step, times left out. -/
def said : Taken → List Log.Message
  | (write path _, error) => .screenshot path :: error.toList.map .captureFailed
  | (upscale name _, error) =>
      [.upscaling name, .timed name 0] ++ error.toList.map (.upscaleFailed name)

end Taken

/-- Steps taken one after the other, each whatever came of those before it. -/
def taken (sink : Sink Store) (upscaled : Option Error) : Store → List CaptureStep → List Taken
  | _, [] => []
  | store, step :: rest =>
      (step, step.error? sink upscaled store) :: taken sink upscaled (step.left sink store) rest

theorem taken_append (sink : Sink Store) (upscaled : Option Error) (store : Store)
    (first rest : List CaptureStep) :
    taken sink upscaled store (first ++ rest) =
      taken sink upscaled store first ++
        taken sink upscaled (first.foldl (left sink) store) rest := by
  induction first generalizing store with
  | nil => rfl
  | cons step first inductionHypothesis => simp [taken, inductionHypothesis]

theorem map_fst_taken (sink : Sink Store) (upscaled : Option Error) (store : Store)
    (steps : List CaptureStep) : (taken sink upscaled store steps).map Prod.fst = steps := by
  induction steps generalizing store with
  | nil => rfl
  | cons step rest inductionHypothesis => simp [taken, inductionHypothesis]

theorem foldl_left_scripted (answers : List (Except Error Unit)) (steps : List CaptureStep) :
    steps.foldl (left .scripted) answers = answers.drop (steps.countP isWrite) := by
  induction steps generalizing answers with
  | nil => rfl
  | cons step rest inductionHypothesis =>
      rw [List.foldl_cons, inductionHypothesis]
      cases step with
      | write path frame =>
          rw [List.countP_cons_of_pos rfl, Nat.add_comm, ← List.drop_drop, List.drop_one]
          rfl
      | upscale name factor =>
          rw [List.countP_cons_of_neg (by simp [isWrite])]
          rfl

/-- Whatever is answered to the first steps, those behind them are taken alike. -/
theorem drop_taken_scripted {answers others : List (Except Error Unit)} {first : List CaptureStep}
    (alike : answers.drop (first.countP isWrite) = others.drop (first.countP isWrite))
    (upscaled : Option Error) (rest : List CaptureStep) :
    (taken .scripted upscaled answers (first ++ rest)).drop first.length =
      (taken .scripted upscaled others (first ++ rest)).drop first.length := by
  have length : ∀ answers, (taken .scripted upscaled answers first).length = first.length := by
    intro answers
    rw [← List.length_map, map_fst_taken]
  rw [taken_append, taken_append, List.drop_left' (length answers), List.drop_left' (length others),
    foldl_left_scripted, foldl_left_scripted, alike]

end CaptureStep

namespace Bench

open CaptureStep

/-- From a report and a bench to others, by way of steps: nothing else is called, what is said goes
through the steps as well, and the report lists what came of each. -/
structure Records (sink : Sink Store) (upscaled : Option Error) (steps : List CaptureStep)
    (before after : CaptureReport × Bench State Store) : Prop where
  store_eq : after.2.store = steps.foldl (left sink) before.2.store
  calls_eq : after.2.calls =
    before.2.calls ++ (taken sink upscaled before.2.store steps).map Taken.call
  said_eq : after.2.said =
    before.2.said ++ (taken sink upscaled before.2.store steps).flatMap Taken.said
  exported_eq : after.1.exported =
    before.1.exported ++ (taken sink upscaled before.2.store steps).filterMap Taken.exported?
  failures_eq : after.1.failures =
    before.1.failures ++ (taken sink upscaled before.2.store steps).filterMap Prod.snd

namespace Records

variable {sink : Sink Store} {upscaled : Option Error} {first second : List CaptureStep}
  {before between after : CaptureReport × Bench State Store}

theorem trans (earlier : Records sink upscaled first before between)
    (later : Records sink upscaled second between after) :
    Records sink upscaled (first ++ second) before after where
  store_eq := by rw [List.foldl_append, later.store_eq, earlier.store_eq]
  calls_eq := by
    rw [taken_append, List.map_append, ← List.append_assoc, ← earlier.calls_eq, ← earlier.store_eq,
      later.calls_eq]
  said_eq := by
    rw [taken_append, List.flatMap_append, ← List.append_assoc, ← earlier.said_eq,
      ← earlier.store_eq, later.said_eq]
  exported_eq := by
    rw [taken_append, List.filterMap_append, ← List.append_assoc, ← earlier.exported_eq,
      ← earlier.store_eq, later.exported_eq]
  failures_eq := by
    rw [taken_append, List.filterMap_append, ← List.append_assoc, ← earlier.failures_eq,
      ← earlier.store_eq, later.failures_eq]

theorem single {step : CaptureStep} (error : Option Error)
    (failed : step.error? sink upscaled before.2.store = error)
    (store : after.2.store = step.left sink before.2.store)
    (calls : after.2.calls = before.2.calls ++ [Taken.call (step, error)])
    (said : after.2.said = before.2.said ++ Taken.said (step, error))
    (exported : after.1.exported = before.1.exported ++ (Taken.exported? (step, error)).toList)
    (failures : after.1.failures = before.1.failures ++ error.toList) :
    Records sink upscaled [step] before after := by
  subst failed
  refine ⟨store, calls, said.trans ?_, exported.trans ?_, failures.trans ?_⟩ <;>
    simp [taken, List.filterMap_eq_flatMap_toList]

end Records

theorem records_shoot (sink : Sink Store) (upscaled : Option Error) (directory : Path)
    (file : String) (frame : Frame) (report : CaptureReport) (bench : Bench State Store) :
    Records sink upscaled [.write (directory.join (.ofString file)) frame] (report, bench)
      (bench.shoot sink directory file frame report) := by
  simp only [shoot]
  generalize directory.join (.ofString file) = path
  have told := adds_log (.screenshot path) bench
  rcases done : (bench.log (.screenshot path)).write sink path frame with ⟨answer, after⟩
  obtain ⟨written, calls, said⟩ := write_eq done
  rw [told.store_eq] at written
  rw [calls_log] at calls
  rw [told.said_eq] at said
  have store : after.store = left sink bench.store (.write path frame) :=
    congrArg Prod.snd written.symm
  cases answer with
  | ok done =>
      refine .single none ?_ store calls said rfl (List.append_nil _).symm
      simp [error?, written]
  | error error =>
      have failed := (adds_log (.captureFailed error) after).said_eq
      rw [said, List.append_assoc] at failed
      refine .single (some error) ?_ store ((calls_log _ after).trans calls) failed
        (List.append_nil _).symm rfl
      simp [error?, written]

end Bench

/-- The error of the upscaler for the capture on this frame, if it errs. -/
def Pipeline.captureError? (pipeline : Pipeline Memory) (frame : Frame) : Option Error :=
  match (pipeline.capture.run frame).1 with
  | .error (.error error) => some error
  | _ => none

def Pipeline.captureSteps (directory : Path) (frame : Frame) (pipeline : Pipeline Memory) :
    List CaptureStep :=
  [.write (directory.join (.ofString (resizedFile pipeline.perFrame.factor)))
      pipeline.perFrame.output,
    .upscale pipeline.capture.name pipeline.capture.factor] ++
  if pipeline.captureError? frame = none then
    [.write (directory.join (.ofString (resizedFile pipeline.capture.factor)))
      (pipeline.capture.run frame).2.output]
  else []

/-- The steps of a capture, in order. -/
def captureSteps (directory : Path) (frame : Frame) (pipeline : Option (Pipeline Memory)) :
    List CaptureStep :=
  .write (directory.join (.ofString originalFile)) frame ::
    pipeline.elim [] (Pipeline.captureSteps directory frame)

namespace Bench

@[simp]
theorem upscaleTime_shoot (sink : Sink Store) (directory : Path) (file : String) (frame : Frame)
    (report : CaptureReport) (bench : Bench State Store) :
    (bench.shoot sink directory file frame report).1.upscaleTime = report.upscaleTime := by
  simp only [shoot]
  split <;> rfl

theorem adds_upscaleCapture (pipeline : Pipeline Memory) (frame : Frame)
    (bench : Bench State Store) :
    Adds [.upscale pipeline.capture.name pipeline.capture.factor]
      [.upscaling pipeline.capture.name, .timed pipeline.capture.name 0]
      bench (bench.upscaleCapture pipeline frame).2.2.2 :=
  ((adds_log (.upscaling pipeline.capture.name) bench).trans (adds_call _ _)).trans
    (adds_timed pipeline.capture.name _)

/-- The part of a capture that needs upscalers records their steps, unless the upscaler faults. -/
theorem records_shootUpscaled {pipeline : Pipeline Memory} {frame : Frame}
    (calm : ∀ fault, (pipeline.capture.run frame).1 ≠ .error (.fault fault)) (sink : Sink Store)
    (directory : Path) (report : CaptureReport) (bench : Bench State Store) :
    let shot := bench.shootUpscaled sink directory pipeline frame report
    ∃ after, shot.1 = .ok after ∧ shot.2.1 = (pipeline.runCapture frame).2 ∧
      after.upscaleTime.isSome = true ∧
      Records sink (pipeline.captureError? frame) (pipeline.captureSteps directory frame)
        (report, bench) (after, shot.2.2) := by
  have display := records_shoot sink (pipeline.captureError? frame) directory
    (resizedFile pipeline.perFrame.factor) pipeline.perFrame.output report bench
  simp only [shootUpscaled_eq]
  generalize bench.shoot sink directory (resizedFile pipeline.perFrame.factor)
    pipeline.perFrame.output report = first at display ⊢
  have upscaled := adds_upscaleCapture pipeline frame first.2
  generalize first.2.upscaleCapture pipeline frame = called at upscaled ⊢
  rcases outcome : (pipeline.capture.run frame).1 with (error | fault) | done
  · have failed : pipeline.captureError? frame = some error := by
      simp [Pipeline.captureError?, outcome]
    refine ⟨_, rfl, rfl, rfl, ?_⟩
    rw [failed] at display ⊢
    simp only [Pipeline.captureSteps, failed, reduceCtorEq, ↓reduceIte, List.append_nil]
    have told := upscaled.trans (adds_log (.upscaleFailed pipeline.capture.name error) called.2.2.2)
    exact display.trans (.single (some error) rfl told.store_eq told.calls_eq told.said_eq
      (List.append_nil _).symm rfl)
  · exact absurd outcome (calm fault)
  · have passed : pipeline.captureError? frame = none := by
      simp [Pipeline.captureError?, outcome]
    refine ⟨_, rfl, rfl, by simp, ?_⟩
    rw [passed] at display ⊢
    simp only [Pipeline.captureSteps, passed, ↓reduceIte]
    have enlarged : Records sink none [.upscale pipeline.capture.name pipeline.capture.factor] first
        ({ first.1 with upscaleTime := some called.2.1 }, called.2.2.2) :=
      .single none rfl upscaled.store_eq upscaled.calls_eq upscaled.said_eq
        (List.append_nil _).symm (List.append_nil _).symm
    exact (display.trans enlarged).trans (records_shoot ..)

end Bench

/-- What a capture that is due reports. -/
structure Shot.Accounts (shot : Shot State Store Memory) (frame : Frame)
    (pipeline : Option (Pipeline Memory)) (bench : Bench State Store)
    (taken : List CaptureStep.Taken) (report : CaptureReport) : Prop where
  outcome_eq : shot.outcome = .ok (some report)
  pipeline_eq : shot.pipeline = pipeline.map fun pipeline => (pipeline.runCapture frame).2
  calls_eq : shot.bench.calls = bench.calls ++ taken.map CaptureStep.Taken.call
  exported_eq : report.exported = taken.filterMap CaptureStep.Taken.exported?
  failures_eq : report.failures = taken.filterMap Prod.snd
  timed : report.upscaleTime.isSome = pipeline.isSome

/-- Where no upscale fails, what went wrong is what the store has answered. -/
theorem CaptureStep.answered_of_mem {sink : Sink Store} {store : Store} {steps : List CaptureStep}
    {error : Error} (member : error ∈ (taken sink none store steps).filterMap Prod.snd) :
    ∃ store path frame, (sink.write store path frame).1 = .error error := by
  induction steps generalizing store with
  | nil => simp [taken] at member
  | cons step rest inductionHypothesis =>
      obtain ⟨entry, listed, failed⟩ := List.mem_filterMap.mp member
      rcases List.mem_cons.mp listed with rfl | later
      · cases step with
        | upscale name factor => cases failed
        | write path frame =>
            refine ⟨store, path, frame, ?_⟩
            simp only [error?] at failed
            split at failed
            · cases failed
            · next answer =>
                cases failed
                exact answer
      · exact inductionHypothesis (List.mem_filterMap.mpr ⟨entry, later, failed⟩)

/-- Every step that fails is listed once, and every write that does not. -/
theorem CaptureStep.length_taken (sink : Sink Store) (upscaled : Option Error) (store : Store)
    (steps : List CaptureStep) :
    ((taken sink upscaled store steps).filterMap Taken.exported?).length +
        ((taken sink upscaled store steps).filterMap Prod.snd).length =
      steps.countP isWrite +
        if upscaled.isSome then steps.countP fun step => !step.isWrite else 0 := by
  induction steps generalizing store with
  | nil => simp [taken]
  | cons step rest inductionHypothesis =>
      have rest := inductionHypothesis (step.left sink store)
      cases step with
      | write path frame =>
          simp only [taken, List.filterMap_cons, List.countP_cons, isWrite] at rest ⊢
          cases error? sink upscaled store (write path frame) <;>
            simp [Taken.exported?] at rest ⊢ <;> omega
      | upscale name factor =>
          simp only [taken, List.filterMap_cons, List.countP_cons, isWrite] at rest ⊢
          cases upscaled <;> simp [error?, Taken.exported?] at rest ⊢ <;> omega

theorem countP_captureSteps (directory : Path) (frame : Frame)
    (pipeline : Option (Pipeline Memory)) :
    (captureSteps directory frame pipeline).countP CaptureStep.isWrite =
      pipeline.elim 1 fun pipeline => if pipeline.captureError? frame = none then 3 else 2 := by
  cases pipeline with
  | none => rfl
  | some pipeline =>
      simp only [captureSteps, Pipeline.captureSteps, Option.elim_some]
      split <;> rfl

theorem length_taken_captureSteps (sink : Sink Store) (store : Store) (directory : Path)
    (frame : Frame) (pipeline : Option (Pipeline Memory)) :
    let taken := CaptureStep.taken sink (pipeline.bind (Pipeline.captureError? · frame)) store
      (captureSteps directory frame pipeline)
    (taken.filterMap CaptureStep.Taken.exported?).length + (taken.filterMap Prod.snd).length =
      if pipeline.isSome then 3 else 1 := by
  simp only [CaptureStep.length_taken]
  cases pipeline with
  | none => rfl
  | some pipeline =>
      simp only [captureSteps, Pipeline.captureSteps, Option.bind_some, Option.elim_some]
      by_cases passed : pipeline.captureError? frame = none
      · simp only [passed, ↓reduceIte, Option.isSome_none]
        rfl
      · obtain ⟨error, failed⟩ := Option.ne_none_iff_exists'.mp passed
        simp only [failed, reduceCtorEq, ↓reduceIte, Option.isSome_some]
        rfl

theorem Latch.records_capture {latch : Latch} (unfired : latch.fired = false) {frame : Frame}
    {pipeline : Option (Pipeline Memory)}
    (calm : ∀ upscaling ∈ pipeline, ∀ fault,
      (upscaling.capture.run frame).1 ≠ .error (.fault fault))
    (sink : Sink Store) (bench : Bench State Store) :
    let shot := latch.capture sink latch.tick frame pipeline bench
    ∃ report, shot.outcome = .ok (some report) ∧
      shot.pipeline = (pipeline.map fun pipeline => (pipeline.runCapture frame).2) ∧
      report.upscaleTime.isSome = pipeline.isSome ∧
      Bench.Records sink (pipeline.bind (Pipeline.captureError? · frame))
        (captureSteps latch.outputDir frame pipeline) (.empty, bench) (report, shot.bench) := by
  have due : ¬ (latch.fired = true ∨ latch.tick ≠ latch.tick) := by simp [unfired]
  have original := Bench.records_shoot sink (pipeline.bind (Pipeline.captureError? · frame))
    latch.outputDir originalFile frame .empty bench
  have untimed := Bench.upscaleTime_shoot sink latch.outputDir originalFile frame .empty bench
  simp only [capture, if_neg due]
  generalize bench.shoot sink latch.outputDir originalFile frame .empty = first
    at original untimed ⊢
  cases pipeline with
  | none => exact ⟨first.1, rfl, rfl, congrArg Option.isSome untimed, original⟩
  | some pipeline =>
      obtain ⟨report, outcome, left, timed, further⟩ :=
        Bench.records_shootUpscaled (calm pipeline rfl) sink latch.outputDir first.1 first.2
      refine ⟨report, ?_, congrArg some left, timed, original.trans further⟩
      simp [outcome, Except.map]

theorem Latch.accounts_capture {latch : Latch} (unfired : latch.fired = false) {frame : Frame}
    {pipeline : Option (Pipeline Memory)}
    (calm : ∀ upscaling ∈ pipeline, ∀ fault,
      (upscaling.capture.run frame).1 ≠ .error (.fault fault))
    (sink : Sink Store) (bench : Bench State Store) :
    ∃ report, (latch.capture sink latch.tick frame pipeline bench).Accounts frame pipeline bench
      (CaptureStep.taken sink (pipeline.bind (Pipeline.captureError? · frame)) bench.store
        (captureSteps latch.outputDir frame pipeline)) report := by
  obtain ⟨report, outcome, left, timed, records⟩ := records_capture unfired calm sink bench
  exact ⟨report, outcome, left, records.calls_eq, records.exported_eq, records.failures_eq, timed⟩

/-- A capture that is due reports on its steps. They depend on nothing but its frame and pipeline,
so no store can change which are taken, and what the first writes come to does not change what is
recorded of the steps behind them. -/
theorem Latch.capture_accounts {latch : Latch} {tick : UInt32} (unfired : latch.fired = false)
    (due : tick = latch.tick) {frame : Frame} {pipeline : Option (Pipeline Memory)}
    (calm : ∀ upscaling ∈ pipeline, ∀ fault,
      (upscaling.capture.run frame).1 ≠ .error (.fault fault)) :
    let steps := captureSteps latch.outputDir frame pipeline
    let upscaled := pipeline.bind (Pipeline.captureError? · frame)
    (∀ {State Store : Type} (sink : Sink Store) (bench : Bench State Store),
      let taken := CaptureStep.taken sink upscaled bench.store steps
      ∃ report,
        (latch.capture sink tick frame pipeline bench).Accounts frame pipeline bench taken report ∧
        taken.map Prod.fst = steps ∧
        report.exported.length + report.failures.length = if pipeline.isSome then 3 else 1) ∧
    steps.countP CaptureStep.isWrite =
      (pipeline.elim 1 fun upscaling => if upscaling.captureError? frame = none then 3 else 2) ∧
    ∀ answers others first rest, steps = first ++ rest →
      answers.drop (first.countP CaptureStep.isWrite) =
        others.drop (first.countP CaptureStep.isWrite) →
      (CaptureStep.taken .scripted upscaled answers steps).drop first.length =
        (CaptureStep.taken .scripted upscaled others steps).drop first.length := by
  refine ⟨fun sink bench => ?_, countP_captureSteps .., ?_⟩
  · subst due
    obtain ⟨report, accounts⟩ := accounts_capture unfired calm sink bench
    refine ⟨report, accounts, CaptureStep.map_fst_taken .., ?_⟩
    rw [accounts.exported_eq, accounts.failures_eq]
    exact length_taken_captureSteps ..
  · intro answers others first rest split alike
    rw [split]
    exact CaptureStep.drop_taken_scripted alike _ rest

/-- Of four steps the first write and the upscale fail. -/
theorem Latch.capture_accounts_failing :
    let pipeline : Pipeline Nat :=
      ⟨.fresh (.erringAt ∅ "threefold" 3 (.bufferSize 0 0)) 0 1 1,
        .fresh (.erringAt {0} "twofold" 2 (.bufferSize 4 1)) 0 1 1⟩
    let bench : Bench Unit (List (Except Error Unit)) :=
      .ready () [.error (.file .notFound), .ok ()] (.ofReadings fun _ => 0)
    ∃ report, ((Latch.armed 3 (.ofString "out")).capture .scripted 3 (.zeros 1 1) (some pipeline)
        bench).outcome = .ok (some report) ∧
      report.exported = [.ofString "out/resized_3x.png"] ∧
      report.failures = [.file .notFound, .bufferSize 4 1] := by
  intro pipeline bench
  have calm : ∀ upscaling ∈ some pipeline, ∀ fault,
      (upscaling.capture.run (.zeros 1 1)).1 ≠ .error (.fault fault) := by
    rintro upscaling ⟨⟩ fault
    simp [pipeline, Stage.fresh, Stage.run, Upscaler.erringAt]
  have unfired : (Latch.armed 3 (.ofString "out")).fired = false := rfl
  obtain ⟨accounts, -, -⟩ := Latch.capture_accounts unfired rfl calm
  obtain ⟨report, account, -, -⟩ := accounts .scripted bench
  refine ⟨report, account.outcome_eq, ?_, ?_⟩
  · rw [account.exported_eq]
    decide
  · rw [account.failures_eq]
    decide

end FrameCycle
