import FrameCycle.Machine.Binding
import FrameCycle.Machine.TestCard
import FrameCycle.Proofs.Cycle.Step

/-!
Starting a cycle: the opening of its plan has been demanded, and its first step may come.
-/
namespace FrameCycle

variable {State Store Memory : Type}

namespace Frame

theorem setPixel_eq_ok {frame painted : Frame} {x y value : UInt32}
    (done : frame.setPixel x y value = .ok painted) :
    painted.width = frame.width ∧ painted.height = frame.height := by
  unfold setPixel at done
  split at done
  · cases done
  · split at done
    · cases done
      exact ⟨rfl, rfl⟩
    · cases done

theorem paintRow_eq_ok {y : UInt32} {count : Nat} {x : UInt32} {frame painted : Frame}
    (done : paintRow y count x frame = .ok painted) :
    painted.width = frame.width ∧ painted.height = frame.height := by
  induction count generalizing x frame with
  | zero =>
      cases done
      exact ⟨rfl, rfl⟩
  | succ count inductionHypothesis =>
      unfold paintRow at done
      split at done
      · next after set =>
          obtain ⟨width, height⟩ := inductionHypothesis done
          obtain ⟨sameWidth, sameHeight⟩ := setPixel_eq_ok set
          exact ⟨width.trans sameWidth, height.trans sameHeight⟩
      · cases done

theorem paintRows_eq_ok {width count : Nat} {y : UInt32} {frame painted : Frame}
    (done : paintRows width count y frame = .ok painted) :
    painted.width = frame.width ∧ painted.height = frame.height := by
  induction count generalizing y frame with
  | zero =>
      cases done
      exact ⟨rfl, rfl⟩
  | succ count inductionHypothesis =>
      unfold paintRows at done
      split at done
      · next after row =>
          obtain ⟨width, height⟩ := inductionHypothesis done
          obtain ⟨sameWidth, sameHeight⟩ := paintRow_eq_ok row
          exact ⟨width.trans sameWidth, height.trans sameHeight⟩
      · cases done

theorem grid_eq_ok {width height : UInt32} {frame : Frame} (made : grid width height = .ok frame) :
    frame.width = width ∧ frame.height = height := by
  unfold grid at made
  cases cleared : blank width height with
  | error fault => simp [cleared, bind, Except.bind] at made
  | ok cleared' =>
      simp only [cleared, bind, Except.bind] at made
      have := blank_eq_ok cleared
      subst this
      exact paintRows_eq_ok made

end Frame

theorem referenceGrid_eq_ok {width height : UInt32} {frame : Frame}
    (made : referenceGrid width height = .ok frame) :
    frame.width.toNat = width.toNat + 1 ∧ frame.height.toNat = height.toNat + 1 := by
  unfold referenceGrid at made
  cases wide : Checked.add32 width 1 with
  | error fault => simp [wide, bind, Except.bind] at made
  | ok widened =>
      cases tall : Checked.add32 height 1 with
      | error fault => simp [wide, tall, bind, Except.bind] at made
      | ok heightened =>
          simp only [wide, tall, bind, Except.bind] at made
          obtain ⟨rfl, rfl⟩ := Frame.grid_eq_ok made
          exact ⟨Checked.add32_eq_ok wide, Checked.add32_eq_ok tall⟩

/-- What a run with this machine is set up with; the machine tells the size of its display once it
has been made. -/
def Rig.plan (rig : Rig State Store) (config : Config) (upscalers : Option (Upscalers Memory))
    (machine : State) : Plan Memory :=
  let size := (rig.core.resolution (rig.core.create config.createParams machine).2).1
  ⟨config, upscalers, size.1, size.2⟩

/-- A machine that shows a test card, and a store that takes every image. -/
def Rig.testCard : Rig (Machine.Instance Machine.TestCard) Unit where
  core := Machine.TestCard.library.core
  sink := ⟨fun store _ _ => (.ok (), store)⟩

def Config.short : Config :=
  { standard with captureTick := 3 }

def Bench.testCard : Bench (Machine.Instance Machine.TestCard) Unit :=
  .ready (.unbound .standard) () (.ofReadings fun _ => 0)

namespace Bench

theorem machine_logAll (messages : List Log.Message) (bench : Bench State Store) :
    (bench.logAll messages).machine = bench.machine := by
  induction messages generalizing bench with
  | nil => rfl
  | cons message rest inductionHypothesis => exact inductionHypothesis (bench.log message)

@[simp]
theorem store_logAll (messages : List Log.Message) (bench : Bench State Store) :
    (bench.logAll messages).store = bench.store := by
  induction messages generalizing bench with
  | nil => rfl
  | cons message rest inductionHypothesis => exact inductionHypothesis (bench.log message)

theorem create_eq_true {core : Core State} {params : CreateParams}
    {bench next : Bench State Store} (made : bench.create core params = (true, next)) :
    next.machine = (core.create params bench.machine).2 ∧
      Adds [.create params] ((core.opening params).map Log.Message.masked) bench next := by
  have asked : ((bench.logAll (core.opening params)).call (.create params)).machine =
      bench.machine := machine_logAll (core.opening params) bench
  have added := (adds_logAll (core.opening params) bench).trans (adds_call (.create params) _)
  rw [List.append_nil] at added
  simp only [create, Prod.mk.injEq] at made
  obtain ⟨answer, rfl⟩ := made
  rw [if_pos answer]
  exact ⟨congrArg (fun machine => (core.create params machine).2) asked,
    added.calls_eq, added.said_eq, added.store_eq⟩

theorem calls_writeGrid (sink : Sink Store) (directory : Path) (grid : Frame)
    (bench : Bench State Store) :
    ∃ stored, (bench.writeGrid sink directory grid).calls =
      bench.calls ++ [.write (directory.join (.ofString gridFile)) grid stored] := by
  have calls := calls_write sink (directory.join (.ofString gridFile)) grid bench
  simp only [writeGrid]
  rcases written : bench.write sink (directory.join (.ofString gridFile)) grid with
    ⟨error | done, after⟩
  · rw [written] at calls
    exact ⟨false, (calls_log _ after).trans calls⟩
  · rw [written] at calls
    exact ⟨true, calls⟩

theorem demands_writeGrid (sink : Sink Store) (directory : Path) (grid : Frame)
    (bench : Bench State Store) :
    (bench.writeGrid sink directory grid).demands = bench.demands ++
      [.write (directory.join (.ofString gridFile)) grid.width.toNat grid.height.toNat] := by
  obtain ⟨stored, written⟩ := bench.calls_writeGrid sink directory grid
  simp [demands_eq, written, Call.demand]

theorem adds_registerAudio (core : Core State) (bench : Bench State Store) :
    Adds [.audio 0 Plan.silence, .audio 1 Plan.silence] [] bench (bench.registerAudio core) :=
  (adds_audio core 0 Plan.silence bench).trans (adds_audio core 1 Plan.silence _)

theorem demands_registerAudio (core : Core State) (bench : Bench State Store) :
    (bench.registerAudio core).demands =
      bench.demands ++ [.audio 0 Plan.silence, .audio 1 Plan.silence] := by
  simp [demands_eq, (adds_registerAudio core bench).calls_eq, Call.demand]

end Bench

namespace Cycle

theorem startGrid_eq_ok {sink : Sink Store} {config : Config} {width height : UInt32}
    {bench next : Bench State Store}
    (done : startGrid sink config width height bench = .ok next) :
    (config.grid = false ∧ next = bench) ∨
      (config.grid = true ∧ ∃ grid, referenceGrid width height = .ok grid ∧
        next = bench.writeGrid sink config.outputDir grid) := by
  unfold startGrid at done
  cases asked : config.grid with
  | false =>
      rw [if_neg (by simp [asked])] at done
      cases done
      exact .inl ⟨rfl, rfl⟩
  | true =>
      rw [if_pos asked] at done
      cases made : referenceGrid width height with
      | error fault => simp [made, Except.map] at done
      | ok grid =>
          simp only [made, Except.map, Except.ok.injEq] at done
          exact .inr ⟨rfl, grid, rfl, done.symm⟩

theorem demands_startGrid {plan : Plan Memory} {sink : Sink Store} {bench next : Bench State Store}
    (done : startGrid sink plan.config plan.width plan.height bench = .ok next) :
    next.demands = bench.demands ++
      if plan.config.grid then
        [.write (plan.image gridFile) (plan.width.toNat + 1) (plan.height.toNat + 1)]
      else [] := by
  rcases startGrid_eq_ok done with ⟨skipped, rfl⟩ | ⟨asked, grid, made, rfl⟩
  · simp [skipped]
  · obtain ⟨width, height⟩ := referenceGrid_eq_ok made
    rw [if_pos asked, Bench.demands_writeGrid, width, height, Plan.image]

theorem startBuffers_eq_ok {plan : Plan Memory} {frame : Frame}
    {pipeline : Option (Pipeline Memory)}
    (done : startBuffers plan.upscalers plan.width plan.height = .ok (frame, pipeline)) :
    frame = .zeros plan.width plan.height ∧ plan.Equips [] pipeline ∧ plan.Spares pipeline := by
  unfold startBuffers at done
  cases cleared : Frame.blank plan.width plan.height with
  | error fault => simp [cleared, bind, Except.bind] at done
  | ok cleared' =>
      have blank := Frame.blank_eq_ok cleared
      simp only [cleared, bind, Except.bind] at done
      cases present : plan.upscalers with
      | none =>
          rw [present] at done
          cases done
          exact ⟨blank, .bare present (by simp), by simp [Plan.Spares, present]⟩
      | some upscalers =>
          rw [present] at done
          cases made : Pipeline.make upscalers plan.width plan.height with
          | error fault => simp [made] at done
          | ok pipeline =>
              simp only [made] at done
              cases done
              obtain ⟨fits, perFrame, capture⟩ := Pipeline.make_eq_ok made
              refine ⟨blank, .staged present fits ?_, by simp [Plan.Spares, present, capture]⟩
              rw [perFrame]
              exact .nil

/-- What a started cycle is made of; a machine has been asked for before anything was written. -/
theorem start_eq_started {rig : Rig State Store} {config : Config}
    {upscalers : Option (Upscalers Memory)} {machine : State} {store : Store} {clock : Clock}
    {cycle : Cycle State Store Memory}
    (started : start rig config upscalers (.ready machine store clock) = .started cycle) :
    let plan := rig.plan config upscalers machine
    ∃ fresh gridded frame pipeline,
      Bench.Adds [.create config.createParams]
        ((rig.core.opening config.createParams).map Log.Message.masked ++
          [.resolution plan.width plan.height])
        (.ready machine store clock) fresh ∧
      startGrid rig.sink config plan.width plan.height fresh = .ok gridded ∧
      startBuffers upscalers plan.width plan.height = .ok (frame, pipeline) ∧
      cycle = initial config frame pipeline (gridded.registerAudio rig.core) := by
  unfold start at started
  split at started
  · cases started
  · next bench created =>
      obtain ⟨made, asked⟩ := Bench.create_eq_true created
      have size : (rig.core.resolution (rig.core.create config.createParams machine).2).1 =
          (bench.resolution rig.core).1 := by
        simp [Bench.resolution, made, Bench.ready]
      have sized := Bench.adds_resolution rig.core bench
      simp only [Rig.plan, size]
      rcases resolution : bench.resolution rig.core with ⟨⟨width, height⟩, resolved⟩
      rw [resolution] at sized started
      have told := (asked.trans sized).trans (Bench.adds_log (.resolution width height) resolved)
      simp only [List.append_nil] at told
      simp only at started
      split at started
      · cases started
      · next gridded gridDone =>
          split at started
          · cases started
          · next frame pipeline buffered =>
              cases started
              exact ⟨_, gridded, frame, pipeline, told, gridDone, buffered, rfl⟩

theorem underway_of_start {rig : Rig State Store} {config : Config}
    {upscalers : Option (Upscalers Memory)} {machine : State} {store : Store} {clock : Clock}
    {cycle : Cycle State Store Memory}
    (started : start rig config upscalers (.ready machine store clock) = .started cycle)
    (positive : 0 < config.captureTick) :
    cycle.Underway (rig.plan config upscalers machine) [] := by
  obtain ⟨fresh, gridded, frame, pipeline, told, gridDone, buffered, rfl⟩ :=
    start_eq_started started
  have calls := told.calls_eq
  generalize planned : rig.plan config upscalers machine = plan at gridDone buffered ⊢
  obtain ⟨rfl, rfl⟩ : config = plan.config ∧ upscalers = plan.upscalers := by
    subst planned
    exact ⟨rfl, rfl⟩
  obtain ⟨rfl, equipped, spared⟩ := startBuffers_eq_ok buffered
  refine ⟨⟨rfl, rfl, rfl, rfl, equipped, rfl, rfl, ?_, ?_⟩, ⟨rfl, rfl, rfl, rfl, spared⟩, ?_⟩
  · simp [initial, RunningStat.fresh]
  · simp [initial, Bench.demands_registerAudio, demands_startGrid gridDone, Bench.demands_eq fresh,
      calls, Call.demand, Plan.opening, Plan.walk]
  · simpa [Plan.captureTick, UInt32.lt_iff_toNat_lt] using positive

end Cycle

end FrameCycle
