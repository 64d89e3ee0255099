import FrameCycle.Proofs.Frame.Grid
import FrameCycle.Proofs.Outcome

/-!
The sizes that a start computes. Each of them is checked in a word of its own: a side of the grid
and an enlarged side in 32 bits, the pixels of the grid by their 32-bit indices, and a buffer by
its bytes. A start without a fault has buffers of those sizes, and nothing in them.
-/
namespace FrameCycle

variable {State Store Memory : Type}

/-- The factors by which frames are enlarged, those of the capture last. -/
def Upscalers.factors (upscalers : Upscalers Memory) : List UInt32 :=
  [upscalers.perFrame.factor, upscalers.capture.factor]

/-- A size that a start depends on does not fit. -/
inductive Plan.Oversized (plan : Plan Memory) : Prop where
  | grid : plan.config.grid = true →
      plan.width.toNat + 1 = UInt32.size ∨ plan.height.toNat + 1 = UInt32.size ∨
        UInt32.size < (plan.width.toNat + 1) * (plan.height.toNat + 1) → Oversized plan
  | frame : Frame.byteLimit < 4 * (plan.width.toNat * plan.height.toNat) → Oversized plan
  | enlarged {upscalers : Upscalers Memory} {factor : UInt32} :
      plan.upscalers = some upscalers → factor ∈ upscalers.factors →
      UInt32.size ≤ plan.width.toNat * factor.toNat ∨
        UInt32.size ≤ plan.height.toNat * factor.toNat ∨
        Frame.byteLimit <
          4 * (plan.width.toNat * factor.toNat * (plan.height.toNat * factor.toNat)) →
      Oversized plan

theorem exists_referenceGrid_iff (width height : UInt32) :
    (∃ grid, referenceGrid width height = .ok grid) ↔
      width.toNat + 1 < UInt32.size ∧ height.toNat + 1 < UInt32.size ∧
        (width.toNat + 1) * (height.toNat + 1) ≤ UInt32.size := by
  have one : (1 : UInt32).toNat = 1 := rfl
  unfold referenceGrid Checked.add32
  by_cases wide : width.toNat + 1 < UInt32.size
  · by_cases tall : height.toNat + 1 < UInt32.size
    · simp only [one, wide, tall, ↓reduceIte, bind, Except.bind, Frame.exists_grid_iff, true_and,
        UInt32.toNat_add, Nat.mod_eq_of_lt wide, Nat.mod_eq_of_lt tall]
    · simp [one, wide, tall, bind, Except.bind]
  · simp [one, wide, bind, Except.bind]

theorem Stage.exists_make_iff (upscaler : Upscaler Memory) (memory : Memory)
    (width height : UInt32) :
    (∃ stage, make upscaler memory width height = .ok stage) ↔
      ∃ frame, Frame.scaled width height upscaler.factor = .ok frame := by
  unfold make
  cases Frame.scaled width height upscaler.factor <;>
    simp [bind, Except.bind, pure, Except.pure]

theorem Pipeline.exists_make_iff (upscalers : Upscalers Memory) (width height : UInt32) :
    (∃ pipeline, make upscalers width height = .ok pipeline) ↔
      ∀ factor ∈ upscalers.factors, ∃ frame, Frame.scaled width height factor = .ok frame := by
  have perFrame := Stage.exists_make_iff upscalers.perFrame upscalers.perFrameMemory width height
  have capture := Stage.exists_make_iff upscalers.capture upscalers.captureMemory width height
  simp only [Upscalers.factors, List.forall_mem_cons, List.not_mem_nil, false_implies, implies_true,
    and_true, ← perFrame, ← capture]
  unfold make
  cases Stage.make upscalers.perFrame upscalers.perFrameMemory width height <;>
    cases Stage.make upscalers.capture upscalers.captureMemory width height <;>
    simp [bind, Except.bind, pure, Except.pure]

theorem Cycle.exists_startBuffers_iff (upscalers : Option (Upscalers Memory))
    (width height : UInt32) :
    (∃ buffers, startBuffers upscalers width height = .ok buffers) ↔
      (∃ frame, Frame.blank width height = .ok frame) ∧
        ∀ given, upscalers = some given →
          ∃ pipeline, Pipeline.make given width height = .ok pipeline := by
  unfold startBuffers
  cases Frame.blank width height with
  | error fault => simp [bind, Except.bind]
  | ok frame =>
      cases upscalers with
      | none => simp [bind, Except.bind, pure, Except.pure]
      | some given =>
          cases made : Pipeline.make given width height <;>
            simp [made, bind, Except.bind, pure, Except.pure]

theorem Plan.sized_iff_not_oversized (plan : Plan Memory) : plan.Sized ↔ ¬ plan.Oversized := by
  have width := plan.width.toNat_lt_size
  have height := plan.height.toNat_lt_size
  constructor
  · intro sized oversized
    obtain ⟨blank, scaled⟩ := (Cycle.exists_startBuffers_iff _ _ _).mp sized.buffers
    cases oversized with
    | grid asked large =>
        have small := (exists_referenceGrid_iff _ _).mp (sized.grid asked)
        omega
    | frame large =>
        have small := (Frame.exists_blank_iff _ _).mp blank
        rw [Frame.bytesPerPixel] at small
        omega
    | enlarged given member large =>
        obtain ⟨wide, tall, small⟩ := (Frame.exists_scaled_iff _ _ _).mp
          ((Pipeline.exists_make_iff _ _ _).mp (scaled _ given) _ member)
        rw [Frame.bytesPerPixel] at small
        omega
  · intro fits
    refine ⟨fun asked => (exists_referenceGrid_iff _ _).mpr ?_,
      (Cycle.exists_startBuffers_iff _ _ _).mpr ⟨(Frame.exists_blank_iff _ _).mpr ?_,
        fun given present => (Pipeline.exists_make_iff _ _ _).mpr fun factor member =>
          (Frame.exists_scaled_iff _ _ _).mpr ?_⟩⟩
    · by_contra large
      exact fits (.grid asked (by omega))
    · by_contra large
      exact fits (.frame (not_le.mp large))
    · by_contra large
      rw [Frame.bytesPerPixel] at large
      exact fits (.enlarged present member (by omega))

/-- A running cycle before its first step: nothing is counted, and every buffer is zero. -/
structure Cycle.Blank (plan : Plan Memory) (cycle : Cycle State Store Memory) : Prop where
  phase_eq : cycle.phase = .running
  tick_eq : cycle.tick = 0
  frames_eq : cycle.frames = 0
  displayStat_eq : cycle.displayStat = .fresh displayStatName
  upscaleStat_eq : cycle.upscaleStat = .fresh upscaleStatName
  report_eq : cycle.report = none
  latch_eq : cycle.latch = .armed plan.config.captureTick plan.config.outputDir
  frame_eq : cycle.frame = .zeros plan.width plan.height
  bare : plan.upscalers = none → cycle.pipeline = none
  staged : ∀ upscalers, plan.upscalers = some upscalers →
    ∃ pipeline, cycle.pipeline = some pipeline ∧ pipeline.Fits upscalers plan.width plan.height ∧
      pipeline.perFrame =
        .fresh upscalers.perFrame upscalers.perFrameMemory plan.width plan.height ∧
      pipeline.capture = .fresh upscalers.capture upscalers.captureMemory plan.width plan.height

theorem Cycle.blank_of_start {rig : Rig State Store} {config : Config}
    {upscalers : Option (Upscalers Memory)} {machine : State} {store : Store} {clock : Clock}
    {cycle : Cycle State Store Memory}
    (started : start rig config upscalers (.ready machine store clock) = .started cycle) :
    cycle.Blank (rig.plan config upscalers machine) := by
  obtain ⟨-, -, frame, pipeline, -, -, buffered, rfl⟩ := start_eq_started started
  generalize planned : rig.plan config upscalers machine = plan at buffered ⊢
  obtain ⟨rfl, rfl⟩ : config = plan.config ∧ upscalers = plan.upscalers := by
    subst planned
    exact ⟨rfl, rfl⟩
  obtain ⟨zeroed, equipped, -⟩ := startBuffers_eq_ok buffered
  refine ⟨rfl, rfl, rfl, rfl, rfl, rfl, rfl, zeroed, fun absent => ?_, fun given present => ?_⟩
  · cases equipped with
    | bare => rfl
    | staged present => cases absent.symm.trans present
  · rw [present] at buffered
    obtain ⟨made, same, making⟩ := make_of_startBuffers buffered
    obtain ⟨fits, perFrame, capture⟩ := Pipeline.make_eq_ok making
    exact ⟨made, same, fits, perFrame, capture⟩

/-- Once there is a machine, a start faults if one of its sizes is too large, and otherwise leads to
a blank cycle. Without a machine it does neither. -/
theorem start_arithmetic (rig : Rig State Store) (config : Config)
    (upscalers : Option (Upscalers Memory)) (machine : State) (store : Store) (clock : Clock) :
    let plan := rig.plan config upscalers machine
    let made := (rig.core.create config.createParams machine).1
    let begun := Cycle.start rig config upscalers (.ready machine store clock)
    ((∃ fault bench, begun = .faulted fault bench) ↔ made = true ∧ plan.Oversized) ∧
      ((∃ cycle, begun = .started cycle) ↔ made = true ∧ ¬ plan.Oversized) ∧
      ∀ cycle, begun = .started cycle → cycle.Blank plan := by
  intro plan made begun
  have blank : ∀ cycle, begun = .started cycle → cycle.Blank plan :=
    fun cycle started => Cycle.blank_of_start started
  cases answer : made with
  | false =>
      have refused : begun = .refused _ :=
        Cycle.start_of_unmade rig config upscalers store clock answer
      exact ⟨by simp [refused], by simp [refused], blank⟩
  | true =>
      obtain ⟨starts, faults⟩ := Cycle.start_of_made rig config upscalers store clock answer
      by_cases oversized : plan.Oversized
      · obtain ⟨fault, bench, faulted⟩ :=
          faults fun sized => plan.sized_iff_not_oversized.mp sized oversized
        change begun = _ at faulted
        exact ⟨by simp [faulted, oversized], by simp [faulted, oversized], blank⟩
      · obtain ⟨cycle, started⟩ := starts (plan.sized_iff_not_oversized.mpr oversized)
        change begun = _ at started
        exact ⟨by simp [started, oversized], by simp [started, oversized], blank⟩

/-- The test card with a display of this size. -/
def Machine.TestCard.sized (width height : Int64) : Machine.TestCard :=
  { standard with width, height }

/-- The grid for a display of 65535 by 65535 takes every index there is; one column more and there
is no index left for the last row. -/
theorem start_arithmetic_testCard :
    let begun := fun width : Int64 => Cycle.start .testCard .short (none : Option (Upscalers Unit))
      (.ready (.unbound (.sized width 65535)) () (.ofReadings fun _ => 0))
    (∃ cycle, begun 65535 = .started cycle ∧ cycle.frame = .zeros 65535 65535) ∧
      ∃ fault bench, begun 65536 = .faulted fault bench := by
  intro begun
  constructor
  · obtain ⟨-, starts, blank⟩ := start_arithmetic .testCard .short (none : Option (Upscalers Unit))
      (.unbound (.sized 65535 65535)) () (.ofReadings fun _ => 0)
    have fits : ¬ (Rig.testCard.plan .short (none : Option (Upscalers Unit))
        (.unbound (.sized 65535 65535))).Oversized := by
      intro oversized
      cases oversized with
      | grid asked large => revert large; decide
      | frame large => revert large; decide
      | enlarged given member large => cases given
    obtain ⟨cycle, started⟩ := starts.mpr ⟨rfl, fits⟩
    exact ⟨cycle, started, (blank cycle started).frame_eq⟩
  · obtain ⟨faults, -⟩ := start_arithmetic .testCard .short (none : Option (Upscalers Unit))
      (.unbound (.sized 65536 65535)) () (.ofReadings fun _ => 0)
    exact faults.mpr ⟨rfl, .grid rfl (by decide)⟩

end FrameCycle
