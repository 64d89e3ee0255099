import FrameCycle.Proofs.Cycle.Return
import FrameCycle.Proofs.Cycle.Step

/-!
What a step says. Until its capture, if it takes one, it adds the calls of its tick to the journal,
and between them messages that follow from the plan and from the outcomes of those calls.
-/
namespace FrameCycle

variable {State Store Memory : Type}

namespace Plan

/-- What is said of a frame that was read and enlarged. -/
def frameSaid (plan : Plan Memory) : List Log.Message :=
  .accumulated displayStatName 0 ::
    plan.upscalers.toList.map fun _ => .accumulated upscaleStatName 0

def labels (plan : Plan Memory) (tick : Nat) : List Log.Message :=
  ((plan.config.script.eventsAt tick).filterMap Event.label).map .label

/-- What is said in a tick in which these calls are made. -/
def tickSaid (plan : Plan Memory) (tick : Nat) (calls : List Call) : List Log.Message :=
  plan.frameSaid ++ [.tick (.ofNat tick)] ++ plan.labels tick ++ calls.flatMap Call.said

end Plan

namespace Cycle

/-- The averages bear the names under which they are reported. -/
structure Named (cycle : Cycle State Store Memory) : Prop where
  displayName : cycle.displayStat.name = displayStatName
  upscaleName : cycle.upscaleStat.name = upscaleStatName

/-- The calls with which a frame is read and enlarged. -/
def frameCalls (cycle : Cycle State Store Memory) : List Call :=
  .advance :: .display :: cycle.pipeline.toList.map fun pipeline =>
    .upscale pipeline.perFrame.name pipeline.perFrame.factor

theorem flatMap_said_frameCalls (cycle : Cycle State Store Memory) :
    cycle.frameCalls.flatMap Call.said = [] := by
  unfold frameCalls
  cases cycle.pipeline <;> rfl

variable {plan : Plan Memory} {answers : List (Option Error)} {rig : Rig State Store}
  {cycle exposed last : Cycle State Store Memory}

theorem Underway.demand_frameCalls (underway : cycle.Underway plan answers) :
    cycle.frameCalls.map Call.demand = plan.frame := by
  have equipped := underway.reached.equipped
  unfold frameCalls Plan.frame
  generalize cycle.pipeline = pipeline at equipped ⊢
  cases equipped with
  | bare absent quiet => simp [absent, Call.demand]
  | staged present fits answered =>
      simp [present, Call.demand, Stage.name, Stage.factor, fits.perFrame.upscaler_eq]

theorem Underway.frameSaid_eq (underway : cycle.Underway plan answers) :
    plan.frameSaid = .accumulated displayStatName 0 ::
      cycle.pipeline.toList.map fun _ => .accumulated upscaleStatName 0 := by
  have equipped := underway.reached.equipped
  unfold Plan.frameSaid
  generalize cycle.pipeline = pipeline at equipped ⊢
  cases equipped with
  | bare absent quiet => simp [absent]
  | staged present fits answered => simp [present]

theorem enlargeFrame_adds (named : cycle.Named)
    (ran : (enlargeFrame rig.core).run cycle = .ok () last) :
    last.Named ∧ last.script = cycle.script ∧ last.snapshot = cycle.snapshot ∧
      Bench.Adds cycle.frameCalls
        (.accumulated displayStatName 0 ::
          cycle.pipeline.toList.map fun _ => .accumulated upscaleStatName 0)
        cycle.bench last.bench := by
  obtain ⟨_, shown, ran, enlarged⟩ := run_bind_eq_ok.mp ran
  obtain ⟨_, advanced, advancing, reading⟩ := run_bind_eq_ok.mp ran
  obtain ⟨-, upscaled, upscaleStat, bench, upscaleName, rfl⟩ := upscaleFrame_eq_ok enlarged
  obtain ⟨displayStat, folded, rfl⟩ := readDisplay_eq_ok reading
  obtain ⟨frames, rfl⟩ := advance_eq_ok advancing
  obtain ⟨displayName, told⟩ := Bench.adds_accumulate folded
  have run := Bench.adds_advance rig.core cycle.bench
  have read := Bench.adds_display rig.core cycle.frame (cycle.bench.advance rig.core)
  have whole := ((run.trans read).trans told).trans upscaled
  rw [named.displayName, named.upscaleName] at whole
  exact ⟨⟨displayName.trans named.displayName, upscaleName.trans named.upscaleName⟩, rfl, rfl,
    whole⟩

theorem followTick_adds (ran : (followTick rig.core).run cycle = .ok () last) :
    last.displayStat = cycle.displayStat ∧ last.upscaleStat = cycle.upscaleStat ∧
      ∃ calls, Bench.Adds calls
          (.tick last.tick ::
            ((cycle.script.eventsAt last.tick.toNat).filterMap Event.label).map .label ++
              calls.flatMap Call.said)
          cycle.bench last.bench ∧
        calls.map Call.demand = ((cycle.script.eventsAt last.tick.toNat).flatMap
          Event.actions).map (Action.demand cycle.snapshot) := by
  obtain ⟨-, followed, tick, bench, rfl⟩ := followTick_eq_ok ran
  obtain ⟨calls, inputs, demands⟩ := Bench.adds_followScript rig.core cycle.script cycle.snapshot
    tick (cycle.bench.log (.tick tick))
  rw [← followed] at inputs
  exact ⟨rfl, rfl, calls, (Bench.adds_log (.tick tick) cycle.bench).trans inputs, demands⟩

/-- From one cycle to the next the calls of a tick were made, and what belongs to them was said. -/
structure Told (plan : Plan Memory) (tick : Nat) (calls : List Call)
    (before exposed : Cycle State Store Memory) : Prop where
  named : exposed.Named
  demanded : calls.map Call.demand = plan.tick tick
  adds : Bench.Adds calls (plan.tickSaid tick calls) before.bench exposed.bench

theorem told_of_step {going : Bool} (underway : cycle.Underway plan answers) (named : cycle.Named)
    (ran : (step rig).run cycle = .ok going last) :
    ∃ exposed calls, Told plan (passed answers + 1) calls cycle exposed ∧
      Exposed rig.core cycle exposed ∧ Ends rig.sink exposed going last := by
  obtain ⟨enlarged, exposed, enlarging, following, ends⟩ :=
    step_eq_ok underway.waiting.phase_eq ran
  obtain ⟨shown, sameTick⟩ := exposed_of_enlargeFrame enlarging
  obtain ⟨shown, tick⟩ := shown.of_followTick following
  obtain ⟨named, script, snapshot, frame⟩ := enlargeFrame_adds named enlarging
  obtain ⟨displayStat, upscaleStat, inputs, added, demands⟩ := followTick_adds following
  rw [sameTick, underway.waiting.tick_eq] at tick
  rw [script, underway.reached.script_eq, tick] at added demands
  rw [snapshot, underway.reached.snapshot_eq] at demands
  refine ⟨exposed, cycle.frameCalls ++ inputs, ⟨?_, ?_, ?_⟩, shown, ends⟩
  · exact ⟨displayStat ▸ named.displayName, upscaleStat ▸ named.upscaleName⟩
  · rw [List.map_append, underway.demand_frameCalls, demands]
    rfl
  · have number : exposed.tick = .ofNat (passed answers + 1) := by
      rw [← tick, UInt32.ofNat_toNat]
    have whole := frame.trans added
    rw [← underway.frameSaid_eq, number] at whole
    simpa only [Plan.tickSaid, Plan.labels, List.flatMap_append, flatMap_said_frameCalls,
      List.nil_append, List.append_assoc, List.cons_append] using whole

end Cycle

end FrameCycle
