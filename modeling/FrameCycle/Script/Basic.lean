import FrameCycle.Path
import FrameCycle.Script.Key

/-!
Input scripts: what happens at which tick of the cycle. The events of a script have strictly
increasing ticks, so a tick has at most one event, and it is found by halving.
-/
namespace FrameCycle

inductive Action where
  | keyDown (key : Key)
  | keyUp (key : Key)
  /-- Without a path, the snapshot of the configuration is loaded. -/
  | loadSnapshot (path : Option Path)
  deriving DecidableEq

namespace Action

def title : Action → String
  | keyDown key => s!"KeyDown({key.title})"
  | keyUp key => s!"KeyUp({key.title})"
  | loadSnapshot none => "LoadSnapshot(None)"
  | loadSnapshot (some path) => s!"LoadSnapshot(Some({path.quoted}))"

end Action

structure Event where
  tick : UInt32
  actions : List Action
  /-- Logged when the event fires. -/
  label : Option String
  deriving DecidableEq

structure Script where
  events : Array Event
  increasing : events.toList.Pairwise fun earlier later => earlier.tick < later.tick

/-- Why a list of events is no script. -/
inductive ScriptError where
  | duplicateTick (tick : UInt32)
  | tickOutside (tick captureTick : UInt32)
  | other (reason : String)
  deriving DecidableEq

namespace ScriptError

def message : ScriptError → String
  | duplicateTick tick => s!"duplicate tick {tick.toNat}"
  | tickOutside tick captureTick => s!"tick {tick.toNat} is outside 1..{captureTick.toNat}"
  | other reason => reason

end ScriptError

namespace Script

def byTick (earlier later : Event) : Bool :=
  decide (earlier.tick ≤ later.tick)

/-- The first tick that two neighbours share. -/
def sharedTick? : List Event → Option UInt32
  | first :: second :: rest =>
      if first.tick = second.tick then some first.tick else sharedTick? (second :: rest)
  | _ => none

/-- The first event that the cycle would not reach. -/
def unreachable? (captureTick : UInt32) (events : List Event) : Option Event :=
  events.find? fun event => event.tick == 0 || decide (captureTick ≤ event.tick)

theorem pairwise_lt_of_sharedTick?_eq_none {events : List Event}
    (ordered : events.Pairwise fun earlier later => earlier.tick ≤ later.tick)
    (distinct : sharedTick? events = none) :
    events.Pairwise fun earlier later => earlier.tick < later.tick := by
  induction events with
  | nil => exact .nil
  | cons first rest inductionHypothesis =>
      cases rest with
      | nil => simp
      | cons second rest =>
          simp only [sharedTick?] at distinct
          split at distinct
          · cases distinct
          · next differ =>
              have tail := inductionHypothesis (List.pairwise_cons.mp ordered).2 distinct
              have head := (List.pairwise_cons.mp ordered).1 second List.mem_cons_self
              refine List.pairwise_cons.mpr ⟨fun later member => ?_, tail⟩
              have below : first.tick < second.tick :=
                UInt32.lt_iff_le_and_ne.mpr ⟨head, differ⟩
              rcases List.mem_cons.mp member with same | after
              · exact same ▸ below
              · exact UInt32.lt_trans below ((List.pairwise_cons.mp tail).1 later after)

theorem pairwise_le_mergeSort (events : List Event) :
    (events.mergeSort byTick).Pairwise fun earlier later => earlier.tick ≤ later.tick := by
  have sorted := @List.pairwise_mergeSort _ byTick
    (fun _ _ _ first second => by
      simp only [byTick, decide_eq_true_eq] at *
      exact UInt32.le_trans first second)
    (fun first second => by
      simp only [byTick, Bool.or_eq_true, decide_eq_true_eq]
      exact UInt32.le_total _ _) events
  exact sorted.imp fun related => by simpa [byTick] using related

/-- Sorts events into a script. Shared ticks are refused first, then ticks that never come: tick 0
and those at or behind the capture. -/
def ofEvents (events : List Event) (captureTick : UInt32) : Except ScriptError Script :=
  match distinct : sharedTick? (events.mergeSort byTick) with
  | some tick => .error (.duplicateTick tick)
  | none =>
      match unreachable? captureTick (events.mergeSort byTick) with
      | some event => .error (.tickOutside event.tick captureTick)
      | none => .ok {
          events := (events.mergeSort byTick).toArray
          increasing :=
            pairwise_lt_of_sharedTick?_eq_none (pairwise_le_mergeSort events) distinct }

/-- Looks for the event with `tick` between the indices `low` and `high`. -/
def search (events : Array Event) (tick : UInt32) (low high : Nat) : Option Event :=
  if low < high then
    match events[(low + high) / 2]? with
    | none => none
    | some event =>
        if event.tick = tick then some event
        else if event.tick < tick then search events tick ((low + high) / 2 + 1) high
        else search events tick low ((low + high) / 2)
  else none
termination_by high - low

def find? (script : Script) (tick : UInt32) : Option Event :=
  search script.events tick 0 script.events.size

def actionsAt (script : Script) (tick : UInt32) : List Action :=
  match script.find? tick with
  | some event => event.actions
  | none => []

def labelAt (script : Script) (tick : UInt32) : Option String :=
  (script.find? tick).bind Event.label

/-- Enters the snapshot and selects with the arrow that shift and 6 give. -/
def standardEvents : List Event :=
  [⟨80, [.loadSnapshot none, .keyDown .enter], none⟩,
   ⟨90, [.keyUp .enter], none⟩,
   ⟨100, [.keyDown .shift, .keyDown .digit6], some "Arrow down pressed"⟩,
   ⟨101, [.keyUp .shift, .keyUp .digit6], some "Arrow down released"⟩]

def standard : Script where
  events := standardEvents.toArray
  increasing := by
    simp [standardEvents]

end Script

end FrameCycle
