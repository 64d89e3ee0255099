import FrameCycle.Proofs.Script.Lookup
import FrameCycle.Script.Load
import Mathlib.Data.List.Basic
import Mathlib.Tactic.ByContra

/-!
Scripts that were accepted for a capture at some tick. Their events are the given ones in the order
of their ticks, and going through the ticks up to the capture comes by every event once.
-/
namespace FrameCycle.Script

theorem unreachable?_eq_none_iff {captureTick : UInt32} {events : List Event} :
    unreachable? captureTick events = none ↔
      ∀ event ∈ events, 0 < event.tick.toNat ∧ event.tick.toNat < captureTick.toNat := by
  have reachable : ∀ event : Event, ¬ (event.tick == 0 || decide (captureTick ≤ event.tick)) ↔
      0 < event.tick.toNat ∧ event.tick.toNat < captureTick.toNat := by
    intro event
    simp [UInt32.le_iff_toNat_le, Nat.pos_iff_ne_zero, ← UInt32.toNat_inj]
  simp only [unreachable?, List.find?_eq_none, reachable]

theorem ofEvents_eq_ok_iff {events : List Event} {captureTick : UInt32} {script : Script} :
    ofEvents events captureTick = .ok script ↔
      script.events.toList = events.mergeSort byTick ∧
        sharedTick? (events.mergeSort byTick) = none ∧
        unreachable? captureTick (events.mergeSort byTick) = none := by
  unfold ofEvents
  constructor
  · intro accepted
    split at accepted
    · cases accepted
    · next distinct =>
        split at accepted
        · cases accepted
        · next reachable =>
            cases accepted
            exact ⟨rfl, distinct, reachable⟩
  · rintro ⟨listed, distinct, reachable⟩
    rcases script with ⟨⟨kept⟩, increasing⟩
    subst listed
    split
    · next shared => rw [distinct] at shared; cases shared
    · rw [reachable]

/-- The events of a script make the same script again. -/
theorem ofEvents_events {events : List Event} {captureTick : UInt32} {script : Script}
    (accepted : ofEvents events captureTick = .ok script) :
    ofEvents script.events.toList captureTick = .ok script := by
  obtain ⟨listed, distinct, reachable⟩ := ofEvents_eq_ok_iff.mp accepted
  have sorted : (events.mergeSort byTick).mergeSort byTick = events.mergeSort byTick := by
    apply List.mergeSort_of_pairwise
    exact (pairwise_le_mergeSort events).imp decide_eq_true
  apply ofEvents_eq_ok_iff.mpr
  rw [listed, sorted]
  exact ⟨rfl, distinct, reachable⟩

/-- The script was made from these events, or from a text that holds them. -/
def Holds (script : Script) (events : List Event) (captureTick : UInt32) : Prop :=
  ofEvents events captureTick = .ok script ∨
    ∃ text, eventsReader.parse text = .ok events ∧ ofDocument text captureTick = .ok script

theorem Holds.accepted {script : Script} {events : List Event} {captureTick : UInt32}
    (holds : script.Holds events captureTick) : ofEvents events captureTick = .ok script := by
  rcases holds with accepted | ⟨text, parsed, loaded⟩
  · exact accepted
  · simp only [ofDocument, parsed] at loaded
    split at loaded
    · cases loaded
    · next accepted =>
        cases loaded
        exact accepted

theorem Holds.perm {script : Script} {events : List Event} {captureTick : UInt32}
    (holds : script.Holds events captureTick) : script.events.toList.Perm events := by
  rw [(ofEvents_eq_ok_iff.mp holds.accepted).1]
  exact List.mergeSort_perm events byTick

theorem Holds.between {script : Script} {events : List Event} {captureTick : UInt32}
    (holds : script.Holds events captureTick) {event : Event}
    (member : event ∈ script.events.toList) :
    0 < event.tick.toNat ∧ event.tick.toNat < captureTick.toNat := by
  obtain ⟨listed, -, reachable⟩ := ofEvents_eq_ok_iff.mp holds.accepted
  exact unreachable?_eq_none_iff.mp reachable event (listed ▸ member)

theorem filter_eq_nil_of_later {events : List Event} {tick : Nat}
    (later : ∀ event ∈ events, tick < event.tick.toNat) :
    (events.filter fun event => event.tick.toNat = tick) = [] := by
  apply List.filter_eq_nil_iff.mpr
  intro event member
  simpa using Nat.ne_of_gt (later event member)

/-- Events in the order of their ticks are found one after the other. -/
theorem flatMap_filter_range' {events : List Event}
    (increasing : events.Pairwise fun earlier later => earlier.tick < later.tick)
    {first count : Nat}
    (between : ∀ event ∈ events, first ≤ event.tick.toNat ∧ event.tick.toNat < first + count) :
    ((List.range' first count).flatMap fun tick =>
      events.filter fun event => event.tick.toNat = tick) = events := by
  induction count generalizing first events with
  | zero =>
      cases events with
      | nil => rfl
      | cons event rest =>
          have := between event List.mem_cons_self
          omega
  | succ count inductionHypothesis =>
      rw [List.range'_succ, List.flatMap_cons]
      by_cases later : ∀ event ∈ events, first < event.tick.toNat
      · have between : ∀ event ∈ events, first + 1 ≤ event.tick.toNat ∧
            event.tick.toNat < first + 1 + count := by
          intro event member
          have := between event member
          have := later event member
          omega
        rw [filter_eq_nil_of_later later, inductionHypothesis increasing between, List.nil_append]
      · -- only the earliest event can be due
        cases events with
        | nil => simp at later
        | cons event rest =>
            obtain ⟨above, increasing⟩ := List.pairwise_cons.mp increasing
            have due : event.tick.toNat = first := by
              by_contra other
              refine later fun next member => ?_
              have := (between event List.mem_cons_self).1
              rcases List.mem_cons.mp member with rfl | member
              · omega
              · exact Nat.lt_of_le_of_lt this (above next member)
            have laterRest : ∀ next ∈ rest, first < next.tick.toNat :=
              fun next member => due ▸ above next member
            have betweenRest : ∀ next ∈ rest, first + 1 ≤ next.tick.toNat ∧
                next.tick.toNat < first + 1 + count := by
              intro next member
              have := between next (List.mem_cons_of_mem event member)
              have := laterRest next member
              omega
            have after : ∀ tick ∈ List.range' (first + 1) count,
                (event :: rest).filter (fun event => event.tick.toNat = tick) =
                  rest.filter fun event => event.tick.toNat = tick := by
              intro tick member
              have := List.mem_range'_1.mp member
              apply List.filter_cons_of_neg
              simp only [decide_eq_true_eq]
              omega
            rw [List.filter_cons_of_pos (by simpa using due), filter_eq_nil_of_later laterRest,
              List.flatMap_congr after, inductionHypothesis increasing betweenRest]
            rfl

theorem Holds.flatMap_eventsAt {script : Script} {events : List Event} {captureTick : UInt32}
    (holds : script.Holds events captureTick) :
    (List.range' 1 captureTick.toNat).flatMap script.eventsAt = script.events.toList := by
  refine flatMap_filter_range' script.increasing fun event member => ?_
  have := holds.between member
  omega

end FrameCycle.Script
