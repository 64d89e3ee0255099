import FrameCycle.Proofs.Script.Accepted
import Mathlib.Data.List.Duplicate
import Mathlib.Order.Bounds.Defs

/-!
What becomes of a list of events, said without sorting it. Only the order of the ticks makes the
comparison of neighbours complete, and makes the tick that is reported a least one.
-/
namespace FrameCycle.Script

/-- What the events make of a capture at a tick. A tick that occurs twice goes before every tick
that never comes, and tick 0 before those at or behind the capture. -/
inductive Verdict (events : List Event) (captureTick : UInt32) : Except ScriptError Script → Prop
  | shared {tick : UInt32}
      (least : IsLeast {tick | List.Duplicate tick (events.map Event.tick)} tick) :
      Verdict events captureTick (.error (.duplicateTick tick))
  | zero (distinct : (events.map Event.tick).Nodup) (member : 0 ∈ events.map Event.tick) :
      Verdict events captureTick (.error (.tickOutside 0 captureTick))
  | late {tick : UInt32} (distinct : (events.map Event.tick).Nodup)
      (positive : 0 ∉ events.map Event.tick)
      (least : IsLeast {tick | tick ∈ events.map Event.tick ∧ captureTick ≤ tick} tick) :
      Verdict events captureTick (.error (.tickOutside tick captureTick))
  | accepted {script : Script} (distinct : (events.map Event.tick).Nodup)
      (between : ∀ tick ∈ events.map Event.tick, 0 < tick ∧ tick < captureTick)
      (same : script.events.toList.Perm events) :
      Verdict events captureTick (.ok script)

section Sorted

variable {events : List Event}

theorem nodup_of_increasing
    (increasing : events.Pairwise fun earlier later => earlier.tick < later.tick) :
    (events.map Event.tick).Nodup :=
  List.pairwise_map.mpr (increasing.imp fun below => (UInt32.lt_iff_le_and_ne.mp below).2)

/-- Behind neighbours that differ, the first tick of a sorted list does not come again. -/
theorem tick_not_mem_of_ne {first second : Event} {rest : List Event}
    (ordered : (first :: second :: rest).Pairwise fun earlier later => earlier.tick ≤ later.tick)
    (differ : first.tick ≠ second.tick) :
    first.tick ∉ (second :: rest).map Event.tick := by
  obtain ⟨first_le, tail⟩ := List.pairwise_cons.mp ordered
  intro member
  obtain ⟨later, member, same⟩ := List.mem_map.mp member
  have second_le : second.tick ≤ later.tick := by
    rcases List.mem_cons.mp member with rfl | after
    · exact UInt32.le_refl _
    · exact (List.pairwise_cons.mp tail).1 later after
  exact differ (UInt32.le_antisymm (first_le second List.mem_cons_self) (same ▸ second_le))

/-- On a sorted list, the comparison of neighbours finds the least tick that occurs twice. -/
theorem isLeast_of_sharedTick?_eq_some {tick : UInt32}
    (ordered : events.Pairwise fun earlier later => earlier.tick ≤ later.tick)
    (shared : sharedTick? events = some tick) :
    IsLeast {tick | List.Duplicate tick (events.map Event.tick)} tick := by
  fun_induction sharedTick? events with
  | case1 first second rest same =>
      obtain rfl : first.tick = tick := Option.some.inj shared
      refine ⟨List.Mem.duplicate_cons_self (by simp [same]), fun other twice => ?_⟩
      obtain ⟨event, member, rfl⟩ := List.mem_map.mp twice.mem
      rcases List.mem_cons.mp member with rfl | after
      · exact UInt32.le_refl _
      · exact (List.pairwise_cons.mp ordered).1 event after
  | case2 first second rest differ inductionHypothesis =>
      have once := tick_not_mem_of_ne ordered differ
      have tail := inductionHypothesis (List.pairwise_cons.mp ordered).2 shared
      refine ⟨tail.1.duplicate_cons _, fun other twice => tail.2 ?_⟩
      rcases List.duplicate_cons_iff.mp twice with ⟨rfl, member⟩ | twice
      · exact absurd member once
      · exact twice
  | case3 => cases shared

/-- On a sorted list, the first event out of reach is one at tick 0, or the earliest one that the
capture cuts off. -/
theorem tick_of_unreachable?_eq_some {captureTick : UInt32} {event : Event}
    (ordered : events.Pairwise fun earlier later => earlier.tick ≤ later.tick)
    (found : unreachable? captureTick events = some event) :
    event ∈ events ∧ (event.tick = 0 ∨ 0 ∉ events.map Event.tick ∧
      IsLeast {tick | tick ∈ events.map Event.tick ∧ captureTick ≤ tick} event.tick) := by
  obtain ⟨outside, before, after, rfl, reachable⟩ := List.find?_eq_some_iff_append.mp found
  have reachable : ∀ earlier ∈ before, earlier.tick ≠ 0 ∧ ¬ captureTick ≤ earlier.tick := by
    intro earlier member
    simpa using reachable earlier member
  have from_here : ∀ later ∈ event :: after, event.tick ≤ later.tick := by
    intro later member
    rcases List.mem_cons.mp member with rfl | member
    · exact UInt32.le_refl _
    · exact (List.pairwise_cons.mp (List.pairwise_append.mp ordered).2.1).1 later member
  refine ⟨by simp, ?_⟩
  by_cases zero : event.tick = 0
  · exact .inl zero
  · have late : captureTick ≤ event.tick := by simpa [zero] using outside
    refine .inr ⟨fun member => ?_, ⟨by simp, late⟩, ?_⟩
    · obtain ⟨first, member, isZero⟩ := List.mem_map.mp member
      rcases List.mem_append.mp member with earlier | later
      · exact (reachable first earlier).1 isZero
      · have below : event.tick ≤ 0 := isZero ▸ from_here first later
        exact zero (UInt32.le_antisymm below UInt32.zero_le)
    · rintro tick ⟨member, cut⟩
      obtain ⟨other, listed, rfl⟩ := List.mem_map.mp member
      rcases List.mem_append.mp listed with earlier | later
      · exact absurd cut (reachable other earlier).2
      · exact from_here other later

end Sorted

namespace Verdict

variable {events others : List Event} {captureTick laterTick : UInt32}
  {result : Except ScriptError Script} {script : Script}

theorem perm (verdict : Verdict events captureTick result) (same : events.Perm others) :
    Verdict others captureTick result := by
  have ticks := same.map Event.tick
  have twice : ∀ tick, List.Duplicate tick (others.map Event.tick) ↔
      List.Duplicate tick (events.map Event.tick) := by
    intro tick
    rw [List.duplicate_iff_two_le_count, List.duplicate_iff_two_le_count, ticks.count_eq]
  have members : ∀ tick, tick ∈ others.map Event.tick ↔ tick ∈ events.map Event.tick :=
    fun tick => ticks.symm.mem_iff
  cases verdict with
  | shared least => exact .shared (by simpa only [twice] using least)
  | zero distinct member => exact .zero (ticks.nodup_iff.mp distinct) ((members 0).mpr member)
  | late distinct positive least =>
      exact .late (ticks.nodup_iff.mp distinct) (mt (members 0).mp positive)
        (by simpa only [members] using least)
  | accepted distinct between permuted =>
      exact .accepted (ticks.nodup_iff.mp distinct)
        (fun tick member => between tick ((members tick).mp member)) (permuted.trans same)

theorem mono (verdict : Verdict events captureTick (.ok script)) (later : captureTick ≤ laterTick) :
    Verdict events laterTick (.ok script) := by
  cases verdict with
  | accepted distinct between same =>
      refine .accepted distinct (fun tick member => ?_) same
      obtain ⟨positive, below⟩ := between tick member
      exact ⟨positive, Std.lt_of_lt_of_le below later⟩

end Verdict

/-- Two scripts with the same events up to order are the same. -/
theorem eq_of_perm {script other : Script}
    (same : script.events.toList.Perm other.events.toList) : script = other := by
  have listed : script.events.toList = other.events.toList :=
    List.Perm.eq_of_pairwise
      (fun earlier later _ _ below above => absurd above (UInt32.lt_asymm below))
      script.increasing other.increasing same
  rcases script with ⟨⟨events⟩, increasing⟩
  rcases other with ⟨⟨others⟩, otherIncreasing⟩
  subst listed
  rfl

theorem verdict_ofEvents (events : List Event) (captureTick : UInt32) :
    Verdict events captureTick (ofEvents events captureTick) := by
  have ordered := pairwise_le_mergeSort events
  refine Verdict.perm ?_ (List.mergeSort_perm events byTick)
  unfold ofEvents
  split
  · next tick shared => exact .shared (isLeast_of_sharedTick?_eq_some ordered shared)
  · next distinct =>
      have distinct := nodup_of_increasing (pairwise_lt_of_sharedTick?_eq_none ordered distinct)
      split
      · next event found =>
          obtain ⟨member, isZero | ⟨positive, least⟩⟩ := tick_of_unreachable?_eq_some ordered found
          · rw [isZero]
            exact .zero distinct (List.mem_map.mpr ⟨event, member, isZero⟩)
          · exact .late distinct positive least
      · next reachable =>
          refine .accepted distinct (fun tick member => ?_) (.refl _)
          obtain ⟨event, listed, rfl⟩ := List.mem_map.mp member
          exact unreachable?_eq_none_iff.mp reachable event listed

namespace Verdict

variable {events : List Event} {captureTick : UInt32} {result other : Except ScriptError Script}

/-- There is one verdict only. -/
theorem unique (verdict : Verdict events captureTick result)
    (otherVerdict : Verdict events captureTick other) : result = other := by
  have least_unique : ∀ {ticks : Set UInt32} {tick tick' : UInt32},
      IsLeast ticks tick → IsLeast ticks tick' → tick = tick' := fun least least' =>
    UInt32.le_antisymm (least.2 least'.1) (least'.2 least.1)
  cases verdict with
  | shared least =>
      cases otherVerdict with
      | shared least' => rw [least_unique least least']
      | zero distinct | late distinct | accepted distinct =>
          exact absurd distinct least.1.not_nodup
  | zero distinct member =>
      cases otherVerdict with
      | shared least => exact absurd distinct least.1.not_nodup
      | zero => rfl
      | late _ positive => exact absurd member positive
      | accepted _ between => exact absurd (between 0 member).1 (UInt32.lt_irrefl 0)
  | late distinct positive least =>
      cases otherVerdict with
      | shared twice => exact absurd distinct twice.1.not_nodup
      | zero _ member => exact absurd member positive
      | late _ _ least' => rw [least_unique least least']
      | accepted _ between =>
          exact absurd least.1.2 (UInt32.not_le.mpr (between _ least.1.1).2)
  | accepted distinct between same =>
      cases otherVerdict with
      | shared least => exact absurd distinct least.1.not_nodup
      | zero _ member => exact absurd (between 0 member).1 (UInt32.lt_irrefl 0)
      | late _ _ least => exact absurd least.1.2 (UInt32.not_le.mpr (between _ least.1.1).2)
      | accepted _ _ same' => rw [eq_of_perm (same.trans same'.symm)]

end Verdict

theorem ofEvents_eq_iff_verdict {events : List Event} {captureTick : UInt32}
    {result : Except ScriptError Script} :
    ofEvents events captureTick = result ↔ Verdict events captureTick result := by
  have verdict := verdict_ofEvents events captureTick
  exact ⟨fun same => same ▸ verdict, verdict.unique⟩

theorem exists_ofEvents_eq_ok_iff {events : List Event} {captureTick : UInt32} :
    (∃ script, ofEvents events captureTick = .ok script) ↔
      (events.map Event.tick).Nodup ∧
        ∀ tick ∈ events.map Event.tick, 0 < tick ∧ tick < captureTick := by
  constructor
  · rintro ⟨script, accepted⟩
    cases ofEvents_eq_iff_verdict.mp accepted with
    | accepted distinct between => exact ⟨distinct, between⟩
  · rintro ⟨distinct, between⟩
    generalize given : ofEvents events captureTick = result
    cases ofEvents_eq_iff_verdict.mp given with
    | shared least => exact absurd distinct least.1.not_nodup
    | zero _ member => exact absurd (between 0 member).1 (UInt32.lt_irrefl 0)
    | late _ _ least => exact absurd least.1.2 (UInt32.not_le.mpr (between _ least.1.1).2)
    | accepted => exact ⟨_, rfl⟩

/-- Events make a script exactly if their ticks are distinct and lie between 0 and the capture, and
the script is the one way to put them in increasing order. Every other list is refused with its
verdict. The order in which events are given plays no part, the events of a script make it again,
and a later capture accepts it as it is. -/
theorem ofEvents_complete (events : List Event) (captureTick : UInt32) :
    ((∃ script, ofEvents events captureTick = .ok script) ↔
      (events.map Event.tick).Nodup ∧
        ∀ tick ∈ events.map Event.tick, 0 < tick ∧ tick < captureTick) ∧
    (∀ result, ofEvents events captureTick = result ↔ Verdict events captureTick result) ∧
    (∀ others, events.Perm others →
      ofEvents others captureTick = ofEvents events captureTick) ∧
    ∀ script, ofEvents events captureTick = .ok script →
      (∀ others : List Event,
        others.Perm events ∧ others.Pairwise (fun earlier later => earlier.tick < later.tick) ↔
          others = script.events.toList) ∧
      ofEvents script.events.toList captureTick = .ok script ∧
      ∀ laterTick, captureTick ≤ laterTick → ofEvents events laterTick = .ok script := by
  refine ⟨exists_ofEvents_eq_ok_iff, fun result => ofEvents_eq_iff_verdict, ?_, ?_⟩
  · intro others permuted
    exact ofEvents_eq_iff_verdict.mpr ((verdict_ofEvents events captureTick).perm permuted)
  · intro script accepted
    have verdict := ofEvents_eq_iff_verdict.mp accepted
    have same : script.events.toList.Perm events := by
      cases verdict with
      | accepted _ _ same => exact same
    refine ⟨fun others => ⟨?_, ?_⟩, ofEvents_events accepted, fun laterTick later => ?_⟩
    · rintro ⟨permuted, increasing⟩
      let other : Script := ⟨others.toArray, increasing⟩
      have equal : other = script := eq_of_perm (permuted.trans same.symm)
      exact equal ▸ rfl
    · rintro rfl
      exact ⟨same, script.increasing⟩
    · exact ofEvents_eq_iff_verdict.mpr (verdict.mono later)

/-- Both 9 and 7 come twice here, and every tick is out of reach. -/
def tangled : List Event :=
  [⟨9, [], none⟩, ⟨0, [], none⟩, ⟨7, [], none⟩, ⟨9, [], none⟩, ⟨7, [], none⟩]

theorem ofEvents_complete_tangled :
    ofEvents tangled 5 = .error (.duplicateTick 7) ∧
      ofEvents tangled.reverse 5 = .error (.duplicateTick 7) ∧
      ofEvents standard.events.toList.reverse 150 = .ok standard ∧
      ofEvents standard.events.toList.reverse 151 = .ok standard := by
  have refused : ofEvents tangled 5 = .error (.duplicateTick 7) := by
    have occurs : List.Duplicate 7 (tangled.map Event.tick) := by decide
    refine ((ofEvents_complete tangled 5).2.1 _).mpr (.shared ⟨occurs, fun tick twice => ?_⟩)
    have onlyTwo : ∀ tick ∈ tangled.map Event.tick,
        List.Duplicate tick (tangled.map Event.tick) → 7 ≤ tick :=
      List.forall_mem_map.mpr (by decide)
    exact onlyTwo tick twice.mem twice
  have accepted : ofEvents standard.events.toList.reverse 150 = .ok standard :=
    ((ofEvents_complete _ 150).2.1 _).mpr
      (.accepted (by decide) (List.forall_mem_map.mpr (by decide)) (List.reverse_perm _).symm)
  refine ⟨refused, ?_, accepted, ?_⟩
  · exact ((ofEvents_complete tangled 5).2.2.1 _ (List.reverse_perm _).symm).trans refused
  · exact ((ofEvents_complete _ 150).2.2.2 _ accepted).2.2 151 (by decide)

end FrameCycle.Script
