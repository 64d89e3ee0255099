import FrameCycle.Script.Basic

/-!
Halving finds an event of a script exactly where a search through all events would.
-/
namespace FrameCycle.Script

theorem search_eq_some {events : Array Event} {tick : UInt32} {low high : Nat} {event : Event}
    (found : search events tick low high = some event) :
    event ∈ events.toList ∧ event.tick = tick := by
  fun_induction search events tick low high with
  | case1 => cases found
  | case2 low high inside middle reached same =>
      cases found
      exact ⟨Array.mem_toList_iff.mpr (Array.mem_of_getElem? reached), same⟩
  | case3 low high inside middle reached differ below inductionHypothesis =>
      exact inductionHypothesis found
  | case4 low high inside middle reached differ above inductionHypothesis =>
      exact inductionHypothesis found
  | case5 => cases found

/-- Events further on have greater ticks, so a tick tells on which side of the middle its event
is. -/
theorem search_of_getElem? {events : Array Event}
    (increasing : events.toList.Pairwise fun earlier later => earlier.tick < later.tick)
    {index low high : Nat} {event : Event} (place : events[index]? = some event)
    (above : low ≤ index) (below : index < high) (bounded : high ≤ events.size) :
    search events event.tick low high = some event := by
  have ordered : ∀ {first second : Nat} {earlier later : Event}, events[first]? = some earlier →
      events[second]? = some later → first < second → earlier.tick < later.tick := by
    intro first second earlier later firstPlace secondPlace before
    obtain ⟨firstBound, rfl⟩ := Array.getElem?_eq_some_iff.mp firstPlace
    obtain ⟨secondBound, rfl⟩ := Array.getElem?_eq_some_iff.mp secondPlace
    exact List.pairwise_iff_getElem.mp increasing first second firstBound secondBound before
  generalize sought : event.tick = tick
  fun_induction search events tick low high with
  | case1 low high inside outside =>
      have := Array.getElem?_eq_none_iff.mp outside
      omega
  | case2 low high inside middle reached same =>
      rcases Nat.lt_trichotomy index ((low + high) / 2) with before | equal | after
      · have := ordered place reached before
        exact absurd (sought.trans same.symm) (UInt32.ne_of_lt this)
      · rw [← place, ← reached, equal]
      · have := ordered reached place after
        exact absurd (same.trans sought.symm) (UInt32.ne_of_lt this)
  | case3 low high inside middle reached differ less inductionHypothesis =>
      rcases Nat.lt_trichotomy index ((low + high) / 2) with before | equal | after
      · have := ordered place reached before
        exact absurd (sought ▸ this) (UInt32.lt_asymm less)
      · rw [equal, reached] at place
        cases place
        exact absurd sought differ
      · exact inductionHypothesis after below bounded
  | case4 low high inside middle reached differ notLess inductionHypothesis =>
      rcases Nat.lt_trichotomy index ((low + high) / 2) with before | equal | after
      · exact inductionHypothesis above before (by omega)
      · rw [equal, reached] at place
        cases place
        exact absurd sought differ
      · exact absurd (sought ▸ ordered reached place after) notLess
  | case5 low high outside => omega

theorem find?_eq_some_iff {script : Script} {tick : UInt32} {event : Event} :
    script.find? tick = some event ↔ event ∈ script.events.toList ∧ event.tick = tick := by
  constructor
  · exact search_eq_some
  · rintro ⟨member, rfl⟩
    obtain ⟨index, bound, reached⟩ := Array.mem_iff_getElem.mp (Array.mem_toList_iff.mp member)
    exact search_of_getElem? script.increasing (Array.getElem?_eq_some_iff.mpr ⟨bound, reached⟩)
      (Nat.zero_le index) bound (Nat.le_refl _)

/-- The events of one tick: none, or one. -/
def eventsAt (script : Script) (tick : Nat) : List Event :=
  script.events.toList.filter fun event => event.tick.toNat = tick

theorem eventsAt_toNat (script : Script) (tick : UInt32) :
    script.eventsAt tick.toNat = (script.find? tick).toList := by
  have atTick : ∀ event ∈ script.eventsAt tick.toNat,
      event ∈ script.events.toList ∧ event.tick = tick := by
    intro event member
    simpa [eventsAt, UInt32.toNat_inj] using member
  have increasing := script.increasing.filter fun event => event.tick.toNat = tick.toNat
  change (script.eventsAt tick.toNat).Pairwise _ at increasing
  cases found : script.find? tick with
  | none =>
      apply List.eq_nil_iff_forall_not_mem.mpr
      intro event member
      rw [find?_eq_some_iff.mpr (atTick event member)] at found
      cases found
  | some event =>
      have held := find?_eq_some_iff.mp found
      have member : event ∈ script.eventsAt tick.toNat := by
        simp [eventsAt, held.1, held.2]
      match listed : script.eventsAt tick.toNat with
      | [] => simp [listed] at member
      | [only] =>
          rw [listed] at member
          rw [List.mem_singleton.mp member]
          rfl
      | first :: second :: rest =>
          rw [listed] at atTick increasing
          have before := (List.pairwise_cons.mp increasing).1 second List.mem_cons_self
          have firstAt := (atTick first List.mem_cons_self).2
          have secondAt := (atTick second (List.mem_cons_of_mem _ List.mem_cons_self)).2
          exact absurd (firstAt.trans secondAt.symm) (UInt32.ne_of_lt before)

theorem actionsAt_eq (script : Script) (tick : UInt32) :
    script.actionsAt tick = (script.eventsAt tick.toNat).flatMap Event.actions := by
  rw [eventsAt_toNat, actionsAt]
  cases script.find? tick <;> simp

theorem labelAt_eq (script : Script) (tick : UInt32) :
    (script.labelAt tick).toList = (script.eventsAt tick.toNat).filterMap Event.label := by
  rw [eventsAt_toNat, labelAt]
  cases script.find? tick with
  | none => rfl
  | some event => cases labelled : event.label <;> simp [labelled]

end FrameCycle.Script
