import FrameCycle.Proofs.Script.Accepted

/-!
Looking up a script by ticks. Halving selects the event that going through the list from its front
would select, and the ticks up to the capture, one after the other, give all actions of the script
in the order in which its events are stored.
-/
namespace FrameCycle.Script

/-- Looks for the event with `tick` from the front of the script. -/
def scan? (script : Script) (tick : UInt32) : Option Event :=
  script.events.toList.find? fun event => event.tick = tick

/-- The ways to a script for a capture. The built-in script is not checked; it suits the captures
behind its last event. -/
inductive Issued (captureTick : UInt32) : Script → Prop where
  | events {events : List Event} {script : Script} :
      ofEvents events captureTick = .ok script → Issued captureTick script
  | document {text : List Char} {script : Script} :
      ofDocument text captureTick = .ok script → Issued captureTick script
  | file {files : FileSystem} {path : Path} {script : Script} :
      load files path captureTick = .ok script → Issued captureTick script
  | standard : 101 < captureTick → Issued captureTick standard

variable {script : Script} {tick captureTick : UInt32}

theorem scan?_eq_some_iff {event : Event} :
    script.scan? tick = some event ↔ event ∈ script.events.toList ∧ event.tick = tick := by
  constructor
  · intro found
    exact ⟨List.mem_of_find?_eq_some found, by simpa using List.find?_some found⟩
  · rintro ⟨member, due⟩
    cases found : script.scan? tick with
    | none =>
        have absent := List.find?_eq_none.mp found event member
        exact absurd due (by simpa using absent)
    | some other =>
        -- a tick has one event only, and the look-up by halving tells which
        have otherDue : other.tick = tick := by simpa using List.find?_some found
        have first := find?_eq_some_iff.mpr ⟨List.mem_of_find?_eq_some found, otherDue⟩
        exact first.symm.trans (find?_eq_some_iff.mpr ⟨member, due⟩)

theorem find?_eq_scan? (script : Script) (tick : UInt32) :
    script.find? tick = script.scan? tick := by
  apply Option.ext
  intro event
  rw [find?_eq_some_iff, scan?_eq_some_iff]

theorem actionsAt_eq_scan? (script : Script) (tick : UInt32) :
    script.actionsAt tick = (script.scan? tick).elim [] Event.actions := by
  rw [actionsAt, find?_eq_scan?]
  cases script.scan? tick <;> rfl

theorem labelAt_eq_scan? (script : Script) (tick : UInt32) :
    script.labelAt tick = (script.scan? tick).bind Event.label := by
  rw [labelAt, find?_eq_scan?]

theorem holds_of_ofDocument {text : List Char}
    (loaded : ofDocument text captureTick = .ok script) :
    ∃ events, script.Holds events captureTick := by
  cases parsed : eventsReader.parse text with
  | error error => simp [ofDocument, parsed] at loaded
  | ok events => exact ⟨events, .inr ⟨text, parsed, loaded⟩⟩

/-- Every event of an issued script comes before its capture. -/
theorem Issued.between (issued : script.Issued captureTick) {event : Event}
    (member : event ∈ script.events.toList) :
    0 < event.tick.toNat ∧ event.tick.toNat < captureTick.toNat := by
  cases issued with
  | events accepted => exact Holds.between (.inl accepted) member
  | document loaded =>
      obtain ⟨events, holds⟩ := holds_of_ofDocument loaded
      exact holds.between member
  | @file files path script loaded =>
      unfold load at loaded
      split at loaded
      · cases loaded
      · obtain ⟨events, holds⟩ := holds_of_ofDocument loaded
        exact holds.between member
  | standard late =>
      have early : ∀ event ∈ standardEvents, 0 < event.tick.toNat ∧ event.tick.toNat ≤ 101 := by
        decide
      have last : 101 < captureTick.toNat := late
      have := early event member
      omega

theorem actionsAt_eq_nil (absent : ∀ event ∈ script.events.toList, event.tick ≠ tick) :
    script.actionsAt tick = [] := by
  have none : script.scan? tick = none := by
    apply List.find?_eq_none.mpr
    intro event member
    simpa using absent event member
  rw [actionsAt_eq_scan?, none, Option.elim_none]

/-- The ticks before the capture come by every event once. -/
theorem Issued.flatMap_actionsAt (issued : script.Issued captureTick) :
    (List.range' 1 (captureTick.toNat - 1)).flatMap
        (fun tick => script.actionsAt (.ofNat tick)) =
      script.events.toList.flatMap Event.actions := by
  have small := captureTick.toNat_lt_size
  have looked : ∀ tick ∈ List.range' 1 (captureTick.toNat - 1),
      script.actionsAt (.ofNat tick) = (script.eventsAt tick).flatMap Event.actions := by
    intro tick member
    have := List.mem_range'_1.mp member
    rw [actionsAt_eq, UInt32.toNat_ofNat_of_lt' (by omega)]
  have listed : (List.range' 1 (captureTick.toNat - 1)).flatMap script.eventsAt =
      script.events.toList := by
    refine flatMap_filter_range' script.increasing fun event member => ?_
    have := issued.between member
    omega
  rw [List.flatMap_congr looked, ← List.flatMap_assoc, listed]

/-- Both look-ups select the one event of their tick, which a search from the front selects as well.
The ticks of an issued script before its capture give all its actions in the order of its events,
and no other tick gives any. -/
theorem lookups_scan (script : Script) :
    (∀ tick : UInt32,
      script.actionsAt tick = (script.scan? tick).elim [] Event.actions ∧
      script.labelAt tick = (script.scan? tick).bind Event.label ∧
      ∀ event, script.scan? tick = some event ↔
        event ∈ script.events.toList ∧ event.tick = tick) ∧
    ∀ captureTick, script.Issued captureTick →
      (List.range' 1 (captureTick.toNat - 1)).flatMap
          (fun tick => script.actionsAt (.ofNat tick)) =
        script.events.toList.flatMap Event.actions ∧
      script.actionsAt 0 = [] ∧
      ∀ tick, captureTick ≤ tick → script.actionsAt tick = [] := by
  refine ⟨fun tick => ⟨script.actionsAt_eq_scan? tick, script.labelAt_eq_scan? tick,
    fun event => scan?_eq_some_iff⟩, fun captureTick issued => ?_⟩
  refine ⟨issued.flatMap_actionsAt, actionsAt_eq_nil ?_, fun tick late => actionsAt_eq_nil ?_⟩
  · rintro event member zero
    have positive := (issued.between member).1
    rw [zero] at positive
    exact Nat.lt_irrefl 0 positive
  · rintro event member rfl
    exact absurd (issued.between member).2 (Nat.not_lt.mpr (UInt32.le_iff_toNat_le.mp late))

/-- The built-in script at the standard capture: its last event, and nothing from the capture on. -/
theorem lookups_scan_standard :
    standard.Issued 150 ∧
      standard.actionsAt 101 = [.keyUp .shift, .keyUp .digit6] ∧
      standard.labelAt 101 = some "Arrow down released" ∧
      (List.range' 1 149).flatMap (fun tick => standard.actionsAt (.ofNat tick)) =
        standardEvents.flatMap Event.actions ∧
      standard.actionsAt 150 = [] := by
  obtain ⟨selects, issues⟩ := lookups_scan standard
  obtain ⟨actions, label, -⟩ := selects 101
  have issued : standard.Issued 150 := .standard (by decide)
  obtain ⟨all, -, later⟩ := issues 150 issued
  exact ⟨issued, actions, label, all, later 150 (UInt32.le_refl 150)⟩

end FrameCycle.Script
