import FrameCycle.Proofs.Geometry

/-!
What the check of the geometry comes to, read off the sides of its frames. It stops at the first
product that does not fit or the first side that differs, and once both sides agree there is nothing
left to compare: the number of pixels follows from them, and not the other way round.
-/
namespace FrameCycle

/-- How the check ends on these sides, the width first. -/
inductive Frame.Decision (source target : Frame) (factor : UInt32) : Except Stop Unit → Prop where
  | wide : UInt32.size ≤ source.width.toNat * factor.toNat →
      Decision source target factor (.error (.fault .mulOverflow))
  | otherWidth : source.width.toNat * factor.toNat < UInt32.size →
      target.width.toNat ≠ source.width.toNat * factor.toNat →
      Decision source target factor (source.missized target factor)
  | tall : target.width.toNat = source.width.toNat * factor.toNat →
      UInt32.size ≤ source.height.toNat * factor.toNat →
      Decision source target factor (.error (.fault .mulOverflow))
  | otherHeight : target.width.toNat = source.width.toNat * factor.toNat →
      source.height.toNat * factor.toNat < UInt32.size →
      target.height.toNat ≠ source.height.toNat * factor.toNat →
      Decision source target factor (source.missized target factor)
  | right : target.width.toNat = source.width.toNat * factor.toNat →
      target.height.toNat = source.height.toNat * factor.toNat →
      Decision source target factor (.ok ())

open Checked in
/-- The check without its last comparison, that of the numbers of pixels. -/
def ensureSides (source target : Frame) (factor : UInt32) : Except Stop Unit := do
  let square ← Stop.ofFault (mul32 factor factor)
  let expected ← Stop.ofFault (mulSize source.length square.toNat)
  let refused : Stop := .error (.bufferSize expected target.length)
  let width ← Stop.ofFault (mul32 source.width factor)
  if target.width ≠ width then throw refused
  let height ← Stop.ofFault (mul32 source.height factor)
  if target.height ≠ height then throw refused

section

variable {source target : Frame} {factor : UInt32}

/-- Frames with the right sides have the right number of pixels. -/
theorem length_of_sides (width : target.width.toNat = source.width.toNat * factor.toNat)
    (height : target.height.toNat = source.height.toNat * factor.toNat) :
    target.length = source.length * (factor.toNat * factor.toNat) := by
  rw [Frame.length_eq, Frame.length_eq, width, height]
  ring

theorem Checked.mulSize_eq_ok {a b c : Nat} (product : mulSize a b = .ok c) : c = a * b := by
  unfold mulSize at product
  split at product
  · cases product
    rfl
  · cases product

theorem Stop.bind_congr {α β : Type} {first : Except Fault α} {next other : α → Except Stop β}
    (same : ∀ value, first = .ok value → next value = other value) :
    (Stop.ofFault first >>= next) = (Stop.ofFault first >>= other) := by
  cases first with
  | error fault => rfl
  | ok value => exact same value rfl

/-- Where the last comparison is reached, it finds what the sides have settled already. -/
theorem ensureTargetSize_eq_ensureSides (source target : Frame) (factor : UInt32) :
    ensureTargetSize source target factor = ensureSides source target factor := by
  unfold ensureTargetSize ensureSides
  refine Stop.bind_congr fun square squared => Stop.bind_congr fun expected counted =>
    Stop.bind_congr fun width wide => ?_
  by_cases sameWidth : target.width = width
  · simp only [ne_eq, sameWidth, not_true_eq_false, if_false]
    refine Stop.bind_congr fun height tall => ?_
    have length : target.height = height → target.length = expected := by
      rintro rfl
      rw [Checked.mulSize_eq_ok counted, Checked.mul32_eq_ok squared]
      exact length_of_sides (sameWidth ▸ Checked.mul32_eq_ok wide) (Checked.mul32_eq_ok tall)
    have redundant : (¬ target.height = height ∨ ¬ target.length = expected) ↔
        ¬ target.height = height :=
      ⟨fun refused same => refused.elim (· same) (· (length same)), .inl⟩
    simp only [redundant]
  · simp only [ne_eq, sameWidth, not_false_eq_true, if_true]
    rfl

theorem check_eq_iff_decision (square : factor.toNat * factor.toNat < UInt32.size)
    (count : source.length * (factor.toNat * factor.toNat) < Checked.sizeLimit)
    (result : Except Stop Unit) :
    ensureTargetSize source target factor = result ↔ source.Decision target factor result := by
  rw [ensureTargetSize_eq, if_neg (Nat.not_le.mpr square), if_neg (Nat.not_le.mpr count)]
  constructor
  · rintro rfl
    split_ifs with wide width tall height
    · exact .wide wide
    · exact .otherWidth (Nat.lt_of_not_le wide) width
    · exact .tall (not_not.mp width) tall
    · exact .otherHeight (not_not.mp width) (Nat.lt_of_not_le tall) height
    · exact .right (not_not.mp width) (not_not.mp height)
  · have narrow : target.width.toNat = source.width.toNat * factor.toNat →
        ¬ UInt32.size ≤ source.width.toNat * factor.toNat :=
      fun width => Nat.not_le.mpr (width ▸ target.width.toNat_lt_size)
    have low : target.height.toNat = source.height.toNat * factor.toNat →
        ¬ UInt32.size ≤ source.height.toNat * factor.toNat :=
      fun height => Nat.not_le.mpr (height ▸ target.height.toNat_lt_size)
    intro decision
    cases decision with
    | wide wide => rw [if_pos wide]
    | otherWidth fits width => rw [if_neg (Nat.not_le.mpr fits), if_pos width]
    | tall width tall => rw [if_neg (narrow width), if_neg (not_not.mpr width), if_pos tall]
    | otherHeight width fits height =>
        rw [if_neg (narrow width), if_neg (not_not.mpr width), if_neg (Nat.not_le.mpr fits),
          if_pos height]
    | right width height =>
        rw [if_neg (narrow width), if_neg (not_not.mpr width), if_neg (low height),
          if_neg (not_not.mpr height)]

theorem Frame.missized_eq (source target : Frame) (factor : UInt32) :
    source.missized target factor = .error (.error (.bufferSize
      (source.width.toNat * source.height.toNat * factor.toNat * factor.toNat)
      (target.width.toNat * target.height.toNat))) := by
  rw [missized, length_eq, length_eq, Nat.mul_assoc _ factor.toNat]

theorem Frame.Decision.numbers {expected found : Nat} (decision : source.Decision target factor
    (.error (.error (.bufferSize expected found)))) :
    expected = source.width.toNat * source.height.toNat * factor.toNat * factor.toNat ∧
      found = target.width.toNat * target.height.toNat := by
  generalize refused : (.error (.error (.bufferSize expected found)) : Except Stop Unit) = result
    at decision
  cases decision with
  | wide | tall | right => cases refused
  | otherWidth | otherHeight =>
      rw [Frame.missized_eq] at refused
      cases refused
      exact ⟨rfl, rfl⟩

/-- A target that lies on its side has as many pixels as the right one, and is refused. -/
theorem check_of_transposed (square : factor.toNat * factor.toNat < UInt32.size)
    (count : source.length * (factor.toNat * factor.toNat) < Checked.sizeLimit)
    (sides : source.width ≠ source.height) (positive : 0 < factor)
    (width : target.width.toNat = source.height.toNat * factor.toNat)
    (height : target.height.toNat = source.width.toNat * factor.toNat) :
    target.length = source.length * (factor.toNat * factor.toNat) ∧
      ensureTargetSize source target factor =
        .error (.error (.bufferSize target.length target.length)) := by
  have length : target.length = source.length * (factor.toNat * factor.toNat) := by
    rw [Frame.length_eq, Frame.length_eq, width, height]
    ring
  have fits : source.width.toNat * factor.toNat < UInt32.size := height ▸ target.height.toNat_lt_size
  have other : target.width.toNat ≠ source.width.toNat * factor.toNat := by
    rw [width]
    intro same
    exact sides (UInt32.toNat_inj.mp (Nat.eq_of_mul_eq_mul_right positive same.symm))
  refine ⟨length, ?_⟩
  rw [(check_eq_iff_decision square count _).mpr (.otherWidth fits other), Frame.missized, length]

end

/-- As long as the square of the factor and the number of pixels fit, the sides decide alone, the
width before the height, and the comparison of the numbers of pixels never does. A refusal tells both
numbers, and they can be the same: a target that lies on its side is refused. -/
theorem sides_decide_geometry (source target : Frame) (factor : UInt32)
    (square : factor.toNat * factor.toNat < UInt32.size)
    (count : source.length * (factor.toNat * factor.toNat) < Checked.sizeLimit) :
    (∀ result, ensureTargetSize source target factor = result ↔
      source.Decision target factor result) ∧
    (∀ expected found,
      ensureTargetSize source target factor = .error (.error (.bufferSize expected found)) →
      expected = source.width.toNat * source.height.toNat * factor.toNat * factor.toNat ∧
        found = target.width.toNat * target.height.toNat) ∧
    ensureTargetSize source target factor = ensureSides source target factor ∧
    (source.width ≠ source.height → 0 < factor →
      target.width.toNat = source.height.toNat * factor.toNat →
      target.height.toNat = source.width.toNat * factor.toNat →
      target.length = source.length * (factor.toNat * factor.toNat) ∧
        ensureTargetSize source target factor =
          .error (.error (.bufferSize target.length target.length))) := by
  refine ⟨check_eq_iff_decision square count, fun expected found refused => ?_,
    ensureTargetSize_eq_ensureSides source target factor, check_of_transposed square count⟩
  exact ((check_eq_iff_decision square count _).mp refused).numbers

/-- Frames as they are made: an enlargement of the display's size is accepted, one that lies on its
side is refused with the very number of pixels that was asked for, and a display too wide for the
factor is a fault whatever the target is. -/
theorem sides_decide_geometry_made :
    (∃ source right transposed, Frame.blank 4 3 = .ok source ∧ Frame.scaled 4 3 2 = .ok right ∧
      Frame.scaled 3 4 2 = .ok transposed ∧ ensureTargetSize source right 2 = .ok () ∧
      ensureTargetSize source transposed 2 = .error (.error (.bufferSize 48 48))) ∧
    ∃ source target, Frame.blank 0x80000000 0 = .ok source ∧ Frame.scaled 3 4 2 = .ok target ∧
      ensureTargetSize source target 2 = .error (.fault .mulOverflow) := by
  refine ⟨⟨.zeros 4 3, .zeros 8 6, .zeros 6 8, rfl, rfl, rfl, ?_, ?_⟩,
    .zeros 0x80000000 0, .zeros 6 8, rfl, rfl, ?_⟩
  · obtain ⟨decided, -⟩ := sides_decide_geometry (.zeros 4 3) (.zeros 8 6) 2 (by decide) (by decide)
    exact (decided _).mpr (.right rfl rfl)
  · obtain ⟨-, -, -, transposed⟩ :=
      sides_decide_geometry (.zeros 4 3) (.zeros 6 8) 2 (by decide) (by decide)
    exact (transposed (by decide) (by decide) rfl rfl).2
  · obtain ⟨decided, -⟩ :=
      sides_decide_geometry (.zeros 0x80000000 0) (.zeros 6 8) 2 (by decide) (by decide)
    exact (decided _).mpr (.wide (by decide))

end FrameCycle
