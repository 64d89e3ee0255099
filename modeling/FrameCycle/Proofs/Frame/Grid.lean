import FrameCycle.Proofs.Cycle.Start

/-!
Which frames there is room for, and which grids can be painted. A grid is painted pixel by pixel
through 32-bit indices, so the greatest of them decides: it is the pixel in the last corner.
-/
namespace FrameCycle.Frame

theorem exists_blank_iff (width height : UInt32) :
    (∃ frame, blank width height = .ok frame) ↔
      bytesPerPixel * (width.toNat * height.toNat) ≤ byteLimit := by
  unfold blank area
  split
  · next fits => simp [fits]
  · next large => simp [large]

theorem exists_scaled_iff (width height factor : UInt32) :
    (∃ frame, scaled width height factor = .ok frame) ↔
      width.toNat * factor.toNat < UInt32.size ∧ height.toNat * factor.toNat < UInt32.size ∧
        bytesPerPixel * (width.toNat * factor.toNat * (height.toNat * factor.toNat)) ≤
          byteLimit := by
  unfold scaled Checked.mul32
  by_cases wide : width.toNat * factor.toNat < UInt32.size
  · by_cases tall : height.toNat * factor.toNat < UInt32.size
    · simp only [wide, tall, ↓reduceIte, bind, Except.bind, exists_blank_iff, true_and,
        UInt32.toNat_mul, Nat.mod_eq_of_lt wide, Nat.mod_eq_of_lt tall]
    · simp [wide, tall, bind, Except.bind]
  · simp [wide, bind, Except.bind]

theorem exists_index_iff (frame : Frame) (x y : UInt32) :
    (∃ place, frame.index x y = .ok place) ↔
      y.toNat * frame.width.toNat + x.toNat < UInt32.size := by
  unfold index Checked.mul32
  by_cases fits : y.toNat * frame.width.toNat < UInt32.size
  · simp only [if_pos fits, bind, Except.bind, Checked.add32, UInt32.toNat_mul,
      Nat.mod_eq_of_lt fits]
    split
    · next found => simp [found]
    · next large => simp [large]
  · simp only [if_neg fits, bind, Except.bind, reduceCtorEq, exists_false, false_iff]
    omega

/-- Rows fill an area one behind the other. -/
theorem index_lt_area {width height column row : Nat} (before : column < width)
    (inside : row < height) : row * width + column < width * height := by
  have rows : (row + 1) * width ≤ height * width := Nat.mul_le_mul_right _ inside
  rw [Nat.succ_mul, Nat.mul_comm height] at rows
  omega

/-- Inside the frame a pixel is out of reach only of its index. -/
theorem exists_setPixel_iff {frame : Frame} {x y : UInt32} (value : UInt32)
    (column : x.toNat < frame.width.toNat) (row : y.toNat < frame.height.toNat) :
    (∃ painted, frame.setPixel x y value = .ok painted) ↔
      y.toNat * frame.width.toNat + x.toNat < UInt32.size := by
  rw [← exists_index_iff]
  unfold setPixel
  cases found : frame.index x y with
  | error fault => simp
  | ok place =>
      have inside : place.toNat < frame.pixels.size := by
        rw [frame.size_pixels, index_eq_ok found]
        exact index_lt_area column row
      simp [inside]

theorem toNat_succ_of_lt {x limit : UInt32} (below : x.toNat < limit.toNat) :
    (x + 1).toNat = x.toNat + 1 :=
  (Checked.add32_one (Nat.lt_of_le_of_lt below limit.toNat_lt_size)).2

/-- A row can be painted if every index that it takes fits. -/
theorem exists_paintRow_iff {y : UInt32} {count : Nat} {x : UInt32} {frame : Frame}
    (columns : x.toNat + count ≤ frame.width.toNat) (row : y.toNat < frame.height.toNat) :
    (∃ painted, paintRow y count x frame = .ok painted) ↔
      ∀ passed < count, y.toNat * frame.width.toNat + (x.toNat + passed) < UInt32.size := by
  induction count generalizing x frame with
  | zero => simp [paintRow]
  | succ count inductionHypothesis =>
      have column : x.toNat < frame.width.toNat := by omega
      have here := exists_setPixel_iff (gridPixel x y) column row
      simp only [Nat.forall_lt_succ_left, Nat.add_zero, ← here]
      unfold paintRow
      cases set : frame.setPixel x y (gridPixel x y) with
      | error fault => simp
      | ok after =>
          obtain ⟨width, height⟩ := setPixel_eq_ok set
          have next : (x + 1).toNat = x.toNat + 1 := toNat_succ_of_lt column
          rw [inductionHypothesis (by rw [width]; omega) (height ▸ row), width, next]
          simp [Nat.add_assoc, Nat.add_comm 1]

/-- Rows can be painted if every index that they take fits. -/
theorem exists_paintRows_iff {count : Nat} {y : UInt32} {frame : Frame}
    (rows : y.toNat + count ≤ frame.height.toNat) :
    (∃ painted, paintRows frame.width.toNat count y frame = .ok painted) ↔
      ∀ passed < count, ∀ column < frame.width.toNat,
        (y.toNat + passed) * frame.width.toNat + column < UInt32.size := by
  induction count generalizing y frame with
  | zero => simp [paintRows]
  | succ count inductionHypothesis =>
      have row : y.toNat < frame.height.toNat := by omega
      have columns : (0 : UInt32).toNat + frame.width.toNat ≤ frame.width.toNat := by simp
      have here := exists_paintRow_iff columns row
      simp only [UInt32.toNat_zero, Nat.zero_add] at here
      simp only [Nat.forall_lt_succ_left, Nat.add_zero, ← here]
      unfold paintRows
      cases painted : paintRow y frame.width.toNat 0 frame with
      | error fault => simp
      | ok after =>
          obtain ⟨width, height⟩ := paintRow_eq_ok painted
          have next : (y + 1).toNat = y.toNat + 1 := toNat_succ_of_lt row
          have below : (y + 1).toNat + count ≤ after.height.toNat := by
            rw [height]
            omega
          have rest := inductionHypothesis below
          rw [width, next] at rest
          simp only [rest]
          simp [Nat.add_assoc, Nat.add_comm 1]

/-- The greatest index is that of the last corner, and one more is the number of pixels. -/
theorem forall_index_lt_iff {width height limit : Nat} :
    (∀ row < height, ∀ column < width, row * width + column < limit) ↔
      width * height ≤ limit := by
  constructor
  · intro below
    rcases height with _ | row
    · simp
    · rcases width with _ | column
      · simp
      · have corner := below row (Nat.lt_succ_self row) column (Nat.lt_succ_self column)
        rw [Nat.mul_succ, Nat.mul_comm]
        omega
  · intro fits row inside column before
    exact (index_lt_area before inside).trans_le fits

theorem exists_grid_iff (width height : UInt32) :
    (∃ frame, grid width height = .ok frame) ↔ width.toNat * height.toNat ≤ UInt32.size := by
  unfold grid
  cases cleared : blank width height with
  | error fault =>
      -- there is room for every frame whose indices fit
      have large : ¬ width.toNat * height.toNat ≤ UInt32.size := by
        intro fits
        have room : bytesPerPixel * UInt32.size ≤ byteLimit := by decide
        obtain ⟨frame, made⟩ := (exists_blank_iff width height).mpr
          ((Nat.mul_le_mul_left bytesPerPixel fits).trans room)
        cases cleared.symm.trans made
      simp [large, bind, Except.bind]
  | ok frame =>
      cases blank_eq_ok cleared
      have rows : (0 : UInt32).toNat + height.toNat ≤ (zeros width height).height.toNat := by
        simp [zeros]
      have painted := exists_paintRows_iff rows
      simp only [UInt32.toNat_zero, Nat.zero_add, forall_index_lt_iff] at painted
      exact painted

end FrameCycle.Frame
