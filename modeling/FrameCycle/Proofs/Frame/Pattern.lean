import FrameCycle.Frame.Bytes
import FrameCycle.Proofs.Frame.Access
import Mathlib.Data.Nat.Count

/-!
What a painted grid shows. Painting sets pixel after pixel, and as no two of them share a place, each
keeps the colour that it was given. How many lie on lines is counted by the others: they are the
pixels whose column and row both lie between lines.
-/
namespace FrameCycle.Frame

/-- The colour of a grid, by column and row: opaque black on its lines, and nothing between. -/
def ruled (column row : Nat) : UInt32 :=
  if 8 ∣ column ∨ 8 ∣ row then Pixel.ofBytes 0 0 0 255 else Pixel.ofBytes 0 0 0 0

theorem gridPixel_eq_ruled (x y : UInt32) : gridPixel x y = ruled x.toNat y.toNat := by
  have onLine : ∀ at' : UInt32, at' % gridSpacing = 0 ↔ 8 ∣ at'.toNat := by
    intro at'
    rw [← UInt32.toNat_inj, UInt32.toNat_mod, Nat.dvd_iff_mod_eq_zero]
    rfl
  simp only [gridPixel, ruled, onLine]
  rfl

/-- Painting a stretch of a row shows on that stretch, and nowhere else. -/
theorem pixel_paintRow {y : UInt32} {count : Nat} {x : UInt32} {frame painted : Frame}
    (columns : x.toNat + count ≤ frame.width.toNat)
    (done : paintRow y count x frame = .ok painted) {x' : UInt32}
    (column : x'.toNat < frame.width.toNat) (y' : UInt32) :
    painted.pixel x' y' =
      if y' = y ∧ x.toNat ≤ x'.toNat ∧ x'.toNat < x.toNat + count then .ok (gridPixel x' y')
      else frame.pixel x' y' := by
  induction count generalizing x frame with
  | zero =>
      cases done
      rw [if_neg]
      omega
  | succ count inductionHypothesis =>
      unfold paintRow at done
      cases set : frame.setPixel x y (gridPixel x y) with
      | error fault => simp [set] at done
      | ok after =>
          simp only [set] at done
          obtain ⟨width, -⟩ := setPixel_eq_ok set
          have here : x.toNat < frame.width.toNat := by omega
          have next : (x + 1).toNat = x.toNat + 1 := toNat_succ_of_lt here
          have read : after.pixel x' y' =
              if x' = x ∧ y' = y then .ok (gridPixel x y) else frame.pixel x' y' := by
            rw [pixel_setPixel set]
            simp only [place_inj column here]
          rw [inductionHypothesis (by rw [width]; omega) done (by rw [width]; exact column), read, next]
          by_cases now : x' = x ∧ y' = y
          · obtain ⟨rfl, rfl⟩ := now
            rw [if_pos (show x' = x' ∧ y' = y' from ⟨rfl, rfl⟩), ite_self, if_pos (by simp)]
          · have later : (y' = y ∧ x.toNat + 1 ≤ x'.toNat ∧ x'.toNat < x.toNat + 1 + count) ↔
                y' = y ∧ x.toNat ≤ x'.toNat ∧ x'.toNat < x.toNat + (count + 1) := by
              simp only [← UInt32.toNat_inj] at now ⊢
              omega
            simp only [if_neg now, later]

theorem pixel_paintRows {count : Nat} {y : UInt32} {frame painted : Frame}
    (rows : y.toNat + count ≤ frame.height.toNat)
    (done : paintRows frame.width.toNat count y frame = .ok painted) {x' : UInt32}
    (column : x'.toNat < frame.width.toNat) (y' : UInt32) :
    painted.pixel x' y' =
      if y.toNat ≤ y'.toNat ∧ y'.toNat < y.toNat + count then .ok (gridPixel x' y')
      else frame.pixel x' y' := by
  induction count generalizing y frame with
  | zero =>
      cases done
      rw [if_neg]
      omega
  | succ count inductionHypothesis =>
      unfold paintRows at done
      cases row : paintRow y frame.width.toNat 0 frame with
      | error fault => simp [row] at done
      | ok after =>
          simp only [row] at done
          obtain ⟨width, height⟩ := paintRow_eq_ok row
          have here : y.toNat < frame.height.toNat := by omega
          have next : (y + 1).toNat = y.toNat + 1 := toNat_succ_of_lt here
          rw [← width] at done
          have read : after.pixel x' y' =
              if y' = y then .ok (gridPixel x' y') else frame.pixel x' y' := by
            simpa [column] using pixel_paintRow (by simp) row column y'
          rw [inductionHypothesis (by rw [height]; omega) done (by rw [width]; exact column), read, next]
          by_cases now : y' = y
          · subst now
            rw [if_pos (show y' = y' from rfl), ite_self, if_pos (by simp)]
          · have later : (y.toNat + 1 ≤ y'.toNat ∧ y'.toNat < y.toNat + 1 + count) ↔
                y.toNat ≤ y'.toNat ∧ y'.toNat < y.toNat + (count + 1) := by
              rw [← UInt32.toNat_inj] at now
              omega
            simp only [if_neg now, later]

theorem pixel_grid {width height : UInt32} {frame : Frame}
    (made : grid width height = .ok frame) {x y : UInt32} (column : x < width)
    (row : y < height) : frame.pixel x y = .ok (ruled x.toNat y.toNat) := by
  unfold grid at made
  cases cleared : blank width height with
  | error fault => simp [cleared, bind, Except.bind] at made
  | ok clear =>
      simp only [cleared, bind, Except.bind] at made
      cases blank_eq_ok cleared
      have rows : (0 : UInt32).toNat + height.toNat ≤ (zeros width height).height.toNat := by
        simp [zeros]
      have painted : (0 : UInt32).toNat ≤ y.toNat ∧
          y.toNat < (0 : UInt32).toNat + height.toNat := by
        simpa using UInt32.lt_iff_toNat_lt.mp row
      rw [pixel_paintRows rows made (UInt32.lt_iff_toNat_lt.mp column) y, if_pos painted,
        gridPixel_eq_ruled]

/-- A frame whose pixels are known by their coordinates, in the order of their places. -/
theorem toList_of_pixel {frame : Frame} {colour : Nat → Nat → UInt32}
    (shown : ∀ x y, x < frame.width → y < frame.height →
      frame.pixel x y = .ok (colour x.toNat y.toNat)) :
    frame.pixels.toList = (List.range (frame.width.toNat * frame.height.toNat)).map
      fun index => colour (index % frame.width.toNat) (index / frame.width.toNat) := by
  apply List.ext_getElem
  · simp [frame.size_pixels]
  · intro index inside _
    rw [Array.length_toList, frame.size_pixels] at inside
    have positive : 0 < frame.width.toNat :=
      Nat.pos_of_mul_pos_right (Nat.zero_lt_of_lt inside)
    have column := Nat.mod_lt index positive
    have row : index / frame.width.toNat < frame.height.toNat := Nat.div_lt_of_lt_mul inside
    obtain ⟨x, x_eq⟩ := exists_toNat_eq column
    obtain ⟨y, y_eq⟩ := exists_toNat_eq row
    rw [← x_eq] at column
    rw [← y_eq] at row
    obtain ⟨-, held⟩ := pixel_eq_ok_iff.mp (shown x y column row)
    rw [place, x_eq, y_eq, Nat.div_add_mod'] at held
    simpa using (Array.getElem?_eq_some_iff.mp held).2

theorem count_eight_dvd (count : Nat) : Nat.count (8 ∣ ·) count = (count + 7) / 8 := by
  induction count with
  | zero => simp
  | succ count inductionHypothesis =>
      rw [Nat.count_succ, inductionHypothesis]
      split <;> omega

theorem count_not_eight_dvd (count : Nat) :
    Nat.count (fun number => ¬ 8 ∣ number) count = count - (count + 7) / 8 := by
  have parts : (List.range count).length = _ :=
    List.length_eq_countP_add_countP fun number => decide (8 ∣ number)
  have dividing := count_eight_dvd count
  simp only [Nat.count, List.length_range, decide_eq_true_eq] at parts dividing ⊢
  omega

/-- Numbers below an area are told by their column and their row, each by itself. -/
theorem count_column_row (columns rows : Nat → Prop) [DecidablePred columns] [DecidablePred rows]
    (width height : Nat) :
    Nat.count (fun index => columns (index % width) ∧ rows (index / width)) (width * height) =
      Nat.count columns width * Nat.count rows height := by
  induction height with
  | zero => simp
  | succ height inductionHypothesis =>
      have coordinates : ∀ column < width, (width * height + column) % width = column ∧
          (width * height + column) / width = height := by
        intro column before
        rw [Nat.mul_add_mod, Nat.mod_eq_of_lt before, Nat.mul_add_div (Nat.zero_lt_of_lt before),
          Nat.div_eq_of_lt before]
        exact ⟨rfl, rfl⟩
      have row : Nat.count (fun column => columns ((width * height + column) % width) ∧
          rows ((width * height + column) / width)) width =
            Nat.count (fun column => columns column ∧ rows height) width := by
        apply List.countP_congr
        intro column member
        obtain ⟨column_eq, row_eq⟩ := coordinates column (List.mem_range.mp member)
        simp only [column_eq, row_eq]
      rw [Nat.mul_succ, Nat.count_add, inductionHypothesis, row, Nat.count_succ, Nat.mul_add]
      by_cases chosen : rows height <;> simp [chosen]

theorem ruled_eq_line_iff {column row : Nat} :
    ruled column row = Pixel.ofBytes 0 0 0 255 ↔ 8 ∣ column ∨ 8 ∣ row := by
  unfold ruled
  split
  · next onLine => simp [onLine]
  · next between =>
      simp only [between, iff_false]
      decide

theorem count_ruled (width height : Nat) :
    ((List.range (width * height)).map fun index =>
      ruled (index % width) (index / width)).count (Pixel.ofBytes 0 0 0 255) =
        width * height - (width - (width + 7) / 8) * (height - (height + 7) / 8) := by
  have parts : (List.range (width * height)).length = _ :=
    List.length_eq_countP_add_countP fun index =>
      ruled (index % width) (index / width) == Pixel.ofBytes 0 0 0 255
  have between : (List.range (width * height)).countP (fun index =>
      decide ¬ (ruled (index % width) (index / width) == Pixel.ofBytes 0 0 0 255) = true) =
        (width - (width + 7) / 8) * (height - (height + 7) / 8) := by
    rw [← count_not_eight_dvd, ← count_not_eight_dvd, ← count_column_row]
    apply List.countP_congr
    intro index _
    simp [ruled_eq_line_iff]
  rw [List.length_range, between] at parts
  rw [List.count_eq_countP, List.countP_map]
  exact Nat.eq_sub_of_add_eq parts.symm

/-- All of `part` is the upper left corner of `whole`. -/
structure Corner (part whole : Frame) : Prop where
  width_le : part.width ≤ whole.width
  height_le : part.height ≤ whole.height
  pixel_eq : ∀ x < part.width, ∀ y < part.height, part.pixel x y = whole.pixel x y

theorem corner_of_grid {width height width' height' : UInt32} {part whole : Frame}
    (made : grid width height = .ok whole) (madePart : grid width' height' = .ok part)
    (narrower : width' ≤ width) (lower : height' ≤ height) : part.Corner whole := by
  obtain ⟨rfl, rfl⟩ := grid_eq_ok made
  obtain ⟨rfl, rfl⟩ := grid_eq_ok madePart
  refine ⟨narrower, lower, fun x column y row => ?_⟩
  rw [pixel_grid madePart column row, pixel_grid made (UInt32.lt_of_lt_of_le column narrower)
    (UInt32.lt_of_lt_of_le row lower)]

/-- A grid with more pixels than there are indices cannot be painted. Every other one can: its lines
run along every eighth column and row and are opaque black, all else is transparent, and a smaller
grid is a corner of it. -/
theorem grid_ruled (width height : UInt32) :
    (UInt32.size < width.toNat * height.toNat → ∃ fault, grid width height = .error fault) ∧
    (width.toNat * height.toNat ≤ UInt32.size → ∃ frame, grid width height = .ok frame ∧
      frame.width = width ∧ frame.height = height ∧
      (∀ x < width, ∀ y < height, frame.pixel x y = .ok
        (if 8 ∣ x.toNat ∨ 8 ∣ y.toNat then Pixel.ofBytes 0 0 0 255 else Pixel.ofBytes 0 0 0 0)) ∧
      frame.pixels.count (Pixel.ofBytes 0 0 0 255) = width.toNat * height.toNat -
        (width.toNat - (width.toNat + 7) / 8) * (height.toNat - (height.toNat + 7) / 8) ∧
      ∀ width' ≤ width, ∀ height' ≤ height,
        ∃ part, grid width' height' = .ok part ∧ part.Corner frame) := by
  constructor
  · intro large
    cases painted : grid width height with
    | error fault => exact ⟨fault, rfl⟩
    | ok frame =>
        have fits := (exists_grid_iff width height).mp ⟨frame, painted⟩
        exact absurd large (Nat.not_lt.mpr fits)
  · intro fits
    obtain ⟨frame, made⟩ := (exists_grid_iff width height).mpr fits
    obtain ⟨width_eq, height_eq⟩ := grid_eq_ok made
    have shown : ∀ x < width, ∀ y < height, frame.pixel x y = .ok (ruled x.toNat y.toNat) :=
      fun x column y row => pixel_grid made column row
    refine ⟨frame, made, width_eq, height_eq, shown, ?_, ?_⟩
    · subst width_eq height_eq
      rw [← Array.count_toList, toList_of_pixel fun x y column row => shown x column y row,
        count_ruled]
    · intro width' narrower height' lower
      have smaller : width'.toNat * height'.toNat ≤ UInt32.size :=
        (Nat.mul_le_mul narrower lower).trans fits
      obtain ⟨part, madePart⟩ := (exists_grid_iff width' height').mpr smaller
      exact ⟨part, madePart, corner_of_grid made madePart narrower lower⟩

/-- The largest square grid takes every index there is; a column more is too much. -/
theorem grid_ruled_largest :
    (∃ frame, grid 65536 65536 = .ok frame ∧ frame.pixel 65535 65528 = .ok 0xFF000000 ∧
      frame.pixel 65535 65535 = .ok 0 ∧
      frame.pixels.count 0xFF000000 = 65536 * 65536 - 57344 * 57344 ∧
      ∃ part, grid 9 10 = .ok part ∧ part.Corner frame) ∧
    ∃ fault, grid 65537 65536 = .error fault := by
  obtain ⟨-, painted⟩ := grid_ruled 65536 65536
  obtain ⟨frame, made, -, -, shown, lines, corner⟩ := painted (by decide)
  refine ⟨⟨frame, made, shown _ (by decide) _ (by decide), shown _ (by decide) _ (by decide), lines,
    corner 9 (by decide) 10 (by decide)⟩, ?_⟩
  exact (grid_ruled 65537 65536).1 (by decide)

end FrameCycle.Frame
