import FrameCycle.Proofs.Frame.Grid
import FrameCycle.Proofs.Geometry

/-!
Single pixels of a frame. A pixel is known by its place alone, so a column beyond the row is a pixel
of some later row. The place is reckoned in 32 bits while the area of a frame is weighed in 64, and
a frame can have pixels that no coordinates lead to.
-/
namespace FrameCycle.Frame

/-- Where the pixel at `x` in row `y` is stored, in numbers without a limit. -/
def place (frame : Frame) (x y : UInt32) : Nat :=
  y.toNat * frame.width.toNat + x.toNat

/-- Why no pixel is reached through these coordinates: the first part of the reckoning that
fails. -/
inductive Unreachable (frame : Frame) (x y : UInt32) : Fault → Prop where
  | row : UInt32.size ≤ y.toNat * frame.width.toNat → Unreachable frame x y .mulOverflow
  | column : y.toNat * frame.width.toNat < UInt32.size → UInt32.size ≤ frame.place x y →
      Unreachable frame x y .addOverflow
  | outside : frame.place x y < UInt32.size →
      frame.width.toNat * frame.height.toNat ≤ frame.place x y →
      Unreachable frame x y
        (.indexOutOfBounds (frame.width.toNat * frame.height.toNat) (frame.place x y))

/-- The place is an index, and there is a pixel at it. -/
structure Reachable (frame : Frame) (x y : UInt32) : Prop where
  indexed : frame.place x y < UInt32.size
  inside : frame.place x y < frame.pixels.size

/-- A result of reading or writing through these coordinates: a pixel that is out of reach decides
how it fails, and nothing else makes it fail. -/
structure Access {α : Type} (frame : Frame) (x y : UInt32) (result : Except Fault α) : Prop where
  reached : frame.Reachable x y → ∃ value, result = .ok value
  missed : ∀ fault, frame.Unreachable x y fault → result = .error fault

section

variable {frame : Frame} {x y : UInt32}

theorem reachable_or_unreachable (frame : Frame) (x y : UInt32) :
    frame.Reachable x y ∨ ∃ fault, frame.Unreachable x y fault := by
  by_cases row : UInt32.size ≤ y.toNat * frame.width.toNat
  · exact .inr ⟨_, .row row⟩
  · by_cases column : UInt32.size ≤ frame.place x y
    · exact .inr ⟨_, .column (Nat.lt_of_not_le row) column⟩
    · by_cases outside : frame.pixels.size ≤ frame.place x y
      · rw [frame.size_pixels] at outside
        exact .inr ⟨_, .outside (Nat.lt_of_not_le column) outside⟩
      · exact .inl ⟨Nat.lt_of_not_le column, Nat.lt_of_not_le outside⟩

theorem Unreachable.congr {other : Frame} {fault : Fault} (unreachable : frame.Unreachable x y fault)
    (width : frame.width = other.width) (height : frame.height = other.height) :
    other.Unreachable x y fault := by
  have moved : frame.place x y = other.place x y := by rw [place, place, width]
  cases unreachable with
  | row row => exact .row (width ▸ row)
  | column row column => exact .column (width ▸ row) (moved ▸ column)
  | outside indexed outside =>
      rw [width, height, moved] at outside ⊢
      exact .outside (moved ▸ indexed) outside

theorem Access.eq_error_iff {α : Type} {result : Except Fault α} (access : frame.Access x y result)
    {fault : Fault} : result = .error fault ↔ frame.Unreachable x y fault := by
  refine ⟨fun failed => ?_, access.missed fault⟩
  rcases reachable_or_unreachable frame x y with reachable | ⟨other, unreachable⟩
  · obtain ⟨value, done⟩ := access.reached reachable
    cases done.symm.trans failed
  · cases (access.missed other unreachable).symm.trans failed
    exact unreachable

theorem Access.exists_ok_iff {α : Type} {result : Except Fault α}
    (access : frame.Access x y result) :
    (∃ value, result = .ok value) ↔ frame.Reachable x y := by
  refine ⟨fun ⟨value, done⟩ => ?_, access.reached⟩
  rcases reachable_or_unreachable frame x y with reachable | ⟨fault, unreachable⟩
  · exact reachable
  · cases (access.missed fault unreachable).symm.trans done

theorem index_of_lt (indexed : frame.place x y < UInt32.size) :
    ∃ index, frame.index x y = .ok index ∧ index.toNat = frame.place x y := by
  obtain ⟨index, found⟩ := (exists_index_iff frame x y).mpr indexed
  exact ⟨index, found, index_eq_ok found⟩

theorem pixel_of_reachable (reachable : frame.Reachable x y) :
    ∃ held, frame.pixels[frame.place x y]? = some held ∧ frame.pixel x y = .ok held := by
  obtain ⟨index, found, index_eq⟩ := index_of_lt reachable.indexed
  have inside := reachable.inside
  simp [pixel, found, bind, Except.bind, index_eq, inside]

theorem setPixel_of_reachable (reachable : frame.Reachable x y) (value : UInt32) :
    ∃ painted, frame.setPixel x y value = .ok painted ∧ painted.width = frame.width ∧
      painted.height = frame.height ∧
      painted.pixels = frame.pixels.set (frame.place x y) value reachable.inside := by
  obtain ⟨index, found, index_eq⟩ := index_of_lt reachable.indexed
  have inside := reachable.inside
  simp [setPixel, found, index_eq, inside]

theorem index_of_unreachable {fault : Fault} (unreachable : frame.Unreachable x y fault) :
    frame.index x y = .error fault ∨ ∃ index, frame.index x y = .ok index ∧
      index.toNat = frame.place x y ∧ frame.pixels.size ≤ frame.place x y ∧
      fault = .indexOutOfBounds (frame.width.toNat * frame.height.toNat) (frame.place x y) := by
  cases unreachable with
  | row row =>
      refine .inl ?_
      simp [index, Checked.mul32, Nat.not_lt.mpr row, bind, Except.bind]
  | column row column =>
      refine .inl ?_
      simp only [index, Checked.mul32, if_pos row, bind, Except.bind, Checked.add32,
        toNat_mul_of_fits row]
      exact if_neg (Nat.not_lt.mpr column)
  | outside indexed outside =>
      obtain ⟨index, found, index_eq⟩ := index_of_lt indexed
      exact .inr ⟨index, found, index_eq, frame.size_pixels ▸ outside, rfl⟩

theorem access_pixel (frame : Frame) (x y : UInt32) : frame.Access x y (frame.pixel x y) where
  reached := fun reachable => by
    obtain ⟨held, -, read⟩ := pixel_of_reachable reachable
    exact ⟨held, read⟩
  missed := fun fault unreachable => by
    rcases index_of_unreachable unreachable with found | ⟨index, found, index_eq, absent, rfl⟩
    · simp [pixel, found, bind, Except.bind]
    · simp [pixel, found, bind, Except.bind, index_eq, absent]

theorem access_setPixel (frame : Frame) (x y value : UInt32) :
    frame.Access x y (frame.setPixel x y value) where
  reached := fun reachable => by
    obtain ⟨painted, set, -⟩ := setPixel_of_reachable reachable value
    exact ⟨painted, set⟩
  missed := fun fault unreachable => by
    rcases index_of_unreachable unreachable with found | ⟨index, found, index_eq, absent, rfl⟩
    · simp [setPixel, found]
    · simp [setPixel, found, index_eq, absent]

theorem pixel_eq_ok_iff {value : UInt32} :
    frame.pixel x y = .ok value ↔
      frame.place x y < UInt32.size ∧ frame.pixels[frame.place x y]? = some value := by
  constructor
  · intro read
    have reachable := (access_pixel frame x y).exists_ok_iff.mp ⟨value, read⟩
    obtain ⟨held, stored, read'⟩ := pixel_of_reachable reachable
    cases read'.symm.trans read
    exact ⟨reachable.indexed, stored⟩
  · rintro ⟨indexed, stored⟩
    obtain ⟨inside, -⟩ := Array.getElem?_eq_some_iff.mp stored
    obtain ⟨held, stored', read⟩ := pixel_of_reachable ⟨indexed, inside⟩
    cases stored'.symm.trans stored
    exact read

/-- What is read after a pixel has been set: its value at its own place, whatever the coordinates,
and elsewhere what was read before. -/
theorem pixel_setPixel {painted : Frame} {value : UInt32}
    (done : frame.setPixel x y value = .ok painted) (x' y' : UInt32) :
    painted.pixel x' y' =
      if frame.place x' y' = frame.place x y then .ok value else frame.pixel x' y' := by
  have reachable := (access_setPixel frame x y value).exists_ok_iff.mp ⟨painted, done⟩
  obtain ⟨_, set, width, height, pixels⟩ := setPixel_of_reachable reachable value
  cases set.symm.trans done
  have moved : painted.place x' y' = frame.place x' y' := by rw [place, place, width]
  by_cases same : frame.place x' y' = frame.place x y
  · rw [if_pos same, pixel_eq_ok_iff, moved, same, pixels]
    exact ⟨reachable.indexed, Array.getElem?_set_self reachable.inside⟩
  · rw [if_neg same]
    have kept : painted.pixels[frame.place x' y']? = frame.pixels[frame.place x' y']? := by
      rw [pixels, Array.getElem?_set_ne reachable.inside (Ne.symm same)]
    cases read : frame.pixel x' y' with
    | ok held =>
        rw [pixel_eq_ok_iff, moved, kept]
        exact pixel_eq_ok_iff.mp read
    | error fault =>
        have unreachable := (access_pixel frame x' y').eq_error_iff.mp read
        exact (access_pixel painted x' y').missed fault (unreachable.congr width.symm height.symm)

theorem reachable_iff_of_inside (column : x.toNat < frame.width.toNat)
    (row : y.toNat < frame.height.toNat) :
    frame.Reachable x y ↔ frame.place x y < UInt32.size := by
  rw [← (access_setPixel frame x y 0).exists_ok_iff]
  exact exists_setPixel_iff 0 column row

theorem place_mod (column : x.toNat < frame.width.toNat) :
    frame.place x y % frame.width.toNat = x.toNat := by
  rw [place, Nat.mul_add_mod_self_right, Nat.mod_eq_of_lt column]

theorem place_div (column : x.toNat < frame.width.toNat) :
    frame.place x y / frame.width.toNat = y.toNat := by
  rw [place, Nat.mul_comm, Nat.mul_add_div (Nat.zero_lt_of_lt column), Nat.div_eq_of_lt column,
    Nat.add_zero]

/-- Coordinates that stay in the row do not share a place. -/
theorem place_inj {x' y' : UInt32} (column : x.toNat < frame.width.toNat)
    (column' : x'.toNat < frame.width.toNat) :
    frame.place x y = frame.place x' y' ↔ x = x' ∧ y = y' := by
  constructor
  · intro same
    have columns : x.toNat = x'.toNat := by rw [← place_mod column, same, place_mod column']
    have rows : y.toNat = y'.toNat := by rw [← place_div column, same, place_div column']
    exact ⟨UInt32.toNat_inj.mp columns, UInt32.toNat_inj.mp rows⟩
  · rintro ⟨rfl, rfl⟩
    rfl

end

theorem exists_toNat_eq {number : Nat} {limit : UInt32} (below : number < limit.toNat) :
    ∃ word : UInt32, word.toNat = number :=
  ⟨.ofNat number, UInt32.toNat_ofNat_of_lt' (below.trans limit.toNat_lt_size)⟩

theorem forall_reachable_iff (frame : Frame) :
    (∀ x < frame.width, ∀ y < frame.height, frame.Reachable x y) ↔
      frame.width.toNat * frame.height.toNat ≤ UInt32.size := by
  rw [← forall_index_lt_iff]
  constructor
  · intro reachable row inside column before
    obtain ⟨x, rfl⟩ := exists_toNat_eq before
    obtain ⟨y, rfl⟩ := exists_toNat_eq inside
    exact (reachable x before y inside).indexed
  · intro fits x column y row
    exact (reachable_iff_of_inside column row).mpr (fits y.toNat row x.toNat column)

/-- Sets a pixel in place: how that ends, and what the frame is then. -/
def overwrite (frame : Frame) (x y value : UInt32) : Except Fault Unit × Frame :=
  match frame.setPixel x y value with
  | .ok painted => (.ok (), painted)
  | .error fault => (.error fault, frame)

/-- A frame that was made for this geometry, whatever has been written to it since. -/
inductive Made (width height : UInt32) : Frame → Prop where
  | blank {frame : Frame} : blank width height = .ok frame → Made width height frame
  | scaled {w h factor : UInt32} {frame : Frame} : scaled w h factor = .ok frame →
      width.toNat = w.toNat * factor.toNat → height.toNat = h.toNat * factor.toNat →
      Made width height frame
  | overwrite {frame : Frame} (x y value : UInt32) : Made width height frame →
      Made width height (frame.overwrite x y value).2
  | write {frame : Frame} (content : frame.Content) : Made width height frame →
      Made width height (frame.withPixels content)

section

variable {width height : UInt32} {frame : Frame}

theorem overwrite_geometry (frame : Frame) (x y value : UInt32) :
    (frame.overwrite x y value).2.width = frame.width ∧
      (frame.overwrite x y value).2.height = frame.height := by
  unfold overwrite
  cases set : frame.setPixel x y value with
  | ok painted => exact setPixel_eq_ok set
  | error fault => exact ⟨rfl, rfl⟩

theorem Made.geometry (made : Made width height frame) :
    frame.width = width ∧ frame.height = height := by
  induction made with
  | blank cleared => exact blank_eq_ok cleared ▸ ⟨rfl, rfl⟩
  | scaled enlarged wide tall =>
      obtain ⟨-, width_eq, height_eq⟩ := scaled_eq_ok enlarged
      exact ⟨UInt32.toNat_inj.mp (width_eq.trans wide.symm),
        UInt32.toNat_inj.mp (height_eq.trans tall.symm)⟩
  | @overwrite frame x y value _ inductionHypothesis =>
      obtain ⟨width, height⟩ := overwrite_geometry frame x y value
      exact ⟨width.trans inductionHypothesis.1, height.trans inductionHypothesis.2⟩
  | write content _ inductionHypothesis => exact inductionHypothesis

theorem byteLength_congr {other : Frame} (width : frame.width = other.width)
    (height : frame.height = other.height) : frame.byteLength = other.byteLength := by
  rw [byteLength, byteLength, length_eq, length_eq, width, height]

theorem Made.byteLength_le (made : Made width height frame) : frame.byteLength ≤ byteLimit := by
  induction made with
  | blank cleared => exact byteLength_le_of_blank cleared
  | scaled enlarged => exact byteLength_le_of_scaled enlarged
  | @overwrite frame x y value _ inductionHypothesis =>
      obtain ⟨width, height⟩ := overwrite_geometry frame x y value
      exact (byteLength_congr width height).trans_le inductionHypothesis
  | @write frame content _ inductionHypothesis =>
      have same : (frame.withPixels content).byteLength = frame.byteLength := byteLength_congr rfl rfl
      exact same.trans_le inductionHypothesis

/-- A frame keeps the geometry that it was made for. Its pixels are known by their places alone: a
read or a write fails at the first part of the reckoning that does, in the same way, and then nothing
is written; a write changes what is read at its own place and nowhere else. Within the geometry no
two coordinates share a place, and all of them lead to pixels if there are no more pixels than
indices. -/
theorem made_frame_accesses (made : Made width height frame) :
    frame.width = width ∧ frame.height = height ∧
    frame.pixels.size = width.toNat * height.toNat ∧
    (∀ x y fault, (frame.pixel x y = .error fault ↔ frame.Unreachable x y fault) ∧
      ∀ value, (frame.setPixel x y value = .error fault ↔ frame.Unreachable x y fault) ∧
        (frame.Unreachable x y fault → frame.overwrite x y value = (.error fault, frame))) ∧
    (∀ x y value painted, frame.setPixel x y value = .ok painted →
      painted.width = width ∧ painted.height = height ∧
      ∀ x' y', painted.pixel x' y' =
        if frame.place x' y' = frame.place x y then .ok value else frame.pixel x' y') ∧
    (∀ x < width, ∀ x' < width, ∀ y y',
      frame.place x y = frame.place x' y' ↔ x = x' ∧ y = y') ∧
    ((∀ x < width, ∀ y < height, ∃ held, frame.pixel x y = .ok held) ↔
      width.toNat * height.toNat ≤ UInt32.size) ∧
    ∀ value, (∀ x < width, ∀ y < height, ∃ painted, frame.setPixel x y value = .ok painted) ↔
      width.toNat * height.toNat ≤ UInt32.size := by
  obtain ⟨rfl, rfl⟩ := made.geometry
  refine ⟨rfl, rfl, frame.size_pixels, fun x y fault => ⟨(access_pixel frame x y).eq_error_iff,
    fun value => ⟨(access_setPixel frame x y value).eq_error_iff, fun unreachable => ?_⟩⟩,
    fun x y value painted set => ?_, fun x column x' column' y y' => place_inj column column', ?_,
    fun value => ?_⟩
  · rw [overwrite, (access_setPixel frame x y value).missed fault unreachable]
  · obtain ⟨width, height⟩ := setPixel_eq_ok set
    exact ⟨width, height, pixel_setPixel set⟩
  · simp only [(access_pixel frame _ _).exists_ok_iff, forall_reachable_iff]
  · simp only [(access_setPixel frame _ _ value).exists_ok_iff, forall_reachable_iff]

/-- A column beyond the row is a pixel of the next row, as long as there is one and its place can be
reckoned. -/
theorem made_frame_accesses_beyondRow :
    let frame := ((zeros 3 2).overwrite 4 0 7).2
    frame.pixel 1 1 = .ok 7 ∧ frame.pixel 0 1 = .ok 0 ∧
      frame.overwrite 6 0 7 = (.error (.indexOutOfBounds 6 6), frame) ∧
      frame.pixel 0xFFFFFFFF 1 = .error .addOverflow ∧
      frame.pixel 0 0xFFFFFFFF = .error .mulOverflow := by
  intro frame
  have blank : Made 3 2 (zeros 3 2) := .blank rfl
  have set : (zeros 3 2).setPixel 4 0 7 = .ok frame := rfl
  obtain ⟨-, -, -, -, reads, -⟩ := made_frame_accesses blank
  obtain ⟨-, -, kept⟩ := reads 4 0 7 frame set
  obtain ⟨-, -, -, faults, -⟩ := made_frame_accesses (blank.overwrite 4 0 7)
  exact ⟨kept 1 1, kept 0 1,
    ((faults 6 0 _).2 7).2 (.outside (by decide) (by decide)),
    (faults _ 1 _).1.mpr (.column (by decide) (by decide)),
    (faults 0 _ _).1.mpr (.row (by decide))⟩

end

end FrameCycle.Frame
