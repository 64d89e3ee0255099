import FrameCycle.Proofs.Frame.Access
import FrameCycle.Proofs.Requests

/-!
Frames as bytes. The four bytes of a pixel stand together, the pixels of a row behind each other and
the rows without gaps, so the same reckoning finds a byte for whoever takes the bytes of a frame and
for whoever fills its memory row by row.
-/
namespace FrameCycle

namespace Pixel

/-- The byte of a channel: the eight bits of the pixel from bit `8 * number` on. -/
def channel (pixel : UInt32) (number : Nat) : UInt8 :=
  ⟨pixel.toBitVec.extractLsb' (8 * number) 8⟩

theorem bytes_eq_channels (pixel : UInt32) :
    bytes pixel = [channel pixel 0, channel pixel 1, channel pixel 2, channel pixel 3] := by
  simp only [bytes, channel, List.cons.injEq, ← UInt8.toBitVec_inj, and_true]
  refine ⟨?_, ?_, ?_, ?_⟩ <;>
  · apply BitVec.eq_of_getLsbD_eq
    simp

theorem ofBytes_channels (pixel : UInt32) :
    ofBytes (channel pixel 0) (channel pixel 1) (channel pixel 2) (channel pixel 3) = pixel := by
  apply UInt32.toBitVec_inj.mp
  apply BitVec.eq_of_getLsbD_eq
  intro bit inside
  simp [ofBytes, channel]
  grind

theorem cases_channel {number : Nat} (inside : number < 4) :
    number = 0 ∨ number = 1 ∨ number = 2 ∨ number = 3 := by
  omega

theorem channel_ofBytes (byte : Nat → UInt8) {number : Nat} (inside : number < 4) :
    channel (ofBytes (byte 0) (byte 1) (byte 2) (byte 3)) number = byte number := by
  apply UInt8.toBitVec_inj.mp
  apply BitVec.eq_of_getLsbD_eq
  intro bit below
  obtain rfl | rfl | rfl | rfl := cases_channel inside <;>
  · simp [ofBytes, channel]
    grind

theorem getElem?_flatMap_bytes (pixels : List UInt32) (index : Nat) {number : Nat}
    (inside : number < 4) :
    (pixels.flatMap bytes)[4 * index + number]? =
      pixels[index]?.map fun pixel => channel pixel number := by
  induction pixels generalizing index with
  | nil => simp
  | cons pixel rest inductionHypothesis =>
      have first : (bytes pixel).length = 4 := rfl
      cases index with
      | zero =>
          rw [List.flatMap_cons, Nat.mul_zero, Nat.zero_add,
            List.getElem?_append_left (by rw [first]; exact inside), bytes_eq_channels]
          obtain rfl | rfl | rfl | rfl := cases_channel inside <;> rfl
      | succ index =>
          rw [List.flatMap_cons, List.getElem?_append_right (by rw [first]; omega), first,
            List.getElem?_cons_succ, ← inductionHypothesis index]
          congr 1
          omega

end Pixel

namespace Frame

/-- A byte of a frame is a channel of the pixel that it is part of. -/
theorem getElem?_bytes (frame : Frame) (offset : Nat) :
    frame.bytes[offset]? =
      frame.pixels[offset / 4]?.map fun pixel => Pixel.channel pixel (offset % 4) := by
  have group := Pixel.getElem?_flatMap_bytes frame.pixels.toList (offset / 4)
    (Nat.mod_lt offset (by decide))
  rw [Nat.div_add_mod] at group
  exact group.trans (by rw [Array.getElem?_toList])

theorem length_bytes (frame : Frame) : frame.bytes.length = frame.byteLength := by
  have four : ∀ pixel, (Pixel.bytes pixel).length = 4 := fun _ => rfl
  simp [bytes, byteLength, bytesPerPixel, List.length_flatMap, four, frame.size_pixels]

theorem byteLength_eq_stride (frame : Frame) :
    frame.byteLength = frame.stride * frame.height.toNat := by
  rw [byteLength, length_eq, stride, Nat.mul_right_comm]

/-- The byte of a channel in a row is that channel of the pixel with these coordinates. -/
theorem offset_eq (frame : Frame) (x y : UInt32) (number : Nat) :
    y.toNat * frame.stride + 4 * x.toNat + number = 4 * frame.place x y + number := by
  rw [stride, place, bytesPerPixel]
  ring

/-- Bytes in fours as the pixels of a frame. -/
def assemble (width height : UInt32) (bytes : List UInt8) : Frame :=
  (zeros width height).withPixels ((zeros width height).contentOfBytes fun offset =>
    bytes.getD offset 0)

theorem getElem?_contentOfBytes (frame : Frame) (byte : Nat → UInt8) (index : Nat) :
    (frame.withPixels (frame.contentOfBytes byte)).pixels[index]? =
      if index < frame.width.toNat * frame.height.toNat then
        some (Pixel.ofBytes (byte (4 * index)) (byte (4 * index + 1)) (byte (4 * index + 2))
          (byte (4 * index + 3)))
      else none := by
  simp [withPixels, contentOfBytes, tabulate, Array.getElem?_ofFn]

/-- What is written to the memory of a frame is what its bytes are. -/
theorem bytes_contentOfBytes (frame : Frame) (byte : Nat → UInt8) :
    (frame.withPixels (frame.contentOfBytes byte)).bytes =
      (List.range frame.byteLength).map byte := by
  apply List.ext_getElem?
  intro offset
  rw [getElem?_bytes, getElem?_contentOfBytes, List.getElem?_map]
  have area : offset / 4 < frame.width.toNat * frame.height.toNat ↔ offset < frame.byteLength := by
    rw [byteLength, length_eq, bytesPerPixel]
    exact Nat.div_lt_iff_lt_mul (by decide)
  by_cases inside : offset < frame.byteLength
  · have whole := Pixel.channel_ofBytes (fun number => byte (4 * (offset / 4) + number))
      (Nat.mod_lt offset (by decide))
    rw [if_pos (area.mpr inside), List.getElem?_range inside, Option.map_some, Option.map_some]
    simpa [Nat.div_add_mod] using whole
  · rw [if_neg (mt area.mp inside), List.getElem?_eq_none (by simpa using inside), Option.map_none,
      Option.map_none]

/-- The bytes of a frame make the frame. -/
theorem assemble_bytes (frame : Frame) :
    assemble frame.width frame.height frame.bytes = frame := by
  refine Frame.ext rfl rfl ?_
  apply Array.ext_getElem?
  intro index
  rw [assemble, getElem?_contentOfBytes]
  change (if index < frame.width.toNat * frame.height.toNat then _ else _) = _
  by_cases inside : index < frame.width.toNat * frame.height.toNat
  · obtain ⟨pixel, held⟩ : ∃ pixel, frame.pixels[index]? = some pixel :=
      ⟨_, Array.getElem?_eq_getElem (frame.size_pixels.symm ▸ inside)⟩
    have byte : ∀ number < 4, frame.bytes.getD (4 * index + number) 0 =
        Pixel.channel pixel number := by
      intro number below
      rw [List.getD_eq_getElem?_getD, bytes, Pixel.getElem?_flatMap_bytes _ _ below,
        Array.getElem?_toList, held]
      rfl
    have first := byte 0 (by decide)
    rw [Nat.add_zero] at first
    rw [if_pos inside, held, first, byte 1 (by decide), byte 2 (by decide), byte 3 (by decide),
      Pixel.ofBytes_channels]
  · rw [if_neg inside, Array.getElem?_eq_none (frame.size_pixels ▸ Nat.le_of_not_lt inside)]

theorem bytes_assemble {width height : UInt32} {bytes : List UInt8}
    (length : bytes.length = 4 * width.toNat * height.toNat) :
    (assemble width height bytes).bytes = bytes := by
  have covered : (zeros width height).byteLength = bytes.length := by
    rw [length, byteLength, length_eq, bytesPerPixel, zeros]
    ring
  rw [assemble, bytes_contentOfBytes, covered]
  apply List.ext_getElem
  · simp
  · intro offset _ inside
    simp [inside]

/-- The bytes of a frame are its rows without gaps, each byte a channel of the pixel that the same
coordinates lead to, and every offset is a size that a buffer can have. A library that fills the
memory of the frame is told these sizes, and fills these bytes. Frames of one geometry and byte
strings of their length are the same thing. -/
theorem bytes_laid_out (width height : UInt32) :
    (∀ frame, Made width height frame →
      frame.bytes.length = frame.byteLength ∧
      frame.byteLength = frame.stride * height.toNat ∧ frame.byteLength ≤ byteLimit ∧
      (∀ id, Machine.Request.Covers width height (.display id (.ofNat frame.byteLength)
        (.ofNat frame.byteLength) (.ofNat frame.stride))) ∧
      (∀ x < width, ∀ y < height, ∀ number < 4,
        y.toNat * frame.stride + 4 * x.toNat + number < frame.byteLength ∧
        ∃ pixel, frame.pixels[frame.place x y]? = some pixel ∧
          frame.bytes[y.toNat * frame.stride + 4 * x.toNat + number]? =
            some (Pixel.channel pixel number)) ∧
      assemble width height frame.bytes = frame ∧
      ∀ byte, (frame.withPixels (frame.contentOfBytes byte)).bytes =
        (List.range frame.byteLength).map byte) ∧
    ∀ bytes : List UInt8, bytes.length = 4 * width.toNat * height.toNat →
      (∃! frame : Frame, frame.width = width ∧ frame.height = height ∧ frame.bytes = bytes) ∧
      (bytes.length ≤ byteLimit → Made width height (assemble width height bytes)) := by
  constructor
  · intro frame made
    obtain ⟨rfl, rfl⟩ := made.geometry
    refine ⟨frame.length_bytes, frame.byteLength_eq_stride, made.byteLength_le,
      Machine.Request.covers_display made.byteLength_le, ?_, frame.assemble_bytes,
      frame.bytes_contentOfBytes⟩
    intro x column y row number inside
    have stored : frame.place x y < frame.pixels.size := by
      rw [frame.size_pixels]
      exact index_lt_area column row
    rw [offset_eq]
    refine ⟨?_, _, Array.getElem?_eq_getElem stored, ?_⟩
    · rw [byteLength, Frame.length, bytesPerPixel]
      omega
    · rw [bytes, Pixel.getElem?_flatMap_bytes _ _ inside, Array.getElem?_toList,
        Array.getElem?_eq_getElem stored]
      rfl
  · intro bytes length
    refine ⟨⟨assemble width height bytes, ⟨rfl, rfl, bytes_assemble length⟩, ?_⟩, fun small => ?_⟩
    · rintro frame ⟨rfl, rfl, rfl⟩
      exact frame.assemble_bytes.symm
    · have room : bytesPerPixel * area width height ≤ byteLimit := by
        rwa [length, Nat.mul_assoc] at small
      exact .write _ (.blank (if_pos room))

/-- Two pixels in a row; the last channel of the second one is their last byte. -/
theorem bytes_laid_out_twoPixels :
    let frame := assemble 2 1 [0x10, 0x20, 0x30, 0x40, 0, 0, 0, 0xFF]
    Made 2 1 frame ∧ frame.bytes = [0x10, 0x20, 0x30, 0x40, 0, 0, 0, 0xFF] ∧
      ∃ pixel, frame.pixels[1]? = some pixel ∧ Pixel.channel pixel 3 = 0xFF := by
  intro frame
  obtain ⟨frames, strings⟩ := bytes_laid_out 2 1
  obtain ⟨-, made⟩ := strings [0x10, 0x20, 0x30, 0x40, 0, 0, 0, 0xFF] rfl
  have written : Made 2 1 frame := made (by decide)
  obtain ⟨-, -, -, -, channels, -⟩ := frames frame written
  obtain ⟨-, pixel, held, shown⟩ := channels 1 (by decide) 0 (by decide) 3 (by decide)
  have last : frame.bytes[7]? = some 0xFF := rfl
  exact ⟨written, rfl, pixel, held, Option.some.inj (shown.symm.trans last)⟩

end Frame

end FrameCycle
