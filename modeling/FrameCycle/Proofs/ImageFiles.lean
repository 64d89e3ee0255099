import FrameCycle.Proofs.Frame.Layout
import FrameCycle.Proofs.Resolution
import FrameCycle.Storage.Png

/-!
Image files in a file system. A frame with pixels is stored wherever a file can be created, whatever
was there before; otherwise the error names the path, and at most the file that was created for the
frame has changed.
-/
namespace FrameCycle.Png

open FileSystem

/-- What a decoder makes of an image: its sides, and four bytes for each pixel. -/
structure Picture where
  width : Nat
  height : Nat
  channels : List UInt8
  deriving DecidableEq

/-- A decoder undoes what an encoder makes of any picture that has pixels. -/
def Inverts (encode : Encoder) (decode : List UInt8 → Option Picture) : Prop :=
  ∀ (width height : UInt32) (data : List UInt8), width ≠ 0 → height ≠ 0 →
    data.length = 4 * (width.toNat * height.toNat) →
    decode (encode width height data ++ closing) = some ⟨width.toNat, height.toNat, data⟩

/-- The bytes of a frame are as many as its sides ask for. -/
theorem Inverts.decode_body {encode : Encoder} {decode : List UInt8 → Option Picture}
    (inverts : Inverts encode decode) {frame : Frame} (width : frame.width ≠ 0)
    (height : frame.height ≠ 0) :
    decode (body encode frame ++ closing) =
      some ⟨frame.width.toNat, frame.height.toNat, frame.bytes⟩ := by
  apply inverts frame.width frame.height frame.bytes width height
  rw [frame.length_bytes, Frame.byteLength, Frame.length_eq, Frame.bytesPerPixel, Nat.mul_comm]

theorem refusal?_eq_none_iff {frame : Frame} :
    refusal? frame = none ↔ frame.width ≠ 0 ∧ frame.height ≠ 0 := by
  unfold refusal?
  split
  · next zero => simp [zero]
  · split
    · next zero => simp [zero]
    · next width height => simp [width, height]

variable {files : FileSystem} {path : Path} {directory : Place} {name : List UInt8}

/-- What is in the file that was created for a frame. -/
def stored (frame : Frame) : FileContent :=
  match refusal? frame with
  | some _ => .bytes closing
  | none => .image frame closing

theorem write_of_creatable (creatable : files.Creatable path directory name) (frame : Frame) :
    write files path frame =
      (match refusal? frame with
        | some error => .error (.image path error)
        | none => .ok (),
       files.put (directory ++ [name]) (.file (stored frame))) := by
  unfold write stored
  rw [creatable.writable_eq]
  cases refusal? frame <;> rfl

theorem write_of_not_creatable
    (uncreatable : ¬ ∃ directory name, files.Creatable path directory name) (frame : Frame) :
    ∃ error, write files path frame = (.error (.image path (.file error)), files) := by
  unfold write
  cases found : files.writable path with
  | error error => exact ⟨error, rfl⟩
  | ok place =>
      obtain ⟨directory, name, creatable, -⟩ := writable_eq_ok_iff.mp found
      exact absurd ⟨directory, name, creatable⟩ uncreatable

theorem write_eq_ok_iff (creatable : files.Creatable path directory name) {frame : Frame} :
    (write files path frame).1 = .ok () ↔ frame.width ≠ 0 ∧ frame.height ≠ 0 := by
  rw [write_of_creatable creatable, ← refusal?_eq_none_iff]
  cases refusal? frame <;> simp

theorem image_of_write {frame : Frame} {error : Error}
    (failed : (write files path frame).1 = .error error) : ∃ cause, error = .image path cause := by
  unfold write at failed
  split at failed
  · cases failed
    exact ⟨_, rfl⟩
  · split at failed <;> cases failed
    exact ⟨_, rfl⟩

/-- A frame is stored just if a file can be created at the path and the frame has pixels. The file
then holds what the encoder makes of the frame's sides and bytes, and decodes to these, whatever was
there before. Every error names the path; nothing has changed if no file can be created, and nothing
but that file in any case. A second frame is stored as if the first one never had been. -/
theorem write_stores (encode : Encoder) (decode : List UInt8 → Option Picture)
    (inverts : Inverts encode decode) (files : FileSystem) (path : Path) (frame : Frame) :
    let left := (write files path frame).2
    ((write files path frame).1 = .ok () ↔
      (∃ directory name, files.Creatable path directory name) ∧
        frame.width ≠ 0 ∧ frame.height ≠ 0) ∧
    ((write files path frame).1 = .ok () →
      ∃ content, left.read path = .ok content ∧
        content.data encode = encode frame.width frame.height frame.bytes ++ closing ∧
        decode (content.data encode) =
          some ⟨frame.width.toNat, frame.height.toNat, frame.bytes⟩) ∧
    (∀ error, (write files path frame).1 = .error error → ∃ cause, error = .image path cause) ∧
    ((¬ ∃ directory name, files.Creatable path directory name) → left = files) ∧
    (left.workDir = files.workDir ∧
      ∀ place, (∀ directory name, files.Creatable path directory name →
        place ≠ directory ++ [name]) → left.node? place = files.node? place) ∧
    ∀ second, write left path second = write files path second := by
  intro left
  by_cases possible : ∃ directory name, files.Creatable path directory name
  · obtain ⟨directory, name, creatable⟩ := possible
    have left_eq : left = files.put (directory ++ [name]) (.file (stored frame)) :=
      congrArg Prod.snd (write_of_creatable creatable frame)
    have named : directory ++ [name] ≠ [] := by simp
    refine ⟨?_, fun done => ?_, fun _ => image_of_write, fun impossible => ?_, ⟨?_, ?_⟩, ?_⟩
    · rw [write_eq_ok_iff creatable]
      exact (and_iff_right ⟨directory, name, creatable⟩).symm
    · obtain ⟨width, height⟩ := (write_eq_ok_iff creatable).mp done
      have content : stored frame = .image frame closing := by
        rw [stored, refusal?_eq_none_iff.mpr ⟨width, height⟩]
      refine ⟨stored frame, left_eq ▸ creatable.read_put _, ?_⟩
      rw [content]
      exact ⟨rfl, inverts.decode_body width height⟩
    · exact absurd ⟨directory, name, creatable⟩ impossible
    · rw [left_eq]
      rfl
    · intro place other
      rw [left_eq, node?_put files named, if_neg (other directory name creatable)]
    · intro second
      rw [left_eq, write_of_creatable (creatable.put _), write_of_creatable creatable, put_put]
  · obtain ⟨error, written⟩ := write_of_not_creatable possible frame
    have unchanged : left = files := congrArg Prod.snd written
    have failed : (write files path frame).1 ≠ .ok () := by simp [written]
    refine ⟨?_, fun done => absurd done failed, fun _ => image_of_write, fun _ => unchanged, ?_, ?_⟩
    · exact ⟨fun done => absurd done failed, fun ⟨creatable, _⟩ => absurd creatable possible⟩
    · exact ⟨congrArg FileSystem.workDir unchanged, fun place _ => by rw [unchanged]⟩
    · intro second
      rw [unchanged]

section OnePixel

/-- As many ones as a picture is wide, a zero and the data. -/
def record (width : Nat) (data : List UInt8) : List UInt8 :=
  List.replicate width 1 ++ 0 :: data

def readRecord (record : List UInt8) : Picture :=
  let width := (record.takeWhile (· == 1)).length
  let data := record.drop (width + 1)
  ⟨width, data.length / (4 * width), data⟩

/-- The image of one pixel without colour, and of all other pictures a record behind a zero. -/
def encodePixel : Encoder := fun width height data =>
  if width = 1 ∧ height = 1 ∧ data = [0, 0, 0, 0] then encode 1 1 [0, 0, 0, 0]
  else 0 :: record width.toNat data

def decodePixel (image : List UInt8) : Option Picture :=
  if image = encode 1 1 [0, 0, 0, 0] ++ closing then some ⟨1, 1, [0, 0, 0, 0]⟩
  else some (readRecord ((image.take (image.length - closing.length)).drop 1))

theorem takeWhile_record (width : Nat) (data : List UInt8) :
    (record width data).takeWhile (· == 1) = List.replicate width 1 := by
  unfold record
  induction width with
  | zero => rfl
  | succ width inductionHypothesis =>
      rw [List.replicate_succ, List.cons_append, List.takeWhile_cons_of_pos rfl,
        inductionHypothesis]

theorem readRecord_record {width height : Nat} {data : List UInt8} (wide : width ≠ 0)
    (size : data.length = 4 * (width * height)) :
    readRecord (record width data) = ⟨width, height, data⟩ := by
  have positive : 0 < 4 * width := Nat.mul_pos (by decide) (Nat.pos_of_ne_zero wide)
  have behind : (record width data).drop (width + 1) = data := by simp [record, List.drop_append]
  have rows : data.length / (4 * width) = height := by
    rw [size, ← Nat.mul_assoc, Nat.mul_div_cancel_left height positive]
  simp only [readRecord, takeWhile_record, List.length_replicate, behind, rows]

theorem inverts_pixel : Inverts encodePixel decodePixel := by
  intro width height data wide high size
  by_cases pixel : width = 1 ∧ height = 1 ∧ data = [0, 0, 0, 0]
  · obtain ⟨rfl, rfl, rfl⟩ := pixel
    rw [encodePixel, if_pos ⟨rfl, rfl, rfl⟩, decodePixel, if_pos rfl]
    rfl
  · -- an image starts with a byte that no record has before it
    have other : (0 :: record width.toNat data) ++ closing ≠
        encode 1 1 [0, 0, 0, 0] ++ closing := by
      intro same
      cases congrArg List.head? same
    have kept : ((0 :: record width.toNat data) ++ closing).take
        (((0 :: record width.toNat data) ++ closing).length - closing.length) =
          0 :: record width.toNat data := by
      rw [List.length_append, Nat.add_sub_cancel, List.take_left]
    have some : width.toNat ≠ 0 := fun none => wide (UInt32.toNat_inj.mp none)
    rw [encodePixel, if_neg pixel, decodePixel, if_neg other, kept, List.drop_one, List.tail_cons,
      readRecord_record some size]

/-- A single pixel is stored where some other file was. -/
theorem write_stores_onePixel :
    let pixel := Frame.zeros 1 1
    let files : FileSystem := ⟨[([[0x61]], .file (.bytes [1, 2, 3]))], []⟩
    let path := Path.ofString "a"
    Inverts encodePixel decodePixel ∧ files.Creatable path [] [0x61] ∧
      (write files path pixel).1 = .ok () ∧
      ∃ content, (write files path pixel).2.read path = .ok content ∧
        content.data encodePixel = encode 1 1 [0, 0, 0, 0] ++ closing ∧
        decodePixel (content.data encodePixel) = some ⟨1, 1, [0, 0, 0, 0]⟩ := by
  intro pixel files path
  have creatable : files.Creatable path [] [0x61] :=
    { noNul := by decide
      short := by decide
      way := ⟨[], by decide, .here⟩
      full := by decide
      notDot := by decide
      notDotDot := by decide
      fits := by decide
      free := by simp [files, node?] }
  obtain ⟨done, reads, -⟩ := write_stores encodePixel decodePixel inverts_pixel files path pixel
  have written := done.mpr ⟨⟨_, _, creatable⟩, by decide, by decide⟩
  exact ⟨inverts_pixel, creatable, written, reads written⟩

end OnePixel

end FrameCycle.Png
