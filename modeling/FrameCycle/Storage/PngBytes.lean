import FrameCycle.Storage.Deflate

/-!
The bytes of an image file, made of the two sides of a picture and of four bytes for each pixel. Rows
are stored as the differences between neighbouring pixels, or as they are where the data would be
longer than that.
-/
namespace FrameCycle.Png

def crcShift (remainder : UInt32) : UInt32 :=
  if remainder &&& 1 = 1 then (remainder >>> 1) ^^^ 0xEDB88320 else remainder >>> 1

def crcByte (remainder : UInt32) (byte : UInt8) : UInt32 :=
  Nat.repeat crcShift 8 (remainder ^^^ byte.toUInt32)

def crc (data : List UInt8) : UInt32 :=
  data.foldl crcByte 0xFFFFFFFF ^^^ 0xFFFFFFFF

def chunk (kind : String) (data : List UInt8) : List UInt8 :=
  let named := kind.toUTF8.toList ++ data
  Deflate.bigEndian data.length.toUInt32 ++ named ++ Deflate.bigEndian (crc named)

/-- What makes the bytes of an image, all but the end of the file. -/
abbrev Encoder := (width height : UInt32) → (data : List UInt8) → List UInt8

/-- Data in `count` rows of a length. -/
def rows (length : Nat) : (count : Nat) → (data : List UInt8) → List (List UInt8)
  | 0, _ => []
  | count + 1, data => data.take length :: rows length count (data.drop length)

/-- The difference between every byte and the same part of the pixel before. -/
def differences (row : List UInt8) : List UInt8 :=
  List.zipWith (· - ·) row (List.replicate 4 0 ++ row)

/-- A byte before each row says how the row is given. -/
def imageData (width height : UInt32) (data : List UInt8) : List UInt8 :=
  let rows := rows (4 * width.toNat) height.toNat data
  let coded := Deflate.coded (rows.flatMap fun row => [[1], differences row])
  let stored := Deflate.stored (rows.flatMap fun row => 0 :: row)
  if coded.length ≤ stored.length then coded else stored

def signature : List UInt8 := [0x89, 0x50, 0x4E, 0x47, 0x0D, 0x0A, 0x1A, 0x0A]

/-- Eight bits for each of red, green, blue and alpha. -/
def header (width height : UInt32) : List UInt8 :=
  Deflate.bigEndian width ++ Deflate.bigEndian height ++ [8, 6, 0, 0, 0]

def encode : Encoder := fun width height data =>
  signature ++ chunk "IHDR" (header width height) ++ chunk "IDAT" (imageData width height data)

/-- The end of an image file. -/
def closing : List UInt8 :=
  chunk "IEND" []

end FrameCycle.Png
