/-!
Compressed data: one block in one fixed code, in which zeros are short and runs of zeros are given by
their length, or blocks without compression where those are shorter.
-/
namespace FrameCycle.Deflate

/-- The two sums that close compressed data. -/
def adler (data : List UInt8) : UInt32 :=
  let sums := data.foldl
    (fun (low, high) byte =>
      let low := (low + byte.toUInt32) % 65521
      (low, (high + low) % 65521))
    ((1, 0) : UInt32 × UInt32)
  sums.2 <<< 16 ||| sums.1

/-- A number in bytes, the highest first. -/
def bigEndian (value : UInt32) : List UInt8 :=
  [(value >>> 24).toUInt8, (value >>> 16).toUInt8, (value >>> 8).toUInt8, value.toUInt8]

/-! Blocks without compression. -/

/-- The most bytes that a stored block holds. -/
def blockLimit : Nat := 65535

def littleEndian16 (value : Nat) : List UInt8 :=
  [value.toUInt8, (value / 256).toUInt8]

def block (isLast : Bool) (data : List UInt8) : List UInt8 :=
  (if isLast then 1 else 0) :: littleEndian16 data.length ++
    littleEndian16 (blockLimit - data.length) ++ data

def blocks (data : List UInt8) : List UInt8 :=
  if data.length ≤ blockLimit then block true data
  else block false (data.take blockLimit) ++ blocks (data.drop blockLimit)
termination_by data.length
decreasing_by simp_all [blockLimit]; omega

def stored (data : List UInt8) : List UInt8 :=
  [0x78, 0x01] ++ blocks data ++ bigEndian (adler data)

/-! The fixed code. Its symbols are the bytes, the end of the data and the lengths of runs. -/

/-- The bits that the symbols take, as runs of symbols that take the same. -/
def bitRuns : List (Nat × Nat) :=
  [(2, 1), (3, 1), (4, 1), (5, 2), (6, 2), (7, 3), (8, 5), (9, 7), (10, 9), (11, 12), (12, 171),
   (11, 10), (10, 1), (11, 1), (10, 9), (9, 5), (8, 1), (9, 1), (8, 5), (7, 3), (6, 3), (5, 1),
   (4, 1), (3, 1), (12, 3), (9, 2), (11, 1), (10, 1), (11, 2), (10, 1), (11, 6), (12, 1), (11, 1),
   (12, 11), (9, 1)]

def bitCounts : List Nat :=
  bitRuns.flatMap fun (bits, symbols) => List.replicate symbols bits

/-- What stands before the data: the format, and the bits that the symbols take. -/
def header : List UInt8 :=
  [120, 1, 237, 192, 3, 160, 36, 89, 150, 198, 241, 255, 119, 238, 141, 200, 204, 167, 114, 75, 99,
   174, 109, 219, 182, 109, 219, 182, 109, 219, 182, 109, 105, 140, 158, 150, 74, 175, 158, 50, 51,
   34, 238, 249, 118, 183, 106, 122, 166, 135, 59, 107, 213]

/-- The end of the header, in the byte that the data starts in. -/
def headerBits : List Bool := [true, true, true, true, false]

/-- The lowest `count` bits of a number, the lowest first. -/
def lowBits (count value : Nat) : List Bool :=
  (List.range count).map value.testBit

/-- The codes of one length are numbers in a row, which start behind those that shorter codes
begin. -/
def code (symbol bits : Nat) : List Bool :=
  let shorter := (bitCounts.filter (· < bits)).foldl (fun sum other => sum + Nat.pow 2 (bits - other)) 0
  let before := (bitCounts.take symbol).count bits
  (lowBits bits (shorter + before)).reverse

def codes : Array (List Bool) :=
  (bitCounts.zipIdx.map fun (bits, symbol) => code symbol bits).toArray

def symbolBits (symbol : Nat) : List Bool :=
  codes.getD symbol []

def byteBits (byte : UInt8) : List Bool :=
  symbolBits byte.toNat

/-- The distance back to what a run repeats is the same for all runs. -/
def distance : Bool := false

/-- Zeros beyond the first, of which `count` are left. -/
def furtherZeros (count : Nat) : List Bool :=
  if 258 ≤ count then symbolBits 285 ++ distance :: furtherZeros (count - 258)
  else if 4 < count then
    let rest := count - 3
    if rest < 8 then symbolBits (257 + rest) ++ [distance]
    else
      let extra := rest.log2 - 2
      symbolBits (257 + 4 * extra + rest / Nat.pow 2 extra) ++ lowBits extra rest ++ [distance]
  else (List.replicate count (byteBits 0)).flatten
termination_by count
decreasing_by omega

def zeros (count : Nat) : List Bool :=
  if count = 0 then [] else byteBits 0 ++ furtherZeros (count - 1)

def dropZeros (bytes : List UInt8) : List UInt8 :=
  bytes.dropWhile (· == 0)

/-- Data by groups of eight. Zeros at the end of a group wait in `run` for those that follow, and a
run ends at the first other byte or with the last whole group. -/
def grouped (run : Nat) (data : List UInt8) : List Bool :=
  if data.length < 8 then zeros run ++ data.flatMap byteBits
  else
    let group := data.take 8
    if group.all (· == 0) then grouped (run + 8) (data.drop 8)
    else
      let joined := if run = 0 then group else dropZeros group
      let body := (dropZeros joined.reverse).reverse
      zeros (if run = 0 then 0 else run + (group.length - joined.length)) ++ body.flatMap byteBits ++
        grouped (joined.length - body.length) (data.drop 8)
termination_by data.length
decreasing_by all_goals simp; omega

def byteOf (bits : List Bool) : UInt8 :=
  (bits.foldr (fun (bit : Bool) value => 2 * value + bit.toNat) 0).toUInt8

/-- Bits in bytes, the lowest first. -/
def packed : List Bool → List UInt8
  | a :: b :: c :: d :: e :: f :: g :: h :: rest => byteOf [a, b, c, d, e, f, g, h] :: packed rest
  | [] => []
  | rest => [byteOf rest]

/-- The data of `parts`, each coded for itself. -/
def coded (parts : List (List UInt8)) : List UInt8 :=
  header ++ packed (headerBits ++ parts.flatMap (grouped 0) ++ symbolBits 256) ++
    bigEndian (adler parts.flatten)

end FrameCycle.Deflate
