/-!
UTF-8 as a division of bytes into characters and stray bytes. Every byte belongs to exactly one
piece; a stray piece is the longest start of a character that the byte after it breaks off.
-/
namespace FrameCycle.Utf8

inductive Piece where
  | char (c : Char)
  | stray (bytes : List UInt8)
  deriving DecidableEq

/-- What the first byte of a longer character announces: its own bits, the bytes that may come
second, and how many continuation bytes come after the second. -/
structure Lead where
  payload : Nat
  low : UInt8
  high : UInt8
  more : Nat

def lead? (byte : UInt8) : Option Lead :=
  if 0xC2 ≤ byte ∧ byte ≤ 0xDF then some ⟨byte.toNat - 0xC0, 0x80, 0xBF, 0⟩
  else if byte = 0xE0 then some ⟨0x0, 0xA0, 0xBF, 1⟩
  else if byte = 0xED then some ⟨0xD, 0x80, 0x9F, 1⟩
  else if 0xE1 ≤ byte ∧ byte ≤ 0xEF then some ⟨byte.toNat - 0xE0, 0x80, 0xBF, 1⟩
  else if byte = 0xF0 then some ⟨0, 0x90, 0xBF, 2⟩
  else if 0xF1 ≤ byte ∧ byte ≤ 0xF3 then some ⟨byte.toNat - 0xF0, 0x80, 0xBF, 2⟩
  else if byte = 0xF4 then some ⟨4, 0x80, 0x8F, 2⟩
  else none

/-- Reads `more` continuation bytes onto the bits in `value`; `seen` are the bytes behind them. -/
def continuation : (more value : Nat) → (seen bytes : List UInt8) → Piece × List UInt8
  | 0, value, _, rest => (.char (Char.ofNat value), rest)
  | _ + 1, _, seen, [] => (.stray seen, [])
  | more + 1, value, seen, byte :: rest =>
      if 0x80 ≤ byte ∧ byte ≤ 0xBF then
        continuation more (value * 64 + (byte.toNat - 0x80)) (seen ++ [byte]) rest
      else (.stray seen, byte :: rest)

/-- The piece that starts with `byte`, and what follows it. -/
def first (byte : UInt8) (rest : List UInt8) : Piece × List UInt8 :=
  if byte < 0x80 then (.char (Char.ofNat byte.toNat), rest)
  else
    match lead? byte, rest with
    | some lead, second :: rest' =>
        if lead.low ≤ second ∧ second ≤ lead.high then
          continuation lead.more (lead.payload * 64 + (second.toNat - 0x80)) [byte, second] rest'
        else (.stray [byte], rest)
    | _, _ => (.stray [byte], rest)

theorem continuation_length_le (more value : Nat) (seen bytes : List UInt8) :
    (continuation more value seen bytes).2.length ≤ bytes.length := by
  induction more generalizing value seen bytes with
  | zero => simp [continuation]
  | succ more inductionHypothesis =>
      cases bytes with
      | nil => simp [continuation]
      | cons byte rest =>
          simp only [continuation]
          split
          · exact Nat.le_succ_of_le (inductionHypothesis _ _ _)
          · simp

theorem first_length_le (byte : UInt8) (rest : List UInt8) :
    (first byte rest).2.length ≤ rest.length := by
  unfold first
  split
  · simp
  · split
    · split
      · exact Nat.le_succ_of_le (continuation_length_le _ _ _ _)
      · simp
    · simp

def pieces : List UInt8 → List Piece
  | [] => []
  | byte :: rest => (first byte rest).1 :: pieces (first byte rest).2
termination_by bytes => bytes.length
decreasing_by exact Nat.lt_succ_of_le (first_length_le byte rest)

namespace Piece

def char? : Piece → Option Char
  | char c => some c
  | stray _ => none

/-- A stray piece stands for one replacement character. -/
def replaced : Piece → Char
  | char c => c
  | stray _ => '\uFFFD'

end Piece

/-- The text that the bytes encode, if all of them belong to characters. -/
def decode? (bytes : List UInt8) : Option (List Char) :=
  (pieces bytes).mapM Piece.char?

/-- The text with a replacement character for every stray piece. -/
def lossy (bytes : List UInt8) : List Char :=
  (pieces bytes).map Piece.replaced

def encode (text : List Char) : List UInt8 :=
  text.flatMap String.utf8EncodeChar

/-- The bytes that a text takes when encoded. -/
def size (text : List Char) : Nat :=
  text.foldl (fun total c => total + c.utf8Size) 0

end FrameCycle.Utf8
