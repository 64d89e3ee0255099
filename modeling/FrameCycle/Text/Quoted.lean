import FrameCycle.Text.Hidden
import FrameCycle.Text.Utf8

/-!
Quoted text for messages. Between the quotes a quote and a backslash are escaped, hidden characters
are given by number, and bytes that belong to no character are given one by one.
-/
namespace FrameCycle.Text

def upperHexDigit (n : Nat) : Char :=
  if n < 10 then Char.ofNat (48 + n) else Char.ofNat (55 + n)

/-- A character by its number, as in `\u{7f}`. -/
def byNumber (c : Char) : List Char :=
  ['\\', 'u', '\x7b'] ++ Nat.toDigits 16 c.toNat ++ ['\x7d']

def escaped (c : Char) : List Char :=
  if c = '"' then ['\\', '"']
  else if c = '\\' then ['\\', '\\']
  else if c = '\t' then ['\\', 't']
  else if c = '\r' then ['\\', 'r']
  else if c = '\n' then ['\\', 'n']
  else if c.toNat = 0 then ['\\', '0']
  else if isHidden c then byNumber c
  else [c]

/-- A byte by its number, as in `\xFF`. -/
def escapedByte (byte : UInt8) : List Char :=
  ['\\', 'x', upperHexDigit (byte.toNat / 16), upperHexDigit (byte.toNat % 16)]

def escapedPiece : Utf8.Piece → List Char
  | .char c => escaped c
  | .stray bytes => bytes.flatMap escapedByte

def quoted (text : List Char) : String :=
  String.ofList ('"' :: text.flatMap escaped ++ ['"'])

def quotedBytes (bytes : List UInt8) : String :=
  String.ofList ('"' :: (Utf8.pieces bytes).flatMap escapedPiece ++ ['"'])

end FrameCycle.Text
