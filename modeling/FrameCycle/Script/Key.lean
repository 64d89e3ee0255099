/-!
The keys of the emulated keyboard, in the order of their codes.
-/
namespace FrameCycle

inductive Key where
  | shift | z | x | c | v
  | a | s | d | f | g
  | q | w | e | r | t
  | digit1 | digit2 | digit3 | digit4 | digit5
  | digit0 | digit9 | digit8 | digit7 | digit6
  | p | o | i | u | y
  | enter | l | k | j | h
  | space | symbolShift | m | n | b
  deriving DecidableEq

namespace Key

def all : List Key :=
  [shift, z, x, c, v, a, s, d, f, g, q, w, e, r, t,
   digit1, digit2, digit3, digit4, digit5, digit0, digit9, digit8, digit7, digit6,
   p, o, i, u, y, enter, l, k, j, h, space, symbolShift, m, n, b]

/-- The name of a key in a script. -/
def name : Key → String
  | shift => "Shift" | z => "Z" | x => "X" | c => "C" | v => "V"
  | a => "A" | s => "S" | d => "D" | f => "F" | g => "G"
  | q => "Q" | w => "W" | e => "E" | r => "R" | t => "T"
  | digit1 => "1" | digit2 => "2" | digit3 => "3" | digit4 => "4" | digit5 => "5"
  | digit0 => "0" | digit9 => "9" | digit8 => "8" | digit7 => "7" | digit6 => "6"
  | p => "P" | o => "O" | i => "I" | u => "U" | y => "Y"
  | enter => "Enter" | l => "L" | k => "K" | j => "J" | h => "H"
  | space => "Space" | symbolShift => "SymbolShift" | m => "M" | n => "N" | b => "B"

/-- The code under which the machine knows a key. -/
def code (key : Key) : Nat :=
  all.idxOf key

def isDigit (key : Key) : Bool :=
  decide (key.code ∈ List.range' 15 10)

/-- The name of a key in messages, where a digit is spelt out as a key. -/
def title (key : Key) : String :=
  if key.isDigit then "Key" ++ key.name else key.name

theorem mem_all (key : Key) : key ∈ all := by
  cases key <;> decide

end Key

end FrameCycle
