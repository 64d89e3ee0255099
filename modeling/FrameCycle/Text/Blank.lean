import FrameCycle.Text.CharSet

/-!
Blank characters: those that part words in the text of any script.
-/
namespace FrameCycle.Text

def blanks : CharSet :=
  ⟨[0x09, 0x0E, 0x20, 0x21, 0x85, 0x86, 0xA0, 0xA1, 0x1680, 0x1681, 0x2000, 0x200B, 0x2028, 0x202A,
    0x202F, 0x2030, 0x205F, 0x2060, 0x3000, 0x3001]⟩

def isBlank (c : Char) : Bool :=
  blanks.contains c

/-- The text without blanks at its ends. -/
def trimmed (text : List Char) : List Char :=
  ((text.dropWhile isBlank).reverse.dropWhile isBlank).reverse

end FrameCycle.Text
