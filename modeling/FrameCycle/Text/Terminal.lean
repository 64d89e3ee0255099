/-!
Plain text from text that can hold orders to a terminal. Dropped are the sequences that an escape
character opens and all control characters but those that lay text out; an unfinished sequence swallows
what follows it.
-/
namespace FrameCycle.Terminal

/-- What has been opened and not yet ended. -/
inductive Sequence where
  | nothing
  | escape
  /-- An escape with marks between it and its last character. -/
  | markedEscape
  | control
  | device
  | deviceNumbers
  | markedDevice
  /-- A string for the terminal, of which nothing is shown. -/
  | string
  /-- A string that a bell ends. -/
  | title
  deriving DecidableEq

def within (first last : Nat) (c : Char) : Bool :=
  decide (first ≤ c.toNat) && decide (c.toNat ≤ last)

/-- The controls that lay text out. -/
def isLayout (c : Char) : Bool :=
  c = '\t' || c = '\n' || c = '\r' || c.toNat == 0x0C

/-- Whether a character outside all sequences is shown. -/
def isShown (c : Char) : Bool :=
  within 0x20 0x7E c || isLayout c || decide (0x80 ≤ c.toNat)

/-- The byte that ends a string where text is read byte by byte. -/
def endsString (c : Char) : Bool :=
  decide (0x80 ≤ c.toNat) && (String.utf8EncodeChar c).contains 0x9C

namespace Sequence

/-- What the character behind an escape opens. -/
def opened (c : Char) : Sequence :=
  if c = '[' then control
  else if c = ']' then title
  else if c = 'P' then device
  else if c = 'X' ∨ c = '^' ∨ c = '_' then string
  else nothing

/-- Takes in a character that neither opens a sequence nor breaks one off. -/
def continued (sequence : Sequence) (c : Char) : Sequence :=
  match sequence with
  | nothing => nothing
  | escape =>
      if within 0x20 0x2F c then markedEscape else if within 0x30 0x7E c then opened c else escape
  | markedEscape => if within 0x30 0x7E c then nothing else markedEscape
  | control => if within 0x40 0x7E c then nothing else control
  | device =>
      if within 0x20 0x2F c then markedDevice
      else if within 0x30 0x3F c then deviceNumbers
      else if within 0x40 0x7E c then string
      else device
  | deviceNumbers =>
      if within 0x20 0x2F c then markedDevice
      else if within 0x3C 0x7E c then string
      else deviceNumbers
  | markedDevice => if within 0x30 0x7E c then string else markedDevice
  | string => if endsString c then nothing else string
  | title => if c.toNat = 0x07 then nothing else title

/-- Whether layout is shown although the sequence goes on. -/
def showsLayout : Sequence → Bool
  | nothing | escape | markedEscape | control => true
  | _ => false

/-- Takes in a character; also whether it is shown. -/
def next (sequence : Sequence) (c : Char) : Sequence × Bool :=
  if c.toNat = 0x18 ∨ c.toNat = 0x1A then (nothing, false)
  else if c.toNat = 0x1B then (escape, false)
  else
    (sequence.continued c,
      match sequence with
      | nothing => isShown c
      | _ => sequence.showsLayout && isLayout c)

end Sequence

/-- What is shown of a text. Once a character is shown the text counts as plain until one comes that is
not shown; if `lingers`, the sequence that was open before then is taken up again. -/
def shown (lingers : Bool) (isPlain : Bool) (sequence : Sequence) : List Char → List Char
  | [] => []
  | c :: rest =>
      if isPlain && isShown c then
        c :: shown lingers true (if within 0 0x7F c then sequence else .nothing) rest
      else
        let (after, isVisible) := sequence.next c
        if isVisible then c :: shown lingers true (if lingers then after else .nothing) rest
        else shown lingers false after rest

/-- A text as a value. -/
def plain (text : List Char) : List Char :=
  shown false false .nothing text

/-- A text as it is written to a file or a terminal. -/
def streamed (text : List Char) : List Char :=
  shown true false .nothing text

/-- Takes back all colours, and ends a sequence that is open before it. -/
def reset : List Char := ['\x1b', '[', '0', 'm']

end FrameCycle.Terminal
