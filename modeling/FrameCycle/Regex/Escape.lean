import FrameCycle.Regex.Cursor

/-!
What stands behind a backslash: a character, a class or an assertion. Letters and digits without a
meaning are refused, other characters mean themselves.
-/
namespace FrameCycle.Regex

/-- A backslash that has been read, and what follows it. -/
structure Escape where
  /-- Where the backslash stands. -/
  start : Nat
  /-- Behind the backslash. -/
  cursor : Cursor

namespace Escape

def isHexDigit (c : Char) : Bool :=
  c.isDigit || (decide ('a' ≤ c) && decide (c ≤ 'f')) || (decide ('A' ≤ c) && decide (c ≤ 'F'))

def hexValue (digits : List Char) : Nat :=
  digits.foldl
    (fun sum digit =>
      16 * sum + if digit.isDigit then digit.toNat - 48 else digit.toLower.toNat - 87)
    0

def charOf? (code : Nat) : Option Char :=
  if code.isValidChar then some (Char.ofNat code) else none

/-- Reads as many hexadecimal digits as asked for. -/
def fixedDigits (isFirst : Bool) : (count : Nat) → Cursor → Reading (List Char × Cursor)
  | 0, cursor => .ok ([], cursor)
  | count + 1, cursor =>
      let cursor := if isFirst then cursor else cursor.step
      match cursor.head? with
      | none => fail .escapeUnfinished cursor.here
      | some c =>
          if isHexDigit c then do
            let (digits, after) ← fixedDigits false count cursor
            return (c :: digits, after)
          else fail .hexInvalidDigit cursor.ahead

/-- Reads a character by its number; `count` digits, or any number of them in braces. -/
def hex (escape : Escape) (count : Nat) : Reading (Literal × Cursor) := do
  let first := escape.cursor.step
  match first.head? with
  | none => fail .escapeUnfinished first.here
  | some '\x7b' =>
      let (digits, stop) := first.step.takeWhile isHexDigit
      match stop.head? with
      | none => fail .escapeUnfinished (stop.since first.offset)
      | some '\x7d' =>
          let after := stop.step
          if digits.isEmpty then fail .hexEmpty (after.since first.offset)
          else
            match charOf? (hexValue digits) with
            | none => fail .hexInvalid (stop.since (first.offset + 1))
            | some c => return (⟨after.since escape.start, c, false⟩, after)
      | some _ => fail .hexInvalidDigit stop.ahead
  | some _ =>
      let (digits, last) ← fixedDigits true count first
      let after := last.step
      match charOf? (hexValue digits) with
      | none => fail .hexInvalid (after.since first.offset)
      | some c => return (⟨after.since escape.start, c, count == 2⟩, after)

/-- The name of a property, and its value behind the first of the marks for that. -/
def propertyOf (text : List Char) : Property :=
  let cut (mark : List Char) : Option Property :=
    (List.range text.length).findSome? fun index =>
      if mark.isPrefixOf (text.drop index) then
        some ⟨text.take index, some (text.drop (index + mark.length))⟩
      else none
  ((cut ['!', '=']).or ((cut [':']).or (cut ['=']))).getD ⟨text, none⟩

/-- Reads the name of a property: one letter, or any text in braces. -/
def property (escape : Escape) (negated : Bool) : Reading (Pattern × Cursor) := do
  let first := escape.cursor.step
  match first.head? with
  | none => fail .escapeUnfinished first.here
  | some '\x7b' =>
      let (name, stop) := first.step.takeWhile (· != '\x7d')
      if stop.atEnd then fail .escapeUnfinished stop.here
      else
        let after := stop.next
        return (.property (after.since escape.start) (propertyOf name) negated, after)
  | some '\\' => fail .propertyInvalid first.ahead
  | some c =>
      let after := first.step
      return (.property (after.since escape.start) ⟨[c], none⟩ negated, after)

def boundary? (name : String) : Option Assertion :=
  if name = "start" then some .wordStart
  else if name = "end" then some .wordEnd
  else if name = "start-half" then some .wordStartHalf
  else if name = "end-half" then some .wordEndHalf
  else none

def isNameChar (c : Char) : Bool :=
  c.isAlpha || c == '-'

/-- Reads the kind of a boundary in braces. Braces around anything but a name are left to be read as a
count. -/
def boundary (escape : Escape) (after : Cursor) : Reading (Pattern × Cursor) :=
  let plain := (.assertion (after.since escape.start) .boundary, after)
  if !after.sees '\x7b' then .ok plain
  else
    let first := after.step
    match first.head? with
    | none => fail .boundaryUnfinished (first.since escape.start)
    | some c =>
        if !isNameChar c then .ok plain
        else
          let (name, stop) := first.takeWhile isNameChar
          if !stop.sees '\x7d' then fail .boundaryUnclosed (stop.since after.offset)
          else
            match boundary? (String.ofList name) with
            | none => fail .boundaryUnrecognized (stop.since first.offset)
            | some kind => .ok (.assertion (stop.next.since escape.start) kind, stop.next)

/-- Characters that mean something unless they stand behind a backslash. -/
def isMeta (c : Char) : Bool :=
  "\\.+*?()|[]\x7b\x7d^$#&-~".toList.contains c

/-- Characters other than letters and digits mean themselves, except for angle brackets. -/
def isSelf (c : Char) : Bool :=
  isMeta c || (decide (c.toNat < 0x80) && !c.isAlphanum && c != '<' && c != '>')

def controlChar? (c : Char) : Option Char :=
  match c with
  | 'a' => some '\x07'
  | 'f' => some '\x0c'
  | 't' => some '\t'
  | 'n' => some '\n'
  | 'r' => some '\r'
  | 'v' => some '\x0b'
  | _ => none

def assertion? (c : Char) : Option Assertion :=
  match c with
  | 'A' => some .textStart
  | 'z' => some .textEnd
  | 'B' => some .notBoundary
  | '<' => some .wordStart
  | '>' => some .wordEnd
  | _ => none

def shorthand? (c : Char) : Option (Shorthand × Bool) :=
  match c with
  | 'd' => some (.digit, false)
  | 's' => some (.space, false)
  | 'w' => some (.word, false)
  | 'D' => some (.digit, true)
  | 'S' => some (.space, true)
  | 'W' => some (.word, true)
  | _ => none

/-- The digits that a character by its number has without braces. -/
def hexCount? (c : Char) : Option Nat :=
  match c with
  | 'x' => some 2
  | 'u' => some 4
  | 'U' => some 8
  | _ => none

/-- Reads what a single character behind the backslash stands for. -/
def single (escape : Escape) (c : Char) : Reading (Pattern × Cursor) :=
  let after := escape.cursor.next
  let span := after.since escape.start
  if isSelf c then .ok (.literal ⟨span, c, false⟩, after)
  else if c = 'b' then boundary escape after
  else
    match controlChar? c, assertion? c, shorthand? c with
    | some meant, _, _ => .ok (.literal ⟨span, meant, false⟩, after)
    | _, some assertion, _ => .ok (.assertion span assertion, after)
    | _, _, some (kind, negated) => .ok (.shorthand span kind negated, after)
    | _, _, _ => fail .escapeUnrecognized span

end Escape

/-- Reads a backslash and what belongs to it. -/
def escape (cursor : Cursor) : Reading (Pattern × Cursor) := do
  let inner : Escape := ⟨cursor.offset, cursor.next⟩
  match inner.cursor.head? with
  | none => fail .escapeUnfinished (inner.cursor.since cursor.offset)
  | some c =>
      if c.isDigit then fail .backreference (inner.cursor.next.since cursor.offset)
      else if c = 'p' ∨ c = 'P' then inner.property (c = 'P')
      else
        match Escape.hexCount? c with
        | some count =>
            let (literal, after) ← inner.hex count
            return (.literal literal, after)
        | none => inner.single c

end FrameCycle.Regex
