import FrameCycle.Text.CharSet

/-!
Regular expressions and whether one is found in a text. Matching goes through sets of places: from the
places where a match of a part can start to those where it can end.
-/
namespace FrameCycle

namespace Regex

/-- What holds at a place. Words are made of ASCII letters, digits and underscores. -/
inductive Look where
  | textStart
  | textEnd
  /-- Also between a carriage return and a line feed only if `crlf` is not set. -/
  | lineStart (crlf : Bool)
  | lineEnd (crlf : Bool)
  | boundary
  | notBoundary
  | wordStart
  | wordEnd
  | wordStartHalf
  | wordEndHalf
  /-- A boundary of words in any script, which cannot be looked for. -/
  | anyScript
  deriving DecidableEq

end Regex

inductive Regex where
  | empty
  | one (set : CharSet)
  | look (what : Regex.Look)
  | seq (first second : Regex)
  | alt (left right : Regex)
  | captured (body : Regex)
  /-- From `low` times up to `high` times, or any number of times from `low` on. -/
  | repeated (body : Regex) (low : Nat) (high : Option Nat)

namespace Regex

def isWordChar (c : Char) : Bool :=
  c.isAlphanum || c == '_'

/-- Whether it holds between two characters, of which there is none at an end of the text. -/
def Look.holds (look : Look) (before after : Option Char) : Bool :=
  let wordBefore := before.any isWordChar
  let wordAfter := after.any isWordChar
  match look with
  | textStart => before.isNone
  | textEnd => after.isNone
  | lineStart crlf =>
      before.isNone || before == some '\n' || (crlf && before == some '\r' && after != some '\n')
  | lineEnd crlf =>
      after.isNone || (crlf && after == some '\r') ||
        (after == some '\n' && !(crlf && before == some '\r'))
  | boundary => wordBefore != wordAfter
  | notBoundary => wordBefore == wordAfter
  | wordStart => !wordBefore && wordAfter
  | wordEnd => wordBefore && !wordAfter
  | wordStartHalf => !wordBefore
  | wordEndHalf => !wordAfter
  | anyScript => false

/-- For every place of a text, its end included, whether it belongs to the set. -/
abbrev Places := List Bool

namespace Places

def union (left right : Places) : Places :=
  List.zipWith (· || ·) left right

/-- The places behind the members of `set` that stand at one of these. -/
def behind (set : CharSet) (text : List Char) (places : Places) : Places :=
  false :: List.zipWith (fun here c => here && set.contains c) places text

/-- Those of the places where `look` holds, if `before` is the character before the text. -/
def looking (look : Look) (before : Option Char) : (text : List Char) → Places → Places
  | [], places => places.map fun here => here && look.holds before none
  | c :: text, here :: places =>
      (here && look.holds before (some c)) :: looking look (some c) text places
  | _ :: _, [] => []

/-- Goes on `count` times, or until nothing changes any more. -/
def iterate (advance : Places → Places) : (count : Nat) → Places → Places
  | 0, places => places
  | count + 1, places =>
      let next := advance places
      if next = places then places else iterate advance count next

/-- Goes on at most `count` times. -/
def iterateUpTo (advance : Places → Places) (count : Nat) (places : Places) : Places :=
  iterate (fun places => union places (advance places)) count places

end Places

/-- The places where a match can end that starts at one of the given ones. A repetition that goes on
more often than the text has characters repeats something empty, and more of that changes nothing. -/
def ends (text : List Char) : Regex → Places → Places
  | empty, places => places
  | one set, places => places.behind set text
  | look what, places => places.looking what none text
  | seq first second, places => second.ends text (first.ends text places)
  | alt left right, places => (left.ends text places).union (right.ends text places)
  | captured body, places => body.ends text places
  | repeated body low high, places =>
      let most := text.length + 1
      let more := match high with
        | none => most
        | some high => min most (high - low)
      Places.iterateUpTo (body.ends text) more (Places.iterate (body.ends text) (min most low) places)

/-- Whether a match is found anywhere. -/
def isFoundIn (regex : Regex) (text : List Char) : Bool :=
  (regex.ends text (List.replicate (text.length + 1) true)).any id

/-- Nothing is ever read by it. -/
def isNarrow : Regex → Bool
  | empty => true
  | one _ => false
  | look _ => true
  | seq first second => first.isNarrow && second.isNarrow
  | alt left right => left.isNarrow && right.isNarrow
  | captured body => body.isNarrow
  | repeated body _ _ => body.isNarrow

/-- It needs boundaries of words in any script. -/
def needsScripts : Regex → Bool
  | empty | one _ => false
  | look what => what == .anyScript
  | seq first second => first.needsScripts || second.needsScripts
  | alt left right => left.needsScripts || right.needsScripts
  | captured body => body.needsScripts
  | repeated body _ _ => body.needsScripts

/-- The bytes that the states of an automaton for it take, of which each takes 32. -/
def weight : Regex → Nat
  | empty | look _ => 32
  | one set =>
      match set.bounds with
      | [first, last] => if last = first + 1 then 32 * (Char.ofNat first).utf8Size else oneOf set
      | _ => oneOf set
  | seq first second => first.weight + second.weight
  | alt left right => left.weight + right.weight + 72
  | captured body => body.weight + 64
  | repeated body low none => low * body.weight + (if low = 0 then body.weight else 0) + 40
  | repeated body low (some high) => low * body.weight + (high - low) * (body.weight + 40) + 32
where
  oneOf (set : CharSet) : Nat :=
    if set.isBelow 0x80 then 64 + 4 * set.bounds.length else 424

/-- Heavier expressions are refused. -/
def weightLimit : Nat := 10485760

end Regex

end FrameCycle
