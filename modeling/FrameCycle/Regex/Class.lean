import FrameCycle.Regex.Escape

/-!
Classes between brackets. They hold characters, ranges and further classes, side by side or joined by
operators; an operator takes all that stands before it on its left.
-/
namespace FrameCycle.Regex

/-- Classes by the names that they have inside brackets. -/
def namedSets : List (String × CharSet) :=
  [("alnum", ⟨[0x30, 0x3A, 0x41, 0x5B, 0x61, 0x7B]⟩),
   ("alpha", ⟨[0x41, 0x5B, 0x61, 0x7B]⟩),
   ("ascii", ⟨[0x0, 0x80]⟩),
   ("blank", ⟨[0x09, 0x0A, 0x20, 0x21]⟩),
   ("cntrl", ⟨[0x0, 0x20, 0x7F, 0x80]⟩),
   ("digit", ⟨[0x30, 0x3A]⟩),
   ("graph", ⟨[0x21, 0x7F]⟩),
   ("lower", ⟨[0x61, 0x7B]⟩),
   ("print", ⟨[0x20, 0x7F]⟩),
   ("punct", ⟨[0x21, 0x30, 0x3A, 0x41, 0x5B, 0x61, 0x7B, 0x7F]⟩),
   ("space", ⟨[0x09, 0x0E, 0x20, 0x21]⟩),
   ("upper", ⟨[0x41, 0x5B]⟩),
   ("word", ⟨[0x30, 0x3A, 0x41, 0x5B, 0x5F, 0x60, 0x61, 0x7B]⟩),
   ("xdigit", ⟨[0x30, 0x3A, 0x41, 0x47, 0x61, 0x67]⟩)]

/-- Items side by side, which start at `place` if there are none. -/
def ClassSet.ofItems (place : Nat) (items : List ClassSet) : ClassSet :=
  match items with
  | [] => .union ⟨place, place⟩ []
  | [item] => item
  | first :: rest => .union ⟨first.span.start, (rest.getLastD first).span.stop⟩ items

/-- What waits for the class that is being read. -/
inductive ClassFrame where
  /-- An open class, the part of it that opens it, and the items before it in the class around it. -/
  | opened (span : Span) (negated : Bool) (place : Nat) (items : List ClassSet)
  | joined (joint : Joint) (left : ClassSet)

/-- A class that is being read: the frames around it, the nearest first, and the items so far, the last
first. -/
structure ClassState where
  frames : List ClassFrame
  place : Nat
  items : List ClassSet

namespace ClassState

/-- The part that opens the innermost open class. -/
def opening (frames : List ClassFrame) : Span :=
  match frames with
  | [] => ⟨0, 0⟩
  | .opened span _ _ _ :: _ => span
  | .joined _ _ :: frames => opening frames

def unclosed {α : Type} (state : ClassState) : Reading α :=
  fail .classUnclosed (opening state.frames)

def push (state : ClassState) (item : ClassSet) : ClassState :=
  { state with items := item :: state.items }

/-- The items so far as one set, joined to what stands on the left of them. -/
def gathered (state : ClassState) : ClassSet × List ClassFrame :=
  let set := ClassSet.ofItems state.place state.items.reverse
  match state.frames with
  | .joined joint left :: frames =>
      (.joint ⟨left.span.start, set.span.stop⟩ joint left set, frames)
  | frames => (set, frames)

/-- Dashes that open a class mean themselves. -/
def dashes (start : Nat) (cursor : Cursor) : Reading (List ClassSet × Cursor) :=
  match _ : cursor.rest with
  | '-' :: _ =>
      if cursor.step.atEnd then fail .classUnclosed ⟨start, start⟩
      else do
        let (later, after) ← dashes start cursor.step
        return (.literal ⟨cursor.ahead, '-', false⟩ :: later, after)
  | _ => .ok ([], cursor)
termination_by cursor.rest.length
decreasing_by exact Cursor.step_rest_length_lt ‹_›

/-- Opens a class at a bracket. A closing bracket that comes first means itself. -/
def openClass (state : ClassState) (cursor : Cursor) : Reading (ClassState × Cursor) := do
  let start := cursor.offset
  let first := cursor.step
  if first.atEnd then fail .classUnclosed (first.since start)
  let negated := first.sees '^'
  let first := if negated then first.step else first
  if first.atEnd then fail .classUnclosed (first.since start)
  let (items, after) ← dashes start first
  if items.isEmpty && after.sees ']' then
    let item := .literal ⟨after.ahead, ']', false⟩
    let after := after.step
    if after.atEnd then fail .classUnclosed (after.since start)
    return (⟨.opened (after.since start) negated state.place state.items :: state.frames, first.offset,
      [item]⟩, after)
  return (⟨.opened (after.since start) negated state.place state.items :: state.frames, first.offset,
    items.reverse⟩, after)

/-- Reads the name of a class in its own brackets and colons; anything else there is none. -/
def named? (cursor : Cursor) : Option (ClassSet × Cursor) :=
  match cursor.rest with
  | '[' :: ':' :: rest =>
      let negated := rest.head? == some '^'
      let rest := if negated then rest.drop 1 else rest
      let name := rest.takeWhile (· != ':')
      match rest.drop name.length, namedSets.lookup (String.ofList name) with
      | ':' :: ']' :: _, some members =>
          let after := cursor.drop (name.length + if negated then 5 else 4)
          some (.named (after.since cursor.offset) members negated, after)
      | _, _ => none
  | _ => none

/-- Closes the innermost class; the outermost one is given back. -/
def close (state : ClassState) (cursor : Cursor) : Reading (Option Pattern × ClassState × Cursor) :=
  let after := cursor.next
  match state.gathered with
  | (set, .opened span negated place items :: frames) =>
      let span := after.since span.start
      if frames.isEmpty then
        .ok (some (.bracketed span negated set), ⟨[], place, items⟩, after)
      else .ok (none, ⟨frames, place, .bracketed span negated set :: items⟩, after)
  | _ => state.unclosed

/-- One character, or what a backslash gives. -/
def item (cursor : Cursor) (c : Char) : Reading (Pattern × Cursor) :=
  if c = '\\' then escape cursor else .ok (.literal ⟨cursor.ahead, c, false⟩, cursor.next)

def member : Pattern → Reading ClassSet
  | .literal literal => .ok (.literal literal)
  | .shorthand span kind negated => .ok (.shorthand span kind negated)
  | .property span property negated => .ok (.property span property negated)
  | other => fail .classEscapeInvalid other.span

def bound : Pattern → Reading Literal
  | .literal literal => .ok literal
  | other => fail .classRangeLiteral other.span

/-- Reads a member or a range. A dash before a closing bracket or another dash makes no range. -/
def range (state : ClassState) (cursor : Cursor) (c : Char) : Reading (ClassSet × Cursor) := do
  let (first, after) ← item cursor c
  let after := after.skip
  if after.atEnd then state.unclosed
  else if !after.sees '-' || after.second? == some ']' || after.second? == some '-' then
    return (← member first, after)
  else
    let after := after.step
    match after.head? with
    | none => state.unclosed
    | some c =>
        let (second, after) ← item after c
        let span : Span := ⟨first.span.start, second.span.stop⟩
        let low ← bound first
        let high ← bound second
        if high.char < low.char then fail .classRangeInvalid span
        else return (.range span low high, after)

def joint? (cursor : Cursor) : Option Joint :=
  match cursor.rest with
  | '&' :: '&' :: _ => some .intersection
  | '-' :: '-' :: _ => some .difference
  | '~' :: '~' :: _ => some .symmetricDifference
  | _ => none

/-- Reads the next part of a class. -/
def advance (state : ClassState) (cursor : Cursor) :
    Reading (Option Pattern × ClassState × Cursor) := do
  let cursor := cursor.skip
  match cursor.head?, joint? cursor with
  | none, _ => state.unclosed
  | some _, some joint =>
      let (left, frames) := state.gathered
      let after := cursor.drop 2
      return (none, ⟨.joined joint left :: frames, after.offset, []⟩, after)
  | some c, none =>
      if c = '[' then
        match named? cursor with
        | some (item, after) => return (none, state.push item, after)
        | none => return (none, ← state.openClass cursor)
      else if c = ']' then state.close cursor
      else
        let (item, after) ← state.range cursor c
        return (none, state.push item, after)

/-- Reads on to the end of the outermost class. Every part takes at least a character. -/
def readAll (state : ClassState) (cursor : Cursor) : Reading (Pattern × Cursor) :=
  match state.advance cursor with
  | .error error => .error error
  | .ok (some pattern, _, after) => .ok (pattern, after)
  | .ok (none, state, after) =>
      if after.rest.length < cursor.rest.length then readAll state after else state.unclosed
termination_by cursor.rest.length

end ClassState

/-- Reads a class from its opening bracket on. -/
def bracketed (cursor : Cursor) : Reading (Pattern × Cursor) := do
  let (state, after) ← ClassState.openClass ⟨[], cursor.offset, []⟩ cursor
  state.readAll after

end FrameCycle.Regex
