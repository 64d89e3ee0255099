import FrameCycle.Regex.Class
import FrameCycle.Regex.Depth
import FrameCycle.Text.Hidden

/-!
Reading a pattern: characters, classes and groups in a row, branches between bars, and repetitions of
what stands before them.
-/
namespace FrameCycle.Regex

/-- The branches of a group, or of the whole pattern, as far as they are read. -/
structure Branches where
  start : Nat
  /-- Branches that a bar has ended, the last first. -/
  ended : List Pattern
  /-- Where the branch starts that is being read. -/
  branchStart : Nat
  /-- Its parts, the last first. -/
  items : List Pattern

namespace Branches

def opened (start : Nat) : Branches :=
  ⟨start, [], start, []⟩

def push (branches : Branches) (item : Pattern) : Branches :=
  { branches with items := item :: branches.items }

/-- The branch that ends at `stop`. -/
def branch (branches : Branches) (stop : Nat) : Pattern :=
  match branches.items with
  | [] => .empty ⟨branches.branchStart, stop⟩
  | [item] => item
  | items => .concat ⟨branches.branchStart, stop⟩ items.reverse

def next (branches : Branches) (stop : Nat) : Branches :=
  { branches with
    ended := branches.branch stop :: branches.ended
    branchStart := stop + 1
    items := [] }

def whole (branches : Branches) (stop : Nat) : Pattern :=
  if branches.ended.isEmpty then branches.branch stop
  else
    .alternation ⟨branches.start, stop⟩ (branches.branch stop :: branches.ended).reverse

end Branches

/-- A group that is open, and what stands around it. -/
structure OpenGroup where
  /-- Its opening parenthesis. -/
  span : Span
  flags : Option Flags
  /-- Whether the pattern around it is written with spaces. -/
  isSpaced : Bool
  outer : Branches

structure ParserState where
  branches : Branches
  /-- The innermost first. -/
  groups : List OpenGroup
  names : List (List Char × Span)

namespace Flags

def isEmpty (flags : Flags) : Bool :=
  flags.set.isEmpty && flags.cleared.isEmpty

/-- The flag as it is left, if it was `held` before. -/
def applied (flags : Flags) (flag : Flag) (held : Bool) : Bool :=
  if flags.set.contains flag then true else if flags.cleared.contains flag then false else held

end Flags

def flag? (c : Char) : Option Flag :=
  match c with
  | 'i' => some .ignoreCase
  | 'm' => some .multiLine
  | 's' => some .dotMatchesAll
  | 'U' => some .swapGreed
  | 'u' => some .unicode
  | 'R' => some .crlf
  | 'x' => some .spaced
  | _ => none

/-- Reads flags up to a colon or a closing parenthesis. `seen` are those before, `none` for the dash
that takes the flags behind it back. -/
def flags (seen : List (Option Flag × Span)) (offset : Nat) : List Char → Reading Flags
  | [] => fail .flagUnfinished ⟨offset, offset⟩
  | c :: rest =>
      let span : Span := ⟨offset, offset + 1⟩
      if c = ':' ∨ c = ')' then
        match seen with
        | (none, dash) :: _ => fail .flagDanglingNegation dash
        | _ =>
            let kinds := seen.reverse.map Prod.fst
            .ok ⟨(kinds.takeWhile Option.isSome).filterMap id,
              (kinds.dropWhile Option.isSome).filterMap id⟩
      else if c = '-' then
        match seen.lookup none with
        | some earlier => .error ⟨.flagRepeatedNegation, span, some earlier⟩
        | none => flags ((none, span) :: seen) (offset + 1) rest
      else
        match flag? c with
        | none => fail .flagUnrecognized span
        | some flag =>
            match seen.lookup (some flag) with
            | some earlier => .error ⟨.flagDuplicate, span, some earlier⟩
            | none => flags ((some flag, span) :: seen) (offset + 1) rest

/-- Names start with a letter or an underscore; characters beyond ASCII that can be seen count as
letters. -/
def startsName (c : Char) : Bool :=
  c.isAlpha || c == '_' || (decide (0x80 ≤ c.toNat) && !Text.isHidden c && !Text.isBlank c)

def continuesName (c : Char) : Bool :=
  startsName c || c.isDigit || c == '.' || c == '[' || c == ']'

/-- The first character that cannot stand in a name. -/
def misnamed? (name : List Char) : Option Nat :=
  match name with
  | [] => none
  | c :: rest =>
      if !startsName c then some 0
      else (rest.findIdx? fun other => !continuesName other).map (· + 1)

namespace ParserState

def push (state : ParserState) (item : Pattern) : ParserState :=
  { state with branches := state.branches.push item }

/-- Enters a group whose content starts at the cursor. -/
def enter (state : ParserState) (span : Span) (flags : Option Flags) (isSpaced : Bool)
    (after : Cursor) : ParserState × Cursor :=
  let inner := match flags with
    | none => isSpaced
    | some flags => flags.applied .spaced isSpaced
  ({ state with
      branches := .opened after.offset
      groups := ⟨span, flags, isSpaced, state.branches⟩ :: state.groups },
    { after with isSpaced := inner })

/-- Reads the name of a group. -/
def named (state : ParserState) (span : Span) (cursor : Cursor) :
    Reading (ParserState × Cursor) :=
  let name := cursor.rest.takeWhile (· != '>')
  let stop := cursor.drop name.length
  let place := stop.since cursor.offset
  match misnamed? name with
  | some index =>
      fail .groupNameInvalid ⟨cursor.offset + index, cursor.offset + index + 1⟩
  | none =>
      if stop.atEnd then fail .groupNameUnfinished stop.here
      else if name.isEmpty then fail .groupNameEmpty cursor.here
      else
        match state.names.lookup name with
        | some earlier => .error ⟨.groupNameDuplicate, place, some earlier⟩
        | none =>
            let state := { state with names := (name, place) :: state.names }
            .ok (state.enter span none cursor.isSpaced stop.next)

/-- Reads flags: they hold for a group, or for all that follows up to the end of the group around
them. -/
def flagged (state : ParserState) (span inner : Span) (cursor : Cursor) :
    Reading (ParserState × Cursor) := do
  if cursor.atEnd then fail .groupUnclosed span
  let given ← flags [] cursor.offset cursor.rest
  let stop := cursor.drop (cursor.rest.takeWhile fun c => c != ':' && c != ')').length
  let after := stop.next
  if stop.sees ':' then return state.enter span (some given) cursor.isSpaced after
  else if given.isEmpty then fail .repetitionMissing inner
  else
    return (state.push (.flags (after.since span.start) given),
      { after with isSpaced := given.applied .spaced after.isSpaced })

/-- Reads an opening parenthesis and what belongs to it. -/
def openGroup (state : ParserState) (cursor : Cursor) : Reading (ParserState × Cursor) :=
  let span := cursor.ahead
  let first := cursor.step
  let lookAround := ["?=", "?!", "?<=", "?<!"].findSome? fun opening => first.take? opening.toList
  match lookAround with
  | some after => fail .lookAround (after.since cursor.offset)
  | none =>
      match (first.take? "?P<".toList).or (first.take? "?<".toList), first.take? ['?'] with
      | some after, _ => state.named span after
      | none, some after => state.flagged span first.here after
      | none, none => .ok (state.enter span none cursor.isSpaced first)

def closeGroup (state : ParserState) (cursor : Cursor) : Reading (ParserState × Cursor) :=
  match state.groups with
  | [] => fail .groupUnopened cursor.ahead
  | group :: groups =>
      let after := cursor.next
      let body := state.branches.whole cursor.offset
      let item := .group (after.since group.span.start) group.flags body
      .ok ({ state with branches := group.outer.push item, groups },
        { after with isSpaced := group.isSpaced })

/-- What a repetition repeats: the part before it, which must be able to match by itself. -/
def repeated (state : ParserState) (cursor : Cursor) : Reading (Pattern × List Pattern) :=
  match state.branches.items with
  | [] | .empty _ :: _ | .flags _ _ :: _ => fail .repetitionMissing cursor.here
  | body :: items => .ok (body, items)

/-- Puts a repetition in the place of what it repeats. A question mark behind it makes it lazy, which
does not change what is matched. -/
def repetition (state : ParserState) (body : Pattern) (items : List Pattern) (low : Nat)
    (high : Option Nat) (after : Cursor) : ParserState :=
  let item := .repetition (after.since body.span.start) low high body
  { state with branches := { state.branches with items := item :: items } }

def lazily (after : Cursor) : Cursor :=
  if after.sees '?' then after.next else after

def uncounted (state : ParserState) (cursor : Cursor) (low : Nat) (high : Option Nat) :
    Reading (ParserState × Cursor) := do
  let (body, items) ← state.repeated cursor
  let after := lazily cursor.next
  return (state.repetition body items low high after, after)

/-- Reads the counts of a repetition up to its closing brace. -/
def counts (start : Nat) (cursor : Cursor) : Reading ((Nat × Option Nat) × Cursor) := do
  if cursor.atEnd then fail .countUnclosed (cursor.since start)
  let (low, stop) := cursor.decimal
  if stop.atEnd then fail .countUnclosed (stop.since start)
  if stop.sees ',' then
    let stop := stop.step
    if stop.atEnd then fail .countUnclosed (stop.since start)
    if stop.sees '\x7d' then return ((← low, none), stop)
    let low ← low
    let (high, stop) := stop.decimal
    return ((low, some (← high)), stop)
  let low ← low
  return ((low, some low), stop)

def counted (state : ParserState) (cursor : Cursor) : Reading (ParserState × Cursor) := do
  let (body, items) ← state.repeated cursor
  let ((low, high), stop) ← counts cursor.offset cursor.step
  if !stop.sees '\x7d' then fail .countUnclosed (stop.since cursor.offset)
  let after := lazily stop.step
  if high.any (· < low) then fail .countInvalid (after.since cursor.offset)
  return (state.repetition body items low high after, after)

/-- Reads a part that starts with `c`. -/
def part (state : ParserState) (cursor : Cursor) (c : Char) : Reading (ParserState × Cursor) := do
  let simple (item : Pattern) : Reading (ParserState × Cursor) :=
    .ok (state.push item, cursor.next)
  match c with
  | '(' => state.openGroup cursor
  | ')' => state.closeGroup cursor
  | '|' => return ({ state with branches := state.branches.next cursor.offset }, cursor.next)
  | '[' =>
      let (item, after) ← bracketed cursor
      return (state.push item, after)
  | '?' => state.uncounted cursor 0 (some 1)
  | '*' => state.uncounted cursor 0 none
  | '+' => state.uncounted cursor 1 none
  | '\x7b' => state.counted cursor
  | '\\' =>
      let (item, after) ← escape cursor
      return (state.push item, after)
  | '.' => simple (.dot cursor.ahead)
  | '^' => simple (.assertion cursor.ahead .lineStart)
  | '$' => simple (.assertion cursor.ahead .lineEnd)
  | c => simple (.literal ⟨cursor.ahead, c, false⟩)

/-- The whole pattern, at its end. -/
def finish (state : ParserState) (cursor : Cursor) : Reading Pattern :=
  match state.groups with
  | [] => .ok (state.branches.whole cursor.offset)
  | group :: _ => fail .groupUnclosed group.span

/-- Reads on to the end. Every part takes at least a character. -/
def readAll (state : ParserState) (cursor : Cursor) : Reading Pattern :=
  match cursor.skip.rest with
  | [] => state.finish cursor.skip
  | c :: _ =>
      match state.part cursor.skip c with
      | .error error => .error error
      | .ok (state, after) =>
          if after.rest.length < cursor.rest.length then readAll state after
          else state.finish after
termination_by cursor.rest.length

end ParserState

def Pattern.parse (text : List Char) : Reading Pattern := do
  let pattern ← ParserState.readAll ⟨.opened 0, [], []⟩ ⟨0, text, false⟩
  match pattern.tooDeep? 0 with
  | some span => fail (.nestedTooDeep depthLimit) span
  | none => return pattern

end FrameCycle.Regex
