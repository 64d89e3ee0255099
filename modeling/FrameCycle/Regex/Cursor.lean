import FrameCycle.Regex.Pattern
import FrameCycle.Text.Blank

/-!
A place in a pattern that is being read. Where the pattern is written with spaces, blanks and comments
between its parts are skipped.
-/
namespace FrameCycle.Regex

abbrev Reading := Except Error

def fail {α : Type} (cause : Cause) (span : Span) : Reading α :=
  .error ⟨cause, span, none⟩

structure Cursor where
  offset : Nat
  rest : List Char
  /-- Written with spaces. -/
  isSpaced : Bool

namespace Cursor

def atEnd (cursor : Cursor) : Bool :=
  cursor.rest.isEmpty

def head? (cursor : Cursor) : Option Char :=
  cursor.rest.head?

def sees (cursor : Cursor) (c : Char) : Bool :=
  cursor.head? == some c

def here (cursor : Cursor) : Span :=
  ⟨cursor.offset, cursor.offset⟩

/-- The next character. -/
def ahead (cursor : Cursor) : Span :=
  ⟨cursor.offset, cursor.offset + 1⟩

/-- From an earlier place up to this one. -/
def since (cursor : Cursor) (start : Nat) : Span :=
  ⟨start, cursor.offset⟩

def drop (cursor : Cursor) (count : Nat) : Cursor :=
  let rest := cursor.rest.drop count
  { cursor with offset := cursor.offset + (cursor.rest.length - rest.length), rest }

def next (cursor : Cursor) : Cursor :=
  cursor.drop 1

/-- The length of the blanks and comments that come first; a comment ends with its line. -/
def skippable (inComment : Bool) : List Char → Nat
  | [] => 0
  | c :: rest =>
      if inComment then skippable (c != '\n') rest + 1
      else if Text.isBlank c then skippable false rest + 1
      else if c = '#' then skippable true rest + 1
      else 0

def skip (cursor : Cursor) : Cursor :=
  if cursor.isSpaced then cursor.drop (skippable false cursor.rest) else cursor

/-- Goes behind a character and what can be skipped behind it. -/
def step (cursor : Cursor) : Cursor :=
  cursor.next.skip

/-- Goes behind `text` if it comes next. -/
def take? (cursor : Cursor) (text : List Char) : Option Cursor :=
  if text.isPrefixOf cursor.rest then some (cursor.drop text.length) else none

/-- The first character that is neither blank nor opens a comment. -/
def firstMark (inComment : Bool) : List Char → Option Char
  | [] => none
  | c :: rest =>
      if Text.isBlank c then firstMark inComment rest
      else if !inComment && c == '#' then firstMark true rest
      else some c

/-- The character that follows the next one. -/
def second? (cursor : Cursor) : Option Char :=
  let rest := cursor.rest.drop 1
  if cursor.isSpaced then (firstMark false rest).or rest.head? else rest.head?

theorem drop_rest_length (cursor : Cursor) (count : Nat) :
    (cursor.drop count).rest.length = cursor.rest.length - count := by
  simp [drop]

theorem skip_rest_length_le (cursor : Cursor) :
    cursor.skip.rest.length ≤ cursor.rest.length := by
  unfold skip
  split
  · rw [drop_rest_length]
    exact Nat.sub_le _ _
  · exact Nat.le_refl _

theorem step_rest_length_lt {cursor : Cursor} {c : Char} {rest : List Char}
    (isNext : cursor.rest = c :: rest) : cursor.step.rest.length < cursor.rest.length := by
  refine Nat.lt_of_le_of_lt (skip_rest_length_le _) ?_
  rw [next, drop_rest_length, isNext]
  simp

/-- The characters up to the first that is not kept. -/
def takeWhile (keep : Char → Bool) (cursor : Cursor) : List Char × Cursor :=
  match _ : cursor.rest with
  | [] => ([], cursor)
  | c :: _ =>
      if keep c then
        let (later, after) := takeWhile keep cursor.step
        (c :: later, after)
      else ([], cursor)
termination_by cursor.rest.length
decreasing_by exact step_rest_length_lt ‹_›

/-- Reads a number of 32 bits, with blanks around it. -/
def decimal (cursor : Cursor) : Reading Nat × Cursor :=
  let start := cursor.drop (cursor.rest.takeWhile Text.isBlank).length
  let (digits, stop) := start.takeWhile Char.isDigit
  let (_, after) := stop.takeWhile Text.isBlank
  let value := digits.foldl (fun sum digit => 10 * sum + (digit.toNat - 48)) 0
  let span := stop.since start.offset
  (if digits.isEmpty then fail .countEmpty span
    else if value < UInt32.size then .ok value
    else fail .decimalInvalid span, after)

end Cursor

end FrameCycle.Regex
