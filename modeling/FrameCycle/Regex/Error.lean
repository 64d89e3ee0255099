import FrameCycle.Text.Lines

/-!
What can be wrong with a regular expression, and where. An error is shown under the pattern, with marks
below the characters that it is about.
-/
namespace FrameCycle.Regex

/-- A stretch of a pattern: the characters before its start and before its end. -/
structure Span where
  start : Nat
  stop : Nat
  deriving DecidableEq

inductive Cause where
  | classEscapeInvalid
  | classRangeInvalid
  | classRangeLiteral
  | classUnclosed
  | decimalInvalid
  | hexEmpty
  | hexInvalid
  | hexInvalidDigit
  | escapeUnfinished
  | escapeUnrecognized
  | flagDanglingNegation
  | flagDuplicate
  | flagRepeatedNegation
  | flagUnfinished
  | flagUnrecognized
  | groupNameDuplicate
  | groupNameEmpty
  | groupNameInvalid
  | groupNameUnfinished
  | groupUnclosed
  | groupUnopened
  | nestedTooDeep (limit : Nat)
  | countInvalid
  | countEmpty
  | countUnclosed
  | repetitionMissing
  | boundaryUnclosed
  | boundaryUnrecognized
  | boundaryUnfinished
  | propertyInvalid
  | backreference
  | lookAround
  | unicodeNotAllowed
  | invalidUtf8
  | propertyNotFound
  | propertyValueNotFound
  | classUnavailable
  | caseUnavailable
  deriving DecidableEq

def Cause.message : Cause → String
  | classEscapeInvalid => "invalid escape sequence found in character class"
  | classRangeInvalid => "invalid character class range, the start must be <= the end"
  | classRangeLiteral => "invalid range boundary, must be a literal"
  | classUnclosed => "unclosed character class"
  | decimalInvalid => "decimal literal invalid"
  | hexEmpty => "hexadecimal literal empty"
  | hexInvalid => "hexadecimal literal is not a Unicode scalar value"
  | hexInvalidDigit => "invalid hexadecimal digit"
  | escapeUnfinished => "incomplete escape sequence, reached end of pattern prematurely"
  | escapeUnrecognized => "unrecognized escape sequence"
  | flagDanglingNegation => "dangling flag negation operator"
  | flagDuplicate => "duplicate flag"
  | flagRepeatedNegation => "flag negation operator repeated"
  | flagUnfinished => "expected flag but got end of regex"
  | flagUnrecognized => "unrecognized flag"
  | groupNameDuplicate => "duplicate capture group name"
  | groupNameEmpty => "empty capture group name"
  | groupNameInvalid => "invalid capture group character"
  | groupNameUnfinished => "unclosed capture group name"
  | groupUnclosed => "unclosed group"
  | groupUnopened => "unopened group"
  | nestedTooDeep limit => s!"exceed the maximum number of nested parentheses/brackets ({limit})"
  | countInvalid => "invalid repetition count range, the start must be <= the end"
  | countEmpty => "repetition quantifier expects a valid decimal"
  | countUnclosed => "unclosed counted repetition"
  | repetitionMissing => "repetition operator missing expression"
  | boundaryUnclosed =>
      "special word boundary assertion is either unclosed or contains an invalid character"
  | boundaryUnrecognized =>
      "unrecognized special word boundary assertion, valid choices are: start, end, start-half " ++
        "or end-half"
  | boundaryUnfinished =>
      "found either the beginning of a special word boundary or a bounded repetition on a \\b " ++
        "with an opening brace, but no closing brace"
  | propertyInvalid => "invalid Unicode character class"
  | backreference => "backreferences are not supported"
  | lookAround => "look-around, including look-ahead and look-behind, is not supported"
  | unicodeNotAllowed => "Unicode not allowed here"
  | invalidUtf8 => "pattern can match invalid UTF-8"
  | propertyNotFound => "Unicode property not found"
  | propertyValueNotFound => "Unicode property value not found"
  | classUnavailable =>
      "Unicode-aware Perl class not found (make sure the unicode-perl feature is enabled)"
  | caseUnavailable =>
      "Unicode-aware case insensitivity matching is not available (make sure the unicode-case " ++
        "feature is enabled)"

structure Error where
  cause : Cause
  span : Span
  /-- The earlier place that the error refers to. -/
  earlier : Option Span
  deriving DecidableEq

namespace Error

/-- The line that a place is on, counted from zero, and the characters before it there. -/
def lineAndColumn (pattern : List Char) (place : Nat) : Nat × Nat :=
  let before := pattern.take place
  (before.count '\n', (before.reverse.takeWhile (· != '\n')).length)

def marks (count : Nat) (mark : Char) : List Char :=
  List.replicate count mark

/-- Marks below the columns of stretches in order, behind the columns that are already filled. -/
def underlined (filled : Nat) : List (Nat × Nat) → List Char
  | [] => []
  | (first, last) :: rest =>
      let count := max 1 (last - first)
      marks (first - filled) ' ' ++ marks count '^' ++ underlined (max filled first + count) rest

/-- A stretch that ends on the line it starts on. -/
def isOnOneLine (pattern : List Char) (span : Span) : Bool :=
  (lineAndColumn pattern span.start).1 == (lineAndColumn pattern span.stop).1

/-- The stretches that an error is about, in order. -/
def spans (error : Error) : List Span :=
  error.earlier.toList ++ [error.span]

/-- A line of the pattern, and under it the marks that fall there. -/
def shownLine (pattern : List Char) (spans : List Span) (margin : List Char) (number : Nat)
    (line : List Char) : List (List Char) :=
  let here := spans.filter fun span =>
    isOnOneLine pattern span && (lineAndColumn pattern span.start).1 == number
  let columns := here.map fun span =>
    ((lineAndColumn pattern span.start).2, (lineAndColumn pattern span.stop).2)
  (margin ++ line) ::
    if columns.isEmpty then [] else [marks margin.length ' ' ++ underlined 0 columns]

/-- What is said of a stretch over several lines. -/
def extent (pattern : List Char) (span : Span) : String :=
  let first := lineAndColumn pattern span.start
  let last := lineAndColumn pattern span.stop
  s!"on line {first.1 + 1} (column {first.2 + 1}) through line {last.1 + 1} (column {last.2})"

def lineNumber (width number : Nat) : List Char :=
  let digits := Nat.toDigits 10 number
  marks (width - digits.length) ' ' ++ digits ++ [':', ' ']

def message (pattern : List Char) (error : Error) : String :=
  let lines := Text.lines pattern
  let count := lines.length + if pattern.getLast? = some '\n' then 1 else 0
  let width := (Nat.toDigits 10 count).length
  let shown := lines.zipIdx.flatMap fun (line, number) =>
    let margin := if count ≤ 1 then marks 4 ' ' else lineNumber width (number + 1)
    shownLine pattern error.spans margin number line
  let divider := if pattern.contains '\n' then [String.ofList (marks 79 '~')] else []
  let extents := (error.spans.filter fun span => !isOnOneLine pattern span).map (extent pattern)
  "\n".intercalate
    (["regex parse error:"] ++ divider ++ shown.map String.ofList ++ divider ++ extents ++
      [s!"error: {error.cause.message}"])

end Error

end FrameCycle.Regex
