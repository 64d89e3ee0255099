/-!
Text by lines. A line ends with a line feed, and a carriage return right before it belongs to the
ending; what follows the last ending is a line unless it is empty.
-/
namespace FrameCycle.Text

/-- A line behind which its ending stands. -/
def ended (line : List Char) : List Char :=
  if line.getLast? = some '\r' then line.dropLast else line

/-- The lines of a text, of which `before` is the start of the first. -/
def linesFrom (before : List Char) : List Char → List (List Char)
  | [] => if before.isEmpty then [] else [before]
  | c :: rest =>
      if c = '\n' then ended before :: linesFrom [] rest else linesFrom (before ++ [c]) rest

def lines (text : List Char) : List (List Char) :=
  linesFrom [] text

/-- The first line, empty for an empty text. -/
def firstLine (text : List Char) : List Char :=
  (lines text).headD []

end FrameCycle.Text
