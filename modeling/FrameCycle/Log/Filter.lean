import FrameCycle.Log.Message
import FrameCycle.Regex.Meaning

/-!
Which messages are shown. A filter is a list of directives, each a level for the parts of the
program whose names start in a given way; the longest name that fits decides. A filter can also ask
for an expression that is to be found in the text of a message.
-/
namespace FrameCycle.Log

/-- The most detail to be shown; none for silence. -/
abbrev Threshold := Option Level

def Threshold.admits (threshold : Threshold) (level : Level) : Bool :=
  match threshold with
  | none => false
  | some most => decide (level.rank ≤ most.rank)

structure Directive where
  /-- The start of the names that the directive is for; none for all names. -/
  name : Option (List Char)
  threshold : Threshold

structure Filter where
  directives : List Directive
  sought : Option Regex

namespace Filter

def lowered (text : List Char) : List Char :=
  text.map Char.toLower

def threshold? (text : List Char) : Option Threshold :=
  let word := String.ofList (lowered text)
  if word = "off" then some none
  else if word = "error" then some (some .error)
  else if word = "warn" then some (some .warn)
  else if word = "info" then some (some .info)
  else if word = "debug" then some (some .debug)
  else if word = "trace" then some (some .trace)
  else none

/-- Reads a directive: a level, a name, or both around an equals sign. What makes no sense is given
back. -/
def directive (text : List Char) : Except (List Char) Directive :=
  match text.splitOn '=' with
  | [word] =>
      match threshold? word with
      | some threshold => .ok ⟨none, threshold⟩
      | none => .ok ⟨some word, some .trace⟩
  | [name, word] =>
      let word := Text.trimmed word
      if word.isEmpty then .ok ⟨some name, some .trace⟩
      else
        match threshold? word with
        | some threshold => .ok ⟨some name, threshold⟩
        | none => .error word
  | _ => .error text

/-- A later directive for the same name takes the place of an earlier one. -/
def insert (filter : Filter) (directive : Directive) : Filter :=
  let others := filter.directives.filter fun held => held.name != directive.name
  { filter with directives := others ++ [directive] }

def empty : Filter := ⟨[], none⟩

/-- What is shown when nothing is asked for. -/
def standard : Filter := ⟨[⟨none, some .info⟩], none⟩

def complaint (text : List Char) : String :=
  s!"invalid logging spec '{String.ofList text}'"

def addWord (read : Filter × List String) (word : List Char) : Filter × List String :=
  match directive word with
  | .ok directive => (read.1.insert directive, read.2)
  | .error refused => (read.1, read.2 ++ [complaint refused])

/-- Reads directives between commas. -/
def parseWords (text : List Char) : Filter × List String :=
  let words := ((text.splitOn ',').map Text.trimmed).filter fun word => !word.isEmpty
  words.foldl addWord (empty, [])

/-- Adds the expression to look for. -/
def seek (read : Filter × List String) (pattern : List Char) : Filter × List String :=
  match Regex.ofPattern pattern with
  | .ok regex => ({ read.1 with sought := some regex }, read.2)
  | .error refusal => (read.1, read.2 ++ [s!"invalid regex filter - {refusal.message}"])

/-- Reads a filter, with complaints about what makes no sense. What follows a slash is looked for, and a
second slash spoils the whole. -/
def parse (text : List Char) : Filter × List String :=
  match text.splitOn '/' with
  | [] => (empty, [])
  | [words] => parseWords words
  | [words, pattern] => seek (parseWords words) pattern
  | _ => (empty, [complaint text ++ " (too many '/'s)"])

/-- Only errors are shown when nothing else is asked for. -/
def effective (filter : Filter) : List Directive :=
  if filter.directives.isEmpty then [⟨none, some .error⟩] else filter.directives

def Directive.fits (directive : Directive) (name : List Char) : Bool :=
  match directive.name with
  | none => true
  | some start => start.isPrefixOf name

def Directive.length (directive : Directive) : Nat :=
  match directive.name with
  | none => 0
  | some start => start.length

def longer (held : Option Directive) (directive : Directive) : Option Directive :=
  match held with
  | none => some directive
  | some other => if Directive.length other ≤ Directive.length directive then some directive else held

/-- Whether the directives let a message through. -/
def allows (filter : Filter) (message : Message) : Bool :=
  let fitting := filter.effective.filter fun directive =>
    Directive.fits directive message.speaker.path.toList
  match fitting.foldl longer none with
  | none => false
  | some directive => directive.threshold.admits message.level

def admits (filter : Filter) (message : Message) : Bool :=
  filter.allows message && filter.sought.all fun regex => regex.isFoundIn message.text.toList

end Filter

end FrameCycle.Log
