import FrameCycle.Regex.Error
import FrameCycle.Text.CharSet

/-!
Regular expressions as they are written. Every part keeps the place where it stands.
-/
namespace FrameCycle.Regex

structure Literal where
  span : Span
  char : Char
  /-- Given as a byte, by exactly two hexadecimal digits. -/
  isByte : Bool
  deriving DecidableEq

inductive Flag where
  | ignoreCase
  | multiLine
  | dotMatchesAll
  | swapGreed
  | unicode
  | crlf
  | spaced
  deriving DecidableEq

/-- Flags to be set, and flags to be taken back. -/
structure Flags where
  set : List Flag
  cleared : List Flag
  deriving DecidableEq

/-- What holds between two characters, or at an end of the text. -/
inductive Assertion where
  | lineStart
  | lineEnd
  | textStart
  | textEnd
  | boundary
  | notBoundary
  | wordStart
  | wordEnd
  | wordStartHalf
  | wordEndHalf
  deriving DecidableEq

/-- Classes with a letter of their own. -/
inductive Shorthand where
  | digit
  | space
  | word
  deriving DecidableEq

/-- A class by the name of a property, or by its name and its value. -/
structure Property where
  name : List Char
  value : Option (List Char)
  deriving DecidableEq

inductive Joint where
  | intersection
  | difference
  | symmetricDifference
  deriving DecidableEq

/-- What stands between brackets. -/
inductive ClassSet where
  | literal (literal : Literal)
  | range (span : Span) (first last : Literal)
  | named (span : Span) (members : CharSet) (negated : Bool)
  | shorthand (span : Span) (kind : Shorthand) (negated : Bool)
  | property (span : Span) (property : Property) (negated : Bool)
  | bracketed (span : Span) (negated : Bool) (inner : ClassSet)
  | union (span : Span) (items : List ClassSet)
  | joint (span : Span) (joint : Joint) (left right : ClassSet)

inductive Pattern where
  | empty (span : Span)
  | flags (span : Span) (flags : Flags)
  | literal (literal : Literal)
  | dot (span : Span)
  | assertion (span : Span) (assertion : Assertion)
  | shorthand (span : Span) (kind : Shorthand) (negated : Bool)
  | property (span : Span) (property : Property) (negated : Bool)
  | bracketed (span : Span) (negated : Bool) (inner : ClassSet)
  | repetition (span : Span) (low : Nat) (high : Option Nat) (body : Pattern)
  | group (span : Span) (flags : Option Flags) (body : Pattern)
  | concat (span : Span) (items : List Pattern)
  | alternation (span : Span) (branches : List Pattern)

def ClassSet.span : ClassSet → Span
  | literal part => part.span
  | range span _ _ | named span _ _ | shorthand span _ _ | property span _ _ | bracketed span _ _
  | union span _ | joint span _ _ _ => span

def Pattern.span : Pattern → Span
  | literal part => part.span
  | empty span | flags span _ | dot span | assertion span _ | shorthand span _ _
  | property span _ _ | bracketed span _ _ | repetition span _ _ _ | group span _ _
  | concat span _ | alternation span _ => span

end FrameCycle.Regex
