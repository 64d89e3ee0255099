import FrameCycle.Regex.Basic
import FrameCycle.Regex.Parser

/-!
What a pattern stands for. Flags hold from where they are set to the end of the group around them.
Characters of all scripts are known by number only: letters of either case, and the digits, blanks and
letters of words, are told apart in ASCII alone and refused elsewhere.
-/
namespace FrameCycle.Regex

structure Modes where
  ignoreCase : Bool
  multiLine : Bool
  dotMatchesAll : Bool
  unicode : Bool
  crlf : Bool

namespace Modes

def standard : Modes where
  ignoreCase := false
  multiLine := false
  dotMatchesAll := false
  unicode := true
  crlf := false

def apply (modes : Modes) (flags : Flags) : Modes where
  ignoreCase := flags.applied .ignoreCase modes.ignoreCase
  multiLine := flags.applied .multiLine modes.multiLine
  dotMatchesAll := flags.applied .dotMatchesAll modes.dotMatchesAll
  unicode := flags.applied .unicode modes.unicode
  crlf := flags.applied .crlf modes.crlf

end Modes

/-- The members of a class. -/
structure Members where
  set : CharSet
  /-- It holds all letters in both cases or in none. -/
  isFolded : Bool

namespace Members

def asciiUpper : CharSet := .range 0x41 0x5A

def asciiLower : CharSet := .range 0x61 0x7A

/-- The set with both cases of its ASCII letters. -/
def bothCases (set : CharSet) : CharSet :=
  let lowered : CharSet := ⟨(set.intersection asciiUpper).bounds.map (· + 0x20)⟩
  let raised : CharSet := ⟨(set.intersection asciiLower).bounds.map (· - 0x20)⟩
  set.union (lowered.union raised)

/-- Adds the other case of all letters, if case is ignored. -/
def folded (modes : Modes) (span : Span) (members : Members) : Reading Members :=
  if !modes.ignoreCase then .ok members
  else if !modes.unicode then .ok ⟨bothCases members.set, true⟩
  else if members.set.isEmpty || members.isFolded then .ok ⟨members.set, true⟩
  else fail .caseUnavailable span

/-- The members, or all else if `negated`. Without all scripts, only ASCII can be a member. -/
def closed (modes : Modes) (span : Span) (negated : Bool) (members : Members) :
    Reading Members := do
  let members ← members.folded modes span
  let every := if modes.unicode then CharSet.every else CharSet.range 0 0xFF
  let result : Members :=
    if !negated then members
    else ⟨every.difference members.set, members.isFolded || members.set.isEmpty⟩
  if modes.unicode || result.set.isBelow 0x80 then return result
  fail .invalidUtf8 span

def union (left right : Members) : Members :=
  ⟨left.set.union right.set, left.isFolded && right.isFolded⟩

def join (joint : Joint) (left right : Members) : Members :=
  let set :=
    match joint with
    | .intersection => left.set.intersection right.set
    | .difference => left.set.difference right.set
    | .symmetricDifference => left.set.symmetricDifference right.set
  ⟨set, left.isFolded && right.isFolded⟩

def nothing : Members := ⟨.empty, true⟩

end Members

/-- The character that a literal stands for. A byte beyond ASCII stands for none by itself. -/
def Literal.meaning (modes : Modes) (literal : Literal) : Reading Char :=
  if modes.unicode || !literal.isByte || decide (literal.char.toNat < 0x80) then .ok literal.char
  else fail .invalidUtf8 literal.span

/-- The number of a literal in a class. -/
def Literal.member (modes : Modes) (literal : Literal) : Reading Nat := do
  let c ← literal.meaning modes
  if modes.unicode || decide (c.toNat < 0x80) then return c.toNat
  fail .unicodeNotAllowed literal.span

def Shorthand.members : Shorthand → CharSet
  | digit => .range 0x30 0x39
  | space => ⟨[0x09, 0x0E, 0x20, 0x21]⟩
  | word => ⟨[0x30, 0x3A, 0x41, 0x5B, 0x5F, 0x60, 0x61, 0x7B]⟩

def Shorthand.meaning (modes : Modes) (span : Span) (kind : Shorthand) (negated : Bool) :
    Reading Members :=
  if modes.unicode then fail .classUnavailable span
  else if negated then fail .invalidUtf8 span
  else .ok ⟨kind.members, false⟩

namespace Property

/-- A name without what does not count in it: case, blanks, dashes, underscores and a leading `is`. -/
def normal (name : List Char) : List Char :=
  let isPrefixed := (name.take 2).map Char.toLower = ['i', 's']
  let rest := (if isPrefixed then name.drop 2 else name).filter fun c =>
    c != ' ' && c != '_' && c != '-' && decide (c.toNat < 0x80)
  let lowered := rest.map Char.toLower
  if isPrefixed && lowered == ['c'] then ['i', 's', 'c'] else lowered

/-- No property is known. These names are taken for values of one. -/
def isValue (property : Property) : Bool :=
  property.value.isNone && ["cf", "sc", "lc"].contains (String.ofList (normal property.name))

def meaning {α : Type} (modes : Modes) (span : Span) (property : Property) : Reading α :=
  if !modes.unicode then fail .unicodeNotAllowed span
  else if property.isValue then fail .propertyValueNotFound span
  else fail .propertyNotFound span

end Property

mutual

def ClassSet.meaning (modes : Modes) : ClassSet → Reading Members
  | .literal part => do
      let member ← part.member modes
      return ⟨.range member member, false⟩
  | .range _ first last => do
      let low ← first.member modes
      let high ← last.member modes
      return ⟨.range low high, false⟩
  | .named span members negated => Members.closed modes span negated ⟨members, false⟩
  | .shorthand span kind negated => kind.meaning modes span negated
  | .property span what _ => what.meaning modes span
  | .bracketed span negated inner => do
      let members ← inner.meaning modes
      members.closed modes span negated
  | .union _ items => ClassSet.unionMeaning modes items
  | .joint _ operator left right => do
      let leftMembers ← left.meaning modes
      let rightMembers ← right.meaning modes
      let rightMembers ← rightMembers.folded modes right.span
      let leftMembers ← leftMembers.folded modes left.span
      return .join operator leftMembers rightMembers

def ClassSet.unionMeaning (modes : Modes) : List ClassSet → Reading Members
  | [] => .ok .nothing
  | item :: rest => do
      let members ← item.meaning modes
      let later ← ClassSet.unionMeaning modes rest
      return members.union later

end

namespace Pattern

def ofChar (c : Char) : Regex :=
  .one (.range c.toNat c.toNat)

def literalMeaning (modes : Modes) (literal : Literal) : Reading Regex := do
  let c ← literal.meaning modes
  if !modes.ignoreCase then return ofChar c
  if modes.unicode then fail .caseUnavailable literal.span
  return .one (Members.bothCases (.range c.toNat c.toNat))

def dotMeaning (modes : Modes) (span : Span) : Reading Regex :=
  if !modes.unicode then fail .invalidUtf8 span
  else if modes.dotMatchesAll then .ok (.one .every)
  else if modes.crlf then .ok (.one (CharSet.every.difference ⟨[0x0A, 0x0B, 0x0D, 0x0E]⟩))
  else .ok (.one (CharSet.every.difference ⟨[0x0A, 0x0B]⟩))

def lookMeaning (modes : Modes) (assertion : Assertion) : Look :=
  match assertion with
  | .textStart => .textStart
  | .textEnd => .textEnd
  | .lineStart => if modes.multiLine then .lineStart modes.crlf else .textStart
  | .lineEnd => if modes.multiLine then .lineEnd modes.crlf else .textEnd
  | .boundary => if modes.unicode then .anyScript else .boundary
  | .notBoundary => if modes.unicode then .anyScript else .notBoundary
  | .wordStart => if modes.unicode then .anyScript else .wordStart
  | .wordEnd => if modes.unicode then .anyScript else .wordEnd
  | .wordStartHalf => if modes.unicode then .anyScript else .wordStartHalf
  | .wordEndHalf => if modes.unicode then .anyScript else .wordEndHalf

/-- Something empty matches once if it matches at all, and no times anything is empty. -/
def repetitionMeaning (body : Regex) (low : Nat) (high : Option Nat) : Regex :=
  if high = some 0 then .empty
  else if body.isNarrow then .repeated body (min low 1) (some 1)
  else .repeated body low high

mutual

/-- What a pattern stands for, and the modes behind it. -/
def meaning (modes : Modes) : Pattern → Reading (Regex × Modes)
  | .empty _ => .ok (.empty, modes)
  | .flags _ given => .ok (.empty, modes.apply given)
  | .literal part => do return (← literalMeaning modes part, modes)
  | .dot span => do return (← dotMeaning modes span, modes)
  | .assertion _ what => .ok (.look (lookMeaning modes what), modes)
  | .shorthand span kind negated => do
      let members ← kind.meaning modes span negated
      return (.one members.set, modes)
  | .property span what _ => what.meaning modes span
  | .bracketed span negated inner => do
      let members ← inner.meaning modes
      let members ← members.closed modes span negated
      return (.one members.set, modes)
  | .repetition _ low high body => do
      let (regex, modes) ← body.meaning modes
      return (repetitionMeaning regex low high, modes)
  | .group _ given body => do
      match given with
      | none =>
          let (regex, _) ← body.meaning modes
          return (.captured regex, modes)
      | some given =>
          let (regex, _) ← body.meaning (modes.apply given)
          return (regex, modes)
  | .concat _ items => concatMeaning modes items
  | .alternation _ branches => alternationMeaning modes branches

def concatMeaning (modes : Modes) : List Pattern → Reading (Regex × Modes)
  | [] => .ok (.empty, modes)
  | item :: rest => do
      let (first, modes) ← item.meaning modes
      let (second, modes) ← concatMeaning modes rest
      return (.seq first second, modes)

def alternationMeaning (modes : Modes) : List Pattern → Reading (Regex × Modes)
  | [] => .ok (.one .empty, modes)
  | branch :: rest => do
      let (left, modes) ← branch.meaning modes
      let (right, modes) ← alternationMeaning modes rest
      return (.alt left right, modes)

end

end Pattern

/-- Why there is no expression to look for. -/
inductive Refusal where
  | error (pattern : List Char) (found : Error)
  | scripts
  | tooHeavy

def Refusal.message : Refusal → String
  | error pattern found => found.message pattern
  | scripts => "error building NFA"
  | tooHeavy => s!"Compiled regex exceeds size limit of {weightLimit} bytes."

/-- The expression that a pattern stands for. -/
def ofPattern (text : List Char) : Except Refusal Regex :=
  match Pattern.parse text with
  | .error error => .error (.error text error)
  | .ok pattern =>
      match pattern.meaning .standard with
      | .error error => .error (.error text error)
      | .ok (regex, _) =>
          if regex.needsScripts then .error .scripts
          else if weightLimit < regex.weight then .error .tooHeavy
          else .ok regex

end Regex

end FrameCycle
