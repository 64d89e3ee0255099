import FrameCycle.Regex.Pattern

/-!
How deep the parts of a pattern lie in each other. Deeper ones than the limit are refused.
-/
namespace FrameCycle.Regex

def depthLimit : Nat := 250

mutual

/-- The first part that lies below the limit, if `depth` parts are around the set. -/
def ClassSet.tooDeep? (depth : Nat) : ClassSet → Option Span
  | .bracketed span _ inner =>
      if depthLimit ≤ depth then some span else inner.tooDeep? (depth + 1)
  | .union span items =>
      if items.isEmpty then none
      else if depthLimit ≤ depth then some span
      else ClassSet.anyTooDeep? (depth + 1) items
  | .joint span _ left right =>
      if depthLimit ≤ depth then some span
      else (left.tooDeep? (depth + 1)).or (right.tooDeep? (depth + 1))
  | _ => none

def ClassSet.anyTooDeep? (depth : Nat) : List ClassSet → Option Span
  | [] => none
  | item :: rest => (item.tooDeep? depth).or (ClassSet.anyTooDeep? depth rest)

end

mutual

/-- The first part that lies below the limit, if `depth` parts are around the pattern. -/
def Pattern.tooDeep? (depth : Nat) : Pattern → Option Span
  | .bracketed span _ inner =>
      if depthLimit ≤ depth then some span else inner.tooDeep? (depth + 1)
  | .repetition span _ _ body =>
      if depthLimit ≤ depth then some span else body.tooDeep? (depth + 1)
  | .group span _ body =>
      if depthLimit ≤ depth then some span else body.tooDeep? (depth + 1)
  | .concat span items =>
      if depthLimit ≤ depth then some span else Pattern.anyTooDeep? (depth + 1) items
  | .alternation span branches =>
      if depthLimit ≤ depth then some span else Pattern.anyTooDeep? (depth + 1) branches
  | _ => none

def Pattern.anyTooDeep? (depth : Nat) : List Pattern → Option Span
  | [] => none
  | item :: rest => (item.tooDeep? depth).or (Pattern.anyTooDeep? depth rest)

end

end FrameCycle.Regex
