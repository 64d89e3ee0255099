/-!
Sets of characters by bounds: the numbers where runs of members begin and end, in turn and in order.
Two sets are combined in one walk over the bounds of both.
-/
namespace FrameCycle

structure CharSet where
  bounds : List Nat
  deriving DecidableEq

namespace CharSet

/-- A character is a member when an odd number of bounds is at or below it. -/
def contains (set : CharSet) (c : Char) : Bool :=
  (set.bounds.takeWhile (· ≤ c.toNat)).length % 2 == 1

def isEmpty (set : CharSet) : Bool :=
  set.bounds.isEmpty

def empty : CharSet := ⟨[]⟩

/-- The characters from one number to another, both included. -/
def range (first last : Nat) : CharSet :=
  ⟨[first, last + 1]⟩

def every : CharSet := range 0 0x10FFFF

/-- The bounds of the numbers of which `join` holds, told whether each of two sets has them. -/
def joined (join : Bool → Bool → Bool) (inLeft inRight : Bool) : (left right : List Nat) → List Nat
  | [], [] => []
  | first :: left, [] =>
      let later := joined join (!inLeft) inRight left []
      if join inLeft inRight == join (!inLeft) inRight then later else first :: later
  | [], second :: right =>
      let later := joined join inLeft (!inRight) [] right
      if join inLeft inRight == join inLeft (!inRight) then later else second :: later
  | first :: left, second :: right =>
      if first < second then
        let later := joined join (!inLeft) inRight left (second :: right)
        if join inLeft inRight == join (!inLeft) inRight then later else first :: later
      else if second < first then
        let later := joined join inLeft (!inRight) (first :: left) right
        if join inLeft inRight == join inLeft (!inRight) then later else second :: later
      else
        let later := joined join (!inLeft) (!inRight) left right
        if join inLeft inRight == join (!inLeft) (!inRight) then later else first :: later
termination_by left right => left.length + right.length

def combine (join : Bool → Bool → Bool) (left right : CharSet) : CharSet :=
  ⟨joined join false false left.bounds right.bounds⟩

def union : CharSet → CharSet → CharSet :=
  combine fun inLeft inRight => inLeft || inRight

def intersection : CharSet → CharSet → CharSet :=
  combine fun inLeft inRight => inLeft && inRight

def difference : CharSet → CharSet → CharSet :=
  combine fun inLeft inRight => inLeft && !inRight

def symmetricDifference : CharSet → CharSet → CharSet :=
  combine fun inLeft inRight => inLeft != inRight

/-- Every member is below `limit`. -/
def isBelow (limit : Nat) (set : CharSet) : Bool :=
  set.bounds.all (· ≤ limit)

end CharSet

end FrameCycle
