import FrameCycle.Json.Quote

/-!
Skipping a value of any kind and any depth. Open brackets are kept in a list, so that the depth of a
document costs no depth of calls.
-/
namespace FrameCycle.Json.Skip

/-- Skips an exponent from behind its letter. -/
def withPower (text : List Char) : Except Failure (List Char) :=
  match (exponentSign text).2 with
  | [] => .error (.behind .invalidNumber [])
  | c :: rest =>
      if isDigit c then .ok (skipDigits rest) else .error (.atNext .invalidNumber (c :: rest))

/-- Skips an exponent if there is one. -/
def power : List Char → Except Failure (List Char)
  | 'e' :: rest => withPower rest
  | 'E' :: rest => withPower rest
  | rest => .ok rest

/-- Skips what follows the whole digits of a number. -/
def tail : List Char → Except Failure (List Char)
  | '.' :: rest =>
      if startsWithDigit rest then power (skipDigits rest)
      else .error (.atNext .invalidNumber rest)
  | rest => power rest

/-- Skips a number from behind its sign. -/
def number (text : List Char) : Except Failure (List Char) :=
  match text with
  | [] => .error (.behind .invalidNumber [])
  | c :: rest =>
      if c = '0' then
        if startsWithDigit rest then .error (.atNext .invalidNumber rest) else tail rest
      else if isDigit c then tail (skipDigits rest)
      else .error (.atNext .invalidNumber (c :: rest))

/-- Skips a value that is no list and no object, if one starts with `c`. -/
def scalar? (c : Char) (rest : List Char) : Option (Except Failure (List Char)) :=
  if c = 'n' then some (ident ['u', 'l', 'l'] rest)
  else if c = 't' then some (ident ['r', 'u', 'e'] rest)
  else if c = 'f' then some (ident ['a', 'l', 's', 'e'] rest)
  else if c = '-' then some (number rest)
  else if isDigit c then some (number (c :: rest))
  else if c = '"' then some (Quote.skip rest)
  else none

inductive Bracket where
  | list
  | object
  deriving DecidableEq

namespace Bracket

def opening? (c : Char) : Option Bracket :=
  if c = '[' then some list else if c = '\x7b' then some object else none

def closing : Bracket → Char
  | list => ']'
  | object => '\x7d'

def eof : Bracket → Cause
  | list => .eofInList
  | object => .eofInObject

def expectedEnd : Bracket → Cause
  | list => .expectedListEnd
  | object => .expectedObjectEnd

/-- Skips what stands before a value: nothing in a list, a name and a colon in an object. -/
def member (bracket : Bracket) (text : List Char) : Except Failure (List Char) :=
  match bracket with
  | list => .ok text
  | object =>
      match skipBlank text with
      | [] => .error (.atNext .eofInObject [])
      | c :: rest =>
          if c = '"' then
            match Quote.skip rest with
            | .ok rest => colon rest
            | .error failure => .error failure
          else .error (.atNext .keyNotString (c :: rest))

end Bracket

/-- Where in a document the skipping stands. -/
inductive Place where
  /-- Before a value. -/
  | before
  /-- Behind the bracket that opened a list or an object. -/
  | opened (bracket : Bracket)
  /-- Behind a value. -/
  | behind
  deriving DecidableEq

def Place.rank : Place → Nat
  | opened _ => 1
  | _ => 0

theorem withPower_length {text rest : List Char} (read : withPower text = .ok rest) :
    rest.length < text.length := by
  unfold withPower at read
  split at read
  · cases read
  · next c beyond found =>
      have bound := exponentSign_length_le text
      rw [found, List.length_cons] at bound
      split at read
      · cases read
        exact Nat.lt_of_le_of_lt (skipDigits_length_le beyond) bound
      · cases read

theorem power_length_le {text rest : List Char} (read : power text = .ok rest) :
    rest.length ≤ text.length := by
  unfold power at read
  split at read
  · exact Nat.le_succ_of_le (Nat.le_of_lt (withPower_length read))
  · exact Nat.le_succ_of_le (Nat.le_of_lt (withPower_length read))
  · cases read
    exact Nat.le_refl _

theorem tail_length_le {text rest : List Char} (read : tail text = .ok rest) :
    rest.length ≤ text.length := by
  unfold tail at read
  split at read
  · split at read
    · exact Nat.le_succ_of_le (Nat.le_trans (power_length_le read) (skipDigits_length_le _))
    · cases read
  · exact power_length_le read

theorem number_length {text rest : List Char} (read : number text = .ok rest) :
    rest.length < text.length := by
  unfold number at read
  split at read
  · cases read
  · split at read
    · split at read
      · cases read
      · exact Nat.lt_succ_of_le (tail_length_le read)
    · split at read
      · exact Nat.lt_succ_of_le (Nat.le_trans (tail_length_le read) (skipDigits_length_le _))
      · cases read

theorem scalar?_length_le {c : Char} {text rest : List Char}
    (read : scalar? c text = some (.ok rest)) : rest.length ≤ text.length := by
  unfold scalar? at read
  split at read
  · exact ident_length_le (Option.some.inj read)
  split at read
  · exact ident_length_le (Option.some.inj read)
  split at read
  · exact ident_length_le (Option.some.inj read)
  split at read
  · exact Nat.le_of_lt (number_length (Option.some.inj read))
  split at read
  · exact Nat.le_of_lt_succ (number_length (Option.some.inj read))
  split at read
  · exact Nat.le_of_lt (Quote.skip_length (Option.some.inj read))
  · cases read

theorem Bracket.member_length_le {bracket : Bracket} {text rest : List Char}
    (read : bracket.member text = .ok rest) : rest.length ≤ text.length := by
  unfold Bracket.member at read
  split at read
  · cases read
    exact Nat.le_refl _
  · split at read
    · cases read
    · next c beyond found =>
        have := skipBlank_cons_length found
        split at read
        · split at read
          · next named =>
              have := Quote.skip_length named
              have := colon_length read
              omega
          · cases read
        · cases read

/-- Skips the rest of a document whose open brackets are `enclosing`, innermost first. -/
def skipFrom (place : Place) (enclosing : List Bracket) (text : List Char) :
    Except Failure (List Char) :=
  match place with
  | .before =>
      match _ : skipBlank text with
      | [] => .error (.atNext .eofInValue [])
      | c :: rest =>
          match _ : scalar? c rest with
          | some (.ok rest') => skipFrom .behind enclosing rest'
          | some (.error failure) => .error failure
          | none =>
              match Bracket.opening? c with
              | some bracket => skipFrom (.opened bracket) enclosing rest
              | none => .error (.atNext .expectedValue (c :: rest))
  | .opened bracket =>
      match _ : skipBlank text with
      | [] => .error (.atNext bracket.eof [])
      | c :: rest =>
          if c = bracket.closing then skipFrom .behind enclosing rest
          else
            match _ : bracket.member (c :: rest) with
            | .ok rest' => skipFrom .before (bracket :: enclosing) rest'
            | .error failure => .error failure
  | .behind =>
      match enclosing with
      | [] => .ok text
      | bracket :: outer =>
          match _ : skipBlank text with
          | [] => .error (.atNext bracket.eof [])
          | c :: rest =>
              if c = ',' then
                match _ : bracket.member rest with
                | .ok rest' => skipFrom .before (bracket :: outer) rest'
                | .error failure => .error failure
              else if c = bracket.closing then skipFrom .behind outer rest
              else .error (.atNext bracket.expectedEnd (c :: rest))
termination_by (text.length, place.rank)
decreasing_by
  · have opened := skipBlank_cons_length (by assumption)
    have scalar := scalar?_length_le (by assumption)
    exact Prod.Lex.left _ _ (Nat.lt_of_le_of_lt scalar opened)
  · exact Prod.Lex.left _ _ (skipBlank_cons_length (by assumption))
  · exact Prod.Lex.left _ _ (skipBlank_cons_length (by assumption))
  · have opened := skipBlank_cons_length (by assumption)
    have member := Bracket.member_length_le (by assumption)
    rcases Nat.lt_or_eq_of_le (Nat.le_trans member opened) with shorter | same
    · exact Prod.Lex.left _ _ shorter
    · rw [same]
      exact Prod.Lex.right _ Nat.one_pos
  · have opened := skipBlank_cons_length (by assumption)
    have member := Bracket.member_length_le (by assumption)
    exact Prod.Lex.left _ _ (Nat.lt_of_le_of_lt member opened)
  · exact Prod.Lex.left _ _ (skipBlank_cons_length (by assumption))

theorem skipFrom_length_le {place : Place} {enclosing : List Bracket} {text rest : List Char}
    (result : skipFrom place enclosing text = .ok rest) :
    rest.length ≤ text.length ∧ (place ≠ .behind → rest.length < text.length) := by
  fun_induction skipFrom place enclosing text with
  | case2 _ _ _ _ opened _ scalar inductionHypothesis =>
      have := skipBlank_cons_length opened
      have := scalar?_length_le scalar
      have := (inductionHypothesis result).1
      exact ⟨by omega, fun _ => by omega⟩
  | case4 _ _ _ _ opened _ _ _ inductionHypothesis =>
      have := skipBlank_cons_length opened
      have := (inductionHypothesis result).1
      exact ⟨by omega, fun _ => by omega⟩
  | case7 _ _ _ _ closed inductionHypothesis =>
      have := skipBlank_cons_length closed
      have := (inductionHypothesis result).1
      exact ⟨by omega, fun _ => by omega⟩
  | case8 _ _ _ _ _ opened _ _ member inductionHypothesis =>
      have := skipBlank_cons_length opened
      have entered := Bracket.member_length_le member
      have := (inductionHypothesis result).2 nofun
      rw [List.length_cons] at entered
      exact ⟨by omega, fun _ => by omega⟩
  | case10 =>
      cases result
      exact ⟨Nat.le_refl _, fun behind => absurd rfl behind⟩
  | case12 _ _ _ _ _ member found inductionHypothesis =>
      have := skipBlank_cons_length found
      have := Bracket.member_length_le member
      have := (inductionHypothesis result).1
      exact ⟨by omega, fun behind => absurd rfl behind⟩
  | case14 _ _ _ _ found _ inductionHypothesis =>
      have := skipBlank_cons_length found
      have := (inductionHypothesis result).1
      exact ⟨by omega, fun behind => absurd rfl behind⟩
  | _ => cases result

end FrameCycle.Json.Skip
