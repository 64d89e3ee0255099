import FrameCycle.Fault
import FrameCycle.Json.Error

/-!
The small steps that all readers share. Each takes the text ahead and gives the rest behind what it
read; the lemmas say that the rest is never longer, and shorter wherever something was read.
-/
namespace FrameCycle.Json

def isBlank (c : Char) : Bool :=
  c == ' ' || c == '\t' || c == '\n' || c == '\r'

def skipBlank (text : List Char) : List Char :=
  text.dropWhile isBlank

def isDigit (c : Char) : Bool :=
  decide ('0' ≤ c) && decide (c ≤ '9')

def digitValue (c : Char) : Nat :=
  c.toNat - '0'.toNat

def startsWithDigit : List Char → Bool
  | [] => false
  | c :: _ => isDigit c

def skipDigits (text : List Char) : List Char :=
  text.dropWhile isDigit

/-- Reads the sign of an exponent; `true` is the sign that may be left out. -/
def exponentSign : List Char → Bool × List Char
  | '+' :: rest => (true, rest)
  | '-' :: rest => (false, rest)
  | text => (true, text)

/-- Reads the rest of a bare word. -/
def ident : (expected text : List Char) → Except Failure (List Char)
  | [], rest => .ok rest
  | _ :: _, [] => .error (.behind .eofInValue [])
  | letter :: expected, c :: rest =>
      if c = letter then ident expected rest else .error (.atNext .expectedIdent (c :: rest))

/-- Reads the colon between a field's name and its value. -/
def colon (text : List Char) : Except Failure (List Char) :=
  match skipBlank text with
  | ':' :: rest => .ok rest
  | [] => .error (.atNext .eofInObject [])
  | rest => .error (.atNext .expectedColon rest)

/-- What a list or an object holds next. -/
inductive Ahead where
  /-- The closing bracket, behind which `rest` begins. -/
  | closing (rest : List Char)
  | element (text : List Char)

/-- Looks for a list's next element, or its end. -/
def nextElement (isFirst : Bool) (text : List Char) : Except Failure Ahead :=
  match skipBlank text with
  | [] => .error (.atNext .eofInList [])
  | ']' :: rest => .ok (.closing rest)
  | c :: rest =>
      if isFirst then .ok (.element (c :: rest))
      else if c = ',' then
        match skipBlank rest with
        | [] => .error (.atNext .eofInValue [])
        | ']' :: rest => .error (.atNext .trailingComma (']' :: rest))
        | rest => .ok (.element rest)
      else .error (.atNext .expectedListEnd (c :: rest))

/-- Looks for the quote that opens an object's next field name, or for the object's end. -/
def nextField (isFirst : Bool) (text : List Char) : Except Failure Ahead :=
  match skipBlank text with
  | [] => .error (.atNext .eofInObject [])
  | '\x7d' :: rest => .ok (.closing rest)
  | c :: rest =>
      if isFirst then
        if c = '"' then .ok (.element rest) else .error (.atNext .keyNotString (c :: rest))
      else if c = ',' then
        match skipBlank rest with
        | [] => .error (.atNext .eofInValue [])
        | '"' :: rest => .ok (.element rest)
        | '\x7d' :: rest => .error (.atNext .trailingComma ('\x7d' :: rest))
        | rest => .error (.atNext .keyNotString rest)
      else .error (.atNext .expectedObjectEnd (c :: rest))

/-- Closes a list, and says where the attempt came to rest. -/
def closeList (text : List Char) : Except Failure Unit × List Char :=
  match skipBlank text with
  | ']' :: rest => (.ok (), rest)
  | ',' :: rest =>
      match skipBlank rest with
      | ']' :: rest => (.error (.atNext .trailingComma (']' :: rest)), ']' :: rest)
      | rest => (.error (.atNext .trailingCharacters rest), rest)
  | [] => (.error (.atNext .eofInList []), [])
  | rest => (.error (.atNext .trailingCharacters rest), rest)

/-- Where an attempt to close an object comes to rest. -/
def closeObject (text : List Char) : List Char :=
  match skipBlank text with
  | '\x7d' :: rest => rest
  | rest => rest

/-- Nothing but blanks may follow a document. -/
def finish {α : Type} : Except Failure (α × List Char) → Except Failure α
  | .error failure => .error failure
  | .ok (value, text) =>
      match skipBlank text with
      | [] => .ok value
      | rest => .error (.atNext .trailingCharacters rest)

theorem map_eq_ok {α β : Type} {change : α → β} {first : Except Failure α} {value : β} :
    first.map change = .ok value ↔ ∃ found, first = .ok found ∧ change found = value := by
  cases first <;> simp [Except.map]

theorem length_dropWhile_le {α : Type} (keep : α → Bool) (values : List α) :
    (values.dropWhile keep).length ≤ values.length :=
  (List.dropWhile_sublist keep).length_le

theorem skipBlank_length_le (text : List Char) : (skipBlank text).length ≤ text.length :=
  length_dropWhile_le isBlank text

theorem skipDigits_length_le (text : List Char) : (skipDigits text).length ≤ text.length :=
  length_dropWhile_le isDigit text

theorem exponentSign_length_le (text : List Char) :
    (exponentSign text).2.length ≤ text.length := by
  unfold exponentSign
  split <;> simp

/-- What follows the first character behind the blanks is shorter. -/
theorem skipBlank_cons_length {text rest : List Char} {c : Char}
    (found : skipBlank text = c :: rest) : rest.length < text.length := by
  have bound := skipBlank_length_le text
  rw [found, List.length_cons] at bound
  omega

theorem ident_length_le {expected text rest : List Char} (read : ident expected text = .ok rest) :
    rest.length ≤ text.length := by
  induction expected generalizing text with
  | nil => simp_all [ident]
  | cons letter expected inductionHypothesis =>
      cases text with
      | nil => simp [ident] at read
      | cons c text =>
          simp only [ident] at read
          split at read
          · exact Nat.le_succ_of_le (inductionHypothesis read)
          · cases read

theorem colon_length {text rest : List Char} (read : colon text = .ok rest) :
    rest.length < text.length := by
  unfold colon at read
  split at read
  · next found =>
      cases read
      exact skipBlank_cons_length found
  · cases read
  · cases read

theorem nextElement_length_le {isFirst : Bool} {text text' : List Char}
    (found : nextElement isFirst text = .ok (.element text')) : text'.length ≤ text.length := by
  unfold nextElement at found
  split at found
  · cases found
  · cases found
  · next c rest _ opened =>
      have shorter := skipBlank_cons_length opened
      split at found
      · cases found
        exact shorter
      · split at found
        · split at found
          · cases found
          · cases found
          · cases found
            exact Nat.le_trans (skipBlank_length_le rest) (Nat.le_of_lt shorter)
        · cases found

theorem nextElement_closing_length {isFirst : Bool} {text rest : List Char}
    (found : nextElement isFirst text = .ok (.closing rest)) : rest.length < text.length := by
  unfold nextElement at found
  split at found
  · cases found
  · next opened =>
      cases found
      exact skipBlank_cons_length opened
  · split at found
    · cases found
    · split at found
      · split at found <;> cases found
      · cases found

theorem nextField_length {isFirst : Bool} {text text' : List Char}
    (found : nextField isFirst text = .ok (.element text')) : text'.length < text.length := by
  unfold nextField at found
  split at found
  · cases found
  · cases found
  · next c rest _ opened =>
      have shorter := skipBlank_cons_length opened
      split at found
      · split at found
        · cases found
          exact shorter
        · cases found
      · split at found
        · split at found
          · cases found
          · next name =>
              cases found
              exact Nat.lt_trans (skipBlank_cons_length name) shorter
          · cases found
          · cases found
        · cases found

theorem nextField_closing_length {isFirst : Bool} {text rest : List Char}
    (found : nextField isFirst text = .ok (.closing rest)) : rest.length < text.length := by
  unfold nextField at found
  split at found
  · cases found
  · next opened =>
      cases found
      exact skipBlank_cons_length opened
  · split at found
    · split at found <;> cases found
    · split at found
      · split at found <;> cases found
      · cases found

theorem closeList_length {text : List Char} (closed : (closeList text).1 = .ok ()) :
    (closeList text).2.length < text.length := by
  unfold closeList at closed ⊢
  split at closed
  · next found => simpa [found] using skipBlank_cons_length found
  · split at closed <;> cases closed
  · cases closed
  · cases closed

end FrameCycle.Json
