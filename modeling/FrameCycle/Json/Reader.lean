import FrameCycle.Json.Number
import FrameCycle.Json.Quote

/-!
Readers of typed values. A reader gives the value at the start of a text and the rest behind it, and
carries the proof that the rest is shorter; lists and choices of readers are readers again.
-/
namespace FrameCycle.Json

structure Reader (α : Type) where
  read : List Char → Except Failure (α × List Char)
  shorter : ∀ {text rest : List Char} {value : α},
    read text = .ok (value, rest) → rest.length < text.length

namespace Reader

variable {α β : Type}

/-- Reads a whole document. -/
def parse (reader : Reader α) (text : List Char) : Except Error α :=
  match finish (reader.read text) with
  | .ok value => .ok value
  | .error failure => .error (.ofFailure text failure)

/-- A value of the wrong kind; `text` starts with it. A scalar is read to its end first. -/
def mismatch (expected : String) (text : List Char) : Failure :=
  let after (found : Found) (scanned : Except Failure (List Char)) : Failure :=
    match scanned with
    | .ok rest => .behind (.invalidType found expected) rest
    | .error failure => failure
  let number (scanned : Except Failure (Number × List Char)) : Failure :=
    match scanned with
    | .ok (number, rest) => .behind (.invalidType number.found expected) rest
    | .error failure => failure
  match text with
  | [] => .atNext .expectedValue []
  | c :: rest =>
      if c = 'n' then after .null (ident ['u', 'l', 'l'] rest)
      else if c = 't' then after (.boolean true) (ident ['r', 'u', 'e'] rest)
      else if c = 'f' then after (.boolean false) (ident ['a', 'l', 's', 'e'] rest)
      else if c = '-' then number (Number.read false rest)
      else if isDigit c then number (Number.read true (c :: rest))
      else if c = '"' then
        match Quote.read rest with
        | .ok (characters, rest) => .behind (.invalidType (.string characters) expected) rest
        | .error failure => failure
      else if c = '[' then .behind (.invalidType .list expected) (c :: rest)
      else if c = '\x7b' then .behind (.invalidType .object expected) (c :: rest)
      else .atNext .expectedValue (c :: rest)

/-- A number as a word of 32 bits. -/
def word32? (number : Number) : Except Cause UInt32 :=
  match number with
  | .natural value =>
      if value < UInt32.size then .ok value.toUInt32
      else .error (.invalidValue number.found "u32")
  | .negative _ => .error (.invalidValue number.found "u32")
  | .real _ => .error (.invalidType number.found "u32")

def readWord32 (text : List Char) : Except Failure (UInt32 × List Char) :=
  let checked (scanned : Except Failure (Number × List Char)) :
      Except Failure (UInt32 × List Char) :=
    match scanned with
    | .error failure => .error failure
    | .ok (number, rest) =>
        match word32? number with
        | .ok word => .ok (word, rest)
        | .error cause => .error (.behind cause rest)
  match skipBlank text with
  | [] => .error (.atNext .eofInValue [])
  | c :: rest =>
      if c = '-' then checked (Number.read false rest)
      else if isDigit c then checked (Number.read true (c :: rest))
      else .error (mismatch "u32" (c :: rest))

def word32 : Reader UInt32 where
  read := readWord32
  shorter {text rest value} result := by
    unfold readWord32 at result
    simp only at result
    split at result
    · cases result
    · next c beyond opened =>
        have bound := skipBlank_length_le text
        rw [opened, List.length_cons] at bound
        split at result
        · split at result
          · cases result
          · next found =>
              have := Number.read_length found
              split at result <;> cases result
              omega
        · split at result
          · split at result
            · cases result
            · next found =>
                have := Number.read_length found
                rw [List.length_cons] at this
                split at result <;> cases result
                omega
          · cases result

def readString (expected : String) (text : List Char) : Except Failure (List Char × List Char) :=
  match skipBlank text with
  | [] => .error (.atNext .eofInValue [])
  | c :: rest => if c = '"' then Quote.read rest else .error (mismatch expected (c :: rest))

def string (expected : String) : Reader (List Char) where
  read := readString expected
  shorter {text rest value} result := by
    unfold readString at result
    split at result
    · cases result
    · next opened =>
        split at result
        · exact Nat.lt_trans (Quote.read_length result) (skipBlank_cons_length opened)
        · cases result

def readNull (text : List Char) : Except Failure (Unit × List Char) :=
  match skipBlank text with
  | [] => .error (.atNext .eofInValue [])
  | c :: rest =>
      if c = 'n' then
        match ident ['u', 'l', 'l'] rest with
        | .ok rest => .ok ((), rest)
        | .error failure => .error failure
      else .error (mismatch "unit" (c :: rest))

def null : Reader Unit where
  read := readNull
  shorter {text rest value} result := by
    unfold readNull at result
    split at result
    · cases result
    · next opened =>
        split at result
        · split at result
          · next word =>
              cases result
              exact Nat.lt_of_le_of_lt (ident_length_le word) (skipBlank_cons_length opened)
          · cases result
        · cases result

/-- A value, or null for none. -/
def readOption (inner : Reader α) (text : List Char) : Except Failure (Option α × List Char) :=
  match skipBlank text with
  | 'n' :: rest =>
      match ident ['u', 'l', 'l'] rest with
      | .ok rest => .ok (none, rest)
      | .error failure => .error failure
  | _ =>
      match inner.read text with
      | .ok (value, rest) => .ok (some value, rest)
      | .error failure => .error failure

def option (inner : Reader α) : Reader (Option α) where
  read := readOption inner
  shorter {text rest value} result := by
    unfold readOption at result
    split at result
    · next opened =>
        split at result
        · next word =>
            cases result
            exact Nat.lt_of_le_of_lt (ident_length_le word) (skipBlank_cons_length opened)
        · cases result
    · split at result
      · next found =>
          cases result
          exact inner.shorter found
      · cases result

def map (change : α → β) (inner : Reader α) : Reader β where
  read text := (inner.read text).map fun result => (change result.1, result.2)
  shorter {text rest value} result := by
    rcases map_eq_ok.mp result with ⟨⟨_, _⟩, read, same⟩
    cases same
    exact inner.shorter read

/-- Reads the elements of a list up to its end. -/
def items (item : Reader α) (isFirst : Bool) (text : List Char) :
    Except Failure (List α × List Char) :=
  match _ : nextElement isFirst text with
  | .error failure => .error failure
  | .ok (.closing rest) => .ok ([], rest)
  | .ok (.element text') =>
      match _ : item.read text' with
      | .error (.pending cause rest) => .error (.behind cause (closeList rest).2)
      | .error failure => .error failure
      | .ok (value, rest) =>
          match items item false rest with
          | .ok (values, rest) => .ok (value :: values, rest)
          | .error failure => .error failure
termination_by text.length
decreasing_by
  exact Nat.lt_of_lt_of_le (item.shorter (by assumption)) (nextElement_length_le (by assumption))

theorem items_length {item : Reader α} {isFirst : Bool} {text rest : List Char} {values : List α}
    (result : items item isFirst text = .ok (values, rest)) : rest.length < text.length := by
  fun_induction items item isFirst text generalizing values rest with
  | case2 _ _ _ closed =>
      cases result
      exact nextElement_closing_length closed
  | case5 _ _ _ found _ _ read _ _ again inductionHypothesis =>
      cases result
      have := nextElement_length_le found
      have := item.shorter read
      have := inductionHypothesis again
      omega
  | _ => cases result

def readList (expected : String) (item : Reader α) (text : List Char) :
    Except Failure (List α × List Char) :=
  match skipBlank text with
  | [] => .error (.atNext .eofInValue [])
  | c :: rest =>
      if c = '[' then items item true rest else .error (mismatch expected (c :: rest))

def list (expected : String) (item : Reader α) : Reader (List α) where
  read := readList expected item
  shorter {text rest value} result := by
    unfold readList at result
    split at result
    · cases result
    · next opened =>
        split at result
        · exact Nat.lt_trans (items_length result) (skipBlank_cons_length opened)
        · cases result

/-- One of several named forms of a value. As an object it has the name as its one field; a bare
string will do where `bare` says what it stands for. -/
structure Choice (α : Type) where
  name : String
  content : Reader α
  bare : Option α

namespace Choice

def find (choices : List (Choice α)) (name : List Char) : Except Cause (Choice α) :=
  match choices.find? fun choice => choice.name.toList == name with
  | some choice => .ok choice
  | none => .error (.unknownVariant name (choices.map Choice.name))

/-- Reads the name of a choice from behind its opening quote. -/
def named (choices : List (Choice α)) (text : List Char) :
    Except Failure (Choice α × List Char) :=
  match Quote.read text with
  | .error failure => .error failure
  | .ok (name, rest) =>
      match find choices name with
      | .ok choice => .ok (choice, rest)
      | .error cause => .error (.behind cause rest)

/-- Looks for the quote that opens the one field of a choice. -/
def nextName (text : List Char) : Except Failure (List Char) :=
  match skipBlank text with
  | [] => .error (.atNext .eofInObject [])
  | '"' :: rest => .ok rest
  | '\x7d' :: rest => .error (.atNext .expectedValue ('\x7d' :: rest))
  | rest => .error (.atNext .keyNotString rest)

/-- Reads a choice from behind the brace that opens it. -/
def tagged (choices : List (Choice α)) (text : List Char) : Except Failure (α × List Char) := do
  let text ← nextName text
  let (choice, text) ← named choices text
  let text ← colon text
  let (value, text) ← choice.content.read text
  match skipBlank text with
  | '\x7d' :: rest => .ok (value, rest)
  | [] => .error (.behind .eofInObject [])
  | rest => .error (.behind .expectedValue rest)

/-- Reads a bare name from behind its opening quote. -/
def bareName (choices : List (Choice α)) (text : List Char) : Except Failure (α × List Char) := do
  let (choice, rest) ← named choices text
  match choice.bare with
  | some value => .ok (value, rest)
  | none => .error (.pending (.invalidType .unitVariant "newtype variant") rest)

theorem named_length {choices : List (Choice α)} {text rest : List Char} {choice : Choice α}
    (result : named choices text = .ok (choice, rest)) : rest.length < text.length := by
  unfold named at result
  split at result
  · cases result
  · next found =>
      split at result
      · cases result
        exact Quote.read_length found
      · cases result

theorem nextName_length {text rest : List Char} (result : nextName text = .ok rest) :
    rest.length < text.length := by
  unfold nextName at result
  split at result
  · cases result
  · next found =>
      cases result
      exact skipBlank_cons_length found
  · cases result
  · cases result

theorem tagged_length {choices : List (Choice α)} {text rest : List Char} {value : α}
    (result : tagged choices text = .ok (value, rest)) : rest.length < text.length := by
  rcases bind_eq_ok.mp result with ⟨_, opened, result⟩
  rcases bind_eq_ok.mp result with ⟨⟨choice, _⟩, chosen, result⟩
  rcases bind_eq_ok.mp result with ⟨_, parted, result⟩
  rcases bind_eq_ok.mp result with ⟨⟨_, _⟩, held, result⟩
  have := nextName_length opened
  have := named_length chosen
  have := colon_length parted
  have := choice.content.shorter held
  simp only at result
  split at result
  · next closed =>
      cases result
      have := skipBlank_cons_length closed
      omega
  · cases result
  · cases result

theorem bareName_length {choices : List (Choice α)} {text rest : List Char} {value : α}
    (result : bareName choices text = .ok (value, rest)) : rest.length < text.length := by
  rcases bind_eq_ok.mp result with ⟨⟨_, _⟩, chosen, result⟩
  simp only at result
  split at result
  · cases result
    exact named_length chosen
  · cases result

end Choice

def readChoice (choices : List (Choice α)) (text : List Char) : Except Failure (α × List Char) :=
  match skipBlank text with
  | [] => .error (.atNext .eofInValue [])
  | c :: rest =>
      if c = '\x7b' then Choice.tagged choices rest
      else if c = '"' then Choice.bareName choices rest
      else .error (.atNext .expectedValue (c :: rest))

def choice (choices : List (Choice α)) : Reader α where
  read := readChoice choices
  shorter {text rest value} result := by
    unfold readChoice at result
    split at result
    · cases result
    · next opened =>
        split at result
        · exact Nat.lt_trans (Choice.tagged_length result) (skipBlank_cons_length opened)
        · split at result
          · exact Nat.lt_trans (Choice.bareName_length result) (skipBlank_cons_length opened)
          · cases result

end Reader

end FrameCycle.Json
