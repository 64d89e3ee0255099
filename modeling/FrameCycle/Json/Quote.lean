import FrameCycle.Json.Scan

/-!
Strings. A used string is decoded, surrogate pairs included; a skipped one only has to end, and its
escapes only have to look like escapes.
-/
namespace FrameCycle.Json.Quote

def hexValue? (c : Char) : Option Nat :=
  if '0' ≤ c ∧ c ≤ '9' then some (c.toNat - '0'.toNat)
  else if 'a' ≤ c ∧ c ≤ 'f' then some (c.toNat - 'a'.toNat + 10)
  else if 'A' ≤ c ∧ c ≤ 'F' then some (c.toNat - 'A'.toNat + 10)
  else none

/-- Four bytes that are not four hexadecimal digits. -/
def notHex (text : List Char) : Failure :=
  if Utf8.size text < 4 then .placed .eofInString 0
  else .placed .invalidEscape (Utf8.size text - 4)

/-- Reads four hexadecimal digits. -/
def hexUnit (text : List Char) : Except Failure (Nat × List Char) :=
  match text with
  | a :: b :: c :: d :: rest =>
      match hexValue? a, hexValue? b, hexValue? c, hexValue? d with
      | some a, some b, some c, some d => .ok (((a * 16 + b) * 16 + c) * 16 + d, rest)
      | _, _, _, _ => .error (notHex text)
  | _ => .error (notHex text)

def isLeading (unit : Nat) : Bool :=
  decide (0xD800 ≤ unit) && decide (unit ≤ 0xDBFF)

def isTrailing (unit : Nat) : Bool :=
  decide (0xDC00 ≤ unit) && decide (unit ≤ 0xDFFF)

def ofPair (leading trailing : Nat) : Char :=
  Char.ofNat (0x10000 + (leading - 0xD800) * 0x400 + (trailing - 0xDC00))

/-- Reads the second half of a surrogate pair. -/
def trailingHalf (leading : Nat) (text : List Char) : Except Failure (Char × List Char) :=
  match text with
  | '\\' :: 'u' :: rest =>
      match hexUnit rest with
      | .ok (trailing, rest) =>
          if isTrailing trailing then .ok (ofPair leading trailing, rest)
          else .error (.behind .loneSurrogate rest)
      | .error failure => .error failure
  | ['\\'] => .error (.behind .eofInString [])
  | '\\' :: rest => .error (.atNext .brokenEscape rest)
  | [] => .error (.behind .eofInString [])
  | rest => .error (.atNext .brokenEscape rest)

/-- Reads the number of a character from behind `\u`. -/
def numbered (text : List Char) : Except Failure (Char × List Char) :=
  match hexUnit text with
  | .error failure => .error failure
  | .ok (unit, rest) =>
      if isTrailing unit then .error (.behind .loneSurrogate rest)
      else if isLeading unit then trailingHalf unit rest
      else .ok (Char.ofNat unit, rest)

/-- What a letter behind a backslash stands for. -/
def shortEscape? (letter : Char) : Option Char :=
  if letter = '"' then some '"'
  else if letter = '\\' then some '\\'
  else if letter = '/' then some '/'
  else if letter = 'b' then some '\x08'
  else if letter = 'f' then some '\x0C'
  else if letter = 'n' then some '\n'
  else if letter = 'r' then some '\r'
  else if letter = 't' then some '\t'
  else none

/-- Reads an escaped character from behind its backslash. -/
def escaped (text : List Char) : Except Failure (Char × List Char) :=
  match text with
  | [] => .error (.behind .eofInString [])
  | letter :: rest =>
      match shortEscape? letter with
      | some c => .ok (c, rest)
      | none =>
          if letter = 'u' then numbered rest
          else .error (.atNext .invalidEscape (letter :: rest))

theorem hexUnit_length {text rest : List Char} {unit : Nat}
    (read : hexUnit text = .ok (unit, rest)) : rest.length + 4 = text.length := by
  unfold hexUnit at read
  split at read
  · split at read
    · cases read
      rfl
    · cases read
  · cases read

theorem trailingHalf_length {leading : Nat} {text rest : List Char} {c : Char}
    (read : trailingHalf leading text = .ok (c, rest)) : rest.length < text.length := by
  unfold trailingHalf at read
  split at read
  · split at read
    · next found =>
        have := hexUnit_length found
        split at read
        · simp only [Except.ok.injEq, Prod.mk.injEq] at read
          simp only [← read.2, List.length_cons]
          omega
        · cases read
    · cases read
  all_goals cases read

theorem numbered_length {text rest : List Char} {c : Char}
    (read : numbered text = .ok (c, rest)) : rest.length < text.length := by
  unfold numbered at read
  split at read
  · cases read
  · next found =>
      have := hexUnit_length found
      split at read
      · cases read
      · split at read
        · have := trailingHalf_length read
          omega
        · cases read
          omega

theorem escaped_length {text rest : List Char} {c : Char}
    (read : escaped text = .ok (c, rest)) : rest.length < text.length := by
  unfold escaped at read
  split at read
  · cases read
  · split at read
    · cases read
      exact Nat.lt_succ_self _
    · split at read
      · exact Nat.lt_succ_of_lt (numbered_length read)
      · cases read

/-- Reads the characters of a string from behind its opening quote. -/
def read (text : List Char) : Except Failure (List Char × List Char) :=
  match text with
  | [] => .error (.behind .eofInString [])
  | c :: rest =>
      if c = '"' then .ok ([], rest)
      else if c = '\\' then
        match _ : escaped rest with
        | .error failure => .error failure
        | .ok (c, rest') =>
            match read rest' with
            | .ok (characters, rest) => .ok (c :: characters, rest)
            | .error failure => .error failure
      else if c < ' ' then .error (.behind .controlCharacter rest)
      else
        match read rest with
        | .ok (characters, rest) => .ok (c :: characters, rest)
        | .error failure => .error failure
termination_by text.length
decreasing_by
  · exact Nat.lt_succ_of_lt (escaped_length (by assumption))
  · exact Nat.lt_succ_self _

theorem read_length {text characters rest : List Char}
    (result : read text = .ok (characters, rest)) : rest.length < text.length := by
  fun_induction read text generalizing characters rest with
  | case1 => cases result
  | case2 =>
      cases result
      exact Nat.lt_succ_self _
  | case3 => cases result
  | case4 _ _ _ found _ _ again _ inductionHypothesis =>
      cases result
      have := escaped_length found
      have := inductionHypothesis again
      simp only [List.length_cons]
      omega
  | case5 => cases result
  | case6 => cases result
  | case7 _ _ _ _ _ _ _ again inductionHypothesis =>
      cases result
      exact Nat.lt_succ_of_lt (inductionHypothesis again)
  | case8 => cases result

/-- Skips an escape from behind its backslash. -/
def skipEscape (text : List Char) : Except Failure (List Char) :=
  match text with
  | [] => .error (.behind .eofInString [])
  | letter :: rest =>
      if (shortEscape? letter).isSome then .ok rest
      else if letter = 'u' then
        match hexUnit rest with
        | .ok (_, rest) => .ok rest
        | .error failure => .error failure
      else .error (.atNext .invalidEscape (letter :: rest))

theorem skipEscape_length {text rest : List Char} (read : skipEscape text = .ok rest) :
    rest.length < text.length := by
  unfold skipEscape at read
  split at read
  · cases read
  · split at read
    · cases read
      exact Nat.lt_succ_self _
    · split at read
      · split at read
        · next found =>
            cases read
            have := hexUnit_length found
            simp only [List.length_cons]
            omega
        · cases read
      · cases read

/-- Skips a string from behind its opening quote. -/
def skip (text : List Char) : Except Failure (List Char) :=
  match text with
  | [] => .error (.behind .eofInString [])
  | c :: rest =>
      if c = '"' then .ok rest
      else if c = '\\' then
        match _ : skipEscape rest with
        | .error failure => .error failure
        | .ok rest' => skip rest'
      else if c < ' ' then .error (.behind .controlCharacter (c :: rest))
      else skip rest
termination_by text.length
decreasing_by
  · exact Nat.lt_succ_of_lt (skipEscape_length (by assumption))
  · exact Nat.lt_succ_self _

theorem skip_length {text rest : List Char} (result : skip text = .ok rest) :
    rest.length < text.length := by
  fun_induction skip text with
  | case1 => cases result
  | case2 =>
      cases result
      exact Nat.lt_succ_self _
  | case3 => cases result
  | case4 _ _ found _ inductionHypothesis =>
      have := skipEscape_length found
      have := inductionHypothesis result
      simp only [List.length_cons]
      omega
  | case5 => cases result
  | case6 _ _ _ _ _ inductionHypothesis =>
      exact Nat.lt_succ_of_lt (inductionHypothesis result)

end FrameCycle.Json.Quote
