import FrameCycle.Json.Quote
import FrameCycle.Proofs.Json.Grammar

/-!
Strings are read and skipped just as they may be written.
-/
namespace FrameCycle.Json.Quote

open Grammar

theorem hexValue?_digitChar : ∀ value < 16,
    hexValue? (Nat.digitChar value) = some value ∧
      hexValue? (Nat.digitChar value).toUpper = some value := by
  decide

theorem toNat_digitChar : ∀ value < 16,
    (Nat.digitChar value).toNat = (if value < 10 then 48 else 87) + value ∧
      (Nat.digitChar value).toUpper.toNat = (if value < 10 then 48 else 55) + value := by
  decide

theorem hexDigit_iff {text rest : List Char} {value : Nat} :
    HexDigit text value rest ↔ ∃ c, text = c :: rest ∧ hexValue? c = some value := by
  constructor
  · rintro ⟨bound, rfl | rfl⟩
    · exact ⟨_, rfl, (hexValue?_digitChar value bound).1⟩
    · exact ⟨_, rfl, (hexValue?_digitChar value bound).2⟩
  · rintro ⟨c, rfl, found⟩
    unfold hexValue? at found
    split at found
    · next digit =>
        obtain ⟨low, high⟩ : 48 ≤ c.toNat ∧ c.toNat ≤ 57 := digit
        obtain rfl : c.toNat - 48 = value := Option.some.inj found
        refine .intro (by omega) (.inl (Char.toNat_inj.mp ?_))
        rw [(toNat_digitChar _ (by omega)).1, if_pos (by omega)]
        omega
    split at found
    · next lower =>
        obtain ⟨low, high⟩ : 97 ≤ c.toNat ∧ c.toNat ≤ 102 := lower
        obtain rfl : c.toNat - 97 + 10 = value := Option.some.inj found
        refine .intro (by omega) (.inl (Char.toNat_inj.mp ?_))
        rw [(toNat_digitChar _ (by omega)).1, if_neg (by omega)]
        omega
    split at found
    · next upper =>
        obtain ⟨low, high⟩ : 65 ≤ c.toNat ∧ c.toNat ≤ 70 := upper
        obtain rfl : c.toNat - 65 + 10 = value := Option.some.inj found
        refine .intro (by omega) (.inr (Char.toNat_inj.mp ?_))
        rw [(toNat_digitChar _ (by omega)).2, if_neg (by omega)]
        omega
    · cases found

theorem hexUnit_eq_ok_iff {text rest : List Char} {unit : Nat} :
    hexUnit text = .ok (unit, rest) ↔ CodeUnit text unit rest := by
  constructor
  · intro read
    unfold hexUnit at read
    split at read
    · split at read
      · next first second third fourth =>
          cases read
          exact .intro (hexDigit_iff.mpr ⟨_, rfl, first⟩) (hexDigit_iff.mpr ⟨_, rfl, second⟩)
            (hexDigit_iff.mpr ⟨_, rfl, third⟩) (hexDigit_iff.mpr ⟨_, rfl, fourth⟩)
      · cases read
    · cases read
  · rintro ⟨first, second, third, fourth⟩
    obtain ⟨_, rfl, firstValue⟩ := hexDigit_iff.mp first
    obtain ⟨_, rfl, secondValue⟩ := hexDigit_iff.mp second
    obtain ⟨_, rfl, thirdValue⟩ := hexDigit_iff.mp third
    obtain ⟨_, rfl, fourthValue⟩ := hexDigit_iff.mp fourth
    simp only [hexUnit, firstValue, secondValue, thirdValue, fourthValue]

theorem shortEscape?_eq_some_iff {letter c : Char} :
    shortEscape? letter = some c ↔ (letter, c) ∈ shortEscapes := by
  constructor
  · intro found
    unfold shortEscape? at found
    repeat' split at found
    all_goals first
      | (cases found; subst letter; decide)
      | cases found
  · intro member
    simp only [shortEscapes, List.mem_cons, Prod.mk.injEq, List.not_mem_nil, or_false] at member
    rcases member with ⟨rfl, rfl⟩ | ⟨rfl, rfl⟩ | ⟨rfl, rfl⟩ | ⟨rfl, rfl⟩ | ⟨rfl, rfl⟩ |
      ⟨rfl, rfl⟩ | ⟨rfl, rfl⟩ | ⟨rfl, rfl⟩ <;> rfl

theorem isLeading_iff {unit : Nat} : isLeading unit = true ↔ 0xD800 ≤ unit ∧ unit ≤ 0xDBFF := by
  simp [isLeading]

theorem isTrailing_iff {unit : Nat} : isTrailing unit = true ↔ 0xDC00 ≤ unit ∧ unit ≤ 0xDFFF := by
  simp [isTrailing]

theorem trailingHalf_eq_ok_iff {leading : Nat} {text rest : List Char} {c : Char} :
    trailingHalf leading text = .ok (c, rest) ↔ ∃ next trailing,
      text = '\\' :: 'u' :: next ∧ CodeUnit next trailing rest ∧ isTrailing trailing = true ∧
        c = ofPair leading trailing := by
  constructor
  · intro read
    unfold trailingHalf at read
    split at read
    · next next =>
        split at read
        · next trailing rest' unit =>
            split at read
            · next half =>
                obtain ⟨rfl, rfl⟩ := Prod.mk.inj (Except.ok.inj read)
                exact ⟨next, trailing, rfl, hexUnit_eq_ok_iff.mp unit, half, rfl⟩
            · cases read
        · cases read
    all_goals cases read
  · rintro ⟨next, trailing, rfl, unit, half, same⟩
    rw [same]
    simp only [trailingHalf, hexUnit_eq_ok_iff.mpr unit, if_pos half]

theorem spelt_of_numbered {text rest : List Char} {c : Char}
    (read : numbered text = .ok (c, rest)) : Spelt ('\\' :: 'u' :: text) c rest := by
  unfold numbered at read
  split at read
  · cases read
  · next unit behind found =>
      have code := hexUnit_eq_ok_iff.mp found
      split at read
      · cases read
      · next whole =>
          split at read
          · next leading =>
              obtain ⟨next, trailing, rfl, second, half, same⟩ := trailingHalf_eq_ok_iff.mp read
              obtain ⟨low, high⟩ := isLeading_iff.mp leading
              obtain ⟨trailingLow, trailingHigh⟩ := isTrailing_iff.mp half
              rw [same]
              exact .pair code second low high trailingLow trailingHigh
          · next single =>
              cases read
              refine .unit code fun surrogate => ?_
              rw [isTrailing_iff] at whole
              rw [isLeading_iff] at single
              omega

theorem escaped_eq_ok_iff {text rest : List Char} {c : Char} :
    escaped text = .ok (c, rest) ↔ Spelt ('\\' :: text) c rest := by
  constructor
  · intro read
    unfold escaped at read
    split at read
    · cases read
    · next letter behind =>
        split at read
        · next known =>
            cases read
            exact .short (shortEscape?_eq_some_iff.mp known)
        · split at read
          · next number =>
              subst letter
              exact spelt_of_numbered read
          · cases read
  · intro spelt
    cases spelt with
    | plain unquoted unescaped => exact absurd rfl unescaped
    | short member => simp only [escaped, shortEscape?_eq_some_iff.mpr member]
    | @unit text _ unit code whole =>
        have trailing : ¬ isTrailing unit = true := by
          rw [isTrailing_iff]
          omega
        have leading : ¬ isLeading unit = true := by
          rw [isLeading_iff]
          omega
        have unknown : shortEscape? 'u' = none := rfl
        simp only [escaped, unknown, ↓reduceIte, numbered, hexUnit_eq_ok_iff.mpr code,
          if_neg trailing, if_neg leading]
    | @pair text next _ leading trailing first second low high trailingLow trailingHigh =>
        have single : ¬ isTrailing leading = true := by
          rw [isTrailing_iff]
          omega
        have opens : isLeading leading = true := isLeading_iff.mpr ⟨low, high⟩
        have closes : isTrailing trailing = true := isTrailing_iff.mpr ⟨trailingLow, trailingHigh⟩
        have unknown : shortEscape? 'u' = none := rfl
        simp only [escaped, unknown, ↓reduceIte, numbered, hexUnit_eq_ok_iff.mpr first,
          if_neg single, if_pos opens]
        exact trailingHalf_eq_ok_iff.mpr ⟨next, trailing, rfl, second, closes, rfl⟩

theorem spelt_iff {text rest : List Char} {c : Char} :
    Spelt text c rest ↔ text = c :: rest ∧ c ≠ '"' ∧ c ≠ '\\' ∧ ' ' ≤ c ∨
      ∃ behind, text = '\\' :: behind ∧ escaped behind = .ok (c, rest) := by
  constructor
  · intro spelt
    cases spelt with
    | plain unquoted unescaped printing => exact .inl ⟨rfl, unquoted, unescaped, printing⟩
    | short member => exact .inr ⟨_, rfl, escaped_eq_ok_iff.mpr (.short member)⟩
    | unit code whole => exact .inr ⟨_, rfl, escaped_eq_ok_iff.mpr (.unit code whole)⟩
    | pair first second low high trailingLow trailingHigh =>
        exact .inr ⟨_, rfl,
          escaped_eq_ok_iff.mpr (.pair first second low high trailingLow trailingHigh)⟩
  · rintro (⟨rfl, unquoted, unescaped, printing⟩ | ⟨behind, rfl, read⟩)
    · exact .plain unquoted unescaped printing
    · exact escaped_eq_ok_iff.mp read

theorem read_eq_ok_iff {text characters rest : List Char} :
    read text = .ok (characters, rest) ↔ Pieces Spelt text characters rest := by
  constructor
  · intro result
    fun_induction read text generalizing characters rest with
    | case2 =>
        cases result
        exact .closed
    | case4 behind c next found characters' rest' again _ inductionHypothesis =>
        cases result
        exact .more (escaped_eq_ok_iff.mp found) (inductionHypothesis again)
    | case7 c behind unquoted unescaped printing characters' rest' again inductionHypothesis =>
        cases result
        exact .more (.plain unquoted unescaped (Char.not_lt.mp printing))
          (inductionHypothesis again)
    | _ => cases result
  · intro pieces
    induction pieces with
    | closed => simp [read]
    | @more text behind rest c characters spelt _ inductionHypothesis =>
        rcases spelt_iff.mp spelt with ⟨rfl, unquoted, unescaped, printing⟩ | ⟨next, rfl, escape⟩
        · simp only [read, if_neg unquoted, if_neg unescaped, if_neg (Char.not_lt.mpr printing),
            inductionHypothesis]
        · rw [read, if_neg (by decide), if_pos rfl]
          split
          · next failed => simp [escape] at failed
          · next found =>
              rw [escape] at found
              cases found
              simp only [inductionHypothesis]

theorem rough_iff {text rest : List Char} :
    Rough text () rest ↔ (∃ c, text = c :: rest ∧ c ≠ '"' ∧ c ≠ '\\' ∧ ' ' ≤ c) ∨
      ∃ behind, text = '\\' :: behind ∧ skipEscape behind = .ok rest := by
  constructor
  · intro rough
    cases rough with
    | plain unquoted unescaped printing => exact .inl ⟨_, rfl, unquoted, unescaped, printing⟩
    | short member =>
        exact .inr ⟨_, rfl, by simp [skipEscape, shortEscape?_eq_some_iff.mpr member]⟩
    | unit code =>
        have unknown : shortEscape? 'u' = none := rfl
        exact .inr ⟨_, rfl, by simp [skipEscape, unknown, hexUnit_eq_ok_iff.mpr code]⟩
  · rintro (⟨c, rfl, unquoted, unescaped, printing⟩ | ⟨behind, rfl, read⟩)
    · exact .plain unquoted unescaped printing
    · unfold skipEscape at read
      split at read
      · cases read
      · next letter behind =>
          split at read
          · next known =>
              cases read
              obtain ⟨c, known⟩ := Option.isSome_iff_exists.mp known
              exact .short (shortEscape?_eq_some_iff.mp known)
          · split at read
            · next number =>
                subst letter
                split at read
                · next code =>
                    cases read
                    exact .unit (hexUnit_eq_ok_iff.mp code)
                · cases read
            · cases read

theorem skip_eq_ok_iff {text rest : List Char} :
    skip text = .ok rest ↔ ∃ units, Pieces Rough text units rest := by
  constructor
  · intro result
    fun_induction skip text with
    | case2 =>
        cases result
        exact ⟨[], .closed⟩
    | case4 behind next found _ inductionHypothesis =>
        obtain ⟨units, pieces⟩ := inductionHypothesis result
        exact ⟨() :: units, .more (rough_iff.mpr (.inr ⟨behind, rfl, found⟩)) pieces⟩
    | case6 c behind unquoted unescaped printing inductionHypothesis =>
        obtain ⟨units, pieces⟩ := inductionHypothesis result
        exact ⟨() :: units, .more (.plain unquoted unescaped (Char.not_lt.mp printing)) pieces⟩
    | _ => cases result
  · rintro ⟨units, pieces⟩
    induction pieces with
    | closed => simp [skip]
    | @more text behind rest piece units rough _ inductionHypothesis =>
        rcases rough_iff.mp rough with ⟨c, rfl, unquoted, unescaped, printing⟩ | ⟨next, rfl, escape⟩
        · simp only [skip, if_neg unquoted, if_neg unescaped, if_neg (Char.not_lt.mpr printing),
            inductionHypothesis]
        · rw [skip, if_neg (by decide), if_pos rfl]
          split
          · next failed => simp [escape] at failed
          · next found =>
              rw [escape] at found
              cases found
              exact inductionHypothesis

end FrameCycle.Json.Quote
