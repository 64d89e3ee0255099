import FrameCycle.Json.Skip
import FrameCycle.Proofs.Json.Scan
import Mathlib.Data.List.Induction

/-!
Numbers. A number is skipped just as it may be written, and what is read as a natural number is the
number that the digits spell.
-/
namespace FrameCycle.Json

open Grammar

theorem isDigit_eq_isDigit (c : Char) : isDigit c = c.isDigit := rfl

theorem startsWithDigit_eq_false_of_ends {text : List Char} (ends : Ends text) :
    startsWithDigit text = false := by
  cases text with
  | nil => rfl
  | cons c text => exact (ends c rfl).1

/-- Digits without a leading zero are the digits of the number that they spell. -/
theorem toDigits_ofDigitChars {c : Char} {digits : List Char} (nonzero : c ≠ '0')
    (decimal : ∀ digit ∈ c :: digits, digit.isDigit = true) :
    Nat.toDigits 10 (Nat.ofDigitChars 10 (c :: digits) 0) = c :: digits := by
  have digit_lt : ∀ digit : Char, digit.isDigit = true →
      digit.toNat - 48 < 10 ∧ Nat.digitChar (digit.toNat - 48) = digit := by
    intro digit isDigit
    obtain ⟨low, high⟩ : 48 ≤ digit.toNat ∧ digit.toNat ≤ 57 := Char.isDigit_iff_toNat.mp isDigit
    refine ⟨by omega, Char.toNat_inj.mp ?_⟩
    rw [Nat.toNat_digitChar_of_lt_ten (by omega)]
    omega
  induction digits using List.reverseRecOn with
  | nil =>
      obtain ⟨bound, same⟩ := digit_lt c (decimal c List.mem_cons_self)
      simp only [Nat.ofDigitChars_cons, Nat.ofDigitChars_nil, Nat.mul_zero, Nat.zero_add]
      exact (Nat.toDigits_of_lt_base bound).trans (congrArg (fun digit => [digit]) same)
  | append_singleton digits last inductionHypothesis =>
      rw [← List.cons_append] at decimal ⊢
      have whole := inductionHypothesis fun digit member =>
        decimal digit (List.mem_append_left _ member)
      obtain ⟨bound, same⟩ := digit_lt last (decimal last (by simp))
      have positive : 0 < Nat.ofDigitChars 10 (c :: digits) 0 := by
        apply Nat.pos_of_ne_zero
        intro zero
        rw [zero, Nat.toDigits_zero] at whole
        exact nonzero (List.cons.inj whole).1.symm
      have split : Nat.ofDigitChars 10 (c :: digits ++ [last]) 0 =
          10 * Nat.ofDigitChars 10 (c :: digits) 0 + (last.toNat - 48) := by
        rw [Nat.ofDigitChars_append, Nat.ofDigitChars_cons, Nat.ofDigitChars_nil]
        rfl
      rw [split, ← Nat.toDigits_append_toDigits (by decide) positive bound, whole,
        Nat.toDigits_of_lt_base bound, same]

theorem head?_toDigits {value : Nat} (positive : 0 < value) :
    (Nat.toDigits 10 value).head? ≠ some '0' := by
  induction value using Nat.strongRecOn with
  | ind value inductionHypothesis =>
      by_cases single : value < 10
      · have nonzero : ∀ value < 10, 0 < value → Nat.digitChar value ≠ '0' := by decide
        rw [Nat.toDigits_of_lt_base single, List.head?_cons]
        exact fun same => nonzero value single positive (Option.some.inj same)
      · have shorter : value / 10 < value := by omega
        have tens : 0 < value / 10 := by omega
        rw [Nat.toDigits_of_base_le (by decide) (Nat.not_lt.mp single), List.head?_append,
          Option.or_of_isSome (by simp)]
        exact inductionHypothesis _ shorter tens

/-- A whole number is a single zero, or digits of which the first is not zero. -/
theorem natural_iff {text rest : List Char} {value : Nat} :
    Natural text value rest ↔ (text = '0' :: rest ∧ value = 0) ∨
      ∃ c digits, text = c :: (digits ++ rest) ∧ c ≠ '0' ∧
        (∀ digit ∈ c :: digits, digit.isDigit = true) ∧
        value = Nat.ofDigitChars 10 (c :: digits) 0 := by
  constructor
  · rintro ⟨⟩
    by_cases zero : value = 0
    · subst zero
      exact .inl ⟨rfl, rfl⟩
    · right
      have first := head?_toDigits (Nat.pos_of_ne_zero zero)
      have decimal : ∀ digit ∈ Nat.toDigits 10 value, digit.isDigit = true := fun _ member =>
        Nat.isDigit_of_mem_toDigits (by decide) (by decide) member
      have spelt : Nat.ofDigitChars 10 (Nat.toDigits 10 value) 0 = value :=
        Nat.ofDigitChars_ten_toDigits
      have some := @Nat.toDigits_ne_nil value 10
      generalize Nat.toDigits 10 value = digits at *
      cases digits with
      | nil => exact absurd rfl some
      | cons c digits =>
          exact ⟨c, digits, rfl, fun same => first (congrArg _ same), decimal, spelt.symm⟩
  · rintro (⟨rfl, rfl⟩ | ⟨c, digits, rfl, nonzero, decimal, rfl⟩)
    · exact @Natural.intro 0 rest
    · rw [← List.cons_append]
      conv => arg 1; rw [← toDigits_ofDigitChars nonzero decimal]
      exact .intro

theorem Grammar.Natural.exists_digit {text rest : List Char} {value : Nat}
    (natural : Natural text value rest) :
    ∃ c behind, text = c :: behind ∧ c.isDigit = true := by
  rcases natural_iff.mp natural with ⟨rfl, -⟩ | ⟨c, digits, rfl, -, decimal, -⟩
  · exact ⟨_, _, rfl, rfl⟩
  · exact ⟨_, _, rfl, decimal c List.mem_cons_self⟩

theorem Grammar.Numeral.exists_numeric {text rest : List Char} (numeral : Numeral text rest) :
    ∃ c behind, text = c :: behind ∧ (c = '-' ∨ c.isDigit = true) := by
  cases numeral with
  | plain unsigned =>
      obtain ⟨natural, -, -⟩ := unsigned
      obtain ⟨c, behind, rfl, decimal⟩ := natural.exists_digit
      exact ⟨c, behind, rfl, .inr decimal⟩
  | negative unsigned => exact ⟨_, _, rfl, .inl rfl⟩

theorem solid_of_numeric {c : Char} {rest : List Char} (numeric : c = '-' ∨ c.isDigit = true) :
    Solid (c :: rest) := by
  refine ⟨c, rest, rfl, ?_⟩
  have marks : ∀ mark ∈ blanks ++ [']'], mark ≠ '-' ∧ mark.isDigit = false := by
    simp [blanks]
  have other : ∀ mark ∈ blanks ++ [']'], c ≠ mark := by
    rintro mark member rfl
    obtain ⟨unsigned, digitless⟩ := marks c member
    rcases numeric with minus | digit
    · exact unsigned minus
    · simp [digitless] at digit
  exact ⟨fun blank => other c (List.mem_append_left _ blank) rfl, other ']' (by decide)⟩

theorem skipDigits_cons {c : Char} {text : List Char} (decimal : c.isDigit = true) :
    skipDigits (c :: text) = skipDigits text :=
  List.dropWhile_cons_of_pos decimal

theorem skipDigits_append {digits rest : List Char}
    (decimal : ∀ digit ∈ digits, digit.isDigit = true) :
    skipDigits (digits ++ rest) = skipDigits rest :=
  List.dropWhile_append_of_pos decimal

theorem skipDigits_eq_self {rest : List Char} (ends : startsWithDigit rest = false) :
    skipDigits rest = rest := by
  cases rest with
  | nil => rfl
  | cons c rest => exact List.dropWhile_cons_of_neg (Bool.eq_false_iff.mp ends)

theorem exists_append_skipDigits (text : List Char) :
    ∃ digits, text = digits ++ skipDigits text ∧ ∀ digit ∈ digits, digit.isDigit = true :=
  ⟨text.takeWhile isDigit, List.takeWhile_append_dropWhile.symm,
    List.all_eq_true.mp List.all_takeWhile⟩

theorem digits_skipDigits {c : Char} (text : List Char) (decimal : c.isDigit = true) :
    Digits (c :: text) (skipDigits text) := by
  induction text generalizing c with
  | nil => exact .last decimal
  | cons next text inductionHypothesis =>
      by_cases further : next.isDigit = true
      · rw [skipDigits_cons further]
        exact .more decimal (inductionHypothesis further)
      · have ends : startsWithDigit (next :: text) = false := Bool.eq_false_iff.mpr further
        rw [skipDigits_eq_self ends]
        exact .last decimal

theorem Grammar.Digits.cases_skipDigits {text rest : List Char} (digits : Digits text rest)
    (ends : startsWithDigit rest = false) :
    ∃ c behind, text = c :: behind ∧ c.isDigit = true ∧ skipDigits behind = rest := by
  induction digits with
  | last decimal => exact ⟨_, _, rfl, decimal, skipDigits_eq_self ends⟩
  | @more c text rest decimal _ inductionHypothesis =>
      obtain ⟨next, behind, rfl, further, skipped⟩ := inductionHypothesis ends
      exact ⟨c, next :: behind, rfl, decimal, (skipDigits_cons further).trans skipped⟩

theorem sign_exponentSign (text : List Char) : Sign text (exponentSign text).2 := by
  unfold exponentSign
  split
  · exact .some (by decide)
  · exact .some (by decide)
  · exact .none

namespace Skip

theorem withPower_eq_ok {text rest : List Char} (read : withPower text = .ok rest) :
    ∃ digits, Sign text digits ∧ Digits digits rest := by
  refine ⟨(exponentSign text).2, sign_exponentSign text, ?_⟩
  unfold withPower at read
  split at read
  · cases read
  · next found =>
      split at read
      · next decimal =>
          cases read
          rw [found]
          exact digits_skipDigits _ decimal
      · cases read

theorem exponent_of_power {text rest : List Char} (read : power text = .ok rest) :
    Exponent text rest := by
  unfold power at read
  split at read
  · obtain ⟨digits, sign, digits⟩ := withPower_eq_ok read
    exact .some (by decide) sign digits
  · obtain ⟨digits, sign, digits⟩ := withPower_eq_ok read
    exact .some (by decide) sign digits
  · cases read
    exact .none

theorem withPower_of_digits {text digits rest : List Char} (sign : Sign text digits)
    (found : Digits digits rest) (ends : Ends rest) : withPower text = .ok rest := by
  obtain ⟨c, behind, rfl, decimal, skipped⟩ :=
    found.cases_skipDigits (startsWithDigit_eq_false_of_ends ends)
  have behindSign : (exponentSign text).2 = c :: behind := by
    cases sign with
    | none =>
        have unsigned : ∀ sign ∈ ['+', '-'], sign.isDigit = false := by simp
        unfold exponentSign
        split
        · next same =>
            cases same
            simp [unsigned '+' (by decide)] at decimal
        · next same =>
            cases same
            simp [unsigned '-' (by decide)] at decimal
        · rfl
    | some member =>
        simp only [List.mem_cons, List.not_mem_nil, or_false] at member
        rcases member with rfl | rfl <;> rfl
  simp only [withPower, behindSign, isDigit_eq_isDigit, if_pos decimal, skipped]

theorem power_of_exponent {text rest : List Char} (exponent : Exponent text rest)
    (ends : Ends rest) : power text = .ok rest := by
  cases exponent with
  | none =>
      unfold power
      split
      · next rest' => simpa using (ends 'e' rfl).2
      · next rest' => simpa using (ends 'E' rfl).2
      · rfl
  | some letter sign digits =>
      simp only [List.mem_cons, List.not_mem_nil, or_false] at letter
      rcases letter with rfl | rfl <;> exact withPower_of_digits sign digits ends

theorem fraction_of_tail {text rest : List Char} (read : tail text = .ok rest) :
    ∃ exponent, Fraction text exponent ∧ Exponent exponent rest := by
  unfold tail at read
  split at read
  · next behind =>
      split at read
      · next decimal =>
          cases behind with
          | nil => cases decimal
          | cons c behind =>
              refine ⟨_, .some (digits_skipDigits behind decimal), exponent_of_power ?_⟩
              rwa [skipDigits_cons decimal] at read
      · cases read
  · exact ⟨text, .none, exponent_of_power read⟩

/-- Neither an exponent nor the end of a number goes on with digits. -/
theorem startsWithDigit_of_exponent {text rest : List Char} (exponent : Exponent text rest)
    (ends : Ends rest) : startsWithDigit text = false := by
  cases exponent with
  | none => exact startsWithDigit_eq_false_of_ends ends
  | some letter sign digits =>
      simp only [List.mem_cons, List.not_mem_nil, or_false] at letter
      rcases letter with rfl | rfl <;> rfl

theorem tail_of_fraction {text exponent rest : List Char} (fraction : Fraction text exponent)
    (power : Exponent exponent rest) (ends : Ends rest) : tail text = .ok rest := by
  have skipped := power_of_exponent power ends
  cases fraction with
  | none =>
      unfold tail
      split
      · next behind =>
          cases power with
          | none => simpa using (ends '.' rfl).2
          | some letter => simp at letter
      · exact skipped
  | some digits =>
      obtain ⟨c, behind, rfl, decimal, same⟩ :=
        digits.cases_skipDigits (startsWithDigit_of_exponent power ends)
      have starts : startsWithDigit (c :: behind) = true := decimal
      simp only [tail, if_pos starts, skipDigits_cons decimal, same, skipped]

theorem unsigned_of_number {text rest : List Char} (read : number text = .ok rest) :
    Unsigned text rest := by
  unfold number at read
  split at read
  · cases read
  · next c behind =>
      split at read
      · next zero =>
          split at read
          · cases read
          · obtain ⟨exponent, fraction, power⟩ := fraction_of_tail read
            exact .intro (natural_iff.mpr (.inl ⟨by rw [zero], rfl⟩)) fraction power
      · next nonzero =>
          split at read
          · next decimal =>
              obtain ⟨digits, same, all⟩ := exists_append_skipDigits behind
              obtain ⟨exponent, fraction, power⟩ := fraction_of_tail read
              refine .intro (natural_iff.mpr (.inr ⟨c, digits, ?_, nonzero, ?_, rfl⟩))
                fraction power
              · exact congrArg _ same
              · exact List.forall_mem_cons.mpr ⟨decimal, all⟩
          · cases read

/-- What follows a whole number does not go on with digits. -/
theorem startsWithDigit_of_fraction {text exponent rest : List Char}
    (fraction : Fraction text exponent) (power : Exponent exponent rest) (ends : Ends rest) :
    startsWithDigit text = false := by
  cases fraction with
  | none => exact startsWithDigit_of_exponent power ends
  | some digits => rfl

theorem number_of_unsigned {text rest : List Char} (unsigned : Unsigned text rest)
    (ends : Ends rest) : number text = .ok rest := by
  obtain ⟨natural, fraction, power⟩ := unsigned
  have digitless := startsWithDigit_of_fraction fraction power ends
  have skipped := tail_of_fraction fraction power ends
  rcases natural_iff.mp natural with ⟨rfl, -⟩ | ⟨c, digits, rfl, nonzero, decimal, -⟩
  · simp [number, digitless, skipped]
  · obtain ⟨first, others⟩ := List.forall_mem_cons.mp decimal
    simp only [number, if_neg nonzero, isDigit_eq_isDigit, if_pos first, skipDigits_append others,
      skipDigits_eq_self digitless, skipped]

end Skip

namespace Number

variable {value : Nat} {text rest : List Char}

theorem digits_of_gather {limit start : Nat} (found : gather limit start text = (value, rest)) :
    ∃ digits, text = digits ++ rest ∧ (∀ digit ∈ digits, digit.isDigit = true) ∧
      value = Nat.ofDigitChars 10 digits start := by
  induction text generalizing start with
  | nil =>
      cases found
      exact ⟨[], rfl, nofun, rfl⟩
  | cons c text inductionHypothesis =>
      rw [gather] at found
      split at found
      · next fits =>
          obtain ⟨digits, rfl, decimal, spelt⟩ := inductionHypothesis found
          refine ⟨c :: digits, rfl, List.forall_mem_cons.mpr ⟨fits.1, decimal⟩, ?_⟩
          rw [spelt, Nat.ofDigitChars_cons, Nat.mul_comm]
          rfl
      · cases found
        exact ⟨[], rfl, nofun, rfl⟩

theorem le_ofDigitChars (digits : List Char) (start : Nat) :
    start ≤ Nat.ofDigitChars 10 digits start := by
  induction digits generalizing start with
  | nil => exact Nat.le_refl start
  | cons c digits inductionHypothesis =>
      rw [Nat.ofDigitChars_cons]
      exact Nat.le_trans (by omega) (inductionHypothesis _)

theorem gather_of_digits {limit start : Nat} {digits : List Char}
    (decimal : ∀ digit ∈ digits, digit.isDigit = true)
    (fits : Nat.ofDigitChars 10 digits start < limit) (ends : startsWithDigit rest = false) :
    gather limit start (digits ++ rest) = (Nat.ofDigitChars 10 digits start, rest) := by
  induction digits generalizing start with
  | nil =>
      cases rest with
      | nil => rfl
      | cons c rest =>
          have digitless : isDigit c = false := ends
          simp [gather, digitless]
  | cons c digits inductionHypothesis =>
      obtain ⟨first, others⟩ := List.forall_mem_cons.mp decimal
      have step : start * 10 + digitValue c = 10 * start + (c.toNat - '0'.toNat) := by
        rw [Nat.mul_comm, digitValue]
      rw [Nat.ofDigitChars_cons, ← step] at fits ⊢
      have below := Nat.lt_of_le_of_lt (le_ofDigitChars digits _) fits
      rw [List.cons_append, gather, if_pos ⟨first, below⟩]
      exact inductionHypothesis others fits

namespace Significand

variable {significand : Significand} {exponent : Int}

theorem settle_ne_natural : significand.settle exponent text ≠ .ok (.natural value, rest) := by
  unfold settle
  split <;> simp [signed]

theorem withPower_ne_natural :
    significand.withPower exponent text ≠ .ok (.natural value, rest) := by
  unfold withPower
  split
  · simp
  · split
    · simp only
      split
      · split
        · split <;> simp [signed]
        · exact settle_ne_natural
      · exact settle_ne_natural
    · simp

theorem power_ne_natural : significand.power exponent text ≠ .ok (.natural value, rest) := by
  unfold power
  split
  · exact withPower_ne_natural
  · exact withPower_ne_natural
  · exact settle_ne_natural

theorem withFraction_ne_natural :
    significand.withFraction exponent text ≠ .ok (.natural value, rest) := by
  unfold withFraction
  simp only
  split
  · exact power_ne_natural
  · split
    · simp
    · exact power_ne_natural

/-- A natural number has neither a sign nor dropped digits, and nothing follows its digits. -/
theorem tail_eq_natural {dropped : Nat}
    (read : significand.tail dropped text = .ok (.natural value, rest)) :
    significand.positive = true ∧ significand.digits = value ∧ dropped = 0 ∧ text = rest := by
  unfold tail at read
  split at read
  · exact absurd read withFraction_ne_natural
  · exact absurd read withPower_ne_natural
  · exact absurd read withPower_ne_natural
  · split at read
    · next whole =>
        obtain ⟨number, same⟩ := Prod.mk.inj (Except.ok.inj read)
        unfold Significand.whole at number
        split at number
        · next positive => exact ⟨positive, Number.natural.inj number, whole, same⟩
        · split at number <;> cases number
    · exact absurd read settle_ne_natural

theorem tail_of_ends (digits : Nat) (ends : Ends text) :
    tail ⟨true, digits⟩ 0 text = .ok (.natural digits, text) := by
  unfold tail
  split
  · simpa using (ends '.' rfl).2
  · simpa using (ends 'e' rfl).2
  · simpa using (ends 'E' rfl).2
  · rfl

end Significand

theorem natural_of_read {positive : Bool}
    (result : read positive text = .ok (.natural value, rest)) :
    positive = true ∧ Natural text value rest := by
  unfold read at result
  split at result
  · cases result
  · next c behind =>
      split at result
      · next zero =>
          split at result
          · cases result
          · obtain ⟨unsigned, none, -, rfl⟩ := Significand.tail_eq_natural result
            exact ⟨unsigned, natural_iff.mpr (.inl ⟨by rw [zero], none.symm⟩)⟩
      · next nonzero =>
          split at result
          · next decimal =>
              generalize gathered : gather wordLimit (digitValue c) behind = found at result
              obtain ⟨spelt, after⟩ := found
              obtain ⟨unsigned, rfl, kept, rfl⟩ := Significand.tail_eq_natural result
              obtain ⟨digits, rfl, others, rfl⟩ := digits_of_gather gathered
              -- no digits were dropped, so none are ahead
              have none : skipDigits after = after :=
                (List.dropWhile_sublist isDigit).eq_of_length_le (Nat.sub_eq_zero_iff_le.mp kept)
              refine ⟨unsigned, natural_iff.mpr (.inr ⟨c, digits, by rw [none], nonzero,
                List.forall_mem_cons.mpr ⟨decimal, others⟩, ?_⟩)⟩
              rw [Nat.ofDigitChars_cons, Nat.mul_zero, Nat.zero_add]
              rfl
          · cases result

theorem read_of_natural (natural : Natural text value rest) (fits : value < wordLimit)
    (ends : Ends rest) : read true text = .ok (.natural value, rest) := by
  have digitless := startsWithDigit_eq_false_of_ends ends
  rcases natural_iff.mp natural with ⟨rfl, rfl⟩ | ⟨c, digits, rfl, nonzero, decimal, rfl⟩
  · simp [read, digitless, Significand.tail_of_ends 0 ends]
  · obtain ⟨first, others⟩ := List.forall_mem_cons.mp decimal
    have start : Nat.ofDigitChars 10 (c :: digits) 0 =
        Nat.ofDigitChars 10 digits (digitValue c) := by
      rw [Nat.ofDigitChars_cons, Nat.mul_zero, Nat.zero_add]
      rfl
    rw [start] at fits ⊢
    simp only [read, if_neg nonzero, isDigit_eq_isDigit, if_pos first,
      gather_of_digits others fits digitless, skipDigits_eq_self digitless, Nat.sub_self,
      Significand.tail_of_ends _ ends]

end Number

end FrameCycle.Json
