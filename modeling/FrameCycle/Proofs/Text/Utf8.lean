import FrameCycle.Path

/-!
Encoded text falls into its own characters again: no byte of it goes astray, and so a path that was
made from a text shows that text.
-/
namespace FrameCycle

namespace Utf8

deriving instance DecidableEq for Lead

theorem lead?_two : ∀ top < 0x20, 2 ≤ top →
    lead? (UInt8.ofNat (top % 0x20 + 0xC0)) = some ⟨top, 0x80, 0xBF, 0⟩ := by
  decide

/-- With the least lead the second byte starts higher, and with one other it stops lower, where the
surrogates are. -/
theorem lead?_three : ∀ top < 0x10, lead? (UInt8.ofNat (top % 0x10 + 0xE0)) =
    some ⟨top, if top = 0 then 0xA0 else 0x80, if top = 0xD then 0x9F else 0xBF, 1⟩ := by
  decide

theorem lead?_four : ∀ top < 5, lead? (UInt8.ofNat (top % 8 + 0xF0)) =
    some ⟨top, if top = 0 then 0x90 else 0x80, if top = 4 then 0x8F else 0xBF, 2⟩ := by
  decide

theorem lead?_ascii {byte : UInt8} (ascii : byte < 0x80) : lead? byte = none := by
  have below : byte.toNat < 0x80 := ascii
  unfold lead?
  simp only [UInt8.le_iff_toNat_le, ← UInt8.toNat_inj]
  repeat rw [if_neg (by simp; omega)]

theorem first_ascii {byte : UInt8} (ascii : byte < 0x80) (rest : List UInt8) :
    first byte rest = (.char (Char.ofNat byte.toNat), rest) := by
  unfold first
  rw [if_pos ascii]

/-- A byte behind the first carries six bits of the character. -/
theorem toNat_trailing (bits : Nat) :
    (UInt8.ofNat (bits % 0x40 + 0x80)).toNat = bits % 0x40 + 0x80 :=
  UInt8.toNat_ofNat_of_lt' (by unfold UInt8.size; omega)

theorem trailing_ge {least : UInt8} {bits : Nat} (low : least.toNat ≤ bits % 0x40 + 0x80) :
    least ≤ UInt8.ofNat (bits % 0x40 + 0x80) := by
  rwa [UInt8.le_iff_toNat_le, toNat_trailing]

theorem trailing_le {greatest : UInt8} {bits : Nat} (high : bits % 0x40 + 0x80 ≤ greatest.toNat) :
    UInt8.ofNat (bits % 0x40 + 0x80) ≤ greatest := by
  rwa [UInt8.le_iff_toNat_le, toNat_trailing]

theorem continuation_trailing (more value bits : Nat) (seen rest : List UInt8) :
    ∃ seen', continuation (more + 1) value seen (UInt8.ofNat (bits % 0x40 + 0x80) :: rest) =
      continuation more (value * 64 + bits % 0x40) seen' rest := by
  have low : 0x80 ≤ UInt8.ofNat (bits % 0x40 + 0x80) := trailing_ge (by simp)
  have high : UInt8.ofNat (bits % 0x40 + 0x80) ≤ 0xBF := trailing_le (by simp; omega)
  simp only [continuation, if_pos (And.intro low high), toNat_trailing, Nat.add_sub_cancel]
  exact ⟨_, rfl⟩

theorem first_trailing {byte low high : UInt8} {payload more : Nat}
    (leads : lead? byte = some ⟨payload, low, high, more⟩) {bits : Nat}
    (above : low.toNat ≤ bits % 0x40 + 0x80) (below : bits % 0x40 + 0x80 ≤ high.toNat)
    (rest : List UInt8) :
    ∃ seen, first byte (UInt8.ofNat (bits % 0x40 + 0x80) :: rest) =
      continuation more (payload * 64 + bits % 0x40) seen rest := by
  have longer : ¬ byte < 0x80 := by
    intro ascii
    rw [lead?_ascii ascii] at leads
    cases leads
  have between := And.intro (trailing_ge above) (trailing_le below)
  simp only [first, if_neg longer, leads, if_pos between, toNat_trailing, Nat.add_sub_cancel]
  exact ⟨_, rfl⟩

section Lengths

variable {value : Nat} (rest : List UInt8)

theorem first_one (high : value < 0x80) :
    first (UInt8.ofNat value) rest = (.char (Char.ofNat value), rest) := by
  have same : (UInt8.ofNat value).toNat = value :=
    UInt8.toNat_ofNat_of_lt' (by unfold UInt8.size; omega)
  have ascii : UInt8.ofNat value < 0x80 := by
    rw [UInt8.lt_iff_toNat_lt, same]
    exact high
  rw [first_ascii ascii, same]

theorem first_two (low : 0x80 ≤ value) (high : value < 0x800) :
    first (UInt8.ofNat (value / 64 % 0x20 + 0xC0)) (UInt8.ofNat (value % 0x40 + 0x80) :: rest) =
      (.char (Char.ofNat value), rest) := by
  have leads := lead?_two (value / 64) (by omega) (by omega)
  have above : 0x80 ≤ value % 0x40 + 0x80 := by omega
  have below : value % 0x40 + 0x80 ≤ 0xBF := by omega
  obtain ⟨_, second⟩ := first_trailing leads above below rest
  have whole : value / 64 * 64 + value % 0x40 = value := by omega
  rw [second, continuation, whole]

theorem first_three (low : 0x800 ≤ value) (high : value < 0x10000)
    (valid : value < 0xD800 ∨ 0xDFFF < value) :
    first (UInt8.ofNat (value / 4096 % 0x10 + 0xE0))
        (UInt8.ofNat (value / 64 % 0x40 + 0x80) :: UInt8.ofNat (value % 0x40 + 0x80) :: rest) =
      (.char (Char.ofNat value), rest) := by
  have leads := lead?_three (value / 4096) (by omega)
  have above : (if value / 4096 = 0 then 0xA0 else 0x80 : UInt8).toNat ≤
      value / 64 % 0x40 + 0x80 := by
    split
    · simp only [UInt8.reduceToNat]
      omega
    · exact Nat.le_add_left _ _
  have below : value / 64 % 0x40 + 0x80 ≤
      (if value / 4096 = 0xD then 0x9F else 0xBF : UInt8).toNat := by
    split <;> simp only [UInt8.reduceToNat] <;> omega
  obtain ⟨_, second⟩ := first_trailing leads above below _
  obtain ⟨_, third⟩ := continuation_trailing 0 _ value _ rest
  have whole : (value / 4096 * 64 + value / 64 % 0x40) * 64 + value % 0x40 = value := by omega
  rw [second, third, continuation, whole]

theorem first_four (low : 0x10000 ≤ value) (high : value < 0x110000) :
    first (UInt8.ofNat (value / 262144 % 8 + 0xF0))
        (UInt8.ofNat (value / 4096 % 0x40 + 0x80) :: UInt8.ofNat (value / 64 % 0x40 + 0x80) ::
          UInt8.ofNat (value % 0x40 + 0x80) :: rest) =
      (.char (Char.ofNat value), rest) := by
  have leads := lead?_four (value / 262144) (by omega)
  have above : (if value / 262144 = 0 then 0x90 else 0x80 : UInt8).toNat ≤
      value / 4096 % 0x40 + 0x80 := by
    split
    · simp only [UInt8.reduceToNat]
      omega
    · exact Nat.le_add_left _ _
  have below : value / 4096 % 0x40 + 0x80 ≤
      (if value / 262144 = 4 then 0x8F else 0xBF : UInt8).toNat := by
    split <;> simp only [UInt8.reduceToNat] <;> omega
  obtain ⟨_, second⟩ := first_trailing leads above below _
  obtain ⟨_, third⟩ := continuation_trailing 1 _ (value / 64) _ _
  obtain ⟨_, fourth⟩ := continuation_trailing 0 _ value _ rest
  have whole : ((value / 262144 * 64 + value / 4096 % 0x40) * 64 + value / 64 % 0x40) * 64 +
      value % 0x40 = value := by omega
  rw [second, third, fourth, continuation, whole]

end Lengths

theorem first_encoded (c : Char) (rest : List UInt8) :
    ∃ byte behind, String.utf8EncodeChar c ++ rest = byte :: behind ∧
      first byte behind = (.char c, rest) := by
  have valid : c.val.toNat < 0xD800 ∨ 0xDFFF < c.val.toNat ∧ c.val.toNat < 0x110000 := c.valid
  suffices ∃ byte behind, String.utf8EncodeChar c ++ rest = byte :: behind ∧
      first byte behind = (.char (Char.ofNat c.toNat), rest) by rwa [Char.ofNat_toNat] at this
  simp only [String.utf8EncodeChar]
  split
  · next one => exact ⟨_, _, rfl, first_one rest (Nat.lt_succ_of_le one)⟩
  split
  · next one two =>
      exact ⟨_, _, rfl, first_two rest (Nat.lt_of_not_le one) (Nat.lt_succ_of_le two)⟩
  split
  · next two three =>
      exact ⟨_, _, rfl, first_three rest (Nat.lt_of_not_le two) (Nat.lt_succ_of_le three)
        (valid.imp_right And.left)⟩
  · next three =>
      have above := Nat.lt_of_not_le three
      exact ⟨_, _, rfl, first_four rest above (by omega)⟩

theorem pieces_encode (text : List Char) : pieces (encode text) = text.map .char := by
  induction text with
  | nil => rw [encode, List.flatMap_nil, pieces, List.map_nil]
  | cons c text inductionHypothesis =>
      obtain ⟨byte, behind, same, found⟩ := first_encoded c (encode text)
      have bytes : encode (c :: text) = byte :: behind := same
      rw [bytes, pieces, found, inductionHypothesis, List.map_cons]

theorem lossy_encode (text : List Char) : lossy (encode text) = text := by
  rw [lossy, pieces_encode, List.map_map]
  exact List.map_id text

end Utf8

theorem Path.lossy_ofChars (text : List Char) : (ofChars text).lossy = text :=
  Utf8.lossy_encode text

end FrameCycle
