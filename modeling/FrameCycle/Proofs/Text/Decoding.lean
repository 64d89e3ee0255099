import FrameCycle.Proofs.Text.Utf8

/-!
Only encoded text falls into characters. A character takes up just the bytes that encode it, so that
bytes with no stray piece among them encode the text that they show.
-/
namespace FrameCycle.Utf8

/-- The bytes are the encoding of some text. -/
def Valid (bytes : List UInt8) : Prop :=
  bytes.toByteArray.IsValidUTF8

theorem valid_encode (text : List Char) : Valid (encode text) :=
  ⟨text, rfl⟩

theorem Valid.exists_eq_encode {bytes : List UInt8} (valid : Valid bytes) :
    ∃ text, bytes = encode text := by
  obtain ⟨text, same⟩ := valid
  exact ⟨text, List.toByteArray_inj.mp same⟩

section Characters

variable {value : Nat}

theorem toNat_ofNat (scalar : value < 0xD800 ∨ 0xDFFF < value ∧ value < 0x110000) :
    (Char.ofNat value).val.toNat = value := by
  have valid : value.isValidChar := scalar
  rw [Char.ofNat, dif_pos valid]
  rfl

theorem utf8EncodeChar_one (high : value < 0x80) :
    String.utf8EncodeChar (Char.ofNat value) = [UInt8.ofNat value] := by
  simp only [String.utf8EncodeChar, @toNat_ofNat value (by omega)]
  rw [if_pos (by omega)]

theorem utf8EncodeChar_two (low : 0x80 ≤ value) (high : value < 0x800) :
    String.utf8EncodeChar (Char.ofNat value) =
      [UInt8.ofNat (value / 64 % 0x20 + 0xC0), UInt8.ofNat (value % 0x40 + 0x80)] := by
  simp only [String.utf8EncodeChar, @toNat_ofNat value (by omega)]
  rw [if_neg (by omega), if_pos (by omega)]

theorem utf8EncodeChar_three (low : 0x800 ≤ value) (high : value < 0x10000)
    (scalar : value < 0xD800 ∨ 0xDFFF < value) :
    String.utf8EncodeChar (Char.ofNat value) =
      [UInt8.ofNat (value / 4096 % 0x10 + 0xE0), UInt8.ofNat (value / 64 % 0x40 + 0x80),
        UInt8.ofNat (value % 0x40 + 0x80)] := by
  simp only [String.utf8EncodeChar, @toNat_ofNat value (by omega)]
  rw [if_neg (by omega), if_neg (by omega), if_pos (by omega)]

theorem utf8EncodeChar_four (low : 0x10000 ≤ value) (high : value < 0x110000) :
    String.utf8EncodeChar (Char.ofNat value) =
      [UInt8.ofNat (value / 262144 % 8 + 0xF0), UInt8.ofNat (value / 4096 % 0x40 + 0x80),
        UInt8.ofNat (value / 64 % 0x40 + 0x80), UInt8.ofNat (value % 0x40 + 0x80)] := by
  simp only [String.utf8EncodeChar, @toNat_ofNat value (by omega)]
  rw [if_neg (by omega), if_neg (by omega), if_neg (by omega)]

end Characters

/-- What a first byte says of the character that it opens; the least lead and the greatest, and the
one in front of the surrogates, admit fewer second bytes. -/
inductive Leads (byte : UInt8) : Lead → Prop where
  | two {top : Nat} : 2 ≤ top → top < 0x20 → byte = UInt8.ofNat (top % 0x20 + 0xC0) →
      Leads byte ⟨top, 0x80, 0xBF, 0⟩
  | three {top : Nat} : top < 0x10 → byte = UInt8.ofNat (top % 0x10 + 0xE0) →
      Leads byte ⟨top, if top = 0 then 0xA0 else 0x80, if top = 0xD then 0x9F else 0xBF, 1⟩
  | four {top : Nat} : top < 5 → byte = UInt8.ofNat (top % 8 + 0xF0) →
      Leads byte ⟨top, if top = 0 then 0x90 else 0x80, if top = 4 then 0x8F else 0xBF, 2⟩

theorem Leads.bounds {byte : UInt8} {lead : Lead} (leads : Leads byte lead) :
    0x80 ≤ lead.low.toNat ∧ lead.high.toNat ≤ 0xBF := by
  cases leads with
  | two => exact ⟨Nat.le_refl _, Nat.le_refl _⟩
  | three | four => constructor <;> (dsimp only; split <;> decide)

theorem eq_ofNat {byte : UInt8} {value : Nat} (same : byte.toNat = value) :
    byte = UInt8.ofNat value := by
  rw [← same, UInt8.ofNat_toNat]

theorem leads_of_lead? {byte : UInt8} {lead : Lead} (found : lead? byte = some lead) :
    Leads byte lead := by
  simp only [lead?, UInt8.le_iff_toNat_le, ← UInt8.toNat_inj, UInt8.reduceToNat] at found
  split at found
  · obtain rfl := Option.some.inj found
    exact .two (by omega) (by omega) (eq_ofNat (by omega))
  split at found
  · next least =>
      obtain rfl := Option.some.inj found
      exact @Leads.three byte 0 (by omega) (eq_ofNat least)
  split at found
  · next surrogates =>
      obtain rfl := Option.some.inj found
      exact @Leads.three byte 0xD (by omega) (eq_ofNat surrogates)
  split at found
  · obtain rfl := Option.some.inj found
    have three := @Leads.three byte (byte.toNat - 0xE0) (by omega) (eq_ofNat (by omega))
    rwa [if_neg (by omega), if_neg (by omega)] at three
  split at found
  · next least =>
      obtain rfl := Option.some.inj found
      exact @Leads.four byte 0 (by omega) (eq_ofNat least)
  split at found
  · obtain rfl := Option.some.inj found
    have four := @Leads.four byte (byte.toNat - 0xF0) (by omega) (eq_ofNat (by omega))
    rwa [if_neg (by omega), if_neg (by omega)] at four
  split at found
  · next greatest =>
      obtain rfl := Option.some.inj found
      exact @Leads.four byte 4 (by omega) (eq_ofNat greatest)
  · cases found

/-- A byte behind the first carries six bits, within the bounds that it was found in. -/
theorem eq_trailing {byte low high : UInt8} (least : 0x80 ≤ low.toNat)
    (greatest : high.toNat ≤ 0xBF) (between : low ≤ byte ∧ byte ≤ high) :
    ∃ bits < 0x40, byte = UInt8.ofNat (bits % 0x40 + 0x80) ∧
      low.toNat ≤ bits + 0x80 ∧ bits + 0x80 ≤ high.toNat := by
  obtain ⟨above, below⟩ := between
  rw [UInt8.le_iff_toNat_le] at above below
  exact ⟨byte.toNat - 0x80, by omega, eq_ofNat (by omega), by omega, by omega⟩

theorem continuation_eq_char {more value : Nat} {seen bytes behind : List UInt8} {c : Char}
    (read : continuation (more + 1) value seen bytes = (.char c, behind)) :
    ∃ bits < 0x40, ∃ rest seen', bytes = UInt8.ofNat (bits % 0x40 + 0x80) :: rest ∧
      continuation more (value * 64 + bits) seen' rest = (.char c, behind) := by
  cases bytes with
  | nil => simp [continuation] at read
  | cons byte rest =>
      simp only [continuation] at read
      split at read
      · next between =>
          obtain ⟨bits, small, rfl, -⟩ := eq_trailing (by decide) (by decide) between
          rw [toNat_trailing, Nat.mod_eq_of_lt small, Nat.add_sub_cancel] at read
          exact ⟨bits, small, rest, _, rfl, read⟩
      · simp at read

/-- A lead, a second byte within its bounds and as many bytes behind them as it announces are the
bytes of the character that they carry. -/
theorem utf8EncodeChar_of_continuation {byte : UInt8} {lead : Lead} (leads : Leads byte lead)
    {bits : Nat} (small : bits < 0x40) (above : lead.low.toNat ≤ bits + 0x80)
    (below : bits + 0x80 ≤ lead.high.toNat) {seen rest behind : List UInt8} {c : Char}
    (read : continuation lead.more (lead.payload * 64 + bits) seen rest = (.char c, behind)) :
    byte :: UInt8.ofNat (bits % 0x40 + 0x80) :: rest = String.utf8EncodeChar c ++ behind := by
  cases leads with
  | @two top low high same =>
      simp only [continuation, Prod.mk.injEq, Piece.char.injEq] at read
      obtain ⟨rfl, rfl⟩ := read
      have payload : (top * 64 + bits) / 64 = top := by omega
      have carried : (top * 64 + bits) % 0x40 = bits % 0x40 := by omega
      rw [utf8EncodeChar_two (by omega) (by omega), same, payload, carried]
      rfl
  | @three top high same =>
      obtain ⟨third, small', rest, _, rfl, ends⟩ := continuation_eq_char read
      simp only [continuation, Prod.mk.injEq, Piece.char.injEq] at ends
      obtain ⟨rfl, rfl⟩ := ends
      have overlong : top = 0 → 0x20 ≤ bits := by
        intro zero
        simpa [zero] using above
      have surrogate : top = 0xD → bits < 0x20 := by
        intro thirteen
        simp [thirteen] at below
        omega
      generalize whole : (top * 64 + bits) * 64 + third = value
      have payload : value / 4096 = top := by omega
      have second : value / 64 % 0x40 = bits % 0x40 := by omega
      have last : value % 0x40 = third % 0x40 := by omega
      rw [utf8EncodeChar_three (by omega) (by omega) (by omega), same, payload, second, last]
      rfl
  | @four top high same =>
      obtain ⟨third, small', rest, _, rfl, next⟩ := continuation_eq_char read
      obtain ⟨fourth, small'', rest, _, rfl, ends⟩ := continuation_eq_char next
      simp only [continuation, Prod.mk.injEq, Piece.char.injEq] at ends
      obtain ⟨rfl, rfl⟩ := ends
      have overlong : top = 0 → 0x10 ≤ bits := by
        intro zero
        simpa [zero] using above
      have beyond : top = 4 → bits < 0x10 := by
        intro four
        simp [four] at below
        omega
      generalize whole : ((top * 64 + bits) * 64 + third) * 64 + fourth = value
      have payload : value / 262144 = top := by omega
      have second : value / 4096 % 0x40 = bits % 0x40 := by omega
      have before : value / 64 % 0x40 = third % 0x40 := by omega
      have last : value % 0x40 = fourth % 0x40 := by omega
      rw [utf8EncodeChar_four (by omega) (by omega), same, payload, second, before, last]
      rfl

theorem first_eq_char {byte : UInt8} {rest behind : List UInt8} {c : Char}
    (found : first byte rest = (.char c, behind)) :
    byte :: rest = String.utf8EncodeChar c ++ behind := by
  unfold first at found
  split at found
  · next ascii =>
      simp only [Prod.mk.injEq, Piece.char.injEq] at found
      obtain ⟨rfl, rfl⟩ := found
      rw [@utf8EncodeChar_one byte.toNat ascii, UInt8.ofNat_toNat, List.singleton_append]
  split at found
  · next lead second rest announced =>
      have leads := leads_of_lead? announced
      split at found
      · next between =>
          obtain ⟨bits, small, rfl, above, below⟩ :=
            eq_trailing leads.bounds.1 leads.bounds.2 between
          rw [toNat_trailing, Nat.mod_eq_of_lt small, Nat.add_sub_cancel] at found
          exact utf8EncodeChar_of_continuation leads small above below found
      · cases found
  · cases found

/-- Where no byte goes astray, the text that bytes show encodes them. -/
theorem stray_or_encode_lossy (bytes : List UInt8) :
    (∃ seen, .stray seen ∈ pieces bytes) ∨ encode (lossy bytes) = bytes := by
  induction bytes using pieces.induct with
  | case1 => exact .inr (by rw [lossy, pieces, List.map_nil, encode, List.flatMap_nil])
  | case2 byte rest inductionHypothesis =>
      simp only [lossy, pieces]
      rcases found : first byte rest with ⟨c | seen, behind⟩
      · rw [found] at inductionHypothesis
        rcases inductionHypothesis with ⟨seen, member⟩ | same
        · exact .inl ⟨seen, .tail _ member⟩
        · rw [first_eq_char found]
          exact .inr (congrArg (String.utf8EncodeChar c ++ ·) same)
      · exact .inl ⟨seen, List.mem_cons_self⟩

theorem valid_iff {bytes : List UInt8} : Valid bytes ↔ encode (lossy bytes) = bytes := by
  constructor
  · intro valid
    obtain ⟨text, rfl⟩ := valid.exists_eq_encode
    rw [lossy_encode]
  · exact fun same => same ▸ valid_encode _

theorem mapM_char? (text : List Char) : (text.map Piece.char).mapM Piece.char? = some text := by
  induction text with
  | nil => rfl
  | cons c rest inductionHypothesis =>
      rw [List.map_cons, List.mapM_cons, inductionHypothesis]
      rfl

/-- Reading text and writing it are inverse to each other. -/
theorem decode?_eq_some_iff {bytes : List UInt8} {text : List Char} :
    decode? bytes = some text ↔ bytes = encode text := by
  constructor
  · intro decoded
    induction bytes using pieces.induct generalizing text with
    | case1 =>
        rw [decode?, pieces] at decoded
        cases decoded
        rfl
    | case2 byte rest inductionHypothesis =>
        rw [decode?, pieces, List.mapM_cons] at decoded
        obtain ⟨c, read, decoded⟩ := Option.bind_eq_some_iff.mp decoded
        obtain ⟨later, further, same⟩ := Option.bind_eq_some_iff.mp decoded
        cases same
        rcases found : first byte rest with ⟨piece, behind⟩
        rw [found] at read further inductionHypothesis
        cases piece with
        | stray seen => cases read
        | char c' =>
            cases read
            have same : behind = encode later := inductionHypothesis further
            rw [first_eq_char found, same]
            rfl
  · rintro rfl
    rw [decode?, pieces_encode, mapM_char?]

/-- Bytes that are no text show a replacement character. -/
theorem replacement_mem_lossy {bytes : List UInt8} (invalid : ¬ Valid bytes) :
    '\uFFFD' ∈ lossy bytes := by
  rcases stray_or_encode_lossy bytes with ⟨seen, member⟩ | same
  · exact List.mem_map.mpr ⟨_, member, rfl⟩
  · exact absurd (valid_iff.mpr same) invalid

theorem isInfix_encode {c : Char} {text : List Char} (member : c ∈ text) :
    String.utf8EncodeChar c <:+: encode text := by
  obtain ⟨before, behind, rfl⟩ := List.append_of_mem member
  refine ⟨encode before, encode behind, ?_⟩
  simp only [encode, List.flatMap_append, List.flatMap_cons, List.append_assoc]

end FrameCycle.Utf8
