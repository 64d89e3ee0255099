import FrameCycle.Json.Reader
import FrameCycle.Proofs.Json.Grammar

/-!
The steps that all readers share, held against the grammar: what they pass over, and when they
succeed.
-/
namespace FrameCycle.Json

namespace Grammar

/-- A number in front of this text is at its end. -/
def Ends (rest : List Char) : Prop :=
  ∀ c, rest.head? = some c → c.isDigit = false ∧ c ∉ ['.', 'e', 'E']

/-- The text starts with an element, not with a blank or the end of a list. -/
def Solid (text : List Char) : Prop :=
  ∃ c rest, text = c :: rest ∧ c ∉ blanks ∧ c ≠ ']'

theorem Blank.trans {text behind rest : List Char} (blank : Blank text behind)
    (further : Blank behind rest) : Blank text rest := by
  induction blank with
  | none => exact further
  | more member _ inductionHypothesis => exact .more member (inductionHypothesis further)

theorem Spaced.of_blank {α : Type} {form : Form α} {text behind rest : List Char} {value : α}
    (blank : Blank text behind) (spaced : Spaced form behind value rest) :
    Spaced form text value rest := by
  obtain ⟨further, found⟩ := spaced
  exact .intro (blank.trans further) found

theorem Spaced.imp {α β : Type} {form : Form α} {other : Form β} {text rest : List Char} {value : α}
    {value' : β} (change : ∀ {text}, form text value rest → other text value' rest)
    (spaced : Spaced form text value rest) : Spaced other text value' rest := by
  obtain ⟨blank, found⟩ := spaced
  exact .intro blank (change found)

theorem solid_of_mark {c : Char} {rest : List Char} (mark : c ∉ ']' :: blanks) :
    Solid (c :: rest) :=
  ⟨c, rest, rfl, List.not_mem_of_not_mem_cons mark, List.ne_of_not_mem_cons mark⟩

theorem Quoted.solid {α : Type} {piece : Form α} {text rest : List Char} {values : List α}
    (quoted : Quoted piece text values rest) : Solid text := by
  obtain ⟨pieces⟩ := quoted
  exact solid_of_mark (by decide)

theorem Enclosed.starts {α : Type} {opening closing : Char} {item : Form α} {text rest : List Char}
    {values : List α} (enclosed : Enclosed opening closing item text values rest) :
    ∃ inside, text = opening :: inside := by
  cases enclosed <;> exact ⟨_, rfl⟩

theorem Enclosed.solid {α : Type} {opening closing : Char} {item : Form α} {text rest : List Char}
    {values : List α} (enclosed : Enclosed opening closing item text values rest)
    (mark : opening ∉ ']' :: blanks) : Solid text := by
  obtain ⟨inside, rfl⟩ := enclosed.starts
  exact solid_of_mark mark

section Elements

variable {α : Type} {opening closing : Char} {item : Form α} {property : α → Prop}
  {text rest : List Char} {values : List α}

theorem Further.forall (further : Further closing item text values rest)
    (each : ∀ {text value rest}, item text value rest → property value) :
    ∀ value ∈ values, property value := by
  induction further with
  | closed => exact nofun
  | more _ next _ inductionHypothesis =>
      obtain ⟨-, written⟩ := next
      exact List.forall_mem_cons.mpr ⟨each written, inductionHypothesis⟩

theorem Enclosed.forall (enclosed : Enclosed opening closing item text values rest)
    (each : ∀ {text value rest}, item text value rest → property value) :
    ∀ value ∈ values, property value := by
  cases enclosed with
  | empty => exact nofun
  | filled first further =>
      obtain ⟨-, written⟩ := first
      exact List.forall_mem_cons.mpr ⟨each written, further.forall each⟩

end Elements

theorem Blank.ends_of_ends {text rest : List Char} (blank : Blank text rest) (ends : Ends rest) :
    Ends text := by
  have ending : ∀ c ∈ blanks, c.isDigit = false ∧ c ∉ ['.', 'e', 'E'] := by
    simp [blanks]
  cases blank with
  | none => exact ends
  | more member blank =>
      intro c starts
      exact ending c (Option.some.inj starts ▸ member)

/-- A comma or a closing bracket ends a number. -/
theorem Blank.ends {text rest : List Char} {c : Char} (blank : Blank text (c :: rest))
    (mark : c ∈ [',', ']', '\x7d']) : Ends text := by
  have ending : ∀ c ∈ [',', ']', '\x7d'], c.isDigit = false ∧ c ∉ ['.', 'e', 'E'] := by
    simp
  apply blank.ends_of_ends
  intro first starts
  exact ending first (Option.some.inj starts ▸ mark)

theorem Further.ends {α : Type} {closing : Char} {item : Form α} {text rest : List Char}
    {values : List α} (further : Further closing item text values rest)
    (mark : closing ∈ [',', ']', '\x7d']) : Ends text := by
  cases further with
  | closed blank => exact blank.ends mark
  | more comma => exact comma.ends (by decide)

end Grammar

open Grammar

theorem isBlank_iff {c : Char} : isBlank c = true ↔ c ∈ blanks := by
  simp [isBlank, blanks, or_assoc]

theorem blank_skipBlank (text : List Char) : Blank text (skipBlank text) := by
  induction text with
  | nil => exact .none
  | cons c text inductionHypothesis =>
      rw [skipBlank, List.dropWhile_cons]
      by_cases blank : isBlank c = true
      · rw [if_pos blank]
        exact .more (isBlank_iff.mp blank) inductionHypothesis
      · rw [if_neg blank]
        exact .none

theorem skipBlank_eq_of_blank {text rest : List Char} (blank : Blank text rest) :
    skipBlank text = skipBlank rest := by
  induction blank with
  | none => rfl
  | more member _ inductionHypothesis =>
      rw [← inductionHypothesis, skipBlank, List.dropWhile_cons, if_pos (isBlank_iff.mpr member)]
      rfl

theorem skipBlank_cons_eq_self {c : Char} {rest : List Char} (solid : c ∉ blanks) :
    skipBlank (c :: rest) = c :: rest := by
  rw [skipBlank, List.dropWhile_cons, if_neg (mt isBlank_iff.mp solid)]

theorem skipBlank_eq_cons_iff {text rest : List Char} {c : Char} :
    skipBlank text = c :: rest ↔ Blank text (c :: rest) ∧ c ∉ blanks := by
  constructor
  · intro found
    refine ⟨found ▸ blank_skipBlank text, fun member => ?_⟩
    have stays := List.head?_dropWhile_not isBlank text
    rw [show text.dropWhile isBlank = c :: rest from found, List.head?_cons] at stays
    simp only [isBlank_iff.mpr member] at stays
    cases stays
  · rintro ⟨blank, solid⟩
    rw [skipBlank_eq_of_blank blank, skipBlank_cons_eq_self solid]

theorem skipBlank_eq_nil_iff {text : List Char} : skipBlank text = [] ↔ Blank text [] := by
  constructor
  · intro found
    exact found ▸ blank_skipBlank text
  · intro blank
    rw [skipBlank_eq_of_blank blank]
    rfl

theorem ident_eq_ok_iff {expected text rest : List Char} :
    ident expected text = .ok rest ↔ text = expected ++ rest := by
  induction expected generalizing text with
  | nil => simp [ident]
  | cons letter expected inductionHypothesis =>
      cases text with
      | nil => simp [ident]
      | cons c text =>
          by_cases same : c = letter
          · simp [ident, same, inductionHypothesis]
          · simp [ident, same]

theorem colon_eq_ok_iff {text rest : List Char} :
    colon text = .ok rest ↔ Blank text (':' :: rest) := by
  constructor
  · intro read
    unfold colon at read
    split at read
    · next found =>
        cases read
        exact (skipBlank_eq_cons_iff.mp found).1
    · cases read
    · cases read
  · intro blank
    simp [colon, skipBlank_eq_cons_iff.mpr ⟨blank, by decide⟩]

theorem nextElement_eq_closing_iff {isFirst : Bool} {text rest : List Char} :
    nextElement isFirst text = .ok (.closing rest) ↔ Blank text (']' :: rest) := by
  constructor
  · intro found
    unfold nextElement at found
    split at found
    · cases found
    · next closed =>
        cases found
        exact (skipBlank_eq_cons_iff.mp closed).1
    · split at found
      · cases found
      · split at found
        · split at found <;> cases found
        · cases found
  · intro blank
    simp [nextElement, skipBlank_eq_cons_iff.mpr ⟨blank, by decide⟩]

/-- An element comes at once if it is the first, and behind a comma if it is not. -/
theorem blank_of_nextElement {isFirst : Bool} {text next : List Char}
    (found : nextElement isFirst text = .ok (.element next)) :
    if isFirst then Blank text next
    else ∃ behind, Blank text (',' :: behind) ∧ Blank behind next := by
  unfold nextElement at found
  split at found
  · cases found
  · cases found
  · next c rest _ opened =>
      have blank := (skipBlank_eq_cons_iff.mp opened).1
      split at found
      · next first =>
          cases found
          simpa [first] using blank
      · next first =>
          split at found
          · next comma =>
              rw [comma] at blank
              split at found
              · cases found
              · cases found
              · cases found
                rw [if_neg first]
                exact ⟨rest, blank, blank_skipBlank rest⟩
          · cases found

theorem nextElement_first {text next : List Char} (blank : Blank text next) (solid : Solid next) :
    nextElement true text = .ok (.element next) := by
  obtain ⟨c, rest, rfl, solid, inside⟩ := solid
  have opened := skipBlank_eq_cons_iff.mpr ⟨blank, solid⟩
  unfold nextElement
  rw [opened]
  split
  · next same => cases same
  · next same =>
      cases same
      exact absurd rfl inside
  · next same =>
      cases same
      rfl

theorem nextElement_later {text behind next : List Char} (comma : Blank text (',' :: behind))
    (blank : Blank behind next) (solid : Solid next) :
    nextElement false text = .ok (.element next) := by
  obtain ⟨c, rest, rfl, solid, inside⟩ := solid
  have parted := skipBlank_eq_cons_iff.mpr ⟨comma, by decide⟩
  have opened := skipBlank_eq_cons_iff.mpr ⟨blank, solid⟩
  unfold nextElement
  rw [parted]
  split
  · next same => cases same
  · next same => simp at same
  · next same =>
      cases same
      simp only [Bool.false_eq_true, ↓reduceIte, opened]
      split
      · next same => cases same
      · next same =>
          cases same
          exact absurd rfl inside
      · rfl

theorem nextField_eq_closing_iff {isFirst : Bool} {text rest : List Char} :
    nextField isFirst text = .ok (.closing rest) ↔ Blank text ('\x7d' :: rest) := by
  constructor
  · intro found
    unfold nextField at found
    split at found
    · cases found
    · next closed =>
        cases found
        exact (skipBlank_eq_cons_iff.mp closed).1
    · split at found
      · split at found <;> cases found
      · split at found
        · split at found <;> cases found
        · cases found
  · intro blank
    simp [nextField, skipBlank_eq_cons_iff.mpr ⟨blank, by decide⟩]

/-- A name comes at once if it is the first, and behind a comma if it is not. -/
theorem nextField_eq_element_iff {isFirst : Bool} {text next : List Char} :
    nextField isFirst text = .ok (.element next) ↔
      if isFirst then Blank text ('"' :: next)
      else ∃ behind, Blank text (',' :: behind) ∧ Blank behind ('"' :: next) := by
  constructor
  · intro found
    unfold nextField at found
    split at found
    · cases found
    · cases found
    · next c rest _ opened =>
        have blank := (skipBlank_eq_cons_iff.mp opened).1
        split at found
        · next first =>
            split at found
            · next quote =>
                cases found
                simpa [first, quote] using blank
            · cases found
        · next first =>
            split at found
            · next comma =>
                rw [comma] at blank
                split at found
                · cases found
                · next named =>
                    cases found
                    rw [if_neg first]
                    exact ⟨rest, blank, (skipBlank_eq_cons_iff.mp named).1⟩
                · cases found
                · cases found
            · cases found
  · intro found
    cases isFirst with
    | true =>
        simp [nextField, skipBlank_eq_cons_iff.mpr ⟨found, by decide⟩]
    | false =>
        obtain ⟨behind, comma, blank⟩ := found
        simp [nextField, skipBlank_eq_cons_iff.mpr ⟨comma, by decide⟩,
          skipBlank_eq_cons_iff.mpr ⟨blank, by decide⟩]

theorem closeList_eq_ok_iff {text rest : List Char} :
    closeList text = (.ok (), rest) ↔ Blank text (']' :: rest) := by
  constructor
  · intro closed
    unfold closeList at closed
    split at closed
    · next found =>
        cases closed
        exact (skipBlank_eq_cons_iff.mp found).1
    · split at closed <;> cases closed
    · cases closed
    · cases closed
  · intro blank
    simp [closeList, skipBlank_eq_cons_iff.mpr ⟨blank, by decide⟩]

theorem finish_eq_ok_iff {α : Type} {read : Except Failure (α × List Char)} {value : α} :
    finish read = .ok value ↔ ∃ rest, read = .ok (value, rest) ∧ Blank rest [] := by
  constructor
  · intro finished
    rcases read with failure | ⟨found, text⟩
    · cases finished
    · simp only [finish] at finished
      split at finished
      · next ended =>
          cases finished
          exact ⟨text, rfl, skipBlank_eq_nil_iff.mp ended⟩
      · cases finished
  · rintro ⟨rest, rfl, blank⟩
    simp only [finish, skipBlank_eq_nil_iff.mpr blank]

end FrameCycle.Json
