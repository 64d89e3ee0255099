import FrameCycle.Proofs.Json.Number
import FrameCycle.Proofs.Json.Quote
import Mathlib.Data.List.Nodup

/-!
Readers that read a form: what they read is written in that form, and all that is so written is
read. Readers of lists, options and choices read the forms that are made from those of their parts.
-/
namespace FrameCycle.Json

open Grammar

variable {α β : Type}

namespace Grammar

/-- An object with one field. -/
inductive Tagged (name : String) (content : Form α) : Form α where
  | intro {text rest : List Char} {value : α} {key : List Char} :
      key = name.toList → Fields (Quoted Spelt) content text [(key, value)] rest →
      Tagged name content text value rest

/-- One of several alternatives, as an object with one field or as a bare name. -/
inductive Chosen (alternatives : List (Reader.Choice α × Form α)) : Form α where
  | tagged {text rest : List Char} {value : α} {alternative : Reader.Choice α × Form α} :
      alternative ∈ alternatives → Tagged alternative.1.name alternative.2 text value rest →
      Chosen alternatives text value rest
  | bare {text rest : List Char} {value : α} {alternative : Reader.Choice α × Form α} :
      alternative ∈ alternatives → alternative.1.bare = some value →
      Quoted Spelt text alternative.1.name.toList rest → Chosen alternatives text value rest

inductive Changed (change : α → β) (form : Form α) : Form β where
  | intro {text rest : List Char} {value : α} :
      form text value rest → Changed change form text (change value) rest

end Grammar

structure Reads (reader : Reader α) (form : Form α) : Prop where
  solid : ∀ {text rest : List Char} {value : α}, form text value rest → Solid text
  sound : ∀ {text rest : List Char} {value : α},
    reader.read text = .ok (value, rest) → Spaced form text value rest
  complete : ∀ {text rest : List Char} {value : α},
    Spaced form text value rest → Ends rest → reader.read text = .ok (value, rest)

namespace Reads

section Words

theorem word32?_eq_ok_iff {number : Number} {word : UInt32} :
    Reader.word32? number = .ok word ↔ number = .natural word.toNat := by
  constructor
  · intro fits
    unfold Reader.word32? at fits
    split at fits
    · next value =>
        split at fits
        · next bound =>
            cases fits
            rw [Nat.toUInt32_eq, UInt32.toNat_ofNat_of_lt' bound]
        · cases fits
    · cases fits
    · cases fits
  · rintro rfl
    simp [Reader.word32?, word.toNat_lt_size]

theorem word32 : Reads .word32 Word32 where
  solid := by
    rintro text rest word ⟨natural⟩
    obtain ⟨c, behind, rfl, decimal⟩ := natural.exists_digit
    exact solid_of_numeric (.inr decimal)
  sound := by
    intro text rest word result
    change Reader.readWord32 text = .ok (word, rest) at result
    unfold Reader.readWord32 at result
    simp only at result
    split at result
    · cases result
    · next c behind opened =>
        have blank := (skipBlank_eq_cons_iff.mp opened).1
        split at result
        · -- what has a sign is no natural number
          split at result
          · cases result
          · next found =>
              split at result
              · next fits =>
                  rw [word32?_eq_ok_iff.mp fits] at found
                  cases (Number.natural_of_read found).1
              · cases result
        · split at result
          · split at result
            · cases result
            · next found =>
                split at result
                · next fits =>
                    cases result
                    rw [word32?_eq_ok_iff.mp fits] at found
                    exact .intro blank (.intro (Number.natural_of_read found).2)
                · cases result
          · cases result
  complete := by
    rintro text rest word ⟨blank, ⟨natural⟩⟩ ends
    obtain ⟨c, behind, rfl, decimal⟩ := natural.exists_digit
    obtain ⟨_, _, same, visible, -⟩ : Solid (c :: behind) := solid_of_numeric (.inr decimal)
    cases same
    have unsigned : c ≠ '-' := by
      rintro rfl
      cases decimal
    have fits : word.toNat < Number.wordLimit := Nat.lt_trans word.toNat_lt_size (by decide)
    have opened := skipBlank_eq_cons_iff.mpr ⟨blank, visible⟩
    change Reader.readWord32 text = _
    simp only [Reader.readWord32, opened, if_neg unsigned, isDigit_eq_isDigit, if_pos decimal,
      Number.read_of_natural natural fits ends, word32?_eq_ok_iff.mpr rfl]

theorem string (expected : String) : Reads (.string expected) (Quoted Spelt) where
  solid := by
    intro text rest characters quoted
    exact quoted.solid
  sound := by
    intro text rest characters result
    change Reader.readString expected text = .ok (characters, rest) at result
    unfold Reader.readString at result
    split at result
    · cases result
    · next opened =>
        split at result
        · next quote =>
            subst quote
            exact .intro (skipBlank_eq_cons_iff.mp opened).1
              (.intro (Quote.read_eq_ok_iff.mp result))
        · cases result
  complete := by
    rintro text rest characters ⟨blank, ⟨pieces⟩⟩ ends
    have opened := skipBlank_eq_cons_iff.mpr ⟨blank, by decide⟩
    change Reader.readString expected text = _
    simp only [Reader.readString, opened, ↓reduceIte, Quote.read_eq_ok_iff.mpr pieces]

theorem ident_null {rest : List Char} :
    ident ['u', 'l', 'l'] ('u' :: 'l' :: 'l' :: rest) = .ok rest :=
  ident_eq_ok_iff.mpr rfl

theorem null : Reads .null Null where
  solid := by
    rintro text rest value ⟨⟩
    exact solid_of_mark (by decide)
  sound := by
    intro text rest value result
    change Reader.readNull text = .ok (value, rest) at result
    unfold Reader.readNull at result
    split at result
    · cases result
    · next opened =>
        split at result
        · next letter =>
            split at result
            · next word =>
                cases result
                rw [letter, ident_eq_ok_iff.mp word] at opened
                exact .intro (skipBlank_eq_cons_iff.mp opened).1 .intro
            · cases result
        · cases result
  complete := by
    rintro text rest value ⟨blank, ⟨⟩⟩ ends
    have opened := skipBlank_eq_cons_iff.mpr ⟨blank, by decide⟩
    change Reader.readNull text = _
    simp only [Reader.readNull, opened, ↓reduceIte, ident_null]

end Words

variable {reader : Reader α} {form : Form α}

theorem option (reads : Reads reader form)
    (other : ∀ {text rest : List Char} {value : α}, form text value rest →
      text.head? ≠ some 'n') :
    Reads reader.option (Nullable form) where
  solid := by
    intro text rest value nullable
    cases nullable with
    | none null => exact Reads.null.solid null
    | some found => exact reads.solid found
  sound := by
    intro text rest value result
    change Reader.readOption reader text = .ok (value, rest) at result
    unfold Reader.readOption at result
    split at result
    · next opened =>
        split at result
        · next word =>
            cases result
            rw [ident_eq_ok_iff.mp word] at opened
            exact .intro (skipBlank_eq_cons_iff.mp opened).1 (.none .intro)
        · cases result
    · split at result
      · next found =>
          cases result
          exact (reads.sound found).imp .some
      · cases result
  complete := by
    rintro text rest value ⟨blank, nullable⟩ ends
    change Reader.readOption reader text = _
    cases nullable with
    | none null =>
        obtain ⟨⟩ := null
        have opened := skipBlank_eq_cons_iff.mpr ⟨blank, by decide⟩
        simp only [Reader.readOption, opened, ident_null]
    | some found =>
        have result := reads.complete (.intro blank found) ends
        obtain ⟨c, behind, rfl, visible, -⟩ := reads.solid found
        have opened := skipBlank_eq_cons_iff.mpr ⟨blank, visible⟩
        unfold Reader.readOption
        split
        · next same =>
            rw [opened] at same
            cases same
            exact absurd rfl (other found)
        · simp only [result]

theorem map (reads : Reads reader form) (change : α → β) :
    Reads (reader.map change) (Changed change form) where
  solid := by
    rintro text rest value ⟨found⟩
    exact reads.solid found
  sound := by
    intro text rest value result
    obtain ⟨⟨found, _⟩, read, same⟩ := map_eq_ok.mp result
    cases same
    exact (reads.sound read).imp .intro
  complete := by
    rintro text rest value ⟨blank, ⟨found⟩⟩ ends
    exact map_eq_ok.mpr ⟨_, reads.complete (.intro blank found) ends, rfl⟩

theorem congr {other : Form α} (reads : Reads reader form)
    (same : ∀ {text rest : List Char} {value : α},
      form text value rest ↔ other text value rest) : Reads reader other where
  solid found := reads.solid (same.mpr found)
  sound result := (reads.sound result).imp same.mp
  complete spaced ends := reads.complete (spaced.imp same.mpr) ends

theorem items_sound (reads : Reads reader form) {isFirst : Bool} {text rest : List Char}
    {values : List α} (result : reader.items isFirst text = .ok (values, rest)) :
    if isFirst then Listed form ('[' :: text) values rest
    else Further ']' form text values rest := by
  fun_induction Reader.items reader isFirst text generalizing values rest with
  | case2 isFirst text closing closed =>
      cases result
      have blank := nextElement_eq_closing_iff.mp closed
      split
      · exact .empty blank
      · exact .closed blank
  | case5 isFirst text next found value behind read values' rest' again inductionHypothesis =>
      cases result
      have further := inductionHypothesis again
      have ahead := blank_of_nextElement found
      split
      · next first =>
          rw [if_pos first] at ahead
          exact .filled (.of_blank ahead (reads.sound read)) further
      · next later =>
          rw [if_neg later] at ahead
          obtain ⟨inside, comma, blank⟩ := ahead
          exact .more comma (.of_blank blank (reads.sound read)) further
  | _ => cases result

theorem items_step {isFirst : Bool} {text next behind rest : List Char} {value : α}
    {values : List α} (found : nextElement isFirst text = .ok (.element next))
    (read : reader.read next = .ok (value, behind))
    (again : reader.items false behind = .ok (values, rest)) :
    reader.items isFirst text = .ok (value :: values, rest) := by
  rw [Reader.items.eq_def]
  split <;> simp_all
  split <;> simp_all

theorem items_further (reads : Reads reader form) {text rest : List Char} {values : List α}
    (further : Further ']' form text values rest) :
    reader.items false text = .ok (values, rest) := by
  induction further with
  | closed blank =>
      rw [Reader.items.eq_def]
      split <;> simp_all [nextElement_eq_closing_iff.mpr blank]
  | more comma spaced further inductionHypothesis =>
      obtain ⟨blank, found⟩ := spaced
      exact items_step (nextElement_later comma blank (reads.solid found))
        (reads.complete (.intro .none found) (further.ends (by decide))) inductionHypothesis

theorem list (expected : String) (reads : Reads reader form) :
    Reads (.list expected reader) (Listed form) where
  solid := by
    intro text rest values listed
    exact listed.solid (by decide)
  sound := by
    intro text rest values result
    change Reader.readList expected reader text = .ok (values, rest) at result
    unfold Reader.readList at result
    split at result
    · cases result
    · next opened =>
        split at result
        · next bracket =>
            subst bracket
            exact .intro (skipBlank_eq_cons_iff.mp opened).1 (reads.items_sound result)
        · cases result
  complete := by
    rintro text rest values ⟨blank, listed⟩ ends
    change Reader.readList expected reader text = _
    cases listed with
    | empty closed =>
        have opened := skipBlank_eq_cons_iff.mpr ⟨blank, by decide⟩
        simp only [Reader.readList, opened, ↓reduceIte]
        rw [Reader.items.eq_def]
        split <;> simp_all [nextElement_eq_closing_iff.mpr closed]
    | filled spaced further =>
        have opened := skipBlank_eq_cons_iff.mpr ⟨blank, by decide⟩
        obtain ⟨inside, found⟩ := spaced
        simp only [Reader.readList, opened, ↓reduceIte]
        exact items_step (nextElement_first inside (reads.solid found))
          (reads.complete (.intro .none found) (further.ends (by decide)))
          (reads.items_further further)

end Reads

section Choices

open Reader

theorem nextName_eq_ok_iff {text rest : List Char} :
    Choice.nextName text = .ok rest ↔ Blank text ('"' :: rest) := by
  constructor
  · intro found
    unfold Choice.nextName at found
    split at found
    · cases found
    · next opened =>
        cases found
        exact (skipBlank_eq_cons_iff.mp opened).1
    · cases found
    · cases found
  · intro blank
    simp [Choice.nextName, skipBlank_eq_cons_iff.mpr ⟨blank, by decide⟩]

theorem find_sound {choices : List (Choice α)} {name : List Char} {choice : Choice α}
    (found : Choice.find choices name = .ok choice) :
    choice ∈ choices ∧ choice.name.toList = name := by
  unfold Choice.find at found
  split at found
  · next listed =>
      cases found
      exact ⟨List.mem_of_find?_eq_some listed, by simpa using List.find?_some listed⟩
  · cases found

/-- Choices with different names are found by them. -/
theorem find_complete {choices : List (Choice α)} {choice : Choice α}
    (distinct : (choices.map Choice.name).Nodup) (member : choice ∈ choices) :
    Choice.find choices choice.name.toList = .ok choice := by
  have found : choices.find? (fun other => other.name.toList == choice.name.toList) =
      some choice := by
    cases found : choices.find? fun other => other.name.toList == choice.name.toList with
    | none => simpa using List.find?_eq_none.mp found choice member
    | some other =>
        have same : other.name.toList = choice.name.toList := by
          simpa using List.find?_some found
        have names : other.name = choice.name := String.toList_inj.mp same
        rw [List.inj_on_of_nodup_map distinct (List.mem_of_find?_eq_some found) member names]
  simp only [Choice.find, found]

theorem named_eq_ok_iff {choices : List (Choice α)} (distinct : (choices.map Choice.name).Nodup)
    {text rest : List Char} {choice : Choice α} :
    Choice.named choices text = .ok (choice, rest) ↔
      choice ∈ choices ∧ Pieces Spelt text choice.name.toList rest := by
  constructor
  · intro named
    unfold Choice.named at named
    split at named
    · cases named
    · next name behind read =>
        split at named
        · next found =>
            cases named
            obtain ⟨member, rfl⟩ := find_sound found
            exact ⟨member, Quote.read_eq_ok_iff.mp read⟩
        · cases named
  · rintro ⟨member, pieces⟩
    simp only [Choice.named, Quote.read_eq_ok_iff.mpr pieces, find_complete distinct member]

end Choices

namespace Reads

theorem choice {alternatives : List (Reader.Choice α × Form α)}
    (reads : ∀ alternative ∈ alternatives, Reads alternative.1.content alternative.2)
    (distinct : ((alternatives.map Prod.fst).map Reader.Choice.name).Nodup) :
    Reads (.choice (alternatives.map Prod.fst)) (Chosen alternatives) where
  solid := by
    intro text rest value chosen
    cases chosen with
    | tagged member found =>
        obtain ⟨-, fields⟩ := found
        exact fields.solid (by decide)
    | bare member stands quoted => exact quoted.solid
  sound := by
    intro text rest value result
    change Reader.readChoice _ text = .ok (value, rest) at result
    unfold Reader.readChoice at result
    split at result
    · cases result
    · next c behind opened =>
        have blank := (skipBlank_eq_cons_iff.mp opened).1
        split at result
        · next brace =>
            subst brace
            obtain ⟨name, named, afterBrace⟩ := bind_eq_ok.mp result
            obtain ⟨⟨choice, parting⟩, chosen, afterName⟩ := bind_eq_ok.mp afterBrace
            obtain ⟨inside, parted, afterColon⟩ := bind_eq_ok.mp afterName
            obtain ⟨⟨found, closing⟩, read, ended⟩ := bind_eq_ok.mp afterColon
            obtain ⟨member, pieces⟩ := (named_eq_ok_iff distinct).mp chosen
            obtain ⟨alternative, listed, rfl⟩ := List.mem_map.mp member
            simp only at ended
            split at ended
            · next closed =>
                cases ended
                have content := (reads alternative listed).sound read
                have field : Spaced (Member (Quoted Spelt) alternative.2) behind
                    (alternative.1.name.toList, value) closing :=
                  .intro (nextName_eq_ok_iff.mp named)
                    (.intro (.intro pieces) (colon_eq_ok_iff.mp parted) content)
                exact .intro blank (.tagged listed (.intro rfl
                  (.filled field (.closed (skipBlank_eq_cons_iff.mp closed).1))))
            · cases ended
            · cases ended
        · split at result
          · next quote =>
              subst quote
              obtain ⟨⟨choice, behind⟩, chosen, ended⟩ := bind_eq_ok.mp result
              obtain ⟨member, pieces⟩ := (named_eq_ok_iff distinct).mp chosen
              obtain ⟨alternative, listed, rfl⟩ := List.mem_map.mp member
              simp only at ended
              split at ended
              · next stands =>
                  cases ended
                  exact .intro blank (.bare listed stands (.intro pieces))
              · cases ended
          · cases result
  complete := by
    rintro text rest value ⟨blank, chosen⟩ ends
    change Reader.readChoice _ text = _
    cases chosen with
    | @tagged text rest value alternative listed found =>
        have member : alternative.1 ∈ alternatives.map Prod.fst := List.mem_map_of_mem listed
        obtain ⟨rfl, fields⟩ := found
        cases fields with
        | filled spaced further =>
            obtain ⟨named, ⟨⟨pieces⟩, parted, content⟩⟩ := spaced
            cases further with
            | closed closed =>
                have opened := skipBlank_eq_cons_iff.mpr ⟨blank, by decide⟩
                have last := skipBlank_eq_cons_iff.mpr ⟨closed, by decide⟩
                have read := (reads alternative listed).complete content (closed.ends (by decide))
                simp only [Reader.readChoice, opened, ↓reduceIte]
                refine bind_eq_ok.mpr ⟨_, nextName_eq_ok_iff.mpr named, ?_⟩
                refine bind_eq_ok.mpr ⟨_, (named_eq_ok_iff distinct).mpr ⟨member, pieces⟩, ?_⟩
                refine bind_eq_ok.mpr ⟨_, colon_eq_ok_iff.mpr parted, ?_⟩
                refine bind_eq_ok.mpr ⟨_, read, ?_⟩
                simp only [last]
    | @bare text rest value alternative listed stands quoted =>
        have member : alternative.1 ∈ alternatives.map Prod.fst := List.mem_map_of_mem listed
        obtain ⟨pieces⟩ := quoted
        have opened := skipBlank_eq_cons_iff.mpr ⟨blank, by decide⟩
        have brace : '"' ≠ '\x7b' := by decide
        simp only [Reader.readChoice, opened, if_neg brace, ↓reduceIte]
        refine bind_eq_ok.mpr ⟨_, (named_eq_ok_iff distinct).mpr ⟨member, pieces⟩, ?_⟩
        simp only [stands]

end Reads

end FrameCycle.Json
