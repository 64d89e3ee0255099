import FrameCycle.Json.Printer
import FrameCycle.Proofs.Json.Grammar
import Mathlib.Data.List.Forall2

/-!
What is printed is written as the grammar says, whatever follows it: strings with their escapes,
numbers, lists and objects.
-/
namespace FrameCycle.Json.Printer

open Grammar

theorem hexDigit_eq_digitChar : ∀ value < 16, hexDigit value = Nat.digitChar value := by
  decide

theorem hexDigit_written {value : Nat} (bound : value < 16) (rest : List Char) :
    HexDigit (hexDigit value :: rest) value rest :=
  .intro bound (.inl (hexDigit_eq_digitChar value bound))

/-- A control is written as the two lower digits of its number. -/
theorem control_written {c : Char} (control : c < ' ') (rest : List Char) :
    Spelt ('\\' :: 'u' :: '0' :: '0' :: hexDigit (c.toNat / 16) :: hexDigit (c.toNat % 16) :: rest)
      c rest := by
  have below : c.toNat < 32 := control
  have zero : ∀ rest, HexDigit ('0' :: rest) 0 rest := fun rest => .intro (by decide) (.inl rfl)
  have code : CodeUnit ('0' :: '0' :: hexDigit (c.toNat / 16) :: hexDigit (c.toNat % 16) :: rest)
      (((0 * 16 + 0) * 16 + c.toNat / 16) * 16 + c.toNat % 16) rest :=
    .intro (zero _) (zero _) (hexDigit_written (by omega) _) (hexDigit_written (by omega) _)
  have whole : ((0 * 16 + 0) * 16 + c.toNat / 16) * 16 + c.toNat % 16 = c.toNat := by omega
  rw [whole] at code
  have spelt := Spelt.unit code (by omega)
  rwa [Char.ofNat_toNat] at spelt

theorem escaped_written (c : Char) (rest : List Char) : Spelt (escaped c ++ rest) c rest := by
  unfold escaped
  iterate 7
    split
    · next same =>
        subst same
        exact .short (by decide)
  split
  · next control => exact control_written control rest
  · next notQuote notBackslash _ _ _ _ _ printing =>
      exact .plain notQuote notBackslash (Char.not_lt.mp printing)

theorem string_written (text rest : List Char) : Quoted Spelt (string text ++ rest) text rest := by
  rw [string, List.append_assoc, List.cons_append, List.singleton_append]
  apply Quoted.intro
  induction text with
  | nil => exact .closed
  | cons c text inductionHypothesis =>
      rw [List.flatMap_cons, List.append_assoc]
      exact .more (escaped_written c _) inductionHypothesis

theorem natural_written (value : Nat) (rest : List Char) :
    Natural (natural value ++ rest) value rest :=
  .intro

theorem null_written (rest : List Char) : Null (null ++ rest) () rest :=
  .intro

section Enclosed

variable {α β : Type} {opening closing : Char} {item : Form α}

/-- The text is written for the value, whatever follows it. -/
def Prints (form : Form α) (text : List Char) (value : α) : Prop :=
  ∀ rest, form (text ++ rest) value rest

theorem Prints.spaced {text : List Char} {value : α} (prints : Prints item text value)
    (rest : List Char) : Spaced item (text ++ rest) value rest :=
  .intro .none (prints rest)

theorem separated_further (closing : Char) {texts : List (List Char)} {values : List α}
    (printed : List.Forall₂ (Prints item) texts values) {first : List Char} {value : α}
    (prints : Prints item first value) (rest : List Char) :
    ∃ behind, separated (first :: texts) ++ closing :: rest = first ++ behind ∧
      Further closing item behind values rest := by
  induction printed generalizing first value with
  | nil => exact ⟨closing :: rest, rfl, .closed .none⟩
  | @cons second value texts values printsSecond printed inductionHypothesis =>
      obtain ⟨behind, same, further⟩ := inductionHypothesis printsSecond
      refine ⟨',' :: (second ++ behind), ?_, .more .none (printsSecond.spaced behind) further⟩
      rw [separated, List.append_assoc, List.cons_append, same]
      exact nofun

/-- Printed elements between brackets are written as a list of what they are written for. -/
theorem enclosed_written {texts : List (List Char)} {values : List α}
    (printed : List.Forall₂ (Prints item) texts values) :
    Prints (Enclosed opening closing item) (opening :: separated texts ++ [closing]) values := by
  intro rest
  rw [List.append_assoc, List.cons_append, List.singleton_append]
  cases printed with
  | nil => exact .empty .none
  | cons prints printed =>
      obtain ⟨behind, same, further⟩ := separated_further closing printed prints rest
      rw [same]
      exact .filled (prints.spaced behind) further

theorem list_written {texts : List (List Char)} {values : List α}
    (printed : List.Forall₂ (Prints item) texts values) :
    Prints (Listed item) (list texts) values :=
  enclosed_written printed

theorem object_written {texts : List (List Char)} {values : List α}
    (printed : List.Forall₂ (Prints item) texts values) :
    Prints (Enclosed '\x7b' '\x7d' item) (object texts) values :=
  enclosed_written printed

theorem field_written (name : String) {content : Form β} {text : List Char} {value : β}
    (prints : Prints content text value) :
    Prints (Member (Quoted Spelt) content) (field name text) (name.toList, value) := by
  intro rest
  rw [field, List.append_assoc, List.cons_append]
  exact .intro (string_written name.toList _) .none (prints.spaced rest)

theorem map_written {print : α → List Char} {values : List α}
    (printed : ∀ value ∈ values, Prints item (print value) value) :
    Prints (Listed item) (list (values.map print)) values :=
  list_written (List.forall₂_map_left_iff.mpr (List.forall₂_same.mpr printed))

/-- An object with one field. -/
theorem one_written (name : String) {content : Form β} {text : List Char} {value : β}
    (prints : Prints content text value) :
    Prints (Fields (Quoted Spelt) content) (object [field name text]) [(name.toList, value)] :=
  object_written (.cons (field_written name prints) .nil)

theorem nullable_written {text : List Char} {value : α} (prints : Prints item text value) :
    Prints (Nullable item) text (some value) :=
  fun rest => .some (prints rest)

end Enclosed

end FrameCycle.Json.Printer
