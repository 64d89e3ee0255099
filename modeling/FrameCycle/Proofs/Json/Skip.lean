import FrameCycle.Proofs.Json.Number
import FrameCycle.Proofs.Json.Quote

/-!
Skipping a value. The brackets that are open say what is still to come: each closes a list or an
object around the place reached. What is skipped is a value of the grammar, and every value of the
grammar is skipped.
-/
namespace FrameCycle.Json

open Grammar

theorem Grammar.Value.solid {text rest : List Char} (value : Value text () rest) : Solid text := by
  cases value with
  | word member =>
      simp only [words, List.mem_cons, List.not_mem_nil, or_false] at member
      rcases member with rfl | rfl | rfl <;> exact solid_of_mark (by decide)
  | number numeral =>
      obtain ⟨c, behind, rfl, numeric⟩ := numeral.exists_numeric
      exact solid_of_numeric numeric
  | string quoted => exact quoted.solid
  | list listed => exact listed.solid (by decide)
  | object fields => exact fields.solid (by decide)

namespace Skip

theorem value_of_scalar {c : Char} {text rest : List Char}
    (read : scalar? c text = some (.ok rest)) : Value (c :: text) () rest := by
  unfold scalar? at read
  split at read
  · next same =>
      rw [same, ident_eq_ok_iff.mp (Option.some.inj read)]
      exact .word (by decide : ['n', 'u', 'l', 'l'] ∈ words)
  split at read
  · next same =>
      rw [same, ident_eq_ok_iff.mp (Option.some.inj read)]
      exact .word (by decide : ['t', 'r', 'u', 'e'] ∈ words)
  split at read
  · next same =>
      rw [same, ident_eq_ok_iff.mp (Option.some.inj read)]
      exact .word (by decide : ['f', 'a', 'l', 's', 'e'] ∈ words)
  split at read
  · next same =>
      subst same
      exact .number (.negative (unsigned_of_number (Option.some.inj read)))
  split at read
  · exact .number (.plain (unsigned_of_number (Option.some.inj read)))
  split at read
  · next same =>
      subst same
      obtain ⟨units, pieces⟩ := Quote.skip_eq_ok_iff.mp (Option.some.inj read)
      exact .string (.intro pieces)
  · cases read

theorem scalar_of_numeral {c : Char} {text rest : List Char} (numeral : Numeral (c :: text) rest)
    (ends : Ends rest) : scalar? c text = some (.ok rest) := by
  cases numeral with
  | plain unsigned =>
      have read := number_of_unsigned unsigned ends
      obtain ⟨_, _, same, numeric⟩ := (Numeral.plain unsigned).exists_numeric
      obtain ⟨rfl, rfl⟩ := List.cons.inj same
      by_cases minus : c = '-'
      · subst minus
        simp [number, isDigit] at read
      · have decimal := numeric.resolve_left minus
        have other : ∀ letter ∈ ['n', 't', 'f'], c ≠ letter := by
          rintro letter member rfl
          have digitless : ∀ letter ∈ ['n', 't', 'f'], letter.isDigit = false := by simp
          simp [digitless c member] at decimal
        simp only [scalar?, if_neg (other 'n' (by decide)), if_neg (other 't' (by decide)),
          if_neg (other 'f' (by decide)), if_neg minus, isDigit_eq_isDigit, if_pos decimal, read]
  | negative unsigned =>
      have read := number_of_unsigned unsigned ends
      simp [scalar?, read]

namespace Bracket

/-- An element of a list, or a field of an object. -/
def Item : Bracket → List Char → List Char → Prop
  | list, text, rest => Spaced Value text () rest
  | object, text, rest => ∃ key, Spaced (Member (Quoted Rough) Value) text (key, ()) rest

/-- What follows an item up to and with the closing bracket. -/
def Tail : Bracket → List Char → List Char → Prop
  | list, text, rest => ∃ values, Further ']' Value text values rest
  | object, text, rest => ∃ members, Further '\x7d' (Member (Quoted Rough) Value) text members rest

/-- What follows the opening bracket up to and with the closing one. -/
def Inner (bracket : Bracket) (text rest : List Char) : Prop :=
  Blank text (bracket.closing :: rest) ∨
    ∃ behind, bracket.Item text behind ∧ bracket.Tail behind rest

variable {bracket : Bracket} {text behind rest : List Char}

theorem Item.of_blank {next : List Char} (blank : Blank text next)
    (item : bracket.Item next rest) : bracket.Item text rest := by
  cases bracket with
  | list => exact .of_blank blank item
  | object =>
      obtain ⟨key, member⟩ := item
      exact ⟨key, .of_blank blank member⟩

theorem tail_of_closing (closed : Blank text (bracket.closing :: rest)) :
    bracket.Tail text rest := by
  cases bracket with
  | list => exact ⟨[], .closed closed⟩
  | object => exact ⟨[], .closed closed⟩

theorem tail_of_item {next : List Char} (comma : Blank text (',' :: next))
    (item : bracket.Item next behind) (tail : bracket.Tail behind rest) :
    bracket.Tail text rest := by
  cases bracket with
  | list =>
      obtain ⟨values, further⟩ := tail
      exact ⟨() :: values, .more comma item further⟩
  | object =>
      obtain ⟨key, member⟩ := item
      obtain ⟨members, further⟩ := tail
      exact ⟨(key, ()) :: members, .more comma member further⟩

theorem value_of_inner {c : Char} (opening : opening? c = some bracket)
    (inner : bracket.Inner text rest) : Value (c :: text) () rest := by
  unfold opening? at opening
  split at opening
  · next same =>
      subst same
      cases opening
      rcases inner with closed | ⟨behind, item, values, further⟩
      · exact .list (.empty closed)
      · exact .list (.filled item further)
  · split at opening
    · next same =>
        subst same
        cases opening
        rcases inner with closed | ⟨behind, ⟨key, item⟩, members, further⟩
        · exact .object (.empty closed)
        · exact .object (.filled item further)
    · cases opening

theorem item_of_member (read : bracket.member text = .ok behind)
    (value : Spaced Value behind () rest) : bracket.Item text rest := by
  cases bracket with
  | list =>
      cases read
      exact value
  | object =>
      simp only [member] at read
      split at read
      · cases read
      · next c named opened =>
          split at read
          · next quote =>
              subst quote
              split at read
              · next skipped =>
                  obtain ⟨units, pieces⟩ := Quote.skip_eq_ok_iff.mp skipped
                  exact ⟨units, .intro (skipBlank_eq_cons_iff.mp opened).1
                    (.intro (.intro pieces) (colon_eq_ok_iff.mp read) value)⟩
              · cases read
          · cases read

end Bracket

/-- What the open brackets still have to come, innermost first. -/
def Closes : List Bracket → List Char → List Char → Prop
  | [], text, rest => text = rest
  | bracket :: outer, text, rest => ∃ behind, bracket.Tail text behind ∧ Closes outer behind rest

/-- What is still to come from a place. -/
def Place.Completes (place : Place) (enclosing : List Bracket) (text rest : List Char) : Prop :=
  match place with
  | before => ∃ behind, Spaced Value text () behind ∧ Closes enclosing behind rest
  | opened bracket => ∃ behind, bracket.Inner text behind ∧ Closes enclosing behind rest
  | behind => Closes enclosing text rest

theorem skipFrom_completes {place : Place} {enclosing : List Bracket} {text rest : List Char}
    (result : skipFrom place enclosing text = .ok rest) :
    place.Completes enclosing text rest := by
  fun_induction skipFrom place enclosing text with
  | case2 enclosing text c behind opened next scalar inductionHypothesis =>
      exact ⟨next, .intro (skipBlank_eq_cons_iff.mp opened).1 (value_of_scalar scalar),
        inductionHypothesis result⟩
  | case4 enclosing text c behind opened none bracket opening inductionHypothesis =>
      obtain ⟨last, inner, closes⟩ := inductionHypothesis result
      exact ⟨last, .intro (skipBlank_eq_cons_iff.mp opened).1
        (Bracket.value_of_inner opening inner), closes⟩
  | case7 enclosing text bracket behind closed inductionHypothesis =>
      exact ⟨behind, .inl (skipBlank_eq_cons_iff.mp closed).1, inductionHypothesis result⟩
  | case8 enclosing text bracket c behind opened other next member inductionHypothesis =>
      obtain ⟨after, value, last, tail, closes⟩ := inductionHypothesis result
      have item := (Bracket.item_of_member member value).of_blank
        (skipBlank_eq_cons_iff.mp opened).1
      exact ⟨last, .inr ⟨after, item, tail⟩, closes⟩
  | case10 =>
      cases result
      rfl
  | case12 text bracket outer behind next member comma inductionHypothesis =>
      obtain ⟨after, value, last, tail, closes⟩ := inductionHypothesis result
      exact ⟨last, Bracket.tail_of_item (skipBlank_eq_cons_iff.mp comma).1
        (Bracket.item_of_member member value) tail, closes⟩
  | case14 text bracket outer behind closed other inductionHypothesis =>
      exact ⟨behind, Bracket.tail_of_closing (skipBlank_eq_cons_iff.mp closed).1,
        inductionHypothesis result⟩
  | _ => cases result

section Steps

variable {text next rest : List Char} {c : Char}

theorem skipFrom_scalar (opened : skipBlank text = c :: next)
    (scalar : scalar? c next = some (.ok rest)) (enclosing : List Bracket) :
    skipFrom .before enclosing text = skipFrom .behind enclosing rest := by
  rw [skipFrom.eq_def]
  simp only
  split
  · next same => simp [opened] at same
  · next same =>
      rw [opened] at same
      cases same
      split <;> simp_all

theorem skipFrom_opening {bracket : Bracket} (opened : skipBlank text = c :: next)
    (opening : Bracket.opening? c = some bracket) (enclosing : List Bracket) :
    skipFrom .before enclosing text = skipFrom (.opened bracket) enclosing next := by
  have none : scalar? c next = none := by
    unfold Bracket.opening? at opening
    split at opening
    · next same => rw [same]; rfl
    · split at opening
      · next same => rw [same]; rfl
      · cases opening
  rw [skipFrom.eq_def]
  simp only
  split
  · next same => simp [opened] at same
  · next same =>
      rw [opened] at same
      cases same
      split <;> simp_all

theorem skipFrom_opened {bracket : Bracket} (opened : skipBlank text = c :: next)
    (other : c ≠ bracket.closing) (member : bracket.member (c :: next) = .ok rest)
    (enclosing : List Bracket) :
    skipFrom (.opened bracket) enclosing text = skipFrom .before (bracket :: enclosing) rest := by
  rw [skipFrom.eq_def]
  simp only
  split
  · next same => simp [opened] at same
  · next same =>
      rw [opened] at same
      cases same
      rw [if_neg other]
      split <;> simp_all

theorem skipFrom_empty {bracket : Bracket} (closed : Blank text (bracket.closing :: rest))
    (enclosing : List Bracket) :
    skipFrom (.opened bracket) enclosing text = skipFrom .behind enclosing rest := by
  have solid : bracket.closing ∉ blanks := by
    cases bracket <;> decide
  have opened := skipBlank_eq_cons_iff.mpr ⟨closed, solid⟩
  rw [skipFrom.eq_def]
  simp only
  split
  · next same => simp [opened] at same
  · next same =>
      rw [opened] at same
      cases same
      rw [if_pos rfl]

theorem skipFrom_comma {bracket : Bracket} (comma : Blank text (',' :: next))
    (member : bracket.member next = .ok rest) (enclosing : List Bracket) :
    skipFrom .behind (bracket :: enclosing) text =
      skipFrom .before (bracket :: enclosing) rest := by
  have found := skipBlank_eq_cons_iff.mpr ⟨comma, by decide⟩
  rw [skipFrom.eq_def]
  simp only
  split
  · next same => simp [found] at same
  · next same =>
      rw [found] at same
      cases same
      rw [if_pos rfl]
      split <;> simp_all

theorem skipFrom_closing {bracket : Bracket} (closed : Blank text (bracket.closing :: rest))
    (enclosing : List Bracket) :
    skipFrom .behind (bracket :: enclosing) text = skipFrom .behind enclosing rest := by
  have solid : bracket.closing ∉ blanks ∧ bracket.closing ≠ ',' := by
    cases bracket <;> decide
  have found := skipBlank_eq_cons_iff.mpr ⟨closed, solid.1⟩
  rw [skipFrom.eq_def]
  simp only
  split
  · next same => simp [found] at same
  · next same =>
      rw [found] at same
      cases same
      rw [if_neg solid.2, if_pos rfl]

end Steps

theorem Bracket.closing_mem (bracket : Bracket) : bracket.closing ∈ [',', ']', '\x7d'] := by
  cases bracket <;> decide

/-- A value behind which any open brackets go on. -/
def Passed (text rest : List Char) : Prop :=
  Ends rest → ∀ start enclosing, Blank start text →
    skipFrom .before enclosing start = skipFrom .behind enclosing rest

section Items

variable {α : Type} {bracket : Bracket} {item : Form α}

/-- The items are passed, whatever brackets are open. -/
structure Passing (bracket : Bracket) (item : Form α) : Prop where
  solid : ∀ {text rest : List Char} {value : α}, item text value rest →
    ∃ c behind, text = c :: behind ∧ c ∉ blanks ∧ c ≠ bracket.closing
  passed : ∀ {text rest : List Char} {value : α}, Spaced item text value rest → Ends rest →
    ∃ inside, bracket.member text = .ok inside ∧
      ∀ enclosing, skipFrom .before enclosing inside = skipFrom .behind enclosing rest

theorem skipFrom_further (passing : Passing bracket item) {text rest : List Char} {values : List α}
    (further : Further bracket.closing item text values rest) (enclosing : List Bracket) :
    skipFrom .behind (bracket :: enclosing) text = skipFrom .behind enclosing rest := by
  induction further with
  | closed blank => exact skipFrom_closing blank enclosing
  | more comma spaced further inductionHypothesis =>
      obtain ⟨inside, member, passed⟩ := passing.passed spaced (further.ends bracket.closing_mem)
      rw [skipFrom_comma comma member, passed, inductionHypothesis]

theorem skipFrom_enclosed (passing : Passing bracket item) {opening : Char}
    {text start rest : List Char} {values : List α}
    (opens : Bracket.opening? opening = some bracket)
    (enclosed : Enclosed opening bracket.closing item text values rest) (blank : Blank start text)
    (enclosing : List Bracket) :
    skipFrom .before enclosing start = skipFrom .behind enclosing rest := by
  have solid : opening ∉ blanks := by
    intro member
    simp only [blanks, List.mem_cons, List.not_mem_nil, or_false] at member
    rcases member with rfl | rfl | rfl | rfl <;> cases opens
  cases enclosed with
  | empty closed =>
      rw [skipFrom_opening (skipBlank_eq_cons_iff.mpr ⟨blank, solid⟩) opens,
        skipFrom_empty closed]
  | filled spaced further =>
      obtain ⟨inner, found⟩ := spaced
      obtain ⟨c, behind, rfl, visible, inside⟩ := passing.solid found
      obtain ⟨entered, member, passed⟩ :=
        passing.passed (.intro .none found) (further.ends bracket.closing_mem)
      rw [skipFrom_opening (skipBlank_eq_cons_iff.mpr ⟨blank, solid⟩) opens,
        skipFrom_opened (skipBlank_eq_cons_iff.mpr ⟨inner, visible⟩) inside member, passed,
        skipFrom_further passing further]

end Items

theorem member_object {text next behind : List Char} {units : List Unit}
    (blank : Blank text next) (name : Quoted Rough next units behind) {inside : List Char}
    (parted : Blank behind (':' :: inside)) : Bracket.object.member text = .ok inside := by
  obtain ⟨pieces⟩ := name
  simp [Bracket.member, skipBlank_eq_cons_iff.mpr ⟨blank, by decide⟩,
    Quote.skip_eq_ok_iff.mpr ⟨_, pieces⟩, colon_eq_ok_iff.mpr parted]

theorem passed_of_value {text rest : List Char} (value : Value text () rest) :
    Passed text rest := by
  refine Value.induct ?word ?number ?string ?list ?object value
  case word =>
    intro word rest member ends start enclosing blank
    simp only [words, List.mem_cons, List.not_mem_nil, or_false] at member
    rcases member with rfl | rfl | rfl <;>
      exact skipFrom_scalar (skipBlank_eq_cons_iff.mpr ⟨blank, by decide⟩)
        (by simp [scalar?, ident]) enclosing
  case number =>
    intro text rest numeral ends start enclosing blank
    obtain ⟨c, behind, rfl, numeric⟩ := numeral.exists_numeric
    obtain ⟨_, _, same, visible, -⟩ : Solid (c :: behind) := solid_of_numeric numeric
    cases same
    exact skipFrom_scalar (skipBlank_eq_cons_iff.mpr ⟨blank, visible⟩)
      (scalar_of_numeral numeral ends) enclosing
  case string =>
    rintro text rest units ⟨pieces⟩ ends start enclosing blank
    exact skipFrom_scalar (skipBlank_eq_cons_iff.mpr ⟨blank, by decide⟩)
      (by simp [scalar?, isDigit, Quote.skip_eq_ok_iff.mpr ⟨_, pieces⟩]) enclosing
  case list =>
    intro text rest values listed ends start enclosing blank
    have passing :
        Passing .list fun text value rest => Value text value rest ∧ Passed text rest := by
      constructor
      · rintro text rest value ⟨found, -⟩
        exact found.solid
      · rintro text rest value ⟨inner, found, passed⟩ ends
        exact ⟨text, rfl, fun enclosing => passed ends text enclosing inner⟩
    exact skipFrom_enclosed passing rfl listed blank enclosing
  case object =>
    intro text rest members fields ends start enclosing blank
    have passing : Passing .object (Member (Quoted Rough)
        fun text value rest => Value text value rest ∧ Passed text rest) := by
      constructor
      · rintro text rest member ⟨⟨pieces⟩, parted, content⟩
        exact ⟨_, _, rfl, by decide, by decide⟩
      · rintro text rest member ⟨inner, name, parted, blank, found, passed⟩ ends
        exact ⟨_, member_object inner name parted, fun enclosing => passed ends _ enclosing blank⟩
    exact skipFrom_enclosed passing rfl fields blank enclosing

/-- What is skipped is a value. -/
theorem value_of_skipFrom {text rest : List Char} (result : skipFrom .before [] text = .ok rest) :
    Spaced Value text () rest := by
  obtain ⟨behind, value, rfl⟩ := skipFrom_completes result
  exact value

/-- Every value is skipped. -/
theorem skipFrom_of_value {text rest : List Char} (value : Spaced Value text () rest)
    (ends : Ends rest) : skipFrom .before [] text = .ok rest := by
  obtain ⟨blank, found⟩ := value
  rw [passed_of_value found ends text [] blank]
  rw [skipFrom.eq_def]

end Skip

end FrameCycle.Json
