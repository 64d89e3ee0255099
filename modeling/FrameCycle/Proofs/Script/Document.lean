import FrameCycle.Proofs.Json.Printer
import FrameCycle.Proofs.Json.Reader
import FrameCycle.Proofs.Json.Skip
import FrameCycle.Proofs.Script.Grammar
import FrameCycle.Script.Load

/-!
Scripts are read just as they may be written: a text that is no script is refused as a document, and
any other gives the events that it is written for.
-/
namespace FrameCycle

open Json Json.Grammar

section Forms

variable {α β : Type} {form : Form α} {change : α → β} {text rest : List Char}

theorem nullable_changed_iff {value : Option β} :
    Nullable (Changed change form) text value rest ↔
      Changed (Option.map change) (Nullable form) text value rest := by
  constructor
  · intro nullable
    cases nullable with
    | none null => exact .intro (Nullable.none null)
    | some found =>
        obtain ⟨found⟩ := found
        exact .intro (Nullable.some found)
  · rintro ⟨nullable⟩
    cases nullable with
    | none null => exact .none null
    | some found => exact .some (.intro found)

theorem fields_changed_iff {key : List Char} {value : β} :
    Fields Text (Changed change form) text [(key, value)] rest ↔
      ∃ found, change found = value ∧ Fields Text form text [(key, found)] rest := by
  constructor
  · intro fields
    cases fields with
    | filled field further =>
        obtain ⟨blank, ⟨name, parted, content⟩⟩ := field
        cases further with
        | closed closed =>
            obtain ⟨inside, ⟨found⟩⟩ := content
            exact ⟨_, rfl, .filled (.intro blank (.intro name parted (.intro inside found)))
              (.closed closed)⟩
  · rintro ⟨found, rfl, fields⟩
    cases fields with
    | filled field further =>
        obtain ⟨blank, ⟨name, parted, content⟩⟩ := field
        cases further with
        | closed closed =>
            exact .filled (.intro blank (.intro name parted (content.imp .intro)))
              (.closed closed)

theorem fields_changed (change : α → β) {key : List Char} {value : α}
    (fields : Fields Text form text [(key, value)] rest) :
    Fields Text (Changed change form) text [(key, change value)] rest :=
  fields_changed_iff.mpr ⟨value, rfl, fields⟩

theorem head?_of_text {characters : List Char} (written : Text text characters rest) :
    text.head? = some '"' := by
  obtain ⟨pieces⟩ := written
  rfl

/-- A string that is changed, or null. -/
theorem reads_nullable (expected : String) (change : List Char → β) :
    Reads ((Reader.string expected).map change).option
      (Changed (Option.map change) (Nullable Text)) := by
  refine Reads.congr (Reads.option ((Reads.string expected).map change) ?_) nullable_changed_iff
  rintro text rest value ⟨written⟩
  rw [head?_of_text written]
  decide

end Forms

namespace Key

def alternative (key : Key) : Reader.Choice Key × Form Key :=
  (⟨key.name, Reader.null.map fun _ => key, some key⟩, Changed (fun _ => key) Null)

theorem reader_eq_choice : reader = .choice ((all.map alternative).map Prod.fst) := by
  rw [List.map_map]
  rfl

theorem reads : Reads reader Written := by
  rw [reader_eq_choice]
  refine Reads.congr (Reads.choice ?_ (by decide)) ?_
  · intro alternative member
    obtain ⟨key, -, rfl⟩ := List.mem_map.mp member
    exact Reads.null.map fun _ => key
  · intro text rest key
    constructor
    · intro chosen
      cases chosen with
      | tagged member found =>
          obtain ⟨other, -, rfl⟩ := List.mem_map.mp member
          obtain ⟨rfl, fields⟩ := found
          obtain ⟨⟨⟩, rfl, empty⟩ := fields_changed_iff.mp fields
          exact .held empty
      | bare member stands written =>
          obtain ⟨other, -, rfl⟩ := List.mem_map.mp member
          cases stands
          exact .bare written
    · intro written
      have member : alternative key ∈ all.map alternative := List.mem_map_of_mem (mem_all key)
      cases written with
      | bare written => exact .bare member rfl written
      | held fields => exact .tagged member (.intro rfl (fields_changed_iff.mpr ⟨(), rfl, fields⟩))

end Key

namespace Action

def alternatives : List (Reader.Choice Action × Form Action) :=
  [(⟨"KeyDown", Key.reader.map keyDown, none⟩, Changed keyDown Key.Written),
   (⟨"KeyUp", Key.reader.map keyUp, none⟩, Changed keyUp Key.Written),
   (⟨"LoadSnapshot", pathReader.option.map loadSnapshot, none⟩,
     Changed loadSnapshot (Changed (Option.map Path.ofChars) (Nullable Text)))]

theorem reads : Reads reader Written := by
  change Reads (.choice (alternatives.map Prod.fst)) Written
  refine Reads.congr (Reads.choice ?_ (by decide)) ?_
  · intro alternative member
    simp only [alternatives, List.mem_cons, List.not_mem_nil, or_false] at member
    rcases member with rfl | rfl | rfl
    · exact Key.reads.map keyDown
    · exact Key.reads.map keyUp
    · exact (reads_nullable "path string" Path.ofChars).map loadSnapshot
  · intro text rest action
    constructor
    · intro chosen
      cases chosen with
      | tagged member found =>
          simp only [alternatives, List.mem_cons, List.not_mem_nil, or_false] at member
          rcases member with rfl | rfl | rfl
          · obtain ⟨rfl, fields⟩ := found
            obtain ⟨key, rfl, pressed⟩ := fields_changed_iff.mp fields
            exact .keyDown pressed
          · obtain ⟨rfl, fields⟩ := found
            obtain ⟨key, rfl, released⟩ := fields_changed_iff.mp fields
            exact .keyUp released
          · obtain ⟨rfl, fields⟩ := found
            obtain ⟨_, rfl, loaded⟩ := fields_changed_iff.mp fields
            obtain ⟨path, rfl, named⟩ := fields_changed_iff.mp loaded
            exact .loadSnapshot named
      | bare member stands written =>
          simp only [alternatives, List.mem_cons, List.not_mem_nil, or_false] at member
          rcases member with rfl | rfl | rfl <;> cases stands
    · intro written
      cases written with
      | keyDown fields =>
          have member : alternatives[0] ∈ alternatives := List.getElem_mem _
          exact .tagged member (.intro rfl (fields_changed keyDown fields))
      | keyUp fields =>
          have member : alternatives[1] ∈ alternatives := List.getElem_mem _
          exact .tagged member (.intro rfl (fields_changed keyUp fields))
      | loadSnapshot fields =>
          have member : alternatives[2] ∈ alternatives := List.getElem_mem _
          exact .tagged member (.intro rfl (fields_changed loadSnapshot (fields_changed _ fields)))

end Action

namespace Event

theorem actions_reads : Reads actionsReader (Listed Action.Written) :=
  .list "a sequence" Action.reads

theorem label_reads : Reads labelReader (Changed (Option.map String.ofList) (Nullable Text)) :=
  reads_nullable "a string" String.ofList

namespace Draft

/-- The draft holds what these fields say. -/
structure Holds (draft : Draft) (seen : List Field) : Prop where
  tick_eq : draft.tick.toList = seen.filterMap Field.tick?
  actions_eq : draft.actions.toList = seen.filterMap Field.actions?
  label_eq : draft.label.toList = seen.filterMap Field.label?

theorem holds_empty : empty.Holds [] :=
  ⟨rfl, rfl, rfl⟩

namespace Holds

variable {draft : Draft} {seen : List Field}

theorem tick (holds : draft.Holds seen) (absent : draft.tick = none) (tick : UInt32) :
    Holds { draft with tick := some tick } (seen ++ [.tick tick]) := by
  obtain ⟨tick_eq, actions_eq, label_eq⟩ := holds
  rw [absent] at tick_eq
  constructor <;> simp [List.filterMap_cons, Field.tick?, Field.actions?, Field.label?, ← tick_eq,
    actions_eq, label_eq]

theorem actions (holds : draft.Holds seen) (absent : draft.actions = none)
    (actions : List Action) :
    Holds { draft with actions := some actions } (seen ++ [.actions actions]) := by
  obtain ⟨tick_eq, actions_eq, label_eq⟩ := holds
  rw [absent] at actions_eq
  constructor <;> simp [List.filterMap_cons, Field.tick?, Field.actions?, Field.label?, tick_eq,
    ← actions_eq, label_eq]

theorem label (holds : draft.Holds seen) (absent : draft.label = none) (label : Option String) :
    Holds { draft with label := some label } (seen ++ [.label label]) := by
  obtain ⟨tick_eq, actions_eq, label_eq⟩ := holds
  rw [absent] at label_eq
  constructor <;> simp [List.filterMap_cons, Field.tick?, Field.actions?, Field.label?, tick_eq,
    actions_eq, ← label_eq]

theorem other (holds : draft.Holds seen) : draft.Holds (seen ++ [.other]) := by
  obtain ⟨tick_eq, actions_eq, label_eq⟩ := holds
  constructor <;> simp [List.filterMap_cons, Field.tick?, Field.actions?, Field.label?, tick_eq,
    actions_eq, label_eq]

end Holds

theorem finish_eq_ok_iff {draft : Draft} {seen : List Field} (holds : draft.Holds seen)
    {event : Event} : draft.finish = .ok event ↔ Denoted seen event := by
  obtain ⟨tick, actions, label⟩ := draft
  obtain ⟨tick_eq, actions_eq, label_eq⟩ := holds
  simp only at tick_eq actions_eq label_eq
  constructor
  · intro finished
    unfold finish at finished
    split at finished
    · cases finished
    · cases finished
    · next known named =>
        cases finished
        cases known
        cases named
        refine ⟨tick_eq.symm, actions_eq.symm, ?_⟩
        cases label with
        | none => exact .inl ⟨label_eq.symm, rfl⟩
        | some label => exact .inr label_eq.symm
  · rintro ⟨ticks, actionLists, labels⟩
    rw [ticks] at tick_eq
    rw [actionLists] at actions_eq
    rw [Option.toList_eq_singleton_iff] at tick_eq actions_eq
    subst tick_eq actions_eq
    have joined : label.join = event.label := by
      rcases labels with ⟨none, unlabelled⟩ | once
      · rw [none, Option.toList_eq_nil_iff] at label_eq
        rw [label_eq, unlabelled]
        rfl
      · rw [once, Option.toList_eq_singleton_iff] at label_eq
        rw [label_eq]
        rfl
    simp only [finish, joined]

section Once

variable {α : Type} {name : String} {held : Option α} {reader : Reader α} {form : Form α}
  {set : α → Draft} {text rest : List Char} {draft : Draft}

theorem once_sound (reads : Reads reader form)
    (result : once name held reader set text = .ok (draft, rest)) :
    held = none ∧ ∃ next value, Blank text (':' :: next) ∧ Spaced form next value rest ∧
      draft = set value := by
  unfold once at result
  split at result
  · cases result
  · next absent =>
      split at result
      · cases result
      · next parted =>
          split at result
          · cases result
          · next read =>
              cases result
              exact ⟨by simpa using absent, _, _, colon_eq_ok_iff.mp parted, reads.sound read, rfl⟩

theorem once_complete (reads : Reads reader form) {next : List Char} {value : α}
    (absent : held = none) (parted : Blank text (':' :: next))
    (content : Spaced form next value rest) (ends : Ends rest) :
    once name held reader set text = .ok (set value, rest) := by
  simp [once, absent, colon_eq_ok_iff.mpr parted, reads.complete content ends]

end Once

/-- The field may still follow those that have been seen. -/
def Fresh (seen : List Field) : Field → Prop
  | .tick _ => seen.filterMap Field.tick? = []
  | .actions _ => seen.filterMap Field.actions? = []
  | .label _ => seen.filterMap Field.label? = []
  | .other => True

theorem fresh_of_denoted {seen later : List Field} {field : Field} {event : Event}
    (denoted : Denoted (seen ++ field :: later) event) : Fresh seen field := by
  have alone : ∀ {α : Type} {before after : List α} {value only : α},
      before ++ value :: after = [only] → before = [] := by
    intro α before after value only same
    cases before with
    | nil => rfl
    | cons first before => simp at same
  obtain ⟨ticks, actionLists, labels⟩ := denoted
  simp only [List.filterMap_append, List.filterMap_cons] at ticks actionLists labels
  cases field with
  | tick tick => exact alone ticks
  | actions actions => exact alone actionLists
  | label label =>
      rcases labels with ⟨none, -⟩ | once
      · simp [Field.label?] at none
      · exact alone once
  | other => trivial

theorem field_sound {draft next : Draft} {seen : List Field} {text rest : List Char}
    (holds : draft.Holds seen) (result : draft.field text = .ok (next, rest)) :
    ∃ field, Field.Written ('"' :: text) field rest ∧ next.Holds (seen ++ [field]) := by
  unfold Draft.field at result
  split at result
  · cases result
  · next name behind read =>
      have named : Text ('"' :: text) name behind := .intro (Quote.read_eq_ok_iff.mp read)
      unfold value at result
      split at result
      · next isTick =>
          subst isTick
          obtain ⟨absent, _, tick, parted, content, rfl⟩ := once_sound .word32 result
          exact ⟨_, .tick (.intro named parted content), holds.tick absent tick⟩
      split at result
      · next isActions =>
          subst isActions
          obtain ⟨absent, _, actions, parted, content, rfl⟩ := once_sound actions_reads result
          exact ⟨_, .actions (.intro named parted content), holds.actions absent actions⟩
      split at result
      · next isLabel =>
          subst isLabel
          obtain ⟨absent, _, _, parted, ⟨blank, ⟨content⟩⟩, rfl⟩ := once_sound label_reads result
          exact ⟨_, .label (.intro named parted (.intro blank content)), holds.label absent _⟩
      · next notTick notActions notLabel =>
          have unknown : ∀ known ∈ Field.names, name ≠ known.toList := by
            intro known member
            simp only [Field.names, List.mem_cons, List.not_mem_nil, or_false] at member
            rcases member with rfl | rfl | rfl
            · exact notTick
            · exact notActions
            · exact notLabel
          unfold Draft.unknown at result
          split at result
          · cases result
          · next parted =>
              split at result
              · cases result
              · next skipped =>
                  cases result
                  exact ⟨_, .other unknown (.intro named (colon_eq_ok_iff.mp parted)
                    (Skip.value_of_skipFrom skipped)), holds.other⟩

theorem field_complete {draft : Draft} {seen : List Field} {field : Field} {text rest : List Char}
    (holds : draft.Holds seen) (fresh : Fresh seen field)
    (written : Field.Written ('"' :: text) field rest) (ends : Ends rest) :
    ∃ next : Draft, draft.field text = .ok (next, rest) ∧ next.Holds (seen ++ [field]) := by
  cases written with
  | @tick _ _ tick member =>
      obtain ⟨⟨pieces⟩, parted, content⟩ := member
      have absent : draft.tick = none := Option.toList_eq_nil_iff.mp (holds.tick_eq.trans fresh)
      refine ⟨_, ?_, holds.tick absent tick⟩
      simp only [Draft.field, Quote.read_eq_ok_iff.mpr pieces, value, ↓reduceIte]
      exact once_complete .word32 absent parted content ends
  | @actions _ _ actions member =>
      obtain ⟨⟨pieces⟩, parted, content⟩ := member
      have absent : draft.actions = none :=
        Option.toList_eq_nil_iff.mp (holds.actions_eq.trans fresh)
      have notTick : "actions".toList ≠ "tick".toList := by decide
      refine ⟨_, ?_, holds.actions absent actions⟩
      simp only [Draft.field, Quote.read_eq_ok_iff.mpr pieces, value, if_neg notTick, ↓reduceIte]
      exact once_complete actions_reads absent parted content ends
  | @label _ _ label member =>
      obtain ⟨⟨pieces⟩, parted, content⟩ := member
      have absent : draft.label = none := Option.toList_eq_nil_iff.mp (holds.label_eq.trans fresh)
      have notTick : "label".toList ≠ "tick".toList := by decide
      have notActions : "label".toList ≠ "actions".toList := by decide
      refine ⟨_, ?_, holds.label absent (label.map String.ofList)⟩
      simp only [Draft.field, Quote.read_eq_ok_iff.mpr pieces, value, if_neg notTick,
        if_neg notActions, ↓reduceIte]
      exact once_complete label_reads absent parted (content.imp .intro) ends
  | @other _ name _ unknown member =>
      obtain ⟨⟨pieces⟩, parted, content⟩ := member
      have notTick := unknown "tick" (by decide)
      have notActions := unknown "actions" (by decide)
      have notLabel := unknown "label" (by decide)
      refine ⟨draft, ?_, holds.other⟩
      simp only [Draft.field, Quote.read_eq_ok_iff.mpr pieces, value, if_neg notTick,
        if_neg notActions, if_neg notLabel, Draft.unknown, colon_eq_ok_iff.mpr parted,
        Skip.skipFrom_of_value content ends]

theorem fields_sound {draft : Draft} {seen : List Field} {isFirst : Bool} {text rest : List Char}
    {event : Event} (holds : draft.Holds seen)
    (result : draft.fields isFirst text = .ok (event, rest)) :
    ∃ later, Denoted (seen ++ later) event ∧
      if isFirst then Enclosed '\x7b' '\x7d' Field.Written ('\x7b' :: text) later rest
      else Further '\x7d' Field.Written text later rest := by
  fun_induction fields draft isFirst text generalizing seen with
  | case2 draft isFirst text closing closed event finished =>
      cases result
      have blank := nextField_eq_closing_iff.mp closed
      refine ⟨[], ?_, ?_⟩
      · rw [List.append_nil]
        exact (finish_eq_ok_iff holds).mp finished
      · split
        · exact .empty blank
        · exact .closed blank
  | case5 draft isFirst text inside found next behind read inductionHypothesis =>
      obtain ⟨field, written, holds⟩ := field_sound holds read
      obtain ⟨later, denoted, further⟩ := inductionHypothesis holds result
      refine ⟨field :: later, ?_, ?_⟩
      · simpa using denoted
      · have ahead := nextField_eq_element_iff.mp found
        split
        · next first =>
            rw [if_pos first] at ahead
            exact .filled (.intro ahead written) further
        · next following =>
            rw [if_neg following] at ahead
            obtain ⟨behindComma, comma, blank⟩ := ahead
            exact .more comma (.intro blank written) further
  | _ => cases result

theorem fields_step {draft next : Draft} {isFirst : Bool} {text inside behind : List Char}
    (found : nextField isFirst text = .ok (.element inside))
    (read : draft.field inside = .ok (next, behind)) :
    draft.fields isFirst text = next.fields false behind := by
  rw [fields.eq_def]
  split <;> simp_all
  split <;> simp_all

theorem fields_closing {draft : Draft} {seen : List Field} {isFirst : Bool} {text rest : List Char}
    {event : Event} (holds : draft.Holds seen) (denoted : Denoted seen event)
    (closed : Blank text ('\x7d' :: rest)) :
    draft.fields isFirst text = .ok (event, rest) := by
  have finished := (finish_eq_ok_iff holds).mpr denoted
  rw [fields.eq_def]
  split <;> simp_all [nextField_eq_closing_iff.mpr closed]

theorem written_starts {field : Field} {text rest : List Char}
    (written : Field.Written text field rest) : ∃ inside, text = '"' :: inside := by
  cases written with
  | tick member | actions member | label member | other _ member =>
      obtain ⟨⟨pieces⟩, -, -⟩ := member
      exact ⟨_, rfl⟩

theorem fields_further {draft : Draft} {seen later : List Field} {text rest : List Char}
    {event : Event} (holds : draft.Holds seen) (denoted : Denoted (seen ++ later) event)
    (further : Further '\x7d' Field.Written text later rest) :
    draft.fields false text = .ok (event, rest) := by
  induction further generalizing draft seen with
  | closed blank =>
      rw [List.append_nil] at denoted
      exact fields_closing holds denoted blank
  | @more text next behind rest field later comma spaced further inductionHypothesis =>
      obtain ⟨blank, written⟩ := spaced
      obtain ⟨inside, rfl⟩ := written_starts written
      have found : nextField false text = .ok (.element inside) :=
        nextField_eq_element_iff.mpr ⟨next, comma, blank⟩
      obtain ⟨draft', read, holds'⟩ :=
        field_complete holds (fresh_of_denoted denoted) written (further.ends (by decide))
      rw [fields_step found read]
      apply inductionHypothesis holds'
      simpa using denoted

theorem fields_complete {fields : List Field} {text rest : List Char} {event : Event}
    (denoted : Denoted fields event)
    (enclosed : Enclosed '\x7b' '\x7d' Field.Written ('\x7b' :: text) fields rest) :
    empty.fields true text = .ok (event, rest) := by
  cases enclosed with
  | empty closed => exact fields_closing holds_empty denoted closed
  | filled spaced further =>
      obtain ⟨blank, written⟩ := spaced
      obtain ⟨inside, rfl⟩ := written_starts written
      have found : nextField true text = .ok (.element inside) :=
        nextField_eq_element_iff.mpr blank
      obtain ⟨draft, read, holds⟩ := field_complete holds_empty
        (fresh_of_denoted denoted) written (further.ends (by decide))
      rw [fields_step found read]
      exact fields_further holds denoted further

end Draft

theorem lastPart_eq_ok_iff {tick : UInt32} {actions : List Action} {text rest : List Char}
    {event : Event} : lastPart tick actions text = .ok (event, rest) ↔
      ∃ label, Ending text label rest ∧ event = ⟨tick, actions, label⟩ := by
  constructor
  · intro result
    unfold lastPart at result
    split at result
    · cases result
    · next closed =>
        cases result
        exact ⟨none, .bare (nextElement_eq_closing_iff.mp closed), rfl⟩
    · next found =>
        obtain ⟨behind, comma, blank⟩ := blank_of_nextElement found
        split at result
        · cases result
        · next read =>
            obtain ⟨further, ⟨label⟩⟩ := label_reads.sound read
            split at result
            · next closed =>
                cases result
                exact ⟨_, .labelled comma (.intro (blank.trans further) label)
                  (closeList_eq_ok_iff.mp closed), rfl⟩
            · cases result
  · rintro ⟨label, ending, rfl⟩
    cases ending with
    | bare blank =>
        have closed : nextElement false text = .ok (.closing rest) :=
          nextElement_eq_closing_iff.mpr blank
        simp only [lastPart, closed]
    | labelled comma spaced blank =>
        obtain ⟨inside, found⟩ := spaced
        have changed : Changed (Option.map String.ofList) (Nullable Text) _ _ _ := .intro found
        have read := label_reads.complete (.intro .none changed) (blank.ends (by decide))
        simp only [lastPart, nextElement_later comma inside (label_reads.solid changed), read,
          closeList_eq_ok_iff.mpr blank]

theorem parts_sound {text rest : List Char} {event : Event}
    (result : parts text = .ok (event, rest)) : Written ('[' :: text) event rest := by
  unfold parts at result
  split at result
  · cases result
  · cases result
  · next opened =>
      have blank := blank_of_nextElement opened
      split at result
      · cases result
      · next tick behind read =>
          have first := Spaced.of_blank blank (Reads.word32.sound read)
          unfold laterParts at result
          split at result
          · cases result
          · cases result
          · next found =>
              obtain ⟨next, comma, blank⟩ := blank_of_nextElement found
              split at result
              · cases result
              · next read =>
                  have second := Spaced.of_blank blank (actions_reads.sound read)
                  obtain ⟨label, ending, rfl⟩ := lastPart_eq_ok_iff.mp result
                  exact .list first comma second ending

theorem ends_of_ending {text rest : List Char} {label : Option String}
    (ending : Ending text label rest) : Ends text := by
  cases ending with
  | bare blank => exact blank.ends (by decide)
  | labelled comma => exact comma.ends (by decide)

theorem parts_complete {text behind next closing rest : List Char} {tick : UInt32}
    {actions : List Action} {label : Option String} (first : Spaced Word32 text tick behind)
    (comma : Blank behind (',' :: next))
    (second : Spaced (Listed Action.Written) next actions closing)
    (ending : Ending closing label rest) : parts text = .ok (⟨tick, actions, label⟩, rest) := by
  obtain ⟨inside, word⟩ := first
  obtain ⟨between, listed⟩ := second
  have readTick := Reads.word32.complete (.intro .none word) (comma.ends (by decide))
  have readActions := actions_reads.complete (.intro .none listed) (ends_of_ending ending)
  simp only [parts, nextElement_first inside (Reads.word32.solid word), readTick, laterParts,
    nextElement_later comma between (actions_reads.solid listed), readActions]
  exact lastPart_eq_ok_iff.mpr ⟨label, ending, rfl⟩

theorem reads : Reads reader Written where
  solid := by
    intro text rest event written
    cases written with
    | object enclosed => exact enclosed.solid (by decide)
    | list => exact solid_of_mark (by decide)
  sound := by
    intro text rest event result
    change read text = .ok (event, rest) at result
    unfold read at result
    split at result
    · cases result
    · next opened =>
        have blank := (skipBlank_eq_cons_iff.mp opened).1
        split at result
        · next bracket =>
            subst bracket
            exact .intro blank (parts_sound result)
        · split at result
          · next brace =>
              subst brace
              obtain ⟨fields, denoted, enclosed⟩ := Draft.fields_sound Draft.holds_empty result
              exact .intro blank (.object enclosed denoted)
          · cases result
  complete := by
    rintro text rest event ⟨blank, written⟩ ends
    change read text = _
    cases written with
    | object enclosed denoted =>
        obtain ⟨inside, rfl⟩ := enclosed.starts
        have opened := skipBlank_eq_cons_iff.mpr ⟨blank, by decide⟩
        have brace : '\x7b' ≠ '[' := by decide
        simp only [read, opened, if_neg brace, ↓reduceIte]
        exact Draft.fields_complete denoted enclosed
    | list first comma second ending =>
        have opened := skipBlank_eq_cons_iff.mpr ⟨blank, by decide⟩
        simp only [read, opened, ↓reduceIte]
        exact parts_complete first comma second ending

end Event

namespace Script

/-- Just the texts that are written as a list of events are read, and as that list. -/
theorem parse_eq_ok_iff {text : List Char} {events : List Event} :
    eventsReader.parse text = .ok events ↔ Written text events := by
  have reads : Reads eventsReader (Listed Event.Written) := .list "a sequence" Event.reads
  have parsed : eventsReader.parse text = .ok events ↔
      finish (eventsReader.read text) = .ok events := by
    unfold Reader.parse
    split <;> simp_all
  rw [parsed, finish_eq_ok_iff]
  constructor
  · rintro ⟨rest, result, blank⟩
    exact .intro (reads.sound result) blank
  · rintro ⟨spaced, blank⟩
    exact ⟨_, reads.complete spaced (blank.ends_of_ends nofun), blank⟩

theorem ofDocument_of_written {text : List Char} {events : List Event}
    (written : Written text events) (captureTick : UInt32) :
    ofDocument text captureTick = (ofEvents events captureTick).mapError .script := by
  simp only [ofDocument, parse_eq_ok_iff.mpr written]
  cases ofEvents events captureTick <;> rfl

/-- A text that is not written as a script is refused as a document. Any other is written for just
one list of events, and comes to what the validation makes of that list. -/
theorem ofDocument_accepts_format (text : List Char) (captureTick : UInt32) :
    ((∃ error, ofDocument text captureTick = .error (.document error)) ↔
      ¬ ∃ events, Written text events) ∧
    (∀ events, Written text events →
      ofDocument text captureTick = (ofEvents events captureTick).mapError .script) ∧
    ∀ events other, Written text events → Written text other → other = events := by
  refine ⟨⟨?_, ?_⟩, fun events written => ofDocument_of_written written captureTick, ?_⟩
  · rintro ⟨error, refused⟩ ⟨events, written⟩
    rw [ofDocument_of_written written] at refused
    cases found : ofEvents events captureTick <;> simp [found, Except.mapError] at refused
  · intro unwritten
    unfold ofDocument
    split
    · exact ⟨_, rfl⟩
    · next events parsed => exact absurd ⟨events, parse_eq_ok_iff.mp parsed⟩ unwritten
  · intro events other written otherwise
    have parsed := parse_eq_ok_iff.mpr written
    rw [parse_eq_ok_iff.mpr otherwise] at parsed
    exact Except.ok.inj parsed

theorem written_of_prints {text : List Char} {events : List Event}
    (prints : Printer.Prints (Listed Event.Written) text events) : Written text events := by
  have spaced := prints.spaced []
  rw [List.append_nil] at spaced
  exact .intro spaced .none

/-- An event with its tick last, and with a field in front that means nothing. -/
def unordered : List Char :=
  Printer.list [Printer.object
    [Printer.field "note" (Printer.list [Printer.object []]),
     Printer.field "actions" (Printer.list []),
     Printer.field "tick" (Printer.natural 1)]]

theorem ofDocument_accepts_format_unordered :
    ofDocument unordered 150 = (ofEvents [⟨1, [], none⟩] 150).mapError .script := by
  have note : Printer.Prints Value (Printer.list [Printer.object []]) () := fun rest =>
    .list (Printer.list_written
      (.cons (fun rest => .object (Printer.object_written .nil rest)) .nil) rest)
  have fields : Printer.Prints (Enclosed '\x7b' '\x7d' Event.Field.Written) _
      [.other, .actions [], .tick 1] :=
    Printer.object_written
      (.cons (fun rest => .other (by decide) (Printer.field_written "note" note rest))
      (.cons (fun rest => .actions
        (Printer.field_written "actions" (Printer.list_written .nil) rest))
      (.cons (fun rest => .tick (Printer.field_written "tick"
        (fun rest => .intro (Printer.natural_written 1 rest)) rest))
      .nil)))
  have written : Written unordered [⟨1, [], none⟩] :=
    written_of_prints (Printer.list_written
      (.cons (fun rest => .object (fields rest) ⟨rfl, rfl, .inl ⟨rfl, rfl⟩⟩) .nil))
  exact (ofDocument_accepts_format unordered 150).2.1 _ written

end Script

end FrameCycle
