import FrameCycle.Program
import Mathlib.Data.List.TakeWhile

/-!
Reading a command line back. The value of an option stands in the same argument or in the next one;
the options that a line gives, in any order, are the options that are read, and one that is given
again is refused.
-/
namespace FrameCycle.Options

open Progress

/-- An option or a flag as it stands on a command line. -/
inductive Given where
  | joined (opt : Opt) (value : Path)
  | apart (opt : Opt) (value : Path)
  | raised (flag : Flag)

namespace Given

def arguments : Given → List (List UInt8)
  | joined opt value => [Utf8.encode opt.name.toList ++ equals :: value.bytes]
  | apart opt value => [Utf8.encode opt.name.toList, value.bytes]
  | raised flag => [Utf8.encode flag.name.toList]

/-- What is given, however it is written. -/
def switch : Given → Switch
  | joined opt _ | apart opt _ => .opt opt
  | raised flag => .flag flag

def usage : Given → String
  | joined opt _ | apart opt _ => opt.usage
  | raised flag => flag.name

/-- A value is not empty, and one that stands apart does not start as an option does; a dash alone
is a value. -/
def Sound : Given → Prop
  | joined _ value => value.bytes ≠ []
  | apart _ value =>
      value.bytes ≠ [] ∧ (value.bytes.head? ≠ some dash ∨ value.bytes = [dash])
  | raised _ => True

instance : DecidablePred Sound
  | joined _ value => inferInstanceAs (Decidable (value.bytes ≠ []))
  | apart _ value => inferInstanceAs (Decidable
      (value.bytes ≠ [] ∧ (value.bytes.head? ≠ some dash ∨ value.bytes = [dash])))
  | raised _ => inferInstanceAs (Decidable True)

/-- Takes in what is given. -/
def take (options : Options) : Given → Except Halt Options
  | joined opt value | apart opt value => assign options opt (some value)
  | raised flag => raise options flag

end Given

/-- The arguments of a line, in its order. -/
def written (line : List Given) : List (List UInt8) :=
  line.flatMap Given.arguments

/-- The line gives just these options, each of them once. -/
structure Lists (options : Options) (line : List Given) : Prop where
  sound : ∀ given ∈ line, given.Sound
  once : (line.map Given.switch).Nodup
  value_iff : ∀ opt value,
    options.value opt = some value ↔ .joined opt value ∈ line ∨ .apart opt value ∈ line
  flag_iff : ∀ flag, options.flag flag = true ↔ .raised flag ∈ line

section Names

theorem switch?_opt (opt : Opt) : switch? (Utf8.encode opt.name.toList) = some (.opt opt) := by
  cases opt <;> decide

theorem switch?_flag (flag : Flag) :
    switch? (Utf8.encode flag.name.toList) = some (.flag flag) := by
  cases flag <;> decide

/-- A name of two dashes and letters, without an equals sign. -/
def Long (name : List UInt8) : Prop :=
  equals ∉ name ∧ ∃ letter letters, name = dash :: dash :: letter :: letters

theorem long_opt (opt : Opt) : Long (Utf8.encode opt.name.toList) := by
  cases opt <;> exact ⟨by decide, _, _, rfl⟩

theorem long_flag (flag : Flag) : Long (Utf8.encode flag.name.toList) := by
  cases flag <;> exact ⟨by decide, _, _, rfl⟩

theorem cut_name {name : List UInt8} (plain : equals ∉ name) : cut name = (name, .none) := by
  have all : name.dropWhile (· != equals) = [] := by
    simp only [List.dropWhile_eq_nil_iff, bne_iff_ne, ne_eq]
    intro byte member
    exact fun same => plain (same ▸ member)
  simp only [cut, all]

theorem cut_joined {name : List UInt8} (plain : equals ∉ name) (value : List UInt8) :
    cut (name ++ equals :: value) = (name, some ⟨value⟩) := by
  have before : ∀ byte ∈ name, (byte != equals) = true := by
    intro byte member
    simp only [bne_iff_ne, ne_eq]
    exact fun same => plain (same ▸ member)
  have behind : (name ++ equals :: value).dropWhile (· != equals) = equals :: value := by
    rw [List.dropWhile_append_of_pos before]
    simp
  have taken : (name ++ equals :: value).takeWhile (· != equals) = name := by
    rw [List.takeWhile_append_of_pos before]
    simp
  simp only [cut, behind, taken]

end Names

section Reading

variable {progress : Progress} {rest : List (List UInt8)}

/-- Reads what is left of a line, to its end. -/
def finish (progress : Progress) (arguments : List (List UInt8)) : Except Halt Options :=
  readAll progress arguments >>= settle

theorem readAll_double (letter : UInt8) (letters : List UInt8) :
    readAll progress ((dash :: dash :: letter :: letters) :: rest) =
      progress.long (cut (dash :: dash :: letter :: letters)).1
        (cut (dash :: dash :: letter :: letters)).2 >>= (readAll · rest) := by
  simp only [readAll, if_neg (show dash :: dash :: letter :: letters ≠ [dash, dash] by simp),
    ne_eq, not_true_eq_false, if_false, if_true]
  cases progress.long (cut (dash :: dash :: letter :: letters)).1
    (cut (dash :: dash :: letter :: letters)).2 <;> rfl

theorem readAll_short {second : UInt8} (single : second ≠ dash) (letters : List UInt8) :
    readAll progress ((dash :: second :: letters) :: rest) =
      progress.short (second :: letters) >>= (readAll · rest) := by
  have apart : dash :: second :: letters ≠ [dash, dash] := by simp [single]
  simp only [readAll, if_neg apart, ne_eq, not_true_eq_false, if_false, if_neg single]
  cases progress.short (second :: letters) <;> rfl

theorem readAll_long {name : List UInt8} (long : Long name) :
    readAll progress (name :: rest) = progress.long name .none >>= (readAll · rest) := by
  obtain ⟨plain, letter, letters, rfl⟩ := long
  rw [readAll_double, cut_name plain]

theorem readAll_joined {name : List UInt8} (long : Long name) (value : List UInt8) :
    readAll progress ((name ++ equals :: value) :: rest) =
      progress.long name (some ⟨value⟩) >>= (readAll · rest) := by
  obtain ⟨plain, letter, letters, rfl⟩ := long
  have cuts := cut_joined plain value
  simp only [List.cons_append] at cuts ⊢
  rw [readAll_double, cuts]

/-- An argument that is empty, a dash alone or starts with something else names nothing. -/
theorem readAll_bare {argument : List UInt8}
    (bare : argument.head? ≠ some dash ∨ argument = [dash]) :
    readAll progress (argument :: rest) = progress.bare argument >>= (readAll · rest) := by
  have apart : argument ≠ [dash, dash] := by
    rintro rfl
    simp at bare
  match argument with
  | [] | [_] =>
      simp only [readAll, if_neg apart]
      cases progress.bare _ <;> rfl
  | first :: second :: letters =>
      have other : first ≠ dash := by simpa using bare
      simp only [readAll, if_neg apart, ne_eq, other, not_false_eq_true, if_true]
      cases progress.bare (first :: second :: letters) <;> rfl

/-- What is given takes in the value that has come before it, and is taken in by what comes
behind. -/
theorem finish_given {further : Options → Except Halt Options}
    (reads : ∀ next, finish next rest = next.settle >>= further) {given : Given}
    (sound : given.Sound) (progress : Progress) :
    finish progress (given.arguments ++ rest) =
      progress.settle >>= (given.take · >>= further) := by
  have behind (next : Progress) : readAll next rest >>= settle = next.settle >>= further :=
    reads next
  cases given with
  | joined opt value =>
      simp only [finish, Given.arguments, List.singleton_append, readAll_joined (long_opt opt),
        long, switch?_opt, bind_assoc, behind]
      rfl
  | apart opt value =>
      obtain ⟨-, bare⟩ := sound
      simp only [finish, Given.arguments, List.cons_append, List.nil_append,
        readAll_long (long_opt opt), long, switch?_opt, readAll_bare bare, bind_assoc, behind]
      rfl
  | raised flag =>
      simp only [finish, Given.arguments, List.singleton_append, readAll_long (long_flag flag),
        long, switch?_flag, bind_assoc, behind]
      rfl

/-- What may end a line: nothing, or two dashes alone. -/
def Closing (closing : List (List UInt8)) : Prop :=
  closing = [] ∨ closing = [[dash, dash]]

/-- A line takes in what it gives, in its order. -/
theorem finish_written {line : List Given} (sound : ∀ given ∈ line, given.Sound)
    {closing : List (List UInt8)} (closes : Closing closing) (progress : Progress) :
    finish progress (written line ++ closing) =
      progress.settle >>= (line.foldlM Given.take ·) := by
  induction line generalizing progress with
  | nil =>
      have settles : finish progress closing = progress.settle := by
        rcases closes with rfl | rfl <;> rfl
      exact settles.trans (bind_pure _).symm
  | cons given line inductionHypothesis =>
      rw [List.forall_mem_cons] at sound
      have opens : written (given :: line) ++ closing =
          given.arguments ++ (written line ++ closing) := List.append_assoc _ _ _
      rw [opens]
      exact finish_given (inductionHypothesis sound.2) sound.1 progress

theorem parse_written {line : List Given} (sound : ∀ given ∈ line, given.Sound)
    {closing : List (List UInt8)} (closes : Closing closing) :
    parse (written line ++ closing) = line.foldlM Given.take none :=
  finish_written sound closes ⟨none, .none⟩

end Reading

section Taking

/-- Whether something has been given before. -/
def holds (options : Options) : Switch → Prop
  | .opt opt => options.value opt ≠ .none
  | .flag flag => options.flag flag = true
  | .help | .version => False

theorem not_holds_none (given : Given) : ¬ none.holds given.switch := by
  cases given <;> simp [Given.switch, holds, none]

/-- What a line adds to the options that were held before it. -/
structure Adds (held : Options) (line : List Given) (options : Options) : Prop where
  value_iff : ∀ opt value, options.value opt = some value ↔
    held.value opt = some value ∨ .joined opt value ∈ line ∨ .apart opt value ∈ line
  flag_iff : ∀ flag, options.flag flag = true ↔ held.flag flag = true ∨ .raised flag ∈ line

variable {held next options : Options} {given : Given} {line : List Given}

theorem Adds.unique {others : Options} (adds : Adds held line options)
    (also : Adds held line others) : options = others := by
  obtain ⟨values, flags⟩ := options
  obtain ⟨values', flags'⟩ := others
  congr
  · funext opt
    ext value
    exact (adds.value_iff opt value).trans (also.value_iff opt value).symm
  · funext flag
    rw [Bool.eq_iff_iff]
    exact (adds.flag_iff flag).trans (also.flag_iff flag).symm

theorem Adds.cons (first : Adds held [given] next) (behind : Adds next line options) :
    Adds held (given :: line) options where
  value_iff opt value := by
    rw [behind.value_iff, first.value_iff]
    grind
  flag_iff flag := by
    rw [behind.flag_iff, first.flag_iff]
    grind

theorem Adds.holds_iff (adds : Adds held line options) (given : Given) :
    options.holds given.switch ↔
      held.holds given.switch ∨ given.switch ∈ line.map Given.switch := by
  have given_value (opt : Opt) : options.value opt ≠ .none ↔
      held.value opt ≠ .none ∨ .opt opt ∈ line.map Given.switch := by
    simp only [Option.ne_none_iff_exists', adds.value_iff, exists_or, List.mem_map]
    refine or_congr_right ⟨?_, ?_⟩
    · rintro (⟨value, member⟩ | ⟨value, member⟩)
      · exact ⟨_, member, rfl⟩
      · exact ⟨_, member, rfl⟩
    · rintro ⟨found, member, same⟩
      cases found with
      | joined other value =>
          cases same
          exact .inl ⟨value, member⟩
      | apart other value =>
          cases same
          exact .inr ⟨value, member⟩
      | raised flag => cases same
  cases given with
  | joined opt value | apart opt value => exact given_value opt
  | raised flag =>
      simp only [Given.switch, holds, adds.flag_iff, List.mem_map]
      refine or_congr_right ⟨fun member => ⟨_, member, rfl⟩, ?_⟩
      rintro ⟨found, member, same⟩
      cases found with
      | joined | apart => cases same
      | raised other =>
          cases same
          exact member

theorem take_held (again : held.holds given.switch) :
    given.take held = .error (.error (.repeated given.usage)) := by
  cases given with
  | joined opt value | apart opt value =>
      exact if_pos (Option.isSome_iff_ne_none.mpr again)
  | raised flag => exact if_pos again

theorem assign_new {opt : Opt} {value : Path} (full : value.bytes ≠ [])
    (new : held.value opt = .none) :
    ∃ next, assign held opt (some value) = .ok next ∧ next.flag = held.flag ∧
      ∀ other given, next.value other = some given ↔
        held.value other = some given ∨ other = opt ∧ given = value := by
  simp only [assign, new, Option.isSome_none, Bool.false_eq_true, if_false, List.isEmpty_iff, full]
  refine ⟨_, rfl, rfl, fun other given => ?_⟩
  by_cases same : other = opt
  · simp [same, new, eq_comm]
  · simp [same]

theorem take_new (sound : given.Sound) (new : ¬ held.holds given.switch) :
    ∃ next, given.take held = .ok next ∧ Adds held [given] next := by
  cases given with
  | joined opt value =>
      obtain ⟨next, taken, flags, values⟩ := assign_new sound (not_not.mp new)
      exact ⟨next, taken, by simp [values], by simp [flags]⟩
  | apart opt value =>
      obtain ⟨next, taken, flags, values⟩ := assign_new sound.1 (not_not.mp new)
      exact ⟨next, taken, by simp [values], by simp [flags]⟩
  | raised flag =>
      refine ⟨_, if_neg new, by simp, fun other => ?_⟩
      simp [or_comm]

/-- What comes of a line: everything is new and is taken in, or something is refused that was given
before. -/
inductive Outcome (held : Options) (line : List Given) : Except Halt Options → Prop where
  | taken {options : Options} :
      (line.map Given.switch).Nodup → (∀ given ∈ line, ¬ held.holds given.switch) →
      Adds held line options → Outcome held line (.ok options)
  | refused {seen rest : List Given} {again : Given} :
      line = seen ++ again :: rest →
      held.holds again.switch ∨ again.switch ∈ seen.map Given.switch →
      Outcome held line (.error (.error (.repeated again.usage)))

theorem outcome_of_sound (sound : ∀ given ∈ line, given.Sound) (held : Options) :
    Outcome held line (line.foldlM Given.take held) := by
  induction line generalizing held with
  | nil => exact .taken List.nodup_nil (by simp) (by constructor <;> simp)
  | cons given line inductionHypothesis =>
      rw [List.forall_mem_cons] at sound
      rw [List.foldlM_cons]
      by_cases new : held.holds given.switch
      · rw [take_held new]
        exact @Outcome.refused _ _ [] _ _ rfl (.inl new)
      · obtain ⟨next, taken, adds⟩ := take_new sound.1 new
        have held_iff (other : Given) :
            next.holds other.switch ↔ held.holds other.switch ∨ other.switch = given.switch := by
          simpa using adds.holds_iff other
        have behind := inductionHypothesis sound.2 next
        rw [taken]
        change Outcome held (given :: line) (line.foldlM Given.take next)
        generalize line.foldlM Given.take next = result at behind ⊢
        cases behind with
        | taken once free behind =>
            have other : given.switch ∉ line.map Given.switch := by
              intro member
              obtain ⟨later, found, same⟩ := List.mem_map.mp member
              exact free later found ((held_iff later).mpr (.inr same))
            refine .taken (List.nodup_cons.mpr ⟨other, once⟩) ?_ (adds.cons behind)
            rw [List.forall_mem_cons]
            refine ⟨new, fun later found before => ?_⟩
            exact free later found ((held_iff later).mpr (.inl before))
        | @refused seen rest again split before =>
            refine @Outcome.refused _ _ (given :: seen) rest again (by rw [split]; rfl) ?_
            rw [List.map_cons, List.mem_cons]
            rcases before with before | before
            · exact ((held_iff again).mp before).imp_right .inl
            · exact .inr (.inr before)

theorem lists_iff {line : List Given} (sound : ∀ given ∈ line, given.Sound) {options : Options} :
    Lists options line ↔ line.foldlM Given.take none = .ok options := by
  have outcome := outcome_of_sound sound none
  generalize line.foldlM Given.take none = result at outcome
  constructor
  · intro lists
    cases outcome with
    | taken _ _ adds =>
        have same : Adds none line options :=
          ⟨by simpa [none] using lists.value_iff, by simpa [none] using lists.flag_iff⟩
        rw [adds.unique same]
    | @refused seen rest again split before =>
        have once := lists.once
        rw [split, List.map_append, List.map_cons, List.nodup_append] at once
        rcases before with before | before
        · exact absurd before (not_holds_none again)
        · exact absurd rfl (once.2.2 _ before _ List.mem_cons_self)
  · rintro rfl
    cases outcome with
    | taken once _ adds =>
        exact ⟨sound, once, by simpa [none] using adds.value_iff,
          by simpa [none] using adds.flag_iff⟩

end Taking

section Accepting

variable {progress next : Progress} {options : Options}

theorem full_of_assign {opt : Opt} {value : Path} {held : Options}
    (assigned : assign held opt (some value) = .ok options) : value.bytes ≠ [] := by
  intro empty
  simp only [assign, empty, List.isEmpty_nil, if_true] at assigned
  split at assigned <;> cases assigned

/-- Only an option's own name stands for it. -/
theorem name_of_switch? {name : List UInt8} {switch : Switch} (found : switch? name = some switch) :
    (∀ opt, switch = .opt opt → name = Utf8.encode opt.name.toList) ∧
      ∀ flag, switch = .flag flag → name = Utf8.encode flag.name.toList := by
  obtain ⟨entry, matched, rfl⟩ := Option.map_eq_some_iff.mp found
  have named : Utf8.encode entry.1.toList = name := by simpa using List.find?_some matched
  have member := List.mem_of_find?_eq_some matched
  simp only [switches, List.mem_append, List.mem_map] at member
  subst named
  rcases member with (⟨opt, -, rfl⟩ | ⟨flag, -, rfl⟩) | member
  · exact ⟨by simp, by simp⟩
  · exact ⟨by simp, by simp⟩
  · simp only [List.mem_cons, List.not_mem_nil, or_false] at member
    rcases member with rfl | rfl <;> exact ⟨by simp, by simp⟩

/-- Cutting takes an argument apart only at an equals sign. -/
theorem uncut (argument : List UInt8) :
    cut argument = (argument, .none) ∨
      ∃ name value, cut argument = (name, some ⟨value⟩) ∧ argument = name ++ equals :: value := by
  have whole : argument.takeWhile (· != equals) ++ argument.dropWhile (· != equals) = argument :=
    List.takeWhile_append_dropWhile
  unfold cut
  cases behind : argument.dropWhile (· != equals) with
  | nil => exact .inl rfl
  | cons byte value =>
      have stops : byte = equals := by
        have first := List.head?_dropWhile_not (· != equals) argument
        simpa [behind] using first
      rw [behind, stops] at whole
      exact .inr ⟨_, value, rfl, whole.symm⟩

theorem short_ne_ok (progress : Progress) (letters : List UInt8) :
    progress.short letters ≠ .ok next := by
  unfold short
  intro read
  split at read
  · cases settled : progress.settle <;> rw [settled] at read <;> cases read
  · cases settled : progress.settle <;> rw [settled] at read <;> cases read
  · split at read <;> cases read

/-- What reading a long name has come to, if it was allowed. -/
inductive Named (name : List UInt8) : Option Path → Progress → Prop where
  | apart {opt : Opt} {held : Options} :
      name = Utf8.encode opt.name.toList → Named name .none ⟨held, some (opt, .none)⟩
  | joined {opt : Opt} {value : Path} {held : Options} :
      name = Utf8.encode opt.name.toList → value.bytes ≠ [] → Named name (some value) ⟨held, .none⟩
  | raised {flag : Flag} {held : Options} :
      name = Utf8.encode flag.name.toList → Named name .none ⟨held, .none⟩

theorem named_of_long {name : List UInt8} {value : Option Path}
    (read : progress.long name value = .ok next) : Named name value next := by
  simp only [long] at read
  cases found : switch? name with
  | none => simp [found] at read
  | some switch =>
      obtain ⟨opts, flags⟩ := name_of_switch? found
      simp only [found] at read
      cases switch with
      | opt opt =>
          obtain ⟨held, -, read⟩ := bind_eq_ok.mp read
          cases value with
          | none =>
              cases read
              exact .apart (opts opt rfl)
          | some value =>
              obtain ⟨taken, assigned, read⟩ := bind_eq_ok.mp read
              cases read
              exact .joined (opts opt rfl) (full_of_assign assigned)
      | flag flag =>
          obtain ⟨held, plain, read⟩ := bind_eq_ok.mp read
          obtain ⟨raised, -, read⟩ := bind_eq_ok.mp read
          cases read
          cases value with
          | none => exact .raised (flags flag rfl)
          | some value => cases plain
      | help | version =>
          obtain ⟨held, -, read⟩ := bind_eq_ok.mp read
          cases read

/-- What is left to be read for a value: one that stands apart first, if an option waits for it. -/
inductive Rest (progress : Progress) : List (List UInt8) → Prop where
  | line {line : List Given} {closing : List (List UInt8)} :
      (∀ given ∈ line, given.Sound) → Closing closing → Rest progress (written line ++ closing)
  | value {opt : Opt} {value : Path} {line : List Given} {closing : List (List UInt8)} :
      progress.pending = some (opt, .none) → (Given.apart opt value).Sound →
      (∀ given ∈ line, given.Sound) → Closing closing →
      Rest progress (value.bytes :: (written line ++ closing))

variable {rest : List (List UInt8)}

theorem Rest.after {held : Options} (left : Rest ⟨held, .none⟩ rest) {given : Given}
    (sound : given.Sound) : Rest progress (given.arguments ++ rest) := by
  cases left with
  | @line line closing later closes =>
      rw [← List.append_assoc]
      exact @Rest.line _ (given :: line) closing (List.forall_mem_cons.mpr ⟨sound, later⟩) closes
  | value waits => cases waits

theorem rest_of_bare {argument : List UInt8}
    (bare : argument.head? ≠ some dash ∨ argument = [dash])
    (accepted : finish progress (argument :: rest) = .ok options)
    (behind : ∀ {next}, finish next rest = .ok options → Rest next rest) :
    Rest progress (argument :: rest) := by
  rw [finish, readAll_bare bare, bind_assoc, bind_eq_ok] at accepted
  obtain ⟨next, read, accepted⟩ := accepted
  simp only [Progress.bare] at read
  split at read
  case h_2 => cases read
  case h_1 opt waits =>
    cases read
    cases behind accepted with
    | value waits' => cases waits'
    | line sound closes =>
        -- The value is taken in behind it, and an empty one would not have been.
        have taken := (finish_written sound closes _).symm.trans accepted
        obtain ⟨_, assigned, -⟩ := bind_eq_ok.mp taken
        exact @Rest.value _ opt ⟨argument⟩ _ _ waits ⟨full_of_assign assigned, bare⟩ sound closes

theorem rest_of_double {letter : UInt8} {letters : List UInt8}
    (accepted : finish progress ((dash :: dash :: letter :: letters) :: rest) = .ok options)
    (behind : ∀ {next}, finish next rest = .ok options → Rest next rest) :
    Rest progress ((dash :: dash :: letter :: letters) :: rest) := by
  rw [finish, readAll_double, bind_assoc, bind_eq_ok] at accepted
  obtain ⟨next, read, accepted⟩ := accepted
  have named := named_of_long read
  have left := behind accepted
  rcases uncut (dash :: dash :: letter :: letters) with cuts | ⟨name, value, cuts, whole⟩
  · simp only [cuts] at named
    cases named with
    | @apart opt held same =>
        rw [same]
        cases left with
        | @line line closing sound closes =>
            have taken := (finish_written sound closes _).symm.trans accepted
            obtain ⟨_, assigned, -⟩ := bind_eq_ok.mp taken
            cases assigned
        | @value _ value line closing waits apart sound closes =>
            cases waits
            exact @Rest.line _ (.apart opt value :: line) closing
              (List.forall_mem_cons.mpr ⟨apart, sound⟩) closes
    | @raised flag held same =>
        rw [same]
        exact @Rest.after _ _ _ left (.raised flag) trivial
  · simp only [cuts] at named
    rw [whole]
    cases named with
    | @joined opt value held same full =>
        rw [same]
        exact @Rest.after _ _ _ left (.joined opt ⟨value⟩) full

theorem rest_of_finish {arguments : List (List UInt8)}
    (accepted : finish progress arguments = .ok options) : Rest progress arguments := by
  induction arguments generalizing progress with
  | nil => exact @Rest.line _ [] [] (List.forall_mem_nil _) (.inl rfl)
  | cons argument rest inductionHypothesis =>
      by_cases bare : argument.head? ≠ some dash ∨ argument = [dash]
      · exact rest_of_bare bare accepted inductionHypothesis
      match argument with
      | [] | [_] => simp at bare
      | first :: second :: letters =>
          obtain rfl : first = dash := by simpa using bare
          by_cases double : second = dash
          · subst double
            cases letters with
            | nil =>
                cases rest with
                | nil => exact @Rest.line _ [] [[dash, dash]] (List.forall_mem_nil _) (.inr rfl)
                | cons stray rest => cases accepted
            | cons letter letters => exact rest_of_double accepted inductionHypothesis
          · rw [finish, readAll_short double] at accepted
            obtain ⟨next, read, -⟩ := bind_eq_ok.mp accepted
            obtain ⟨_, read, -⟩ := bind_eq_ok.mp read
            exact absurd read (short_ne_ok _ _)

theorem parse_eq_ok_iff {arguments : List (List UInt8)} :
    parse arguments = .ok options ↔
      ∃ line closing, Lists options line ∧ Closing closing ∧
        arguments = written line ++ closing := by
  constructor
  · intro accepted
    cases @rest_of_finish ⟨none, .none⟩ _ _ accepted with
    | @line line closing sound closes =>
        refine ⟨line, closing, ?_, closes, rfl⟩
        rwa [lists_iff sound, ← parse_written sound closes]
    | value waits => cases waits
  · rintro ⟨line, closing, lists, closes, rfl⟩
    rw [parse_written lists.sound closes]
    exact (lists_iff lists.sound).mp lists

end Accepting

section Configuration

/-- The script that options ask for; only a file that is named for it can be in error. -/
def scripted (options : Options) (files : FileSystem) : Except Error Script :=
  match options.value .script with
  | .none => .ok Script.standard
  | some path => Script.load files path 150

/-- The configuration that options ask for, by the documented defaults. -/
def configured (options : Options) (script : Script) : Config where
  romDir := (options.value .romDir).getD (.ofString "roms")
  snapshot := (options.value .snapshot).getD (.ofString "roms/tmp.z80")
  outputDir := (options.value .outputDir).getD (.ofString ".")
  script := script
  captureTick := 150
  upscale := !options.flag .noUpscale
  grid := !options.flag .noGrid
  is48k := options.flag .model48k

theorem ofOptions_eq (options : Options) (files : FileSystem) :
    Config.ofOptions options files = (options.scripted files).map options.configured := by
  unfold Config.ofOptions scripted
  cases options.value .script with
  | none => rfl
  | some path =>
      change Script.load files path Config.standardCaptureTick >>= _ =
        (Script.load files path Config.standardCaptureTick).map _
      cases Script.load files path Config.standardCaptureTick <;> rfl

/-- A line that gives something again is refused for the first thing it gives again. -/
theorem parse_repeated {line : List Given} (sound : ∀ given ∈ line, given.Sound)
    (repeats : ¬ (line.map Given.switch).Nodup) :
    ∃ seen again rest, line = seen ++ again :: rest ∧ again.switch ∈ seen.map Given.switch ∧
      parse (written line) = .error (.error (.repeated again.usage)) := by
  have outcome := outcome_of_sound sound none
  have parsed := parse_written sound (.inl rfl)
  rw [List.append_nil] at parsed
  rw [parsed]
  generalize line.foldlM Given.take none = result at outcome
  cases outcome with
  | taken once => exact absurd once repeats
  | @refused seen rest again split before =>
      exact ⟨seen, again, rest, split, before.resolve_left (not_holds_none again), rfl⟩

/-- Every choice of flags and of values that are not empty can be given. -/
theorem exists_lists {options : Options}
    (full : ∀ opt value, options.value opt = some value → value.bytes ≠ []) :
    ∃ line, Lists options line := by
  let opts := Opt.all.filter fun opt => (options.value opt).isSome
  let flags := Flag.all.filter options.flag
  let valued := opts.map fun opt => Given.joined opt ((options.value opt).getD ⟨[]⟩)
  have all_opt (opt : Opt) : opt ∈ Opt.all := by cases opt <;> decide
  have all_flag (flag : Flag) : flag ∈ Flag.all := by cases flag <;> decide
  have once : (Opt.all.map Switch.opt ++ Flag.all.map Switch.flag).Nodup := by decide
  refine ⟨valued ++ flags.map Given.raised, ?_, ?_, fun opt value => ?_, fun flag => ?_⟩
  · intro given member
    rcases List.mem_append.mp member with member | member
    · obtain ⟨opt, given, rfl⟩ := List.mem_map.mp member
      obtain ⟨value, same⟩ := Option.isSome_iff_exists.mp (List.mem_filter.mp given).2
      simpa [Given.Sound, same] using full opt value same
    · obtain ⟨flag, -, rfl⟩ := List.mem_map.mp member
      trivial
  · have switches : (valued ++ flags.map Given.raised).map Given.switch =
        opts.map Switch.opt ++ flags.map Switch.flag := by
      simp [valued, Function.comp_def, Given.switch]
    rw [switches]
    exact ((List.filter_sublist.map _).append (List.filter_sublist.map _)).nodup once
  · suffices options.value opt = some value ↔ ∃ other, (∃ held, options.value other = some held) ∧
        other = opt ∧ (options.value other).getD ⟨[]⟩ = value by
      simpa [valued, opts, all_opt, Option.isSome_iff_exists] using this
    constructor
    · intro given
      exact ⟨opt, ⟨value, given⟩, rfl, by rw [given, Option.getD_some]⟩
    · rintro ⟨_, ⟨held, given⟩, rfl, rfl⟩
      rw [given, Option.getD_some]
  · simp [valued, flags, all_flag]

/-- Options that a line gives, each of them once, in any order and written either way, are read and
make the configuration; a line that gives one again is refused, and whatever else is read is such a
line, too. -/
theorem config_of_line :
    (∀ options line, Lists options line →
      parse (written line) = .ok options ∧
        ∀ files, Config.ofOptions options files =
          (options.scripted files).map options.configured) ∧
      (∀ line : List Given, (∀ given ∈ line, given.Sound) → ¬ (line.map Given.switch).Nodup →
        ∃ seen again rest, line = seen ++ again :: rest ∧ again.switch ∈ seen.map Given.switch ∧
          parse (written line) = .error (.error (.repeated again.usage))) ∧
      ∀ arguments options, parse arguments = .ok options →
        ∃ line closing, Lists options line ∧ Closing closing ∧
          arguments = written line ++ closing := by
  refine ⟨fun options line lists => ⟨?_, ofOptions_eq options⟩,
    fun line sound repeats => parse_repeated sound repeats,
    fun arguments options accepted => parse_eq_ok_iff.mp accepted⟩
  exact parse_eq_ok_iff.mpr ⟨line, [], lists, .inl rfl, (List.append_nil _).symm⟩

theorem config_of_line_awkward :
    let options : Options := {
      value := fun
        | .romDir => some (.ofString "--no-grid=yes")
        | .snapshot => some ⟨[0xFF, equals]⟩
        | _ => .none
      flag := (· == .noUpscale) }
    let line : List Given := [.apart .snapshot ⟨[0xFF, equals]⟩, .raised .noUpscale,
      .joined .romDir (.ofString "--no-grid=yes")]
    Lists options line ∧ parse (written line) = .ok options ∧
      ∀ files, Config.ofOptions options files = .ok (options.configured Script.standard) := by
  intro options line
  have lists : Lists options line := by
    refine ⟨by decide, by decide, fun opt value => ?_, fun flag => ?_⟩
    · cases opt <;> simp [options, line, eq_comm]
    · simp [options, line]
  have read := config_of_line.1 options line lists
  exact ⟨lists, read.1, read.2⟩

end Configuration

end FrameCycle.Options
