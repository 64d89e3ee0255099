import FrameCycle.Path
import Mathlib.Data.List.DropRight

/-!
The segments of a path between its slashes, and the names that are left of them. A path that is
written from some of the segments of another is no longer than it.
-/
namespace FrameCycle.Path

theorem slash_notMem_of_mem_splitOn {bytes name : List UInt8}
    (member : name ∈ bytes.splitOn slash) : slash ∉ name := by
  induction bytes generalizing name with
  | nil =>
      rw [List.splitOn_nil, List.mem_singleton] at member
      simp [member]
  | cons byte rest inductionHypothesis =>
      rw [List.splitOn_cons_eq_if_modifyHead] at member
      split at member
      · rcases List.mem_cons.mp member with rfl | later
        · simp
        · exact inductionHypothesis later
      · next other =>
          obtain ⟨first, others, split⟩ :=
            List.exists_cons_of_ne_nil (List.splitOn_ne_nil slash rest)
          rw [split] at member inductionHypothesis
          rcases List.mem_cons.mp member with rfl | later
          · intro inside
            rcases List.mem_cons.mp inside with same | inside
            · exact other (by simp [same])
            · exact inductionHypothesis List.mem_cons_self inside
          · exact inductionHypothesis (List.mem_cons_of_mem _ later)

theorem length_intercalate_cons (segment : List UInt8) {rest : List (List UInt8)}
    (more : rest ≠ []) :
    ([slash].intercalate (segment :: rest)).length =
      segment.length + 1 + ([slash].intercalate rest).length := by
  obtain ⟨next, rest, rfl⟩ := List.exists_cons_of_ne_nil more
  rw [List.intercalate_cons_cons, List.length_append, List.length_append, List.length_singleton]

theorem length_intercalate_le {inner outer : List (List UInt8)} (sublist : inner.Sublist outer) :
    ([slash].intercalate inner).length ≤ ([slash].intercalate outer).length := by
  induction sublist with
  | slnil => exact Nat.le_refl _
  | @cons inner outer segment sublist inductionHypothesis =>
      cases outer with
      | nil => simp [List.sublist_nil.mp sublist]
      | cons next rest =>
          rw [length_intercalate_cons segment (List.cons_ne_nil next rest)]
          exact Nat.le_trans inductionHypothesis (Nat.le_add_left _ _)
  | @cons_cons inner outer segment sublist inductionHypothesis =>
      cases outer with
      | nil => simp [List.sublist_nil.mp sublist]
      | cons next rest =>
          rw [length_intercalate_cons segment (List.cons_ne_nil next rest)]
          cases inner with
          | nil =>
              rw [List.intercalate_singleton, Nat.add_assoc]
              exact Nat.le_add_right _ _
          | cons first others =>
              rw [length_intercalate_cons segment (List.cons_ne_nil first others)]
              exact Nat.add_le_add_left inductionHypothesis _

theorem intercalate_segments (path : Path) : [slash].intercalate path.segments = path.bytes :=
  List.intercalate_splitOn slash

theorem mem_intercalate {byte : UInt8} (other : byte ≠ slash) {segments : List (List UInt8)} :
    byte ∈ [slash].intercalate segments ↔ ∃ segment ∈ segments, byte ∈ segment := by
  induction segments with
  | nil => simp
  | cons segment rest inductionHypothesis =>
      cases rest with
      | nil => simp
      | cons next rest =>
          rw [List.intercalate_cons_cons, List.mem_append, List.mem_append, inductionHypothesis,
            List.mem_singleton]
          simp [other]

theorem mem_bytes_iff {byte : UInt8} (other : byte ≠ slash) (path : Path) :
    byte ∈ path.bytes ↔ ∃ segment ∈ path.segments, byte ∈ segment := by
  rw [← mem_intercalate other, intercalate_segments]

/-- What stands in front of the names of a path. -/
def root (absolute : Bool) : List (List UInt8) :=
  if absolute then [[]] else []

section OfNames

variable {whole : Path} {absolute : Bool} {names : List (List UInt8)}

theorem plain_of_within (within : (root absolute ++ names).Sublist whole.segments) :
    ∀ name ∈ names, slash ∉ name := fun _ member =>
  slash_notMem_of_mem_splitOn (within.subset (List.mem_append_right _ member))

theorem segments_ofNames (some : names ≠ [])
    (within : (root absolute ++ names).Sublist whole.segments) :
    (ofNames absolute names).segments = root absolute ++ names := by
  have split : ([slash].intercalate names).splitOn slash = names :=
    List.splitOn_intercalate slash (plain_of_within within) some
  cases absolute with
  | false => exact split
  | true =>
      change (slash :: [slash].intercalate names).splitOn slash = [] :: names
      rw [List.splitOn_cons_eq_if_modifyHead, split]
      rfl

theorem isAbsolute_ofNames (some : names ≠ []) (full : ∀ name ∈ names, name ≠ [])
    (within : (root absolute ++ names).Sublist whole.segments) :
    (ofNames absolute names).isAbsolute = absolute := by
  have plain := plain_of_within within
  cases absolute with
  | true => rfl
  | false =>
      obtain ⟨name, rest, rfl⟩ := List.exists_cons_of_ne_nil some
      obtain ⟨byte, bytes, rfl⟩ := List.exists_cons_of_ne_nil (full name List.mem_cons_self)
      have other : byte ≠ slash := by
        rintro rfl
        exact plain _ List.mem_cons_self List.mem_cons_self
      cases rest <;> simpa [isAbsolute, ofNames, List.intercalate_cons_cons] using other

/-- A path that is written from some of the segments of another is no longer. -/
theorem length_ofNames_le (some : names ≠ [])
    (within : (root absolute ++ names).Sublist whole.segments) :
    (ofNames absolute names).bytes.length ≤ whole.bytes.length := by
  rw [← segments_ofNames some within] at within
  simpa only [intercalate_segments] using length_intercalate_le within

theorem mem_of_mem_ofNames {byte : UInt8} (other : byte ≠ slash) (some : names ≠ [])
    (within : (root absolute ++ names).Sublist whole.segments)
    (member : byte ∈ (ofNames absolute names).bytes) : byte ∈ whole.bytes := by
  obtain ⟨segment, inside, member⟩ := (mem_bytes_iff other _).mp member
  rw [segments_ofNames some within] at inside
  exact (mem_bytes_iff other whole).mpr ⟨segment, within.subset inside, member⟩

end OfNames

/-- A name that a path goes on by. -/
def isStep (name : List UInt8) : Bool :=
  !name.isEmpty && name != dot

theorem segments_of_isAbsolute {path : Path} (absolute : path.isAbsolute = true) :
    ∃ rest, path.segments = [] :: rest := by
  unfold segments
  unfold isAbsolute at absolute
  cases given : path.bytes with
  | nil => simp [given] at absolute
  | cons byte rest =>
      obtain rfl : byte = slash := by simpa [given] using absolute
      exact ⟨rest.splitOn slash, by rw [List.splitOn_cons_eq_if_modifyHead, if_pos (by simp)]⟩

/-- The names of a path are some of its segments. -/
theorem names_sublist (path : Path) :
    (root path.isAbsolute ++ path.names).Sublist path.segments := by
  cases absolute : path.isAbsolute with
  | true =>
      obtain ⟨rest, split⟩ := segments_of_isAbsolute absolute
      have steps : path.names = rest.filter isStep := by
        simp only [names, split]
        rfl
      rw [split, steps]
      exact List.filter_sublist.cons_cons []
  | false =>
      obtain ⟨first, rest, split⟩ :=
        List.exists_cons_of_ne_nil (List.splitOn_ne_nil slash path.bytes)
      change path.segments = first :: rest at split
      rw [root, if_neg Bool.false_ne_true, List.nil_append]
      by_cases opens : first = dot
      · have steps : path.names = dot :: rest.filter isStep := by
          simp only [names, split, opens]
          rfl
        rw [split, steps, opens]
        exact List.filter_sublist.cons_cons dot
      · have steps : path.names = (first :: rest).filter isStep := by
          have unopened : (some first == some dot) = false := by simpa using opens
          simp only [names, split, List.head?_cons, unopened]
          rfl
        rw [split, steps]
        exact List.filter_sublist

theorem ne_nil_of_mem_names {path : Path} {name : List UInt8} (member : name ∈ path.names) :
    name ≠ [] := by
  simp only [names] at member
  rcases List.mem_append.mp member with opening | step
  · split at opening
    · rw [List.mem_singleton.mp opening]
      decide
    · simp at opening
  · have := (List.mem_filter.mp step).2
    rintro rfl
    simp at this

/-- The last segment that is not empty is a dot. -/
def EndsInDot (path : Path) : Prop :=
  (path.segments.rdropWhile List.isEmpty).getLast? = some dot

theorem segments_trimmed (path : Path) : ∃ slashes,
    path.segments = path.segments.rdropWhile List.isEmpty ++ List.replicate slashes [] := by
  refine ⟨(path.segments.rtakeWhile List.isEmpty).length, ?_⟩
  have slashes := List.eq_replicate_of_mem fun segment
      (member : segment ∈ path.segments.rtakeWhile List.isEmpty) =>
    List.isEmpty_iff.mp (List.mem_rtakeWhile_imp member)
  rw [← slashes, List.rdropWhile_append_rtakeWhile]

theorem names_eq (path : Path) : ∃ opening, (∀ name ∈ opening, name = [] ∨ name = dot) ∧
    path.names = opening ++ path.segments.filter isStep := by
  refine ⟨if path.segments.head? == some dot then [dot] else [], ?_, rfl⟩
  split <;> simp

/-- The last name is the last segment that is not empty, unless that is a dot. -/
theorem names_of_split {path : Path} {before : List (List UInt8)} {name : List UInt8}
    {slashes : Nat} (split : path.segments = before ++ name :: List.replicate slashes [])
    (full : name ≠ []) (notDot : name ≠ dot) :
    ∃ opening, (∀ name ∈ opening, name = [] ∨ name = dot) ∧
      path.names = (opening ++ before.filter isStep) ++ [name] := by
  obtain ⟨opening, idle, names⟩ := path.names_eq
  have step : isStep name = true := by simp [isStep, full, notDot]
  have blank : (List.replicate slashes ([] : List UInt8)).filter isStep = [] := by
    simp [isStep]
  refine ⟨opening, idle, ?_⟩
  rw [names, split, List.filter_append, List.filter_cons_of_pos step, blank, List.append_assoc]

end FrameCycle.Path
