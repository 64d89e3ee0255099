import FrameCycle.Proofs.Resolution
import FrameCycle.Proofs.Segments

/-!
Making a directory together with those it lies in. It can be made where a way along the names of its
path can be paved: through directories that are there, and through new ones where nothing is. Once
it has been made, the path leads to it.
-/
namespace FrameCycle.FileSystem

/-- A way along names that is paved where it is missing: a directory is made wherever a name stands
for nothing. -/
inductive Paves : FileSystem → Place → List (List UInt8) → FileSystem → Place → Prop where
  | here {files : FileSystem} {place : Place} : Paves files place [] files place
  | stay {files made : FileSystem} {place last : Place} {name : List UInt8}
      {rest : List (List UInt8)} :
      name = [] ∨ name = Path.dot → Paves files place rest made last →
      Paves files place (name :: rest) made last
  | up {files made : FileSystem} {place last : Place} {rest : List (List UInt8)} :
      Paves files place.dropLast rest made last →
      Paves files place (Path.dotDot :: rest) made last
  | down {files made : FileSystem} {place last : Place} {name : List UInt8}
      {rest : List (List UInt8)} :
      name ≠ [] → name ≠ Path.dot → name ≠ Path.dotDot → name.length ≤ nameLimit →
      files.node? (place ++ [name]) = some .directory →
      Paves files (place ++ [name]) rest made last → Paves files place (name :: rest) made last
  | make {files made : FileSystem} {place last : Place} {name : List UInt8}
      {rest : List (List UInt8)} :
      name ≠ [] → name ≠ Path.dot → name ≠ Path.dotDot → name.length ≤ nameLimit →
      files.node? (place ++ [name]) = none →
      Paves (files.put (place ++ [name]) .directory) (place ++ [name]) rest made last →
      Paves files place (name :: rest) made last

variable {files made : FileSystem} {place last : Place} {names : List (List UInt8)}

theorem grown_put {directory : Place} (named : directory ≠ [])
    (missing : files.node? directory = none) : Grown files (files.put directory .directory) := by
  refine ⟨rfl, fun other => ?_⟩
  rw [node?_put files named]
  by_cases same : other = directory
  · rw [if_pos same, same]
    exact .inr ⟨missing, rfl⟩
  · exact .inl (if_neg same)

theorem Grown.directory (grown : Grown files made)
    (there : files.node? place = some .directory) : made.node? place = some .directory := by
  rcases grown.nodes place with same | ⟨missing, -⟩
  · rw [same, there]
  · cases missing.symm.trans there

namespace Paves

theorem grown (paves : Paves files place names made last) : Grown files made := by
  induction paves with
  | here => exact .refl _
  | stay idle _ inductionHypothesis => exact inductionHypothesis
  | up _ inductionHypothesis => exact inductionHypothesis
  | down full notDot notDotDot fits there _ inductionHypothesis => exact inductionHypothesis
  | make full notDot notDotDot fits missing _ inductionHypothesis =>
      exact (grown_put (by simp) missing).trans inductionHypothesis

/-- A way that has been paved is there. -/
theorem leads (paves : Paves files place names made last) : made.Leads place names last := by
  induction paves with
  | here => exact .here
  | stay idle _ inductionHypothesis => exact .stay idle inductionHypothesis
  | up _ inductionHypothesis => exact .up inductionHypothesis
  | down full notDot notDotDot fits there paves inductionHypothesis =>
      exact .down full notDot notDotDot fits (paves.grown.directory there) inductionHypothesis
  | @make files made place last name rest full notDot notDotDot fits missing paves
      inductionHypothesis =>
      have there : (files.put (place ++ [name]) .directory).node? (place ++ [name]) =
          some .directory := by
        rw [node?_put files (by simp), if_pos rfl]
      exact .down full notDot notDotDot fits (paves.grown.directory there) inductionHypothesis

theorem of_leads (leads : files.Leads place names last) : Paves files place names files last := by
  induction leads with
  | here => exact .here
  | stay idle _ inductionHypothesis => exact .stay idle inductionHypothesis
  | up _ inductionHypothesis => exact .up inductionHypothesis
  | down full notDot notDotDot fits there _ inductionHypothesis =>
      exact .down full notDot notDotDot fits there inductionHypothesis

/-- Where a way can be paved it is there already, or a name on it is missing. -/
theorem walk_eq (paves : Paves files place names made last) :
    files.walk place names = .ok last ∧ made = files ∨
      files.walk place names = .error .notFound := by
  induction paves with
  | here => exact .inl ⟨rfl, rfl⟩
  | stay idle _ inductionHypothesis =>
      simpa only [walk, List.isEmpty_iff, if_pos idle] using inductionHypothesis
  | up _ inductionHypothesis =>
      rw [walk, if_neg (by decide), if_pos rfl]
      exact inductionHypothesis
  | down full notDot notDotDot fits there _ inductionHypothesis =>
      simpa only [walk, List.isEmpty_iff, full, notDot, or_self, if_false, notDotDot, entry?,
        Nat.not_lt.mpr fits, there] using inductionHypothesis
  | make full notDot notDotDot fits missing _ _ =>
      simp only [walk, List.isEmpty_iff, full, notDot, or_self, if_false, notDotDot, entry?,
        Nat.not_lt.mpr fits, missing, or_true]

theorem eq_of_leads {reached : Place} (paves : Paves files place names made last)
    (leads : files.Leads place names reached) : made = files ∧ last = reached := by
  have walked := walk_eq_ok_iff.mpr leads
  rcases paves.walk_eq with ⟨same, unchanged⟩ | failed
  · exact ⟨unchanged, Except.ok.inj (same.symm.trans walked)⟩
  · cases failed.symm.trans walked

theorem append_iff {first second : List (List UInt8)} :
    Paves files place (first ++ second) made last ↔ ∃ between middle,
      Paves files place first between middle ∧ Paves between middle second made last := by
  constructor
  · intro paves
    induction first generalizing files place with
    | nil => exact ⟨files, place, .here, paves⟩
    | cons name rest inductionHypothesis =>
        cases paves with
        | stay idle paves =>
            obtain ⟨between, middle, begun, ended⟩ := inductionHypothesis paves
            exact ⟨between, middle, .stay idle begun, ended⟩
        | up paves =>
            obtain ⟨between, middle, begun, ended⟩ := inductionHypothesis paves
            exact ⟨between, middle, .up begun, ended⟩
        | down full notDot notDotDot fits there paves =>
            obtain ⟨between, middle, begun, ended⟩ := inductionHypothesis paves
            exact ⟨between, middle, .down full notDot notDotDot fits there begun, ended⟩
        | make full notDot notDotDot fits missing paves =>
            obtain ⟨between, middle, begun, ended⟩ := inductionHypothesis paves
            exact ⟨between, middle, .make full notDot notDotDot fits missing begun, ended⟩
  · rintro ⟨between, middle, begun, ended⟩
    induction begun with
    | here => exact ended
    | stay idle _ inductionHypothesis => exact .stay idle (inductionHypothesis ended)
    | up _ inductionHypothesis => exact .up (inductionHypothesis ended)
    | down full notDot notDotDot fits there _ inductionHypothesis =>
        exact .down full notDot notDotDot fits there (inductionHypothesis ended)
    | make full notDot notDotDot fits missing _ inductionHypothesis =>
        exact .make full notDot notDotDot fits missing (inductionHypothesis ended)

theorem nil_iff : (∃ last, Paves files place [] made last) ↔ files = made := by
  constructor
  · rintro ⟨last, paves⟩
    cases paves
    rfl
  · rintro rfl
    exact ⟨place, .here⟩

theorem concat_iff {name : List UInt8} :
    (∃ last, Paves files place (names ++ [name]) made last) ↔ ∃ between middle,
      Paves files place names between middle ∧ ∃ last, Paves between middle [name] made last := by
  constructor
  · rintro ⟨last, paves⟩
    obtain ⟨between, middle, begun, ended⟩ := append_iff.mp paves
    exact ⟨between, middle, begun, last, ended⟩
  · rintro ⟨between, middle, begun, last, ended⟩
    exact ⟨last, append_iff.mpr ⟨between, middle, begun, ended⟩⟩

end Paves

section Walks

theorem walk_filter (names : List (List UInt8)) :
    files.walk place (names.filter Path.isStep) = files.walk place names := by
  induction names generalizing place with
  | nil => rfl
  | cons name rest inductionHypothesis =>
      by_cases idle : name = [] ∨ name = Path.dot
      · have skipped : Path.isStep name = false := by
          rcases idle with rfl | rfl <;> rfl
        rw [List.filter_cons_of_neg (by simp [skipped]), inductionHypothesis]
        simp only [walk, List.isEmpty_iff, if_pos idle]
      · have kept : Path.isStep name = true := by
          obtain ⟨full, notDot⟩ := not_or.mp idle
          simp [Path.isStep, full, notDot]
        rw [List.filter_cons_of_pos kept]
        simp only [walk, List.isEmpty_iff, if_neg idle, inductionHypothesis]

theorem walk_opening {opening : List (List UInt8)}
    (idle : ∀ name ∈ opening, name = [] ∨ name = Path.dot) (names : List (List UInt8)) :
    files.walk place (opening ++ names) = files.walk place names := by
  induction opening with
  | nil => rfl
  | cons name rest inductionHypothesis =>
      obtain ⟨first, later⟩ := List.forall_mem_cons.mp idle
      rw [List.cons_append, ← inductionHypothesis later]
      simp only [walk, List.isEmpty_iff, if_pos first]

theorem walk_append (first second : List (List UInt8)) :
    files.walk place (first ++ second) =
      files.walk place first >>= fun middle => files.walk middle second := by
  induction first generalizing place with
  | nil => rfl
  | cons name rest inductionHypothesis =>
      simp only [List.cons_append, walk, inductionHypothesis]
      split
      · rfl
      split
      · rfl
      cases files.entry? place name with
      | error error => rfl
      | ok node =>
          rcases node with _ | _ | content <;> rfl

end Walks

section Ensure

variable {path : Path} {error : FileError} {before : List (List UInt8)} {name : List UInt8}

/-- Makes a directory, unless it is there. -/
def ensure (files : FileSystem) (path : Path) : Except FileError Unit × FileSystem :=
  match files.makeDirectory path with
  | .ok made => (.ok (), made)
  | .error error => (files.unlessDirectory path error, files)

/-- What keeps a path from being followed keeps its directory from being made. -/
structure Blocked (files : FileSystem) (path : Path) (error : FileError) : Prop where
  unmade : files.makeDirectory path = .error error
  missing : files.isDirectory path = false

theorem Blocked.ensure_eq (blocked : files.Blocked path error) :
    files.ensure path = (.error error, files) := by
  simp only [ensure, blocked.unmade, unlessDirectory, blocked.missing, Bool.false_eq_true, if_false]

theorem Blocked.ensure_ne (blocked : files.Blocked path error) :
    files.ensure path ≠ (.ok (), made) := by
  intro done
  cases blocked.ensure_eq.symm.trans done

theorem blocked_of_locate (located : files.locate path = .error error) :
    files.Blocked path error := by
  constructor <;> simp [makeDirectory, isDirectory, located, bind, Except.bind]

theorem makeDirectory_of_reached (reached : files.locate path = .ok (.reached place)) :
    files.makeDirectory path = .error .exists := by
  simp only [makeDirectory, reached]
  rfl

theorem ensure_of_reached (reached : files.locate path = .ok (.reached place)) :
    files.ensure path = (.ok (), files) := by
  have there : files.isDirectory path = true := by
    simp only [isDirectory, reached]
  simp only [ensure, makeDirectory_of_reached reached, unlessDirectory, if_pos there]

/-- One name is paved if its directory is there or nothing is. -/
theorem paves_singleton_iff (full : name ≠ []) (notDot : name ≠ Path.dot)
    (notDotDot : name ≠ Path.dotDot) :
    Paves files place [name] made last ↔ last = place ++ [name] ∧ name.length ≤ nameLimit ∧
      (files.node? (place ++ [name]) = some .directory ∧ made = files ∨
        files.node? (place ++ [name]) = none ∧
          made = files.put (place ++ [name]) .directory) := by
  constructor
  · intro paves
    cases paves with
    | stay idle _ => exact absurd idle (not_or.mpr ⟨full, notDot⟩)
    | up _ => exact absurd rfl notDotDot
    | down _ _ _ fits there paves =>
        cases paves
        exact ⟨rfl, fits, .inl ⟨there, rfl⟩⟩
    | make _ _ _ fits missing paves =>
        cases paves
        exact ⟨rfl, fits, .inr ⟨missing, rfl⟩⟩
  · rintro ⟨rfl, fits, ⟨there, rfl⟩ | ⟨missing, rfl⟩⟩
    · exact .down full notDot notDotDot fits there .here
    · exact .make full notDot notDotDot fits missing .here

theorem ensure_of_named {slashed : Bool} (full : name ≠ []) (notDot : name ≠ Path.dot)
    (notDotDot : name ≠ Path.dotDot)
    (named : files.locate path = .ok (.named place name slashed)) :
    files.ensure path = (.ok (), made) ↔ ∃ last, Paves files place [name] made last := by
  simp only [paves_singleton_iff full notDot notDotDot, exists_eq_left]
  by_cases long : nameLimit < name.length
  · have unentered : files.entry? place name = .error .nameTooLong := if_pos long
    have blocked : files.Blocked path .nameTooLong := by
      constructor <;> simp [makeDirectory, isDirectory, named, unentered, bind, Except.bind]
    simp [blocked.ensure_eq, Nat.not_le.mpr long]
  have entered : files.entry? place name = .ok (files.node? (place ++ [name])) := if_neg long
  cases found : files.node? (place ++ [name]) with
  | none =>
      have making : files.ensure path = (.ok (), files.put (place ++ [name]) .directory) := by
        simp [ensure, makeDirectory, named, entered, found, bind, Except.bind, pure, Except.pure]
      simp [making, Nat.not_lt.mp long, eq_comm]
  | some node =>
      have stands : files.makeDirectory path = .error .exists := by
        simp only [makeDirectory, named, entered, found, bind, Except.bind]
        rfl
      cases node with
      | directory =>
          have there : files.isDirectory path = true := by
            simp [isDirectory, named, entered, found, Node.isDirectory]
          have kept : files.ensure path = (.ok (), files) := by
            simp only [ensure, stands, unlessDirectory, if_pos there]
          simp [kept, Nat.not_lt.mp long, eq_comm]
      | file content =>
          have blocked : files.Blocked path .exists :=
            ⟨stands, by simp [isDirectory, named, entered, found, Node.isDirectory]⟩
          simp [blocked.ensure_eq]

end Ensure

section Chains

variable {path : Path} {outer : List Path} {error : FileError} {before : List (List UInt8)}
  {name : List UInt8}

theorem makeChain_of_ne_notFound (written : path.bytes ≠ [])
    (other : files.makeDirectory path ≠ .error .notFound) :
    makeChain (path :: outer) files = files.ensure path := by
  rw [makeChain, if_neg (by simpa using written)]
  cases made : files.makeDirectory path with
  | ok made => simp only [ensure, made]
  | error error => cases error <;> first | exact absurd made other | simp only [ensure, made]

theorem makeChain_of_notFound (written : path.bytes ≠ [])
    (missing : files.makeDirectory path = .error .notFound) :
    makeChain (path :: outer) files = (.ok (), made) ↔
      ∃ between, makeChain outer files = (.ok (), between) ∧
        between.ensure path = (.ok (), made) := by
  rw [makeChain, if_neg (by simpa using written), missing]
  rcases makeChain outer files with ⟨error | ⟨⟩, between⟩
  · simp
  · change between.ensure path = (.ok (), made) ↔ _
    simp

/-- A directory is made in the directories that it lies in, once they have been made. `steps` lead
to the directory that the path ends in, and `Ends` is what making its last name comes to there. -/
theorem makeChain_cons_iff (steps : List (List UInt8))
    (Ends : FileSystem → Place → FileSystem → Prop) (written : path.bytes ≠ [])
    (outward : ∀ made, makeChain outer files = (.ok (), made) ↔
      ∃ middle, Paves files place steps made middle)
    (blocked : ∀ error, files.walk place steps = .error error → files.Blocked path error)
    (ends : ∀ between middle, Grown files between → between.Leads place steps middle →
      ∀ made, between.ensure path = (.ok (), made) ↔ Ends between middle made) :
    makeChain (path :: outer) files = (.ok (), made) ↔
      ∃ between middle, Paves files place steps between middle ∧ Ends between middle made := by
  cases walked : files.walk place steps with
  | ok middle =>
      have leads := walk_eq_ok_iff.mp walked
      have settled := ends files middle (.refl files) leads made
      have only : (∃ between middle, Paves files place steps between middle ∧
          Ends between middle made) ↔ Ends files middle made := by
        constructor
        · rintro ⟨between, last, paves, ended⟩
          obtain ⟨rfl, rfl⟩ := paves.eq_of_leads leads
          exact ended
        · exact fun ended => ⟨files, middle, .of_leads leads, ended⟩
      rw [only, ← settled]
      by_cases missing : files.makeDirectory path = .error .notFound
      · rw [makeChain_of_notFound written missing]
        constructor
        · rintro ⟨between, done, ended⟩
          obtain ⟨last, paves⟩ := (outward between).mp done
          obtain ⟨rfl, rfl⟩ := paves.eq_of_leads leads
          exact ended
        · exact fun ended => ⟨files, (outward files).mpr ⟨middle, .of_leads leads⟩, ended⟩
      · rw [makeChain_of_ne_notFound written missing]
  | error error =>
      have stops := blocked error walked
      by_cases missing : error = .notFound
      · subst missing
        rw [makeChain_of_notFound written stops.unmade]
        constructor
        · rintro ⟨between, done, ended⟩
          obtain ⟨middle, paves⟩ := (outward between).mp done
          exact ⟨between, middle, paves,
            (ends between middle paves.grown paves.leads made).mp ended⟩
        · rintro ⟨between, middle, paves, ended⟩
          exact ⟨between, (outward between).mpr ⟨middle, paves⟩,
            (ends between middle paves.grown paves.leads made).mpr ended⟩
      · have other : files.makeDirectory path ≠ .error .notFound := by
          simpa [stops.unmade] using missing
        rw [makeChain_of_ne_notFound written other]
        constructor
        · exact fun done => absurd done stops.ensure_ne
        · rintro ⟨between, middle, paves, -⟩
          rcases paves.walk_eq with ⟨reached, -⟩ | failed
          · cases walked.symm.trans reached
          · exact absurd (Except.error.inj (walked.symm.trans failed)) missing

/-- What it takes to make the directory that a path ends with, once the way before is there. -/
theorem ensure_iff {slashes : Nat} (noNul : 0 ∉ path.bytes) (short : path.bytes.length < pathLimit)
    (split : path.segments = before ++ name :: List.replicate slashes []) (full : name ≠ [])
    (leads : files.Leads (files.start path) before place) :
    files.ensure path = (.ok (), made) ↔ ∃ last, Paves files place [name] made last := by
  have located : files.locate path = _ := locate_eq slashes noNul short split full
  rw [walk_eq_ok_iff.mpr leads] at located
  by_cases turns : name = Path.dot ∨ name = Path.dotDot
  · obtain ⟨last, steps⟩ : ∃ last, files.Leads place [name] last := by
      rcases turns with rfl | rfl
      · exact ⟨place, .stay (.inr rfl) .here⟩
      · exact ⟨place.dropLast, .up .here⟩
    have reached : files.locate path = .ok (.reached last) := by
      rw [located]
      simp only [bind, Except.bind, if_pos turns, walk_eq_ok_iff.mpr steps]
    rw [ensure_of_reached reached]
    constructor
    · intro same
      cases same
      exact ⟨last, .of_leads steps⟩
    · rintro ⟨other, paves⟩
      rw [(paves.eq_of_leads steps).1]
  · obtain ⟨notDot, notDotDot⟩ := not_or.mp turns
    have named : files.locate path = .ok (.named place name (slashes != 0)) := by
      rw [located]
      simp only [bind, Except.bind, if_neg turns]
    exact ensure_of_named full notDot notDotDot named

theorem blocked_of_walk {slashes : Nat} (noNul : 0 ∉ path.bytes)
    (short : path.bytes.length < pathLimit)
    (split : path.segments = before ++ name :: List.replicate slashes []) (full : name ≠ [])
    (walked : files.walk (files.start path) before = .error error) : files.Blocked path error := by
  apply blocked_of_locate
  rw [locate_eq slashes noNul short split full, walked]
  rfl

theorem Grown.start_eq (grown : Grown files made) (path : Path) :
    made.start path = files.start path := by
  rw [start, start, grown.workDir_eq]

/-- Where a chain of directories starts. -/
def origin (files : FileSystem) (absolute : Bool) : Place :=
  if absolute then [] else files.workDir

/-- Each of the directories along the names of a path is made after those before it. -/
theorem makeChain_prefixes_iff {whole : Path} (noNul : 0 ∉ whole.bytes)
    (short : whole.bytes.length < pathLimit) {absolute : Bool} {names : List (List UInt8)}
    (within : (Path.root absolute ++ names).Sublist whole.segments)
    (full : ∀ name ∈ names, name ≠ []) (after : List (List UInt8)) (made : FileSystem) :
    makeChain ((List.range (names.length + 1)).reverse.map fun count =>
        .ofNames absolute ((names ++ after).take count)) files = (.ok (), made) ↔
      ∃ last, Paves files (files.origin absolute) names made last := by
  induction names using List.reverseRecOn generalizing after made with
  | nil =>
      have here : makeChain [.ofNames absolute []] files = (.ok (), files) := by
        cases absolute with
        | false => rfl
        | true =>
            have root : files.locate (.ofNames true []) = .ok (.reached []) := rfl
            have stands := makeDirectory_of_reached root
            rw [makeChain_of_ne_notFound (by simp [Path.ofNames]) (by simp [stands]),
              ensure_of_reached root]
      rw [Paves.nil_iff]
      constructor
      · intro same
        cases here.symm.trans same
        rfl
      · rintro rfl
        exact here
  | append_singleton names name inductionHypothesis =>
      let inner := Path.ofNames absolute (names ++ [name])
      have some : names ++ [name] ≠ [] := by simp
      have shorter : inner.bytes.length < pathLimit :=
        Nat.lt_of_le_of_lt (Path.length_ofNames_le some within) short
      have clean : 0 ∉ inner.bytes := fun nul =>
        noNul (Path.mem_of_mem_ofNames (by decide) some within nul)
      have split : inner.segments =
          (Path.root absolute ++ names) ++ name :: List.replicate 0 [] := by
        rw [Path.segments_ofNames some within, List.append_assoc]
        rfl
      have ends : name ≠ [] := full name (by simp)
      have starts : ∀ between : FileSystem, between.start inner = between.origin absolute :=
        fun between => by
          rw [start, Path.isAbsolute_ofNames some full within]
          rfl
      have skips : ∀ between : FileSystem, ∀ place,
          between.walk place (Path.root absolute ++ names) = between.walk place names :=
        fun between place => walk_opening (by cases absolute <;> simp [Path.root]) names
      have chained : ((List.range ((names ++ [name]).length + 1)).reverse.map fun count =>
          Path.ofNames absolute ((names ++ [name] ++ after).take count)) =
          inner :: (List.range (names.length + 1)).reverse.map fun count =>
            .ofNames absolute ((names ++ name :: after).take count) := by
        rw [List.length_append, List.range_succ, List.reverse_append]
        simp [List.take_append, List.take_of_length_le, inner]
      have earlier : (Path.root absolute ++ names).Sublist whole.segments :=
        List.Sublist.trans (by rw [← List.append_assoc]; exact List.sublist_append_left _ _) within
      rw [chained, makeChain_cons_iff names fun between place made =>
        ∃ last, Paves between place [name] made last]
      · exact Paves.concat_iff.symm
      · exact bytes_ne_nil split ends
      · exact inductionHypothesis earlier (fun part member => full part (by simp [member])) _
      · intro error walked
        refine blocked_of_walk clean shorter split ends ?_
        rw [starts, skips, walked]
      · intro between middle grown leads made
        refine ensure_iff clean shorter split ends ?_
        rw [← walk_eq_ok_iff, starts, skips, walk_eq_ok_iff]
        rwa [origin, grown.workDir_eq]

theorem makeChain_enclosing_iff (noNul : 0 ∉ path.bytes) (short : path.bytes.length < pathLimit)
    (made : FileSystem) :
    makeChain (enclosing path) files = (.ok (), made) ↔
      ∃ last, Paves files (files.start path) path.names.dropLast made last := by
  rcases List.eq_nil_or_concat' path.names with none | ⟨names, name, some⟩
  · have unenclosed : enclosing path = [] := by simp [enclosing, none]
    rw [unenclosed, none, List.dropLast_nil, Paves.nil_iff]
    simp [makeChain]
  · have within : (Path.root path.isAbsolute ++ names).Sublist path.segments := by
      refine List.Sublist.trans ?_ path.names_sublist
      rw [some]
      exact (List.sublist_append_left names [name]).append_left _
    have full : ∀ part ∈ names, part ≠ [] := fun part member =>
      Path.ne_nil_of_mem_names (some ▸ List.mem_append_left [name] member)
    rw [enclosing, some, List.dropLast_concat, List.length_append]
    exact makeChain_prefixes_iff noNul short within full [name] made

end Chains

section Makes

/-- A path's directory can be made: along its names a way can be paved from where it starts. Where
it ends in a dot the last name itself must be there. -/
structure Makes (files : FileSystem) (path : Path) (made : FileSystem) (last : Place) : Prop where
  noNul : 0 ∉ path.bytes
  short : path.bytes.length < pathLimit
  paves : ¬ path.EndsInDot → Paves files (files.start path) path.names made last
  dotted : path.EndsInDot → ∃ directory,
    Paves files (files.start path) path.names.dropLast made directory ∧
      made.Leads directory path.names.getLast?.toList last

variable {path : Path} {before : List (List UInt8)} {name : List UInt8}

theorem Makes.grown (makes : files.Makes path made last) : Grown files made := by
  by_cases ends : path.EndsInDot
  · obtain ⟨directory, paves, -⟩ := makes.dotted ends
    exact paves.grown
  · exact (makes.paves ends).grown

theorem walk_dropLast (files : FileSystem) (place : Place) (names : List (List UInt8)) :
    files.walk place names = files.walk place names.dropLast >>= fun middle =>
      files.walk middle names.getLast?.toList := by
  rw [← walk_append]
  rcases List.eq_nil_or_concat' names with rfl | ⟨before, name, rfl⟩ <;> simp

/-- Once the directory has been made, its path leads to it. -/
theorem Makes.leads (makes : files.Makes path made last) :
    made.Leads (made.start path) path.names last := by
  rw [makes.grown.start_eq]
  by_cases ends : path.EndsInDot
  · obtain ⟨directory, paves, further⟩ := makes.dotted ends
    rw [← walk_eq_ok_iff, walk_dropLast, walk_eq_ok_iff.mpr paves.leads]
    exact walk_eq_ok_iff.mpr further
  · exact (makes.paves ends).leads

theorem walk_names (files : FileSystem) (place : Place) (path : Path) :
    files.walk place path.names = files.walk place path.segments := by
  obtain ⟨opening, idle, names⟩ := path.names_eq
  rw [names, walk_opening idle, walk_filter]

theorem makeDirectories_of_blocked {error : FileError} (written : path.bytes ≠ [])
    (blocked : files.Blocked path error) (other : error ≠ .notFound) :
    files.makeDirectories path ≠ (.ok (), made) := by
  rw [makeDirectories, makeChain_of_ne_notFound written (by simpa [blocked.unmade] using other)]
  exact blocked.ensure_ne

theorem makeDirectories_of_plain {slashes : Nat} (noNul : 0 ∉ path.bytes)
    (short : path.bytes.length < pathLimit)
    (split : path.segments = before ++ name :: List.replicate slashes []) (full : name ≠ [])
    (notDot : name ≠ Path.dot) :
    files.makeDirectories path = (.ok (), made) ↔
      ∃ last, Paves files (files.start path) path.names made last := by
  obtain ⟨opening, idle, names⟩ := Path.names_of_split split full notDot
  have way : ∀ between : FileSystem, ∀ place,
      between.walk place path.names.dropLast = between.walk place before := fun between place => by
    rw [names, List.dropLast_concat, walk_opening idle, walk_filter]
  rw [makeDirectories, makeChain_cons_iff path.names.dropLast fun between place made =>
    ∃ last, Paves between place [name] made last]
  · rw [names, List.dropLast_concat, Paves.concat_iff]
  · exact bytes_ne_nil split full
  · exact makeChain_enclosing_iff noNul short
  · intro error walked
    exact blocked_of_walk noNul short split full (way files _ ▸ walked)
  · intro between middle grown leads made
    refine ensure_iff noNul short split full ?_
    rw [grown.start_eq, ← walk_eq_ok_iff, ← way, walk_eq_ok_iff.mpr leads]

theorem makeDirectories_of_dotted {slashes : Nat} (noNul : 0 ∉ path.bytes)
    (short : path.bytes.length < pathLimit)
    (split : path.segments = before ++ Path.dot :: List.replicate slashes []) :
    files.makeDirectories path = (.ok (), made) ↔ ∃ last directory,
      Paves files (files.start path) path.names.dropLast made directory ∧
        made.Leads directory path.names.getLast?.toList last := by
  have full : Path.dot ≠ [] := by decide
  -- the dot leads nowhere, so the names lead to where the segments before it do
  have way : ∀ between : FileSystem, ∀ place,
      between.walk place before = between.walk place path.names := fun between place => by
    rw [walk_names, split, walk_append]
    have idle : ∀ middle,
        between.walk middle (Path.dot :: List.replicate slashes []) = .ok middle := fun middle => by
      rw [← List.append_nil (Path.dot :: _), walk_opening (by simp)]
      rfl
    cases between.walk place before <;> simp [bind, Except.bind, idle]
  rw [makeDirectories, makeChain_cons_iff path.names.dropLast fun between place made =>
    made = between ∧ ∃ last, between.Leads place path.names.getLast?.toList last]
  · constructor
    · rintro ⟨_, directory, paves, rfl, last, leads⟩
      exact ⟨last, directory, paves, leads⟩
    · rintro ⟨last, directory, paves, leads⟩
      exact ⟨_, directory, paves, rfl, last, leads⟩
  · exact bytes_ne_nil split full
  · exact makeChain_enclosing_iff noNul short
  · intro error walked
    refine blocked_of_walk noNul short split full ?_
    rw [way, walk_dropLast, walked]
    rfl
  · intro between middle grown leads made
    have onward : between.walk (between.start path) before =
        between.walk middle path.names.getLast?.toList := by
      rw [way, walk_dropLast, grown.start_eq, walk_eq_ok_iff.mpr leads]
      rfl
    cases walked : between.walk middle path.names.getLast?.toList with
    | ok last =>
        rw [ensure_iff noNul short split full (walk_eq_ok_iff.mp (onward.trans walked))]
        have there : between.Leads last [Path.dot] last := .stay (.inr rfl) .here
        constructor
        · rintro ⟨other, paves⟩
          exact ⟨(paves.eq_of_leads there).1, last, walk_eq_ok_iff.mp walked⟩
        · rintro ⟨rfl, -⟩
          exact ⟨last, .of_leads there⟩
    | error error =>
        have blocked := blocked_of_walk noNul short split full (onward.trans walked)
        constructor
        · exact fun done => absurd done blocked.ensure_ne
        · rintro ⟨-, last, leads⟩
          cases walked.symm.trans (walk_eq_ok_iff.mpr leads)

theorem makeDirectories_of_blank {slashes : Nat} (noNul : 0 ∉ path.bytes)
    (short : path.bytes.length < pathLimit) (split : path.segments = List.replicate slashes []) :
    files.makeDirectories path = (.ok (), files) := by
  by_cases empty : path.bytes = []
  · rw [makeDirectories, makeChain, if_pos (by simpa using empty)]
  · have reached : files.locate path = .ok (.reached (files.start path)) := by
      have backwards : path.segments.reverse = List.replicate slashes [] := by
        rw [split, List.reverse_replicate]
      have trimmed : (List.replicate slashes ([] : List UInt8)).dropWhile List.isEmpty = [] := by
        simp
      simp only [locate, if_neg noNul, List.isEmpty_iff, if_neg empty,
        if_neg (Nat.not_le.mpr short), backwards, trimmed]
      rfl
    have stands := makeDirectory_of_reached reached
    rw [makeDirectories, makeChain_of_ne_notFound empty (by simp [stands]),
      ensure_of_reached reached]

theorem readable_of_made (done : files.makeDirectories path = (.ok (), made)) :
    0 ∉ path.bytes ∧ path.bytes.length < pathLimit := by
  have noNul : 0 ∉ path.bytes := by
    intro nul
    have blocked : files.Blocked path .nulInPath := blocked_of_locate (by
      simp [locate, nul, bind, Except.bind, throw, throwThe, MonadExceptOf.throw])
    exact makeDirectories_of_blocked (List.ne_nil_of_mem nul) blocked (by decide) done
  refine ⟨noNul, Nat.not_le.mp fun long => ?_⟩
  have written : path.bytes ≠ [] := by
    intro empty
    simp [empty, pathLimit] at long
  have blocked : files.Blocked path .nameTooLong := blocked_of_locate (by
    simp [locate, noNul, written, long, bind, Except.bind, throw, throwThe, MonadExceptOf.throw])
  exact makeDirectories_of_blocked written blocked (by decide) done

theorem makes_iff_of_undotted (noNul : 0 ∉ path.bytes) (short : path.bytes.length < pathLimit)
    (undotted : ¬ path.EndsInDot) :
    files.Makes path made last ↔ Paves files (files.start path) path.names made last :=
  ⟨fun makes => makes.paves undotted,
    fun paves => ⟨noNul, short, fun _ => paves, fun ends => absurd ends undotted⟩⟩

theorem makes_iff_of_dotted (noNul : 0 ∉ path.bytes) (short : path.bytes.length < pathLimit)
    (dotted : path.EndsInDot) :
    files.Makes path made last ↔ ∃ directory,
      Paves files (files.start path) path.names.dropLast made directory ∧
        made.Leads directory path.names.getLast?.toList last :=
  ⟨fun makes => makes.dotted dotted,
    fun way => ⟨noNul, short, fun undotted => absurd dotted undotted, fun _ => way⟩⟩

/-- The directory is made exactly if it can be, with those it lies in. -/
theorem makeDirectories_eq_ok_iff :
    files.makeDirectories path = (.ok (), made) ↔ ∃ last, files.Makes path made last := by
  by_cases readable : 0 ∉ path.bytes ∧ path.bytes.length < pathLimit
  swap
  · constructor
    · exact fun done => absurd (readable_of_made done) readable
    · rintro ⟨last, makes⟩
      exact absurd ⟨makes.noNul, makes.short⟩ readable
  obtain ⟨noNul, short⟩ := readable
  obtain ⟨slashes, split⟩ := path.segments_trimmed
  rcases List.eq_nil_or_concat' (path.segments.rdropWhile List.isEmpty) with
    blank | ⟨before, name, some⟩
  · rw [blank, List.nil_append] at split
    have undotted : ¬ path.EndsInDot := by simp [Path.EndsInDot, blank]
    have unnamed : path.names = [] := by
      cases slashes <;> simp [Path.names, split, List.replicate_succ, Path.dot]
    rw [makeDirectories_of_blank noNul short split]
    simp only [makes_iff_of_undotted noNul short undotted, unnamed, Paves.nil_iff, Prod.mk.injEq,
      true_and]
  · rw [some, List.append_assoc] at split
    have full : name ≠ [] := by
      have last := List.rdropWhile_last_not List.isEmpty path.segments (by simp [some])
      simpa [some] using last
    by_cases dotted : name = Path.dot
    · subst dotted
      have ends : path.EndsInDot := by simp [Path.EndsInDot, some]
      simp only [makeDirectories_of_dotted noNul short split, makes_iff_of_dotted noNul short ends]
    · have undotted : ¬ path.EndsInDot := by simpa [Path.EndsInDot, some] using dotted
      simp only [makeDirectories_of_plain noNul short split full dotted,
        makes_iff_of_undotted noNul short undotted]

/-- Both directories are made, and neither the dot nor the slash at the end matters. -/
example : ((empty []).makeDirectories (.ofString "shots/./first/")).2.nodes.map Prod.fst =
    [[Utf8.encode "shots".toList, Utf8.encode "first".toList], [Utf8.encode "shots".toList]] :=
  rfl

end Makes

end FrameCycle.FileSystem
