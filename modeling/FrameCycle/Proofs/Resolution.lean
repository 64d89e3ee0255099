import FrameCycle.Proofs.Files
import FrameCycle.Proofs.Text.Decoding

/-!
Where a path leads in a file system: along its names, through directories that are there, to the
last of them. A file can be created where such a way ends and no directory stands; the way is still
there once the file is.
-/
namespace FrameCycle.FileSystem

/-- A way from one directory to another: a name leads into a directory that is there, two dots lead
upwards, and a dot or nothing leads nowhere. -/
inductive Leads (files : FileSystem) : Place → List (List UInt8) → Place → Prop where
  | here {place : Place} : Leads files place [] place
  | stay {place last : Place} {name : List UInt8} {rest : List (List UInt8)} :
      name = [] ∨ name = Path.dot → Leads files place rest last →
      Leads files place (name :: rest) last
  | up {place last : Place} {rest : List (List UInt8)} :
      Leads files place.dropLast rest last → Leads files place (Path.dotDot :: rest) last
  | down {place last : Place} {name : List UInt8} {rest : List (List UInt8)} :
      name ≠ [] → name ≠ Path.dot → name ≠ Path.dotDot → name.length ≤ nameLimit →
      files.node? (place ++ [name]) = some .directory →
      Leads files (place ++ [name]) rest last → Leads files place (name :: rest) last

/-- The directory that a path starts from. -/
def start (files : FileSystem) (path : Path) : Place :=
  if path.isAbsolute then [] else files.workDir

/-- A path leads to a directory and ends with a name in it. -/
structure Names (files : FileSystem) (path : Path) (directory : Place) (name : List UInt8) :
    Prop where
  noNul : 0 ∉ path.bytes
  short : path.bytes.length < pathLimit
  way : ∃ before, path.segments = before ++ [name] ∧
    files.Leads (files.start path) before directory
  full : name ≠ []
  notDot : name ≠ Path.dot
  notDotDot : name ≠ Path.dotDot
  fits : name.length ≤ nameLimit

/-- A file can be created, or written anew, where a path ends: no directory has that name. -/
structure Creatable (files : FileSystem) (path : Path) (directory : Place) (name : List UInt8) :
    Prop extends Names files path directory name where
  free : files.node? (directory ++ [name]) ≠ some .directory

/-- Where the path ends there is a file. -/
def Holds (files : FileSystem) (path : Path) (content : FileContent) : Prop :=
  ∃ directory name, files.Names path directory name ∧
    files.node? (directory ++ [name]) = some (.file content)

/-- The file is the text, encoded. -/
def HoldsText (files : FileSystem) (path : Path) (text : List Char) : Prop :=
  files.Holds path (.bytes (Utf8.encode text))

variable {files : FileSystem} {path : Path} {directory place last : Place} {name : List UInt8}

theorem walk_eq_ok_iff {names : List (List UInt8)} :
    files.walk place names = .ok last ↔ files.Leads place names last := by
  constructor
  · intro walked
    induction names generalizing place with
    | nil =>
        cases walked
        exact .here
    | cons name rest inductionHypothesis =>
        simp only [walk, List.isEmpty_iff] at walked
        split at walked
        · next idle => exact .stay idle (inductionHypothesis walked)
        split at walked
        · next upwards =>
            subst upwards
            exact .up (inductionHypothesis walked)
        · next goes notDotDot =>
            obtain ⟨full, notDot⟩ := not_or.mp goes
            simp only [ entry?] at walked
            by_cases long : nameLimit < name.length
            · simp [long] at walked
            · rw [if_neg long] at walked
              cases found : files.node? (place ++ [name]) with
              | none => simp [found] at walked
              | some node =>
                  cases node with
                  | file content => simp [found] at walked
                  | directory =>
                      simp only [found] at walked
                      exact .down full notDot notDotDot (Nat.not_lt.mp long) found
                        (inductionHypothesis walked)
  · intro leads
    induction leads with
    | here => rfl
    | stay idle _ inductionHypothesis =>
        simp only [walk, List.isEmpty_iff, if_pos idle, inductionHypothesis]
    | up _ inductionHypothesis =>
        rw [walk, if_neg (by decide), if_pos rfl, inductionHypothesis]
    | down full notDot notDotDot fits found _ inductionHypothesis =>
        simp only [walk, List.isEmpty_iff, full, notDot, or_self, if_false, notDotDot, entry?,
          Nat.not_lt.mpr fits, found, inductionHypothesis]

theorem bytes_ne_nil {before : List (List UInt8)} {slashes : Nat}
    (split : path.segments = before ++ name :: List.replicate slashes []) (full : name ≠ []) :
    path.bytes ≠ [] := by
  intro empty
  rw [Path.segments, empty, List.splitOn_nil] at split
  have member : name ∈ [[]] := split ▸ List.mem_append_right _ List.mem_cons_self
  exact full (List.mem_singleton.mp member)

/-- The last name of a path is looked for in the directory that the names before it lead to. -/
theorem locate_eq {before : List (List UInt8)} (slashes : Nat) (noNul : 0 ∉ path.bytes)
    (short : path.bytes.length < pathLimit)
    (split : path.segments = before ++ name :: List.replicate slashes []) (full : name ≠ []) :
    files.locate path = files.walk (files.start path) before >>= fun directory =>
      if name = Path.dot ∨ name = Path.dotDot then
        files.walk directory [name] >>= fun place => .ok (.reached place)
      else .ok (.named directory name (slashes != 0)) := by
  have written : path.bytes ≠ [] := bytes_ne_nil split full
  have backwards : path.segments.reverse =
      List.replicate slashes [] ++ name :: before.reverse := by
    rw [split, List.reverse_append, List.reverse_cons, List.reverse_replicate, List.append_assoc]
    rfl
  have slashed : ((List.replicate slashes [] ++ name :: before.reverse).head? == some []) =
      (slashes != 0) := by
    cases slashes with
    | zero => simpa using full
    | succ slashes => rfl
  have kept : (List.replicate slashes [] ++ name :: before.reverse).dropWhile List.isEmpty =
      name :: before.reverse := by
    rw [List.dropWhile_append_of_pos (by simp)]
    exact List.dropWhile_cons_of_neg (by simpa using full)
  simp only [locate, if_neg noNul, List.isEmpty_iff, if_neg written, if_neg (Nat.not_le.mpr short),
    backwards, slashed, kept, List.reverse_reverse]
  rfl

theorem locate_ne_of_slashed {before : List (List UInt8)} (split : path.segments = before ++ [[]]) :
    files.locate path ≠ .ok (.named directory name false) := by
  have backwards : path.segments.reverse = [] :: before.reverse := by
    rw [split, List.reverse_append]
    rfl
  intro located
  simp only [locate, backwards, List.head?_cons, BEq.rfl] at located
  split at located
  · cases located
  split at located
  · cases located
  split at located
  · cases located
  split at located
  · obtain ⟨reached, -, located⟩ := bind_eq_ok.mp located
    cases located
  · obtain ⟨reached, -, located⟩ := bind_eq_ok.mp located
    split at located
    · obtain ⟨reached, -, located⟩ := bind_eq_ok.mp located
      cases located
    · cases located

/-- A path leads to a name just if it ends with one, behind which no slash stands. -/
theorem locate_eq_named_iff :
    files.locate path = .ok (.named directory name false) ↔
      0 ∉ path.bytes ∧ path.bytes.length < pathLimit ∧
        (∃ before, path.segments = before ++ [name] ∧
          files.Leads (files.start path) before directory) ∧
        name ≠ [] ∧ name ≠ Path.dot ∧ name ≠ Path.dotDot := by
  constructor
  · intro located
    have noNul : 0 ∉ path.bytes := by
      intro nul
      simp [locate, nul, bind, Except.bind, throw, throwThe, MonadExceptOf.throw] at located
    have short : path.bytes.length < pathLimit := by
      refine Nat.lt_of_not_le fun long => ?_
      by_cases empty : path.bytes = []
      · simp [empty, pathLimit] at long
      · simp [locate, noNul, empty, long, bind, Except.bind, throw, throwThe, MonadExceptOf.throw]
          at located
    obtain ⟨before, final, split⟩ : ∃ before final, path.segments = before ++ [final] :=
      ⟨_, _, (List.dropLast_concat_getLast (List.splitOn_ne_nil _ _)).symm⟩
    have full : final ≠ [] := by
      rintro rfl
      exact locate_ne_of_slashed split located
    rw [locate_eq 0 noNul short split full] at located
    obtain ⟨reached, walked, located⟩ := bind_eq_ok.mp located
    split at located
    · obtain ⟨_, -, located⟩ := bind_eq_ok.mp located
      cases located
    · next plain =>
        cases located
        obtain ⟨notDot, notDotDot⟩ := not_or.mp plain
        exact ⟨noNul, short, ⟨before, split, walk_eq_ok_iff.mp walked⟩, full, notDot, notDotDot⟩
  · rintro ⟨noNul, short, ⟨before, split, leads⟩, full, notDot, notDotDot⟩
    rw [locate_eq 0 noNul short split full, walk_eq_ok_iff.mpr leads]
    exact if_neg (not_or.mpr ⟨notDot, notDotDot⟩)

theorem Names.locate_eq (names : files.Names path directory name) :
    files.locate path = .ok (.named directory name false) :=
  locate_eq_named_iff.mpr ⟨names.noNul, names.short, names.way, names.full, names.notDot,
    names.notDotDot⟩

theorem Names.entry?_eq (names : files.Names path directory name) :
    files.entry? directory name = .ok (files.node? (directory ++ [name])) :=
  if_neg (Nat.not_lt.mpr names.fits)

/-- A name that is found in a directory is one that its path ends with. -/
theorem names_of_entry? {node : Option Node}
    (located : files.locate path = .ok (.named directory name false))
    (found : files.entry? directory name = .ok node) :
    files.Names path directory name ∧ files.node? (directory ++ [name]) = node := by
  obtain ⟨noNul, short, way, full, notDot, notDotDot⟩ := locate_eq_named_iff.mp located
  unfold FileSystem.entry? at found
  by_cases long : nameLimit < name.length
  · simp [long] at found
  · rw [if_neg long] at found
    exact ⟨⟨noNul, short, way, full, notDot, notDotDot, Nat.not_lt.mp long⟩, Except.ok.inj found⟩

theorem writable_eq_ok_iff :
    files.writable path = .ok place ↔
      ∃ directory name, files.Creatable path directory name ∧ place = directory ++ [name] := by
  constructor
  · intro found
    obtain ⟨target, located, found⟩ := bind_eq_ok.mp found
    cases target with
    | reached reached => cases found
    | named directory name slashed =>
        cases slashed with
        | true => cases found
        | false =>
            obtain ⟨node, entered, found⟩ := bind_eq_ok.mp found
            obtain ⟨names, same⟩ := names_of_entry? located entered
            split at found
            · cases found
            · next free =>
                cases found
                exact ⟨directory, name, ⟨names, same ▸ free⟩, rfl⟩
  · rintro ⟨directory, name, creatable, rfl⟩
    have free := creatable.free
    simp only [writable, creatable.locate_eq, creatable.entry?_eq, bind, Except.bind,
      Bool.false_eq_true, if_false]
    rfl

theorem read_eq_ok_iff {content : FileContent} :
    files.read path = .ok content ↔ files.Holds path content := by
  constructor
  · intro found
    obtain ⟨target, located, found⟩ := bind_eq_ok.mp found
    cases target with
    | reached reached => cases found
    | named directory name slashed =>
        obtain ⟨node, entered, found⟩ := bind_eq_ok.mp found
        cases node with
        | none => cases found
        | some node =>
            cases node with
            | directory => cases found
            | file held =>
                cases slashed with
                | true => cases found
                | false =>
                    cases found
                    exact ⟨directory, name, names_of_entry? located entered⟩
  · rintro ⟨directory, name, names, held⟩
    simp only [read, names.locate_eq, names.entry?_eq, held, bind, Except.bind]
    rfl

theorem readText_eq_ok_iff {text : List Char} :
    files.readText path = .ok text ↔ files.HoldsText path text := by
  unfold HoldsText
  rw [← read_eq_ok_iff]
  constructor
  · intro found
    obtain ⟨content, held, found⟩ := bind_eq_ok.mp found
    cases content with
    | image frame after => cases found
    | bytes data =>
        cases decoded : Utf8.decode? data with
        | none =>
            simp only [decoded] at found
            cases found
        | some text =>
            simp only [decoded] at found
            cases found
            rw [held, Utf8.decode?_eq_some_iff.mp decoded]
  · intro held
    simp only [readText, held, bind, Except.bind, Utf8.decode?_eq_some_iff.mpr rfl]
    rfl

theorem Creatable.writable_eq (creatable : files.Creatable path directory name) :
    files.writable path = .ok (directory ++ [name]) :=
  writable_eq_ok_iff.mpr ⟨directory, name, creatable, rfl⟩

/-- Where no directory stands, whatever comes to stand there changes no way that there was. -/
theorem Leads.put {origin last : Place} {names : List (List UInt8)}
    (leads : files.Leads origin names last) (named : place ≠ [])
    (free : files.node? place ≠ some .directory) (node : Node) :
    (files.put place node).Leads origin names last := by
  induction leads with
  | here => exact .here
  | stay idle _ inductionHypothesis => exact .stay idle inductionHypothesis
  | up _ inductionHypothesis => exact .up inductionHypothesis
  | down full notDot notDotDot fits found _ inductionHypothesis =>
      refine .down full notDot notDotDot fits ?_ inductionHypothesis
      rw [node?_put files named, if_neg, found]
      rintro rfl
      exact free found

/-- A file that has been created can be written anew. -/
theorem Creatable.put (creatable : files.Creatable path directory name) (content : FileContent) :
    (files.put (directory ++ [name]) (.file content)).Creatable path directory name where
  noNul := creatable.noNul
  short := creatable.short
  way := by
    obtain ⟨before, split, leads⟩ := creatable.way
    exact ⟨before, split, leads.put (by simp) creatable.free (.file content)⟩
  full := creatable.full
  notDot := creatable.notDot
  notDotDot := creatable.notDotDot
  fits := creatable.fits
  free := by
    rw [node?_put files (by simp), if_pos rfl]
    simp

theorem Creatable.read_put (creatable : files.Creatable path directory name)
    (content : FileContent) :
    (files.put (directory ++ [name]) (.file content)).read path = .ok content := by
  refine read_eq_ok_iff.mpr ⟨directory, name, (creatable.put content).toNames, ?_⟩
  rw [node?_put files (by simp), if_pos rfl]

/-- Only the last thing put at a place is there. -/
theorem put_put (files : FileSystem) (place : Place) (first second : Node) :
    (files.put place first).put place second = files.put place second := by
  simp [FileSystem.put]

end FrameCycle.FileSystem
