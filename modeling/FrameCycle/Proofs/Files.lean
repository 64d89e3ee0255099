import FrameCycle.Storage.LogFile

/-!
What the operations of a file system change. Making directories adds directories where there was
nothing; a log file is written at its own place only, and stays bytes as long as nothing else writes
there.
-/
namespace FrameCycle.FileSystem

theorem lookup_filter_ne {place other : Place} (different : other ≠ place)
    (nodes : List (Place × Node)) :
    (nodes.filter fun held => held.1 != place).lookup other = nodes.lookup other := by
  induction nodes with
  | nil => rfl
  | cons held rest inductionHypothesis =>
      rcases held with ⟨name, node⟩
      by_cases same : name = place
      · have passes : (other == name) = false := by simp [same, different]
        simp [same ▸ passes, List.lookup_cons, same, inductionHypothesis]
      · simp [same, List.lookup_cons, inductionHypothesis]

theorem node?_put (files : FileSystem) {place : Place} (named : place ≠ []) (node : Node)
    (other : Place) :
    (files.put place node).node? other =
      if other = place then some node else files.node? other := by
  unfold node? put
  by_cases same : other = place
  · subst same
    simp [named]
  · have passes : (other == place) = false := by simp [same]
    simp only [List.lookup_cons, passes, lookup_filter_ne same, if_neg same]

/-- Where there was nothing there may be a directory; everything else is as it was. -/
structure Grown (before after : FileSystem) : Prop where
  workDir_eq : after.workDir = before.workDir
  nodes : ∀ place, after.node? place = before.node? place ∨
    before.node? place = none ∧ after.node? place = some .directory

theorem Grown.refl (files : FileSystem) : Grown files files :=
  ⟨rfl, fun _ => .inl rfl⟩

theorem Grown.trans {first second third : FileSystem} (earlier : Grown first second)
    (later : Grown second third) : Grown first third := by
  refine ⟨later.workDir_eq.trans earlier.workDir_eq, fun place => ?_⟩
  rcases later.nodes place with same | ⟨missing, made⟩
  · rw [same]
    exact earlier.nodes place
  · rcases earlier.nodes place with same | ⟨absent, made'⟩
    · exact .inr ⟨same ▸ missing, made⟩
    · cases missing.symm.trans made'

theorem makeDirectory_eq_ok {files made : FileSystem} {path : Path}
    (done : files.makeDirectory path = .ok made) :
    ∃ directory name, files.node? (directory ++ [name]) = none ∧
      made = files.put (directory ++ [name]) .directory := by
  unfold makeDirectory at done
  cases located : files.locate path with
  | error error => simp [located, bind, Except.bind] at done
  | ok target =>
      cases target with
      | reached place =>
          simp [located, bind, Except.bind, throw, throwThe, MonadExceptOf.throw] at done
      | named directory name slashed =>
          refine ⟨directory, name, ?_⟩
          simp only [located, bind, Except.bind, entry?] at done
          by_cases long : nameLimit < name.length
          · simp [long] at done
          · cases found : files.node? (directory ++ [name]) with
            | some node => simp [long, found, throw, throwThe, MonadExceptOf.throw] at done
            | none =>
                simp only [long, found, ↓reduceIte, pure, Except.pure, Except.ok.injEq] at done
                exact ⟨rfl, done.symm⟩

theorem grown_of_makeDirectory {files made : FileSystem} {path : Path}
    (done : files.makeDirectory path = .ok made) : Grown files made := by
  obtain ⟨directory, name, missing, rfl⟩ := makeDirectory_eq_ok done
  refine ⟨rfl, fun place => ?_⟩
  rw [node?_put files (by simp)]
  by_cases same : place = directory ++ [name]
  · rw [if_pos same, same]
    exact .inr ⟨missing, rfl⟩
  · exact .inl (if_neg same)

/-- Also when a chain of directories cannot be made, no more has happened than that some were. -/
theorem grown_makeChain (chain : List Path) (files : FileSystem) :
    Grown files (makeChain chain files).2 := by
  induction chain generalizing files with
  | nil => exact .refl files
  | cons path outer inductionHypothesis =>
      unfold makeChain
      split
      · exact .refl files
      · split
        · next made done => exact grown_of_makeDirectory done
        · have chained := inductionHypothesis files
          split
          · next error left failed => exact failed ▸ chained
          · next left done =>
              rw [done] at chained
              split
              · next made done => exact chained.trans (grown_of_makeDirectory done)
              · exact chained
        · exact .refl files

theorem grown_makeDirectories (files : FileSystem) (path : Path) :
    Grown files (files.makeDirectories path).2 :=
  grown_makeChain (path :: enclosing path) files

theorem writable_eq_ok {files : FileSystem} {path : Path} {place : Place}
    (found : files.writable path = .ok place) : place ≠ [] := by
  unfold writable at found
  cases located : files.locate path with
  | error error => simp [located, bind, Except.bind] at found
  | ok target =>
      cases target with
      | reached place =>
          simp [located, bind, Except.bind, throw, throwThe, MonadExceptOf.throw] at found
      | named directory name slashed =>
          by_cases long : nameLimit < name.length
          · cases slashed <;>
              simp [located, bind, Except.bind, entry?, long, throw, throwThe, MonadExceptOf.throw]
                at found
          · rcases present : files.node? (directory ++ [name]) with _ | _ | content <;>
              cases slashed <;>
              simp [located, bind, Except.bind, entry?, long, present, throw, throwThe,
                MonadExceptOf.throw, pure, Except.pure] at found
            all_goals simp [← found]

/-- Nothing has changed but a file of bytes at a place. -/
structure Relogged (place : Place) (before after : FileSystem) : Prop where
  workDir_eq : after.workDir = before.workDir
  others : ∀ other, other ≠ place → after.node? other = before.node? other
  held : ∃ data, after.node? place = some (.file (.bytes data))

theorem Relogged.trans {place : Place} {first second third : FileSystem}
    (earlier : Relogged place first second) (later : Relogged place second third) :
    Relogged place first third :=
  ⟨later.workDir_eq.trans earlier.workDir_eq,
    fun other different => (later.others other different).trans (earlier.others other different),
    later.held⟩

/-- A file of bytes stays one while directories are made. -/
theorem Relogged.refl_of_grown {place : Place} {before noted ready : FileSystem}
    (relogged : Relogged place before noted) (grown : Grown noted ready) :
    Relogged place ready ready := by
  obtain ⟨data, held⟩ := relogged.held
  refine ⟨rfl, fun _ _ => rfl, data, ?_⟩
  rcases grown.nodes place with same | ⟨missing, -⟩
  · rw [same, held]
  · cases held.symm.trans missing

theorem relogged_put (files : FileSystem) {place : Place} (named : place ≠ [])
    (data : List UInt8) : Relogged place files (files.put place (.file (.bytes data))) :=
  ⟨rfl, fun other different => by rw [node?_put files named, if_neg different],
    data, by rw [node?_put files named, if_pos rfl]⟩

end FrameCycle.FileSystem

namespace FrameCycle.LogFile

open FileSystem

theorem relogged_of_create {files created : FileSystem} {path : Path} {log : LogFile}
    (done : create files path = .ok (log, created)) :
    files.writable path = .ok log.place ∧ Relogged log.place files created := by
  unfold create at done
  cases found : files.writable path with
  | error error => simp [found, bind, Except.bind] at done
  | ok place =>
      simp only [found, bind, Except.bind, pure, Except.pure, Except.ok.injEq] at done
      cases done
      exact ⟨rfl, relogged_put files (writable_eq_ok found) []⟩

/-- A record keeps a log file one of bytes. -/
theorem relogged_write {log : LogFile} {before files : FileSystem} (named : log.place ≠ [])
    (relogged : Relogged log.place before files) (data : List UInt8) :
    (log.write data files).1.place = log.place ∧
      Relogged log.place before (log.write data files).2 := by
  obtain ⟨held, present⟩ := relogged.held
  simp only [write, present]
  split
  · exact ⟨rfl, relogged⟩
  · exact ⟨rfl, relogged.trans (relogged_put files named _)⟩

end FrameCycle.LogFile
