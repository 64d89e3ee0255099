import FrameCycle.Proofs.Demand

/-!
What a bench has said. A log is not the same twice, since it tells measured times; with these masked
each operation on a bench adds messages that are settled beforehand, as it does with calls.
-/
namespace FrameCycle

/-- The message with no time in the place of a measured one. -/
def Log.Message.masked : Log.Message → Log.Message
  | .accumulated name _ => .accumulated name 0
  | .timed name _ => .timed name 0
  | .average name count _ => .average name count 0
  | .combined _ => .combined 0
  | message => message

/-- What is said of an input, with a word more on a snapshot that could not be loaded. -/
def Call.said : Call → List Log.Message
  | .key name true => [.keyPressed name]
  | .key name false => [.keyReleased name]
  | .snapshot path true => [.loading path]
  | .snapshot path false => [.loading path, .loadFailed path]
  | _ => []

namespace Bench

variable {State Store : Type}

/-- All that was said, the measured times masked. -/
def said (bench : Bench State Store) : List Log.Message :=
  bench.journal.messages.map Log.Message.masked

@[simp]
theorem calls_ready (machine : State) (store : Store) (clock : Clock) :
    (ready machine store clock).calls = [] := rfl

@[simp]
theorem said_ready (machine : State) (store : Store) (clock : Clock) :
    (ready machine store clock).said = [] := rfl

/-- From one bench to another these calls were made and these messages said, and no image went to
the store. -/
structure Adds (calls : List Call) (messages : List Log.Message)
    (before after : Bench State Store) : Prop where
  calls_eq : after.calls = before.calls ++ calls
  said_eq : after.said = before.said ++ messages
  store_eq : after.store = before.store

namespace Adds

variable {first second : List Call} {earlier later : List Log.Message}
  {before between after : Bench State Store}

theorem refl (bench : Bench State Store) : Adds [] [] bench bench :=
  ⟨(List.append_nil _).symm, (List.append_nil _).symm, rfl⟩

theorem trans (begun : Adds first earlier before between)
    (ended : Adds second later between after) :
    Adds (first ++ second) (earlier ++ later) before after where
  calls_eq := by rw [ended.calls_eq, begun.calls_eq, List.append_assoc]
  said_eq := by rw [ended.said_eq, begun.said_eq, List.append_assoc]
  store_eq := ended.store_eq.trans begun.store_eq

end Adds

theorem adds_call (call : Call) (bench : Bench State Store) :
    Adds [call] [] bench (bench.call call) :=
  ⟨calls_call call bench, by simp [said, Bench.call, note], rfl⟩

theorem adds_log (message : Log.Message) (bench : Bench State Store) :
    Adds [] [message.masked] bench (bench.log message) :=
  ⟨by simp, by simp [said, log, note], rfl⟩

theorem adds_logAll (messages : List Log.Message) (bench : Bench State Store) :
    Adds [] (messages.map Log.Message.masked) bench (bench.logAll messages) := by
  induction messages generalizing bench with
  | nil => exact .refl bench
  | cons message rest inductionHypothesis =>
      exact (adds_log message bench).trans (inductionHypothesis (bench.log message))

theorem adds_measure (bench : Bench State Store) : Adds [] [] bench bench.measure.2 :=
  ⟨(List.append_nil _).symm, (List.append_nil _).symm, rfl⟩

theorem adds_accumulate {stat folded : RunningStat Millis} {bench : Bench State Store}
    (recorded : (bench.accumulate stat).1 = .ok folded) :
    folded.name = stat.name ∧
      Adds [] [.accumulated stat.name 0] bench (bench.accumulate stat).2 := by
  unfold accumulate RunningStat.record at recorded ⊢
  cases counted : Checked.add64 stat.count 1 with
  | error fault =>
      simp only [counted] at recorded
      cases recorded
  | ok count =>
      simp only [counted] at recorded ⊢
      cases recorded
      exact ⟨rfl, bench.adds_measure.trans (adds_log (.accumulated stat.name bench.measure.1) _)⟩

theorem adds_timed (name : String) (bench : Bench State Store) :
    Adds [] [.timed name 0] bench (bench.timed name).2 :=
  bench.adds_measure.trans (adds_log (.timed name bench.measure.1) bench.measure.2)

theorem adds_resolution (core : Core State) (bench : Bench State Store) :
    Adds [] [] bench (bench.resolution core).2 :=
  ⟨(List.append_nil _).symm, (List.append_nil _).symm, rfl⟩

theorem adds_advance (core : Core State) (bench : Bench State Store) :
    Adds [.advance] [] bench (bench.advance core) :=
  ⟨calls_advance core bench, (adds_call .advance bench).said_eq, rfl⟩

theorem adds_display (core : Core State) (frame : Frame) (bench : Bench State Store) :
    Adds [.display] [] bench (bench.display core frame).2 :=
  ⟨calls_display core frame bench, (adds_call .display bench).said_eq, rfl⟩

theorem adds_audio (core : Core State) (channel : Nat) (buffer : Array UInt8)
    (bench : Bench State Store) :
    Adds [.audio channel buffer] [] bench (bench.audio core channel buffer) :=
  ⟨calls_audio core channel buffer bench, (adds_call (.audio channel buffer) bench).said_eq, rfl⟩

theorem adds_key (core : Core State) (key : Key) (pressed : Bool) (bench : Bench State Store) :
    Adds [.key key pressed] [] bench (bench.key core key pressed) :=
  ⟨calls_key core key pressed bench, (adds_call (.key key pressed) bench).said_eq, rfl⟩

theorem adds_snapshot {core : Core State} {path : Path} {bench next : Bench State Store}
    {loaded : Bool} (done : bench.snapshot core path = (loaded, next)) :
    Adds [.snapshot path loaded] [] bench next := by
  cases done
  exact ⟨calls_snapshot core path bench, (adds_call (.snapshot path _) bench).said_eq, rfl⟩

theorem adds_release (core : Core State) (bench : Bench State Store) :
    Adds [.release] (core.closing.map Log.Message.masked) bench (bench.release core) := by
  have closed := (adds_logAll core.closing bench).trans
    (adds_call .release (bench.logAll core.closing))
  rw [List.append_nil] at closed
  exact ⟨closed.calls_eq, closed.said_eq, closed.store_eq⟩

/-- A store that is handed an image says nothing itself. -/
theorem write_eq {sink : Sink Store} {path : Path} {frame : Frame}
    {bench next : Bench State Store} {answer : Except Error Unit}
    (done : bench.write sink path frame = (answer, next)) :
    sink.write bench.store path frame = (answer, next.store) ∧
      next.calls = bench.calls ++ [.write path frame answer.isOk] ∧ next.said = bench.said := by
  cases done
  have called := adds_call (.write path frame (sink.write bench.store path frame).1.isOk) bench
  exact ⟨rfl, called.calls_eq, called.said_eq.trans (List.append_nil _)⟩

end Bench

end FrameCycle
