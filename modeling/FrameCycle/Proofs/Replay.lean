import FrameCycle.Proofs.Lifetime

/-!
A journal is more than a record. Its calls, made again on the machine and the store that a run was
given, lead to the machine and the store that the run has left, and the answers are those it notes.
What a binding notes leads its library the same way.
-/
namespace FrameCycle

variable {State Store Memory : Type}

/-- Calls lead from one machine and store to another. A machine that is asked for its size or handed
a frame to fill may change; the journal holds neither the question nor the frame. -/
inductive Rig.Replays (rig : Rig State Store) (first : State) (given : Store) :
    List Call → State → Store → Prop where
  | start : Replays rig first given [] first given
  | create {calls : List Call} {machine : State} {store : Store} (params : CreateParams) :
      Replays rig first given calls machine store →
      Replays rig first given (calls ++ [.create params]) (rig.core.create params machine).2 store
  | resolution {calls : List Call} {machine : State} {store : Store} :
      Replays rig first given calls machine store →
      Replays rig first given calls (rig.core.resolution machine).2 store
  | advance {calls : List Call} {machine : State} {store : Store} :
      Replays rig first given calls machine store →
      Replays rig first given (calls ++ [.advance]) (rig.core.advance machine).2 store
  | display {calls : List Call} {machine : State} {store : Store} (frame : Frame) :
      Replays rig first given calls machine store →
      Replays rig first given (calls ++ [.display]) (rig.core.display machine frame).2 store
  | audio {calls : List Call} {machine : State} {store : Store} (channel : Nat)
      (buffer : Array UInt8) :
      Replays rig first given calls machine store →
      Replays rig first given (calls ++ [.audio channel buffer])
        (rig.core.audio channel buffer machine) store
  | key {calls : List Call} {machine : State} {store : Store} (key : Key) (pressed : Bool) :
      Replays rig first given calls machine store →
      Replays rig first given (calls ++ [.key key pressed]) (rig.core.key key pressed machine) store
  | snapshot {calls : List Call} {machine : State} {store : Store} (path : Path) :
      Replays rig first given calls machine store →
      Replays rig first given (calls ++ [.snapshot path (rig.core.snapshot path machine).1])
        (rig.core.snapshot path machine).2 store
  | release {calls : List Call} {machine : State} {store : Store} :
      Replays rig first given calls machine store →
      Replays rig first given (calls ++ [.release]) (rig.core.release machine) store
  /-- An upscaler works on frames alone. -/
  | upscale {calls : List Call} {machine : State} {store : Store} (name : String)
      (factor : UInt32) :
      Replays rig first given calls machine store →
      Replays rig first given (calls ++ [.upscale name factor]) machine store
  | write {calls : List Call} {machine : State} {store : Store} (path : Path) (frame : Frame) :
      Replays rig first given calls machine store →
      Replays rig first given
        (calls ++ [.write path frame (rig.sink.write store path frame).1.isOk])
        machine (rig.sink.write store path frame).2

section Bench

variable {rig : Rig State Store} {first : State} {given : Store}

/-- What a cycle adds to its journal it has done. -/
theorem Bench.Used.replays {bench next : Bench State Store} (used : Used rig bench next)
    (replays : rig.Replays first given bench.calls bench.machine bench.store) :
    rig.Replays first given next.calls next.machine next.store := by
  induction used with
  | refl => exact replays
  | log message _ inductionHypothesis =>
      rw [calls_log]
      exact inductionHypothesis
  | measure _ inductionHypothesis => exact inductionHypothesis
  | resolution _ inductionHypothesis => exact inductionHypothesis.resolution
  | advance _ inductionHypothesis =>
      rw [calls_advance]
      exact inductionHypothesis.advance
  | display frame _ inductionHypothesis =>
      rw [calls_display]
      exact inductionHypothesis.display frame
  | audio channel buffer _ inductionHypothesis =>
      rw [calls_audio]
      exact inductionHypothesis.audio channel buffer
  | key name pressed _ inductionHypothesis =>
      rw [calls_key]
      exact inductionHypothesis.key name pressed
  | snapshot path _ inductionHypothesis =>
      rw [calls_snapshot]
      exact inductionHypothesis.snapshot path
  | upscale name factor _ inductionHypothesis =>
      rw [calls_call]
      exact inductionHypothesis.upscale name factor
  | write path frame _ inductionHypothesis =>
      rw [calls_write]
      exact inductionHypothesis.write path frame

theorem LeftBehind.replays {config : Config} {machine : State} {store : Store} {clock : Clock}
    {last : Bench State Store}
    (left : LeftBehind rig config (.ready machine store clock) last) :
    rig.Replays machine store last.calls last.machine last.store := by
  have opened : ∀ {fresh : Bench State Store},
      Bench.Asked rig config (.ready machine store clock) fresh →
      rig.Replays machine store fresh.calls fresh.machine fresh.store := by
    intro fresh asked
    rw [asked.calls_eq, asked.machine_eq, asked.store_eq]
    exact .create config.createParams .start
  cases left with
  | refused made asked => exact opened asked
  | released made asked used calls released kept =>
      rw [calls, released, kept]
      exact (used.replays (opened asked)).release

end Bench

/-- Whatever way out a run takes, what its journal says has been done to the machine and the
store. -/
theorem WayOut.replays {rig : Rig State Store} {config : Config}
    {upscalers : Option (Upscalers Memory)} {machine : State} {store : Store} {clock : Clock}
    {last : Bench State Store}
    (out : WayOut rig config upscalers (.ready machine store clock) last) :
    rig.Replays machine store last.calls last.machine last.store :=
  out.leftBehind.replays

namespace Machine

/-- What a call makes of the state of a library. -/
def Library.perform (library : Library State) (state : State) : Request → State
  | .create is48k rate frames romDir => (library.create is48k rate frames romDir state).2
  | .resolution => (library.resolution state).2
  | .update id => (library.update id state).2
  | .display id length capacity pitch => (library.display id length capacity pitch state).2
  | .audio id channel length => library.audio id channel length state
  | .key id code down => library.key id code down state
  | .snapshot id file => (library.snapshot id file state).2
  | .destroy id => library.destroy id state

/-- The calls that a binding has noted are what its library has gone through. -/
def Instance.Replays (library : Library State) (first : State) (machine : Instance State) : Prop :=
  machine.library = machine.requests.toList.foldl library.perform first

theorem Instance.Replays.request {library : Library State} {first : State}
    {before after : Instance State} {request : Request} (replays : before.Replays library first)
    (pushed : after.requests = before.requests.push request)
    (performed : after.library = library.perform before.library request) :
    after.Replays library first := by
  unfold Replays at replays ⊢
  rw [pushed, Array.toList_push, List.foldl_concat, ← replays, performed]

end Machine

theorem Rig.Replays.library {library : Machine.Library State} {sink : Sink Store}
    {state : State} {given store : Store} {calls : List Call} {machine : Machine.Instance State}
    (replays : Replays ⟨library.core, sink⟩ (.unbound state) given calls machine store) :
    machine.Replays library state := by
  induction replays with
  | start => rfl
  | upscale name factor _ inductionHypothesis => exact inductionHypothesis
  | write path frame _ inductionHypothesis => exact inductionHypothesis
  | create params _ inductionHypothesis => exact inductionHypothesis.request rfl rfl
  | resolution _ inductionHypothesis => exact inductionHypothesis.request rfl rfl
  | advance _ inductionHypothesis => exact inductionHypothesis.request rfl rfl
  | display frame _ inductionHypothesis => exact inductionHypothesis.request rfl rfl
  | audio channel buffer _ inductionHypothesis => exact inductionHypothesis.request rfl rfl
  | key key pressed _ inductionHypothesis => exact inductionHypothesis.request rfl rfl
  | snapshot path _ inductionHypothesis => exact inductionHypothesis.request rfl rfl
  | release _ inductionHypothesis => exact inductionHypothesis.request rfl rfl

end FrameCycle
