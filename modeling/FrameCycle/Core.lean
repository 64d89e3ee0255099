import FrameCycle.Journal

/-!
The two ends of a run that lie outside the program: the machine whose frames are measured, and the
store that images go to. Both are given by what they do to a state of their own.
-/
namespace FrameCycle

structure Core (State : Type) where
  /-- Makes the machine; `false` if it could not be made. -/
  create : CreateParams → State → Bool × State
  resolution : State → (UInt32 × UInt32) × State
  /-- Runs the machine for one displayed frame, and says whether sound is ready. -/
  advance : State → Bool × State
  display : State → (frame : Frame) → frame.Content × State
  audio : (channel : Nat) → (buffer : Array UInt8) → State → State
  key : Key → (pressed : Bool) → State → State
  /-- Loads a snapshot; `false` if it could not be loaded. -/
  snapshot : Path → State → Bool × State
  release : State → State
  /-- Said before the machine is made. -/
  opening : CreateParams → List Log.Message
  /-- Said when the machine could not be made. -/
  refusal : List Log.Message
  /-- Said before the machine is released. -/
  closing : List Log.Message

structure Sink (Store : Type) where
  write : Store → Path → Frame → Except Error Unit × Store

/-- The machine and the image store of a run. -/
structure Rig (State Store : Type) where
  core : Core State
  sink : Sink Store

/-- All that a run acts on outside its own memory. -/
structure Bench (State Store : Type) where
  machine : State
  store : Store
  journal : Journal
  clock : Clock

namespace Bench

variable {State Store : Type}

/-- A bench on which nothing has happened. -/
def ready (machine : State) (store : Store) (clock : Clock) : Bench State Store :=
  ⟨machine, store, #[], clock⟩

def note (entry : Entry) (bench : Bench State Store) : Bench State Store :=
  { bench with journal := bench.journal.push entry }

def call (call : Call) (bench : Bench State Store) : Bench State Store :=
  bench.note (.call call)

def log (message : Log.Message) (bench : Bench State Store) : Bench State Store :=
  bench.note (.message message)

def logAll (messages : List Log.Message) (bench : Bench State Store) : Bench State Store :=
  messages.foldl (fun bench message => bench.log message) bench

def measure (bench : Bench State Store) : Millis × Bench State Store :=
  let (time, clock) := bench.clock.next
  (time, { bench with clock })

/-- Makes the machine, and says whether that succeeded. -/
def create (core : Core State) (params : CreateParams) (bench : Bench State Store) :
    Bool × Bench State Store :=
  let bench := (bench.logAll (core.opening params)).call (.create params)
  let (made, machine) := core.create params bench.machine
  let bench := { bench with machine }
  (made, if made then bench else bench.logAll core.refusal)

def resolution (core : Core State) (bench : Bench State Store) :
    (UInt32 × UInt32) × Bench State Store :=
  let (size, machine) := core.resolution bench.machine
  (size, { bench with machine })

def advance (core : Core State) (bench : Bench State Store) : Bench State Store :=
  { bench.call .advance with machine := (core.advance bench.machine).2 }

/-- Has the machine fill a frame. -/
def display (core : Core State) (frame : Frame) (bench : Bench State Store) :
    Frame × Bench State Store :=
  let (content, machine) := core.display bench.machine frame
  (frame.withPixels content, { bench.call .display with machine })

def audio (core : Core State) (channel : Nat) (buffer : Array UInt8) (bench : Bench State Store) :
    Bench State Store :=
  { bench.call (.audio channel buffer) with machine := core.audio channel buffer bench.machine }

def key (core : Core State) (key : Key) (pressed : Bool) (bench : Bench State Store) :
    Bench State Store :=
  { bench.call (.key key pressed) with machine := core.key key pressed bench.machine }

def snapshot (core : Core State) (path : Path) (bench : Bench State Store) :
    Bool × Bench State Store :=
  let (loaded, machine) := core.snapshot path bench.machine
  (loaded, { bench.call (.snapshot path loaded) with machine })

def release (core : Core State) (bench : Bench State Store) : Bench State Store :=
  let bench := (bench.logAll core.closing).call .release
  { bench with machine := core.release bench.machine }

def write (sink : Sink Store) (path : Path) (frame : Frame) (bench : Bench State Store) :
    Except Error Unit × Bench State Store :=
  let (result, store) := sink.write bench.store path frame
  (result, { bench.call (.write path frame result.isOk) with store })

end Bench

end FrameCycle
