import FrameCycle.Core

/-!
The machine's library: functions on bytes and 64-bit integers that know a machine by its id. The
binding turns a library into a core that owns one id, and keeps a record of the calls it makes.
-/
namespace FrameCycle.Machine

/-- A library with a state of its own. Truth is a byte that is not zero. -/
structure Library (State : Type) where
  /-- Gives the id of a new machine, or zero. -/
  create : (is48k : Bool) → (rate frames : Int64) → (romDir : List UInt8) → State → Int64 × State
  resolution : State → (Int64 × Int64) × State
  update : (id : Int64) → State → UInt8 × State
  /-- Gives the byte that is written at each offset of a buffer. -/
  display : (id length capacity pitch : Int64) → State → (Nat → UInt8) × State
  audio : (id channel length : Int64) → State → State
  key : (id code : Int64) → (down : Bool) → State → State
  snapshot : (id : Int64) → (file : List UInt8) → State → UInt8 × State
  destroy : (id : Int64) → State → State

/-- A call of the library. -/
inductive Request where
  | create (is48k : Bool) (rate frames : Int64) (romDir : List UInt8)
  | resolution
  | update (id : Int64)
  | display (id length capacity pitch : Int64)
  | audio (id channel length : Int64)
  | key (id code : Int64) (down : Bool)
  | snapshot (id : Int64) (file : List UInt8)
  | destroy (id : Int64)
  deriving DecidableEq

/-- A binding's id, its library's state and the calls made so far. -/
structure Instance (State : Type) where
  id : Int64
  library : State
  requests : Array Request

namespace Instance

variable {State : Type}

/-- A binding that has made no call. -/
def unbound (library : State) : Instance State :=
  ⟨0, library, #[]⟩

def request (request : Request) (machine : Instance State) : Instance State :=
  { machine with requests := machine.requests.push request }

end Instance

/-- A path as the library takes it: always text. -/
def pathBytes (path : Path) : List UInt8 :=
  Utf8.encode path.lossy

namespace Instance

variable {State : Type}

def create (library : Library State) (params : CreateParams) (machine : Instance State) :
    Bool × Instance State :=
  let romDir := pathBytes params.romDir
  let frames := params.bufferFrames.toInt64
  let (id, state) :=
    library.create params.is48k params.sampleRate frames romDir machine.library
  (id != 0,
   { machine.request (.create params.is48k params.sampleRate frames romDir) with
     id, library := state })

def resolution (library : Library State) (machine : Instance State) :
    (UInt32 × UInt32) × Instance State :=
  let ((width, height), state) := library.resolution machine.library
  ((width.toUInt64.toUInt32, height.toUInt64.toUInt32),
   { machine.request .resolution with library := state })

def update (library : Library State) (machine : Instance State) : Bool × Instance State :=
  let (ready, state) := library.update machine.id machine.library
  (ready != 0, { machine.request (.update machine.id) with library := state })

def display (library : Library State) (machine : Instance State) (frame : Frame) :
    (Nat → UInt8) × Instance State :=
  let length := Int64.ofNat frame.byteLength
  let pitch := Int64.ofNat frame.stride
  let (byte, state) := library.display machine.id length length pitch machine.library
  (byte, { machine.request (.display machine.id length length pitch) with library := state })

def audio (library : Library State) (channel : Nat) (buffer : Array UInt8)
    (machine : Instance State) : Instance State :=
  let channel := Int64.ofNat channel
  let length := Int64.ofNat buffer.size
  { machine.request (.audio machine.id channel length) with
    library := library.audio machine.id channel length machine.library }

def key (library : Library State) (key : Key) (pressed : Bool) (machine : Instance State) :
    Instance State :=
  let code := Int64.ofNat key.code
  { machine.request (.key machine.id code pressed) with
    library := library.key machine.id code pressed machine.library }

def snapshot (library : Library State) (path : Path) (machine : Instance State) :
    Bool × Instance State :=
  let (loaded, state) := library.snapshot machine.id (pathBytes path) machine.library
  (loaded != 0,
   { machine.request (.snapshot machine.id (pathBytes path)) with library := state })

def destroy (library : Library State) (machine : Instance State) : Instance State :=
  { machine.request (.destroy machine.id) with
    library := library.destroy machine.id machine.library }

end Instance

end FrameCycle.Machine
