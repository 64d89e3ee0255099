import FrameCycle.Frame.Bytes
import FrameCycle.Machine.Library

/-!
A library as the core of a run. The core owns the one id that creating it gave.
-/
namespace FrameCycle.Machine

def Library.core {State : Type} (library : Library State) : Core (Instance State) where
  create := Instance.create library
  resolution := Instance.resolution library
  advance := Instance.update library
  display machine frame :=
    let (byte, machine) := Instance.display library machine frame
    (frame.contentOfBytes byte, machine)
  audio := Instance.audio library
  key := Instance.key library
  snapshot := Instance.snapshot library
  release := Instance.destroy library
  opening params := [.loadingRoms params.romDir]
  refusal := [.nullInstance]
  closing := [.releasing]

end FrameCycle.Machine
