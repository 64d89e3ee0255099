import FrameCycle.Storage.Png

/-!
A log file that stays open. A record goes to where the one before it ended, also when the file has been
written anew in between: it may then leave a gap, or spoil an image.
-/
namespace FrameCycle

/-- Puts bytes over those from `offset` on, with zeros in the gap before them. -/
def overwritten (held : List UInt8) (offset : Nat) (data : List UInt8) : List UInt8 :=
  if data.isEmpty then held
  else
    held.take offset ++ List.replicate (offset - held.length) 0 ++ data ++
      held.drop (offset + data.length)

/-- An image can still be shown when only what stands behind it is overwritten. -/
def FileContent.overwrite (content : FileContent) (offset : Nat) (data : List UInt8) :
    FileContent :=
  match content with
  | .bytes held => .bytes (overwritten held offset data)
  | .image frame after =>
      let body := Png.body Png.encode frame
      if body.length ≤ offset then .image frame (overwritten after (offset - body.length) data)
      else .bytes (overwritten (body ++ after) offset data)

structure LogFile where
  place : Place
  /-- Where the next record goes. -/
  offset : Nat

namespace LogFile

/-- Creates a log file, or empties what is there. -/
def create (files : FileSystem) (path : Path) : Except FileError (LogFile × FileSystem) := do
  let place ← files.writable path
  return (⟨place, 0⟩, files.put place (.file (.bytes [])))

def write (log : LogFile) (data : List UInt8) (files : FileSystem) : LogFile × FileSystem :=
  match files.node? log.place with
  | some (.file content) =>
      if data.isEmpty then (log, files)
      else
        (⟨log.place, log.offset + data.length⟩,
          files.put log.place (.file (content.overwrite log.offset data)))
  | _ => (log, files)

end LogFile

end FrameCycle
