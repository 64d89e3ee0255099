import FrameCycle.Journal

/-!
What a run is configured with, and the fixed figures of every run.
-/
namespace FrameCycle

namespace Config

/-- The tick at which a run takes its capture, unless it is told another. -/
def standardCaptureTick : UInt32 := 150

def sampleRate : Int64 := 48000

/-- The bytes of a sound buffer, and also the frames that the machine is told of. -/
def bufferLength : UInt64 := 1024

def audioChannels : Nat := 2

def standardRomDir : Path := .ofString "roms"

def standardSnapshot : Path := .ofString "roms/tmp.z80"

def standardOutputDir : Path := .ofString "."

end Config

structure Config where
  romDir : Path
  snapshot : Path
  outputDir : Path
  script : Script
  captureTick : UInt32
  upscale : Bool
  grid : Bool
  is48k : Bool

namespace Config

def standard : Config where
  romDir := standardRomDir
  snapshot := standardSnapshot
  outputDir := standardOutputDir
  script := Script.standard
  captureTick := standardCaptureTick
  upscale := true
  grid := true
  is48k := false

def createParams (config : Config) : CreateParams where
  is48k := config.is48k
  sampleRate := sampleRate
  bufferFrames := bufferLength
  romDir := config.romDir

end Config

end FrameCycle
