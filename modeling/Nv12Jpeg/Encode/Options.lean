import Nv12Jpeg.Bitstream
import Nv12Jpeg.Implementation

/-!
# What an encode run is asked to do, and what it reports

* `EncodeOptions` says where frames come from, what they look like and where files go;
* `StopReason` says why a run ended without an error;
* `EncodeSummary` says what came of a run.
-/

namespace Nv12Jpeg

/-- How a result that is not there yet is waited for. -/
structure SyncPolicy where
  /-- How long one attempt waits, in milliseconds. -/
  waitMs : Nat
  /-- How many attempts there are; none counts as one. -/
  maxAttempts : UInt32
  deriving DecidableEq, Repr

namespace SyncPolicy

/-- The policy where nothing else is asked for. -/
def usual : SyncPolicy := ⟨100, 50⟩

/-- How many attempts are made. -/
def attempts (policy : SyncPolicy) : Nat := max policy.maxAttempts.toNat 1

end SyncPolicy

/-- A new picture size, and perhaps a new input, from some frame on. -/
structure ResolutionChange where
  /-- How many frames are written before. -/
  afterFrames : UInt32
  width : UInt16
  height : UInt16
  input : Option String
  deriving DecidableEq, Repr

/-- What an encode run is asked to do. -/
structure EncodeOptions where
  input : String
  width : UInt16
  height : UInt16
  frameRate : UInt32
  quality : UInt16
  outputDir : String
  backend : BackendChoice
  bitstreamCapacity : Nat
  /-- How many frames are written at most, if there is a limit. -/
  maxFrames : Option UInt32
  resolutionChange : Option ResolutionChange
  sync : SyncPolicy
  deriving DecidableEq, Repr

namespace EncodeOptions

/-- The options for frames of one size, all else as usual. -/
def ofInput (input : String) (width height : UInt16) : EncodeOptions where
  input := input
  width := width
  height := height
  frameRate := 25
  quality := 90
  outputDir := "."
  backend := .auto
  bitstreamCapacity := Bitstream.defaultCapacity
  maxFrames := some 3
  resolutionChange := none
  sync := .usual

/-- The text of a frame limit in messages. -/
def limitText : Option UInt32 → String
  | some limit => s!"Some({limit})"
  | none => "None"

/-- Options as they are written in messages. -/
def text (options : EncodeOptions) : String :=
  s!"EncodeOptions(input={options.input}, size={options.width}x{options.height}, "
    ++ s!"fps={options.frameRate}, quality={options.quality}, "
    ++ s!"backend={options.backend.text}, max_frames={limitText options.maxFrames})"

end EncodeOptions

/-- The name of the file of a frame; frames count from 1. -/
def outputFileName (frame : Nat) : String := s!"frame{frame}.jpg"

/-- Why an encode loop stopped without an error. -/
inductive StopReason where
  /-- The input ended and the encoder had nothing left to flush. -/
  | drained
  | frameLimit
  /-- The encoder refused a submission in a way the loop has no policy for. -/
  | unknownStatus
  /-- Flushing made no progress for as many submissions in a row as are allowed. -/
  | flushStalled
  deriving DecidableEq, Repr

/-- The name of a stop reason in messages. -/
def StopReason.text : StopReason → String
  | .drained => "Drained"
  | .frameLimit => "FrameLimit"
  | .unknownStatus => "UnknownStatus"
  | .flushStalled => "FlushStalled"

/-- What came of an encode run. -/
structure EncodeSummary where
  framesWritten : Nat
  /-- The files that were written, in order. -/
  outputs : List String
  stopReason : StopReason
  frameInfo : FrameInfo
  poolSize : Nat
  resets : Nat
  deriving DecidableEq, Repr

end Nv12Jpeg
