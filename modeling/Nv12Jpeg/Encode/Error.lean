import Nv12Jpeg.Encoder.Reply
import Nv12Jpeg.Fault

/-!
# Why an encode run fails

Each cause has a text, and some have a cause of their own below them, whose text ends the text.
-/

namespace Nv12Jpeg

/-- What was asked of an encoder, or of its device, when it failed. -/
inductive EncoderStep where
  | createSession
  | openAccelerator
  | attachAccelerator
  | query
  | init
  | surfaceRequest
  | sync
  | close
  deriving DecidableEq, Repr

/-- The text of a step that failed. -/
def EncoderStep.text : EncoderStep → String
  | .createSession => "cannot create session"
  | .openAccelerator => "failed to initialize accelerator"
  | .attachAccelerator => "failed to set accelerator handle"
  | .query => "encode query failed"
  | .init => "encode init failed"
  | .surfaceRequest => "query io surf failed"
  | .sync => "sync operation failed"
  | .close => "encode close failed"

/-- Why an encode run failed. -/
inductive EncodeError where
  | inputNotOpened (path : String) (cause : IoError)
  | inputNotRead (cause : IoError)
  | outputNotCreated (path : String) (cause : IoError)
  | outputNotWritten (path : String) (cause : IoError)
  | encoder (step : EncoderStep) (cause : EncoderError)
  | noFreeSurface (poolSize : Nat)
  | syncTimeout (sync : SyncPoint) (attempts : Nat)
  | resetFailed (width height : UInt16)
  deriving DecidableEq, Repr

namespace EncodeError

/-- The text of the cause below an error. -/
def causeMessage? : EncodeError → Option String
  | inputNotOpened _ cause | inputNotRead cause | outputNotCreated _ cause
  | outputNotWritten _ cause => some cause.message
  | encoder _ cause => some cause.message
  | noFreeSurface _ | syncTimeout _ _ | resetFailed _ _ => none

/-- The text of an error without the cause below it. -/
def context : EncodeError → String
  | inputNotOpened path _ => s!"could not open input file {path}"
  | inputNotRead _ => "failed to read input frame"
  | outputNotCreated path _ => s!"could not create output file {path}"
  | outputNotWritten path _ => s!"could not write output file {path}"
  | encoder step _ => step.text
  | noFreeSurface poolSize => s!"no free surface in a pool of {poolSize}"
  | syncTimeout sync attempts => s!"{sync.text} still executing after {attempts} sync attempts"
  | resetFailed width height => s!"the reset procedure failed for {width}x{height}"

/-- The text of an error. -/
def message (error : EncodeError) : String :=
  match error.causeMessage? with
  | some cause => s!"{error.context}: {cause}"
  | none => error.context

end EncodeError

end Nv12Jpeg
