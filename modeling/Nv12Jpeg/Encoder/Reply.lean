import Nv12Jpeg.Params

/-!
# What an encoder replies

A submission that was queued is known by its sync point until its result is collected. A call that
an encoder refuses or fails has a cause, and each cause a text.
-/

namespace Nv12Jpeg

/-- The token of one submission. -/
structure SyncPoint where
  number : Nat
  deriving DecidableEq, Repr

/-- A sync point as it is written in messages. -/
def SyncPoint.text (sync : SyncPoint) : String := s!"sync#{sync.number}"

/-- What a submission leads to. -/
inductive SubmitStatus where
  /-- The work is under way; with a sync point if there is a result to collect. -/
  | queued (sync : Option SyncPoint)
  /-- Nothing is under way: the encoder needs another frame. -/
  | moreData
  deriving DecidableEq, Repr

/-- Whether the result of a submission was collected. -/
inductive SyncStatus where
  | done
  | inExecution
  deriving DecidableEq, Repr

/-- Why an encoder refused or failed a call. -/
inductive EncoderError where
  | unsupportedCodec (codec : Codec)
  | unsupportedConfig (detail : String)
  | invalidInput (detail : String)
  | notInitialized
  /-- The output buffer has no room for a whole encoded frame. -/
  | notEnoughBuffer (needed available : Nat)
  | temporaryBackpressure (detail : String)
  | deviceLost (detail : String)
  | backend (detail : String)
  deriving DecidableEq, Repr

/-- The text of an error. -/
def EncoderError.message : EncoderError → String
  | .unsupportedCodec codec => s!"unsupported codec: {codec.text}"
  | .unsupportedConfig detail => s!"unsupported config: {detail}"
  | .invalidInput detail => s!"invalid input: {detail}"
  | .notInitialized => "encoder is not initialized"
  | .notEnoughBuffer needed available =>
    s!"bitstream buffer too small: need {needed} bytes, have {available}"
  | .temporaryBackpressure detail => s!"temporary backpressure: {detail}"
  | .deviceLost detail => s!"device lost: {detail}"
  | .backend detail => s!"backend error: {detail}"

end Nv12Jpeg
