import Nv12Jpeg.Encode.Options
import Nv12Jpeg.Encoder.Reply
import Nv12Jpeg.Implementation

/-!
# Log events

What is reported in the course of encoding. An event has a level, a message and named fields.
Durations are not part of an event; where its text has one, `<ms>` stands for it.
-/

namespace Nv12Jpeg

/-- How important an event is. -/
inductive LogLevel where
  | error
  | warn
  | info
  | debug
  | trace
  deriving DecidableEq, Repr

/-- The name of a level. -/
def LogLevel.text : LogLevel → String
  | .error => "ERROR"
  | .warn => "WARN"
  | .info => "INFO"
  | .debug => "DEBUG"
  | .trace => "TRACE"

/-- Something worth reporting. -/
inductive Event where
  | implementationSelected (implementation : Implementation)
  | implementationInUse (implementation : Implementation)
  | paramsAdjusted (params : EncodeParams)
  | paramsReplaced (params : EncodeParams)
  | encoderInitialized (params : EncodeParams)
  | encoderReset (params : EncodeParams)
  /-- The result of a submission was collected; with the state of the queue it came through. -/
  | resultCollected (sync : SyncPoint) (depth peak parked : Nat)
  | initializationTimed
  | buffersAllocated (surfaces : Nat) (minimum : UInt16) (capacity : Nat)
  | inputEnded
  | submissionTooLarge (needed available : Nat)
  | deviceLost (detail : String)
  | deviceBusy (detail : String)
  | submissionRefused (error : EncoderError)
  | flushStalled (submissions : Nat)
  | stillExecuting (sync : SyncPoint) (attempt : Nat)
  | frameDropped (sync : SyncPoint) (needed available : Nat)
  | frameWritten (path : String) (bytes frame : Nat)
  | paramsBeforeReset (params : EncodeParams)
  | paramsUnknown (error : EncoderError)
  | resetRefused (error : EncoderError)
  | resetTimed
  | surfacesReallocated (info : FrameInfo) (surfaces : Nat)
  | encodingFinished (frames : Nat) (reason : StopReason)
  | acceleratorReleased (path : String)
  | closeFailed (error : EncoderError)
  deriving DecidableEq, Repr

namespace Event

/-- How important an event is. -/
def level : Event → LogLevel
  | paramsUnknown _ | resetRefused _ | submissionRefused _ => .error
  | submissionTooLarge _ _ | deviceLost _ | deviceBusy _ | flushStalled _
  | frameDropped _ _ _ => .warn
  | implementationSelected _ | implementationInUse _ | paramsReplaced _ | initializationTimed
  | resetTimed | surfacesReallocated _ _ | encodingFinished _ _ => .info
  | stillExecuting _ _ => .trace
  | paramsAdjusted _ | encoderInitialized _ | encoderReset _ | resultCollected _ _ _ _
  | buffersAllocated _ _ _ | inputEnded | frameWritten _ _ _ | paramsBeforeReset _
  | acceleratorReleased _ | closeFailed _ => .debug

/-- The text of an event, without its fields. -/
def message : Event → String
  | implementationSelected _ => "implementation selected"
  | implementationInUse _ => "implementation details"
  | paramsAdjusted _ => "encode parameters adjusted by implementation"
  | paramsReplaced _ => "incompatible parameters replaced by closest supported match"
  | encoderInitialized _ => "cpu encoder initialized"
  | encoderReset _ => "cpu encoder reset"
  | resultCollected _ _ _ _ => "cpu encode metrics"
  | initializationTimed => "initialization time: <ms>"
  | buffersAllocated _ _ _ => "buffers allocated"
  | inputEnded => "end of input, draining"
  | submissionTooLarge _ _ => "output buffer too small, frame dropped"
  | deviceLost _ => "device lost, session needs cleanup"
  | deviceBusy _ => "device busy, submission should back off"
  | submissionRefused _ => "unknown status"
  | flushStalled _ => "flush makes no progress, giving up on draining"
  | stillExecuting _ _ => "still executing"
  | frameDropped _ _ _ => "encoded frame exceeds output buffer, dropped"
  | frameWritten _ _ _ => "frame written"
  | paramsBeforeReset _ => "parameters selected by encoder before reset"
  | paramsUnknown _ => "get parameter failed"
  | resetRefused _ => "encode reset failed"
  | resetTimed => "reset time: <ms>"
  | surfacesReallocated _ _ => "surface pool reallocated after reset"
  | encodingFinished frames _ => s!"Encoded {frames} frames"
  | acceleratorReleased _ => "releasing accelerator handle"
  | closeFailed _ => "encode session close failed during drop"

/-- The fields of an event with their texts. -/
def fields : Event → List (String × String)
  | implementationSelected implementation => [("selected", implementation.text)]
  | implementationInUse implementation => [("implementation", implementation.text)]
  | paramsAdjusted params | paramsReplaced params | encoderInitialized params
  | encoderReset params => [("params", params.text)]
  | resultCollected sync depth peak parked =>
    [("sync", sync.text), ("convert_ms", "<ms>"), ("encode_ms", "<ms>"),
     ("queue_depth", toString depth), ("queue_peak", toString peak), ("parked", toString parked)]
  | buffersAllocated surfaces minimum capacity =>
    [("surfaces", toString surfaces), ("minimum", toString minimum),
     ("bitstream_capacity", toString capacity)]
  | submissionTooLarge needed available =>
    [("needed", toString needed), ("available", toString available)]
  | deviceLost detail | deviceBusy detail => [("detail", detail)]
  | submissionRefused error | paramsUnknown error | resetRefused error | closeFailed error =>
    [("err", error.message)]
  | flushStalled submissions => [("stalled_flushes", toString submissions)]
  | stillExecuting sync attempt => [("sync", sync.text), ("attempt", toString attempt)]
  | frameDropped sync needed available =>
    [("sync", sync.text), ("needed", toString needed), ("available", toString available)]
  | frameWritten path bytes frame =>
    [("path", path), ("bytes", toString bytes), ("frame", toString frame)]
  | paramsBeforeReset params => [("current", params.text)]
  | surfacesReallocated info surfaces =>
    [("frame", info.text), ("surfaces", toString surfaces)]
  | encodingFinished _ reason => [("stop_reason", reason.text)]
  | acceleratorReleased path => [("path", path)]
  | initializationTimed | inputEnded | resetTimed => []

end Event

end Nv12Jpeg
