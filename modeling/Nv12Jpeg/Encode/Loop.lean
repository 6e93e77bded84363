import Nv12Jpeg.Encode.Context

/-!
# The encode loop

A round of the loop makes one submission: of the next frame of the source, or a flush once the
source has ended. A submission that is queued with a sync point is waited for and its result
written to the next file before the next round. The loop stops when a flush finds nothing left,
when the frame limit is reached, when a submission is refused in a way there is no policy for, or
when flushing makes no progress.

* `EncodeM.nextSubmission` makes the submission of a round;
* `EncodeM.synchronize` waits for a result, attempt by attempt;
* `EncodeM.complete` writes a result and applies what is due after it;
* `EncodeM.round` is one round, and `EncodeM.runLoop` is the loop.
-/

namespace Nv12Jpeg

/-- Where a loop stands between two rounds. -/
structure LoopState where
  /-- Whether the source has ended. -/
  draining : Bool
  /-- How many flushes in a row made no progress. -/
  stalled : Nat
  deriving DecidableEq, Repr

/-- The start of a loop. -/
def LoopState.start : LoopState := ⟨false, 0⟩

/-- What a round leads to. -/
inductive RoundEnd where
  | next (state : LoopState)
  | stop (reason : StopReason)
  deriving DecidableEq, Repr

/-- Whether a submission brought the run forward. -/
inductive Progress where
  | made
  | stalled
  | stop (reason : StopReason)
  deriving DecidableEq, Repr

namespace EncodeM

variable {σ : Type}

/-- Fills a free surface with the next frame. There is nothing to submit if the source ends. -/
def readFrame : EncodeM σ (Option Submission) := do
  let context ← get
  match context.pool.findFree with
  | none => fail (.noFreeSurface context.pool.size)
  | some index =>
    let (ending, pool, source) ←
      ofFault (context.pool.readFrame index context.store context.source)
    set { context with pool, source }
    match ending with
    | some .complete =>
      return (pool.surface? index).map fun surface => ⟨⟨context.poolNumber, index⟩, surface⟩
    | some (.failed error) => fail (.inputNotRead error)
    | _ => return none

/-- Submits the next frame, or a flush if there is none; tells whether the source has ended. -/
def nextSubmission (draining : Bool) : EncodeM σ (Except EncoderError SubmitStatus × Bool) := do
  if draining then
    return (← call (Session.submit none), true)
  else
    match ← readFrame with
    | some submission => return (← call (Session.submit (some submission)), false)
    | none =>
      report .inputEnded
      return (← call (Session.submit none), true)

/-- Makes one attempt at collecting a result. -/
def syncOnce (sync : SyncPoint) : EncodeM σ (Except EncoderError SyncStatus) := do
  let context ← get
  let (answer, bitstream) :=
    context.session.sync sync context.options.sync.waitMs context.bitstream
  set { context with bitstream }
  call fun _ => answer

/-- Waits for a result with `left` attempts, the first of them number `attempt`. A result that the
output buffer has no room for is dropped: then there is nothing to write. -/
def attemptSync (sync : SyncPoint) : (left attempt : Nat) → EncodeM σ Bool
  | 0, attempt => fail (.syncTimeout sync (attempt - 1))
  | left + 1, attempt => do
    match ← syncOnce sync with
    | .ok .done => return true
    | .ok .inExecution =>
      report (.stillExecuting sync attempt)
      attemptSync sync left (attempt + 1)
    | .error (.notEnoughBuffer needed available) =>
      report (.frameDropped sync needed available)
      modify fun context => { context with bitstream := context.bitstream.clear }
      return false
    | .error error => fail (.encoder .sync error)

/-- Waits for a result, and tells whether there is one to write. -/
def synchronize (sync : SyncPoint) : EncodeM σ Bool := do
  attemptSync sync (← get).options.sync.attempts 1

/-- What takes the bytes of a new file. -/
def outputSink (store : FileStore) : Sink :=
  match store.room with
  | none => .unbounded
  | some room => .failingAfter room .noSpace

/-- The number of the next frame after `frames` of them; 32 bits hold it, or there is none. -/
def nextFrame (frames : Nat) : Except Fault Nat :=
  if frames + 1 < 0x100000000 then .ok (frames + 1) else .error .sizeOverflow

/-- Writes the waiting bytes to the file of the next frame. -/
def writeOutput : EncodeM σ Unit := do
  let context ← get
  let frame ← ofFault (nextFrame context.framesWritten)
  let path := FileStore.join context.options.outputDir (outputFileName frame)
  match context.store.create path with
  | .error error => fail (.outputNotCreated path error)
  | .ok (location, store) =>
    let (written, sink, bitstream) := context.bitstream.writeTo (outputSink store)
    let context := { context with
      store := store.fill location sink.received, bitstream }
    match written with
    | .error error =>
      set context
      fail (.outputNotWritten path error)
    | .ok bytes =>
      set { context with framesWritten := frame, outputs := context.outputs ++ [path] }
      report (.frameWritten path bytes frame)

/-- Goes on with another input. -/
def changeInput (path : String) : EncodeM σ Unit := do
  match Source.openFile (← get).store path with
  | .error error => fail (.inputNotOpened path error)
  | .ok source => modify fun context => { context with source }

/-- Goes on with another picture size, in surfaces of that size. -/
def changeSize (width height : UInt16) : EncodeM σ Unit := do
  modify fun context => { context with params := context.params.withResolution width height }
  match ← call (Session.resetResolution (← get).params) with
  | .ok true =>
    let _ ← allocatePool
    modify fun context => { context with resets := context.resets + 1 }
    let context ← get
    report (.surfacesReallocated context.params.frameInfo context.pool.size)
  | _ => fail (.resetFailed width height)

/-- Goes on with another picture size and perhaps another input. -/
def applyChange (change : ResolutionChange) : EncodeM σ Unit := do
  if let some path := change.input then changeInput path
  changeSize change.width change.height

/-- Applies the resolution change if it is due after the last frame. -/
def applyDueChange : EncodeM σ Unit := do
  let context ← get
  match context.options.resolutionChange with
  | some change =>
    if change.afterFrames.toNat = context.framesWritten then applyChange change
  | none => return

/-- Whether as many frames were written as there may be. -/
def limitReached (context : EncodeContext σ) : Bool :=
  match context.options.maxFrames with
  | some limit => decide (limit.toNat ≤ context.framesWritten)
  | none => false

/-- Waits for a result, writes it, and applies what is due after it. -/
def complete (sync : SyncPoint) : EncodeM σ Progress := do
  if ← synchronize sync then
    writeOutput
    applyDueChange
    return if limitReached (← get) then .stop .frameLimit else .made
  else
    return .made

/-- Acts on the reply to a submission. -/
def settle (draining : Bool) : Except EncoderError SubmitStatus → EncodeM σ Progress
  | .ok (.queued (some sync)) => complete sync
  | .ok (.queued none) => return .stalled
  | .ok .moreData => return if draining then .stop .drained else .made
  | .error (.notEnoughBuffer needed available) => do
    report (.submissionTooLarge needed available)
    return .stalled
  | .error (.deviceLost detail) => do
    report (.deviceLost detail)
    return .stalled
  | .error (.temporaryBackpressure detail) => do
    report (.deviceBusy detail)
    return .stalled
  | .error error => do
    report (.submissionRefused error)
    return .stop .unknownStatus

/-- Ends a round: the loop goes on unless it has come to its end, or flushing makes no progress. -/
def endRound (state : LoopState) (draining : Bool) (progress : Progress) : EncodeM σ RoundEnd := do
  match progress with
  | .stop reason => return .stop reason
  | progress =>
    if draining then
      let stalled := if progress = .stalled then state.stalled + 1 else 0
      if (← get).options.sync.attempts ≤ stalled then
        report (.flushStalled stalled)
        return .stop .flushStalled
      else return .next ⟨draining, stalled⟩
    else return .next ⟨draining, state.stalled⟩

/-- One round of the loop. -/
def round (state : LoopState) : EncodeM σ RoundEnd := do
  let (reply, draining) ← nextSubmission state.draining
  let progress ← settle draining reply
  endRound state draining progress

/-- At most `rounds` rounds of the loop. -/
def runRounds : (rounds : Nat) → LoopState → EncodeM σ StopReason
  | 0, _ => throw (.fault .unfinished)
  | rounds + 1, state => do
    match ← round state with
    | .stop reason => return reason
    | .next state => runRounds rounds state

/-- More rounds than any run has time for: one for each byte there is to read, and a number that
no count of flushes reaches. -/
def roundLimit (context : EncodeContext σ) : Nat :=
  context.source.size + context.store.size + 0x4000000000000000

/-- The loop. -/
def runLoop : EncodeM σ StopReason := do
  runRounds (roundLimit (← get)) .start

end EncodeM

end Nv12Jpeg
