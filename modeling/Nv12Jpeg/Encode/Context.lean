import Nv12Jpeg.Encode.Error
import Nv12Jpeg.Encode.Options
import Nv12Jpeg.Session

/-!
# The state of an encode run

Everything a run works on: the session, the buffers, the source, the files and the log. Steps of a
run act on this state and may fail; what they changed before they failed stays changed.

* `EncodeM.call` makes a call on the session and books what comes of it;
* `EncodeM.setUp` negotiates parameters, initializes the encoder and allocates the buffers;
* `EncodeM.finish` closes the session and sums the run up.
-/

namespace Nv12Jpeg

/-- The state of an encode run. -/
structure EncodeContext (σ : Type) where
  session : Session σ
  options : EncodeOptions
  source : Source
  store : FileStore
  bitstream : Bitstream
  pool : SurfacePool
  /-- How many pools there were before this one. -/
  poolNumber : Nat
  accelerator : Option Accelerator
  params : EncodeParams
  framesWritten : Nat
  /-- The files that were written, in order. -/
  outputs : List String
  resets : Nat
  log : Array Event

/-- A step of an encode run. -/
abbrev EncodeM (σ : Type) := ExceptT (Failure EncodeError) (StateM (EncodeContext σ))

namespace EncodeContext

variable {σ : Type}

/-- The state before anything was asked of the encoder. -/
def start (session : Session σ) (source : Source) (options : EncodeOptions) (store : FileStore)
    (log : Array Event) : EncodeContext σ where
  session := session
  options := options
  source := source
  store := store
  bitstream := .empty 0
  pool := .none
  poolNumber := 0
  accelerator := none
  params := .jpeg options.width options.height options.frameRate options.quality
  framesWritten := 0
  outputs := []
  resets := 0
  log := log

/-- Reports an event. -/
def report (context : EncodeContext σ) (event : Event) : EncodeContext σ :=
  { context with log := context.log.push event }

/-- Books what came of a call, but for its reply. -/
def book {α : Type} (context : EncodeContext σ) (answer : Answer (Session σ) α) :
    EncodeContext σ :=
  { context with
    session := answer.state
    pool := answer.locks.foldl (LockChange.apply context.poolNumber) context.pool
    log := context.log ++ answer.events.toArray }

/-- Drops the session. -/
def release (context : EncodeContext σ) : EncodeContext σ := context.book context.session.drop

end EncodeContext

namespace EncodeM

variable {σ α : Type}

/-- Fails with a cause. -/
def fail (error : EncodeError) : EncodeM σ α := throw (.error error)

/-- The value of a computation that may stop. -/
def ofFault (result : Except Fault α) : EncodeM σ α :=
  match result with
  | .ok value => pure value
  | .error fault => throw (.fault fault)

/-- Reports an event. -/
def report (event : Event) : EncodeM σ Unit := modify (·.report event)

/-- Makes a call on the session. -/
def call (make : Session σ → Answer (Session σ) α) : EncodeM σ (Except EncoderError α) := do
  let context ← get
  let answer := make context.session
  set (context.book answer)
  match answer.reply with
  | .ok value => return .ok value
  | .error (.error error) => return .error error
  | .error (.fault fault) => throw (.fault fault)

/-- Makes a call without which the run cannot go on. -/
def demand (step : EncoderStep) (make : Session σ → Answer (Session σ) α) : EncodeM σ α := do
  match ← call make with
  | .ok value => return value
  | .error error => fail (.encoder step error)

/-- Opens what the implementation's device interface asks for and hands it over. -/
def openAccelerator : EncodeM σ Unit := do
  let context ← get
  match Accelerator.openFor context.store context.session.implementation.acceleration with
  | .error error => fail (.encoder .openAccelerator error)
  | .ok none => return
  | .ok (some accelerator) =>
    demand .attachAccelerator (Session.attach accelerator)
    modify fun context => { context with accelerator := some accelerator }

/-- Agrees on parameters with the encoder and initializes it. -/
def negotiate : EncodeM σ Unit := do
  let asked := (← get).params
  let (outcome, params) ← demand .query (Session.query asked)
  modify fun context => { context with params }
  if outcome = .adjusted then report (.paramsReplaced params)
  demand .init (Session.init params)
  report .initializationTimed

/-- Allocates a pool of as many surfaces as the encoder suggests. -/
def allocatePool : EncodeM σ SurfaceRequest := do
  let params := (← get).params
  let request ← demand .surfaceRequest (Session.surfaceRequest params)
  modify fun context => { context with
    pool := .allocate params.frameInfo request.suggested
    poolNumber := context.poolNumber + 1 }
  return request

/-- Gets everything ready for the first frame. -/
def setUp : EncodeM σ Unit := do
  report (.implementationInUse (← get).session.implementation)
  openAccelerator
  negotiate
  let request ← allocatePool
  let bitstream ← ofFault (Bitstream.allocate (← get).options.bitstreamCapacity)
  modify fun context => { context with bitstream }
  let context ← get
  report (.buffersAllocated context.pool.size request.minimum context.bitstream.capacity)

/-- Closes the session and sums the run up. -/
def finish (reason : StopReason) : EncodeM σ EncodeSummary := do
  report (.encodingFinished (← get).framesWritten reason)
  demand .close Session.close
  let context ← get
  if let some accelerator := context.accelerator then
    report (.acceleratorReleased accelerator.path)
  return {
    framesWritten := context.framesWritten
    outputs := context.outputs
    stopReason := reason
    frameInfo := context.params.frameInfo
    poolSize := context.pool.size
    resets := context.resets }

end EncodeM

end Nv12Jpeg
