import Nv12Jpeg.Credits
import Nv12Jpeg.Encoder.ParamsCheck
import Nv12Jpeg.Encoder.Worker

/-!
# The software encoder

Frames are copied when they are submitted and encoded by a worker beside the application. A
credit is used from a submission until its result is collected, so that no more submissions are
under way than the parameters allow.

How far the worker gets before a result is asked for is not up to the encoder, nor when that is. It
is the encoder's *schedule*: for each wait the number of jobs that are finished by then and the time
on the clock. Behind the end of the schedule all jobs are finished, and the clock has just started.
-/

namespace Nv12Jpeg

/-- What a wait for a result finds. -/
structure Occasion where
  /-- How many jobs are finished by then. -/
  finished : Nat
  /-- For how many nanoseconds the clock has been running. -/
  present : UInt64
  deriving DecidableEq, Repr

/-- The state of the software encoder. -/
structure CpuEncoder where
  /-- Whether collected results are reported. -/
  reportsResults : Bool
  /-- The parameters in force; none before initialization and after closing. -/
  params : Option EncodeParams
  /-- The worker that goes with the parameters. -/
  worker : Option Worker
  credits : Credits
  /-- The submissions whose result was not collected. -/
  outstanding : List SyncPoint
  /-- The number of the next sync point. -/
  nextSync : Nat
  /-- What the waits to come find. -/
  schedule : List Occasion

namespace CpuEncoder

/-- An encoder that was not initialized. -/
def new (reportsResults : Bool) (schedule : List Occasion) : CpuEncoder where
  reportsResults := reportsResults
  params := none
  worker := none
  credits := .ofCapacity 1
  outstanding := []
  nextSync := 1
  schedule := schedule

/-- Whether results are reported when the environment asks for it with this text. -/
def reportsFor : (setting : Option String) → Bool
  | some text => text == "1" || text.toLower == "true"
  | none => false

/-- How many submissions may be under way. -/
def depthOf (params : EncodeParams) : Nat := max params.asyncDepth.toNat 1

/-- Judges parameters. -/
def query (params : EncodeParams) (cpu : CpuEncoder) :
    Answer CpuEncoder (QueryOutcome × EncodeParams) :=
  match params.fixedDefect? .cpu with
  | some defect => .refused defect.toError cpu
  | none => .ok params.adjust cpu

/-- Gets ready for parameters that have no defect, with a worker that `spawn` starts unless that
fails. -/
def initSpawning (spawn : Nat → Except EncoderError Worker) (params : EncodeParams)
    (cpu : CpuEncoder) : Answer CpuEncoder Unit :=
  if cpu.params.isSome then .refused (.backend "encoder is already initialized") cpu
  else
    match params.defect? .cpu with
    | some defect => .refused defect.toError cpu
    | none =>
      match spawn (depthOf params) with
      | .error error => .refused error cpu
      | .ok worker =>
        let params := params.withWorstCase
        (Answer.ok () { cpu with
          params := some params
          worker := some worker
          credits := .ofCapacity (depthOf params) }).report (.encoderInitialized params)

/-- Gets ready on a system that starts every worker. -/
def init (params : EncodeParams) (cpu : CpuEncoder) : Answer CpuEncoder Unit :=
  cpu.initSpawning (fun depth => .ok (.start depth)) params

theorem init_of_sound {params : EncodeParams} {cpu : CpuEncoder} (fresh : cpu.params = none)
    (sound : params.defect? .cpu = none) :
    cpu.init params = (Answer.ok () { cpu with
      params := some params.withWorstCase
      worker := some (.start (depthOf params))
      credits := .ofCapacity (depthOf params) }).report
        (.encoderInitialized params.withWorstCase) := by
  rw [init, initSpawning, fresh, sound]
  rfl

theorem init_of_defect {params : EncodeParams} {cpu : CpuEncoder} {defect : ParamsDefect}
    (fresh : cpu.params = none) (found : params.defect? .cpu = some defect) :
    cpu.init params = .refused defect.toError cpu := by
  rw [init, initSpawning, fresh, found]
  rfl

/-- Asks for one surface more than submissions may be under way, as far as 16 bits count. -/
def surfaceRequest (params : EncodeParams) (cpu : CpuEncoder) :
    Answer CpuEncoder SurfaceRequest :=
  match params.fixedDefect? .cpu with
  | some defect => .refused defect.toError cpu
  | none =>
    let depth := depthOf params
    .ok ⟨UInt16.ofNat depth, UInt16.ofNat (min (depth + 1) 65535), params.frameInfo⟩ cpu

/-- The parameters in force. -/
def currentParams (cpu : CpuEncoder) : Answer CpuEncoder EncodeParams :=
  match cpu.params with
  | some params => .ok params cpu
  | none => .refused .notInitialized cpu

/-- Replaces the parameters in force. -/
def reset (params : EncodeParams) (cpu : CpuEncoder) : Answer CpuEncoder Unit :=
  match cpu.params with
  | none => .refused .notInitialized cpu
  | some current =>
    match params.defect? .cpu with
    | some defect => .refused defect.toError cpu
    | none =>
      if depthOf params ≠ depthOf current then
        .refused (.unsupportedConfig "async depth cannot change on reset") cpu
      else
        let params := params.withWorstCase
        (Answer.ok () { cpu with params := some params }).report (.encoderReset params)

/-- Copies a surface and hands the copy to the worker, if a credit is left. -/
def submitSurface (params : EncodeParams) (worker : Worker) (submission : Submission)
    (cpu : CpuEncoder) : Answer CpuEncoder SubmitStatus :=
  let info := submission.surface.info
  let expected := params.frameInfo
  if info.cropW ≠ expected.cropW ∨ info.cropH ≠ expected.cropH then
    .refused (.invalidInput (s!"surface {info.cropW}x{info.cropH} does not match encoder "
      ++ s!"{expected.cropW}x{expected.cropH}")) cpu
  else
    match cpu.credits.acquire? with
    | none =>
      .refused (.temporaryBackpressure
        s!"{cpu.credits.used}/{cpu.credits.capacity} submissions awaiting sync") cpu
    | some credits =>
      match submission.surface.toFrame with
      | .error fault => .quiet (.error (.fault fault)) { cpu with credits }
      | .ok frame =>
        if worker.isRunning then
          let sync : SyncPoint := ⟨cpu.nextSync⟩
          let quality := UInt8.ofNat (min params.quality.toNat 100)
          { reply := .ok (.queued (some sync))
            state := { cpu with
              worker := some (worker.push ⟨sync, frame, quality, submission.id⟩)
              credits := credits
              outstanding := sync :: cpu.outstanding
              nextSync := cpu.nextSync + 1 }
            events := []
            locks := [.acquired submission.id] }
        else
          -- The job comes back with its guard, and the credit is not needed after all.
          { reply := .fail (.deviceLost "encode worker exited")
            state := { cpu with credits := credits.release }
            events := []
            locks := [.acquired submission.id, .released submission.id] }

/-- Takes a frame. Every submission is queued with its sync point, so there is nothing to flush. -/
def submit (submission : Option Submission) (cpu : CpuEncoder) : Answer CpuEncoder SubmitStatus :=
  match cpu.params, cpu.worker with
  | some params, some worker =>
    match submission with
    | none => .ok .moreData cpu
    | some submission => cpu.submitSurface params worker submission
  | _, _ => .refused .notInitialized cpu

/-- What the next wait finds, and the waits behind it. -/
def nextWait (cpu : CpuEncoder) (worker : Worker) : Occasion × List Occasion :=
  match cpu.schedule with
  | [] => (⟨worker.pending.length, 0⟩, [])
  | occasion :: rest => (occasion, rest)

/-- Books a collected result and appends it to the output buffer. -/
def collect (sync : SyncPoint) (result : JobResult) (worker : Worker) (bitstream : Bitstream)
    (cpu : CpuEncoder) : Answer CpuEncoder SyncStatus × Bitstream :=
  let cpu := { cpu with
    worker := some worker
    credits := cpu.credits.release
    outstanding := cpu.outstanding.filter (· ≠ sync) }
  let queue := worker.results
  let answer (reply : Except EncoderError SyncStatus) : Answer CpuEncoder SyncStatus :=
    { reply := .ofError reply
      state := cpu
      events := if cpu.reportsResults then
          [.resultCollected sync queue.depth queue.peak queue.parkedCount]
        else []
      locks := [] }
  match result.bind bitstream.append with
  | .ok bitstream => (answer (.ok .done), bitstream)
  | .error error => (answer (.error error), bitstream)

/-- Waits for the result of a submission. A wait whose end the clock cannot tell finds nothing and
changes nothing. -/
def sync (sync : SyncPoint) (waitMs : Nat) (bitstream : Bitstream) (cpu : CpuEncoder) :
    Answer CpuEncoder SyncStatus × Bitstream :=
  if sync ∉ cpu.outstanding then
    (.refused (.invalidInput s!"unknown sync point {sync.text}") cpu, bitstream)
  else
    match cpu.worker with
    | none => (.refused .notInitialized cpu, bitstream)
    | some worker =>
      let (occasion, schedule) := cpu.nextWait worker
      let (worker, locks) := worker.advance occasion.finished
      match worker.results.wait sync occasion.present waitMs with
      | .error fault => (.quiet (.error (.fault fault)) cpu, bitstream)
      | .ok (waited, results) =>
        let worker := { worker with results }
        let cpu := { cpu with worker := some worker, schedule }
        let (answer, bitstream) := match waited with
          | .received result => cpu.collect sync result worker bitstream
          | .missing => (.ok .inExecution cpu, bitstream)
          | .disconnected => (.refused (.deviceLost "encode worker exited") cpu, bitstream)
        ({ answer with locks := locks ++ answer.locks }, bitstream)

/-- Stops the worker; jobs that were not finished are lost. -/
def close (cpu : CpuEncoder) : Answer CpuEncoder Unit where
  reply := .ok ()
  state := { cpu with
    params := none
    worker := none
    credits := .ofCapacity 1
    outstanding := [] }
  events := []
  locks := match cpu.worker with
    | some worker => worker.stop
    | none => []

/-- The calls of the software encoder; it has no use for a device. -/
def encoder : Encoder CpuEncoder where
  implementation := fun _ => .cpu
  attach := fun _ => .refused (.unsupportedConfig
    "accelerator handles are not used by this implementation")
  query := query
  init := init
  surfaceRequest := surfaceRequest
  currentParams := currentParams
  reset := reset
  submit := submit
  sync := sync
  close := close

end CpuEncoder

end Nv12Jpeg
