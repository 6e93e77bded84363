import Nv12Jpeg.CompletionQueue
import Nv12Jpeg.Encoder.Basic
import Nv12Jpeg.Jpeg.File

/-!
# The encoding worker

A worker takes jobs in the order of their submission. Each holds a copy of its frame and a guard
on the surface the copy was made from; the guard is dropped before the result is sent.

* `Worker.advance` finishes some of the jobs;
* `Worker.stop` gives up all of them, and drops their guards.
-/

namespace Nv12Jpeg

/-- A frame to be encoded. -/
structure EncodeJob where
  sync : SyncPoint
  frame : Nv12Frame
  quality : UInt8
  guarded : SurfaceId
  deriving DecidableEq, Repr

/-- The encoded frame, or the error for which there is none. -/
abbrev JobResult := Except EncoderError Bytes

/-- Jobs that wait, oldest first, and the queue of results. -/
structure Worker where
  pending : List EncodeJob
  results : CompletionQueue SyncPoint JobResult

namespace Worker

/-- A worker without jobs whose queue holds `depth` results. -/
def start (depth : Nat) : Worker := ⟨[], .ofCapacity depth⟩

/-- Whether the worker takes jobs; one that met a fault does not. -/
def isRunning (worker : Worker) : Bool := worker.results.senders != 0

/-- Hands a job to the worker. -/
def push (worker : Worker) (job : EncodeJob) : Worker :=
  { worker with pending := worker.pending ++ [job] }

/-- Drops the guards of jobs. -/
def releases (jobs : List EncodeJob) : List LockChange := jobs.map (.released ·.guarded)

/-- Gives up every job. -/
def stop (worker : Worker) : List LockChange := releases worker.pending

/-- Sends a result. -/
def send (worker : Worker) (sync : SyncPoint) (result : JobResult) : Worker :=
  { worker with results := (worker.results.complete sync result).2 }

/-- Finishes the oldest job, unless there is none or its result would have to wait for room. A
fault ends the worker, and with it every job. -/
def step (worker : Worker) : Worker × List LockChange :=
  match worker.pending with
  | [] => (worker, [])
  | job :: rest =>
    if worker.results.isFull then (worker, [])
    else
      match job.frame.toJpeg job.quality with
      | .ok bytes =>
        ({ worker with pending := rest }.send job.sync (.ok bytes), [.released job.guarded])
      | .error (.error error) =>
        ({ worker with pending := rest }.send job.sync (.error error), [.released job.guarded])
      | .error (.fault _) => (⟨[], worker.results.dropSender⟩, worker.stop)

/-- Finishes up to `jobs` jobs. -/
def advance : (jobs : Nat) → Worker → Worker × List LockChange
  | 0, worker => (worker, [])
  | jobs + 1, worker =>
    let (worker, locks) := worker.step
    let (worker, later) := advance jobs worker
    (worker, locks ++ later)

end Worker

end Nv12Jpeg
