import Nv12Jpeg.Accelerator
import Nv12Jpeg.Bitstream
import Nv12Jpeg.Log
import Nv12Jpeg.Surface.Pool

/-!
# Encoders

What an application can ask of an encoder. An encoder is a record of functions on a state of its
own, one for each call. An answer carries, beside the reply and the next state, what the call
reported and the guards it took on surfaces or dropped.

Guards outlive calls: an encoder may keep one on a surface it was given for as long as it likes.
-/

namespace Nv12Jpeg

/-- A surface, by the pool it belongs to and its place in it. -/
structure SurfaceId where
  pool : Nat
  index : Nat
  deriving DecidableEq, Repr

/-- A guard taken on a surface or dropped. -/
inductive LockChange where
  | acquired (surface : SurfaceId)
  | released (surface : SurfaceId)
  deriving DecidableEq, Repr

/-- Books a guard on a surface of the pool with a number. Guards on surfaces of other pools, which
are gone, no longer matter. -/
def LockChange.apply (poolNumber : Nat) (pool : SurfacePool) : LockChange → SurfacePool
  | .acquired surface => if surface.pool = poolNumber then pool.acquire surface.index else pool
  | .released surface => if surface.pool = poolNumber then pool.release surface.index else pool

/-- A surface handed to an encoder. -/
structure Submission where
  id : SurfaceId
  surface : Surface
  deriving DecidableEq, Repr

/-- What comes of a call. -/
structure Answer (σ α : Type) where
  reply : Attempt EncoderError α
  state : σ
  events : List Event
  locks : List LockChange

namespace Answer

variable {σ τ α β : Type}

/-- A reply without anything reported or locked. -/
def quiet (reply : Attempt EncoderError α) (state : σ) : Answer σ α := ⟨reply, state, [], []⟩

/-- A call that succeeds with `value`. -/
def ok (value : α) (state : σ) : Answer σ α := quiet (.ok value) state

/-- A call that is refused and changes nothing. -/
def refused (error : EncoderError) (state : σ) : Answer σ α := quiet (.fail error) state

/-- The same answer with its state seen as part of another. -/
def mapState (f : σ → τ) (answer : Answer σ α) : Answer τ α :=
  ⟨answer.reply, f answer.state, answer.events, answer.locks⟩

/-- The same answer with its value seen as another. -/
def mapReply (f : α → β) (answer : Answer σ α) : Answer σ β :=
  ⟨answer.reply.map f, answer.state, answer.events, answer.locks⟩

/-- The same answer after an earlier one, whose reports and guards come first. -/
def after (answer : Answer σ α) (earlier : Answer τ β) : Answer σ α :=
  { answer with
    events := earlier.events ++ answer.events
    locks := earlier.locks ++ answer.locks }

/-- The same answer with one more report at its end. -/
def report (answer : Answer σ α) (event : Event) : Answer σ α :=
  { answer with events := answer.events ++ [event] }

end Answer

/-- The calls an encoder answers. -/
structure Encoder (σ : Type) where
  /-- The encoder's description. -/
  implementation : σ → Implementation
  /-- Hands over an open device. -/
  attach : Accelerator → σ → Answer σ Unit
  /-- Judges parameters, and replaces those that are not supported. -/
  query : EncodeParams → σ → Answer σ (QueryOutcome × EncodeParams)
  /-- Gets ready to encode. -/
  init : EncodeParams → σ → Answer σ Unit
  /-- Tells what surfaces it needs. -/
  surfaceRequest : EncodeParams → σ → Answer σ SurfaceRequest
  /-- Tells the parameters in force. -/
  currentParams : σ → Answer σ EncodeParams
  /-- Goes on with other parameters. -/
  reset : EncodeParams → σ → Answer σ Unit
  /-- Takes a frame, or without one is asked to flush. -/
  submit : Option Submission → σ → Answer σ SubmitStatus
  /-- Waits for a result and appends it to the output buffer. -/
  sync : (sync : SyncPoint) → (waitMs : Nat) → Bitstream → σ → Answer σ SyncStatus × Bitstream
  /-- Gives everything up. -/
  close : σ → Answer σ Unit

end Nv12Jpeg
