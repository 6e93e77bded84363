import Nv12Jpeg.Encoder.Basic

/-!
# Recorded calls

`Encoder.recorded` is an encoder that answers as another one does and writes down each call: what it
was given, its reply, the guards it took or dropped, and what it did to the output buffer.
-/

namespace Nv12Jpeg

/-- A call and its reply. -/
inductive Turn where
  | attach (accelerator : Accelerator) (reply : Attempt EncoderError Unit)
  | query (params : EncodeParams) (reply : Attempt EncoderError (QueryOutcome × EncodeParams))
  | init (params : EncodeParams) (reply : Attempt EncoderError Unit)
  | surfaceRequest (params : EncodeParams) (reply : Attempt EncoderError SurfaceRequest)
  | currentParams (reply : Attempt EncoderError EncodeParams)
  | reset (params : EncodeParams) (reply : Attempt EncoderError Unit)
  | submit (submission : Option Submission) (reply : Attempt EncoderError SubmitStatus)
  | sync (sync : SyncPoint) (waitMs : Nat) (reply : Attempt EncoderError SyncStatus)
  | close (reply : Attempt EncoderError Unit)

/-- A call with its effects. -/
structure Entry where
  turn : Turn
  /-- The guards it took or dropped. -/
  locks : List LockChange
  /-- The output buffer before and after it, if it was given that. -/
  output : Option (Bitstream × Bitstream)

/-- The bytes that a call has added to the output buffer. -/
def Entry.added (entry : Entry) : Bytes :=
  match entry.output with
  | some (given, left) => left.bytes.extract given.bytes.size left.bytes.size
  | none => #[]

namespace Encoder

variable {σ α : Type}

/-- Adds a call to those that were recorded. -/
def recording (turn : Attempt EncoderError α → Turn) (output : Option (Bitstream × Bitstream))
    (make : σ → Answer σ α) (state : σ × List Entry) : Answer (σ × List Entry) α :=
  let answer := make state.1
  answer.mapState fun next => (next, state.2 ++ [⟨turn answer.reply, answer.locks, output⟩])

/-- Answers like `encoder` and keeps the calls, oldest first. -/
def recorded (encoder : Encoder σ) : Encoder (σ × List Entry) where
  implementation := fun state => encoder.implementation state.1
  attach := fun accelerator => recording (.attach accelerator) none (encoder.attach accelerator)
  query := fun params => recording (.query params) none (encoder.query params)
  init := fun params => recording (.init params) none (encoder.init params)
  surfaceRequest := fun params =>
    recording (.surfaceRequest params) none (encoder.surfaceRequest params)
  currentParams := recording .currentParams none encoder.currentParams
  reset := fun params => recording (.reset params) none (encoder.reset params)
  submit := fun submission => recording (.submit submission) none (encoder.submit submission)
  sync := fun sync waitMs given state =>
    let (answer, left) := encoder.sync sync waitMs given state.1
    (recording (.sync sync waitMs) (some (given, left)) (fun _ => answer) state, left)
  close := recording .close none encoder.close

end Encoder

end Nv12Jpeg
