import Nv12Jpeg.Encoder.Cpu

/-!
# Encode sessions

A session is bound to one encoder and passes calls on to it. It closes the encoder once: when it
is closed, or when it is dropped without having been closed.

* `Session.selectImplementation` chooses among the implementations at hand;
* `Session.create` selects an implementation and opens a session on its encoder;
* `Session.resetResolution` is the procedure by which a session goes on with other parameters.
-/

namespace Nv12Jpeg

/-- An encoder in use. -/
structure Session (σ : Type) where
  encoder : Encoder σ
  state : σ
  /-- Whether the session was closed. -/
  closed : Bool

namespace Session

variable {σ α : Type}

/-- A session on an encoder. -/
def ofEncoder (encoder : Encoder σ) (state : σ) : Session σ := ⟨encoder, state, false⟩

/-- The description of the session's encoder. -/
def implementation (session : Session σ) : Implementation :=
  session.encoder.implementation session.state

/-- Passes a call on to the encoder. -/
def pass (session : Session σ) (call : σ → Answer σ α) : Answer (Session σ) α :=
  (call session.state).mapState fun state => { session with state }

/-- Hands over an open device. -/
def attach (accelerator : Accelerator) (session : Session σ) : Answer (Session σ) Unit :=
  session.pass (session.encoder.attach accelerator)

/-- Has parameters judged, and reports whether they were adjusted. -/
def query (params : EncodeParams) (session : Session σ) :
    Answer (Session σ) (QueryOutcome × EncodeParams) :=
  let answer := session.pass (session.encoder.query params)
  match answer.reply with
  | .ok (.adjusted, params) => answer.report (.paramsAdjusted params)
  | _ => answer

/-- Gets the encoder ready. -/
def init (params : EncodeParams) (session : Session σ) : Answer (Session σ) Unit :=
  session.pass (session.encoder.init params)

/-- Asks what surfaces the encoder needs. -/
def surfaceRequest (params : EncodeParams) (session : Session σ) :
    Answer (Session σ) SurfaceRequest :=
  session.pass (session.encoder.surfaceRequest params)

/-- Asks for the parameters in force. -/
def currentParams (session : Session σ) : Answer (Session σ) EncodeParams :=
  session.pass session.encoder.currentParams

/-- Has the encoder go on with other parameters. -/
def reset (params : EncodeParams) (session : Session σ) : Answer (Session σ) Unit :=
  session.pass (session.encoder.reset params)

/-- Submits a frame, or a flush. -/
def submit (submission : Option Submission) (session : Session σ) :
    Answer (Session σ) SubmitStatus :=
  session.pass (session.encoder.submit submission)

/-- Waits for a result. -/
def sync (sync : SyncPoint) (waitMs : Nat) (bitstream : Bitstream) (session : Session σ) :
    Answer (Session σ) SyncStatus × Bitstream :=
  let (answer, bitstream) := session.encoder.sync sync waitMs bitstream session.state
  (answer.mapState fun state => { session with state }, bitstream)

/-- Closes the encoder, unless the session was closed before. -/
def close (session : Session σ) : Answer (Session σ) Unit :=
  if session.closed then .ok () session
  else { session with closed := true }.pass session.encoder.close

/-- Drops the session: closes it and reports if that fails. -/
def drop (session : Session σ) : Answer (Session σ) Unit :=
  let answer := session.close
  match answer.reply with
  | .error (.error error) => { answer.report (.closeFailed error) with reply := .ok () }
  | _ => answer

/-- Asks for the parameters in force and has the encoder go on with `params`. What fails is
reported; the reply only tells whether nothing did. -/
def resetResolution (params : EncodeParams) (session : Session σ) : Answer (Session σ) Bool :=
  let asked := session.currentParams
  match asked.reply with
  | .error (.fault fault) => { asked with reply := .error (.fault fault) }
  | .error (.error error) => { asked.report (.paramsUnknown error) with reply := .ok false }
  | .ok current =>
    let asked := asked.report (.paramsBeforeReset current)
    let done := (asked.state.reset params).after asked
    match done.reply with
    | .error (.fault fault) => { done with reply := .error (.fault fault) }
    | .error (.error error) => { done.report (.resetRefused error) with reply := .ok false }
    | .ok () => { done.report .resetTimed with reply := .ok true }

/-- The kinds of implementation, the preferred one first. -/
def preferredKinds : List ImplementationKind := [.hardware, .software]

/-- The first of `implementations` that is of a kind and has a codec. -/
def firstOfKind? (implementations : List Implementation) (codec : Codec)
    (kind : ImplementationKind) : Option Implementation :=
  implementations.find? fun implementation =>
    implementation.kind == kind && implementation.codecs.contains codec

/-- The names and kinds of implementations, for a message. -/
def describe (implementations : List Implementation) : String :=
  "; ".intercalate (implementations.map fun implementation =>
    s!"{implementation.name} ({implementation.kind.text})")

/-- The implementation an application is ready to use: of the preferred kind if there is one. -/
def selectImplementation (choice : BackendChoice) (codec : Codec) :
    Except EncoderError Implementation :=
  match (preferredKinds.filter choice.accepts).findSome?
      (firstOfKind? Implementation.available codec) with
  | some implementation => .ok implementation
  | none =>
    .error (.unsupportedConfig ("no implementations meet selection criteria "
      ++ s!"(backend={choice.text}, codec={codec.text}); available: "
      ++ describe Implementation.available))

/-- Selects an implementation and opens a session on its encoder. -/
def create (choice : BackendChoice) (codec : Codec) (cpu : CpuEncoder) :
    Except EncoderError (Session CpuEncoder × List Event) := do
  let implementation ← selectImplementation choice codec
  match implementation.kind with
  | .software =>
    return (ofEncoder CpuEncoder.encoder cpu, [.implementationSelected implementation])
  | .hardware =>
    .error (.unsupportedConfig
      s!"no runtime is bundled for hardware implementation {implementation.name}")

end Session

end Nv12Jpeg
