import Nv12Jpeg.Encoder.Basic

/-!
# Encoders that follow a script

A scripted encoder answers each call with the next reply of a list for that call. Where a list has
no reply left, or a blank one, it answers as an encoder that finishes every frame at once.
-/

namespace Nv12Jpeg

/-- Replies in order; `none` stands for the usual one. -/
abbrev Replies (α : Type) := List (Option (Except EncoderError α))

/-- The next reply, if there is one, and those behind it. -/
def Replies.next {α : Type} : Replies α → Option (Except EncoderError α) × Replies α
  | [] => (none, [])
  | reply :: rest => (reply, rest)

/-- What waiting for a result leads to. -/
inductive SyncReply where
  | inExecution
  /-- The result is there. -/
  | done (bytes : Bytes)
  deriving DecidableEq, Repr

/-- How long guards on submitted surfaces are kept. -/
inductive Holding where
  | never
  /-- Until a result is waited for. -/
  | untilSync
  | forever
  deriving DecidableEq, Repr

/-- A scripted encoder. -/
structure ScriptedEncoder where
  acceleration : Acceleration
  /-- How parameters are replaced by a query that adjusts them. -/
  query : Replies (EncodeParams → EncodeParams)
  init : Replies Unit
  currentParams : Replies EncodeParams
  reset : Replies Unit
  /-- The least and the suggested number of surfaces. -/
  surfaces : Replies (UInt16 × UInt16)
  submit : Replies SubmitStatus
  flush : Replies SubmitStatus
  /-- The usual reply to a flush. -/
  usualFlush : Except EncoderError SubmitStatus
  sync : Replies SyncReply
  close : Replies Unit
  holding : Holding
  /-- The surfaces guards are kept on. -/
  held : List SurfaceId
  /-- The number of the next sync point of the encoder's own. -/
  nextSync : Nat

namespace ScriptedEncoder

/-- An encoder without a script. -/
def usual : ScriptedEncoder where
  acceleration := .none
  query := []
  init := []
  currentParams := []
  reset := []
  surfaces := []
  submit := []
  flush := []
  usualFlush := .ok .moreData
  sync := []
  close := []
  holding := .never
  held := []
  nextSync := 1

/-- The description of a scripted encoder: that of the software encoder but for acceleration. -/
def implementation (script : ScriptedEncoder) : Implementation :=
  { Implementation.cpu with acceleration := script.acceleration }

/-- Answers with the next of `replies`, or with `usual`; `keep` stores those that are left. -/
def follow {α : Type} (replies : Replies α) (usual : α) (keep : Replies α → ScriptedEncoder) :
    Answer ScriptedEncoder α :=
  let (reply, rest) := replies.next
  .quiet (.ofError (reply.getD (.ok usual))) (keep rest)

/-- Judges parameters; they are as they should be, or replaced as the script says. -/
def answerQuery (params : EncodeParams) (script : ScriptedEncoder) :
    Answer ScriptedEncoder (QueryOutcome × EncodeParams) :=
  let (reply, rest) := script.query.next
  let outcome := match reply with
    | none => .ok (.exact, params)
    | some reply => reply.map fun replace => (.adjusted, replace params)
  .quiet (.ofError outcome) { script with query := rest }

/-- Tells how many surfaces it needs. -/
def answerSurfaceRequest (params : EncodeParams) (script : ScriptedEncoder) :
    Answer ScriptedEncoder SurfaceRequest :=
  (follow script.surfaces (1, 2) fun surfaces => { script with surfaces }).mapReply
    fun (minimum, suggested) => ⟨minimum, suggested, params.frameInfo⟩

/-- Looks at every visible byte of a surface that has any columns. -/
def inspect (surface : Surface) : Except Fault Unit :=
  if surface.info.cropW = 0 then .ok () else do
    let _ ← surface.toFrame

/-- Takes a frame, and a guard on its surface where guards are kept. -/
def answerSurface (submission : Submission) (script : ScriptedEncoder) :
    Answer ScriptedEncoder SubmitStatus :=
  match inspect submission.surface with
  | .error fault => .quiet (.error (.fault fault)) script
  | .ok () =>
    let (reply, rest) := script.submit.next
    let script := { script with submit := rest }
    let (reply, script) := match reply with
      | some reply => (reply, script)
      | none =>
        (.ok (.queued (some ⟨script.nextSync⟩)), { script with nextSync := script.nextSync + 1 })
    if script.holding = .never then .quiet (.ofError reply) script
    else
      { reply := .ofError reply
        state := { script with held := submission.id :: script.held }
        events := []
        locks := [.acquired submission.id] }

/-- Takes a frame, or is asked to flush. -/
def answerSubmit (submission : Option Submission) (script : ScriptedEncoder) :
    Answer ScriptedEncoder SubmitStatus :=
  match submission with
  | some submission => script.answerSurface submission
  | none =>
    let (reply, rest) := script.flush.next
    .quiet (.ofError (reply.getD script.usualFlush)) { script with flush := rest }

/-- The usual result: a picture without content. -/
def usualResult : Bytes := #[0xff, 0xd8, 0xff, 0xd9]

/-- Waits for a result; guards that are kept until then are dropped first. -/
def answerSync (bitstream : Bitstream) (script : ScriptedEncoder) :
    Answer ScriptedEncoder SyncStatus × Bitstream :=
  let (reply, rest) := script.sync.next
  let script := { script with sync := rest }
  let (locks, script) := match script.holding with
    | .untilSync => (script.held.map .released, { script with held := [] })
    | _ => ([], script)
  let answer (reply : Except EncoderError SyncStatus) : Answer ScriptedEncoder SyncStatus :=
    ⟨.ofError reply, script, [], locks⟩
  match reply.getD (.ok (.done usualResult)) with
  | .error error => (answer (.error error), bitstream)
  | .ok .inExecution => (answer (.ok .inExecution), bitstream)
  | .ok (.done bytes) =>
    match bitstream.append bytes with
    | .ok bitstream => (answer (.ok .done), bitstream)
    | .error error => (answer (.error error), bitstream)

/-- The calls of a scripted encoder. -/
def encoder : Encoder ScriptedEncoder where
  implementation := implementation
  attach := fun _ => .refused (.unsupportedConfig
    "accelerator handles are not used by this implementation")
  query := answerQuery
  init := fun _ script => follow script.init () fun init => { script with init }
  surfaceRequest := answerSurfaceRequest
  currentParams := fun script =>
    follow script.currentParams (.jpeg 16 16 25 90)
      fun currentParams => { script with currentParams }
  reset := fun _ script => follow script.reset () fun reset => { script with reset }
  submit := answerSubmit
  sync := fun _ _ bitstream script => script.answerSync bitstream
  close := fun script => follow script.close () fun close => { script with close }

end ScriptedEncoder

end Nv12Jpeg
