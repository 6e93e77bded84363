import Nv12Jpeg.Encode.Loop
import Nv12Jpeg.Proofs.Encode.Numbering
import Nv12Jpeg.Proofs.Encoder.Record

/-!
# What a run does, one deed after the other

A run calls its encoder, and between the calls it opens, reads, creates and writes files and looks
for free surfaces. Each of these is a deed with a result. What comes of a deed is up to the encoder
and to the world that the run works on; which deed may be next is up to the deeds before it.

* `World.Does` — what a deed comes to, in a world of files, a source, surfaces and an output buffer;
* `Stage.next` — what a deed with its result leads to, if it may be done there;
* `Course` — deeds that follow each other in this order, each with the result it has in the world
  that those before it have left;
* `Course.fails_last` — a deed that fails is the last one;
* `Course.init_before` — no work is given to an encoder that was not initialized.
-/

namespace Nv12Jpeg

/-- What a run does, with its result. -/
inductive Deed where
  /-- Opening what the device interface of an encoder asks for. -/
  | openDevice (acceleration : Acceleration) (result : Except EncoderError (Option Accelerator))
  /-- A call on the encoder, with its reply. -/
  | call (entry : Entry)
  /-- Allocating an output buffer. -/
  | allocate (capacity : Nat) (result : Except Fault Bitstream)
  /-- Looking for a surface without guards in a pool of this size. -/
  | search (poolSize : Nat) (found : Option Nat)
  /-- Filling a surface with the next frame of the source. -/
  | read (index : Nat) (result : Except Fault FrameRead)
  | create (path : String) (result : Except IoError Location)
  /-- Writing the bytes that wait to a file that was created. -/
  | write (location : Location) (result : Except IoError Nat)
  | openInput (path : String) (result : Except IoError Source)

/-- The call that a deed is, if it is one. -/
def Deed.entry? : Deed → Option Entry
  | .call entry => some entry
  | _ => none

/-- Whether a call fails, where a result without room in the output buffer is no failure, and
neither is a submission that may be made again. -/
def Turn.fails : Turn → Bool
  | .submit _ (.error (.error (.notEnoughBuffer _ _)))
  | .submit _ (.error (.error (.deviceLost _)))
  | .submit _ (.error (.error (.temporaryBackpressure _)))
  | .sync _ _ (.error (.error (.notEnoughBuffer _ _))) => false
  | .attach _ (.error _) | .query _ (.error _) | .init _ (.error _) | .surfaceRequest _ (.error _)
  | .currentParams (.error _) | .reset _ (.error _) | .submit _ (.error _) | .sync _ _ (.error _)
  | .close (.error _) => true
  | _ => false

/-- Whether a deed fails. -/
def Deed.fails : Deed → Bool
  | .call entry => entry.turn.fails
  | .openDevice _ (.error _) | .allocate _ (.error _) | .search _ none | .read _ (.error _)
  | .read _ (.ok (.failed _)) | .create _ (.error _) | .write _ (.error _)
  | .openInput _ (.error _) => true
  | _ => false

/-! ## The world -/

/-- What the deeds of a run work on. -/
structure World where
  source : Source
  store : FileStore
  pool : SurfacePool
  poolNumber : Nat
  bitstream : Bitstream

namespace World

/-- The world before a run: no surfaces, and no room for results. -/
def start (source : Source) (store : FileStore) : World := ⟨source, store, .none, 0, .empty 0⟩

/-- Guards are taken on the surfaces of the pool, or dropped. -/
def guard (world : World) (locks : List LockChange) : World :=
  { world with pool := locks.foldl (LockChange.apply world.poolNumber) world.pool }

/-- What a call leaves. Surfaces are allocated as the encoder asks for them, and a result that the
output buffer has no room for is dropped. -/
def book (world : World) (entry : Entry) : World :=
  let world := world.guard entry.locks
  match entry.turn, entry.output with
  | .surfaceRequest params (.ok request), _ => { world with
      pool := .allocate params.frameInfo request.suggested
      poolNumber := world.poolNumber + 1 }
  | .sync _ _ (.error (.error (.notEnoughBuffer _ _))), some (_, left) =>
    { world with bitstream := left.clear }
  | .sync _ _ _, some (_, left) => { world with bitstream := left }
  | _, _ => world

/-- A call is given what there is: the output buffer, and a surface of the pool. -/
structure Gives (world : World) (entry : Entry) : Prop where
  buffer : ∀ given left, entry.output = some (given, left) → given = world.bitstream
  surface : ∀ submission, entry.turn.submission? = some submission →
    submission.id.pool = world.poolNumber ∧
      world.pool.surface? submission.id.index = some submission.surface

/-- What a deed comes to in a world, and the world it leaves. -/
inductive Does (world : World) : Deed → World → Prop
  | openDevice (acceleration : Acceleration) :
      Does world (.openDevice acceleration (Accelerator.openFor world.store acceleration)) world
  | call {entry : Entry} (given : world.Gives entry) : Does world (.call entry) (world.book entry)
  | allocated {capacity : Nat} {bitstream : Bitstream}
      (made : Bitstream.allocate capacity = .ok bitstream) :
      Does world (.allocate capacity (.ok bitstream)) { world with bitstream }
  | unallocated {capacity : Nat} {fault : Fault}
      (stopped : Bitstream.allocate capacity = .error fault) :
      Does world (.allocate capacity (.error fault)) world
  | search : Does world (.search world.pool.size world.pool.findFree) world
  | read {index : Nat} {how : FrameRead} {pool : SurfacePool} {source : Source}
      (done : world.pool.readFrame index world.store world.source = .ok (some how, pool, source)) :
      Does world (.read index (.ok how)) { world with pool, source }
  | unread {index : Nat} {fault : Fault}
      (stopped : world.pool.readFrame index world.store world.source = .error fault) :
      Does world (.read index (.error fault)) world
  | created {path : String} {location : Location} {store : FileStore}
      (made : world.store.create path = .ok (location, store)) :
      Does world (.create path (.ok location)) { world with store }
  | uncreated {path : String} {error : IoError} (refused : world.store.create path = .error error) :
      Does world (.create path (.error error)) world
  /-- A sink that fails has taken some of the bytes, which are in the file then. -/
  | write {location : Location} {result : Except IoError Nat} {sink : Sink} {bitstream : Bitstream}
      (done : world.bitstream.writeTo (EncodeM.outputSink world.store)
        = (result, sink, bitstream)) :
      Does world (.write location result)
        { world with store := world.store.fill location sink.received, bitstream }
  | opened {path : String} {source : Source}
      (made : Source.openFile world.store path = .ok source) :
      Does world (.openInput path (.ok source)) { world with source }
  | unopened {path : String} {error : IoError}
      (refused : Source.openFile world.store path = .error error) :
      Does world (.openInput path (.error error)) world

theorem guard_append (world : World) (locks later : List LockChange) :
    world.guard (locks ++ later) = (world.guard locks).guard later := by
  rw [guard, List.foldl_append]
  rfl

end World

/-- A call that takes and drops guards, and does nothing else to the world. -/
def Entry.IsPlain (entry : Entry) : Prop :=
  ∀ world : World, world.Does (.call entry) (world.guard entry.locks)

/-! ## The order -/

/-- How far a loop has come. -/
structure Tally extends LoopState where
  /-- How many files were written. -/
  written : Nat
  /-- How many submissions were made. -/
  rounds : Nat
  deriving DecidableEq

/-- A loop before its first round. -/
def Tally.start : Tally := ⟨.start, 0, 0⟩

/-- With one submission more, which is a flush if the source has ended. -/
def Tally.submitted (tally : Tally) (draining : Bool) : Tally :=
  { tally with draining, rounds := tally.rounds + 1 }

/-- With one file more. -/
def Tally.filed (tally : Tally) : Tally := { tally with written := tally.written + 1 }

/-- The resolution change that is due after a number of frames. -/
def EncodeOptions.dueChange? (options : EncodeOptions) (written : Nat) : Option ResolutionChange :=
  options.resolutionChange.filter fun change => change.afterFrames.toNat = written

/-- Where a run stands between two deeds. -/
inductive Stage where
  /-- The device that an encoder asks for has to be opened. -/
  | opening (acceleration : Acceleration)
  /-- A device was opened and has to be handed over. -/
  | opened (accelerator : Accelerator)
  /-- Parameters have to be agreed on. -/
  | asking
  /-- The encoder has to be initialized. -/
  | agreed
  /-- The encoder has to tell what surfaces it needs. -/
  | initialized
  /-- The output buffer has to be allocated. -/
  | supplied
  /-- The next submission has to be made. -/
  | resting (tally : Tally)
  /-- A free surface was found and has to be filled. -/
  | reading (tally : Tally) (index : Nat)
  /-- It was filled and has to be submitted. -/
  | filled (tally : Tally) (index : Nat)
  /-- A result has to be waited for; so many attempts were in vain. -/
  | waiting (tally : Tally) (sync : SyncPoint) (attempts : Nat)
  /-- A result was collected, and a file has to be created for it. -/
  | collected (tally : Tally)
  /-- The file was created, and the result has to be written to it. -/
  | writing (tally : Tally) (location : Location)
  /-- The input of a resolution change has to be opened. -/
  | switching (tally : Tally) (change : ResolutionChange) (path : String)
  /-- The encoder has to tell the parameters in force. -/
  | resizing (tally : Tally) (change : ResolutionChange)
  /-- They have to be replaced. -/
  | changing (tally : Tally) (change : ResolutionChange)
  /-- They were replaced, and the encoder has to tell what surfaces it needs now. -/
  | replaced (tally : Tally)
  /-- The loop is over. -/
  | finished (reason : StopReason)
  /-- Something has failed. -/
  | cut (failure : Failure EncodeError)

namespace Stage

/-- After the device was opened, if there has to be one. -/
def afterDevice : Except EncoderError (Option Accelerator) → Stage
  | .ok none => .asking
  | .ok (some accelerator) => .opened accelerator
  | .error error => .cut (.error (.encoder .openAccelerator error))

/-- After a call without which a run cannot go on. -/
def after {α : Type} (step : EncoderStep) (stage : Stage) : Attempt EncoderError α → Stage
  | .ok _ => stage
  | .error (.error error) => .cut (.error (.encoder step error))
  | .error (.fault fault) => .cut (.fault fault)

/-- After a call without which a resolution change fails. -/
def afterChange {α : Type} (change : ResolutionChange) (stage : Stage) :
    Attempt EncoderError α → Stage
  | .ok _ => stage
  | .error (.error _) => .cut (.error (.resetFailed change.width change.height))
  | .error (.fault fault) => .cut (.fault fault)

/-- After the output buffer was allocated. -/
def afterAllocate : Except Fault Bitstream → Stage
  | .ok _ => .resting .start
  | .error fault => .cut (.fault fault)

/-- After a surface was looked for. -/
def afterSearch (tally : Tally) (poolSize : Nat) : Option Nat → Stage
  | some index => .reading tally index
  | none => .cut (.error (.noFreeSurface poolSize))

/-- After a surface was filled, as far as the source went. -/
def afterRead (tally : Tally) (index : Nat) : Except Fault FrameRead → Stage
  | .ok .complete => .filled tally index
  | .ok .ended => .resting { tally with draining := true }
  | .ok (.failed error) => .cut (.error (.inputNotRead error))
  | .error fault => .cut (.fault fault)

/-- After a round that brought the run forward. -/
def forward (tally : Tally) : Stage :=
  .resting { tally with stalled := if tally.draining then 0 else tally.stalled }

/-- After one that did not. As many flushes in a row without progress as there are attempts are the
end of the loop. -/
def stall (options : EncodeOptions) (tally : Tally) : Stage :=
  if tally.draining then
    if options.sync.attempts ≤ tally.stalled + 1 then .finished .flushStalled
    else .resting { tally with stalled := tally.stalled + 1 }
  else .resting tally

/-- Waiting for a result, if there is an attempt left. -/
def await (options : EncodeOptions) (tally : Tally) (sync : SyncPoint) (attempts : Nat) : Stage :=
  if attempts < options.sync.attempts then .waiting tally sync attempts
  else .cut (.error (.syncTimeout sync attempts))

/-- After a submission. A refusal that there is no policy for is the end of the loop. -/
def afterSubmit (options : EncodeOptions) (tally : Tally) :
    Attempt EncoderError SubmitStatus → Stage
  | .ok (.queued (some sync)) => await options tally sync 0
  | .ok (.queued none) => stall options tally
  | .ok .moreData => if tally.draining then .finished .drained else forward tally
  | .error (.error (.notEnoughBuffer _ _)) => stall options tally
  | .error (.error (.deviceLost _)) => stall options tally
  | .error (.error (.temporaryBackpressure _)) => stall options tally
  | .error (.error _) => .finished .unknownStatus
  | .error (.fault fault) => .cut (.fault fault)

/-- A result is there, and goes to a file if there is a number for it. -/
def collect (tally : Tally) : Stage :=
  match EncodeM.nextFrame tally.written with
  | .ok _ => .collected tally
  | .error fault => .cut (.fault fault)

/-- After an attempt at collecting a result. One that does not fit is dropped. -/
def afterSync (options : EncodeOptions) (tally : Tally) (sync : SyncPoint) (attempts : Nat) :
    Attempt EncoderError SyncStatus → Stage
  | .ok .done => collect tally
  | .ok .inExecution => await options tally sync (attempts + 1)
  | .error (.error (.notEnoughBuffer _ _)) => forward tally
  | .error (.error error) => .cut (.error (.encoder .sync error))
  | .error (.fault fault) => .cut (.fault fault)

/-- After a file was created. -/
def afterCreate (tally : Tally) (path : String) : Except IoError Location → Stage
  | .ok location => .writing tally location
  | .error error => .cut (.error (.outputNotCreated path error))

/-- After all that was due was done: the loop goes on unless it has come to its limit. -/
def settled (options : EncodeOptions) (tally : Tally) : Stage :=
  if options.maxFrames.any (·.toNat ≤ tally.written) then .finished .frameLimit else forward tally

/-- With a file written: the resolution change comes first, if it is due. -/
def filed (options : EncodeOptions) (tally : Tally) : Stage :=
  match options.dueChange? tally.written with
  | none => settled options tally
  | some change =>
    match change.input with
    | some path => .switching tally change path
    | none => .resizing tally change

/-- After the bytes of a result were written. -/
def afterWrite (options : EncodeOptions) (tally : Tally) : Except IoError Nat → Stage
  | .ok _ => filed options tally.filed
  | .error error =>
    .cut (.error (.outputNotWritten (outputPath options (tally.written + 1)) error))

/-- After the input of a resolution change was opened. -/
def afterInput (tally : Tally) (change : ResolutionChange) (path : String) :
    Except IoError Source → Stage
  | .ok _ => .resizing tally change
  | .error error => .cut (.error (.inputNotOpened path error))

/-- What a call leads to, if it may be made. -/
def call (options : EncodeOptions) : Stage → Turn → Option Stage
  | .opened accelerator, .attach given reply =>
    if given = accelerator then some (after .attachAccelerator .asking reply) else none
  | .asking, .query _ reply => some (after .query .agreed reply)
  | .agreed, .init _ reply => some (after .init .initialized reply)
  | .initialized, .surfaceRequest _ reply => some (after .surfaceRequest .supplied reply)
  | .resting tally, .submit none reply =>
    if tally.draining then some (afterSubmit options (tally.submitted true) reply) else none
  | .filled tally index, .submit (some submission) reply =>
    if submission.id.index = index then some (afterSubmit options (tally.submitted false) reply)
    else none
  | .waiting tally sync attempts, .sync asked _ reply =>
    if asked = sync then some (afterSync options tally sync attempts reply) else none
  | .resizing tally change, .currentParams reply =>
    some (afterChange change (.changing tally change) reply)
  | .changing tally change, .reset _ reply => some (afterChange change (.replaced tally) reply)
  | .replaced tally, .surfaceRequest _ reply =>
    some (after .surfaceRequest (settled options tally) reply)
  | _, _ => none

/-- What a deed with its result leads to, if it may be done. -/
def next (options : EncodeOptions) : Stage → Deed → Option Stage
  | stage, .call entry => stage.call options entry.turn
  | .opening acceleration, .openDevice asked result =>
    if asked = acceleration then some (afterDevice result) else none
  | .supplied, .allocate capacity result =>
    if capacity = options.bitstreamCapacity then some (afterAllocate result) else none
  | .resting tally, .search poolSize found =>
    if tally.draining then none else some (afterSearch tally poolSize found)
  | .reading tally index, .read asked result =>
    if asked = index then some (afterRead tally index result) else none
  | .collected tally, .create path result =>
    if path = outputPath options (tally.written + 1) then some (afterCreate tally path result)
    else none
  | .writing tally location, .write asked result =>
    if asked = location then some (afterWrite options tally result) else none
  | .switching tally change path, .openInput asked result =>
    if asked = path then some (afterInput tally change path result) else none
  | _, _ => none

/-- How the deeds of a run end, which makes `limit` submissions at most. -/
inductive Ends (limit : Nat) : Stage → Except (Failure EncodeError) StopReason → Prop
  | finished (reason : StopReason) : Ends limit (.finished reason) (.ok reason)
  | cut (failure : Failure EncodeError) : Ends limit (.cut failure) (.error failure)
  | unfinished {tally : Tally} (spent : tally.rounds = limit) :
      Ends limit (.resting tally) (.error (.fault .unfinished))

/-- Whether there is nothing more to do but to close the encoder. -/
def isOver : Stage → Bool
  | .finished _ | .cut _ => true
  | _ => false

/-- Whether the encoder is initialized and nothing has failed. -/
def isReady : Stage → Bool
  | .opening _ | .opened _ | .asking | .agreed | .finished _ | .cut _ => false
  | _ => true

end Stage

/-! ## Courses -/

/-- Deeds done one after the other. Each may be done where those before it have led to, and has the
result that it has in the world as they have left it. -/
inductive Course (options : EncodeOptions) (first : Stage) (before : World) :
    List Deed → Stage → World → Prop
  | start : Course options first before [] first before
  | step {deeds : List Deed} {stage next : Stage} {world after : World} {deed : Deed}
      (course : Course options first before deeds stage world)
      (moves : stage.next options deed = some next) (does : world.Does deed after) :
      Course options first before (deeds ++ [deed]) next after

variable {options : EncodeOptions} {first stage last : Stage} {before world : World} {deed : Deed}
  {deeds : List Deed} {entry : Entry} {turn : Turn}

namespace Stage

/-- The encoder is not closed on the way. -/
theorem call_close (reply : Attempt EncoderError Unit) :
    stage.call options (.close reply) = none := by
  cases stage <;> rfl

theorem isOver_after {α : Type} {step : EncoderStep} {reply : Attempt EncoderError α}
    (failed : ∀ value, reply ≠ .ok value) : (after step stage reply).isOver = true := by
  obtain (_ | _) | value := reply
  · rfl
  · rfl
  · exact absurd rfl (failed value)

theorem isOver_afterChange {α : Type} {change : ResolutionChange} {reply : Attempt EncoderError α}
    (failed : ∀ value, reply ≠ .ok value) : (afterChange change stage reply).isOver = true := by
  obtain (_ | _) | value := reply
  · rfl
  · rfl
  · exact absurd rfl (failed value)

/-- A submission that fails ends the loop or cuts the run. -/
theorem isOver_afterSubmit {tally : Tally} {submission : Option Submission}
    {reply : Attempt EncoderError SubmitStatus}
    (fails : (Turn.submit submission reply).fails = true) :
    (afterSubmit options tally reply).isOver = true := by
  obtain (error | _) | status := reply
  · cases error <;> first | rfl | cases fails
  · rfl
  · cases fails

/-- So does an attempt at collecting a result. -/
theorem isOver_afterSync {tally : Tally} {sync asked : SyncPoint} {attempts waitMs : Nat}
    {reply : Attempt EncoderError SyncStatus}
    (fails : (Turn.sync asked waitMs reply).fails = true) :
    (afterSync options tally sync attempts reply).isOver = true := by
  obtain (error | _) | status := reply
  · cases error <;> first | rfl | cases fails
  · rfl
  · cases fails

theorem isOver_of_call_fails (moves : stage.call options turn = some last)
    (fails : turn.fails = true) : last.isOver = true := by
  unfold call at moves
  -- Some calls may be made only with what the stage tells, which is asked first.
  split at moves
  case h_1 =>
    split at moves <;> cases moves
    exact isOver_after (by rintro value rfl; cases fails)
  case h_5 | h_6 =>
    split at moves <;> cases moves
    exact isOver_afterSubmit fails
  case h_7 =>
    split at moves <;> cases moves
    exact isOver_afterSync fails
  case h_8 | h_9 =>
    cases moves
    exact isOver_afterChange (by rintro value rfl; cases fails)
  case h_11 => cases moves
  all_goals
    cases moves
    exact isOver_after (by rintro value rfl; cases fails)

/-- A deed that fails leaves nothing more to do. -/
theorem isOver_of_fails (moves : stage.next options deed = some last) (fails : deed.fails = true) :
    last.isOver = true := by
  unfold next at moves
  split at moves
  case h_1 => exact isOver_of_call_fails moves fails
  case h_4 tally poolSize found =>
    split at moves <;> cases moves
    cases found with
    | none => rfl
    | some index => cases fails
  case h_5 tally index asked result =>
    split at moves <;> cases moves
    obtain fault | (_ | _ | _) := result
    · rfl
    · cases fails
    · cases fails
    · rfl
  case h_9 => cases moves
  case h_2 acceleration asked result | h_3 capacity result | h_6 tally path result |
      h_7 tally location asked result | h_8 tally change path asked result =>
    split at moves <;> cases moves
    cases result with
    | error error => rfl
    | ok value => cases fails

/-- Where nothing more is to be done, nothing is. -/
theorem next_of_isOver (ended : stage.isOver = true) : stage.next options deed = none := by
  cases stage with
  | finished reason => cases deed <;> rfl
  | cut failure => cases deed <;> rfl
  | _ => cases ended

/-- Work is only for an encoder that is ready. -/
theorem isReady_of_isWork (moves : stage.call options turn = some last)
    (work : turn.isWork = true) : stage.isReady = true := by
  unfold call at moves
  split at moves <;> first | rfl | cases work | cases moves

/-- A run that goes on after a call got a result. -/
theorem isReady_after {α : Type} {step : EncoderStep} {reply : Attempt EncoderError α}
    (ready : (after step stage reply).isReady = true) :
    stage.isReady = true ∧ ∃ value, reply = .ok value := by
  obtain (_ | _) | value := reply
  · cases ready
  · cases ready
  · exact ⟨ready, value, rfl⟩

/-- An encoder gets ready by being initialized only. -/
theorem isReady_call (moves : stage.call options turn = some last) (ready : last.isReady = true) :
    stage.isReady = true ∨ ∃ params, turn = .init params (.ok ()) := by
  unfold call at moves
  -- Only attaching, querying and initializing are for an encoder that is not ready.
  split at moves
  case h_1 =>
    split at moves <;> cases moves
    cases (isReady_after ready).1
  case h_2 =>
    cases moves
    cases (isReady_after ready).1
  case h_3 params reply =>
    cases moves
    obtain ⟨_, _, rfl⟩ := isReady_after ready
    exact .inr ⟨params, rfl⟩
  case h_11 => cases moves
  all_goals exact .inl rfl

theorem isReady_next (moves : stage.next options deed = some last) (ready : last.isReady = true) :
    stage.isReady = true ∨
      ∃ entry params, deed = .call entry ∧ entry.turn = .init params (.ok ()) := by
  unfold next at moves
  split at moves
  case h_1 entry =>
    rcases isReady_call moves ready with already | ⟨params, init⟩
    · exact .inl already
    · exact .inr ⟨entry, params, rfl, init⟩
  case h_2 acceleration asked result =>
    -- Opening a device comes before everything else.
    split at moves <;> cases moves
    obtain error | _ | accelerator := result <;> cases ready
  case h_9 => cases moves
  all_goals exact .inl rfl

end Stage

namespace Course

/-- Plain calls, one after the other. By induction on the calls. -/
theorem calls {entries : List Entry} (course : Course options first before deeds stage world)
    (plain : ∀ entry ∈ entries, entry.IsPlain)
    (moves : (entries.map Entry.turn).foldlM (Stage.call options) stage = some last) :
    Course options first before (deeds ++ entries.map .call) last
      (world.guard (entries.flatMap Entry.locks)) := by
  induction entries generalizing deeds stage world with
  | nil =>
    cases moves
    rw [List.map_nil, List.append_nil]
    exact course
  | cons entry rest ih =>
    rw [List.map_cons, List.foldlM_cons] at moves
    obtain ⟨next, moves, later⟩ := Option.bind_eq_some_iff.1 moves
    rw [List.map_cons, List.append_cons, List.flatMap_cons, World.guard_append]
    exact ih (course.step moves (plain entry List.mem_cons_self world))
      (fun entry mem => plain entry (List.mem_cons_of_mem _ mem)) later

/-- A course leads from deed to deed. -/
theorem split {later : List Deed}
    (course : Course options first before (deeds ++ deed :: later) last world) :
    ∃ stage middle next, Course options first before deeds stage middle ∧
      stage.next options deed = some next := by
  generalize whole : deeds ++ deed :: later = all at course
  induction course generalizing later with
  | start => exact absurd whole (by simp)
  | @step done stage next world after deed' course moves does ih =>
    -- The deed is the last one of the course, or it was done before that.
    obtain rfl | ⟨later, same, rfl⟩ := List.eq_nil_or_concat' later
    · obtain ⟨rfl, same⟩ := List.append_inj' whole rfl
      cases same
      exact ⟨_, _, _, course, moves⟩
    · rw [← List.cons_append, ← List.append_assoc] at whole
      obtain ⟨whole, _⟩ := List.append_inj' whole rfl
      exact ih whole

/-- A deed that fails is the last one. By induction on the course: once one has failed, there is
nothing more to do. -/
theorem fails_last (course : Course options first before deeds stage world) :
    (∀ deed ∈ deeds.dropLast, deed.fails = false) ∧
      ((∃ deed ∈ deeds, deed.fails = true) → stage.isOver = true) := by
  induction course with
  | start => exact ⟨List.forall_mem_nil _, fun ⟨_, mem, _⟩ => absurd mem List.not_mem_nil⟩
  | @step deeds stage next world after deed course moves does ih =>
    have none_before : ∀ earlier ∈ deeds, earlier.fails = false := by
      intro earlier mem
      refine Bool.eq_false_iff.2 fun fails => ?_
      rw [Stage.next_of_isOver (ih.2 ⟨earlier, mem, fails⟩)] at moves
      cases moves
    rw [List.dropLast_concat]
    refine ⟨none_before, ?_⟩
    rintro ⟨failing, mem, fails⟩
    obtain mem | rfl := List.mem_append.1 mem |>.imp_right List.mem_singleton.1
    · rw [none_before failing mem] at fails
      cases fails
    · exact Stage.isOver_of_fails moves fails

/-- Whoever is ready was initialized. By induction on the course: one of its deeds made it so. -/
theorem init_of_isReady (course : Course options first before deeds stage world)
    (unready : first.isReady = false) (ready : stage.isReady = true) :
    ∃ entry params, .call entry ∈ deeds ∧ entry.turn = .init params (.ok ()) := by
  induction course with
  | start =>
    rw [ready] at unready
    cases unready
  | step course moves does ih =>
    rcases Stage.isReady_next moves ready with already | ⟨entry, params, rfl, init⟩
    · obtain ⟨entry, params, mem, init⟩ := ih already
      exact ⟨entry, params, List.mem_append_left _ mem, init⟩
    · exact ⟨entry, params, List.mem_append_right _ List.mem_cons_self, init⟩

/-- Work is given to an encoder only after it was initialized. -/
theorem init_before {later : List Deed}
    (course : Course options first before (deeds ++ .call entry :: later) stage world)
    (unready : first.isReady = false) (work : entry.turn.isWork = true) :
    ∃ earlier params, .call earlier ∈ deeds ∧ earlier.turn = .init params (.ok ()) := by
  obtain ⟨stage, middle, next, begins, moves⟩ := course.split
  exact begins.init_of_isReady unready (Stage.isReady_of_isWork moves work)

/-- The encoder is not closed on the way. -/
theorem unclosed (course : Course options first before deeds stage world)
    (mem : .call entry ∈ deeds) (reply : Attempt EncoderError Unit) :
    entry.turn ≠ .close reply := by
  intro closes
  obtain ⟨earlier, later, rfl⟩ := List.append_of_mem mem
  obtain ⟨stage, middle, next, _, moves⟩ := course.split
  change stage.call options entry.turn = some next at moves
  rw [closes, Stage.call_close] at moves
  cases moves

end Course

end Nv12Jpeg
