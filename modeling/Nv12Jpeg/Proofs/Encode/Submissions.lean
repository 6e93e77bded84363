import Nv12Jpeg.Proofs.Encode.Numbering
import Nv12Jpeg.Proofs.Surface.Pool

/-!
# What is submitted

The surfaces submitted in a loop show the frames of the source, one after the other, whatever the
encoder answers and whichever surfaces it keeps guards on.

* `WritesOnly` — what writing a result leaves alone;
* `Settles` — what the rest of a round leaves alone once its submission is made;
* `Safe` — what holds of the submissions made so far, also if the loop fails;
* `Feeding` — what holds between two rounds, `EncodeM.round_goes` is the step;
* `submissions_are_the_frames` — the surfaces submitted in a loop.
-/

namespace Nv12Jpeg

/-- The surface that a call submitted. -/
def Entry.submission? (entry : Entry) : Option Submission := entry.turn.submission?

/-- Whether a call submitted no surface, to flush. -/
def Entry.isFlush (entry : Entry) : Bool :=
  match entry.turn with
  | .submit none _ => true
  | _ => false

/-- The submissions of surfaces in a record, in order. -/
def submissions (record : List Entry) : List Submission := record.filterMap Entry.submission?

/-- Whether some frame has its file at a location. -/
def MayWrite (options : EncodeOptions) (store : FileStore) (location : Location) : Prop :=
  ∃ frame, store.resolve (outputPath options frame) = .ok location

variable {σ α : Type} {encoder : Encoder σ}

namespace EncodeContext

/-- The calls since an earlier state. -/
def since (first later : EncodeContext (σ × List Entry)) : List Entry :=
  later.session.record.drop first.session.record.length

/-- The number of guards on a surface of the pool after calls. -/
def guardsAfter (first : EncodeContext (σ × List Entry)) (calls : List Entry) (index : Nat) : Int :=
  LockChange.total ⟨first.poolNumber, index⟩ (first.pool.guards index) (calls.flatMap Entry.locks)

/-- During calls there were never as many as 65536 guards on a surface, nor were more guards
dropped than had been taken. -/
def Counted (first : EncodeContext (σ × List Entry)) (calls : List Entry) : Prop :=
  ∀ index < first.pool.size, ∀ changes, changes <+: calls.flatMap Entry.locks →
    0 ≤ LockChange.total ⟨first.poolNumber, index⟩ (first.pool.guards index) changes ∧
      LockChange.total ⟨first.poolNumber, index⟩ (first.pool.guards index) changes < 65536

end EncodeContext

/-- Files were written for frames only, and nothing was read, called or resized. -/
structure WritesOnly (earlier later : EncodeContext σ) : Prop where
  session : later.session = earlier.session
  options : later.options = earlier.options
  source : later.source = earlier.source
  params : later.params = earlier.params
  pool : later.pool = earlier.pool
  poolNumber : later.poolNumber = earlier.poolNumber
  resets : later.resets = earlier.resets
  store : FileStore.ChangedAt (MayWrite earlier.options earlier.store) later.store earlier.store

/-- Also a file that could not be written to the end is that of a frame. -/
theorem EncodeM.writesOnly_writeOutput : Keeps WritesOnly (writeOutput : EncodeM σ Unit) := by
  intro context
  have unwritten : WritesOnly context context := ⟨rfl, rfl, rfl, rfl, rfl, rfl, rfl, .refl _⟩
  obtain ⟨_, _, ended⟩ | ⟨_, _, ended⟩ | ⟨location, store, sink, bitstream, created, ended⟩ :=
    writeOutput_cases context
  · exact ended ▸ unwritten
  · exact ended ▸ unwritten
  obtain ⟨resolved, _, changed⟩ := FileStore.create_ok created sink.received
  have output : FileStore.ChangedAt (MayWrite context.options context.store)
      (store.fill location sink.received) context.store := by
    refine changed.mono ?_
    rintro _ rfl
    exact ⟨_, resolved⟩
  obtain ⟨_, _, ended⟩ | ⟨_, _, ended⟩ := ended <;>
    exact ended ▸ ⟨rfl, rfl, rfl, rfl, rfl, rfl, rfl, output⟩

/-! ## The rest of a round -/

section Settles

variable {first second third : EncodeContext (σ × List Entry)}

/-- These calls were made since, files were written for frames only, and nothing was read. -/
structure Called (encoder : Encoder σ) (calls : List Entry)
    (earlier later : EncodeContext (σ × List Entry)) : Prop where
  options : later.options = earlier.options
  source : later.source = earlier.source
  poolNumber : later.poolNumber = earlier.poolNumber
  encoder_eq : later.session.encoder = encoder.recorded
  store : FileStore.ChangedAt (MayWrite earlier.options earlier.store) later.store earlier.store
  record_eq : later.session.record = earlier.session.record ++ calls
  pool : later.pool = (calls.flatMap Entry.locks).foldl (LockChange.apply earlier.poolNumber)
    earlier.pool

/-- Steps that submit nothing, if the picture size is to stay. -/
def Settles (encoder : Encoder σ) (earlier later : EncodeContext (σ × List Entry)) : Prop :=
  earlier.session.encoder = encoder.recorded → earlier.options.resolutionChange = none →
    ∃ calls, Called encoder calls earlier later ∧
      ∀ call ∈ calls, call.submission? = none ∧ call.isFlush = false

theorem mayWrite_congr {options : EncodeOptions} {next store : FileStore}
    {locations : Location → Prop} (changed : FileStore.ChangedAt locations next store) :
    MayWrite options next = MayWrite options store := by
  funext location
  exact propext (exists_congr fun _ => changed.resolve_iff)

namespace Called

variable {calls calls' : List Entry}

theorem trans (h : Called encoder calls first second) (h' : Called encoder calls' second third) :
    Called encoder (calls ++ calls') first third := by
  have store' := h'.store
  rw [mayWrite_congr h.store, h.options] at store'
  refine ⟨h'.options.trans h.options, h'.source.trans h.source,
    h'.poolNumber.trans h.poolNumber, h'.encoder_eq, store'.trans h.store, ?_, ?_⟩
  · rw [h'.record_eq, h.record_eq, List.append_assoc]
  · rw [h'.pool, h.pool, h.poolNumber, List.flatMap_append, List.foldl_append]

/-- Steps that make no call. -/
theorem of_session (same : first.session.encoder = encoder.recorded)
    (session : second.session = first.session) (options : second.options = first.options)
    (source : second.source = first.source) (store : second.store = first.store)
    (pool : second.pool = first.pool) (poolNumber : second.poolNumber = first.poolNumber) :
    Called encoder [] first second :=
  ⟨options, source, poolNumber, session ▸ same, store ▸ .refl _,
    by rw [session, List.append_nil], pool⟩

theorem book {answer : Answer (Session (σ × List Entry)) α}
    (same : first.session.encoder = encoder.recorded) (told : answer.Records first.session calls) :
    Called encoder calls first (first.book answer) := by
  refine ⟨rfl, rfl, rfl, told.encoder_eq.trans same, .refl _, told.record_eq, ?_⟩
  rw [← told.locks_eq]
  rfl

end Called

namespace Settles

theorem onward : EncodeM.Onward (Settles encoder) where
  refl := fun _ same _ => ⟨[], .of_session same rfl rfl rfl rfl rfl rfl, List.forall_mem_nil _⟩
  trans := by
    intro first second third h h' same fixed
    obtain ⟨calls, called, others⟩ := h same fixed
    obtain ⟨calls', called', others'⟩ := h' called.encoder_eq (called.options ▸ fixed)
    refine ⟨calls ++ calls', called.trans called', ?_⟩
    intro call mem
    rcases List.mem_append.1 mem with mem | mem
    · exact others call mem
    · exact others' call mem

theorem of_session (session : second.session = first.session)
    (options : second.options = first.options) (source : second.source = first.source)
    (store : second.store = first.store) (pool : second.pool = first.pool)
    (poolNumber : second.poolNumber = first.poolNumber) : Settles encoder first second :=
  fun same _ =>
    ⟨[], .of_session same session options source store pool poolNumber, List.forall_mem_nil _⟩

end Settles

namespace EncodeM

theorem settles_report (event : Event) : Keeps (Settles encoder) (report event) :=
  fun _ => .of_session rfl rfl rfl rfl rfl rfl

theorem settles_syncOnce (sync : SyncPoint) : Keeps (Settles encoder) (syncOnce sync) := by
  intro context same _
  rw [run_syncOnce]
  have told := Session.records_sync same sync context.options.sync.waitMs context.bitstream
  have set_aside : Called encoder [] context { context with
      bitstream := (context.session.sync sync context.options.sync.waitMs context.bitstream).2 } :=
    .of_session same rfl rfl rfl rfl rfl rfl
  refine ⟨_, set_aside.trans (.book same told), ?_⟩
  intro call mem
  rw [List.mem_singleton.1 mem]
  exact ⟨rfl, rfl⟩

theorem settles_attemptSync (sync : SyncPoint) (left attempt : Nat) :
    Keeps (Settles encoder) (attemptSync sync left attempt) :=
  .attemptSync Settles.onward settles_report (settles_syncOnce sync)
    (fun _ => .of_session rfl rfl rfl rfl rfl rfl) left attempt

theorem settles_writeOutput : Keeps (Settles encoder) writeOutput := by
  intro context same _
  have writes := writesOnly_writeOutput context
  refine ⟨[], ⟨writes.options, writes.source, writes.poolNumber, writes.session ▸ same,
    writes.store, ?_, writes.pool⟩, List.forall_mem_nil _⟩
  rw [writes.session, List.append_nil]

theorem settles_applyDueChange : Keeps (Settles encoder) applyDueChange := by
  refine .get_bind fun context same fixed => ?_
  rw [fixed]
  exact Settles.onward.refl context same fixed

theorem settles_settle (draining : Bool) (reply : Except EncoderError SubmitStatus) :
    Keeps (Settles encoder) (settle draining reply) :=
  .settle Settles.onward settles_report (fun sync => .complete Settles.onward
    (fun left => settles_attemptSync sync left 1) settles_writeOutput settles_applyDueChange)
    draining reply

end EncodeM

end Settles

/-! ## The submissions so far -/

section Safe

variable {first context last : EncodeContext (σ × List Entry)} {bytes : Bytes}

/-- The frame of a number, from 0 on, in raw bytes. -/
def FrameInfo.frame (info : FrameInfo) (bytes : Bytes) (i : Nat) : Nv12Frame :=
  .ofRaw info.cropW.toNat info.cropH.toNat
    (bytes.extract (i * info.rawFrameSize) (i * info.rawFrameSize + info.rawFrameSize))

/-- A frame of raw bytes has just the bytes of its number. -/
theorem FrameInfo.raw_frame {info : FrameInfo} {i : Nat}
    (enough : (i + 1) * info.rawFrameSize ≤ bytes.size) :
    (info.frame bytes i).raw
      = bytes.extract (i * info.rawFrameSize) (i * info.rawFrameSize + info.rawFrameSize) := by
  rw [Nat.succ_mul] at enough
  refine Nv12Frame.raw_ofRaw ?_
  rw [Bytes.size_extract_add enough, rawFrameSize, Nat.mul_comm info.cropW.toNat,
    Nat.mul_comm (chromaRowBytes _)]

/-- The frames behind some others are the next ones. -/
theorem FrameInfo.frame_extract (info : FrameInfo) (bytes : Bytes) (used i : Nat) :
    info.frame (bytes.extract (used * info.rawFrameSize) bytes.size) i
      = info.frame bytes (used + i) := by
  rw [frame, frame]
  congr 1
  rw [Array.extract_extract, Nat.add_mul]
  apply Array.extract_eq_extract_right.2
  omega

/-- What holds of the submissions made so far. -/
structure Safe (encoder : Encoder σ) (first : EncodeContext (σ × List Entry)) (bytes : Bytes)
    (context : EncodeContext (σ × List Entry)) : Prop where
  options : context.options = first.options
  encoder_eq : context.session.encoder = encoder.recorded
  poolNumber : context.poolNumber = first.poolNumber
  store : FileStore.ChangedAt (MayWrite first.options first.store) context.store first.store
  sound : context.pool.Sound
  info : context.pool.info = first.pool.info
  size : context.pool.size = first.pool.size
  record_eq : context.session.record = first.session.record ++ first.since context
  locks : context.pool.locks = (((first.since context).flatMap Entry.locks).foldl
    (LockChange.apply first.poolNumber) first.pool).locks
  frames : ∀ (i : Nat) (submission : Submission),
    (submissions (first.since context))[i]? = some submission →
      (i + 1) * first.pool.info.rawFrameSize ≤ bytes.size ∧
        submission.surface.info = first.pool.info ∧
        submission.surface.toFrame = .ok (first.pool.info.frame bytes i)
  idle : ∀ (i : Nat) (call : Entry) (submission : Submission),
    (first.since context)[i]? = some call → call.submission? = some submission →
      submission.id.pool = first.poolNumber ∧ submission.id.index < first.pool.size ∧
        (first.Counted (first.since context) →
          first.guardsAfter ((first.since context).take i) submission.id.index = 0)
  order : (first.since context).Pairwise fun earlier later =>
    earlier.isFlush = true → later.submission? = none

namespace EncodeContext

theorem since_self (first : EncodeContext (σ × List Entry)) : first.since first = [] := by
  rw [since, List.drop_length]

theorem since_append {calls : List Entry}
    (before : context.session.record = first.session.record ++ first.since context)
    (after : last.session.record = context.session.record ++ calls) :
    first.since last = first.since context ++ calls := by
  rw [since, after, before, List.append_assoc, List.drop_left]

theorem Counted.of_append {calls later : List Entry} (h : first.Counted (calls ++ later)) :
    first.Counted calls := by
  intro index within changes before
  refine h index within changes (before.trans ?_)
  rw [List.flatMap_append]
  exact List.prefix_append _ _

end EncodeContext

theorem submissions_append (record calls : List Entry) :
    submissions (record ++ calls) = submissions record ++ submissions calls :=
  List.filterMap_append

theorem submissions_of_others {calls : List Entry}
    (others : ∀ call ∈ calls, call.submission? = none) : submissions calls = [] :=
  List.filterMap_eq_nil_iff.2 others

namespace Safe

theorem start (same : first.session.encoder = encoder.recorded) (sound : first.pool.Sound) :
    Safe encoder first bytes first := by
  refine ⟨rfl, same, rfl, .refl _, sound, rfl, rfl, ?_, ?_, ?_, ?_, ?_⟩ <;>
    rw [EncodeContext.since_self]
  · rw [List.append_nil]
  · rfl
  · intro i submission nth
    cases nth
  · intro i call submission nth
    cases nth
  · exact .nil

/-- The guards on surfaces are those that the lock has counted. -/
theorem guards_eq (safe : Safe encoder first bytes context)
    (counted : first.Counted (first.since context)) {index : Nat}
    (within : index < first.pool.size) :
    (context.pool.guards index : Int) = first.guardsAfter (first.since context) index := by
  rw [EncodeContext.guardsAfter, ← LockChange.guards_foldl within (counted index within),
    SurfacePool.guards, SurfacePool.guards, safe.locks]

/-- Filling a surface submits nothing. -/
theorem filled (safe : Safe encoder first bytes context) (index : Nat) (data : Bytes)
    (source : Source) :
    Safe encoder first bytes
      { context with pool := context.pool.withData index data, source } where
  options := safe.options
  encoder_eq := safe.encoder_eq
  poolNumber := safe.poolNumber
  store := safe.store
  sound := SurfacePool.sound_withData safe.sound data
  info := safe.info
  size := safe.size
  record_eq := safe.record_eq
  locks := safe.locks
  frames := safe.frames
  idle := safe.idle
  order := safe.order

/-- Calls keep what holds of earlier submissions, and what holds of those that they make is left
to show. -/
theorem called {calls : List Entry} (safe : Safe encoder first bytes context)
    (h : Called encoder calls context last)
    (frames : ∀ (i : Nat) (submission : Submission),
      (submissions calls)[i]? = some submission →
        ((submissions (first.since context)).length + i + 1) * first.pool.info.rawFrameSize
            ≤ bytes.size ∧
          submission.surface.info = first.pool.info ∧
          submission.surface.toFrame = .ok (first.pool.info.frame bytes
            ((submissions (first.since context)).length + i)))
    (idle : ∀ (i : Nat) (call : Entry) (submission : Submission),
      calls[i]? = some call → call.submission? = some submission →
        submission.id.pool = first.poolNumber ∧ submission.id.index < first.pool.size ∧
          (first.Counted (first.since context ++ calls) →
            first.guardsAfter (first.since context ++ calls.take i) submission.id.index = 0))
    (order : (first.since context ++ calls).Pairwise fun earlier later =>
      earlier.isFlush = true → later.submission? = none) :
    Safe encoder first bytes last := by
  have since := EncodeContext.since_append safe.record_eq h.record_eq
  have store := h.store
  rw [mayWrite_congr safe.store, safe.options] at store
  constructor
  · rw [h.options, safe.options]
  · exact h.encoder_eq
  · rw [h.poolNumber, safe.poolNumber]
  · exact store.trans safe.store
  · rw [h.pool]
    exact LockChange.sound_foldl safe.sound
  · rw [h.pool, LockChange.info_foldl, safe.info]
  · rw [h.pool, LockChange.size_foldl, safe.size]
  · rw [h.record_eq, since, safe.record_eq, List.append_assoc]
  · rw [since, h.pool, List.flatMap_append, List.foldl_append, safe.poolNumber]
    exact LockChange.locks_foldl_congr safe.locks
  · -- frames are counted on from those submitted before
    intro i submission nth
    rw [since, submissions_append] at nth
    rcases Nat.lt_or_ge i (submissions (first.since context)).length with earlier | new
    · rw [List.getElem?_append_left earlier] at nth
      exact safe.frames i submission nth
    · rw [List.getElem?_append_right new] at nth
      have found := frames _ submission nth
      rwa [Nat.add_sub_of_le new] at found
  · -- guards are counted from the first call on, also for the new ones
    intro i call submission nth submitted
    rw [since] at nth ⊢
    rcases Nat.lt_or_ge i (first.since context).length with earlier | new
    · rw [List.getElem?_append_left earlier] at nth
      obtain ⟨pool, within, unguarded⟩ := safe.idle i call submission nth submitted
      refine ⟨pool, within, fun counted => ?_⟩
      rw [List.take_append_of_le_length (Nat.le_of_lt earlier)]
      exact unguarded counted.of_append
    · rw [List.getElem?_append_right new] at nth
      obtain ⟨pool, within, unguarded⟩ := idle _ call submission nth submitted
      refine ⟨pool, within, fun counted => ?_⟩
      rw [List.take_append, List.take_of_length_le new]
      exact unguarded counted
  · rw [since]
    exact order

/-- Calls that submit no surface. -/
theorem others {calls : List Entry} (safe : Safe encoder first bytes context)
    (h : Called encoder calls context last) (others : ∀ call ∈ calls, call.submission? = none) :
    Safe encoder first bytes last := by
  refine safe.called h ?_ ?_ ?_
  · rw [submissions_of_others others]
    nofun
  · intro i call submission nth submitted
    rw [others call (List.mem_of_getElem? nth)] at submitted
    cases submitted
  · refine List.pairwise_append.2 ⟨safe.order, ?_, fun _ _ later mem _ => others later mem⟩
    exact List.pairwise_of_forall_mem_list fun _ _ later mem _ => others later mem

theorem submissions_others {calls : List Entry} (safe : Safe encoder first bytes context)
    (h : Called encoder calls context last) (others : ∀ call ∈ calls, call.submission? = none) :
    submissions (first.since last) = submissions (first.since context) := by
  rw [EncodeContext.since_append safe.record_eq h.record_eq, submissions_append,
    submissions_of_others others, List.append_nil]

/-- The submission of the next frame, in a surface that was free. -/
theorem submitted {submission : Submission} {reply : Attempt EncoderError SubmitStatus}
    {locks : List LockChange} (safe : Safe encoder first bytes context)
    (h : Called encoder [⟨.submit (some submission) reply, locks, none⟩] context last)
    (enough : ((submissions (first.since context)).length + 1) * first.pool.info.rawFrameSize
      ≤ bytes.size)
    (info : submission.surface.info = first.pool.info)
    (frame : submission.surface.toFrame = .ok (first.pool.info.frame bytes
      (submissions (first.since context)).length))
    (pool : submission.id.pool = context.poolNumber)
    (within : submission.id.index < context.pool.size)
    (free : context.pool.guards submission.id.index = 0)
    (unflushed : ∀ call ∈ first.since context, call.isFlush = false) :
    Safe encoder first bytes last := by
  refine safe.called h ?_ ?_ ?_
  · intro i other nth
    cases i with
    | zero =>
      cases nth
      exact ⟨enough, info, frame⟩
    | succ i => cases nth
  · intro i call other nth other_eq
    cases i with
    | zero =>
      cases nth
      cases other_eq
      refine ⟨pool.trans safe.poolNumber, safe.size ▸ within, fun counted => ?_⟩
      rw [List.take_zero, List.append_nil, ← safe.guards_eq counted.of_append (safe.size ▸ within),
        free]
      rfl
    | succ i => cases nth
  · refine List.pairwise_append.2 ⟨safe.order, List.pairwise_singleton _ _, ?_⟩
    intro earlier mem later _ flush
    rw [unflushed earlier mem] at flush
    cases flush

end Safe

end Safe

/-! ## Reading the next frame -/

namespace EncodeM

variable {context : EncodeContext σ} {written : Location → Prop} {rest : Bytes}
  {failure : Option IoError} {index : Nat}

/-- A frame that is there is submitted in the first surface that is free. -/
theorem run_readFrame_complete (free : context.pool.findFree = some index)
    (feeds : context.source.Feeds context.store written rest failure) (sound : context.pool.Sound)
    (enough : context.pool.info.rawFrameSize ≤ rest.size) :
    ∃ (data : Bytes) (next : Source),
      readFrame.run context = (.ok (some ⟨⟨context.poolNumber, index⟩, ⟨context.pool.info, data⟩⟩),
        { context with pool := context.pool.withData index data, source := next }) ∧
      next.Feeds context.store written
        (rest.extract context.pool.info.rawFrameSize rest.size) failure ∧
      data.size = context.pool.info.surfaceSize ∧
      Surface.toFrame ⟨context.pool.info, data⟩ = .ok (context.pool.info.frame rest 0) := by
  obtain ⟨within, _⟩ := SurfacePool.findFree_eq_some free
  obtain ⟨data, next, read, last, size, shows⟩ :=
    SurfacePool.readFrame_complete feeds sound within enough
  refine ⟨data, next, ?_, last, size, ?_⟩
  · rw [readFrame, run_bind_ok (run_get context), free]
    dsimp only
    rw [read, run_bind_ok (run_ofFault _ _), run_bind_ok (run_set _ _)]
    dsimp only
    rw [SurfacePool.surface?_withData_self sound.size_eq within size]
    rfl
  · rw [FrameInfo.frame, Nat.zero_mul, Nat.zero_add]
    exact shows

/-- Where the source ends before a frame is there, there is nothing to submit. -/
theorem run_readFrame_short (free : context.pool.findFree = some index)
    (feeds : context.source.Feeds context.store written rest failure) (sound : context.pool.Sound)
    (short : rest.size < context.pool.info.rawFrameSize) :
    ∃ (data : Bytes) (next : Source),
      readFrame.run context
        = (failure.elim (.ok none) fun error => .error (.error (.inputNotRead error)),
          { context with pool := context.pool.withData index data, source := next }) ∧
      data.size = context.pool.info.surfaceSize := by
  obtain ⟨within, _⟩ := SurfacePool.findFree_eq_some free
  obtain ⟨data, next, read, _, size⟩ := SurfacePool.readFrame_short feeds sound within short
  refine ⟨data, next, ?_, size⟩
  rw [readFrame, run_bind_ok (run_get context), free]
  dsimp only
  rw [read, run_bind_ok (run_ofFault _ _), run_bind_ok (run_set _ _)]
  cases failure <;> rfl

end EncodeM

/-! ## Rounds -/

section Feeding

variable {first context last : EncodeContext (σ × List Entry)} {bytes : Bytes}
  {failure : Option IoError} {draining : Bool}

/-- How many surfaces were submitted. -/
def submittedCount (first later : EncodeContext (σ × List Entry)) : Nat :=
  (submissions (first.since later)).length

/-- What holds between two rounds: the source goes on behind the frames that were submitted, or it
has ended and all frames were. -/
structure Feeding (encoder : Encoder σ) (first : EncodeContext (σ × List Entry)) (bytes : Bytes)
    (failure : Option IoError) (draining : Bool) (context : EncodeContext (σ × List Entry)) :
    Prop where
  safe : Safe encoder first bytes context
  reading : draining = false →
    context.source.Feeds context.store (MayWrite first.options first.store)
      (bytes.extract (submittedCount first context * first.pool.info.rawFrameSize) bytes.size)
      failure ∧
    submittedCount first context * first.pool.info.rawFrameSize ≤ bytes.size ∧
    ∀ call ∈ first.since context, call.isFlush = false
  ended : draining = true →
    submittedCount first context = bytes.size / first.pool.info.rawFrameSize

/-- Surfaces on which there are guards show later what they show now. -/
def Guarded (first context last : EncodeContext (σ × List Entry)) : Prop :=
  first.Counted (first.since context) → ∀ index < first.pool.size,
    0 < first.guardsAfter (first.since context) index →
      last.pool.surface? index = context.pool.surface? index

/-- What making a submission leads to, or a round. -/
structure Goes {α : Type} (encoder : Encoder σ) (bytes : Bytes) (failure : Option IoError)
    (first context : EncodeContext (σ × List Entry))
    (outcome : Except (Failure EncodeError) α) (last : EncodeContext (σ × List Entry)) :
    Prop where
  safe : Safe encoder first bytes last
  guarded : Guarded first context last
  unread : ∀ error, outcome = .error (.error (.inputNotRead error)) →
    submittedCount first last = bytes.size / first.pool.info.rawFrameSize ∧ failure = some error

/-- The chroma bytes of a frame come on top of one luma byte at least. -/
theorem FrameInfo.Sound.one_lt_rawFrameSize {info : FrameInfo} (sound : info.Sound) :
    1 < info.rawFrameSize := by
  have luma := Nat.mul_pos sound.crop_w_pos sound.crop_h_pos
  have wide : 0 < chromaRowBytes info.cropW.toNat :=
    Nat.lt_of_lt_of_le sound.crop_w_pos (le_chromaRowBytes _)
  have chroma := Nat.mul_pos wide (chromaRows_pos sound.crop_h_pos)
  rw [rawFrameSize]
  omega

theorem FrameInfo.Sound.rawFrameSize_pos {info : FrameInfo} (sound : info.Sound) :
    0 < info.rawFrameSize :=
  Nat.zero_lt_of_lt sound.one_lt_rawFrameSize

/-- Frames are counted to the last one that is there. -/
theorem eq_div_of_short {count size total : Nat} (positive : 0 < size)
    (le : count * size ≤ total) (short : total - count * size < size) : count = total / size := by
  symm
  rw [Nat.div_eq_iff positive]
  omega

namespace Feeding

/-- Calls that submit nothing leave the source where it is. -/
theorem settled {calls : List Entry}
    (feeding : Feeding encoder first bytes failure draining context)
    (h : Called encoder calls context last)
    (others : ∀ call ∈ calls, call.submission? = none ∧ call.isFlush = false) :
    Feeding encoder first bytes failure draining last := by
  have unsubmitted := fun call mem => (others call mem).1
  have count : submittedCount first last = submittedCount first context := by
    rw [submittedCount, feeding.safe.submissions_others h unsubmitted, submittedCount]
  refine ⟨feeding.safe.others h unsubmitted, fun reads => ?_, fun ends => ?_⟩
  · obtain ⟨feeds, le, unflushed⟩ := feeding.reading reads
    have store := h.store
    rw [mayWrite_congr feeding.safe.store, feeding.safe.options] at store
    refine ⟨?_, count ▸ le, ?_⟩
    · rw [h.source, count]
      exact feeds.of_changedAt store
    · rw [EncodeContext.since_append feeding.safe.record_eq h.record_eq]
      intro call mem
      rcases List.mem_append.1 mem with mem | mem
      · exact unflushed call mem
      · exact (others call mem).2
  · rw [count]
    exact feeding.ended ends

/-- A flush once the source has ended. -/
theorem flushed (safe : Safe encoder first bytes context)
    (ended : submittedCount first context = bytes.size / first.pool.info.rawFrameSize) :
    Feeding encoder first bytes failure true (context.book (context.session.submit none)) := by
  have called := Called.book safe.encoder_eq (Session.records_submit safe.encoder_eq none)
  have unsubmitted : ∀ call ∈ [Entry.mk (.submit none (context.session.submit none).reply)
      (context.session.submit none).locks none], call.submission? = none := by
    intro call mem
    rw [List.mem_singleton.1 mem]
    rfl
  refine ⟨safe.others called unsubmitted, nofun, fun _ => ?_⟩
  rw [submittedCount, safe.submissions_others called unsubmitted]
  exact ended

/-- The submission of a surface that was filled with the next frame. -/
theorem next {data : Bytes} {source : Source} {index : Nat}
    (feeding : Feeding encoder first bytes failure false context)
    (free : context.pool.findFree = some index)
    (enough : (submittedCount first context + 1) * first.pool.info.rawFrameSize ≤ bytes.size)
    (frame : Surface.toFrame ⟨first.pool.info, data⟩
      = .ok (first.pool.info.frame bytes (submittedCount first context)))
    (feeds : source.Feeds context.store (MayWrite first.options first.store)
      (bytes.extract ((submittedCount first context + 1) * first.pool.info.rawFrameSize)
        bytes.size) failure) :
    Feeding encoder first bytes failure false
      (EncodeContext.book { context with pool := context.pool.withData index data, source }
        (context.session.submit
          (some ⟨⟨context.poolNumber, index⟩, ⟨first.pool.info, data⟩⟩))) := by
  obtain ⟨within, unguarded⟩ := SurfacePool.findFree_eq_some free
  have unflushed := (feeding.reading rfl).2.2
  have filled := feeding.safe.filled index data source
  have told := Session.records_submit feeding.safe.encoder_eq
    (some ⟨⟨context.poolNumber, index⟩, ⟨first.pool.info, data⟩⟩)
  have called := @Called.book _ _ _
    { context with pool := context.pool.withData index data, source } _ _ filled.encoder_eq told
  have safe := filled.submitted called enough rfl frame rfl within unguarded unflushed
  have since := EncodeContext.since_append filled.record_eq called.record_eq
  have count : submittedCount first (EncodeContext.book
      { context with pool := context.pool.withData index data, source }
      (context.session.submit (some ⟨⟨context.poolNumber, index⟩, ⟨first.pool.info, data⟩⟩)))
        = submittedCount first context + 1 := by
    rw [submittedCount, since, submissions_append, List.length_append]
    rfl
  refine ⟨safe, fun _ => ⟨?_, count ▸ enough, ?_⟩, nofun⟩
  · rw [count]
    exact feeds
  · rw [since]
    intro call mem
    rcases List.mem_append.1 mem with mem | mem
    · exact unflushed call mem
    · rw [List.mem_singleton.1 mem]
      rfl

end Feeding

namespace Guarded

theorem of_surfaces (h : ∀ index, last.pool.surface? index = context.pool.surface? index) :
    Guarded first context last :=
  fun _ index _ _ => h index

/-- Guards do not move while surfaces are filled that have none. -/
theorem filled {data : Bytes} {source : Source} {free : Nat}
    (safe : Safe encoder first bytes context) (found : context.pool.findFree = some free)
    (size : data.size = context.pool.info.surfaceSize) :
    Guarded first context { context with pool := context.pool.withData free data, source } := by
  -- A surface with guards on it is not the one that was found to be free.
  intro counted index within positive
  refine SurfacePool.surface?_withData_of_ne ?_ size
  rintro rfl
  rw [← safe.guards_eq counted within, (SurfacePool.findFree_eq_some found).2] at positive
  exact absurd positive (by decide)

theorem trans {middle : EncodeContext (σ × List Entry)} (h : Guarded first context middle)
    (same : ∀ index, last.pool.surface? index = middle.pool.surface? index) :
    Guarded first context last :=
  fun counted index within positive => (same index).trans (h counted index within positive)

end Guarded

theorem Called.surface?_eq {calls : List Entry} (h : Called encoder calls context last)
    (index : Nat) : last.pool.surface? index = context.pool.surface? index := by
  rw [h.pool, LockChange.surface?_foldl]

namespace EncodeM

/-- A call that makes the submission of a round. -/
theorem goes_of_call {middle : EncodeContext (σ × List Entry)}
    {make : Session (σ × List Entry) → Answer (Session (σ × List Entry)) SubmitStatus}
    {outcome : Except (Failure EncodeError) (Except EncoderError SubmitStatus × Bool)}
    (feeding : Feeding encoder first bytes failure draining
      (middle.book (make middle.session)))
    (guarded : Guarded first context (middle.book (make middle.session)))
    (ran : (call make >>= fun reply => pure (reply, draining)).run middle = (outcome, last)) :
    Goes encoder bytes failure first context outcome last ∧
      ∀ reply draining', outcome = .ok (reply, draining') →
        Feeding encoder first bytes failure draining' last := by
  rcases run_bind_cases ran with ⟨reply, later, called, ran⟩ | ⟨error, called, rfl⟩
  · rw [run_call] at called
    obtain ⟨_, rfl⟩ := Prod.mk.inj called
    cases ran
    refine ⟨⟨feeding.safe, guarded, nofun⟩, fun _ _ same => ?_⟩
    cases same
    exact feeding
  · rw [run_call] at called
    obtain ⟨failed, rfl⟩ := Prod.mk.inj called
    refine ⟨⟨feeding.safe, guarded, fun error unread => ?_⟩, nofun⟩
    cases unread
    exact absurd failed heard_ne

section NextSubmission

variable {outcome : Except (Failure EncodeError) (Except EncoderError SubmitStatus × Bool)}
  {index : Nat}

/-- The submission of a frame that is there. -/
theorem nextSubmission_goes_complete
    (feeding : Feeding encoder first bytes failure false context)
    (free : context.pool.findFree = some index)
    (enough : (submittedCount first context + 1) * first.pool.info.rawFrameSize ≤ bytes.size)
    (ran : (nextSubmission false).run context = (outcome, last)) :
    Goes encoder bytes failure first context outcome last ∧
      ∀ reply draining', outcome = .ok (reply, draining') →
        Feeding encoder first bytes failure draining' last := by
  have safe := feeding.safe
  obtain ⟨feeds, _, _⟩ := feeding.reading rfl
  have next_eq : (submittedCount first context + 1) * first.pool.info.rawFrameSize
      = submittedCount first context * first.pool.info.rawFrameSize
        + first.pool.info.rawFrameSize := Nat.succ_mul _ _
  obtain ⟨data, source, read, rest, size, frame⟩ := run_readFrame_complete free feeds
    safe.sound (by rw [safe.info, Array.size_extract]; omega)
  have guarded := @Guarded.filled _ _ _ _ _ data source _ safe free size
  rw [safe.info] at read rest frame
  rw [Bytes.extract_size_extract_size, ← next_eq] at rest
  rw [FrameInfo.frame_extract] at frame
  rw [nextSubmission, if_neg Bool.false_ne_true, run_bind_ok read] at ran
  have called := @Called.book _ _ _ { context with
    pool := context.pool.withData index data, source } _ _ safe.encoder_eq
    (Session.records_submit safe.encoder_eq
      (some ⟨⟨context.poolNumber, index⟩, ⟨first.pool.info, data⟩⟩))
  exact goes_of_call (feeding.next free enough frame rest) (guarded.trans called.surface?_eq) ran

/-- The flush, or the failure, where less than a frame is left. -/
theorem nextSubmission_goes_short
    (feeding : Feeding encoder first bytes failure false context)
    (free : context.pool.findFree = some index)
    (short : bytes.size < (submittedCount first context + 1) * first.pool.info.rawFrameSize)
    (ran : (nextSubmission false).run context = (outcome, last)) :
    Goes encoder bytes failure first context outcome last ∧
      ∀ reply draining', outcome = .ok (reply, draining') →
        Feeding encoder first bytes failure draining' last := by
  have safe := feeding.safe
  obtain ⟨feeds, le, _⟩ := feeding.reading rfl
  rw [Nat.succ_mul] at short
  -- Every frame was submitted, since the source feeds nothing else.
  have last_count := eq_div_of_short (safe.info ▸ safe.sound.info.rawFrameSize_pos) le (by omega)
  obtain ⟨data, source, read, size⟩ := run_readFrame_short free feeds safe.sound
    (by rw [safe.info, Array.size_extract]; omega)
  have filled := safe.filled index data source
  have guarded := @Guarded.filled _ _ _ _ _ data source _ safe free size
  rw [nextSubmission, if_neg Bool.false_ne_true] at ran
  cases failure with
  | some error =>
    rw [run_bind, read] at ran
    cases ran
    refine ⟨⟨filled, guarded, ?_⟩, nofun⟩
    intro error' same
    cases same
    exact ⟨last_count, rfl⟩
  | none =>
    rw [run_bind_ok read] at ran
    obtain ⟨_, reported, report, ran⟩ | ⟨_, failed, _⟩ := run_bind_cases ran
    · cases report
      have reported : Safe encoder first bytes (EncodeContext.report { context with
          pool := context.pool.withData index data, source } .inputEnded) :=
        filled.others (.of_session filled.encoder_eq rfl rfl rfl rfl rfl rfl)
          (List.forall_mem_nil _)
      have called := Called.book reported.encoder_eq
        (Session.records_submit reported.encoder_eq none)
      exact goes_of_call (.flushed reported last_count) (guarded.trans called.surface?_eq) ran
    · cases failed

/-- The submission of a round, in all its outcomes. -/
theorem nextSubmission_goes (feeding : Feeding encoder first bytes failure draining context)
    (ran : (nextSubmission draining).run context = (outcome, last)) :
    Goes encoder bytes failure first context outcome last ∧
      ∀ reply draining', outcome = .ok (reply, draining') →
        Feeding encoder first bytes failure draining' last := by
  have safe := feeding.safe
  cases draining with
  | true =>
    have called := Called.book safe.encoder_eq (Session.records_submit safe.encoder_eq none)
    exact goes_of_call (.flushed safe (feeding.ended rfl)) (.of_surfaces called.surface?_eq) ran
  | false =>
    cases free : context.pool.findFree with
    | none =>
      rw [nextSubmission, if_neg Bool.false_ne_true,
        run_bind_error (run_readFrame_none free)] at ran
      cases ran
      exact ⟨⟨safe, .of_surfaces fun _ => rfl, nofun⟩, nofun⟩
    | some index =>
      rcases Nat.lt_or_ge bytes.size
        ((submittedCount first context + 1) * first.pool.info.rawFrameSize) with short | enough
      · exact nextSubmission_goes_short feeding free short ran
      · exact nextSubmission_goes_complete feeding free enough ran

end NextSubmission

/-! What is left of a round does not read the source, and ends the loop for reasons of its own. -/

theorem never_attemptSync (sync : SyncPoint) (left attempt : Nat) (error : IoError) :
    Never (.inputNotRead error) (attemptSync sync left attempt : EncodeM σ Bool) := by
  induction left generalizing attempt with
  | zero => exact .fail nofun
  | succ left ih =>
    refine .bind (.get_bind fun _ => .bind (.set _) fun _ => .call _) fun reply => ?_
    split
    · exact .pure true
    · exact .bind (.report _) fun _ => ih (attempt + 1)
    · exact .bind (.report _) fun _ => .bind (.modifies _) fun _ => .pure false
    · exact .fail nofun

theorem never_writeOutput (error : IoError) :
    Never (.inputNotRead error) (writeOutput : EncodeM σ Unit) := by
  intro context unread
  obtain ⟨_, _, failed⟩ | ⟨_, _, failed⟩ | ⟨_, _, _, _, _, ⟨_, _, failed⟩ | ⟨_, _, succeeded⟩⟩ :=
    writeOutput_cases context
  · rw [failed] at unread
    cases unread
  · rw [failed] at unread
    cases unread
  · rw [failed] at unread
    cases unread
  · rw [succeeded] at unread
    cases unread

theorem never_demand {step : EncoderStep} (make : Session σ → Answer (Session σ) α)
    (error : IoError) : Never (.inputNotRead error) (demand step make) := by
  refine .bind (.call make) fun reply => ?_
  cases reply with
  | ok value => exact .pure value
  | error error => exact .fail nofun

theorem never_changeSize (width height : UInt16) (error : IoError) :
    Never (.inputNotRead error) (changeSize width height : EncodeM σ Unit) := by
  have allocates : Never (.inputNotRead error) (allocatePool : EncodeM σ SurfaceRequest) :=
    .get_bind fun _ => .bind (never_demand _ error) fun _ =>
      .bind (.modifies _) fun _ => .pure _
  refine .bind (.modifies _) fun _ => .get_bind fun _ => .bind (.call _) fun reply => ?_
  split
  · refine .bind allocates fun _ => .bind (.modifies _) fun _ => ?_
    exact .get_bind fun _ => .report _
  · exact .fail nofun

theorem never_applyDueChange (error : IoError) :
    Never (.inputNotRead error) (applyDueChange : EncodeM σ Unit) := by
  refine .get_bind fun context => ?_
  split
  · split
    · unfold applyChange
      split
      · refine .bind (.get_bind fun context => ?_) fun _ => never_changeSize _ _ error
        split
        · exact .fail nofun
        · exact .modifies _
      · exact never_changeSize _ _ error
    · exact .pure ()
  · exact .pure ()

theorem never_settle (draining : Bool) (reply : Except EncoderError SubmitStatus)
    (error : IoError) :
    Never (.inputNotRead error) (settle draining reply : EncodeM σ Progress) := by
  unfold settle
  split
  · refine .bind (.get_bind fun _ => never_attemptSync _ _ 1 error) fun found => ?_
    cases found with
    | false => exact .pure _
    | true =>
      refine .bind (never_writeOutput error) fun _ => ?_
      exact .bind (never_applyDueChange error) fun _ => .get_bind fun _ => .pure _
  · exact .pure _
  · exact .pure _
  all_goals exact .bind (.report _) fun _ => .pure _

/-- Only a flush that finds nothing left ends the loop because it is drained. -/
theorem settle_stop {draining : Bool} {reply : Except EncoderError SubmitStatus}
    {reason : StopReason} {context last : EncodeContext σ}
    (ran : (settle draining reply).run context = (.ok (.stop reason), last)) :
    reason = .drained ∧ draining = true ∨ reason = .frameLimit ∨ reason = .unknownStatus := by
  unfold settle at ran
  split at ran
  · obtain ⟨found, _, _, ran⟩ := run_bind_eq_ok ran
    cases found with
    | false => cases ran
    | true =>
      obtain ⟨_, _, _, ran⟩ := run_bind_eq_ok ran
      obtain ⟨_, _, _, ran⟩ := run_bind_eq_ok ran
      obtain ⟨_, _, got, ran⟩ := run_bind_eq_ok ran
      cases got
      obtain ⟨result, rfl⟩ := Prod.mk.inj ran
      split at result <;> cases result
      exact .inr (.inl rfl)
  · cases ran
  · cases draining with
    | false => cases ran
    | true =>
      cases ran
      exact .inl ⟨rfl, rfl⟩
  · cases ran
  · cases ran
  · cases ran
  · cases ran
    exact .inr (.inr rfl)

/-- How a round ends. -/
theorem endRound_ok {loop : LoopState} {draining : Bool} {progress : Progress} {result : RoundEnd}
    {context last : EncodeContext σ}
    (ran : (endRound loop draining progress).run context = (.ok result, last)) :
    (∃ reason, progress = .stop reason ∧ result = .stop reason) ∨
    (draining = true ∧ result = .stop .flushStalled) ∨
    ∃ stalled, result = .next ⟨draining, stalled⟩ := by
  unfold endRound at ran
  split at ran
  · cases ran
    exact .inl ⟨_, rfl, rfl⟩
  · split at ran
    · rename_i drains
      obtain ⟨_, _, got, ran⟩ := run_bind_eq_ok ran
      cases got
      generalize (if progress = Progress.stalled then _ else _) = stalled at ran
      split at ran <;> cases ran
      · exact .inr (.inl ⟨drains, rfl⟩)
      · exact .inr (.inr ⟨stalled, rfl⟩)
    · cases ran
      exact .inr (.inr ⟨_, rfl⟩)

theorem never_endRound {error : EncodeError} (loop : LoopState) (draining : Bool)
    (progress : Progress) : Never error (endRound loop draining progress : EncodeM σ RoundEnd) := by
  unfold endRound
  split
  · exact .pure _
  · split
    · refine .get_bind fun context => ?_
      generalize (if progress = Progress.stalled then _ else _) = stalled
      split
      · exact .bind (.report _) fun _ => .pure _
      · exact .pure _
    · exact .pure _

/-- One round, in all its outcomes. -/
theorem round_goes {loop : LoopState} {outcome : Except (Failure EncodeError) RoundEnd}
    (feeding : Feeding encoder first bytes failure loop.draining context)
    (fixed : first.options.resolutionChange = none)
    (ran : (round loop).run context = (outcome, last)) :
    Goes encoder bytes failure first context outcome last ∧
      (∀ loop', outcome = .ok (.next loop') →
        Feeding encoder first bytes failure loop'.draining last) ∧
      ∀ reason, outcome = .ok (.stop reason) → reason = .drained ∨ reason = .flushStalled →
        submittedCount first last = bytes.size / first.pool.info.rawFrameSize := by
  rcases run_bind_cases ran with ⟨⟨reply, draining⟩, middle, made, rest⟩ | ⟨error, made, rfl⟩
  · obtain ⟨goes, feeds⟩ := nextSubmission_goes feeding made
    have feeding := feeds reply draining rfl
    have settles : Keeps (Settles encoder) (settle draining reply >>= fun progress =>
        endRound loop draining progress) :=
      .bind Settles.onward (settles_settle draining reply) fun progress =>
        .endRound Settles.onward settles_report loop draining progress
    obtain ⟨calls, called, others⟩ := settles.of_run rest feeding.safe.encoder_eq
      (feeding.safe.options ▸ fixed)
    have feeding := feeding.settled called others
    refine ⟨⟨feeding.safe, goes.guarded.trans called.surface?_eq, ?_⟩, ?_, ?_⟩
    · -- only reading fails with this error, and that is done
      intro unread same
      subst same
      have never := Never.bind (never_settle (σ := σ × List Entry) draining reply unread)
        fun progress => never_endRound loop draining progress
      exact absurd (congrArg Prod.fst rest) (never middle)
    · -- the next round drains if and only if this one does
      intro loop' same
      subst same
      obtain ⟨progress, _, _, ended⟩ := run_bind_eq_ok rest
      obtain ⟨_, _, same⟩ | ⟨_, same⟩ | ⟨stalled, same⟩ := endRound_ok ended
      · cases same
      · cases same
      · cases same
        exact feeding
    · -- a loop that is drained, or whose flush is stalled, is draining
      intro reason same drained
      subst same
      obtain ⟨progress, _, settled, ended⟩ := run_bind_eq_ok rest
      obtain ⟨_, rfl, same⟩ | ⟨drains, _⟩ | ⟨_, same⟩ := endRound_ok ended
      · cases same
        obtain ⟨_, drains⟩ | rfl | rfl := settle_stop settled
        · exact feeding.ended drains
        · rcases drained with same | same <;> cases same
        · rcases drained with same | same <;> cases same
      · exact feeding.ended drains
      · cases same
  · obtain ⟨goes, _⟩ := nextSubmission_goes feeding made
    refine ⟨⟨goes.safe, goes.guarded, ?_⟩, nofun, nofun⟩
    intro unread same
    cases same
    exact goes.unread unread rfl

theorem run_runRounds_succ (rounds : Nat) (loop : LoopState) (context : EncodeContext σ) :
    (runRounds (rounds + 1) loop).run context =
      match (round loop).run context with
      | (.ok (.stop reason), later) => (.ok reason, later)
      | (.ok (.next loop'), later) => (runRounds rounds loop').run later
      | (.error failure, later) => (.error failure, later) := by
  rw [runRounds, run_bind]
  cases (round loop).run context with
  | mk outcome later =>
    cases outcome with
    | error failure => rfl
    | ok result => cases result <;> rfl

/-- A number of rounds, in all their outcomes. -/
theorem runRounds_goes {rounds : Nat} {loop : LoopState}
    {outcome : Except (Failure EncodeError) StopReason}
    (feeding : Feeding encoder first bytes failure loop.draining context)
    (fixed : first.options.resolutionChange = none)
    (ran : (runRounds rounds loop).run context = (outcome, last)) :
    Safe encoder first bytes last ∧
      (∀ reason, outcome = .ok reason → reason = .drained ∨ reason = .flushStalled →
        submittedCount first last = bytes.size / first.pool.info.rawFrameSize) ∧
      ∀ error, outcome = .error (.error (.inputNotRead error)) →
        submittedCount first last = bytes.size / first.pool.info.rawFrameSize ∧
          failure = some error := by
  induction rounds generalizing loop context with
  | zero =>
    cases ran
    exact ⟨feeding.safe, nofun, nofun⟩
  | succ rounds ih =>
    rw [run_runRounds_succ] at ran
    cases one : (round loop).run context with
    | mk result later =>
      obtain ⟨goes, next, stop⟩ := round_goes feeding fixed one
      rw [one] at ran
      match result, ran with
      | .ok (.next loop'), ran => exact ih (next loop' rfl) ran
      | .ok (.stop reason), ran =>
        cases ran
        refine ⟨goes.safe, fun reason same => ?_, nofun⟩
        cases same
        exact stop _ rfl
      | .error failure, ran =>
        cases ran
        refine ⟨goes.safe, nofun, fun error same => ?_⟩
        cases same
        exact goes.unread error rfl

/-- One more round leaves surfaces on which there are guards as they are. -/
theorem runRounds_guarded {rounds : Nat} {loop : LoopState}
    (feeding : Feeding encoder first bytes failure loop.draining context)
    (fixed : first.options.resolutionChange = none) :
    Guarded first ((runRounds rounds loop).run context).2
      ((runRounds (rounds + 1) loop).run context).2 := by
  induction rounds generalizing loop context with
  | zero =>
    rw [run_runRounds_succ]
    cases one : (round loop).run context with
    | mk result later =>
      obtain ⟨goes, next, stop⟩ := round_goes feeding fixed one
      match result with
      | .ok (.next loop') => exact goes.guarded
      | .ok (.stop reason) => exact goes.guarded
      | .error failure => exact goes.guarded
  | succ rounds ih =>
    rw [run_runRounds_succ, run_runRounds_succ (rounds + 1)]
    cases one : (round loop).run context with
    | mk result later =>
      obtain ⟨goes, next, stop⟩ := round_goes feeding fixed one
      match result with
      | .ok (.next loop') => exact ih (next loop' rfl)
      | .ok (.stop reason) => exact .of_surfaces fun _ => rfl
      | .error failure => exact .of_surfaces fun _ => rfl

end EncodeM

/-- The surfaces submitted in a loop show the frames of the source, one after the other. None of
them had a guard on it when it was filled, and none follows a flush. A loop that comes to the end
of the source has submitted every frame of it. -/
theorem submissions_are_the_frames (same : first.session.encoder = encoder.recorded)
    (fixed : first.options.resolutionChange = none) (sound : first.pool.Sound)
    (feeds : first.source.Feeds first.store (MayWrite first.options first.store) bytes failure)
    {rounds : Nat} {outcome : Except (Failure EncodeError) StopReason}
    (ran : (EncodeM.runRounds rounds .start).run first = (outcome, last))
    (counted : first.Counted (first.since last)) :
    last.session.record = first.session.record ++ first.since last ∧
    (∀ (i : Nat) (submission : Submission),
      (submissions (first.since last))[i]? = some submission →
        (i + 1) * first.pool.info.rawFrameSize ≤ bytes.size ∧
        submission.surface.info = first.pool.info ∧
        submission.surface.toFrame = .ok (first.pool.info.frame bytes i) ∧
        (first.pool.info.frame bytes i).raw = bytes.extract (i * first.pool.info.rawFrameSize)
          (i * first.pool.info.rawFrameSize + first.pool.info.rawFrameSize)) ∧
    (∀ (i : Nat) (call : Entry) (submission : Submission),
      (first.since last)[i]? = some call → call.submission? = some submission →
        submission.id.pool = first.poolNumber ∧ submission.id.index < first.pool.size ∧
        first.guardsAfter ((first.since last).take i) submission.id.index = 0) ∧
    (∀ index < first.pool.size, 0 < first.guardsAfter (first.since last) index →
      ((EncodeM.runRounds (rounds + 1) .start).run first).2.pool.surface? index
        = last.pool.surface? index) ∧
    ((first.since last).Pairwise fun earlier later =>
      earlier.isFlush = true → later.submission? = none) ∧
    (∀ reason, outcome = .ok reason → reason = .drained ∨ reason = .flushStalled →
      (submissions (first.since last)).length = bytes.size / first.pool.info.rawFrameSize) ∧
    ∀ error, outcome = .error (.error (.inputNotRead error)) →
      (submissions (first.since last)).length = bytes.size / first.pool.info.rawFrameSize ∧
        failure = some error := by
  have none_yet : submittedCount first first = 0 := by
    rw [submittedCount, EncodeContext.since_self]
    rfl
  have feeding : Feeding encoder first bytes failure LoopState.start.draining first := by
    refine ⟨.start same sound, fun _ => ?_, nofun⟩
    rw [none_yet, Nat.zero_mul, Array.extract_eq_self_of_le (Nat.le_refl _),
      EncodeContext.since_self]
    exact ⟨feeds, Nat.zero_le _, List.forall_mem_nil _⟩
  obtain ⟨safe, all, unread⟩ := EncodeM.runRounds_goes feeding fixed ran
  refine ⟨safe.record_eq, ?_, ?_, ?_, safe.order, all, unread⟩
  · intro i submission nth
    obtain ⟨enough, info, frame⟩ := safe.frames i submission nth
    exact ⟨enough, info, frame, FrameInfo.raw_frame enough⟩
  · intro i call submission nth submitted
    obtain ⟨pool, within, unguarded⟩ := safe.idle i call submission nth submitted
    exact ⟨pool, within, unguarded counted⟩
  · have guarded := @EncodeM.runRounds_guarded _ _ _ _ _ _ rounds _ feeding fixed
    rw [ran] at guarded
    exact guarded counted

end Feeding

/-- A run on two frames and the first byte of a third one, on an encoder that keeps guards until
results are waited for. -/
def twoFramesAndAByte : EncodeContext (ScriptedEncoder × List Entry) :=
  .start (.ofEncoder ScriptedEncoder.encoder.recorded ({ ScriptedEncoder.usual with
      query := [some (.ok fun params =>
        { params with frameInfo := ⟨⟨25, 1⟩, 0, 0, 1, 1, 2, 2⟩ })]
      holding := .untilSync }, []))
    (.ofBytes #[1, 2, 3, 4, 5, 6, 7]) (.ofInput "" 1 1) .empty #[]

/-- Both frames are submitted, and nothing else. -/
theorem submissions_are_the_frames_of_two :
    (submissions ((EncodeM.setUp.run twoFramesAndAByte).2.since
      ((EncodeM.runRounds 3 .start).run (EncodeM.setUp.run twoFramesAndAByte).2).2)).length
        = 2 := by
  let first := (EncodeM.setUp.run twoFramesAndAByte).2
  have drained : ((EncodeM.runRounds 3 .start).run first).1 = .ok .drained := by decide +kernel
  have info : first.pool.info = ⟨⟨25, 1⟩, 0, 0, 1, 1, 2, 2⟩ := by decide +kernel
  have sound : first.pool.Sound := by
    refine ⟨?_, by decide +kernel⟩
    rw [info]
    constructor <;> decide
  have locks : (first.since ((EncodeM.runRounds 3 .start).run first).2).flatMap Entry.locks
      = [.acquired ⟨1, 0⟩, .released ⟨1, 0⟩, .acquired ⟨1, 0⟩, .released ⟨1, 0⟩] := by
    decide +kernel
  have counted : first.Counted (first.since ((EncodeM.runRounds 3 .start).run first).2) := by
    have size : first.pool.size = 2 := by decide +kernel
    have number : first.poolNumber = 1 := by decide +kernel
    have bounded : ∀ index < 2, ∀ count < 5,
        0 ≤ LockChange.total ⟨1, index⟩ (first.pool.guards index) ([.acquired ⟨1, 0⟩,
            .released ⟨1, 0⟩, .acquired ⟨1, 0⟩, .released ⟨1, 0⟩].take count) ∧
          LockChange.total ⟨1, index⟩ (first.pool.guards index) ([.acquired ⟨1, 0⟩,
            .released ⟨1, 0⟩, .acquired ⟨1, 0⟩, .released ⟨1, 0⟩].take count) < 65536 := by
      decide +kernel
    intro index within changes before
    rw [size] at within
    rw [locks] at before
    rw [number, List.prefix_iff_eq_take.1 before]
    exact bounded index within _ (Nat.lt_succ_of_le before.length_le)
  have feeds : first.source.Feeds first.store (MayWrite first.options first.store)
      #[1, 2, 3, 4, 5, 6, 7] none := ⟨rfl, by decide, by decide +kernel⟩
  obtain ⟨_, _, _, _, _, all, _⟩ :=
    submissions_are_the_frames rfl rfl sound feeds (Prod.ext drained rfl) counted
  exact (all .drained rfl (.inl rfl)).trans (by rw [info]; decide)

end Nv12Jpeg
