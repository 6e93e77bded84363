import Mathlib.Data.List.Nodup
import Nv12Jpeg.Encoder.Scripted
import Nv12Jpeg.Proofs.Bitstream
import Nv12Jpeg.Proofs.Encode.Steps
import Nv12Jpeg.Proofs.Encoder.Record
import Nv12Jpeg.Proofs.FileStore

/-!
# The numbering of written frames

Results that are collected go to files of consecutive numbers, whatever the encoder answers to any
call, as long as it changes the output buffer only by adding bytes to it when it is asked for a
result.

* `collected` — the results that a record tells of, each with all the bytes added for it;
* `Between` — the states between two rounds of loops none of which has failed;
* `Numbered` — what holds in these states, `Numbered.round` is the step from one to the next;
* `outputs_are_numbered` — the files and the counts in these states.
-/

namespace Nv12Jpeg

/-- Collecting results only adds bytes to the output buffer. -/
def Encoder.Appends {σ : Type} (encoder : Encoder σ) : Prop :=
  ∀ sync waitMs bitstream state, ∃ added,
    (encoder.sync sync waitMs bitstream state).2.bytes = bitstream.bytes ++ added

/-- Whether a result was asked for and is complete. -/
def Entry.isDone (entry : Entry) : Bool :=
  match entry.turn with
  | .sync _ _ (.ok .done) => true
  | _ => false

/-- What has come of asking for results. -/
structure Collected where
  /-- The bytes of each complete result. -/
  files : List Bytes
  /-- The bytes added since a result was last complete or dropped. -/
  waiting : Bytes

/-- Takes one more call into account. -/
def Collected.add (collected : Collected) (entry : Entry) : Collected :=
  match entry.turn with
  | .sync _ _ (.ok .done) => ⟨collected.files ++ [collected.waiting ++ entry.added], #[]⟩
  | .sync _ _ (.error (.error (.notEnoughBuffer _ _))) => ⟨collected.files, #[]⟩
  | .sync _ _ _ => ⟨collected.files, collected.waiting ++ entry.added⟩
  | _ => collected

/-- What has come of asking for results in a record. -/
def collected (record : List Entry) : Collected := record.foldl Collected.add ⟨[], #[]⟩

namespace EncodeM

/-- The states between two rounds of loops none of which has failed, after a set-up from `first`:
the loop stands there, or another one may start there. -/
inductive Between {σ : Type} (first : EncodeContext σ) : LoopState → EncodeContext σ → Prop where
  | start {context : EncodeContext σ} (h : setUp.run first = (.ok (), context)) :
      Between first .start context
  | next {state state' : LoopState} {context context' : EncodeContext σ}
      (before : Between first state context)
      (h : (round state).run context = (.ok (.next state'), context')) :
      Between first state' context'
  | again {state : LoopState} {reason : StopReason} {context context' : EncodeContext σ}
      (before : Between first state context)
      (h : (round state).run context = (.ok (.stop reason), context')) :
      Between first .start context'

end EncodeM

/-- Calls of other kinds add no results. -/
theorem Collected.add_of_idle (done : Collected) {entry : Entry}
    (idle : entry.turn.isWork = false) : done.add entry = done := by
  unfold Collected.add
  split <;> simp_all [Turn.isWork]

theorem Collected.add_length (done : Collected) (entry : Entry) :
    (done.add entry).files.length = done.files.length + if entry.isDone then 1 else 0 := by
  unfold Collected.add Entry.isDone
  split <;> simp_all

theorem length_collected (record : List Entry) :
    (collected record).files.length = record.countP Entry.isDone := by
  have main : ∀ done : Collected, (record.foldl Collected.add done).files.length
      = done.files.length + record.countP Entry.isDone := by
    induction record with
    | nil => exact fun _ => rfl
    | cons entry rest ih =>
      intro done
      rw [List.foldl_cons, ih, done.add_length, List.countP_cons]
      omega
  exact (main _).trans (Nat.zero_add _)

theorem collected_append (record entries : List Entry) :
    collected (record ++ entries) = entries.foldl Collected.add (collected record) :=
  List.foldl_append

/-! ## Steps without an effect on files -/

section Quiet

variable {σ α : Type} {encoder : Encoder σ} {first second third : EncodeContext (σ × List Entry)}

/-- Nothing was collected, nothing was written, and the encoder in use is the same. -/
structure Quiet (encoder : Encoder σ) (earlier later : EncodeContext (σ × List Entry)) : Prop where
  options : later.options = earlier.options
  store : later.store = earlier.store
  bitstream : later.bitstream = earlier.bitstream
  framesWritten : later.framesWritten = earlier.framesWritten
  outputs : later.outputs = earlier.outputs
  session : earlier.session.encoder = encoder.recorded → later.session.encoder = encoder.recorded ∧
    collected later.session.record = collected earlier.session.record

namespace Quiet

theorem of_session (h : second.session = first.session) (options : second.options = first.options)
    (store : second.store = first.store) (bitstream : second.bitstream = first.bitstream)
    (framesWritten : second.framesWritten = first.framesWritten)
    (outputs : second.outputs = first.outputs) : Quiet encoder first second := by
  refine ⟨options, store, bitstream, framesWritten, outputs, fun same => ?_⟩
  rw [h]
  exact ⟨same, rfl⟩

theorem trans (h : Quiet encoder first second) (h' : Quiet encoder second third) :
    Quiet encoder first third where
  options := h'.options.trans h.options
  store := h'.store.trans h.store
  bitstream := h'.bitstream.trans h.bitstream
  framesWritten := h'.framesWritten.trans h.framesWritten
  outputs := h'.outputs.trans h.outputs
  session := by
    intro same
    obtain ⟨same, before⟩ := h.session same
    obtain ⟨same, after⟩ := h'.session same
    exact ⟨same, after.trans before⟩

theorem onward : EncodeM.Onward (Quiet encoder) where
  refl := fun _ => ⟨rfl, rfl, rfl, rfl, rfl, fun same => ⟨same, rfl⟩⟩
  trans := trans

/-- A call that adds no results to the record. -/
theorem book {answer : Answer (Session (σ × List Entry)) α}
    (h : first.session.encoder = encoder.recorded →
      ∃ entries, answer.Records first.session entries ∧
        collected (first.session.record ++ entries) = collected first.session.record) :
    Quiet encoder first (first.book answer) := by
  refine ⟨rfl, rfl, rfl, rfl, rfl, fun same => ?_⟩
  obtain ⟨entries, told, kept⟩ := h same
  refine ⟨told.encoder_eq.trans same, ?_⟩
  rw [← kept, ← told.record_eq]
  rfl

end Quiet

theorem collected_others {record entries : List Entry}
    (others : ∀ entry ∈ entries, entry.turn.isWork = false) :
    collected (record ++ entries) = collected record := by
  rw [collected_append]
  induction entries with
  | nil => rfl
  | cons entry rest ih =>
    rw [List.foldl_cons, (collected record).add_of_idle (others entry List.mem_cons_self)]
    exact ih fun entry mem => others entry (List.mem_cons_of_mem _ mem)

namespace EncodeM

open Session

theorem keeps_report (event : Event) : Keeps (Quiet encoder) (report event) :=
  fun _ => .of_session rfl rfl rfl rfl rfl rfl

theorem keeps_call {make : Session (σ × List Entry) → Answer (Session (σ × List Entry)) α}
    (h : ∀ session, session.encoder = encoder.recorded → (make session).RecordsOthers session) :
    Keeps (Quiet encoder) (call make) := by
  intro context
  rw [run_call]
  refine .book fun same => ?_
  obtain ⟨entries, told, others⟩ := h context.session same
  exact ⟨entries, told, collected_others others⟩

theorem keeps_submit (submission : Option Submission) :
    Keeps (Quiet encoder) (call (Session.submit submission)) := by
  intro context
  rw [run_call]
  refine .book fun same => ⟨_, records_submit same submission, ?_⟩
  rw [collected_append]
  rfl

theorem keeps_demand {step : EncoderStep}
    {make : Session (σ × List Entry) → Answer (Session (σ × List Entry)) α}
    (h : ∀ session, session.encoder = encoder.recorded → (make session).RecordsOthers session) :
    Keeps (Quiet encoder) (demand step make) :=
  .demand Quiet.onward (keeps_call h)

theorem keeps_openAccelerator : Keeps (Quiet encoder) openAccelerator :=
  .openAccelerator Quiet.onward
    (fun accelerator => keeps_demand fun _ same => (records_attach same accelerator).others rfl)
    fun _ _ => .of_session rfl rfl rfl rfl rfl rfl

theorem keeps_negotiate : Keeps (Quiet encoder) negotiate :=
  .negotiate Quiet.onward keeps_report
    (fun params => keeps_demand fun _ same => (records_query same params).others rfl)
    (fun _ _ => .of_session rfl rfl rfl rfl rfl rfl)
    fun params => keeps_demand fun _ same => (records_init same params).others rfl

theorem keeps_allocatePool : Keeps (Quiet encoder) allocatePool :=
  .allocatePool Quiet.onward
    (fun params => keeps_demand fun _ same => (records_surfaceRequest same params).others rfl)
    fun _ _ => .of_session rfl rfl rfl rfl rfl rfl

theorem keeps_nextSubmission (draining : Bool) :
    Keeps (Quiet encoder) (nextSubmission draining) :=
  .nextSubmission Quiet.onward keeps_report
    (.readFrame Quiet.onward fun _ _ _ => .of_session rfl rfl rfl rfl rfl rfl) keeps_submit draining

theorem keeps_applyDueChange : Keeps (Quiet encoder) applyDueChange := by
  have unmoved : ∀ context source, Quiet encoder context { context with source } :=
    fun _ _ => .of_session rfl rfl rfl rfl rfl rfl
  refine .applyDueChange Quiet.onward (.changeInput Quiet.onward unmoved) ?_
  exact .changeSize Quiet.onward keeps_report (fun _ _ => .of_session rfl rfl rfl rfl rfl rfl)
    (fun params => keeps_call fun _ same => recordsOthers_resetResolution same params)
    keeps_allocatePool fun _ => .of_session rfl rfl rfl rfl rfl rfl

end EncodeM

end Quiet

/-! ## Waiting for a result -/

section Collects

variable {σ : Type} {encoder : Encoder σ} {context last : EncodeContext (σ × List Entry)}

/-- Waiting for a result has come to an end: either it is what waits in the output buffer now, or
it was dropped and nothing waits. -/
structure Collects (encoder : Encoder σ) (earlier : EncodeContext (σ × List Entry))
    (complete : Bool) (later : EncodeContext (σ × List Entry)) : Prop where
  options : later.options = earlier.options
  store : later.store = earlier.store
  framesWritten : later.framesWritten = earlier.framesWritten
  outputs : later.outputs = earlier.outputs
  encoder_eq : later.session.encoder = encoder.recorded
  collected_eq : collected later.session.record = ⟨(collected earlier.session.record).files ++
    if complete then [later.bitstream.bytes] else [], #[]⟩
  bitstream : complete = false → later.bitstream.bytes = #[]

namespace EncodeM

/-- The bytes that an attempt adds are the ones in the record. -/
theorem afterSync_eq (appends : encoder.Appends) (same : context.session.encoder = encoder.recorded)
    (sync : SyncPoint) :
    ∃ entry : Entry, (afterSync sync context).session.encoder = encoder.recorded ∧
      (afterSync sync context).bitstream.bytes = context.bitstream.bytes ++ entry.added ∧
      collected (afterSync sync context).session.record = (collected context.session.record).add
        ⟨.sync sync context.options.sync.waitMs
            (context.session.sync sync context.options.sync.waitMs context.bitstream).1.reply,
          entry.locks, entry.output⟩ := by
  have told := Session.records_sync same sync context.options.sync.waitMs context.bitstream
  obtain ⟨added, grown⟩ :
      ∃ added, (context.session.sync sync context.options.sync.waitMs context.bitstream).2.bytes
        = context.bitstream.bytes ++ added := by
    rw [Session.sync, same]
    exact appends sync _ context.bitstream context.session.state.1
  refine ⟨⟨.sync sync context.options.sync.waitMs
      (context.session.sync sync context.options.sync.waitMs context.bitstream).1.reply, _, _⟩,
    told.encoder_eq.trans same, ?_,
    (congrArg collected told.record_eq).trans (collected_append _ _)⟩
  show (context.session.sync sync context.options.sync.waitMs context.bitstream).2.bytes
    = context.bitstream.bytes
      ++ (context.session.sync sync context.options.sync.waitMs context.bitstream).2.bytes.extract
        context.bitstream.bytes.size _
  rw [grown, Array.size_append, Array.extract_append_right, Array.extract_size]

/-- All attempts at collecting a result together. The induction is on the number of attempts: what
was added in vain waits in the buffer at the next one. -/
theorem attemptSync_ok (appends : encoder.Appends) {sync : SyncPoint} {left attempt : Nat}
    {complete : Bool} (same : context.session.encoder = encoder.recorded)
    (matched : (collected context.session.record).waiting = context.bitstream.bytes)
    (ran : (attemptSync sync left attempt).run context = (.ok complete, last)) :
    Collects encoder context complete last := by
  induction left generalizing context attempt with
  | zero => cases ran
  | succ left ih =>
    obtain ⟨entry, same', grown, collected_eq⟩ := afterSync_eq appends same sync
    obtain ⟨reply, later, first, ran⟩ := run_bind_eq_ok ran
    rw [run_syncOnce] at first
    obtain ⟨answered, rfl⟩ := Prod.mk.inj first
    cases answer : (context.session.sync sync context.options.sync.waitMs
      context.bitstream).1.reply with
    | ok status =>
      rw [answer] at answered collected_eq
      cases answered
      cases status with
      | done =>
        cases ran
        refine ⟨rfl, rfl, rfl, rfl, same', ?_, nofun⟩
        rw [collected_eq, if_pos rfl, grown, ← matched]
        rfl
      | inExecution =>
        obtain ⟨_, later, reported, ran⟩ := run_bind_eq_ok ran
        cases reported
        have waits : (collected (afterSync sync context).session.record).waiting
            = (afterSync sync context).bitstream.bytes := by
          rw [collected_eq, grown, ← matched]
          rfl
        have files : (collected (afterSync sync context).session.record).files
            = (collected context.session.record).files := by
          rw [collected_eq]
          rfl
        have rest : Collects encoder
            ((afterSync sync context).report (.stillExecuting sync attempt)) complete last :=
          ih same' waits ran
        refine ⟨rest.options, rest.store, rest.framesWritten, rest.outputs, rest.encoder_eq, ?_,
          rest.bitstream⟩
        rw [← files]
        exact rest.collected_eq
    | error failure =>
      rw [answer] at answered collected_eq
      cases failure with
      | fault fault => cases answered
      | error error =>
        cases answered
        cases error with
        | notEnoughBuffer needed available =>
          cases ran
          refine ⟨rfl, rfl, rfl, rfl, same', ?_, fun _ => Bitstream.bytes_clear _⟩
          show collected (afterSync sync context).session.record = _
          rw [collected_eq, if_neg Bool.false_ne_true, List.append_nil]
          rfl
        | _ => cases ran

end EncodeM

end Collects

/-! ## The invariant -/

section Numbered

variable {σ : Type} {encoder : Encoder σ} {initial context last : EncodeContext (σ × List Entry)}

/-- The path of the file of a frame. -/
def outputPath (options : EncodeOptions) (frame : Nat) : String :=
  FileStore.join options.outputDir (outputFileName frame)

/-- Whether one of the frames up to `written` has its file at a location. -/
def IsOutput (options : EncodeOptions) (store : FileStore) (written : Nat) (location : Location) :
    Prop :=
  ∃ frame, 1 ≤ frame ∧ frame ≤ written ∧
    store.resolve (outputPath options frame) = .ok location

/-- The files of these results, numbered from 1 on, are in the store. All else in it is as
before. -/
structure Written (options : EncodeOptions) (before : FileStore) (files : List Bytes)
    (store : FileStore) : Prop where
  file : ∀ (k : Nat) (payload : Bytes), files[k]? = some payload →
    ∃ location, before.resolve (outputPath options (k + 1)) = .ok location ∧
      store.find? location = some (.file payload)
  others : FileStore.ChangedAt (IsOutput options before files.length) store before

namespace Written

variable {options : EncodeOptions} {before store next : FileStore} {files : List Bytes}

theorem start (options : EncodeOptions) (store : FileStore) : Written options store [] store :=
  ⟨nofun, .refl _⟩

/-- One more file. Earlier ones lie elsewhere, since their numbers are other ones. -/
theorem add (h : Written options before files store) {payload : Bytes} {location : Location}
    (resolved : store.resolve (outputPath options (files.length + 1)) = .ok location)
    (found : next.find? location = some (.file payload))
    (changed : FileStore.ChangedAt (· = location) next store) :
    Written options before (files ++ [payload]) next := by
  rw [h.others.resolve_iff] at resolved
  constructor
  · intro k other kth
    rcases Nat.lt_or_ge k files.length with earlier | new
    · rw [List.getElem?_append_left earlier] at kth
      obtain ⟨place, resolved', found'⟩ := h.file k other kth
      have differs : place ≠ location := by
        rintro rfl
        have := FileStore.output_inj resolved resolved'
        omega
      exact ⟨place, resolved', (changed.others place differs).trans found'⟩
    · rw [List.getElem?_append_right new, List.getElem?_singleton] at kth
      split at kth
      · cases kth
        have last : k = files.length := by omega
        exact ⟨location, last ▸ resolved, found⟩
      · cases kth
  · rw [List.length_append]
    have earlier : FileStore.ChangedAt (IsOutput options before (files.length + 1)) store before :=
      h.others.mono fun _ ⟨frame, first, le, at_location⟩ =>
        ⟨frame, first, Nat.le_succ_of_le le, at_location⟩
    refine .trans (changed.mono ?_) earlier
    rintro _ rfl
    exact ⟨files.length + 1, Nat.succ_pos _, Nat.le_refl _, resolved⟩

end Written

/-- What holds between two rounds. -/
structure Numbered (encoder : Encoder σ) (initial context : EncodeContext (σ × List Entry)) :
    Prop where
  options : context.options = initial.options
  encoder_eq : context.session.encoder = encoder.recorded
  bitstream : context.bitstream.bytes = #[]
  waiting : (collected context.session.record).waiting = #[]
  framesWritten : context.framesWritten = (collected context.session.record).files.length
  outputs : context.outputs = (List.range context.framesWritten).map fun k =>
    outputPath initial.options (k + 1)
  written : Written initial.options initial.store (collected context.session.record).files
    context.store

/-- Before a frame was collected, nothing is expected of files. -/
theorem numbered_start (state : σ) (source : Source) (options : EncodeOptions) (store : FileStore)
    (log : Array Event) :
    Numbered encoder
      (EncodeContext.start (.ofEncoder encoder.recorded (state, [])) source options store log)
      (EncodeContext.start (.ofEncoder encoder.recorded (state, [])) source options store log) :=
  ⟨rfl, rfl, rfl, rfl, rfl, rfl, .start _ _⟩

namespace Numbered

theorem quiet (books : Numbered encoder initial context) (h : Quiet encoder context last) :
    Numbered encoder initial last := by
  obtain ⟨same, collected_eq⟩ := h.session books.encoder_eq
  constructor
  · rw [h.options, books.options]
  · exact same
  · rw [h.bitstream, books.bitstream]
  · rw [collected_eq, books.waiting]
  · rw [h.framesWritten, collected_eq, books.framesWritten]
  · rw [h.framesWritten, h.outputs, books.outputs]
  · rw [h.store, collected_eq]
    exact books.written

/-- A result that was dropped leaves no trace in files. -/
theorem dropped (books : Numbered encoder initial context)
    (h : Collects encoder context false last) : Numbered encoder initial last := by
  have collected_eq : collected last.session.record
      = ⟨(collected context.session.record).files, #[]⟩ := by
    rw [h.collected_eq, if_neg Bool.false_ne_true, List.append_nil]
  constructor
  · rw [h.options, books.options]
  · exact h.encoder_eq
  · exact h.bitstream rfl
  · rw [collected_eq]
  · rw [h.framesWritten, collected_eq, books.framesWritten]
  · rw [h.framesWritten, h.outputs, books.outputs]
  · rw [h.store, collected_eq]
    exact books.written

end Numbered

namespace EncodeM

theorem received_outputSink (store : FileStore) : (outputSink store).received = #[] := by
  rw [outputSink]
  split <;> rfl

theorem nextFrame_eq_ok {frames frame : Nat} :
    nextFrame frames = .ok frame ↔ frames + 1 < 0x100000000 ∧ frame = frames + 1 := by
  by_cases h : frames + 1 < 0x100000000 <;> simp [nextFrame, h, eq_comm]

/-- The ways in which writing a result ends. -/
theorem writeOutput_cases {σ : Type} (context : EncodeContext σ) :
    (∃ fault, nextFrame context.framesWritten = .error fault ∧
      writeOutput.run context = (.error (.fault fault), context)) ∨
    (∃ error, context.store.create (outputPath context.options (context.framesWritten + 1))
        = .error error ∧
      writeOutput.run context = (.error (.error (.outputNotCreated
        (outputPath context.options (context.framesWritten + 1)) error)), context)) ∨
    ∃ location store sink bitstream,
      context.store.create (outputPath context.options (context.framesWritten + 1))
        = .ok (location, store) ∧
      ((∃ error, context.bitstream.writeTo (outputSink store) = (.error error, sink, bitstream) ∧
          writeOutput.run context = (.error (.error (.outputNotWritten
              (outputPath context.options (context.framesWritten + 1)) error)),
            { context with store := store.fill location sink.received, bitstream })) ∨
        ∃ bytes, context.bitstream.writeTo (outputSink store) = (.ok bytes, sink, bitstream) ∧
          writeOutput.run context = (.ok (), EncodeContext.report
            { context with
              store := store.fill location sink.received
              bitstream
              framesWritten := context.framesWritten + 1
              outputs :=
                context.outputs ++ [outputPath context.options (context.framesWritten + 1)] }
            (.frameWritten (outputPath context.options (context.framesWritten + 1)) bytes
              (context.framesWritten + 1)))) := by
  rw [writeOutput, run_bind_ok (run_get context)]
  cases next : nextFrame context.framesWritten with
  | error fault => exact .inl ⟨fault, rfl, by rw [run_bind, run_ofFault]; rfl⟩
  | ok frame =>
    obtain ⟨_, rfl⟩ := nextFrame_eq_ok.1 next
    rw [run_bind_ok (run_ofFault _ _)]
    dsimp only
    rw [← outputPath]
    cases created : context.store.create
        (outputPath context.options (context.framesWritten + 1)) with
    | error error => exact .inr (.inl ⟨error, rfl, rfl⟩)
    | ok file =>
      obtain ⟨location, store⟩ := file
      refine .inr (.inr ⟨location, store, (context.bitstream.writeTo (outputSink store)).2.1,
        (context.bitstream.writeTo (outputSink store)).2.2, rfl, ?_⟩)
      cases written : (context.bitstream.writeTo (outputSink store)).1 with
      | error error =>
        refine .inl ⟨error, Prod.ext written rfl, ?_⟩
        dsimp only
        rw [written]
        rfl
      | ok bytes =>
        refine .inr ⟨bytes, Prod.ext written rfl, ?_⟩
        dsimp only
        rw [written]
        rfl

/-- What a file that was written changes. -/
theorem writeOutput_ok {σ : Type} {context last : EncodeContext σ}
    (ran : writeOutput.run context = (.ok (), last)) :
    ∃ location, context.store.resolve (outputPath context.options (context.framesWritten + 1))
        = .ok location ∧
      last.store.find? location = some (.file context.bitstream.bytes) ∧
      FileStore.ChangedAt (· = location) last.store context.store ∧
      last.options = context.options ∧ last.session = context.session ∧
      last.bitstream.bytes = #[] ∧ last.framesWritten = context.framesWritten + 1 ∧
      last.outputs
        = context.outputs ++ [outputPath context.options (context.framesWritten + 1)] := by
  obtain ⟨_, _, failed⟩ | ⟨_, _, failed⟩ | ⟨location, store, sink, bitstream, created, outcome⟩ :=
    writeOutput_cases context
  · rw [failed] at ran
    cases ran
  · rw [failed] at ran
    cases ran
  obtain ⟨error, _, failed⟩ | ⟨bytes, wrote, succeeded⟩ := outcome
  · rw [failed] at ran
    cases ran
  rw [succeeded] at ran
  cases ran
  obtain ⟨received, rfl⟩ := Bitstream.writeTo_ok wrote
  rw [received_outputSink, Array.empty_append] at received
  obtain ⟨resolved, found, changed⟩ := FileStore.create_ok created context.bitstream.bytes
  rw [← received] at found changed
  exact ⟨location, resolved, received ▸ found, changed, rfl, rfl, Bitstream.bytes_clear _, rfl, rfl⟩

end EncodeM

namespace Numbered

/-- Writing the result that waits gives it the next number. -/
theorem written_next {middle : EncodeContext (σ × List Entry)}
    (books : Numbered encoder initial context) (h : Collects encoder context true middle)
    (ran : EncodeM.writeOutput.run middle = (.ok (), last)) : Numbered encoder initial last := by
  obtain ⟨location, resolved, found, changed, options, session, emptied, count, outputs⟩ :=
    EncodeM.writeOutput_ok ran
  rw [h.options, h.store, h.framesWritten, books.options, books.framesWritten] at resolved
  rw [h.store] at changed
  have collected_eq : collected last.session.record
      = ⟨(collected context.session.record).files ++ [middle.bitstream.bytes], #[]⟩ := by
    rw [session, h.collected_eq, if_pos rfl]
  have count_eq : last.framesWritten = context.framesWritten + 1 := by
    rw [count, h.framesWritten]
  constructor
  · rw [options, h.options, books.options]
  · rw [session, h.encoder_eq]
  · exact emptied
  · rw [collected_eq]
  · rw [count_eq, collected_eq, books.framesWritten, List.length_append]
    rfl
  · rw [outputs, h.outputs, h.options, h.framesWritten, books.outputs, books.options, count_eq,
      List.range_succ, List.map_append]
    rfl
  · rw [collected_eq]
    exact books.written.add resolved found changed

end Numbered

namespace EncodeM

theorem setUp_numbered (books : Numbered encoder initial context)
    (ran : setUp.run context = (.ok (), last)) : Numbered encoder initial last := by
  obtain ⟨_, _, got, ran⟩ := run_bind_eq_ok ran
  cases got
  obtain ⟨_, reported, h, ran⟩ := run_bind_eq_ok ran
  have books := books.quiet ((keeps_report _).of_run h)
  obtain ⟨_, opened, h, ran⟩ := run_bind_eq_ok ran
  have books := books.quiet (keeps_openAccelerator.of_run h)
  obtain ⟨_, agreed, h, ran⟩ := run_bind_eq_ok ran
  have books := books.quiet (keeps_negotiate.of_run h)
  obtain ⟨request, pooled, h, ran⟩ := run_bind_eq_ok ran
  have books := books.quiet (keeps_allocatePool.of_run h)
  obtain ⟨_, _, got, ran⟩ := run_bind_eq_ok ran
  cases got
  obtain ⟨bitstream, _, allocated, ran⟩ := run_bind_eq_ok ran
  rw [run_ofFault] at allocated
  obtain ⟨allocated, rfl⟩ := Prod.mk.inj allocated
  cases sized : Size.buffer pooled.options.bitstreamCapacity with
  | error fault =>
    rw [Bitstream.allocate, sized] at allocated
    cases allocated
  | ok capacity =>
    rw [Bitstream.allocate, sized] at allocated
    cases allocated
    cases ran
    exact ⟨books.options, books.encoder_eq, rfl, books.waiting, books.framesWritten,
      books.outputs, books.written⟩

theorem complete_numbered (appends : encoder.Appends) {sync : SyncPoint} {progress : Progress}
    (books : Numbered encoder initial context)
    (ran : (complete sync).run context = (.ok progress, last)) :
    Numbered encoder initial last := by
  obtain ⟨found, middle, synced, ran⟩ := run_bind_eq_ok ran
  have matched := books.waiting.trans books.bitstream.symm
  have collects := attemptSync_ok appends books.encoder_eq matched synced
  cases found with
  | false =>
    cases ran
    exact books.dropped collects
  | true =>
    obtain ⟨_, later, wrote, ran⟩ := run_bind_eq_ok ran
    have books := books.written_next collects wrote
    obtain ⟨_, changed, h, ran⟩ := run_bind_eq_ok ran
    have books := books.quiet (keeps_applyDueChange.of_run h)
    obtain ⟨_, _, got, ran⟩ := run_bind_eq_ok ran
    cases got
    cases ran
    exact books

theorem settle_numbered (appends : encoder.Appends) {draining : Bool}
    {reply : Except EncoderError SubmitStatus} {progress : Progress}
    (books : Numbered encoder initial context)
    (ran : (settle draining reply).run context = (.ok progress, last)) :
    Numbered encoder initial last := by
  unfold settle at ran
  split at ran
  · exact complete_numbered appends books ran
  · cases ran
    exact books
  · split at ran <;> cases ran <;> exact books
  all_goals
    cases ran
    exact books.quiet (keeps_report _ context)

/-- A round takes one such state to another. -/
theorem round_numbered (appends : encoder.Appends) {state : LoopState} {result : RoundEnd}
    (books : Numbered encoder initial context)
    (ran : (round state).run context = (.ok result, last)) : Numbered encoder initial last := by
  obtain ⟨⟨reply, draining⟩, submitted, h, ran⟩ := run_bind_eq_ok ran
  have books := books.quiet ((keeps_nextSubmission _).of_run h)
  obtain ⟨progress, settled, h, ran⟩ := run_bind_eq_ok ran
  have books := settle_numbered appends books h
  exact books.quiet ((Keeps.endRound Quiet.onward keeps_report state draining progress).of_run ran)

theorem Between.numbered (appends : encoder.Appends) {state : LoopState}
    (start : Numbered encoder initial initial) (reached : Between initial state context) :
    Numbered encoder initial context := by
  induction reached with
  | start h => exact setUp_numbered start h
  | next _ h ih => exact round_numbered appends ih h
  | again _ h ih => exact round_numbered appends ih h

end EncodeM

end Numbered

theorem ScriptedEncoder.appends : ScriptedEncoder.encoder.Appends := by
  intro sync waitMs bitstream script
  show ∃ added, (script.answerSync bitstream).2.bytes = _
  unfold answerSync
  dsimp only
  split
  · exact ⟨#[], Array.append_empty.symm⟩
  · exact ⟨#[], Array.append_empty.symm⟩
  · split
    · rename_i appended
      exact ⟨_, (Bitstream.append_eq_ok appended).1⟩
    · exact ⟨#[], Array.append_empty.symm⟩

/-- Between two rounds there are as many files as results were complete. They are numbered from 1
on without a gap, and each holds the bytes added for its result. Nothing else was written, and
nothing waits to be written. -/
theorem outputs_are_numbered {σ : Type} {encoder : Encoder σ} (appends : encoder.Appends)
    {state : σ} {source : Source} {options : EncodeOptions} {store : FileStore} {log : Array Event}
    {loop : LoopState} {context : EncodeContext (σ × List Entry)}
    (reached : EncodeM.Between
      (.start (.ofEncoder encoder.recorded (state, [])) source options store log) loop context) :
    context.framesWritten = context.outputs.length ∧
    context.framesWritten = context.session.record.countP Entry.isDone ∧
    context.bitstream.bytes = #[] ∧
    (∀ k, 1 ≤ k → k ≤ context.framesWritten →
      context.outputs[k - 1]? = some (FileStore.join options.outputDir (outputFileName k)) ∧
      ∃ payload location, (collected context.session.record).files[k - 1]? = some payload ∧
        store.resolve (FileStore.join options.outputDir (outputFileName k)) = .ok location ∧
        context.store.find? location = some (.file payload)) ∧
    ∀ location, ¬ IsOutput options store context.framesWritten location →
      context.store.find? location = store.find? location := by
  have books := reached.numbered appends (numbered_start state source options store log)
  refine ⟨?_, ?_, books.bitstream, ?_, books.framesWritten ▸ books.written.others.others⟩
  · rw [books.outputs, List.length_map, List.length_range]
  · rw [books.framesWritten, length_collected]
  · intro k first le
    have within : k - 1 < (collected context.session.record).files.length := by
      rw [← books.framesWritten]
      omega
    obtain ⟨location, resolved, found⟩ :=
      books.written.file (k - 1) _ (List.getElem?_eq_getElem within)
    rw [Nat.sub_add_cancel first] at resolved
    refine ⟨?_, _, location, List.getElem?_eq_getElem within, resolved, found⟩
    rw [books.outputs, List.getElem?_map, List.getElem?_range (by omega), Option.map_some,
      Nat.sub_add_cancel first]
    rfl

/-- A run on three frames whose second result is refused for its size, and whose third one is there
only at the second attempt. -/
def threeFrames : EncodeContext (ScriptedEncoder × List Entry) :=
  .start (.ofEncoder ScriptedEncoder.encoder.recorded ({ ScriptedEncoder.usual with
      query := [some (.ok fun params =>
        { params with frameInfo := ⟨⟨25, 1⟩, 0, 0, 1, 1, 2, 2⟩ })]
      sync := [some (.ok (.done #[1, 2])), some (.error (.notEnoughBuffer 9 4)),
        some (.ok .inExecution), some (.ok (.done #[3]))] }, []))
    (.ofBytes (Array.replicate 9 7)) (.ofInput "" 1 1) .empty #[]

/-- The third frame goes to the second file. -/
theorem outputs_are_numbered_past_dropped :
    ∃ context, EncodeM.Between threeFrames .start context ∧
      context.framesWritten = context.outputs.length ∧
      context.outputs[1]? = some (FileStore.join "." (outputFileName 2)) ∧
      ∃ location, context.store.find? location = some (.file #[3]) := by
  -- Each state is named by the steps that lead to it, since only those can be evaluated.
  let first := (EncodeM.setUp.run threeFrames).2
  let second := ((EncodeM.round .start).run first).2
  let third := ((EncodeM.round .start).run second).2
  let last := ((EncodeM.round .start).run third).2
  have up : (EncodeM.setUp.run threeFrames).1 = .ok () := by decide +kernel
  have written : ((EncodeM.round .start).run first).1 = .ok (.next .start) := by decide +kernel
  have dropped : ((EncodeM.round .start).run second).1 = .ok (.next .start) := by decide +kernel
  have written' : ((EncodeM.round .start).run third).1 = .ok (.next .start) := by decide +kernel
  have reached : EncodeM.Between threeFrames .start first := .start (Prod.ext up rfl)
  have reached : EncodeM.Between threeFrames .start second := reached.next (Prod.ext written rfl)
  have reached : EncodeM.Between threeFrames .start third := reached.next (Prod.ext dropped rfl)
  have reached : EncodeM.Between threeFrames .start last := reached.next (Prod.ext written' rfl)
  obtain ⟨count, -, -, numbered, -⟩ := outputs_are_numbered ScriptedEncoder.appends reached
  obtain ⟨path, payload, location, nth, -, found⟩ := numbered 2 (by decide) (by decide +kernel)
  have told : (collected last.session.record).files[1]? = some #[3] := by decide +kernel
  obtain rfl := Option.some.inj (nth.symm.trans told)
  exact ⟨last, reached, count, path, location, found⟩

end Nv12Jpeg
