import Nv12Jpeg.Proofs.Encode.Rounds
import Nv12Jpeg.Proofs.Encoder.ReplySequences

/-!
# Runs side by side

Two encoders answer from sequences, one of them some places further on than the other. Then steps
come to the same in two runs, but for what is read from the source and reported.

* `Bitstream.Alike` — output buffers that no use tells apart;
* `Twins.Alongside` — a state of one run beside one of the other;
* `Twins.Mirrored` — steps that come to the same from states side by side, and lead to such states;
* `Twins.mirrored_setUp`, `Twins.mirrored_settle` and `Twins.mirrored_finish` are the steps of a run
  around its submissions.
-/

namespace Nv12Jpeg

variable {α β τ : Type}

/-! ## Output buffers -/

namespace Bitstream

/-- An append does not move the start. -/
theorem offset_of_append_eq_ok {bitstream next : Bitstream} {payload : Bytes}
    (appended : bitstream.append payload = .ok next) : next.offset = bitstream.offset := by
  unfold append at appended
  split at appended
  · cases appended
    rfl
  · cases appended

/-- Buffers that differ in bytes that do not wait, and are used alike. -/
structure Alike (bitstream other : Bitstream) : Prop where
  capacity : other.capacity = bitstream.capacity
  offset : other.offset = bitstream.offset
  bytes : other.bytes = bitstream.bytes

namespace Alike

variable {bitstream other : Bitstream}

theorem size (alike : bitstream.Alike other) : other.size = bitstream.size := by
  rw [← size_bytes, alike.bytes, size_bytes]

theorem available (alike : bitstream.Alike other) : other.available = bitstream.available := by
  rw [Bitstream.available, stop, alike.capacity, alike.offset, alike.size]
  rfl

theorem cleared (capacity : other.capacity = bitstream.capacity) :
    bitstream.clear.Alike other.clear :=
  ⟨capacity, rfl, by rw [bytes_clear, bytes_clear]⟩

/-- A buffer in which nothing waits is like one that was cleared. -/
theorem idle (empty : bitstream.size = 0) (capacity : other.capacity = bitstream.capacity) :
    bitstream.Alike other.clear where
  capacity := capacity
  offset := (bitstream.idle empty).symm
  bytes := by
    rw [bytes_clear]
    exact (Array.eq_empty_of_size_eq_zero (bitstream.size_bytes.trans empty)).symm

theorem offered (alike : bitstream.Alike other) (payload : Bytes) :
    (bitstream.offered payload).Alike (other.offered payload) := by
  obtain ⟨fits, next, appended, bytes, capacity⟩ | ⟨large, refused⟩ :=
    bitstream.append_cases payload
  · obtain ⟨_, next', appended', bytes', capacity'⟩ | ⟨large', _⟩ := other.append_cases payload
    · rw [Bitstream.offered, Bitstream.offered, appended, appended']
      refine ⟨?_, ?_, ?_⟩
      · rw [capacity', capacity, alike.capacity]
      · rw [offset_of_append_eq_ok appended', offset_of_append_eq_ok appended, alike.offset]
      · rw [bytes', bytes, alike.bytes]
    · rw [alike.available] at large'
      omega
  · obtain ⟨fits', _⟩ | ⟨_, refused'⟩ := other.append_cases payload
    · rw [alike.available] at fits'
      omega
    · rw [Bitstream.offered, Bitstream.offered, refused, refused']
      exact alike

theorem writeTo (alike : bitstream.Alike other) (sink : Sink) :
    ∃ next, other.writeTo sink
        = ((bitstream.writeTo sink).1, (bitstream.writeTo sink).2.1, next) ∧
      (bitstream.writeTo sink).2.2.Alike next := by
  rw [Bitstream.writeTo, Bitstream.writeTo, alike.bytes, alike.size]
  rcases sink.writeAll bitstream.bytes with ⟨_ | _, _⟩
  · exact ⟨other, rfl, alike⟩
  · exact ⟨other.clear, rfl, .cleared alike.capacity⟩

end Alike

theorem capacity_offered (bitstream : Bitstream) (payload : Bytes) :
    (bitstream.offered payload).capacity = bitstream.capacity := by
  unfold offered
  split
  · exact (append_eq_ok ‹_›).2
  · rfl

end Bitstream

/-! ## States side by side -/

/-- How many calls were answered from sequences. -/
def EncodeContext.counts (context : EncodeContext (τ × CallCounts)) : CallCounts :=
  context.session.state.2

/-- The same state with other counts. -/
def EncodeContext.counted (context : EncodeContext (τ × CallCounts)) (counts : CallCounts) :
    EncodeContext (τ × CallCounts) :=
  { context with
    session := { context.session with state := (context.session.state.1, counts) } }

namespace EncodeM

theorem heard_ofError (reply : Except EncoderError α) :
    heard (.ofError reply) = .ok reply := by
  cases reply <;> rfl

variable {replies : ReplySequences} {others : Encoder τ} {context : EncodeContext (τ × CallCounts)}

theorem book_quiet (context : EncodeContext (τ × CallCounts)) (reply : Attempt EncoderError α)
    (counts : CallCounts) :
    context.book (.quiet reply
      { context.session with state := (context.session.state.1, counts) })
        = context.counted counts := by
  rw [book_unlocked rfl]
  simp [Answer.quiet, EncodeContext.counted]

/-- A submission is answered and counted, and changes nothing else. -/
theorem run_submit (same : context.session.encoder = replies.encoder others)
    (submission : Option Submission) :
    (call (Session.submit submission)).run context =
      (.ok (replies.reply context.counts submission.isNone),
        context.counted (context.counts.submitted submission.isNone)) := by
  rw [run_call, ReplySequences.submit_eq same, book_quiet]
  exact Prod.ext (heard_ofError _) rfl

/-- An attempt at collecting a result is answered and counted, and may put bytes into the output
buffer. -/
theorem run_syncOnce_of_sequences (same : context.session.encoder = replies.encoder others)
    (sync : SyncPoint) :
    (syncOnce sync).run context =
      (.ok (replies.waits context.counts.waits context.bitstream.available).2,
        EncodeContext.counted { context with
            bitstream := context.bitstream.offered
              (replies.waits context.counts.waits context.bitstream.available).1 }
          context.counts.waited) := by
  rw [run_syncOnce, afterSync, ReplySequences.sync_eq same]
  refine Prod.ext (heard_ofError _) ?_
  exact book_quiet { context with bitstream := context.bitstream.offered _ } (.ofError _) _

end EncodeM

/-- The encoder stays the same and only counts on, if the picture size is to stay. -/
def Counting (encoder : Encoder (τ × CallCounts)) (earlier later : EncodeContext (τ × CallCounts)) :
    Prop :=
  earlier.session.encoder = encoder → earlier.options.resolutionChange = none →
    later.session.encoder = encoder ∧ later.options.resolutionChange = none ∧
      earlier.counts ≤ later.counts

namespace Counting

variable {encoder : Encoder (τ × CallCounts)} {earlier later : EncodeContext (τ × CallCounts)}

theorem of_session (session : later.session = earlier.session)
    (options : later.options = earlier.options) : Counting encoder earlier later := by
  intro same fixed
  rw [EncodeContext.counts, EncodeContext.counts, session, options]
  exact ⟨same, fixed, CallCounts.le_refl _⟩

theorem onward : EncodeM.Onward (Counting encoder) where
  refl := fun _ => .of_session rfl rfl
  trans := by
    intro first second third h h' same fixed
    obtain ⟨same, fixed, le⟩ := h same fixed
    obtain ⟨same, fixed, le'⟩ := h' same fixed
    exact ⟨same, fixed, CallCounts.le_trans le le'⟩

end Counting

/-- Two encoders that answer from sequences: the replies of one are, up to some counts, those of
the other, which is `ahead` of it. -/
structure Twins (τ : Type) where
  others : Encoder τ
  replies : ReplySequences
  later : ReplySequences
  ahead : CallCounts
  bound : CallCounts

namespace Twins

variable {twins : Twins τ}

/-- The session of the other run. -/
def session (twins : Twins τ) (session : Session (τ × CallCounts)) : Session (τ × CallCounts) where
  encoder := twins.later.encoder twins.others
  state := (session.state.1, session.state.2 + twins.ahead)
  closed := session.closed

/-- A state of the other run, with what may differ between them. -/
def beside (twins : Twins τ) (context : EncodeContext (τ × CallCounts)) (source : Source)
    (buffer : Bytes) (bitstream : Bitstream) (log : Array Event) :
    EncodeContext (τ × CallCounts) :=
  { context with
    session := twins.session context.session
    source
    pool := { context.pool with buffer }
    bitstream
    log }

theorem counts_beside (context : EncodeContext (τ × CallCounts)) (source : Source)
    (buffer : Bytes) (bitstream : Bitstream) (log : Array Event) :
    (twins.beside context source buffer bitstream log).counts = context.counts + twins.ahead := rfl

/-- Two runs stand side by side. -/
structure Alongside (twins : Twins τ) (context other : EncodeContext (τ × CallCounts)) :
    Prop where
  encoder_eq : context.session.encoder = twins.replies.encoder twins.others
  /-- The picture size is to stay. -/
  fixed : context.options.resolutionChange = none
  resumes : twins.replies.Resumes twins.later twins.ahead context.counts twins.bound
  beside : ∃ source buffer bitstream log, other = twins.beside context source buffer bitstream log ∧
    context.bitstream.Alike bitstream

/-- Steps that come to the same in both runs, as far as the replies are known to be the same. -/
structure Mirrored (twins : Twins τ) (steps : EncodeM (τ × CallCounts) α) : Prop where
  counting : EncodeM.Keeps (Counting (twins.replies.encoder twins.others)) steps
  run : ∀ {context other last : EncodeContext (τ × CallCounts)}
    {outcome : Except (Failure EncodeError) α}, twins.Alongside context other →
    steps.run context = (outcome, last) → last.counts ≤ twins.bound →
    ∃ last', steps.run other = (outcome, last') ∧ twins.Alongside last last'

namespace Mirrored

open EncodeM

theorem pure (value : α) : twins.Mirrored (Pure.pure value : EncodeM (τ × CallCounts) α) where
  counting := .pure Counting.onward value
  run := by
    intro context other last outcome alongside ran _
    cases ran
    exact ⟨other, rfl, alongside⟩

theorem throw (failure : Failure EncodeError) :
    twins.Mirrored (MonadExcept.throw failure : EncodeM (τ × CallCounts) α) where
  counting := .throw Counting.onward failure
  run := by
    intro context other last outcome alongside ran _
    cases ran
    exact ⟨other, rfl, alongside⟩

theorem bind {first : EncodeM (τ × CallCounts) α} {next : α → EncodeM (τ × CallCounts) β}
    (h : twins.Mirrored first) (h' : ∀ value, twins.Mirrored (next value)) :
    twins.Mirrored (first >>= next) where
  counting := .bind Counting.onward h.counting fun value => (h' value).counting
  run := by
    intro context other last outcome alongside ran within
    obtain ⟨value, middle, ran, rest⟩ | ⟨failure, failed, rfl⟩ := run_bind_cases ran
    · obtain ⟨same, fixed, _⟩ := h.counting.of_run ran alongside.encoder_eq alongside.fixed
      obtain ⟨_, _, counts⟩ := (h' value).counting.of_run rest same fixed
      obtain ⟨middle', ran', alongside⟩ := h.run alongside ran (CallCounts.le_trans counts within)
      rw [run_bind_ok ran']
      exact (h' value).run alongside rest within
    · obtain ⟨last', failed', alongside⟩ := h.run alongside failed within
      exact ⟨last', run_bind_error failed', alongside⟩

/-- Steps that depend on what both runs have in common. -/
theorem get_bind {next : EncodeContext (τ × CallCounts) → EncodeM (τ × CallCounts) α}
    (same : ∀ {context other}, twins.Alongside context other → next other = next context)
    (h : ∀ context, twins.Mirrored (next context)) :
    twins.Mirrored (MonadState.get >>= next) where
  counting := .get_bind fun context => (h context).counting context
  run := by
    intro context other last outcome alongside ran within
    rw [run_bind_ok (run_get context)] at ran
    rw [run_bind_ok (run_get other), same alongside]
    exact (h context).run alongside ran within

/-- A change of what both runs have in common, or of what may differ. -/
theorem modifies {change : EncodeContext (τ × CallCounts) → EncodeContext (τ × CallCounts)}
    (session : ∀ context, (change context).session = context.session)
    (options : ∀ context, (change context).options = context.options)
    (same : ∀ context source buffer bitstream log, context.bitstream.Alike bitstream →
      ∃ source' buffer' bitstream' log',
        change (twins.beside context source buffer bitstream log)
          = twins.beside (change context) source' buffer' bitstream' log' ∧
        (change context).bitstream.Alike bitstream') :
    twins.Mirrored (modify change : EncodeM (τ × CallCounts) PUnit) where
  counting := fun context => .of_session (session context) (options context)
  run := by
    rintro context _ last outcome ⟨encoder_eq, fixed, resumes, _, _, _, _, rfl, alike⟩ ran _
    cases ran
    refine ⟨_, rfl, (session context).symm ▸ encoder_eq, (options context).symm ▸ fixed, ?_,
      same _ _ _ _ _ alike⟩
    rw [EncodeContext.counts, session]
    exact resumes

theorem report (event : Event) :
    twins.Mirrored (EncodeM.report event : EncodeM (τ × CallCounts) Unit) :=
  modifies (fun _ => rfl) (fun _ => rfl) fun _ _ _ _ _ alike => ⟨_, _, _, _, rfl, alike⟩

theorem ofFault (result : Except Fault α) :
    twins.Mirrored (EncodeM.ofFault result : EncodeM (τ × CallCounts) α) := by
  cases result
  · exact throw _
  · exact pure _

end Mirrored

namespace Mirrored

open EncodeM

theorem call {make : Session (τ × CallCounts) → Answer (Session (τ × CallCounts)) α}
    (common : ReplySequences.Common twins.others make) : twins.Mirrored (EncodeM.call make) := by
  obtain ⟨answer, made⟩ := common
  -- what is answered in either run
  have answered : ∀ (replies : ReplySequences) (session : Session (τ × CallCounts)),
      session.encoder = replies.encoder twins.others → make session =
        replies.leaving twins.others session.state.2 (answer session.state.1 session.closed) := by
    rintro replies ⟨_, state, closed⟩ rfl
    exact made replies state closed
  constructor
  · intro context same fixed
    rw [run_call, answered _ _ same]
    exact ⟨rfl, fixed, CallCounts.le_refl _⟩
  · rintro context _ last outcome ⟨encoder_eq, fixed, resumes, _, _, _, _, rfl, alike⟩ ran _
    rw [run_call, answered _ _ encoder_eq] at ran
    cases ran
    rw [run_call, answered twins.later _ rfl]
    exact ⟨_, rfl, rfl, fixed, resumes, _, _, _, _, rfl, alike⟩

theorem demand {step : EncoderStep}
    {make : Session (τ × CallCounts) → Answer (Session (τ × CallCounts)) α}
    (common : ReplySequences.Common twins.others make) :
    twins.Mirrored (EncodeM.demand step make) := by
  refine .bind (.call common) fun reply => ?_
  cases reply
  · exact throw _
  · exact pure _

end Mirrored

/-! ## The steps of a run -/

namespace Alongside

variable {context other : EncodeContext (τ × CallCounts)}

theorem implementation (alongside : twins.Alongside context other) :
    other.session.implementation = context.session.implementation := by
  obtain ⟨encoder_eq, _, _, _, _, _, _, rfl, _⟩ := alongside
  rw [Session.implementation, Session.implementation, encoder_eq]
  rfl

theorem options (alongside : twins.Alongside context other) : other.options = context.options := by
  obtain ⟨_, _, _, _, rfl, _⟩ := alongside.beside
  rfl

theorem counts (alongside : twins.Alongside context other) :
    other.counts = context.counts + twins.ahead := by
  obtain ⟨_, _, _, _, rfl, _⟩ := alongside.beside
  rfl

end Alongside

open EncodeM

theorem mirrored_openAccelerator : twins.Mirrored EncodeM.openAccelerator := by
  refine .get_bind (fun alongside => ?_) fun context => ?_
  · have implementation := alongside.implementation
    obtain ⟨_, _, _, _, rfl, _⟩ := alongside.beside
    rw [implementation]
    rfl
  split
  · exact .throw _
  · exact .pure _
  · refine .bind (.demand (ReplySequences.common_attach _)) fun _ => ?_
    exact .modifies (fun _ => rfl) (fun _ => rfl)
      fun _ _ _ _ _ alike => ⟨_, _, _, _, rfl, alike⟩

theorem mirrored_negotiate : twins.Mirrored EncodeM.negotiate := by
  refine .get_bind (fun alongside => ?_) fun context => ?_
  · obtain ⟨_, _, _, _, rfl, _⟩ := alongside.beside
    rfl
  refine .bind (.demand (ReplySequences.common_query _)) fun (outcome, params) => ?_
  have rest : twins.Mirrored (EncodeM.demand .init (Session.init params) >>= fun _ =>
      EncodeM.report .initializationTimed) :=
    .bind (.demand (ReplySequences.common_init _)) fun _ => .report _
  refine .bind (.modifies (fun _ => rfl) (fun _ => rfl)
    fun _ _ _ _ _ alike => ⟨_, _, _, _, rfl, alike⟩) fun _ => ?_
  dsimp only
  split
  · exact .bind (.report _) fun _ => rest
  · exact rest

theorem mirrored_allocatePool : twins.Mirrored EncodeM.allocatePool := by
  refine .get_bind (fun alongside => ?_) fun context => ?_
  · obtain ⟨_, _, _, _, rfl, _⟩ := alongside.beside
    rfl
  refine .bind (.demand (ReplySequences.common_surfaceRequest _)) fun request => ?_
  exact .bind (.modifies (fun _ => rfl) (fun _ => rfl)
    fun _ _ _ _ _ alike => ⟨_, _, _, _, rfl, alike⟩) fun _ => .pure _

theorem mirrored_setUp : twins.Mirrored EncodeM.setUp := by
  refine .get_bind (fun alongside => ?_) fun context => ?_
  · rw [alongside.implementation]
  refine .bind (.report _) fun _ => .bind mirrored_openAccelerator fun _ => ?_
  refine .bind mirrored_negotiate fun _ => .bind mirrored_allocatePool fun request => ?_
  refine .get_bind (fun alongside => ?_) fun context => ?_
  · rw [alongside.options]
  refine .bind (.ofFault _) fun bitstream => .bind (.modifies (fun _ => rfl) (fun _ => rfl)
    fun _ _ _ _ _ _ => ⟨_, _, _, _, rfl, rfl, rfl, rfl⟩) fun _ => ?_
  refine .get_bind (fun alongside => ?_) fun context => .report _
  obtain ⟨_, _, _, _, _, _, _, rfl, alike⟩ := alongside
  show EncodeM.report (.buffersAllocated _ _ _) = _
  rw [show (twins.beside _ _ _ _ _).bitstream.capacity = _ from alike.capacity]
  rfl

theorem mirrored_finish (reason : StopReason) : twins.Mirrored (EncodeM.finish reason) := by
  refine .get_bind (fun alongside => ?_) fun context => ?_
  · obtain ⟨_, _, _, _, rfl, _⟩ := alongside.beside
    rfl
  refine .bind (.report _) fun _ => .bind (.demand ReplySequences.common_close) fun _ => ?_
  refine .get_bind (fun alongside => ?_) fun context => ?_
  · obtain ⟨_, _, _, _, rfl, _⟩ := alongside.beside
    rfl
  split
  · exact .bind (.report _) fun _ => .pure _
  · exact .pure _

/-- Surfaces with whatever they show are answered alike, and flushes. -/
theorem Alongside.submit {context other last : EncodeContext (τ × CallCounts)}
    {submission submission' : Option Submission}
    {outcome : Except (Failure EncodeError) (Except EncoderError SubmitStatus)}
    (alongside : twins.Alongside context other) (same : submission'.isNone = submission.isNone)
    (ran : (EncodeM.call (Session.submit submission)).run context = (outcome, last))
    (within : last.counts ≤ twins.bound) :
    ∃ last', (EncodeM.call (Session.submit submission')).run other = (outcome, last') ∧
      twins.Alongside last last' := by
  obtain ⟨encoder_eq, fixed, resumes, source, buffer, bitstream, log, rfl, alike⟩ := alongside
  rw [run_submit encoder_eq] at ran
  cases ran
  have same_encoder : (twins.beside context source buffer bitstream log).session.encoder
      = twins.later.encoder twins.others := rfl
  have submitted := run_submit same_encoder submission'
  rw [same, counts_beside, resumes.reply_add within, CallCounts.submitted_add] at submitted
  exact ⟨_, submitted, encoder_eq, fixed, resumes.from_next (CallCounts.le_submitted _ _), source,
    buffer, bitstream, log, rfl, alike⟩

theorem mirrored_syncOnce (sync : SyncPoint) : twins.Mirrored (EncodeM.syncOnce sync) := by
  constructor
  · intro context same fixed
    rw [run_syncOnce_of_sequences same]
    exact ⟨same, fixed, CallCounts.le_waited _⟩
  · rintro context _ last outcome
      ⟨encoder_eq, fixed, resumes, source, buffer, bitstream, log, rfl, alike⟩ ran within
    rw [run_syncOnce_of_sequences encoder_eq] at ran
    cases ran
    have same_encoder : (twins.beside context source buffer bitstream log).session.encoder
        = twins.later.encoder twins.others := rfl
    have waited := run_syncOnce_of_sequences same_encoder sync
    rw [counts_beside, resumes.waits_add within, CallCounts.waited_add,
      show (twins.beside context source buffer bitstream log).bitstream.available = _
        from alike.available] at waited
    exact ⟨_, waited, encoder_eq, fixed, resumes.from_next (CallCounts.le_waited _), source, buffer,
      _, log, rfl, alike.offered _⟩

theorem mirrored_attemptSync (sync : SyncPoint) (left attempt : Nat) :
    twins.Mirrored (EncodeM.attemptSync sync left attempt) := by
  induction left generalizing attempt with
  | zero => exact .throw _
  | succ left ih =>
    refine .bind (mirrored_syncOnce sync) fun reply => ?_
    split
    · exact .pure true
    · exact .bind (.report _) fun _ => ih (attempt + 1)
    · refine .bind (.report _) fun _ => .bind (.modifies (fun _ => rfl) (fun _ => rfl) ?_)
        fun _ => .pure false
      exact fun _ _ _ _ _ alike => ⟨_, _, _, _, rfl, .cleared alike.capacity⟩
    · exact .throw _

theorem mirrored_writeOutput : twins.Mirrored EncodeM.writeOutput := by
  constructor
  · intro context
    obtain ⟨_, _, ended⟩ | ⟨_, _, ended⟩ | ⟨_, _, _, _, _, ⟨_, _, ended⟩ | ⟨_, _, ended⟩⟩ :=
      writeOutput_cases context
    all_goals
      rw [ended]
      exact .of_session rfl rfl
  · rintro context _ last outcome
      ⟨encoder_eq, fixed, resumes, source, buffer, bitstream, log, rfl, alike⟩ ran _
    rw [writeOutput, run_bind_ok (run_get _)] at ran ⊢
    dsimp only [beside] at ran ⊢
    cases number : nextFrame context.framesWritten with
    | error fault =>
      rw [number] at ran
      cases ran
      exact ⟨_, rfl, encoder_eq, fixed, resumes, source, buffer, bitstream, log, rfl, alike⟩
    | ok frame =>
      rw [number, run_bind_ok (run_ofFault _ _)] at ran
      rw [run_bind_ok (run_ofFault _ _)]
      cases created : context.store.create
          (FileStore.join context.options.outputDir (outputFileName frame)) with
      | error error =>
        rw [created] at ran
        cases ran
        exact ⟨_, rfl, encoder_eq, fixed, resumes, source, buffer, bitstream, log, rfl, alike⟩
      | ok file =>
        rw [created] at ran
        obtain ⟨next, wrote, alike⟩ := alike.writeTo (outputSink file.2)
        dsimp only at ran ⊢
        rw [wrote]
        generalize context.bitstream.writeTo (outputSink file.2) = result at ran alike
        obtain ⟨written, sink, bitstream'⟩ := result
        cases written <;> cases ran <;>
          exact ⟨_, rfl, encoder_eq, fixed, resumes, source, buffer, next, _, rfl, alike⟩

/-- There is no change of the picture size to apply. -/
theorem mirrored_applyDueChange : twins.Mirrored EncodeM.applyDueChange := by
  constructor
  · intro context same fixed
    rw [run_applyDueChange_none fixed]
    exact ⟨same, fixed, CallCounts.le_refl _⟩
  · intro context other last outcome alongside ran _
    rw [run_applyDueChange_none alongside.fixed] at ran
    cases ran
    exact ⟨other, run_applyDueChange_none (alongside.options ▸ alongside.fixed), alongside⟩

theorem mirrored_conclude : twins.Mirrored EncodeM.conclude := by
  refine .bind mirrored_writeOutput fun _ => .bind mirrored_applyDueChange fun _ => ?_
  refine .get_bind (fun alongside => ?_) fun context => .pure _
  obtain ⟨_, _, _, _, rfl, _⟩ := alongside.beside
  rfl

theorem mirrored_complete (sync : SyncPoint) : twins.Mirrored (EncodeM.complete sync) := by
  rw [complete_eq]
  refine .bind (.get_bind (fun alongside => ?_) fun context => mirrored_attemptSync sync _ 1)
    fun found => ?_
  · rw [alongside.options]
  · cases found
    · exact .pure _
    · exact mirrored_conclude

/-- Acting on a reply. -/
theorem mirrored_settle (draining : Bool) (reply : Except EncoderError SubmitStatus) :
    twins.Mirrored (EncodeM.settle draining reply) := by
  unfold EncodeM.settle
  split
  · exact mirrored_complete _
  · exact .pure _
  · exact .pure _
  all_goals exact .bind (.report _) fun _ => .pure _

theorem mirrored_endRound (loop : LoopState) (draining : Bool) (progress : Progress) :
    twins.Mirrored (EncodeM.endRound loop draining progress) := by
  unfold EncodeM.endRound
  split
  · exact .pure _
  · split
    · refine .get_bind (fun alongside => ?_) fun context => ?_
      · rw [alongside.options]
      · generalize (if progress = Progress.stalled then _ else _) = stalled
        split
        · exact .bind (.report _) fun _ => .pure _
        · exact .pure _
    · exact .pure _

end Twins

end Nv12Jpeg
