import Nv12Jpeg.Proofs.Encode.Alongside
import Nv12Jpeg.Proofs.Encode.Submissions

/-!
# The frames still to come

An encoder that answers from sequences does not see what is in a frame. So of the source it matters
only how many whole frames it still has, and how it ends after them.

* `FramesLeft` — the number of frames still to come;
* `Still` — what set-up and the end of a run leave alone;
* `Unread` — what the rest of a round leaves alone once its submission is made;
* `AfterRound` — where a round leads to and how many frames are left after it;
* `EncodeM.round_leads` is the step and `EncodeM.runRounds_surfaces_le` the run.
-/

namespace Nv12Jpeg

variable {σ α τ : Type}

/-- So many whole frames are still to come from the source before it ends or fails. -/
structure FramesLeft (context : EncodeContext σ) (frames : Nat) (failure : Option IoError) :
    Prop where
  sound : context.pool.Sound
  feeds : ∃ rest : Bytes, context.source.Feeds context.store
      (MayWrite context.options context.store) rest failure ∧
    rest.size / context.pool.info.rawFrameSize = frames

/-! ## Set-up and end -/

/-- Nothing is read, and no call answered from sequences. -/
def Still (encoder : Encoder (τ × CallCounts)) (earlier later : EncodeContext (τ × CallCounts)) :
    Prop :=
  earlier.session.encoder = encoder →
    later.session.encoder = encoder ∧ later.counts = earlier.counts ∧ later.source = earlier.source

namespace Still

variable {encoder : Encoder (τ × CallCounts)}

theorem of_session {earlier later : EncodeContext (τ × CallCounts)}
    (session : later.session = earlier.session) (source : later.source = earlier.source) :
    Still encoder earlier later :=
  fun same => ⟨session ▸ same, congrArg (·.state.2) session, source⟩

theorem onward : EncodeM.Onward (Still encoder) where
  refl := fun _ => .of_session rfl rfl
  trans := by
    intro first second third h h' same
    obtain ⟨same, counts, source⟩ := h same
    obtain ⟨same, counts', source'⟩ := h' same
    exact ⟨same, counts'.trans counts, source'.trans source⟩

end Still

namespace EncodeM

variable {replies : ReplySequences} {others : Encoder τ}

theorem still_report (event : Event) : Keeps (Still (replies.encoder others)) (report event) :=
  fun _ => .of_session rfl rfl

theorem still_demand {step : EncoderStep}
    {make : Session (τ × CallCounts) → Answer (Session (τ × CallCounts)) α}
    (common : ReplySequences.Common others make) :
    Keeps (Still (replies.encoder others)) (demand step make) := by
  intro context same
  obtain ⟨_, _, _, _, made⟩ := common.eq same
  rw [run_demand, made]
  exact ⟨rfl, rfl, rfl⟩

theorem still_setUp : Keeps (Still (replies.encoder others)) setUp := by
  have opens : Keeps (Still (replies.encoder others)) openAccelerator :=
    .openAccelerator Still.onward (fun _ => still_demand (ReplySequences.common_attach _))
      fun _ _ => .of_session rfl rfl
  have negotiates : Keeps (Still (replies.encoder others)) negotiate :=
    .negotiate Still.onward still_report (fun _ => still_demand (ReplySequences.common_query _))
      (fun _ _ => .of_session rfl rfl) fun _ => still_demand (ReplySequences.common_init _)
  have allocates : Keeps (Still (replies.encoder others)) allocatePool :=
    .allocatePool Still.onward (fun _ => still_demand (ReplySequences.common_surfaceRequest _))
      fun _ _ => .of_session rfl rfl
  exact .setUp Still.onward still_report opens negotiates allocates fun _ _ => .of_session rfl rfl

theorem still_finish (reason : StopReason) :
    Keeps (Still (replies.encoder others)) (finish reason) :=
  .finish Still.onward still_report (still_demand ReplySequences.common_close) reason

/-- Set-up that succeeds leaves free surfaces and an empty output buffer. -/
theorem setUp_ready {σ : Type} {context ready : EncodeContext σ}
    (ran : setUp.run context = (.ok (), ready)) :
    (∃ count, ready.pool = .allocate ready.pool.info count) ∧ ready.bitstream.size = 0 := by
  obtain ⟨_, _, _, ran⟩ := run_bind_eq_ok ran
  obtain ⟨_, _, _, ran⟩ := run_bind_eq_ok ran
  obtain ⟨_, _, _, ran⟩ := run_bind_eq_ok ran
  obtain ⟨_, _, _, ran⟩ := run_bind_eq_ok ran
  obtain ⟨request, pooled, allocated, ran⟩ := run_bind_eq_ok ran
  have pool : ∃ info count, pooled.pool = .allocate info count := by
    obtain ⟨_, _, _, allocated⟩ := run_bind_eq_ok allocated
    obtain ⟨_, _, _, allocated⟩ := run_bind_eq_ok allocated
    cases allocated
    exact ⟨_, _, rfl⟩
  obtain ⟨info, count, pool⟩ := pool
  rw [run_bind_ok (run_get _)] at ran
  obtain ⟨bitstream, _, fitted, ran⟩ := run_bind_eq_ok ran
  rw [run_ofFault] at fitted
  obtain ⟨fitted, rfl⟩ := Prod.mk.inj fitted
  rw [run_bind_ok (run_modify _ _), run_bind_ok (run_get _)] at ran
  cases ran
  refine ⟨⟨count, pool.trans (by rw [pool]; rfl)⟩, ?_⟩
  cases size : Size.buffer pooled.options.bitstreamCapacity with
  | error fault =>
    rw [Bitstream.allocate, size] at fitted
    cases fitted
  | ok capacity =>
    rw [Bitstream.allocate, size] at fitted
    cases fitted
    rfl

end EncodeM

/-! ## The rest of a round -/

/-- Nothing is read or submitted, and files are written for frames only. -/
structure Kept (earlier later : EncodeContext (τ × CallCounts)) : Prop where
  options : later.options = earlier.options
  source : later.source = earlier.source
  pool : later.pool = earlier.pool
  store : FileStore.ChangedAt (MayWrite earlier.options earlier.store) later.store earlier.store
  surfaces : later.counts.surfaces = earlier.counts.surfaces

theorem FramesLeft.of_kept {context last : EncodeContext (τ × CallCounts)} {frames : Nat}
    {failure : Option IoError} (left : FramesLeft context frames failure)
    (kept : Kept context last) : FramesLeft last frames failure := by
  obtain ⟨sound, rest, feeds, count⟩ := left
  refine ⟨kept.pool ▸ sound, rest, ?_, kept.pool ▸ count⟩
  rw [kept.source, kept.options, mayWrite_congr kept.store]
  exact feeds.of_changedAt kept.store

/-- Steps that keep to that with an encoder that answers from sequences, if the picture size is to
stay. -/
def Unread (encoder : Encoder (τ × CallCounts)) (earlier later : EncodeContext (τ × CallCounts)) :
    Prop :=
  earlier.session.encoder = encoder → earlier.options.resolutionChange = none →
    Kept earlier later ∧ later.session.encoder = encoder

namespace Unread

variable {encoder : Encoder (τ × CallCounts)}

theorem of_session {earlier later : EncodeContext (τ × CallCounts)}
    (session : later.session = earlier.session) (options : later.options = earlier.options)
    (source : later.source = earlier.source) (pool : later.pool = earlier.pool)
    (store : FileStore.ChangedAt (MayWrite earlier.options earlier.store) later.store
      earlier.store) : Unread encoder earlier later := by
  intro same _
  refine ⟨⟨options, source, pool, store, ?_⟩, session ▸ same⟩
  rw [EncodeContext.counts, EncodeContext.counts, session]

theorem onward : EncodeM.Onward (Unread encoder) where
  refl := fun _ => .of_session rfl rfl rfl rfl (.refl _)
  trans := by
    intro first second third h h' same fixed
    obtain ⟨kept, same⟩ := h same fixed
    obtain ⟨kept', same⟩ := h' same (kept.options ▸ fixed)
    have store := kept'.store
    rw [mayWrite_congr kept.store, kept.options] at store
    exact ⟨⟨kept'.options.trans kept.options, kept'.source.trans kept.source,
      kept'.pool.trans kept.pool, store.trans kept.store, kept'.surfaces.trans kept.surfaces⟩, same⟩

end Unread

namespace EncodeM

variable {replies : ReplySequences} {others : Encoder τ}

theorem unread_report (event : Event) :
    Keeps (Unread (replies.encoder others)) (report event) :=
  fun _ => .of_session rfl rfl rfl rfl (.refl _)

theorem unread_syncOnce (sync : SyncPoint) :
    Keeps (Unread (replies.encoder others)) (syncOnce sync) := by
  intro context same _
  rw [run_syncOnce_of_sequences same]
  exact ⟨⟨rfl, rfl, rfl, .refl _, rfl⟩, same⟩

theorem unread_writeOutput : Keeps (Unread (replies.encoder others)) writeOutput := by
  intro context
  have writes := writesOnly_writeOutput context
  exact .of_session writes.session writes.options writes.source writes.pool writes.store

theorem unread_applyDueChange : Keeps (Unread (replies.encoder others)) applyDueChange := by
  intro context same fixed
  rw [run_applyDueChange_none fixed]
  exact Unread.onward.refl context same fixed

theorem unread_settle (draining : Bool) (reply : Except EncoderError SubmitStatus) :
    Keeps (Unread (replies.encoder others)) (settle draining reply) := by
  have waits : ∀ sync left, Keeps (Unread (replies.encoder others)) (attemptSync sync left 1) :=
    fun sync left => .attemptSync Unread.onward unread_report (unread_syncOnce sync)
      (fun _ => .of_session rfl rfl rfl rfl (.refl _)) left 1
  refine .settle Unread.onward unread_report (fun sync => ?_) draining reply
  exact .complete Unread.onward (waits sync) unread_writeOutput unread_applyDueChange

/-- A result that is too large is dropped with all that was put into the output buffer. -/
theorem attemptSync_dropped {sync : SyncPoint} {left attempt : Nat} {context last : EncodeContext σ}
    (ran : (attemptSync sync left attempt).run context = (.ok false, last)) :
    last.bitstream.size = 0 := by
  induction left generalizing attempt context with
  | zero => cases ran
  | succ left ih =>
    obtain ⟨reply, later, _, ran⟩ := run_bind_eq_ok ran
    split at ran
    · cases ran
    · rw [run_bind_ok (run_report _ _)] at ran
      exact ih ran
    · rw [run_bind_ok (run_report _ _), run_bind_ok (run_modify _ _)] at ran
      cases ran
      rfl
    · cases ran

/-- Acting on a reply leaves nothing in the output buffer if nothing was in it. -/
theorem settle_empty {draining : Bool} {reply : Except EncoderError SubmitStatus}
    {progress : Progress} {context last : EncodeContext σ}
    (fixed : context.options.resolutionChange = none) (empty : context.bitstream.size = 0)
    (ran : (settle draining reply).run context = (.ok progress, last)) :
    last.bitstream.size = 0 := by
  unfold settle at ran
  split at ran
  · rw [complete_eq] at ran
    obtain ⟨found, waited, synced, ran⟩ := run_bind_eq_ok ran
    rw [synchronize, run_bind_ok (run_get _)] at synced
    cases found with
    | false =>
      cases ran
      exact attemptSync_dropped synced
    | true =>
      obtain ⟨_, written, wrote, ran⟩ := run_bind_eq_ok ran
      obtain ⟨_, _, _, _, options, _, nothing, _⟩ := writeOutput_ok wrote
      have kept := ((unwritten_attemptSync _ _ _).of_run synced).options
      rw [run_bind_ok (run_applyDueChange_none (options ▸ kept ▸ fixed)),
        run_bind_ok (run_get written)] at ran
      cases ran
      rw [← Bitstream.size_bytes, nothing]
      rfl
  · cases ran
    exact empty
  · cases ran
    exact empty
  all_goals
    rw [run_bind_ok (run_report _ _)] at ran
    cases ran
    exact empty

/-! ## Submissions -/

/-- Into a free surface the next frame is read. -/
theorem run_readFrame_next {context : EncodeContext σ} {index frames : Nat}
    {failure : Option IoError} (left : FramesLeft context (frames + 1) failure)
    (free : context.pool.findFree = some index) :
    ∃ (submission : Submission) (data : Bytes) (next : Source),
      readFrame.run context = (.ok (some submission),
        { context with pool := context.pool.withData index data, source := next }) ∧
      FramesLeft { context with pool := context.pool.withData index data, source := next } frames
        failure := by
  obtain ⟨sound, rest, feeds, count⟩ := left
  have positive := sound.info.rawFrameSize_pos
  rcases Nat.lt_or_ge rest.size context.pool.info.rawFrameSize with short | enough
  · rw [Nat.div_eq_of_lt short] at count
    cases count
  · obtain ⟨data, next, read, feeds, _⟩ := run_readFrame_complete free feeds sound enough
    refine ⟨_, data, next, read, SurfacePool.sound_withData sound data, _, feeds, ?_⟩
    show (rest.extract _ _).size / context.pool.info.rawFrameSize = frames
    rw [Nat.div_eq_sub_div positive enough] at count
    rw [Array.size_extract, Nat.min_self]
    omega

/-- Where no frame is left, there is nothing to submit. -/
theorem run_readFrame_last {context : EncodeContext σ} {index : Nat} {failure : Option IoError}
    (left : FramesLeft context 0 failure) (free : context.pool.findFree = some index) :
    ∃ (data : Bytes) (next : Source), readFrame.run context =
      (failure.elim (.ok none) fun error => .error (.error (.inputNotRead error)),
        { context with pool := context.pool.withData index data, source := next }) := by
  obtain ⟨sound, rest, feeds, count⟩ := left
  have short : rest.size < context.pool.info.rawFrameSize := by
    rcases Nat.div_eq_zero_iff.1 count with none | short
    · exact absurd none (Nat.ne_of_gt sound.info.rawFrameSize_pos)
    · exact short
  obtain ⟨data, next, read, _⟩ := run_readFrame_short free feeds sound short
  exact ⟨data, next, read⟩

end EncodeM

/-! ## Rounds -/

section Rounds

variable {replies : ReplySequences} {others : Encoder τ}
  {context ready last : EncodeContext (τ × CallCounts)} {loop : LoopState} {frames : Nat}
  {failure : Option IoError}

/-- What a round submits if `draining` tells whether the source ended before, and the reply: the
next frame, or a flush where there is none. -/
inductive Submitted (replies : ReplySequences) (draining : Bool)
    (context : EncodeContext (τ × CallCounts)) (frames : Nat) (failure : Option IoError) :
    Except (Failure EncodeError) (Except EncoderError SubmitStatus × Bool) →
      EncodeContext (τ × CallCounts) → Prop
  | failed {cause : Failure EncodeError} {last : EncodeContext (τ × CallCounts)}
      (counts : last.counts = context.counts) :
      Submitted replies draining context frames failure (.error cause) last
  | flushed {last : EncodeContext (τ × CallCounts)} (none : draining = true ∨ frames = 0)
      (counts : last.counts = context.counts.submitted true) :
      Submitted replies draining context frames failure
        (.ok (replies.reply context.counts true, true)) last
  | surface {more : Nat} {last : EncodeContext (τ × CallCounts)} (reading : draining = false)
      (frames_eq : frames = more + 1) (left : FramesLeft last more failure)
      (counts : last.counts = context.counts.submitted false) :
      Submitted replies draining context frames failure
        (.ok (replies.reply context.counts false, false)) last

/-- One surface is submitted, if any, and only if a frame is left. -/
theorem Submitted.surfaces {draining : Bool}
    {outcome : Except (Failure EncodeError) (Except EncoderError SubmitStatus × Bool)}
    (submitted : Submitted replies draining context frames failure outcome last) :
    last.counts.surfaces ≤ context.counts.surfaces + 1 ∧
      (draining = true ∨ frames = 0 → last.counts.surfaces = context.counts.surfaces) := by
  cases submitted with
  | failed counts =>
    rw [counts]
    exact ⟨Nat.le_succ _, fun _ => rfl⟩
  | flushed _ counts =>
    rw [counts]
    exact ⟨Nat.le_succ _, fun _ => rfl⟩
  | surface reading frames_eq _ counts =>
    subst reading frames_eq
    rw [counts]
    exact ⟨Nat.le_refl _, nofun⟩

namespace EncodeM

theorem run_submit_pair (same : context.session.encoder = replies.encoder others)
    (submission : Option Submission) (ended : Bool) :
    (call (Session.submit submission) >>= fun reply => pure (reply, ended)).run context =
      (.ok (replies.reply context.counts submission.isNone, ended),
        context.counted (context.counts.submitted submission.isNone)) := by
  rw [run_bind_ok (run_submit same submission)]
  rfl

theorem nextSubmission_submitted {draining : Bool}
    {outcome : Except (Failure EncodeError) (Except EncoderError SubmitStatus × Bool)}
    (same : context.session.encoder = replies.encoder others)
    (left : draining = false → FramesLeft context frames failure)
    (ran : (nextSubmission draining).run context = (outcome, last)) :
    Submitted replies draining context frames failure outcome last ∧
      last.session.encoder = replies.encoder others ∧ last.options = context.options ∧
      last.bitstream = context.bitstream := by
  cases draining with
  | true =>
    rw [nextSubmission, if_pos rfl, run_submit_pair same none true] at ran
    cases ran
    exact ⟨.flushed (.inl rfl) rfl, same, rfl, rfl⟩
  | false =>
    rw [nextSubmission, if_neg Bool.false_ne_true] at ran
    cases free : context.pool.findFree with
    | none =>
      rw [run_bind_error (run_readFrame_none free)] at ran
      cases ran
      exact ⟨.failed rfl, same, rfl, rfl⟩
    | some index =>
      cases frames with
      | zero =>
        obtain ⟨data, next, read⟩ := run_readFrame_last (left rfl) free
        cases failure with
        | some error =>
          rw [run_bind_error read] at ran
          cases ran
          exact ⟨.failed rfl, same, rfl, rfl⟩
        | none =>
          rw [run_bind_ok read] at ran
          dsimp only at ran
          rw [run_bind_ok (run_report _ _)] at ran
          rw [run_submit_pair (by exact same) none true] at ran
          cases ran
          exact ⟨.flushed (.inr rfl) rfl, same, rfl, rfl⟩
      | succ more =>
        obtain ⟨submission, data, next, read, left⟩ := run_readFrame_next (left rfl) free
        rw [run_bind_ok read] at ran
        dsimp only at ran
        rw [run_submit_pair (by exact same) (some submission) false] at ran
        cases ran
        exact ⟨.surface rfl rfl ⟨left.sound, left.feeds⟩ rfl, same, rfl, rfl⟩

end EncodeM

/-- Where a round leads to, and how many frames are left then. -/
inductive AfterRound (loop : LoopState) (context : EncodeContext (τ × CallCounts)) (frames : Nat)
    (failure : Option IoError) :
    Except (Failure EncodeError) RoundEnd → EncodeContext (τ × CallCounts) → Prop
  | fails {cause : Failure EncodeError} {last : EncodeContext (τ × CallCounts)}
      (le : last.counts.surfaces ≤ context.counts.surfaces + 1)
      (none : loop.draining = true ∨ frames = 0 →
        last.counts.surfaces = context.counts.surfaces) :
      AfterRound loop context frames failure (.error cause) last
  | stops {reason : StopReason} {last : EncodeContext (τ × CallCounts)}
      (le : last.counts.surfaces ≤ context.counts.surfaces + 1)
      (none : loop.draining = true ∨ frames = 0 →
        last.counts.surfaces = context.counts.surfaces) :
      AfterRound loop context frames failure (.ok (.stop reason)) last
  | flushed {stalled : Nat} {last : EncodeContext (τ × CallCounts)}
      (none : loop.draining = true ∨ frames = 0)
      (surfaces : last.counts.surfaces = context.counts.surfaces) :
      AfterRound loop context frames failure (.ok (.next ⟨true, stalled⟩)) last
  | reads {more : Nat} {last : EncodeContext (τ × CallCounts)} (reading : loop.draining = false)
      (frames_eq : frames = more + 1) (left : FramesLeft last more failure)
      (surfaces : last.counts.surfaces = context.counts.surfaces + 1)
      (empty : context.bitstream.size = 0 → last.bitstream.size = 0) :
      AfterRound loop context frames failure (.ok (.next loop)) last

/-- A round that goes on while there is a frame left has submitted it. -/
theorem AfterRound.next {loop' : LoopState} {more : Nat}
    (leads : AfterRound loop context (more + 1) failure (.ok (.next loop')) last)
    (reading : loop.draining = false) :
    loop' = loop ∧ FramesLeft last more failure ∧
      last.counts.surfaces = context.counts.surfaces + 1 ∧
      (context.bitstream.size = 0 → last.bitstream.size = 0) := by
  cases leads with
  | flushed none =>
    rw [reading] at none
    rcases none with none | none <;> cases none
  | reads _ frames_eq left surfaces empty =>
    obtain rfl := Nat.succ.inj frames_eq
    exact ⟨rfl, left, surfaces, empty⟩

namespace EncodeM

/-- One round. -/
theorem round_leads {outcome : Except (Failure EncodeError) RoundEnd}
    (same : context.session.encoder = replies.encoder others)
    (fixed : context.options.resolutionChange = none)
    (left : loop.draining = false → FramesLeft context frames failure)
    (ran : (round loop).run context = (outcome, last)) :
    AfterRound loop context frames failure outcome last ∧
      last.session.encoder = replies.encoder others ∧ last.options = context.options := by
  rcases run_bind_cases ran with ⟨⟨reply, draining⟩, ready, made, ran⟩ | ⟨cause, failed, rfl⟩
  · obtain ⟨submitted, same, options, bitstream⟩ := nextSubmission_submitted same left made
    obtain ⟨le, none⟩ := submitted.surfaces
    rw [← options] at fixed
    rcases run_bind_cases ran with ⟨progress, settled, acted, ran⟩ | ⟨cause, failed, rfl⟩
    · obtain ⟨kept, same⟩ := (unread_settle draining reply).of_run acted same fixed
      obtain ⟨log, ends⟩ := run_endRound_log loop draining progress settled
      rw [ends] at ran
      obtain ⟨rfl, rfl⟩ := Prod.mk.inj ran
      refine ⟨?_, same, kept.options.trans options⟩
      cases submitted with
      | flushed ended counts =>
        have surfaces := kept.surfaces.trans (none ended)
        have leads : ∀ stalled, AfterRound loop context frames failure
            (.ok (.next ⟨true, stalled⟩)) { settled with log } := fun _ => .flushed ended surfaces
        have stops : ∀ reason, AfterRound loop context frames failure
            (.ok (.stop reason)) { settled with log } :=
          fun _ => .stops (Nat.le_trans (Nat.le_of_eq surfaces) (Nat.le_succ _)) fun _ => surfaces
        cases progress with
        | stop reason => exact stops reason
        | made => exact leads 0
        | stalled =>
          rw [LoopState.after, if_pos rfl]
          split
          · exact stops _
          · exact leads _
      | surface reading frames_eq more counts =>
        obtain ⟨_, stalled⟩ := loop
        subst reading
        have leads : AfterRound ⟨false, stalled⟩ context frames failure
            (.ok (.next ⟨false, stalled⟩)) { settled with log } := by
          have empty : context.bitstream.size = 0 → settled.bitstream.size = 0 :=
            fun empty => settle_empty fixed (bitstream ▸ empty) acted
          obtain ⟨sound, feeds⟩ := more.of_kept kept
          refine .reads rfl frames_eq ⟨sound, feeds⟩ ?_ empty
          exact kept.surfaces.trans (congrArg CallCounts.surfaces counts)
        cases progress with
        | stop reason =>
          exact .stops (kept.surfaces ▸ le) fun ended => kept.surfaces.trans (none ended)
        | made => exact leads
        | stalled => exact leads
    · obtain ⟨kept, same⟩ := (unread_settle draining reply).of_run failed same fixed
      exact ⟨.fails (kept.surfaces ▸ le) fun ended => kept.surfaces.trans (none ended), same,
        kept.options.trans options⟩
  · obtain ⟨submitted, same, options, _⟩ := nextSubmission_submitted same left failed
    exact ⟨.fails submitted.surfaces.1 submitted.surfaces.2, same, options⟩

/-- A loop submits a surface in each round at most, and none once the source has ended. -/
theorem runRounds_surfaces_le {rounds : Nat} {outcome : Except (Failure EncodeError) StopReason}
    (same : context.session.encoder = replies.encoder others)
    (fixed : context.options.resolutionChange = none)
    (left : loop.draining = false → FramesLeft context frames failure)
    (ran : (runRounds rounds loop).run context = (outcome, last)) :
    last.counts.surfaces ≤ context.counts.surfaces + rounds ∧
      (loop.draining = true ∨ frames = 0 →
        last.counts.surfaces = context.counts.surfaces) := by
  induction rounds generalizing loop context frames with
  | zero =>
    cases ran
    exact ⟨Nat.le_refl _, fun _ => rfl⟩
  | succ rounds ih =>
    rw [run_runRounds_succ] at ran
    cases one : (round loop).run context with
    | mk result later =>
      obtain ⟨leads, same, options⟩ := round_leads same fixed left one
      rw [← options] at fixed
      rw [one] at ran
      cases leads with
      | fails le none =>
        cases ran
        exact ⟨Nat.le_trans le (by omega), none⟩
      | stops le none =>
        cases ran
        exact ⟨Nat.le_trans le (by omega), none⟩
      | flushed _ surfaces =>
        obtain ⟨le, none⟩ := @ih later ⟨true, _⟩ 0 same fixed nofun ran
        exact ⟨by omega, fun _ => (none (.inl rfl)).trans surfaces⟩
      | reads reading frames_eq left surfaces _ =>
        obtain ⟨le, _⟩ := ih same fixed (fun _ => left) ran
        refine ⟨by omega, fun ended => ?_⟩
        rw [reading, frames_eq] at ended
        cases ended <;> contradiction

end EncodeM

end Rounds

end Nv12Jpeg
