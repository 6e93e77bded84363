import Nv12Jpeg.Encoder.Scripted
import Nv12Jpeg.Proofs.Encode.FrameLimit
import Nv12Jpeg.Proofs.Encode.FramesLeft

/-!
# Dropped frames

A frame that is dropped leaves no trace in the files of a run: what comes of the run is what would
have come of it without the frame. Encoders that answer from sequences show this, as the replies to
one frame can be put in with it.

* `Twins.Alongside.round` and `Twins.Alongside.runRounds` are the step and the run where two runs
  have as many frames left;
* `Twins.Alongside.drops` — the round of a frame that is dropped, beside no round at all;
* `Twins.runRounds_inserting` — a loop with a frame more, which is dropped, beside one without it;
* `SameResult` — runs that come to the same;
* `dropping_a_frame_is_local` is about whole runs.
-/

namespace Nv12Jpeg

variable {α τ : Type}

/-! ## Loops side by side -/

namespace Twins

open EncodeM

variable {twins : Twins τ} {context other last : EncodeContext (τ × CallCounts)} {loop : LoopState}
  {frames frames' : Nat} {failure : Option IoError}

namespace Alongside

/-- What was read into a surface does not matter. -/
theorem filled (alongside : twins.Alongside context other) (index : Nat) (data data' : Bytes)
    (source source' : Source) :
    twins.Alongside { context with pool := context.pool.withData index data, source }
      { other with pool := other.pool.withData index data', source := source' } := by
  obtain ⟨encoder_eq, fixed, resumes, _, _, _, _, rfl, alike⟩ := alongside
  exact ⟨encoder_eq, fixed, resumes, _, _, _, _, rfl, alike⟩

/-- The surfaces of both runs are locked alike. -/
theorem pool (alongside : twins.Alongside context other) :
    other.pool.findFree = context.pool.findFree ∧ other.pool.size = context.pool.size := by
  obtain ⟨_, _, _, _, rfl, _⟩ := alongside.beside
  exact ⟨rfl, rfl⟩

theorem info (alongside : twins.Alongside context other) :
    other.pool.info = context.pool.info := by
  obtain ⟨_, _, _, _, rfl, _⟩ := alongside.beside
  rfl

/-- Either both runs find a frame, or neither does. -/
theorem readFrame (alongside : twins.Alongside context other)
    (left : FramesLeft context frames failure) (left' : FramesLeft other frames' failure)
    (same : frames = 0 ↔ frames' = 0) :
    ∃ filled filled', twins.Alongside filled filled' ∧
      ((∃ cause, EncodeM.readFrame.run context = (.error cause, filled) ∧
        EncodeM.readFrame.run other = (.error cause, filled')) ∨
      (EncodeM.readFrame.run context = (.ok none, filled) ∧
        EncodeM.readFrame.run other = (.ok none, filled')) ∨
      ∃ submission submission', EncodeM.readFrame.run context = (.ok (some submission), filled) ∧
        EncodeM.readFrame.run other = (.ok (some submission'), filled')) := by
  have pool := alongside.pool
  cases free : context.pool.findFree with
  | none =>
    refine ⟨context, other, alongside, .inl ⟨_, run_readFrame_none free, ?_⟩⟩
    rw [run_readFrame_none (pool.1.trans free), pool.2]
  | some index =>
    cases frames with
    | zero =>
      obtain rfl := same.1 rfl
      obtain ⟨data, next, read⟩ := run_readFrame_last left free
      obtain ⟨data', next', read'⟩ := run_readFrame_last left' (pool.1.trans free)
      refine ⟨_, _, alongside.filled index data data' next next', ?_⟩
      cases failure with
      | none => exact .inr (.inl ⟨read, read'⟩)
      | some error => exact .inl ⟨_, read, read'⟩
    | succ more =>
      obtain ⟨more', rfl⟩ := Nat.exists_eq_succ_of_ne_zero fun none => by
        cases same.2 none
      obtain ⟨submission, data, next, read, _⟩ := run_readFrame_next left free
      obtain ⟨submission', data', next', read', _⟩ :=
        run_readFrame_next left' (pool.1.trans free)
      exact ⟨_, _, alongside.filled index data data' next next',
        .inr (.inr ⟨submission, submission', read, read'⟩)⟩

end Alongside

theorem mirrored_submit (submission : Option Submission) :
    twins.Mirrored (call (Session.submit submission)) where
  counting := by
    intro context same fixed
    rw [run_submit same]
    exact ⟨same, fixed, CallCounts.le_submitted _ _⟩
  run := fun alongside ran within => alongside.submit rfl ran within

/-- Both runs make the same submission, but for what the surface shows. -/
theorem Alongside.nextSubmission {draining : Bool}
    {outcome : Except (Failure EncodeError) (Except EncoderError SubmitStatus × Bool)}
    (alongside : twins.Alongside context other)
    (left : draining = false → FramesLeft context frames failure ∧
      FramesLeft other frames' failure ∧ (frames = 0 ↔ frames' = 0))
    (ran : (EncodeM.nextSubmission draining).run context = (outcome, last))
    (within : last.counts ≤ twins.bound) :
    ∃ last', (EncodeM.nextSubmission draining).run other = (outcome, last') ∧
      twins.Alongside last last' := by
  have flushes : twins.Mirrored (call (Session.submit none) >>= fun reply =>
      pure (reply, true)) := .bind (mirrored_submit none) fun _ => .pure _
  cases draining with
  | true => exact flushes.run alongside ran within
  | false =>
    obtain ⟨left, left', same⟩ := left rfl
    rw [EncodeM.nextSubmission, if_neg Bool.false_ne_true] at ran ⊢
    obtain ⟨filled, filled', alongside, ⟨cause, read, read'⟩ | ⟨read, read'⟩ |
      ⟨submission, submission', read, read'⟩⟩ := alongside.readFrame left left' same
    · rw [run_bind_error read] at ran
      cases ran
      exact ⟨filled', run_bind_error read', alongside⟩
    · rw [run_bind_ok read] at ran
      rw [run_bind_ok read']
      have ends : twins.Mirrored (report .inputEnded >>= fun _ =>
          call (Session.submit none) >>= fun reply => pure (reply, true)) :=
        .bind (.report _) fun _ => flushes
      exact ends.run alongside ran within
    · rw [run_bind_ok read] at ran
      rw [run_bind_ok read']
      dsimp only at ran ⊢
      rw [run_submit_pair alongside.encoder_eq] at ran
      cases ran
      obtain ⟨last', submitted, alongside⟩ := alongside.submit
        (show (some submission').isNone = (some submission).isNone from rfl)
        (run_submit alongside.encoder_eq _) within
      exact ⟨last', run_bind_ok submitted, alongside⟩

theorem counting_nextSubmission (draining : Bool) :
    Keeps (Counting (twins.replies.encoder twins.others)) (EncodeM.nextSubmission draining) := by
  intro context same fixed
  obtain ⟨submission, ready, offers, made⟩ | ⟨failure, later, _, unoffered, _, failed⟩ :=
    nextSubmission_cases draining context
  · obtain ⟨session, options, _⟩ := offers.unchanged
    rw [made, ReplySequences.submit_eq (session ▸ same), book_quiet]
    refine ⟨(congrArg Session.encoder session).trans same, options ▸ fixed, ?_⟩
    rw [EncodeContext.counts, ← session]
    exact CallCounts.le_submitted _ _
  · obtain ⟨session, options⟩ := unoffered.unchanged
    rw [failed]
    exact Counting.of_session session options same fixed

/-- What follows on a submission. -/
theorem mirrored_settled (loop : LoopState) (draining : Bool)
    (reply : Except EncoderError SubmitStatus) :
    twins.Mirrored (settle draining reply >>= endRound loop draining) :=
  .bind (mirrored_settle draining reply) (mirrored_endRound loop draining)

theorem counting_round (loop : LoopState) :
    Keeps (Counting (twins.replies.encoder twins.others)) (EncodeM.round loop) :=
  .bind Counting.onward (counting_nextSubmission _) fun (reply, draining) =>
    (mirrored_settled loop draining reply).counting

theorem counting_runRounds (rounds : Nat) (loop : LoopState) :
    Keeps (Counting (twins.replies.encoder twins.others)) (EncodeM.runRounds rounds loop) := by
  induction rounds generalizing loop with
  | zero => exact .throw Counting.onward _
  | succ rounds ih =>
    refine .bind Counting.onward (counting_round loop) fun result => ?_
    cases result with
    | stop reason => exact .pure Counting.onward reason
    | next loop => exact ih loop

namespace Alongside

/-- A round comes to the same in both runs, if either both have a frame left or none has. -/
theorem round {outcome : Except (Failure EncodeError) RoundEnd}
    (alongside : twins.Alongside context other)
    (left : loop.draining = false → FramesLeft context frames failure ∧
      FramesLeft other frames' failure ∧ (frames = 0 ↔ frames' = 0))
    (ran : (EncodeM.round loop).run context = (outcome, last))
    (within : last.counts ≤ twins.bound) :
    ∃ last', (EncodeM.round loop).run other = (outcome, last') ∧ twins.Alongside last last' := by
  rcases run_bind_cases ran with ⟨⟨reply, draining⟩, ready, made, ran⟩ | ⟨cause, failed, rfl⟩
  · obtain ⟨same, fixed, _⟩ :=
      (counting_nextSubmission _).of_run made alongside.encoder_eq alongside.fixed
    obtain ⟨_, _, counts⟩ := (mirrored_settled loop draining reply).counting.of_run ran same fixed
    obtain ⟨ready', made', alongside⟩ :=
      alongside.nextSubmission left made (CallCounts.le_trans counts within)
    obtain ⟨last', ran', alongside⟩ :=
      (mirrored_settled loop draining reply).run alongside ran within
    exact ⟨last', (run_bind_ok made').trans ran', alongside⟩
  · obtain ⟨last', failed', alongside⟩ := alongside.nextSubmission left failed within
    exact ⟨last', run_bind_error failed', alongside⟩

theorem other_encoder_eq (alongside : twins.Alongside context other) :
    other.session.encoder = twins.later.encoder twins.others := by
  obtain ⟨_, _, _, _, rfl, _⟩ := alongside.beside
  rfl

/-- A loop comes to the same in both runs, if as many frames are left. The induction is on the
rounds: each of them leaves as many in one run as in the other. -/
theorem runRounds {rounds : Nat} {outcome : Except (Failure EncodeError) StopReason}
    (alongside : twins.Alongside context other)
    (left : loop.draining = false →
      FramesLeft context frames failure ∧ FramesLeft other frames failure)
    (ran : (EncodeM.runRounds rounds loop).run context = (outcome, last))
    (within : last.counts ≤ twins.bound) :
    ∃ last', (EncodeM.runRounds rounds loop).run other = (outcome, last') ∧
      twins.Alongside last last' := by
  induction rounds generalizing loop context other frames with
  | zero =>
    cases ran
    exact ⟨other, rfl, alongside⟩
  | succ rounds ih =>
    rw [run_runRounds_succ] at ran ⊢
    cases one : (EncodeM.round loop).run context with
    | mk result later =>
      obtain ⟨leads, same, options⟩ :=
        round_leads alongside.encoder_eq alongside.fixed (fun reading => (left reading).1) one
      have fixed := options ▸ alongside.fixed
      rw [one] at ran
      have both : loop.draining = false → FramesLeft context frames failure ∧
          FramesLeft other frames failure ∧ (frames = 0 ↔ frames = 0) :=
        fun reading => ⟨(left reading).1, (left reading).2, Iff.rfl⟩
      cases result with
      | error cause =>
        cases ran
        obtain ⟨last', one', alongside⟩ := alongside.round both one within
        exact ⟨last', by rw [one'], alongside⟩
      | ok result =>
        cases result with
        | stop reason =>
          cases ran
          obtain ⟨last', one', alongside⟩ := alongside.round both one within
          exact ⟨last', by rw [one'], alongside⟩
        | next loop' =>
          obtain ⟨_, _, counts⟩ := (counting_runRounds rounds loop').of_run ran same fixed
          obtain ⟨later', one', alongside'⟩ :=
            alongside.round both one (CallCounts.le_trans counts within)
          obtain ⟨leads', _, _⟩ := round_leads alongside.other_encoder_eq
            (alongside.options ▸ alongside.fixed) (fun reading => (left reading).2) one'
          rw [one']
          cases leads with
          | @flushed stalled =>
            have ended : (⟨true, stalled⟩ : LoopState).draining = false →
              FramesLeft later 0 failure ∧ FramesLeft later' 0 failure := nofun
            exact ih alongside' ended ran
          | reads reading frames_eq more =>
            subst frames_eq
            exact ih alongside' (fun _ => ⟨more, (leads'.next reading).2.1⟩) ran

end Alongside

end Twins

/-! ## A dropped frame -/

section Dropped

variable {replies : ReplySequences} {others : Encoder τ} {bound : CallCounts}
  {context other last : EncodeContext (τ × CallCounts)} {loop : LoopState} {frames : Nat}
  {failure : Option IoError} {reply : Except EncoderError SubmitStatus} {waits : List WaitReply}

/-- The same state after more calls, with another log and output buffer. -/
def EncodeContext.waiting (context : EncodeContext (τ × CallCounts)) (counts : CallCounts)
    (log : Array Event) (bitstream : Bitstream) : EncodeContext (τ × CallCounts) :=
  { context.counted counts with log, bitstream }

/-- The same state with other bytes in a surface, and more of the source read. -/
def EncodeContext.filled (context : EncodeContext (τ × CallCounts)) (index : Nat) (data : Bytes)
    (source : Source) : EncodeContext (τ × CallCounts) :=
  { context with pool := context.pool.withData index data, source }

namespace EncodeM

theorem run_syncOnce_waiting (sync : SyncPoint) {counts : CallCounts} (log : Array Event)
    (bitstream : Bitstream) {wait : WaitReply}
    (same : context.session.encoder = replies.encoder others)
    (answered : replies.waits counts.waits = wait) :
    (syncOnce sync).run (context.waiting counts log bitstream) =
      (.ok (wait bitstream.available).2,
        context.waiting counts.waited log (bitstream.offered (wait bitstream.available).1)) := by
  subst answered
  exact run_syncOnce_of_sequences
    (show (context.waiting counts log bitstream).session.encoder = _ from same) sync

/-- Waiting in vain for a result that turns out to be too large leaves an empty output buffer. The
induction is on the waits in vain. -/
theorem run_attemptSync_dropped (sync : SyncPoint) {left : Nat} (attempt : Nat)
    {vain : List WaitReply} {large : WaitReply} {counts : CallCounts} (log : Array Event)
    (bitstream : Bitstream) (same : context.session.encoder = replies.encoder others)
    (within : vain.length < left)
    (executing : ∀ wait ∈ vain, ∀ room, (wait room).2 = .ok .inExecution)
    (tooLarge : ∀ room, ∃ needed available,
      (large room).2 = .error (.notEnoughBuffer needed available))
    (answered : ∀ (k : Nat) (wait : WaitReply), (vain ++ [large])[k]? = some wait →
      replies.waits (counts.waits + k) = wait) :
    ∃ (log' : Array Event) (bitstream' : Bitstream),
      (attemptSync sync left attempt).run (context.waiting counts log bitstream)
        = (.ok false, context.waiting (counts + ⟨0, 0, vain.length + 1⟩) log' bitstream'.clear) ∧
      bitstream'.capacity = bitstream.capacity := by
  induction vain generalizing counts log bitstream left attempt with
  | nil =>
    obtain ⟨left, rfl⟩ : ∃ more, left = more + 1 := ⟨left - 1, by omega⟩
    obtain ⟨needed, available, refused⟩ := tooLarge bitstream.available
    have one := run_syncOnce_waiting sync log bitstream same (answered 0 large rfl)
    rw [refused] at one
    rw [attemptSync, run_bind_ok one]
    exact ⟨_, _, rfl, Bitstream.capacity_offered _ _⟩
  | cons wait vain ih =>
    obtain ⟨left, rfl⟩ : ∃ more, left = more + 1 := ⟨left - 1, by omega⟩
    have none_yet := executing wait List.mem_cons_self bitstream.available
    have one := run_syncOnce_waiting sync log bitstream same (answered 0 wait rfl)
    rw [none_yet] at one
    have further : ∀ (k : Nat) (reply : WaitReply), (vain ++ [large])[k]? = some reply →
        replies.waits (counts.waited.waits + k) = reply := by
      intro k reply nth
      rw [← answered (k + 1) reply nth]
      exact congrArg replies.waits (Nat.succ_add_eq_add_succ _ _)
    obtain ⟨log', bitstream', ran, capacity⟩ := ih (attempt + 1)
      (log.push (.stillExecuting sync attempt)) (bitstream.offered (wait bitstream.available).1)
      (Nat.lt_of_succ_lt_succ within) (fun wait mem => executing wait (List.mem_cons_of_mem _ mem))
      further
    refine ⟨log', bitstream', ?_, capacity.trans (Bitstream.capacity_offered _ _)⟩
    rw [attemptSync, run_bind_ok one]
    refine ran.trans ?_
    have counts_eq : counts.waited + ⟨0, 0, vain.length + 1⟩
        = counts + ⟨0, 0, (wait :: vain).length + 1⟩ :=
      congrArg (CallCounts.mk _ _) (Nat.succ_add_eq_add_succ _ _)
    rw [counts_eq]

/-- A reply after which a frame is dropped leaves the output buffer empty if it was. -/
theorem run_settle_drops (same : context.session.encoder = replies.encoder others)
    (drops : Drops context.options.sync reply waits)
    (answered : ∀ (k : Nat) (wait : WaitReply), waits[k]? = some wait →
      replies.waits (context.counts.waits + k) = wait)
    {idle : Bitstream} (empty : idle.size = 0) (alike : idle.Alike context.bitstream) :
    ∃ (progress : Progress) (log : Array Event) (bitstream : Bitstream),
      (settle false reply).run context
        = (.ok progress, context.waiting (context.counts + ⟨0, 0, waits.length⟩) log bitstream) ∧
      idle.Alike bitstream ∧ (progress = .made ∨ progress = .stalled) := by
  cases drops with
  | noRoom | lost | busy => exact ⟨.stalled, _, context.bitstream, rfl, alike, .inr rfl⟩
  | unwaited => exact ⟨.stalled, _, context.bitstream, rfl, alike, .inr rfl⟩
  | wanting => exact ⟨.made, _, context.bitstream, rfl, alike, .inl rfl⟩
  | @tooLarge sync vain last within executing large =>
    obtain ⟨log, bitstream, ran, capacity⟩ := run_attemptSync_dropped sync 1 context.log
      context.bitstream same within executing large answered
    refine ⟨.made, log, bitstream.clear, ?_, .idle empty (capacity.trans alike.capacity), .inl rfl⟩
    have synced : (synchronize sync).run context = (.ok false, _) :=
      (run_bind_ok (run_get context)).trans ran
    show (complete sync).run context = _
    rw [complete_eq, run_bind_ok synced, List.length_append]
    rfl

/-- The round of a frame that is dropped: its reply, and the waits it takes. -/
theorem round_drops_run {index : Nat} (same : context.session.encoder = replies.encoder others)
    (left : FramesLeft context (frames + 1) failure) (free : context.pool.findFree = some index)
    (drops : Drops context.options.sync reply waits)
    (answered : replies.surfaces context.counts.surfaces = reply)
    (answered' : ∀ (k : Nat) (wait : WaitReply), waits[k]? = some wait →
      replies.waits (context.counts.waits + k) = wait)
    {idle : Bitstream} (empty : idle.size = 0) (alike : idle.Alike context.bitstream)
    (reading : loop.draining = false) :
    ∃ data source log bitstream, (round loop).run context = (.ok (.next loop),
        { context.waiting (context.counts + ⟨1, 0, waits.length⟩) log bitstream with
          pool := context.pool.withData index data, source }) ∧
      idle.Alike bitstream := by
  obtain ⟨submission, data, source, read, _⟩ := run_readFrame_next left free
  obtain ⟨_, stalled⟩ := loop
  subst reading
  subst answered
  have same : (context.filled index data source).session.encoder = replies.encoder others := same
  have made : (nextSubmission false).run context =
      (.ok (replies.reply context.counts false, false),
        (context.filled index data source).counted (context.counts.submitted false)) := by
    rw [nextSubmission, if_neg Bool.false_ne_true, run_bind_ok read]
    exact run_submit_pair same (some submission) false
  obtain ⟨progress, log, bitstream, acted, alike, goes_on⟩ := run_settle_drops
    (show ((context.filled index data source).counted
      (context.counts.submitted false)).session.encoder = _ from same) drops answered' empty alike
  obtain ⟨log', ends⟩ := run_endRound_log ⟨false, stalled⟩ false progress
    ((context.filled index data source).waiting (context.counts + ⟨1, 0, waits.length⟩) log
      bitstream)
  have next : ∀ policy, (⟨false, stalled⟩ : LoopState).after policy false progress
      = .next ⟨false, stalled⟩ := by
    rcases goes_on with rfl | rfl <;> exact fun _ => rfl
  refine ⟨data, source, log', bitstream, ?_, alike⟩
  rw [next] at ends
  exact (run_bind_ok made).trans ((run_bind_ok acted).trans ends)

end EncodeM

namespace Twins

open EncodeM

variable {twins : Twins τ}

/-- The same encoders where one is so far ahead of the other. -/
def further (twins : Twins τ) (ahead bound : CallCounts) : Twins τ := { twins with ahead, bound }

namespace Alongside

/-- No further reply has to be the same to stay side by side. -/
theorem rest (alongside : twins.Alongside context other) :
    (twins.further twins.ahead context.counts).Alongside context other where
  encoder_eq := alongside.encoder_eq
  fixed := alongside.fixed
  resumes := .none
  beside := alongside.beside

/-- A run that drops a frame stands beside one that was not given it. -/
theorem drops {index : Nat} (alongside : twins.Alongside context other)
    (level : twins.ahead = .zero) (empty : context.bitstream.size = 0)
    (reading : loop.draining = false) (left : FramesLeft other (frames + 1) failure)
    (free : other.pool.findFree = some index) (drops : Drops context.options.sync reply waits)
    (answered : twins.later.surfaces context.counts.surfaces = reply)
    (answered' : ∀ (k : Nat) (wait : WaitReply), waits[k]? = some wait →
      twins.later.waits (context.counts.waits + k) = wait)
    (resumes : twins.replies.Resumes twins.later ⟨1, 0, waits.length⟩ context.counts bound) :
    ∃ last, (EncodeM.round loop).run other = (.ok (.next loop), last) ∧
      (twins.further ⟨1, 0, waits.length⟩ bound).Alongside context last ∧
      FramesLeft last frames failure := by
  have counts : other.counts = context.counts := by rw [alongside.counts, level]; rfl
  have same := alongside.other_encoder_eq
  have options := alongside.options
  obtain ⟨encoder_eq, fixed, _, _, buffer, bitstream, _, beside, alike⟩ := alongside
  obtain ⟨data, source, log, bitstream', ran, alike⟩ := round_drops_run same left free
    (options ▸ drops) (counts ▸ answered) (counts ▸ answered') empty
    (show context.bitstream.Alike other.bitstream from beside ▸ alike) reading
  obtain ⟨leads, _⟩ := round_leads same (options ▸ fixed) (fun _ => left) ran
  refine ⟨_, ran, ⟨encoder_eq, fixed, resumes, source, (other.pool.withData index data).buffer,
    bitstream', log, ?_, alike⟩, ?_⟩
  · rw [counts]
    subst beside
    rfl
  · exact (leads.next reading).2.1

end Alongside

/-- Beside an encoder the same one into whose replies some are put. -/
def inserting (others : Encoder τ) (replies : ReplySequences) (surface : Nat)
    (reply : Except EncoderError SubmitStatus) (wait : Nat) (waits : List WaitReply)
    (ahead bound : CallCounts) : Twins τ where
  others := others
  replies := replies
  later := replies.inserting surface reply wait waits
  ahead := ahead
  bound := bound

section Inserting

variable {surface wait more stalled : Nat} {outcome : Except (Failure EncodeError) StopReason}

/-- A loop comes to the same if it starts with a frame that is dropped, in one more round. -/
theorem runRounds_dropping
    (alongside : (inserting others replies surface reply wait waits .zero bound).Alongside context
      other)
    (drops : Drops context.options.sync reply waits) (empty : context.bitstream.size = 0)
    (left : FramesLeft context frames failure) (left' : FramesLeft other (frames + 1) failure)
    (place : context.counts.surfaces = surface) (place' : context.counts.waits = wait)
    (ran : (runRounds (more + 1) ⟨false, stalled⟩).run context = (outcome, last)) :
    ∃ ahead last', (runRounds (more + 2) ⟨false, stalled⟩).run other = (outcome, last') ∧
      (inserting others replies surface reply wait waits ahead last.counts).Alongside last
        last' := by
  have pool := alongside.pool
  cases free : context.pool.findFree with
  | none =>
    have fails : (round ⟨false, stalled⟩).run context
        = (.error (.error (.noFreeSurface context.pool.size)), context) :=
      run_bind_error (run_bind_error (run_readFrame_none free))
    have fails' : (round ⟨false, stalled⟩).run other
        = (.error (.error (.noFreeSurface context.pool.size)), other) :=
      pool.2 ▸ run_bind_error (run_bind_error (run_readFrame_none (pool.1.trans free)))
    rw [run_runRounds_succ, fails] at ran
    cases ran
    exact ⟨.zero, other, by rw [run_runRounds_succ, fails'], alongside.rest⟩
  | some index =>
    obtain ⟨middle, one, alongside, left'⟩ := alongside.drops rfl empty
      (show (⟨false, stalled⟩ : LoopState).draining = false from rfl) left' (pool.1.trans free)
      drops
      (show insertAt _ _ _ (context.counts.surfaces + 0) = reply from place ▸ insertAt_add rfl)
      (fun _ _ nth => place' ▸ insertAt_add nth)
      (.behind (Nat.le_of_eq place.symm) (Nat.le_of_eq place'.symm))
    obtain ⟨last', ran', alongside⟩ := alongside.runRounds (fun _ => ⟨left, left'⟩) ran
      (CallCounts.le_refl last.counts)
    exact ⟨_, last', by rw [run_runRounds_succ, one]; exact ran', alongside⟩

/-- A loop comes to the same with one more frame, and one more round, if the frame is dropped. The
induction is on the rounds before it. -/
theorem runRounds_inserting {flushes rounds : Nat}
    (alongside : (inserting others replies surface reply wait waits .zero
      ⟨surface, flushes, wait⟩).Alongside context other)
    (drops : Drops context.options.sync reply waits) (empty : context.bitstream.size = 0)
    (left : FramesLeft context frames failure) (left' : FramesLeft other (frames + 1) failure)
    (place : context.counts.surfaces + rounds = surface)
    (place' : ((runRounds rounds ⟨false, stalled⟩).run context).2.counts.waits = wait)
    (ran : (runRounds (rounds + (more + 1)) ⟨false, stalled⟩).run context = (outcome, last))
    (reached : surface ≤ last.counts.surfaces) (within : last.counts.flushes ≤ flushes) :
    ∃ ahead last', (runRounds (rounds + (more + 2)) ⟨false, stalled⟩).run other
        = (outcome, last') ∧
      (inserting others replies surface reply wait waits ahead last.counts).Alongside last
        last' := by
  induction rounds generalizing context other frames with
  | zero =>
    rw [Nat.zero_add] at ran ⊢
    exact runRounds_dropping alongside drops empty left left' place place' ran
  | succ rounds ih =>
    have encoder_eq := alongside.encoder_eq
    have fixed := alongside.fixed
    -- the frame comes after this round, so there is one for it
    obtain ⟨frames, rfl⟩ : ∃ more, frames = more + 1 := by
      refine Nat.exists_eq_succ_of_ne_zero fun none => ?_
      have surfaces := (runRounds_surfaces_le encoder_eq fixed (fun _ => left) ran).2 (.inr none)
      omega
    rw [Nat.add_right_comm rounds 1, run_runRounds_succ] at ran ⊢
    rw [run_runRounds_succ] at place'
    cases one : (round ⟨false, stalled⟩).run context with
    | mk result middle =>
      obtain ⟨leads, same, options⟩ := round_leads encoder_eq fixed (fun _ => left) one
      rw [one] at ran place'
      have both : (⟨false, stalled⟩ : LoopState).draining = false →
          FramesLeft context (frames + 1) failure ∧ FramesLeft other (frames + 1 + 1) failure ∧
            (frames + 1 = 0 ↔ frames + 1 + 1 = 0) :=
        fun _ => ⟨left, left', by omega⟩
      have ends : middle.counts.surfaces ≤ context.counts.surfaces + 1 →
          middle.counts.flushes ≤ flushes → middle.counts.waits ≤ wait →
          ∃ middle', (round ⟨false, stalled⟩).run other = (result, middle') ∧
            (inserting others replies surface reply wait waits .zero
              ⟨surface, flushes, wait⟩).Alongside middle middle' :=
        fun surfaces flushes waits => alongside.round both one
          ⟨show middle.counts.surfaces ≤ surface by omega, flushes, waits⟩
      cases leads with
      | fails le _ =>
        cases ran
        obtain ⟨last', one', alongside⟩ := ends le within (Nat.le_of_eq place')
        exact ⟨.zero, last', by rw [one'], alongside.rest⟩
      | stops le _ =>
        cases ran
        obtain ⟨last', one', alongside⟩ := ends le within (Nat.le_of_eq place')
        exact ⟨.zero, last', by rw [one'], alongside.rest⟩
      | flushed none => rcases none with none | none <;> cases none
      | reads _ frames_eq more surfaces empty' =>
        obtain rfl := Nat.succ.inj frames_eq
        have fixed := options ▸ fixed
        obtain ⟨_, _, counts⟩ := (counting_runRounds _ _).of_run ran same fixed
        obtain ⟨_, _, counts'⟩ := counting_runRounds rounds ⟨false, stalled⟩ middle same fixed
        obtain ⟨middle', one', alongside'⟩ := ends (Nat.le_of_eq surfaces)
          (Nat.le_trans counts.2.1 within) (Nat.le_trans counts'.2.2 (Nat.le_of_eq place'))
        obtain ⟨leads', _⟩ := round_leads alongside.other_encoder_eq
          (alongside.options ▸ alongside.fixed) (fun _ => left') one'
        rw [one']
        exact ih alongside' (options ▸ drops) (empty' empty) more (leads'.next rfl).2.1 (by omega)
          place' ran

end Inserting

end Twins

end Dropped

/-! ## Whole runs -/

namespace EncodeM

variable {σ : Type} {context : EncodeContext σ} {rounds more : Nat}

/-- A run whose loop makes so many rounds at most. -/
def runWithin (rounds : Nat) : EncodeM σ EncodeSummary := do
  setUp
  finish (← runRounds rounds .start)

/-- A run that has come to its end does the same with more rounds. -/
theorem run_runWithin_of_le
    (ended : ((runWithin rounds).run context).1 ≠ .error (.fault .unfinished))
    (le : rounds ≤ more) : (runWithin more).run context = (runWithin rounds).run context := by
  cases started : setUp.run context with
  | mk outcome ready =>
    cases outcome with
    | error failure => rw [runWithin, runWithin, run_bind_error started, run_bind_error started]
    | ok _ =>
      rw [runWithin, run_bind_ok started] at ended
      rw [runWithin, runWithin, run_bind_ok started, run_bind_ok started]
      cases ran : (runRounds rounds .start).run ready with
      | mk outcome last =>
        have ended : outcome ≠ .error (.fault .unfinished) := by
          rintro rfl
          rw [run_bind_error ran] at ended
          exact ended rfl
        exact run_bind_congr ((run_runRounds_of_le ran ended le).trans ran.symm) finish

/-- A whole run makes as many rounds at most as there may be after set-up. -/
theorem run_wholeRun (context : EncodeContext σ) :
    wholeRun.run context = (runWithin (roundLimit (setUp.run context).2)).run context := by
  cases started : setUp.run context with
  | mk outcome ready =>
    cases outcome with
    | error failure => rw [wholeRun, runWithin, run_bind_error started, run_bind_error started]
    | ok _ =>
      have looped : runLoop.run ready = (runRounds (roundLimit ready) .start).run ready := by
        rw [runLoop, run_bind_ok (run_get ready)]
      rw [wholeRun, runWithin, run_bind_ok started, run_bind_ok started]
      exact run_bind_congr looped finish

/-- So many rounds are within the limit of a run. -/
theorem run_wholeRun_of_ended
    (ended : ((runWithin rounds).run context).1 ≠ .error (.fault .unfinished))
    (le : rounds ≤ 0x4000000000000000) : wholeRun.run context = (runWithin rounds).run context :=
  (run_wholeRun context).trans
    (run_runWithin_of_le ended (Nat.le_trans le (Nat.le_add_left _ _)))

end EncodeM

namespace EncodeContext

variable {σ : Type} {context : EncodeContext σ} {rounds : Nat}

theorem carryOut_congr {steps steps' : EncodeM σ α}
    (same : steps.run context = steps'.run context) :
    context.carryOut steps = context.carryOut steps' := by
  rw [carryOut, carryOut, same]

/-- A run that comes to its end within so many rounds is a whole run. -/
theorem runToEnd_of_ended
    (ended : (context.carryOut (EncodeM.runWithin rounds)).1 ≠ .error (.fault .unfinished))
    (le : rounds ≤ 0x4000000000000000) :
    context.runToEnd = context.carryOut (EncodeM.runWithin rounds) :=
  carryOut_congr (EncodeM.run_wholeRun_of_ended ended le)

end EncodeContext

/-- Two runs come to the same: the same outcome, and the same files, counted and listed alike. -/
structure SameResult {σ : Type}
    (first second : Attempt EncodeError EncodeSummary × EncodeContext σ) : Prop where
  outcome : second.1 = first.1
  store : second.2.store = first.2.store
  framesWritten : second.2.framesWritten = first.2.framesWritten
  outputs : second.2.outputs = first.2.outputs

namespace EncodeContext

/-- The start of a run on an encoder that answers from sequences. -/
def answering (replies : ReplySequences) (others : Encoder τ) (state : τ) (source : Source)
    (options : EncodeOptions) (store : FileStore) (log : Array Event) :
    EncodeContext (τ × CallCounts) :=
  .start (.ofEncoder (replies.encoder others) (state, .zero)) source options store log

/-- How many attempts at collecting a result the first rounds of a run make. -/
def waitsWithin (context : EncodeContext (τ × CallCounts)) (rounds : Nat) : Nat :=
  ((do EncodeM.setUp; EncodeM.runRounds rounds .start).run context).2.counts.waits

variable {replies : ReplySequences} {others : Encoder τ} {context : EncodeContext (τ × CallCounts)}

/-- Dropping the session counts no call. -/
theorem counts_release (same : context.session.encoder = replies.encoder others) :
    context.release.counts = context.counts := by
  obtain ⟨reply, state, closed, events, made⟩ := ReplySequences.common_close.eq same
  have state_eq : context.session.drop.state = context.session.close.state := by
    unfold Session.drop
    dsimp only
    split <;> rfl
  show context.session.drop.state.state.2 = _
  rw [state_eq, made]
  rfl

end EncodeContext

/-- What set-up leaves for the loop. -/
theorem framesLeft_of_setUp {context ready : EncodeContext (τ × CallCounts)}
    {replies : ReplySequences} {others : Encoder τ} {info : FrameInfo} {bytes : Bytes}
    {failure : Option IoError} (same : context.session.encoder = replies.encoder others)
    (ran : EncodeM.setUp.run context = (.ok (), ready)) (sound : info.Sound)
    (geometry : ready.pool.info = info)
    (feeds : context.source.Feeds context.store (MayWrite context.options context.store) bytes
      failure) : FramesLeft ready (bytes.size / info.rawFrameSize) failure := by
  obtain ⟨⟨count, pool⟩, _⟩ := EncodeM.setUp_ready ran
  obtain ⟨_, _, source⟩ := EncodeM.still_setUp.of_run ran same
  have fileless := EncodeM.fileless_setUp.of_run ran
  refine ⟨?_, bytes, ?_, by rw [geometry]⟩
  · rw [pool, geometry]
    exact SurfacePool.sound_allocate sound count
  · rw [source, fileless.store, fileless.options]
    exact feeds

/-- The bytes with others put in at a position. -/
def Bytes.withInserted (bytes inserted : Bytes) (position : Nat) : Bytes :=
  bytes.extract 0 position ++ inserted ++ bytes.extract position bytes.size

section Inserted

variable {replies : ReplySequences} {others : Encoder τ} {state : τ} {source source' : Source}
  {options : EncodeOptions} {store : FileStore} {log : Array Event} {info : FrameInfo}
  {bytes frame : Bytes} {failure : Option IoError} {place : Nat}
  {reply : Except EncoderError SubmitStatus} {waits : List WaitReply}

/-- Bytes with one more frame put in hold one more frame. -/
theorem size_withInserted_div (positive : 0 < info.rawFrameSize)
    (size : frame.size = info.rawFrameSize) (position : Nat) :
    (bytes.withInserted frame position).size / info.rawFrameSize
      = bytes.size / info.rawFrameSize + 1 := by
  have total : (bytes.withInserted frame position).size = bytes.size + info.rawFrameSize := by
    simp only [Bytes.withInserted, Array.size_append, Array.size_extract, size]
    omega
  rw [total, Nat.add_div_right _ positive]

namespace Twins

variable {twins : Twins τ} {last last' : EncodeContext (τ × CallCounts)}

/-- Before either run has made a call they stand side by side. -/
theorem alongside_start (fixed : options.resolutionChange = none) (wait flushes : Nat) :
    (inserting others replies place reply wait waits .zero ⟨place, flushes, wait⟩).Alongside
      (.answering replies others state source options store log)
      (.answering (replies.inserting place reply wait waits) others state source' options store
        log) where
  encoder_eq := rfl
  fixed := fixed
  resumes := .before (Nat.le_refl _) (Nat.le_refl _)
  beside := ⟨source', _, _, _, rfl, rfl, rfl, rfl⟩

/-- Runs that are side by side at their end have come to the same. -/
theorem Alongside.sameResult (alongside : twins.Alongside last last')
    (outcome : Attempt EncodeError EncodeSummary) :
    SameResult (outcome, last.release) (outcome, last'.release) := by
  obtain ⟨_, _, _, _, rfl, _⟩ := alongside.beside
  exact ⟨rfl, rfl, rfl, rfl⟩

end Twins

open EncodeM

theorem counting_loop (rounds : Nat) :
    Keeps (Counting (replies.encoder others)) (runRounds rounds .start) :=
  @Twins.counting_runRounds _ ⟨others, replies, replies, .zero, .zero⟩ rounds .start

theorem counting_runWithin (rounds : Nat) :
    Keeps (Counting (replies.encoder others)) (runWithin rounds) := by
  have quiet : ∀ {α : Type} {steps : EncodeM (τ × CallCounts) α},
      Keeps (Still (replies.encoder others)) steps → Keeps Fileless steps →
        Keeps (Counting (replies.encoder others)) steps := by
    intro α steps still fileless context same fixed
    obtain ⟨same, counts, _⟩ := still context same
    exact ⟨same, (fileless context).options ▸ fixed, counts ▸ CallCounts.le_refl _⟩
  refine .bind Counting.onward (quiet still_setUp fileless_setUp) fun _ => ?_
  exact .bind Counting.onward (counting_loop rounds) fun reason =>
    quiet (still_finish reason) (fileless_finish reason)

/-- Set-up comes to the same. -/
theorem setUp_inserting {ready : EncodeContext (τ × CallCounts)}
    {outcome : Except (Failure EncodeError) Unit} (source' : Source) (place : Nat)
    (reply : Except EncoderError SubmitStatus) (waits : List WaitReply) (wait flushes : Nat)
    (fixed : options.resolutionChange = none)
    (up : setUp.run (.answering replies others state source options store log)
      = (outcome, ready)) :
    ready.counts = .zero ∧ ∃ ready',
      setUp.run (.answering (replies.inserting place reply wait waits) others state source' options
        store log) = (outcome, ready') ∧
      (Twins.inserting others replies place reply wait waits .zero
        ⟨place, flushes, wait⟩).Alongside ready ready' := by
  obtain ⟨_, counts, _⟩ := still_setUp.of_run up rfl
  have counts : ready.counts = .zero := counts
  refine ⟨counts, Twins.mirrored_setUp.run (Twins.alongside_start fixed wait flushes) up ?_⟩
  rw [counts]
  exact ⟨Nat.zero_le _, Nat.zero_le _, Nat.zero_le _⟩

section Geometry

variable (fixed : options.resolutionChange = none) (sound : info.Sound)
  (geometry : ∀ ready,
    setUp.run (EncodeContext.answering replies others state source options store log)
      = (.ok (), ready) → ready.pool.info = info)
  (feeds : source.Feeds store (MayWrite options store) bytes failure)

include fixed sound geometry feeds

/-- A run submits a surface in each round at most. -/
theorem surfaces_runWithin_le (rounds : Nat) :
    ((EncodeContext.answering replies others state source options store log).carryOut
      (runWithin rounds)).2.counts.surfaces ≤ rounds := by
  cases ran : (runWithin rounds).run (.answering replies others state source options store log) with
  | mk outcome last =>
    obtain ⟨same, _⟩ := (counting_runWithin _).of_run ran rfl fixed
    rw [EncodeContext.carryOut, ran]
    show last.release.counts.surfaces ≤ rounds
    rw [EncodeContext.counts_release same]
    obtain ⟨_, ready, up, rest⟩ | ⟨cause, failed, rfl⟩ := run_bind_cases ran
    · obtain ⟨encoder_eq, counts, _⟩ := still_setUp.of_run up rfl
      have counts : ready.counts = .zero := counts
      have fixed : ready.options.resolutionChange = none :=
        (fileless_setUp.of_run up).options ▸ fixed
      have left := framesLeft_of_setUp rfl up sound (geometry ready up) feeds
      have most : ∀ {outcome looped}, (runRounds rounds .start).run ready = (outcome, looped) →
          looped.counts.surfaces ≤ rounds := by
        intro outcome looped looping
        have most := (runRounds_surfaces_le encoder_eq fixed (fun _ => left) looping).1
        rwa [counts, CallCounts.zero, Nat.zero_add] at most
      obtain ⟨reason, looped, looping, finished⟩ | ⟨cause, failed, rfl⟩ := run_bind_cases rest
      · obtain ⟨same, _⟩ := (counting_loop _).of_run looping encoder_eq fixed
        rw [((still_finish reason).of_run finished same).2.1]
        exact most looping
      · exact most failed
    · rw [(still_setUp.of_run failed rfl).2.1]
      exact Nat.zero_le _

variable (drops : Drops options.sync reply waits) (size : frame.size = info.rawFrameSize)
  (feeds' : source'.Feeds store (MayWrite options store)
    (bytes.withInserted frame (place * info.rawFrameSize)) failure)

include drops size feeds'

/-- The loop comes to the same in one more round. -/
theorem loop_inserting {ready looped : EncodeContext (τ × CallCounts)}
    {outcome : Except (Failure EncodeError) StopReason} {more : Nat}
    (up : setUp.run (.answering replies others state source options store log) = (.ok (), ready))
    (ran : (runRounds (place + (more + 1)) .start).run ready = (outcome, looped))
    (reached : place ≤ looped.counts.surfaces) :
    let first := EncodeContext.answering replies others state source options store log
    let later := replies.inserting place reply (first.waitsWithin place) waits
    ∃ ready' ahead looped',
      setUp.run (.answering later others state source' options store log) = (.ok (), ready') ∧
      (runRounds (place + (more + 2)) .start).run ready' = (outcome, looped') ∧
      (Twins.inserting others replies place reply (first.waitsWithin place) waits ahead
        looped.counts).Alongside looped looped' := by
  intro first later
  have waited : ((runRounds place .start).run ready).2.counts.waits = first.waitsWithin place := by
    rw [EncodeContext.waitsWithin, run_bind_ok up]
  obtain ⟨counts, ready', up', alongside⟩ := setUp_inserting source' place reply waits
    (first.waitsWithin place) looped.counts.flushes fixed up
  have info_eq := geometry ready up
  have left := framesLeft_of_setUp rfl up sound info_eq feeds
  have left' := framesLeft_of_setUp rfl up' sound (alongside.info.trans info_eq) feeds'
  rw [size_withInserted_div sound.rawFrameSize_pos size] at left'
  have drops : Drops ready.options.sync reply waits :=
    (fileless_setUp.of_run up).options ▸ drops
  obtain ⟨ahead, looped', ran', alongside⟩ := Twins.runRounds_inserting alongside drops
    (setUp_ready up).2 left left' (by rw [counts]; exact Nat.zero_add place) waited ran reached
    (Nat.le_refl _)
  exact ⟨ready', ahead, looped', up', ran', alongside⟩

/-- A run comes to the same in one more round. -/
theorem run_inserting {last : EncodeContext (τ × CallCounts)}
    {outcome : Except (Failure EncodeError) EncodeSummary} {more : Nat}
    (ran : (runWithin (place + (more + 1))).run
      (.answering replies others state source options store log) = (outcome, last))
    (reached : place ≤ last.counts.surfaces) :
    let first := EncodeContext.answering replies others state source options store log
    let later := replies.inserting place reply (first.waitsWithin place) waits
    ∃ twins last', (runWithin (place + (more + 2))).run
        (.answering later others state source' options store log) = (outcome, last') ∧
      Twins.Alongside twins last last' := by
  intro first later
  obtain ⟨_, ready, up, rest⟩ | ⟨cause, failed, rfl⟩ := run_bind_cases ran
  · obtain ⟨reason, looped, looping, finished⟩ | ⟨cause, failed, rfl⟩ := run_bind_cases rest
    · obtain ⟨same, _⟩ := still_setUp.of_run up rfl
      obtain ⟨same, _⟩ := (counting_loop _).of_run looping same
        ((fileless_setUp.of_run up).options ▸ fixed)
      obtain ⟨_, counts, _⟩ := (still_finish reason).of_run finished same
      obtain ⟨ready', ahead, looped', up', looping', alongside⟩ :=
        loop_inserting fixed sound geometry feeds drops size feeds' up looping (counts ▸ reached)
      obtain ⟨last', finished', alongside⟩ := (Twins.mirrored_finish reason).run alongside finished
        (counts ▸ CallCounts.le_refl looped.counts)
      exact ⟨_, last', (run_bind_ok up').trans ((run_bind_ok looping').trans finished'), alongside⟩
    · obtain ⟨ready', ahead, last', up', failed', alongside⟩ :=
        loop_inserting fixed sound geometry feeds drops size feeds' up failed reached
      exact ⟨_, last', (run_bind_ok up').trans (run_bind_error failed'), alongside⟩
  · obtain ⟨_, last', failed', alongside⟩ := setUp_inserting source' place reply waits
      (first.waitsWithin place) 0 fixed failed
    exact ⟨_, last', run_bind_error failed', alongside⟩

/-- A run within so many rounds. -/
theorem runWithin_inserting {rounds : Nat} (later : place < rounds) :
    let first := EncodeContext.answering replies others state source options store log
    let second := EncodeContext.answering
      (replies.inserting place reply (first.waitsWithin place) waits) others state source' options
      store log
    place ≤ (first.carryOut (runWithin rounds)).2.counts.surfaces →
    SameResult (first.carryOut (runWithin rounds)) (second.carryOut (runWithin (rounds + 1))) := by
  intro first second reached
  obtain ⟨more, rfl⟩ : ∃ more, rounds = place + (more + 1) := ⟨rounds - place - 1, by omega⟩
  cases ran : (runWithin (place + (more + 1))).run first with
  | mk outcome last =>
    obtain ⟨same, _⟩ := (counting_runWithin _).of_run ran rfl fixed
    rw [EncodeContext.carryOut, ran] at reached
    have reached : place ≤ last.counts.surfaces := EncodeContext.counts_release same ▸ reached
    obtain ⟨twins, last', ran', alongside⟩ :=
      run_inserting fixed sound geometry feeds drops size feeds' ran reached
    have ran' : (runWithin (place + (more + 1) + 1)).run second = (outcome, last') := ran'
    rw [EncodeContext.carryOut, EncodeContext.carryOut, ran, ran']
    exact alongside.sameResult outcome

end Geometry

/-- Dropping a frame is local. Of two runs one has a frame more to read, put in at some place, and
more replies, to its submission and to the waits for its result, after which it is dropped. If the
other one submits as many surfaces as come before that place, both come to the same: with whatever
number of rounds, one more here than there, and at their end, if there is one within the rounds that
a run has time for. -/
theorem dropping_a_frame_is_local
    (fixed : options.resolutionChange = none) (sound : info.Sound)
    (geometry : ∀ ready,
      setUp.run (EncodeContext.answering replies others state source options store log)
        = (.ok (), ready) → ready.pool.info = info)
    (feeds : source.Feeds store (MayWrite options store) bytes failure)
    (drops : Drops options.sync reply waits) (size : frame.size = info.rawFrameSize)
    (feeds' : source'.Feeds store (MayWrite options store)
      (bytes.withInserted frame (place * info.rawFrameSize)) failure) :
    let first := EncodeContext.answering replies others state source options store log
    let second := EncodeContext.answering
      (replies.inserting place reply (first.waitsWithin place) waits) others state source' options
      store log
    (∀ rounds, place < rounds → place ≤ (first.carryOut (runWithin rounds)).2.counts.surfaces →
      SameResult (first.carryOut (runWithin rounds)) (second.carryOut (runWithin (rounds + 1)))) ∧
    ∀ rounds < 0x3fffffffffffffff,
      (first.carryOut (runWithin rounds)).1 ≠ .error (.fault .unfinished) →
      place ≤ first.runToEnd.2.counts.surfaces → SameResult first.runToEnd second.runToEnd := by
  intro first second
  have within : ∀ rounds, place < rounds →
      place ≤ (first.carryOut (runWithin rounds)).2.counts.surfaces →
      SameResult (first.carryOut (runWithin rounds)) (second.carryOut (runWithin (rounds + 1))) :=
    fun _ later reached =>
      runWithin_inserting fixed sound geometry feeds drops size feeds' later reached
  refine ⟨within, fun rounds few ended reached => ?_⟩
  rw [EncodeContext.runToEnd_of_ended ended (by omega)] at reached ⊢
  have surfaces : (first.carryOut (runWithin rounds)).2.counts.surfaces ≤ rounds :=
    surfaces_runWithin_le fixed sound geometry feeds rounds
  have later : place < rounds + 1 := by omega
  -- with one round more there is one left for the frame put in
  have more := EncodeContext.carryOut_congr (run_runWithin_of_le ended (Nat.le_succ rounds))
  rw [← more] at reached ended ⊢
  have same := within (rounds + 1) later reached
  rw [EncodeContext.runToEnd_of_ended (same.outcome ▸ ended) (by omega)]
  exact same

end Inserted

/-- Every frame is queued and its result, one byte, is there at once. -/
def allDone : ReplySequences where
  surfaces := fun n => .ok (.queued (some ⟨n⟩))
  flushes := fun _ => .ok .moreData
  waits := fun n _ => (#[n.toUInt8], .ok .done)

/-- Pictures of one pixel: three bytes each. -/
def FrameInfo.onePixel : FrameInfo := ⟨⟨25, 1⟩, 0, 0, 1, 1, 2, 2⟩

/-- A scripted encoder for pictures of one pixel. -/
def ScriptedEncoder.ofPixel : ScriptedEncoder :=
  { usual with query := [some (.ok fun params => { params with frameInfo := .onePixel })] }

/-- A run for pictures of one pixel, with three attempts at collecting a result. -/
def pixelRun (replies : ReplySequences) (bytes : Bytes) :
    EncodeContext (ScriptedEncoder × CallCounts) :=
  .answering replies ScriptedEncoder.encoder .ofPixel (.ofBytes bytes)
    { EncodeOptions.ofInput "" 1 1 with sync := ⟨7, 3⟩ } .empty #[]

/-- A result that turns out to be too large after two attempts in vain. -/
def largeAtLast : List WaitReply :=
  [fun _ => (#[], .ok .inExecution), fun _ => (#[20], .ok .inExecution)]
    ++ [fun room => (#[21], .error (.notEnoughBuffer 5 room))]

/-- A frame with such a result between two others is dropped. -/
theorem second_of_three_frames_is_dropped :
    let first := pixelRun allDone #[1, 2, 3, 4, 5, 6, 7]
    let second := pixelRun (allDone.inserting 1 (.ok (.queued (some ⟨9⟩))) 1 largeAtLast)
      #[1, 2, 3, 10, 11, 12, 4, 5, 6, 7]
    SameResult first.runToEnd second.runToEnd ∧ first.runToEnd.2.framesWritten = 2 := by
  intro first second
  have drops : Drops ⟨7, 3⟩ (.ok (.queued (some ⟨9⟩))) largeAtLast := by
    refine .tooLarge (by decide) ?_ fun room => ⟨5, room, rfl⟩
    simp
  have sound : FrameInfo.onePixel.Sound := by constructor <;> decide
  have geometry : ∀ ready, EncodeM.setUp.run first = (.ok (), ready) →
      ready.pool.info = .onePixel := by
    intro ready up
    have info : (EncodeM.setUp.run first).2.pool.info = .onePixel := by decide +kernel
    rwa [up] at info
  have feeds : (Source.ofBytes #[1, 2, 3, 4, 5, 6, 7]).Feeds .empty
      (MayWrite first.options .empty) #[1, 2, 3, 4, 5, 6, 7] none := ⟨rfl, by decide, by decide⟩
  have size : (#[10, 11, 12] : Bytes).size = FrameInfo.onePixel.rawFrameSize := by decide
  have feeds' : (Source.ofBytes #[1, 2, 3, 10, 11, 12, 4, 5, 6, 7]).Feeds .empty
      (MayWrite first.options .empty) (Bytes.withInserted #[1, 2, 3, 4, 5, 6, 7] #[10, 11, 12]
        (1 * FrameInfo.onePixel.rawFrameSize)) none := ⟨rfl, by decide, by decide⟩
  have ended : (first.carryOut (EncodeM.runWithin 3)).1 ≠ .error (.fault .unfinished) := by
    intro unfinished
    have ended : (first.carryOut (EncodeM.runWithin 3)).1.isOk = true := by decide +kernel
    rw [unfinished] at ended
    cases ended
  have whole := EncodeContext.runToEnd_of_ended ended (by decide)
  have reached : 1 ≤ (first.carryOut (EncodeM.runWithin 3)).2.counts.surfaces := by decide +kernel
  have written : (first.carryOut (EncodeM.runWithin 3)).2.framesWritten = 2 := by decide +kernel
  have waited : first.waitsWithin 1 = 1 := by decide +kernel
  rw [← whole] at reached written
  refine ⟨?_, written⟩
  have same : SameResult first.runToEnd (pixelRun (allDone.inserting 1 (.ok (.queued (some ⟨9⟩)))
      (first.waitsWithin 1) largeAtLast) #[1, 2, 3, 10, 11, 12, 4, 5, 6, 7]).runToEnd :=
    (dropping_a_frame_is_local rfl sound geometry feeds drops size feeds').2 3 (by decide) ended
      reached
  rwa [waited] at same

end Nv12Jpeg
