import Nv12Jpeg.Proofs.Encode.Flushes
import Nv12Jpeg.Proofs.Encode.ResolutionChange
import Nv12Jpeg.Proofs.Encode.Settlement

/-!
# The loop comes to its end

Without a resolution change, reading uses the source up, frame by frame, and flushing comes to an
end with the flushes in a row that make no progress.

* `Decides` — what a round leads to, by the reply to its submission;
* `Proceeds` — what holds between two rounds, and `Proceeds.round`, that one more round keeps it;
* `Ends` — how a loop ends;
* `loop_ends` — every loop ends so, after no more than so many rounds.
-/

namespace Nv12Jpeg

variable {σ : Type} {encoder : Encoder σ}

/-! ## What a round makes of a reply -/

/-- What a round leads to, by the reply to its submission. -/
inductive Decides (loop : LoopState) (policy : SyncPolicy) (flush : Bool) :
    Attempt EncoderError SubmitStatus → Except (Failure EncodeError) RoundEnd → Prop
  | stalled {reply : Attempt EncoderError SubmitStatus} (stalls : isStall reply = true) :
      Decides loop policy flush reply (.ok (loop.after policy flush .stalled))
  | nothingLeft :
      Decides loop policy flush (.ok .moreData)
        (.ok (if flush then .stop .drained else loop.after policy flush .made))
  | queued {sync : SyncPoint} {outcome : Except (Failure EncodeError) RoundEnd}
      (leads : outcome = .ok (loop.after policy flush .made) ∨ outcome = .ok (.stop .frameLimit) ∨
        ∃ failure, outcome = .error failure) :
      Decides loop policy flush (.ok (.queued (some sync))) outcome
  | refused {reply : Attempt EncoderError SubmitStatus}
      {outcome : Except (Failure EncodeError) RoundEnd} (moves : isStall reply = false)
      (more : reply ≠ .ok .moreData)
      (leads : outcome = .ok (.stop .unknownStatus) ∨ ∃ failure, outcome = .error failure) :
      Decides loop policy flush reply outcome

namespace Decides

variable {loop : LoopState} {policy : SyncPolicy} {flush : Bool}
  {reply : Attempt EncoderError SubmitStatus} {replies : List (Attempt EncoderError SubmitStatus)}

theorem of_judged {result : Except (Failure EncodeError) Progress}
    (verdict : judged? flush reply = some result) :
    Decides loop policy flush reply (result.map (loop.after policy flush)) := by
  cases reply with
  | ok status =>
    cases status with
    | moreData =>
      cases verdict
      cases flush <;> exact .nothingLeft
    | queued sync =>
      cases sync with
      | some sync => cases verdict
      | none =>
        cases verdict
        exact .stalled rfl
  | error failure =>
    cases failure with
    | fault fault =>
      cases verdict
      exact .refused rfl nofun (.inr ⟨_, rfl⟩)
    | error error =>
      cases error <;> cases verdict <;> first
        | exact .stalled rfl
        | exact .refused rfl nofun (.inl rfl)

/-- A flush after which the loop goes on. -/
theorem flushing {loop' : LoopState} (decides : Decides loop policy true reply (.ok (.next loop')))
    (before : Flushing policy.attempts loop.stalled replies) :
    Flushing policy.attempts loop'.stalled (replies ++ [reply]) := by
  generalize same : (.ok (.next loop') : Except (Failure EncodeError) RoundEnd) = outcome at decides
  cases decides with
  | stalled stalls =>
    rw [LoopState.after, if_pos rfl] at same
    split at same
    · cases same
    · cases same
      exact before.stalled stalls (by omega)
  | nothingLeft => cases same
  | queued leads =>
    rcases leads with rfl | rfl | ⟨_, rfl⟩
    · cases same
      exact before.queued
    · cases same
    · cases same
  | refused _ _ leads => rcases leads with rfl | ⟨_, rfl⟩ <;> cases same

/-- A flush that is the last one. -/
theorem flushed {result : Except (Failure EncodeError) StopReason}
    (decides : Decides loop policy true reply (result.map .stop))
    (before : Flushing policy.attempts loop.stalled replies) :
    Flushed policy.attempts (replies ++ [reply]) result := by
  generalize same : result.map RoundEnd.stop = outcome at decides
  cases decides with
  | stalled stalls =>
    rw [LoopState.after, if_pos rfl] at same
    split at same
    · cases result <;> cases same
      exact .stalled before stalls ‹_›
    · cases result <;> cases same
  | nothingLeft =>
    cases result <;> cases same
    exact .drained before
  | queued leads =>
    refine .other before rfl ?_ ?_ ?_
    · rintro ⟨⟩
    all_goals
      rintro rfl
      rcases leads with rfl | rfl | ⟨_, rfl⟩ <;> cases same
  | refused moves more leads =>
    refine .other before moves more ?_ ?_
    all_goals
      rintro rfl
      rcases leads with rfl | ⟨_, rfl⟩ <;> cases same

/-- A surface was submitted, and the loop goes on. -/
theorem stalled_eq {loop' : LoopState}
    (decides : Decides loop policy false reply (.ok (.next loop'))) :
    loop'.stalled = loop.stalled := by
  generalize same : (.ok (.next loop') : Except (Failure EncodeError) RoundEnd) = outcome at decides
  cases decides with
  | stalled _ =>
    cases same
    rfl
  | nothingLeft =>
    cases same
    rfl
  | queued leads =>
    rcases leads with rfl | rfl | ⟨_, rfl⟩ <;> cases same
    rfl
  | refused _ _ leads => rcases leads with rfl | ⟨_, rfl⟩ <;> cases same

/-- Only a flush can be the last one for having found nothing, or no progress. -/
theorem unflushed {result : Except (Failure EncodeError) StopReason}
    (decides : Decides loop policy false reply (result.map .stop)) :
    result ≠ .ok .flushStalled ∧ result ≠ .ok .drained := by
  generalize same : result.map RoundEnd.stop = outcome at decides
  constructor
  all_goals
    rintro rfl
    cases decides with
    | stalled _ => cases same
    | nothingLeft => cases same
    | queued leads => rcases leads with rfl | rfl | ⟨_, rfl⟩ <;> cases same
    | refused _ _ leads => rcases leads with rfl | ⟨_, rfl⟩ <;> cases same

end Decides

/-! ## Rounds without a change -/

section Proceeds

variable {first context ready last : EncodeContext (σ × List Entry)}

theorem Alike.trans (h : Alike first context) (h' : Alike context last) : Alike first last where
  options := h'.options.trans h.options
  changed := by
    have written := h'.changed
    rw [h.options, mayWrite_congr h.changed] at written
    exact written.trans h.changed
  params := h'.params.trans h.params
  info := h'.info.trans h.info
  buffer := h'.buffer.trans h.buffer
  poolSize := h'.poolSize.trans h.poolSize
  resets := h'.resets.trans h.resets

theorem Alike.sound (alike : Alike first context) (sound : first.pool.Sound) :
    context.pool.Sound where
  info := alike.info ▸ sound.info
  size_eq := by rw [alike.buffer, alike.info, alike.poolSize, sound.size_eq]

theorem Unwritten.alike (unwritten : Unwritten context last) : Alike context last where
  options := unwritten.options
  changed := unwritten.store ▸ .refl _
  params := unwritten.params
  info := unwritten.info
  buffer := congrArg Array.size unwritten.buffer
  poolSize := unwritten.size
  resets := unwritten.resets

/-- A file of a frame was written, or the run failed over it. -/
structure Wrote (context last : EncodeContext (σ × List Entry))
    (outcome : Except (Failure EncodeError) Progress) : Prop where
  alike : Alike context last
  source : last.source = context.source
  fault : ∀ fault, outcome = .error (.fault fault) →
    fault = .sizeOverflow ∧ 0x100000000 ≤ last.framesWritten + 1

namespace EncodeM

theorem nextFrame_eq_error {frames : Nat} {fault : Fault}
    (failed : nextFrame frames = .error fault) :
    fault = .sizeOverflow ∧ 0x100000000 ≤ frames + 1 := by
  unfold nextFrame at failed
  split at failed
  · cases failed
  · cases failed
    exact ⟨rfl, by omega⟩

/-- The only fault in writing a result is that it cannot be counted. -/
theorem writeOutput_fault {fault : Fault}
    (failed : writeOutput.run context = (.error (.fault fault), last)) :
    fault = .sizeOverflow ∧ 0x100000000 ≤ last.framesWritten + 1 := by
  obtain ⟨_, next, ended⟩ | ⟨_, _, ended⟩ | ⟨_, _, _, _, _, ⟨_, _, ended⟩ | ⟨_, _, ended⟩⟩ :=
    writeOutput_cases context
  all_goals
    rw [ended] at failed
    cases failed
  exact nextFrame_eq_error next

/-- Without a change that is due, all that follows on a result is its file. -/
theorem conclude_wrote {outcome : Except (Failure EncodeError) Progress}
    (fixed : context.options.resolutionChange = none)
    (ran : conclude.run context = (outcome, last)) : Wrote context last outcome := by
  rcases run_bind_cases ran with ⟨⟨⟩, written, wrote, ran⟩ | ⟨failure, failed, rfl⟩
  · have writes := writesOnly_writeOutput.of_run wrote
    rw [run_bind_ok (run_applyDueChange_none (writes.options ▸ fixed)),
      run_bind_ok (run_get written)] at ran
    obtain ⟨rfl, rfl⟩ := Prod.mk.inj ran
    exact ⟨writes.alike, writes.source, nofun⟩
  · have writes := writesOnly_writeOutput.of_run failed
    refine ⟨writes.alike, writes.source, fun fault same => ?_⟩
    cases same
    exact writeOutput_fault failed

end EncodeM

/-- What a round does once it has something to submit: its submission decides where it leads, and
if it comes to a stop, then that of the encoder, or 32 bits cannot count the files. -/
structure Submits (loop : LoopState) (context last : EncodeContext (σ × List Entry))
    (outcome : Except (Failure EncodeError) RoundEnd) (submission : Option Submission)
    (reply : Attempt EncoderError SubmitStatus) (rest : List Turn)
    (ready : EncodeContext (σ × List Entry)) : Prop where
  offers : EncodeM.Offers loop.draining context submission ready
  others : ∀ turn ∈ rest, turn.isSubmit = false
  decides : Decides loop context.options.sync submission.isNone reply outcome
  alike : Alike ready last
  source : last.source = ready.source
  fault : ∀ fault, outcome = .error (.fault fault) →
    reply = .error (.fault fault) ∨
    (∃ sync waitMs, .sync sync waitMs (.error (.fault fault)) ∈ rest) ∨
    (fault = .sizeOverflow ∧ 0x100000000 ≤ last.framesWritten + 1)

theorem judged?_eq_fault {flush : Bool} {reply : Attempt EncoderError SubmitStatus} {fault : Fault}
    (verdict : judged? flush reply = some (.error (.fault fault))) :
    reply = .error (.fault fault) := by
  cases reply with
  | ok status =>
    cases status with
    | moreData => cases verdict
    | queued sync => cases sync <;> cases verdict
  | error failure =>
    cases failure with
    | fault fault =>
      cases verdict
      rfl
    | error error => cases error <;> cases verdict

/-- A wait comes to a stop only with the encoder. -/
theorem Awaits.mem_of_fault {policy : SyncPolicy} {sync : SyncPoint} {left total : Nat}
    {turns : List Turn} {fault : Fault}
    (awaits : Awaits policy sync left total turns (.error (.fault fault))) :
    .sync sync policy.waitMs (.error (.fault fault)) ∈ turns := by
  cases awaits with
  | settled _ verdict =>
    rcases failed_of_verdict verdict with ⟨_, _, _, stop⟩ | ⟨_, rfl, stop⟩
    · cases stop
    · cases stop
      exact List.mem_append_right _ (List.mem_singleton.2 rfl)

/-- A round without a change that is due makes its submission, or fails before it. -/
theorem Plays.submits {loop : LoopState} {calls : List Turn}
    {outcome : Except (Failure EncodeError) RoundEnd}
    (plays : Plays loop context last calls outcome)
    (fixed : context.options.resolutionChange = none) :
    (calls = [] ∧ loop.draining = false ∧ ∃ failure, outcome = .error failure ∧
      EncodeM.readFrame.run context = (.error failure, last)) ∨
    ∃ submission reply rest ready, calls = .submit submission reply :: rest ∧
      Submits loop context last outcome submission reply rest ready := by
  cases plays with
  | unoffered reading fails => exact .inl ⟨rfl, reading, _, rfl, fails⟩
  | @judged submission ready reply result offers verdict unwritten =>
    refine .inr ⟨submission, reply, [], ready, rfl, offers, List.forall_mem_nil _,
      .of_judged verdict, unwritten.alike, unwritten.source, fun fault stop => .inl ?_⟩
    cases result <;> cases stop
    exact judged?_eq_fault verdict
  | @waited submission ready sync turns found offers awaits nothing unwritten =>
    refine .inr ⟨submission, _, turns, ready, rfl, offers, awaits.not_isSubmit, .queued ?_,
      unwritten.alike, unwritten.source, fun fault stop => .inr (.inl ?_)⟩
    · cases found with
      | ok _ => exact .inl rfl
      | error failure => exact .inr (.inr ⟨failure, rfl⟩)
    · cases found <;> cases stop
      exact ⟨_, _, awaits.mem_of_fault⟩
  | @collected submission ready waited concluded sync turns others result offers awaits unwritten
      concludes ends idle =>
    have options := unwritten.options.trans offers.unchanged.2.1
    obtain ⟨alike, source, fault⟩ := EncodeM.conclude_wrote (options ▸ fixed) concludes
    refine .inr ⟨submission, _, turns ++ others, ready, rfl, offers, ?_, .queued ?_,
      (unwritten.alike.trans alike).trans ends.alike,
      (ends.source.trans source).trans unwritten.source, fun fault' stop => .inr (.inr ?_)⟩
    · exact List.forall_mem_append.2
        ⟨awaits.not_isSubmit, fun turn mem => Turn.isSubmit_of_isWork (idle turn mem)⟩
    · cases result with
      | ok progress =>
        rcases EncodeM.conclude_ok concludes with rfl | rfl
        · exact .inl rfl
        · exact .inr (.inl rfl)
      | error failure => exact .inr (.inr ⟨failure, rfl⟩)
    · cases result <;> cases stop
      rw [ends.framesWritten]
      exact fault fault' rfl

/-- The fault with which the encoder came to a stop in a submission or a wait. -/
def Turn.fault? : Turn → Option Fault
  | .submit _ (.error (.fault fault)) => some fault
  | .sync _ _ (.error (.fault fault)) => some fault
  | _ => none

/-- What holds between two rounds: the surfaces submitted so far were filled from the source, the
flushes so far are those of a loop that goes on, and each round has made one submission. -/
structure Proceeds (encoder : Encoder σ) (first : EncodeContext (σ × List Entry)) (count : Nat)
    (loop : LoopState) (context : EncodeContext (σ × List Entry)) (turns : List Turn) : Prop where
  adds : Adds encoder first context turns
  alike : Alike first context
  draws : Draws first.options first.store first.pool.info first.source (submittedIn turns)
    context.source
  flushing : Flushing first.options.sync.attempts loop.stalled (flushReplies turns)
  count_eq : (submittedIn turns).length + (flushReplies turns).length = count

/-- What holds after a round, whatever it leads to. -/
structure Advances (encoder : Encoder σ) (first : EncodeContext (σ × List Entry)) (count : Nat)
    (outcome : Except (Failure EncodeError) RoundEnd) (last : EncodeContext (σ × List Entry))
    (turns : List Turn) : Prop where
  adds : Adds encoder first last turns
  draws : ∃ source, Draws first.options first.store first.pool.info first.source
    (submittedIn turns) source
  next : ∀ loop, outcome = .ok (.next loop) → Proceeds encoder first (count + 1) loop last turns
  stop : ∀ result, outcome = result.map .stop →
    Flushed first.options.sync.attempts (flushReplies turns) result
  fault : ∀ fault, outcome = .error (.fault fault) →
    (∃ turn ∈ turns, turn.fault? = some fault) ∨
    (fault = .sizeOverflow ∧ 0x100000000 ≤ last.framesWritten + 1)

theorem submittedIn_of_others {turns : List Turn}
    (others : ∀ turn ∈ turns, turn.isSubmit = false) :
    submittedIn turns = [] := by
  refine List.filterMap_eq_nil_iff.2 fun turn mem => ?_
  have other := others turn mem
  cases turn <;> first | rfl | cases other

theorem flushReplies_of_others {turns : List Turn}
    (others : ∀ turn ∈ turns, turn.isSubmit = false) :
    flushReplies turns = [] := by
  refine List.filterMap_eq_nil_iff.2 fun turn mem => ?_
  have other := others turn mem
  cases turn <;> first | rfl | cases other

namespace Submits

variable {loop : LoopState} {outcome : Except (Failure EncodeError) RoundEnd}
  {submission : Option Submission} {reply : Attempt EncoderError SubmitStatus} {rest : List Turn}

/-- The surface of a round is that of its submission. -/
theorem submittedIn_eq (submits : Submits loop context last outcome submission reply rest ready) :
    submittedIn (.submit submission reply :: rest) = submission.toList := by
  have none_else := submittedIn_of_others submits.others
  unfold submittedIn at none_else ⊢
  cases submission <;> simp [List.filterMap_cons, Turn.submission?, none_else]

/-- The flush of a round is its submission without a surface. -/
theorem flushReplies_eq (submits : Submits loop context last outcome submission reply rest ready) :
    flushReplies (.submit submission reply :: rest)
      = if submission.isNone then [reply] else [] := by
  have none_else := flushReplies_of_others submits.others
  unfold flushReplies at none_else ⊢
  cases submission <;> simp [List.filterMap_cons, Turn.flushReply?, none_else]

end Submits

namespace Proceeds

variable {count : Nat} {loop : LoopState} {turns : List Turn} {bytes : Bytes}
  {failure : Option IoError}

theorem start (same : first.session.encoder = encoder.recorded) :
    Proceeds encoder first 0 .start first [] :=
  ⟨.of_session same rfl, .refl first, .start, .start, rfl⟩

/-- Reading a frame does not come to a stop. -/
theorem readFrame_ne_fault (proceeds : Proceeds encoder first count loop context turns)
    (sound : first.pool.Sound)
    (feeds : first.source.Feeds first.store (MayWrite first.options first.store) bytes failure)
    {fault : Fault} : EncodeM.readFrame.run context ≠ (.error (.fault fault), last) := by
  obtain ⟨_, rest, feeds, _⟩ := proceeds.draws.frames sound.info feeds
  have feeds := feeds.of_changedAt proceeds.alike.changed
  have sound := proceeds.alike.sound sound
  intro stop
  cases free : context.pool.findFree with
  | none =>
    rw [EncodeM.readFrame, EncodeM.run_bind_ok (EncodeM.run_get context), free] at stop
    cases stop
  | some index =>
    rcases Nat.lt_or_ge rest.size context.pool.info.rawFrameSize with short | enough
    · obtain ⟨_, _, read, _⟩ := EncodeM.run_readFrame_short free feeds sound short
      rw [read] at stop
      cases failure <;> cases stop
    · obtain ⟨_, _, read, _⟩ := EncodeM.run_readFrame_complete free feeds sound enough
      rw [read] at stop
      cases stop

/-- One more round, whatever it leads to. -/
theorem round {outcome : Except (Failure EncodeError) RoundEnd}
    (proceeds : Proceeds encoder first count loop context turns)
    (fixed : first.options.resolutionChange = none) (sound : first.pool.Sound)
    (feeds : first.source.Feeds first.store (MayWrite first.options first.store) bytes failure)
    (ran : (EncodeM.round loop).run context = (outcome, last)) :
    ∃ calls, Advances encoder first count outcome last (turns ++ calls) := by
  have unread : ∀ fault, EncodeM.readFrame.run context ≠ (.error (.fault fault), last) :=
    fun _ => proceeds.readFrame_ne_fault sound feeds
  obtain ⟨adds, alike, draws, flushing, count_eq⟩ := proceeds
  obtain ⟨calls, added, _, plays⟩ := EncodeM.round_plays adds.encoder_eq ran
  refine ⟨calls, ?_⟩
  rcases plays.submits (alike.options ▸ fixed) with
    ⟨rfl, _, _, rfl, fails⟩ | ⟨submission, reply, rest, ready, rfl, submits⟩
  · -- without a submission there is no further flush, and no next round
    refine ⟨adds.trans added, ?_, nofun, ?_, ?_⟩
    · rw [List.append_nil]
      exact ⟨_, draws⟩
    · intro result same
      cases result <;> cases same
      rw [List.append_nil]
      exact .reading flushing nofun nofun
    · intro fault same
      cases same
      exact absurd fails (unread fault)
  · have decides := submits.decides
    rw [alike.options] at decides
    have size_eq := (alike.sound sound).size_eq
    have drawn := submits.offers.draws alike.changed alike.info size_eq draws
    rw [← submits.submittedIn_eq, ← submittedIn_append] at drawn
    refine ⟨adds.trans added, ⟨_, drawn⟩, ?_, ?_, ?_⟩
    · -- a flush adds to the count or clears it, a surface leaves it as it is
      rintro loop' rfl
      refine ⟨adds.trans added, (alike.trans (.of_offers submits.offers)).trans submits.alike,
        submits.source ▸ drawn, ?_, ?_⟩
      · rw [flushReplies_append, submits.flushReplies_eq]
        cases submission with
        | none => exact decides.flushing flushing
        | some _ =>
          rw [decides.stalled_eq]
          simpa using flushing
      · rw [submittedIn_append, flushReplies_append, submits.submittedIn_eq,
          submits.flushReplies_eq]
        cases submission <;> simp <;> omega
    · rintro result rfl
      rw [flushReplies_append, submits.flushReplies_eq]
      cases submission with
      | none => exact decides.flushed flushing
      | some _ =>
        obtain ⟨unstalled, undrained⟩ := decides.unflushed
        simpa using Flushed.reading flushing unstalled undrained
    · intro fault stop
      rcases submits.fault fault stop with rfl | ⟨sync, waitMs, mem⟩ | overflow
      · exact .inl ⟨_, List.mem_append_right _ List.mem_cons_self, rfl⟩
      · exact .inl ⟨_, List.mem_append_right _ (List.mem_cons_of_mem _ mem), rfl⟩
      · exact .inr overflow

end Proceeds

/-- Between any two rounds. -/
theorem Reached.proceeds {count : Nat} {loop : LoopState} {bytes : Bytes} {failure : Option IoError}
    (reached : Reached first count loop context)
    (same : first.session.encoder = encoder.recorded)
    (fixed : first.options.resolutionChange = none) (sound : first.pool.Sound)
    (feeds : first.source.Feeds first.store (MayWrite first.options first.store) bytes failure) :
    ∃ turns, Proceeds encoder first count loop context turns := by
  induction reached with
  | start => exact ⟨[], .start same⟩
  | next _ ran ih =>
    obtain ⟨turns, proceeds⟩ := ih
    obtain ⟨calls, advances⟩ := proceeds.round fixed sound feeds ran
    exact ⟨turns ++ calls, advances.next _ rfl⟩

/-! ## The end of the loop -/

/-- Whether a result is asked for. -/
def Turn.isSync : Turn → Bool
  | .sync _ _ _ => true
  | _ => false

/-- The calls from a submission to the next one, which are these waits and others. -/
theorem countP_isSync_append_le {waits others next : List Turn}
    (waiting : ∀ turn ∈ waits, turn.isSubmit = false) (idle : ∀ turn ∈ others, turn.isWork = false)
    (opens : Opens next) :
    ((waits ++ (others ++ next)).takeWhile (!·.isSubmit)).countP Turn.isSync ≤ waits.length := by
  have none_more : next.takeWhile (!·.isSubmit) = [] := by
    rcases opens with rfl | ⟨_, _, _, rfl⟩ <;> rfl
  rw [List.takeWhile_append_of_pos (by simpa using waiting), List.takeWhile_append_of_pos
    (by simpa using fun turn mem => Turn.isSubmit_of_isWork (idle turn mem)), none_more,
    List.append_nil, List.countP_append]
  have no_wait : others.countP Turn.isSync = 0 := by
    refine List.countP_eq_zero.2 fun turn mem => ?_
    have other := idle turn mem
    cases turn <;> simp_all [Turn.isSync, Turn.isWork]
  rw [no_wait]
  exact List.countP_le_length

/-- A wait makes as many attempts as there are, at most. -/
theorem Settlement.countP_isSync_le {α : Type} {policy : SyncPolicy} {sync : SyncPoint}
    {outcome : Except (Failure EncodeError) α} {later : List Turn}
    (settlement : Settlement policy sync context last outcome later) :
    (later.takeWhile (!·.isSubmit)).countP Turn.isSync ≤ policy.attempts := by
  -- attempts in vain and one more
  have waits : ∀ {tried reply others next}, tried < policy.attempts →
      (∀ turn ∈ others, turn.isWork = false) → Opens next →
      ((policy.inVain sync tried ++ policy.attempt sync reply :: (others ++ next)).takeWhile
        (!·.isSubmit)).countP Turn.isSync ≤ policy.attempts := by
    intro tried reply others next within idle opens
    have waiting : ∀ turn ∈ policy.inVain sync tried ++ [policy.attempt sync reply],
        turn.isSubmit = false := by
      intro turn mem
      rcases List.mem_append.1 mem with mem | mem
      · exact not_isSubmit_of_mem_inVain mem
      · rw [List.mem_singleton.1 mem]
        rfl
    have count := countP_isSync_append_le waiting idle opens
    rw [List.append_assoc, List.singleton_append, List.length_append, List.length_singleton,
      SyncPolicy.inVain, List.length_replicate] at count
    exact Nat.le_trans count within
  cases settlement with
  | settled settled =>
    obtain ⟨within, _, idle, opens⟩ := settled
    exact waits within idle opens
  | refused within _ _ _ => exact waits within (List.forall_mem_nil _) (.inl rfl)
  | stopped within _ _ => exact waits within (List.forall_mem_nil _) (.inl rfl)
  | timedOut _ _ =>
    refine Nat.le_trans List.countP_le_length ?_
    refine Nat.le_trans (List.takeWhile_prefix _).length_le ?_
    rw [SyncPolicy.inVain, List.length_replicate]

/-- How a loop ends that had so many whole frames to submit, if so many flushes at most were queued
with a sync point. -/
structure Ends (first last : EncodeContext (σ × List Entry)) (frames queued : Nat)
    (outcome : Except (Failure EncodeError) StopReason) (turns : List Turn) : Prop where
  transcript_eq : last.session.transcript = first.session.transcript ++ turns
  surfaces_le : (submittedIn turns).length ≤ frames
  flushes_le : (flushReplies turns).length ≤ (queued + 1) * first.options.sync.attempts
  /-- The attempts at one result, up to the next submission. -/
  waits_le : ∀ {before later : List Turn} {submission : Option Submission} {sync : SyncPoint},
    turns = before ++ .submit submission (.ok (.queued (some sync))) :: later →
    (later.takeWhile (!·.isSubmit)).countP Turn.isSync ≤ first.options.sync.attempts
  flushStalled_iff : outcome = .ok .flushStalled ↔
    ∃ run, run <:+: flushReplies turns ∧ run.length = first.options.sync.attempts ∧
      ∀ reply ∈ run, isStall reply = true
  drained_iff : outcome = .ok .drained ↔ .ok .moreData ∈ flushReplies turns
  /-- The run comes to a stop only with the encoder, or if 32 bits cannot count the files. -/
  fault : ∀ fault, outcome = .error (.fault fault) →
    (∃ turn ∈ turns, turn.fault? = some fault) ∨
    (fault = .sizeOverflow ∧ 0x100000000 ≤ last.framesWritten + 1)

/-- The last round is the end. -/
theorem Reached.ends {count queued : Nat} {loop : LoopState} {bytes : Bytes}
    {failure : Option IoError} {outcome : Except (Failure EncodeError) StopReason}
    (reached : Reached first count loop context)
    (same : first.session.encoder = encoder.recorded)
    (fixed : first.options.resolutionChange = none) (sound : first.pool.Sound)
    (feeds : first.source.Feeds first.store (MayWrite first.options first.store) bytes failure)
    (few : ∀ turns, last.session.transcript = first.session.transcript ++ turns →
      (flushReplies turns).countP hasSyncPoint ≤ queued)
    (ended : (EncodeM.round loop).run context = (outcome.map .stop, last)) :
    ∃ turns, Ends first last (bytes.size / first.pool.info.rawFrameSize) queued outcome turns := by
  have positive := first.options.sync.attempts_pos
  obtain ⟨earlier, proceeds⟩ := reached.proceeds same fixed sound feeds
  obtain ⟨calls, adds, ⟨_, draws⟩, _, stop, fault⟩ := proceeds.round fixed sound feeds ended
  have flushed := stop outcome rfl
  obtain ⟨settledTurns, all⟩ := reached.allSettled same
  obtain ⟨calls', adds', _, settles⟩ := all.round reached ended
  -- both lists of calls are what the transcript has grown by
  have turns_eq : settledTurns ++ calls' = earlier ++ calls :=
    List.append_cancel_left (adds'.transcript_eq.symm.trans adds.transcript_eq)
  rw [turns_eq] at settles
  refine ⟨earlier ++ calls, adds.transcript_eq, draws.length_le sound.info feeds,
    flushed.length_le positive (few _ adds.transcript_eq), fun split => ?_,
    flushed.eq_flushStalled_iff positive, flushed.eq_drained_iff, fun cause stopped => ?_⟩
  · obtain ⟨_, _, _, _, _, settlement⟩ := settles split
    exact settlement.countP_isSync_le
  · subst stopped
    exact fault cause rfl

/-- A loop without a resolution change ends whatever the encoder answers, if its source feeds so
many bytes and only so many flushes are queued with a sync point. It submits no more surfaces than
there are whole frames, and flushes no more often than there are attempts for each flush that is
queued, and that often once more. It gives up exactly after as many flushes in a row without
progress as there are attempts, and is drained exactly after a flush that found nothing left. The
count of flushes without progress stays below the attempts there are, so 32 bits hold it. -/
theorem loop_ends {bytes : Bytes} {failure : Option IoError} {queued : Nat}
    (same : first.session.encoder = encoder.recorded)
    (fixed : first.options.resolutionChange = none) (sound : first.pool.Sound)
    (feeds : first.source.Feeds first.store (MayWrite first.options first.store) bytes failure)
    (few : ∀ rounds turns, ((EncodeM.runRounds rounds .start).run first).2.session.transcript
        = first.session.transcript ++ turns →
      (flushReplies turns).countP hasSyncPoint ≤ queued) :
    ∃ outcome last turns,
      (∀ rounds, bytes.size / first.pool.info.rawFrameSize
          + (queued + 1) * first.options.sync.attempts ≤ rounds →
        (EncodeM.runRounds rounds .start).run first = (outcome, last)) ∧
      ((queued + 1) * first.options.sync.attempts ≤ 0x4000000000000000 →
        EncodeM.runLoop.run first = (outcome, last)) ∧
      Ends first last (bytes.size / first.pool.info.rawFrameSize) queued outcome turns ∧
      ∀ count loop context, Reached first count loop context →
        loop.stalled < first.options.sync.attempts ∧ loop.stalled + 1 < 0x100000000 := by
  have positive := first.options.sync.attempts_pos
  have proceeds : ∀ {count loop context}, Reached first count loop context →
      ∃ turns, Proceeds encoder first count loop context turns := fun reached =>
    reached.proceeds same fixed sound feeds
  cases ran : (EncodeM.runRounds (bytes.size / first.pool.info.rawFrameSize
    + (queued + 1) * first.options.sync.attempts) .start).run first with
  | mk outcome last =>
  have few_last := fun turns transcript =>
    few _ turns ((congrArg (·.2.session.transcript) ran).trans transcript)
  obtain ⟨count, within, loop, context, reached, ended⟩ | ⟨loop, reached, _⟩ :=
    EncodeM.runRounds_cases .start ran
  · obtain ⟨turns, ends⟩ := reached.ends same fixed sound feeds few_last ended
    have enough : ∀ rounds, bytes.size / first.pool.info.rawFrameSize
        + (queued + 1) * first.options.sync.attempts ≤ rounds →
        (EncodeM.runRounds rounds .start).run first = (outcome, last) := fun rounds le =>
      EncodeM.run_runRounds_of_ended reached ended (by omega)
    refine ⟨outcome, last, turns, enough, fun given => ?_, ends, fun _ _ _ reached => ?_⟩
    · have size_le := feeds.size_le
      have frames_le := Nat.div_le_self bytes.size first.pool.info.rawFrameSize
      rw [EncodeM.runLoop, EncodeM.run_bind_ok (EncodeM.run_get first)]
      refine enough _ ?_
      rw [EncodeM.roundLimit]
      omega
    · obtain ⟨_, proceeds⟩ := proceeds reached
      have below := proceeds.flushing.stalled_lt positive
      exact ⟨below, Nat.lt_of_le_of_lt below first.options.sync.attempts_lt⟩
  · -- so many rounds make more submissions than there can be
    obtain ⟨turns, proceeds⟩ := proceeds reached
    have surfaces := proceeds.draws.length_le sound.info feeds
    have flushes := proceeds.flushing.length_le positive
    have below := proceeds.flushing.stalled_lt positive
    have queued_le := Nat.mul_le_mul_right first.options.sync.attempts
      (few_last turns proceeds.adds.transcript_eq)
    have count := proceeds.count_eq
    rw [Nat.add_mul, Nat.one_mul] at count
    omega

end Proceeds

/-- A run on one frame and the first byte of a second one. Of its flushes the second one is queued
with a sync point; the others make no progress. -/
def oneFlushQueued : EncodeContext (ScriptedEncoder × List Entry) :=
  .start (.ofEncoder ScriptedEncoder.encoder.recorded ({ ScriptedEncoder.usual with
      query := [some (.ok fun params =>
        { params with frameInfo := ⟨⟨25, 1⟩, 0, 0, 1, 1, 2, 2⟩ })]
      flush := [none, some (.ok (.queued (some ⟨9⟩))), some (.error (.temporaryBackpressure "")),
        some (.error (.deviceLost ""))]
      usualFlush := .ok (.queued none) }, []))
    (.ofBytes #[1, 2, 3, 4]) { EncodeOptions.ofInput "" 1 1 with sync := ⟨7, 2⟩ } .empty #[]

/-- The loop gives up after the fourth flush, which is as many as there can be. -/
theorem loop_ends_after_four_flushes :
    let first := (EncodeM.setUp.run oneFlushQueued).2
    ∃ last turns, EncodeM.runLoop.run first = (.ok .flushStalled, last) ∧
      Ends first last 1 1 (.ok .flushStalled) turns ∧ (flushReplies turns).length = 4 := by
  intro first
  have info : first.pool.info = ⟨⟨25, 1⟩, 0, 0, 1, 1, 2, 2⟩ := by decide +kernel
  have sound : first.pool.Sound := by
    refine ⟨?_, by decide +kernel⟩
    rw [info]
    constructor <;> decide
  have feeds : first.source.Feeds first.store (MayWrite first.options first.store)
      #[1, 2, 3, 4] none := ⟨rfl, by decide, by decide +kernel⟩
  have frames : (#[1, 2, 3, 4] : Bytes).size / first.pool.info.rawFrameSize = 1 := by
    rw [info]
    decide
  have attempts : first.options.sync.attempts = 2 := by decide +kernel
  have unflushed : flushReplies first.session.transcript = [] := by decide +kernel
  -- five rounds are all there are
  have stalled : ((EncodeM.runRounds 5 .start).run first).1 = .ok .flushStalled := by decide +kernel
  have flushes : (flushReplies
      ((EncodeM.runRounds 5 .start).run first).2.session.transcript).length = 4 := by decide +kernel
  have queued : ∀ rounds < 6, (flushReplies ((EncodeM.runRounds rounds .start).run
      first).2.session.transcript).countP hasSyncPoint ≤ 1 := by decide +kernel
  obtain ⟨stopped, ran⟩ : ∃ stopped, (EncodeM.runRounds 5 .start).run first
      = (.ok .flushStalled, stopped) := ⟨_, Prod.ext stalled rfl⟩
  have few : ∀ rounds turns, ((EncodeM.runRounds rounds .start).run first).2.session.transcript
      = first.session.transcript ++ turns → (flushReplies turns).countP hasSyncPoint ≤ 1 := by
    have within : ∀ rounds, (flushReplies ((EncodeM.runRounds rounds .start).run
        first).2.session.transcript).countP hasSyncPoint ≤ 1 := by
      intro rounds
      rcases Nat.lt_or_ge rounds 6 with early | late
      · exact queued rounds early
      · rw [EncodeM.run_runRounds_of_stopped ran (Nat.le_of_succ_le late), ← ran]
        exact queued 5 (by decide)
    intro rounds turns transcript
    have bound := within rounds
    rwa [transcript, flushReplies_append, unflushed, List.nil_append] at bound
  obtain ⟨outcome, last, turns, ended, looped, ends, -⟩ := loop_ends rfl rfl sound feeds few
  rw [frames, attempts] at ended
  rw [attempts] at looped
  rw [frames] at ends
  obtain ⟨rfl, rfl⟩ := Prod.mk.inj (ran.symm.trans (ended 5 (by decide)))
  rw [ran, ends.transcript_eq, flushReplies_append, unflushed, List.nil_append] at flushes
  exact ⟨_, turns, looped (by decide), ends, flushes⟩

end Nv12Jpeg
