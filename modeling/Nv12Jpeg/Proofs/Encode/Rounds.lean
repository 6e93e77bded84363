import Nv12Jpeg.Proofs.Encode.Draws
import Nv12Jpeg.Proofs.Encoder.Record

/-!
# The calls of a round

A round makes its calls in a fixed pattern, whatever the encoder answers: one submission, attempts
at collecting its result if it was queued with a sync point, and after a file was written perhaps
the calls of a resolution change.

* `Awaits` — the attempts at collecting a result, and what they come to;
* `Plays` — the calls of a round, what they come to and what they leave alone;
* `EncodeM.round_plays` — every round is one of these;
* `Reached` — where a loop can stand between two rounds, and `EncodeM.runRounds_cases`, how it
  comes to its end from there.
-/

namespace Nv12Jpeg

variable {σ α : Type} {encoder : Encoder σ}

/-! ## Calls and files -/

/-- From one state to another these calls were made, on the same encoder. -/
structure Adds (encoder : Encoder σ) (earlier later : EncodeContext (σ × List Entry))
    (turns : List Turn) : Prop where
  encoder_eq : later.session.encoder = encoder.recorded
  transcript_eq : later.session.transcript = earlier.session.transcript ++ turns

namespace Adds

variable {first second third : EncodeContext (σ × List Entry)} {turns others : List Turn}

theorem of_session (same : first.session.encoder = encoder.recorded)
    (session : second.session = first.session) : Adds encoder first second [] := by
  constructor
  · rw [session, same]
  · rw [session, List.append_nil]

theorem trans (adds : Adds encoder first second turns) (adds' : Adds encoder second third others) :
    Adds encoder first third (turns ++ others) := by
  refine ⟨adds'.encoder_eq, ?_⟩
  rw [adds'.transcript_eq, adds.transcript_eq, List.append_assoc]

theorem book {answer : Answer (Session (σ × List Entry)) α}
    (same : first.session.encoder = encoder.recorded)
    {entries : List Entry} (noted : answer.Records first.session entries) :
    Adds encoder first (first.book answer) (entries.map Entry.turn) :=
  ⟨noted.encoder_eq.trans same, noted.transcript_eq⟩

end Adds

/-- From one state to another no file was written and nothing was read. -/
structure Unwritten (earlier later : EncodeContext σ) : Prop where
  options : later.options = earlier.options
  source : later.source = earlier.source
  store : later.store = earlier.store
  params : later.params = earlier.params
  framesWritten : later.framesWritten = earlier.framesWritten
  outputs : later.outputs = earlier.outputs
  resets : later.resets = earlier.resets
  info : later.pool.info = earlier.pool.info
  buffer : later.pool.buffer = earlier.pool.buffer
  size : later.pool.size = earlier.pool.size

theorem Unwritten.onward : EncodeM.Onward (Unwritten (σ := σ)) where
  refl := fun _ => ⟨rfl, rfl, rfl, rfl, rfl, rfl, rfl, rfl, rfl, rfl⟩
  trans := fun h h' => ⟨h'.1.trans h.1, h'.2.trans h.2, h'.3.trans h.3, h'.4.trans h.4,
    h'.5.trans h.5, h'.6.trans h.6, h'.7.trans h.7, h'.8.trans h.8, h'.9.trans h.9,
    h'.10.trans h.10⟩

/-- A call writes no file. -/
theorem Unwritten.book (context : EncodeContext σ) (answer : Answer (Session σ) α) :
    Unwritten context (context.book answer) :=
  ⟨rfl, rfl, rfl, rfl, rfl, rfl, rfl, LockChange.info_foldl, LockChange.buffer_foldl,
    LockChange.size_foldl⟩

namespace EncodeM

theorem unwritten_report (event : Event) :
    Keeps Unwritten (report event : EncodeM σ Unit) :=
  fun _ => ⟨rfl, rfl, rfl, rfl, rfl, rfl, rfl, rfl, rfl, rfl⟩

theorem unwritten_syncOnce (sync : SyncPoint) :
    Keeps Unwritten (syncOnce sync : EncodeM σ (Except EncoderError SyncStatus)) := by
  intro context
  rw [run_syncOnce]
  have booked := Unwritten.book { context with
    bitstream := (context.session.sync sync context.options.sync.waitMs context.bitstream).2 }
    (context.session.sync sync context.options.sync.waitMs context.bitstream).1
  exact ⟨rfl, rfl, rfl, rfl, rfl, rfl, rfl, booked.info, booked.buffer, booked.size⟩

/-- Waiting for a result writes no file. -/
theorem unwritten_attemptSync (sync : SyncPoint) (left attempt : Nat) :
    Keeps Unwritten (attemptSync sync left attempt : EncodeM σ Bool) :=
  .attemptSync Unwritten.onward unwritten_report (unwritten_syncOnce sync)
    (fun _ => ⟨rfl, rfl, rfl, rfl, rfl, rfl, rfl, rfl, rfl, rfl⟩) left attempt

end EncodeM

/-! ## Waiting for a result -/

namespace SyncPolicy

variable (policy : SyncPolicy)

theorem attempts_pos : 0 < policy.attempts :=
  Nat.le_max_right _ _

theorem attempts_lt : policy.attempts < 0x100000000 :=
  Nat.max_lt.2 ⟨policy.maxAttempts.toNat_lt, by decide⟩

end SyncPolicy

/-- What the reply to an attempt decides: nothing yet, or whether there is a result to write, or
how the run fails. -/
def verdict? : Attempt EncoderError SyncStatus → Option (Except (Failure EncodeError) Bool)
  | .ok .done => some (.ok true)
  | .ok .inExecution => none
  | .error (.error (.notEnoughBuffer _ _)) => some (.ok false)
  | .error (.error error) => some (.error (.error (.encoder .sync error)))
  | .error (.fault fault) => some (.error (.fault fault))

/-- An attempt at collecting a result under a policy. -/
def SyncPolicy.attempt (policy : SyncPolicy) (sync : SyncPoint)
    (reply : Attempt EncoderError SyncStatus) : Turn :=
  .sync sync policy.waitMs reply

/-- So many attempts that find the result still in the making. -/
def SyncPolicy.inVain (policy : SyncPolicy) (sync : SyncPoint) (count : Nat) : List Turn :=
  List.replicate count (policy.attempt sync (.ok .inExecution))

/-- At most `left` attempts at collecting a result, and what they come to. -/
inductive Awaits (policy : SyncPolicy) (sync : SyncPoint) (left total : Nat) :
    List Turn → Except (Failure EncodeError) Bool → Prop
  /-- An attempt decides the matter. -/
  | settled {tried : Nat} {reply : Attempt EncoderError SyncStatus}
      {outcome : Except (Failure EncodeError) Bool} (within : tried < left)
      (verdict : verdict? reply = some outcome) :
      Awaits policy sync left total (policy.inVain sync tried ++ [policy.attempt sync reply])
        outcome
  | timedOut :
      Awaits policy sync left total (policy.inVain sync left)
        (.error (.error (.syncTimeout sync total)))

/-- One more attempt in vain. -/
theorem Awaits.vain {policy : SyncPolicy} {sync : SyncPoint} {left total : Nat} {turns : List Turn}
    {outcome : Except (Failure EncodeError) Bool}
    (awaits : Awaits policy sync left total turns outcome) :
    Awaits policy sync (left + 1) total
      ([policy.attempt sync (.ok .inExecution)] ++ turns) outcome := by
  cases awaits with
  | @settled tried _ _ within verdict => exact .settled (Nat.succ_lt_succ within) verdict
  | timedOut => exact .timedOut

namespace EncodeM

variable {context last : EncodeContext (σ × List Entry)}

theorem syncOnce_adds (same : context.session.encoder = encoder.recorded) (sync : SyncPoint) :
    ∃ reply later, (syncOnce sync).run context = (heard reply, later) ∧
      Adds encoder context later [context.options.sync.attempt sync reply] := by
  have noted := Session.records_sync same sync context.options.sync.waitMs context.bitstream
  exact ⟨_, _, run_syncOnce sync context, noted.encoder_eq.trans same, noted.transcript_eq⟩

/-- All attempts together. The induction is on the number of those that are left. -/
theorem attemptSync_awaits {sync : SyncPoint} {left attempt : Nat}
    {outcome : Except (Failure EncodeError) Bool}
    (same : context.session.encoder = encoder.recorded)
    (ran : (attemptSync sync left attempt).run context = (outcome, last)) :
    ∃ turns, Adds encoder context last turns ∧
      Awaits context.options.sync sync left (attempt + left - 1) turns outcome := by
  induction left generalizing attempt context with
  | zero =>
    cases ran
    exact ⟨[], .of_session same rfl, .timedOut⟩
  | succ left ih =>
    obtain ⟨reply, later, tried, adds⟩ := syncOnce_adds same sync
    have options := ((unwritten_syncOnce sync).of_run tried).options
    rw [attemptSync, run_bind, tried] at ran
    -- an attempt that decides the matter is the last one
    have ends : ∀ {found}, verdict? reply = some found → outcome = found →
        Adds encoder later last [] → ∃ turns, Adds encoder context last turns ∧
          Awaits context.options.sync sync (left + 1) (attempt + (left + 1) - 1) turns outcome := by
      rintro found verdict rfl none
      exact ⟨_, adds.trans none, .settled (Nat.succ_pos left) verdict⟩
    have unmoved : Adds encoder later later [] := .of_session adds.encoder_eq rfl
    cases reply with
    | ok status =>
      cases status with
      | done =>
        cases ran
        exact ends rfl rfl unmoved
      | inExecution =>
        have reported : (later.report (.stillExecuting sync attempt)).session.encoder
            = encoder.recorded := adds.encoder_eq
        obtain ⟨turns, adds', awaits⟩ := ih reported ran
        have awaits : Awaits context.options.sync sync left (attempt + (left + 1) - 1) turns
            outcome := by
          rw [← options, show attempt + (left + 1) - 1 = attempt + 1 + left - 1 by omega]
          exact awaits
        exact ⟨_, adds.trans ⟨adds'.encoder_eq, adds'.transcript_eq⟩, awaits.vain⟩
    | error failure =>
      cases failure with
      | fault fault =>
        cases ran
        exact ends rfl rfl unmoved
      | error error =>
        cases error with
        | notEnoughBuffer needed available =>
          cases ran
          exact ends rfl rfl (.of_session adds.encoder_eq rfl)
        | _ =>
          cases ran
          exact ends rfl rfl unmoved

end EncodeM

/-! ## After a result was collected -/

/-- From one state to another no frame was submitted, no flush asked for and no result. -/
def Idles (encoder : Encoder σ) (earlier later : EncodeContext (σ × List Entry)) : Prop :=
  later.options = earlier.options ∧
    (earlier.session.encoder = encoder.recorded →
      ∃ turns, Adds encoder earlier later turns ∧ ∀ turn ∈ turns, turn.isWork = false)

namespace Idles

variable {first second : EncodeContext (σ × List Entry)}

theorem of_session (options : second.options = first.options)
    (session : second.session = first.session) : Idles encoder first second :=
  ⟨options, fun same => ⟨[], .of_session same session, List.forall_mem_nil _⟩⟩

theorem onward : EncodeM.Onward (Idles encoder) where
  refl := fun _ => .of_session rfl rfl
  trans := by
    rintro first second third ⟨options, h⟩ ⟨options', h'⟩
    refine ⟨options'.trans options, fun same => ?_⟩
    obtain ⟨turns, adds, idle⟩ := h same
    obtain ⟨turns', adds', idle'⟩ := h' adds.encoder_eq
    exact ⟨_, adds.trans adds', List.forall_mem_append.2 ⟨idle, idle'⟩⟩

end Idles

namespace EncodeM

theorem idles_report (event : Event) : Keeps (Idles encoder) (report event) :=
  fun _ => .of_session rfl rfl

theorem idles_writeOutput : Keeps (Idles encoder) writeOutput := by
  intro context
  have writes := writesOnly_writeOutput context
  exact .of_session writes.options writes.session

theorem idles_allocatePool : Keeps (Idles encoder) allocatePool := by
  refine .allocatePool Idles.onward (fun params context => ?_) fun _ _ => .of_session rfl rfl
  rw [run_demand]
  exact ⟨rfl, fun same => ⟨_, .book same (Session.records_surfaceRequest same params),
    List.forall_mem_singleton.2 rfl⟩⟩

/-- The calls of a reset are of other kinds. -/
theorem idles_resetResolution (params : EncodeParams) :
    Keeps (Idles encoder) (call (Session.resetResolution params)) := by
  intro context
  rw [run_call]
  refine ⟨rfl, fun same => ?_⟩
  obtain ⟨_, noted, _⟩ | ⟨_, ⟨_, noted, _⟩ | ⟨noted, _⟩⟩ :=
    Session.resetResolution_cases same params
  all_goals exact ⟨_, .book same noted, by simp [Turn.isWork]⟩

theorem idles_applyDueChange : Keeps (Idles encoder) applyDueChange := by
  refine .applyDueChange Idles.onward (.changeInput Idles.onward fun _ _ => .of_session rfl rfl) ?_
  exact .changeSize Idles.onward idles_report (fun _ _ => .of_session rfl rfl)
    idles_resetResolution idles_allocatePool fun _ => .of_session rfl rfl

/-- What follows once a result is there to write. -/
def conclude : EncodeM σ Progress := do
  writeOutput
  applyDueChange
  return if limitReached (← get) then .stop .frameLimit else .made

theorem complete_eq (sync : SyncPoint) :
    (complete sync : EncodeM σ Progress) = do
      if ← synchronize sync then conclude else return .made :=
  rfl

/-- Without a change there is none to apply. -/
theorem run_applyDueChange_none {context : EncodeContext σ}
    (fixed : context.options.resolutionChange = none) :
    applyDueChange.run context = (.ok (), context) := by
  rw [applyDueChange, run_bind_ok (run_get context), fixed]
  rfl

theorem idles_conclude : Keeps (Idles encoder) conclude :=
  .bind Idles.onward idles_writeOutput fun _ => .bind Idles.onward idles_applyDueChange fun _ =>
    .get_bind fun context => Idles.onward.refl context

/-- After a result was written the loop goes on, or has reached its limit. -/
theorem conclude_ok {context last : EncodeContext σ} {progress : Progress}
    (ran : conclude.run context = (.ok progress, last)) :
    progress = .made ∨ progress = .stop .frameLimit := by
  obtain ⟨_, _, _, ran⟩ := run_bind_eq_ok ran
  obtain ⟨_, _, _, ran⟩ := run_bind_eq_ok ran
  obtain ⟨_, _, _, ran⟩ := run_bind_eq_ok ran
  obtain ⟨result, rfl⟩ := Prod.mk.inj ran
  split at result <;> cases result
  · exact .inr rfl
  · exact .inl rfl

end EncodeM

/-! ## Whole rounds -/

/-- What the reply to a submission decides if it has no result to wait for. -/
def judged? (draining : Bool) :
    Attempt EncoderError SubmitStatus → Option (Except (Failure EncodeError) Progress)
  | .ok (.queued (some _)) => none
  | .ok (.queued none) => some (.ok .stalled)
  | .ok .moreData => some (.ok (if draining then .stop .drained else .made))
  | .error (.error (.notEnoughBuffer _ _)) => some (.ok .stalled)
  | .error (.error (.deviceLost _)) => some (.ok .stalled)
  | .error (.error (.temporaryBackpressure _)) => some (.ok .stalled)
  | .error (.error _) => some (.ok (.stop .unknownStatus))
  | .error (.fault fault) => some (.error (.fault fault))

/-- What a round leads to from where the loop stands. -/
def LoopState.after (loop : LoopState) (policy : SyncPolicy) (draining : Bool) :
    Progress → RoundEnd
  | .stop reason => .stop reason
  | .made => .next (if draining then ⟨true, 0⟩ else ⟨false, loop.stalled⟩)
  | .stalled =>
    if draining then
      if policy.attempts ≤ loop.stalled + 1 then .stop .flushStalled
      else .next ⟨true, loop.stalled + 1⟩
    else .next ⟨false, loop.stalled⟩

/-- The calls of a round, what they come to and what they leave alone. -/
inductive Plays (loop : LoopState) (context last : EncodeContext σ) :
    List Turn → Except (Failure EncodeError) RoundEnd → Prop
  /-- There is nothing to submit, and no call is made. -/
  | unoffered {failure : Failure EncodeError} (reading : loop.draining = false)
      (fails : EncodeM.readFrame.run context = (.error failure, last)) :
      Plays loop context last [] (.error failure)
  /-- The reply to the submission decides what happens. -/
  | judged {submission : Option Submission} {ready : EncodeContext σ}
      {reply : Attempt EncoderError SubmitStatus} {result : Except (Failure EncodeError) Progress}
      (offers : EncodeM.Offers loop.draining context submission ready)
      (verdict : judged? submission.isNone reply = some result) (unwritten : Unwritten ready last) :
      Plays loop context last [.submit submission reply]
        (result.map (loop.after context.options.sync submission.isNone))
  /-- There is no result to write. -/
  | waited {submission : Option Submission} {ready : EncodeContext σ}
      {sync : SyncPoint} {turns : List Turn} {found : Except (Failure EncodeError) Bool}
      (offers : EncodeM.Offers loop.draining context submission ready)
      (awaits : Awaits context.options.sync sync context.options.sync.attempts
        context.options.sync.attempts turns found)
      (nothing : found ≠ .ok true) (unwritten : Unwritten ready last) :
      Plays loop context last (.submit submission (.ok (.queued (some sync))) :: turns)
        (found.map fun _ => loop.after context.options.sync submission.isNone .made)
  /-- There is a result to write. -/
  | collected {submission : Option Submission} {ready waited concluded : EncodeContext σ}
      {sync : SyncPoint} {turns others : List Turn}
      {result : Except (Failure EncodeError) Progress}
      (offers : EncodeM.Offers loop.draining context submission ready)
      (awaits : Awaits context.options.sync sync context.options.sync.attempts
        context.options.sync.attempts turns (.ok true))
      (unwritten : Unwritten ready waited)
      (concludes : EncodeM.conclude.run waited = (result, concluded))
      (ends : Unwritten concluded last) (idle : ∀ turn ∈ others, turn.isWork = false) :
      Plays loop context last
        (.submit submission (.ok (.queued (some sync))) :: (turns ++ others))
        (result.map (loop.after context.options.sync submission.isNone))

namespace EncodeM

/-- The end of a round only reports. -/
theorem run_endRound_log (loop : LoopState) (draining : Bool) (progress : Progress)
    (context : EncodeContext σ) :
    ∃ log, (endRound loop draining progress).run context
      = (.ok (loop.after context.options.sync draining progress), { context with log }) := by
  cases progress with
  | stop reason => exact ⟨context.log, rfl⟩
  | made =>
    cases draining with
    | false => exact ⟨context.log, rfl⟩
    | true =>
      have some : context.options.sync.attempts ≠ 0 :=
        Nat.ne_of_gt context.options.sync.attempts_pos
      refine ⟨context.log, ?_⟩
      simp [endRound, LoopState.after, run_bind, some]
  | stalled =>
    cases draining with
    | false => exact ⟨context.log, rfl⟩
    | true =>
      have decides : (endRound loop true .stalled).run context =
          (if context.options.sync.attempts ≤ loop.stalled + 1 then do
              report (.flushStalled (loop.stalled + 1))
              return .stop .flushStalled
            else return .next ⟨true, loop.stalled + 1⟩ : EncodeM σ RoundEnd).run context := rfl
      rw [decides]
      simp only [LoopState.after, if_true]
      by_cases given : context.options.sync.attempts ≤ loop.stalled + 1
      · rw [if_pos given, if_pos given]
        exact ⟨_, rfl⟩
      · rw [if_neg given, if_neg given]
        exact ⟨_, rfl⟩

/-- The end of a round makes no call. -/
theorem run_endRound (loop : LoopState) (draining : Bool) (progress : Progress)
    (context : EncodeContext σ) :
    ∃ last, (endRound loop draining progress).run context
        = (.ok (loop.after context.options.sync draining progress), last) ∧
      Unwritten context last ∧ last.session = context.session := by
  obtain ⟨log, ends⟩ := run_endRound_log loop draining progress context
  exact ⟨_, ends, ⟨rfl, rfl, rfl, rfl, rfl, rfl, rfl, rfl, rfl, rfl⟩, rfl⟩

/-- A reply that decides what happens is acted upon without a call. -/
theorem run_settle_judged {draining : Bool} {reply : Attempt EncoderError SubmitStatus}
    {result : Except (Failure EncodeError) Progress}
    (verdict : judged? draining reply = some result) (context : EncodeContext σ) :
    ∃ last, (match heard reply with
        | .ok reply => (settle draining reply).run context
        | .error failure => (.error failure, context)) = (result, last) ∧
      Unwritten context last ∧ last.session = context.session := by
  have same := Unwritten.onward.refl context
  have reported := fun event => unwritten_report event context
  cases reply with
  | ok status =>
    cases status with
    | moreData =>
      cases verdict
      cases draining <;> exact ⟨context, rfl, same, rfl⟩
    | queued sync =>
      cases sync with
      | some sync => cases verdict
      | none =>
        cases verdict
        exact ⟨context, rfl, same, rfl⟩
  | error failure =>
    cases failure with
    | fault fault =>
      cases verdict
      exact ⟨context, rfl, same, rfl⟩
    | error error =>
      cases error <;> cases verdict <;> exact ⟨_, rfl, reported _, rfl⟩

theorem judged?_eq_none {draining : Bool} {reply : Attempt EncoderError SubmitStatus}
    (undecided : judged? draining reply = none) : ∃ sync, reply = .ok (.queued (some sync)) := by
  cases reply with
  | ok status =>
    cases status with
    | moreData => cases undecided
    | queued sync =>
      cases sync with
      | some sync => exact ⟨sync, rfl⟩
      | none => cases undecided
  | error failure =>
    cases failure with
    | fault fault => cases undecided
    | error error => cases error <;> cases undecided

theorem Unoffered.unchanged {context last : EncodeContext σ} {failure : Failure EncodeError}
    (fails : Unoffered context failure last) :
    last.session = context.session ∧ last.options = context.options := by
  cases fails <;> exact ⟨rfl, rfl⟩

/-- Acting on progress and ending the round come to this. -/
theorem run_endRound_cases {steps : EncodeM σ Progress} {loop : LoopState} {draining : Bool}
    {context last : EncodeContext σ} {outcome : Except (Failure EncodeError) RoundEnd}
    (ran : (steps >>= endRound loop draining).run context = (outcome, last)) :
    ∃ result settled, steps.run context = (result, settled) ∧
      Unwritten settled last ∧ last.session = settled.session ∧
      outcome = result.map (loop.after settled.options.sync draining) := by
  rcases run_bind_cases ran with ⟨progress, settled, acted, ended⟩ | ⟨failure, acted, rfl⟩
  · obtain ⟨later, ends, unwritten, session⟩ := run_endRound loop draining progress settled
    rw [ends] at ended
    obtain ⟨rfl, rfl⟩ := Prod.mk.inj ended
    exact ⟨_, settled, acted, unwritten, session, rfl⟩
  · exact ⟨_, last, acted, Unwritten.onward.refl last, rfl, rfl⟩

variable {context ready last : EncodeContext (σ × List Entry)}

/-- After a submission that was queued with a sync point the result is waited for. -/
theorem complete_plays {loop : LoopState} {submission : Option Submission} {sync : SyncPoint}
    {booked : EncodeContext (σ × List Entry)} {outcome : Except (Failure EncodeError) RoundEnd}
    (same : booked.session.encoder = encoder.recorded)
    (options : booked.options = context.options)
    (offers : Offers loop.draining context submission ready) (unwritten : Unwritten ready booked)
    (ran : (complete sync >>= endRound loop submission.isNone).run booked = (outcome, last)) :
    ∃ turns, Adds encoder booked last turns ∧ last.options = context.options ∧
      Plays loop context last (.submit submission (.ok (.queued (some sync))) :: turns)
        outcome := by
  obtain ⟨result, settled, acted, ends, session, rfl⟩ := run_endRound_cases ran
  rw [complete_eq] at acted
  -- the wait comes first; only a result that is there to write leads on
  have waits : ∀ {found waited}, (synchronize sync).run booked = (found, waited) →
      ∃ turns, Adds encoder booked waited turns ∧ Unwritten ready waited ∧
        waited.options = context.options ∧
        Awaits context.options.sync sync context.options.sync.attempts
          context.options.sync.attempts turns found := by
    intro found waited ran
    obtain ⟨_, _, got, ran⟩ | ⟨_, failed, _⟩ := run_bind_cases ran
    · cases got
      obtain ⟨turns, adds, awaits⟩ := attemptSync_awaits same ran
      have kept := (unwritten_attemptSync _ _ _).of_run ran
      rw [options, Nat.add_sub_cancel_left] at awaits
      exact ⟨turns, adds, Unwritten.onward.trans unwritten kept, kept.options.trans options, awaits⟩
    · cases failed
  rcases run_bind_cases acted with ⟨found, waited, synced, ran⟩ | ⟨failure, synced, rfl⟩
  · obtain ⟨turns, adds, kept, options, awaits⟩ := waits synced
    cases found with
    | false =>
      obtain ⟨rfl, rfl⟩ := Prod.mk.inj ran
      have adds := adds.trans (.of_session adds.encoder_eq session)
      rw [List.append_nil] at adds
      rw [options]
      exact ⟨turns, adds, ends.options.trans options,
        .waited offers awaits nofun (Unwritten.onward.trans kept ends)⟩
    | true =>
      obtain ⟨options', idles⟩ := idles_conclude.of_run ran
      obtain ⟨others, adds', idle⟩ := idles adds.encoder_eq
      have adds := (adds.trans adds').trans (.of_session adds'.encoder_eq session)
      rw [List.append_nil] at adds
      rw [options'.trans options]
      exact ⟨_, adds, ends.options.trans (options'.trans options),
        .collected offers awaits kept ran ends idle⟩
  · obtain ⟨turns, adds, kept, options, awaits⟩ := waits synced
    have adds := adds.trans (.of_session adds.encoder_eq session)
    rw [List.append_nil] at adds
    exact ⟨turns, adds, ends.options.trans options,
      .waited offers awaits nofun (Unwritten.onward.trans kept ends)⟩

/-- The calls of a round are as they should be, whatever the encoder answers. -/
theorem round_plays {loop : LoopState} {outcome : Except (Failure EncodeError) RoundEnd}
    (same : context.session.encoder = encoder.recorded)
    (ran : (round loop).run context = (outcome, last)) :
    ∃ turns, Adds encoder context last turns ∧ last.options = context.options ∧
      Plays loop context last turns outcome := by
  obtain ⟨submission, ready, offers, made⟩ | ⟨failure, later, reading, unoffered, fails, failed⟩ :=
    nextSubmission_cases loop.draining context
  · obtain ⟨session, options, _⟩ := offers.unchanged
    have noted := Session.records_submit (session ▸ same) submission
    rw [round, run_bind, made] at ran
    generalize (ready.session.submit submission).reply = reply at ran noted
    have adds : Adds encoder context (ready.book (ready.session.submit submission))
        [.submit submission reply] :=
      ⟨noted.encoder_eq.trans (session ▸ same),
        noted.transcript_eq.trans (congrArg (Session.transcript · ++ _) session)⟩
    have unwritten := Unwritten.book ready (ready.session.submit submission)
    have options := unwritten.options.trans options
    generalize ready.book (ready.session.submit submission) = booked at ran adds unwritten options
    cases verdict : judged? submission.isNone reply with
    | none =>
      obtain ⟨sync, rfl⟩ := judged?_eq_none verdict
      obtain ⟨turns, adds', options, plays⟩ :=
        complete_plays adds.encoder_eq options offers unwritten ran
      exact ⟨_, adds.trans adds', options, plays⟩
    | some result =>
      obtain ⟨settled, acts, kept, session⟩ := run_settle_judged verdict booked
      cases answered : heard reply with
      | error failure =>
        rw [answered] at ran acts
        obtain ⟨rfl, rfl⟩ := Prod.mk.inj ran
        obtain ⟨rfl, rfl⟩ := Prod.mk.inj acts
        exact ⟨_, adds, options, .judged offers verdict unwritten⟩
      | ok answer =>
        rw [answered] at ran acts
        obtain ⟨_, _, acted, ends, session', rfl⟩ := run_endRound_cases ran
        obtain ⟨rfl, rfl⟩ := Prod.mk.inj (acted.symm.trans acts)
        have adds := adds.trans (.of_session adds.encoder_eq (session'.trans session))
        rw [List.append_nil] at adds
        rw [kept.options.trans options]
        exact ⟨_, adds, (ends.options.trans kept.options).trans options, .judged offers verdict
          (Unwritten.onward.trans (Unwritten.onward.trans unwritten kept) ends)⟩
  · obtain ⟨session, options⟩ := unoffered.unchanged
    rw [round, run_bind_error failed] at ran
    obtain ⟨rfl, rfl⟩ := Prod.mk.inj ran
    exact ⟨[], .of_session same session, options, .unoffered reading fails⟩

end EncodeM

/-! ## From round to round -/

/-- Where a loop can stand after so many rounds. -/
inductive Reached (first : EncodeContext σ) : Nat → LoopState → EncodeContext σ → Prop
  | start : Reached first 0 .start first
  | next {count : Nat} {loop loop' : LoopState} {context context' : EncodeContext σ}
      (reached : Reached first count loop context)
      (ran : (EncodeM.round loop).run context = (.ok (.next loop'), context')) :
      Reached first (count + 1) loop' context'

namespace EncodeM

variable {first context last : EncodeContext σ} {loop : LoopState} {count rounds : Nat}
  {outcome : Except (Failure EncodeError) StopReason}

/-- A loop goes on from where it can stand. -/
theorem run_runRounds_of_reached (reached : Reached first count loop context) (rounds : Nat) :
    (runRounds (count + rounds) .start).run first = (runRounds rounds loop).run context := by
  induction reached generalizing rounds with
  | start => rw [Nat.zero_add]
  | @next count loop loop' context context' _ ran ih =>
    rw [Nat.add_assoc, Nat.add_comm 1, ih, run_runRounds_succ, ran]

/-- A loop that ends in a round has the same end however many more rounds it may make. -/
theorem run_runRounds_of_ended (reached : Reached first count loop context)
    (ends : (round loop).run context = (outcome.map .stop, last)) (enough : count < rounds) :
    (runRounds rounds .start).run first = (outcome, last) := by
  obtain ⟨more, rfl⟩ : ∃ more, rounds = count + (more + 1) :=
    ⟨rounds - count - 1, by omega⟩
  rw [run_runRounds_of_reached reached, run_runRounds_succ, ends]
  cases outcome <;> rfl

/-- Some rounds of a loop end in one of them, or leave the loop where more could follow. The
induction is on the rounds to come, from wherever the loop stands by then. -/
theorem runRounds_cases (reached : Reached first count loop context)
    (ran : (runRounds rounds loop).run context = (outcome, last)) :
    (∃ count' < count + rounds, ∃ loop context, Reached first count' loop context ∧
      (round loop).run context = (outcome.map .stop, last)) ∨
    ∃ loop, Reached first (count + rounds) loop last ∧ outcome = .error (.fault .unfinished) := by
  induction rounds generalizing count loop context with
  | zero =>
    cases ran
    exact .inr ⟨loop, reached, rfl⟩
  | succ rounds ih =>
    rw [run_runRounds_succ] at ran
    cases one : (round loop).run context with
    | mk result later =>
      rw [one] at ran
      match result, ran with
      | .ok (.next loop'), ran =>
        have further := ih (.next reached one) ran
        rwa [Nat.add_right_comm count 1 rounds] at further
      | .ok (.stop reason), ran =>
        cases ran
        exact .inl ⟨count, by omega, loop, context, reached, one⟩
      | .error failure, ran =>
        cases ran
        exact .inl ⟨count, by omega, loop, context, reached, one⟩

/-- A loop that has come to its end does the same however many more rounds it may make. -/
theorem run_runRounds_of_le {more : Nat}
    (ran : (runRounds rounds .start).run first = (outcome, last))
    (ended : outcome ≠ .error (.fault .unfinished)) (le : rounds ≤ more) :
    (runRounds more .start).run first = (outcome, last) := by
  obtain ⟨count, within, loop, context, reached, ends⟩ | ⟨_, _, unfinished⟩ :=
    runRounds_cases .start ran
  · exact run_runRounds_of_ended reached ends (by omega)
  · exact absurd unfinished ended

theorem run_runRounds_of_stopped {reason : StopReason} {more : Nat}
    (ran : (runRounds rounds .start).run first = (.ok reason, last)) (le : rounds ≤ more) :
    (runRounds more .start).run first = (.ok reason, last) :=
  run_runRounds_of_le ran (by rintro ⟨⟩) le

end EncodeM

end Nv12Jpeg
