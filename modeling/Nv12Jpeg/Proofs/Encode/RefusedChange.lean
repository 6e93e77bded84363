import Nv12Jpeg.Proofs.Encode.ResolutionChange
import Nv12Jpeg.Proofs.Encode.Rounds

/-!
# Changes of the picture size that are refused

A change sets the size in the parameters, has the encoder go on with them, asks it what surfaces it
needs, and replaces the pool last. If the encoder refuses, the loop ends with an error. What was
done until then is not taken back, and the loop may be run again.

* `Steady` — what a stretch of a run leaves alone that has no change in it, and `Calm`, steps that
  go on with it whatever they come to;
* `Alters` — the ways in which a change ends;
* `Sizing` — what has become of the picture size since set-up; `EncodeM.round_sizing` is the step
  from one round to the next, and `Looped.sizing` the sequence of loops;
* `sizes_agree_unless_refused` — the parameters and the pool tell one size, unless a change was
  refused.
-/

namespace Nv12Jpeg

variable {σ α β : Type} {encoder : Encoder σ}

/-! ## Refusals -/

/-- Whether a run fails with an error because the encoder would not go on with another size. -/
def EncodeError.isRefusal : EncodeError → Bool
  | .resetFailed _ _ | .encoder .surfaceRequest _ => true
  | _ => false

/-- The refusal that a run has failed with, if it has. -/
def Failure.refusal? : Failure EncodeError → Option EncodeError
  | .error cause => if cause.isRefusal then some cause else none
  | .fault _ => none

/-- The refusal that steps have ended with, if they have. -/
def refusal? : Except (Failure EncodeError) α → Option EncodeError
  | .error failure => failure.refusal?
  | .ok _ => none

/-- The calls of a change that is refused, and the error that the run fails with. -/
inductive Refusal (width height : UInt16) (params : EncodeParams) :
    List Turn → EncodeError → Prop
  | unknown (cause : EncoderError) :
      Refusal width height params [.currentParams (.error (.error cause))]
        (.resetFailed width height)
  | notReset (current : EncodeParams) (cause : EncoderError) :
      Refusal width height params
        [.currentParams (.ok current), .reset params (.error (.error cause))]
        (.resetFailed width height)
  | noSurfaces (current : EncodeParams) (cause : EncoderError) :
      Refusal width height params
        [.currentParams (.ok current), .reset params (.ok ()),
          .surfaceRequest params (.error (.error cause))]
        (.encoder .surfaceRequest cause)

/-- All surfaces that were submitted in these calls are of a geometry. -/
def SubmitsOnly (info : FrameInfo) (turns : List Turn) : Prop :=
  ∀ submission ∈ submittedIn turns, submission.surface.info = info

section Refusal

variable {width height : UInt16} {params : EncodeParams} {turns later : List Turn}
  {error : EncodeError} {info : FrameInfo}

theorem Refusal.isRefusal (h : Refusal width height params turns error) :
    error.isRefusal = true := by
  cases h <;> rfl

/-- What was refused was not submitted to. -/
theorem Refusal.submittedIn_eq (h : Refusal width height params turns error) :
    submittedIn turns = [] := by
  cases h <;> rfl

theorem SubmitsOnly.of_eq_nil (none : submittedIn turns = []) : SubmitsOnly info turns := by
  intro submission mem
  rw [none] at mem
  cases mem

theorem SubmitsOnly.append (h : SubmitsOnly info turns) (h' : SubmitsOnly info later) :
    SubmitsOnly info (turns ++ later) := by
  rw [SubmitsOnly, submittedIn_append]
  exact List.forall_mem_append.2 ⟨h, h'⟩

end Refusal

/-! ## Stretches of a run without a change -/

/-- From one state to another the size has stayed, and what was submitted meanwhile were surfaces of
the pool. -/
structure Steady (encoder : Encoder σ) (earlier later : EncodeContext (σ × List Entry)) : Prop where
  options : later.options = earlier.options
  params : later.params = earlier.params
  info : later.pool.info = earlier.pool.info
  resets : later.resets = earlier.resets
  written : earlier.framesWritten ≤ later.framesWritten
  calls : earlier.session.encoder = encoder.recorded →
    ∃ turns, Adds encoder earlier later turns ∧ SubmitsOnly earlier.pool.info turns

/-- Steps go on with a stretch without a change, and do not end with a refusal. -/
def Calm (encoder : Encoder σ) (steps : EncodeM (σ × List Entry) α) : Prop :=
  ∀ context, Steady encoder context (steps.run context).2 ∧
    refusal? (steps.run context).1 = none

section Steady

variable {context last : EncodeContext (σ × List Entry)}

theorem Steady.of_session (options : last.options = context.options)
    (params : last.params = context.params) (info : last.pool.info = context.pool.info)
    (resets : last.resets = context.resets) (written : context.framesWritten ≤ last.framesWritten)
    (session : last.session = context.session) : Steady encoder context last :=
  ⟨options, params, info, resets, written, fun same =>
    ⟨[], .of_session same session, .of_eq_nil rfl⟩⟩

theorem Steady.onward : EncodeM.Onward (Steady encoder) where
  refl := fun _ => .of_session rfl rfl rfl rfl (Nat.le_refl _) rfl
  trans := by
    intro first second third h h'
    refine ⟨h'.options.trans h.options, h'.params.trans h.params, h'.info.trans h.info,
      h'.resets.trans h.resets, Nat.le_trans h.written h'.written, fun same => ?_⟩
    obtain ⟨turns, adds, only⟩ := h.calls same
    obtain ⟨turns', adds', only'⟩ := h'.calls adds.encoder_eq
    rw [h.info] at only'
    exact ⟨_, adds.trans adds', only.append only'⟩

/-- A call goes on, if what it submits is of the geometry of the pool. -/
theorem Steady.book {answer : Answer (Session (σ × List Entry)) α}
    (records : context.session.encoder = encoder.recorded → ∃ entry,
      answer.Records context.session [entry] ∧ SubmitsOnly context.pool.info [entry.turn]) :
    Steady encoder context (context.book answer) := by
  refine ⟨rfl, rfl, LockChange.info_foldl, rfl, Nat.le_refl _, fun same => ?_⟩
  obtain ⟨entry, noted, only⟩ := records same
  exact ⟨_, .book same noted, only⟩

end Steady

/-! ## Steps without a change -/

namespace EncodeM

variable {context last : EncodeContext (σ × List Entry)} {α : Type}

theorem refusal?_heard (reply : Attempt EncoderError α) : refusal? (heard reply) = none := by
  cases reply with
  | ok value => rfl
  | error failure => cases failure <;> rfl

/-- What is submitted is a surface of the pool. -/
theorem Offers.submitsOnly {draining : Bool} {submission : Option Submission}
    {ready : EncodeContext σ} {context : EncodeContext σ}
    (offers : Offers draining context submission ready)
    (reply : Attempt EncoderError SubmitStatus) :
    SubmitsOnly context.pool.info [.submit submission reply] := by
  cases offers with
  | flush => exact .of_eq_nil rfl
  | @frame _ index pool source surface free read shown =>
    obtain ⟨_, data, rfl⟩ :=
      SurfacePool.readFrame_eq_ok (SurfacePool.findFree_eq_some free).1 read
    intro given mem
    cases List.mem_singleton.1 mem
    exact (@SurfacePool.info_of_surface?_eq_some (context.pool.withData index data) _ _ shown)
  | ended => exact .of_eq_nil rfl

theorem refusal?_map (outcome : Except (Failure EncodeError) α) (f : α → β) :
    refusal? (outcome.map f) = refusal? outcome := by
  cases outcome <;> rfl

end EncodeM

namespace Calm

open EncodeM

theorem pure (value : α) : Calm encoder (Pure.pure value : EncodeM (σ × List Entry) α) :=
  fun context => ⟨Steady.onward.refl context, rfl⟩

theorem fail {error : EncodeError} (other : error.isRefusal = false) :
    Calm encoder (EncodeM.fail error : EncodeM (σ × List Entry) α) := by
  refine fun context => ⟨Steady.onward.refl context, ?_⟩
  show (if error.isRefusal then some error else none) = none
  rw [other]
  rfl

theorem report (event : Event) :
    Calm encoder (EncodeM.report event : EncodeM (σ × List Entry) Unit) :=
  fun _ => ⟨.of_session rfl rfl rfl rfl (Nat.le_refl _) rfl, rfl⟩

theorem bind {first : EncodeM (σ × List Entry) α} {next : α → EncodeM (σ × List Entry) β}
    (h : Calm encoder first) (h' : ∀ value, Calm encoder (next value)) :
    Calm encoder (first >>= next) := by
  intro context
  obtain ⟨steady, unrefused⟩ := h context
  rw [run_bind]
  cases ran : first.run context with
  | mk outcome later =>
    rw [ran] at steady unrefused
    cases outcome with
    | ok value =>
      obtain ⟨steady', unrefused'⟩ := h' value later
      exact ⟨Steady.onward.trans steady steady', unrefused'⟩
    | error failure => exact ⟨steady, unrefused⟩

/-- Steps that depend on the state. -/
theorem get_bind {next : EncodeContext (σ × List Entry) → EncodeM (σ × List Entry) α}
    (h : ∀ context, Calm encoder (next context)) : Calm encoder (MonadState.get >>= next) := by
  intro context
  rw [run_bind_ok (run_get context)]
  exact h context context

theorem of_run {steps : EncodeM (σ × List Entry) α} {context last : EncodeContext (σ × List Entry)}
    {outcome : Except (Failure EncodeError) α} (h : Calm encoder steps)
    (ran : steps.run context = (outcome, last)) :
    Steady encoder context last ∧ refusal? outcome = none := by
  have := h context
  rw [ran] at this
  exact this

theorem syncOnce (sync : SyncPoint) :
    Calm encoder (EncodeM.syncOnce sync : EncodeM (σ × List Entry) _) := by
  intro context
  rw [run_syncOnce]
  have set_aside : Steady encoder context { context with
      bitstream := (context.session.sync sync context.options.sync.waitMs context.bitstream).2 } :=
    .of_session rfl rfl rfl rfl (Nat.le_refl _) rfl
  exact ⟨Steady.onward.trans set_aside (.book fun same => ⟨_, Session.records_sync same sync
    context.options.sync.waitMs context.bitstream, .of_eq_nil rfl⟩), refusal?_heard _⟩

/-- Waiting for a result, by induction on the attempts that are left. -/
theorem attemptSync (sync : SyncPoint) (left attempt : Nat) :
    Calm encoder (EncodeM.attemptSync sync left attempt : EncodeM (σ × List Entry) Bool) := by
  induction left generalizing attempt with
  | zero => exact .fail rfl
  | succ left ih =>
    refine .bind (.syncOnce sync) fun reply => ?_
    split
    · exact .pure true
    · exact .bind (.report _) fun _ => ih (attempt + 1)
    · refine .bind (.report _) fun _ => .bind (fun context => ⟨?_, rfl⟩) fun _ => .pure false
      exact .of_session rfl rfl rfl rfl (Nat.le_refl _) rfl
    · exact .fail rfl

theorem readFrame : Calm encoder (EncodeM.readFrame : EncodeM (σ × List Entry) _) := by
  intro context
  cases free : context.pool.findFree with
  | none =>
    rw [EncodeM.readFrame, run_bind_ok (run_get context), free]
    exact Calm.fail rfl context
  | some index =>
    cases read : context.pool.readFrame index context.store context.source with
    | error fault =>
      rw [EncodeM.readFrame, run_bind_ok (run_get context), free]
      dsimp only
      rw [read]
      exact ⟨Steady.onward.refl context, rfl⟩
    | ok result =>
      obtain ⟨ending, pool, source⟩ := result
      obtain ⟨⟨how, rfl⟩, data, rfl⟩ :=
        SurfacePool.readFrame_eq_ok (SurfacePool.findFree_eq_some free).1 read
      rw [run_readFrame free read]
      refine ⟨.of_session rfl rfl rfl rfl (Nat.le_refl _) rfl, ?_⟩
      cases how <;> rfl

theorem nextSubmission (draining : Bool) :
    Calm encoder (EncodeM.nextSubmission draining : EncodeM (σ × List Entry) _) := by
  intro context
  obtain ⟨submission, ready, offers, made⟩ | ⟨failure, last, _, _, read, failed⟩ :=
    nextSubmission_cases draining context
  · rw [made]
    refine ⟨?_, (refusal?_map _ _).trans (refusal?_heard _)⟩
    have alike := Alike.of_offers offers
    obtain ⟨session, _, count⟩ := offers.unchanged
    refine Steady.onward.trans (.of_session alike.options alike.params alike.info alike.resets
      (Nat.le_of_eq count.symm) session) (.book fun same =>
        ⟨_, Session.records_submit same submission, ?_⟩)
    rw [alike.info]
    exact offers.submitsOnly _
  · rw [failed]
    exact readFrame.of_run read

theorem writeOutput : Calm encoder (EncodeM.writeOutput : EncodeM (σ × List Entry) Unit) := by
  intro context
  obtain ⟨_, _, ended⟩ | ⟨_, _, ended⟩ | ⟨_, _, _, _, _, ⟨_, _, ended⟩ | ⟨_, _, ended⟩⟩ :=
    writeOutput_cases context
  all_goals
    rw [ended]
    exact ⟨.of_session rfl rfl rfl rfl (by simp [EncodeContext.report]) rfl, rfl⟩

theorem endRound (loop : LoopState) (draining : Bool) (progress : Progress) :
    Calm encoder (EncodeM.endRound loop draining progress : EncodeM (σ × List Entry) _) := by
  intro context
  obtain ⟨last, ended, unwritten, session⟩ := run_endRound loop draining progress context
  rw [ended]
  exact ⟨.of_session unwritten.options unwritten.params unwritten.info unwritten.resets
    (Nat.le_of_eq unwritten.framesWritten.symm) session, rfl⟩

end Calm

/-! ## Rounds -/

/-- What steps come to of which the change may be one: there is no change, or it is applied after a
file was written. -/
inductive Takes (encoder : Encoder σ) (context last : EncodeContext (σ × List Entry))
    (outcome : Except (Failure EncodeError) α) : Prop
  | calmly (steady : Steady encoder context last) (unrefused : refusal? outcome = none)
  | applying {written applied : EncodeContext (σ × List Entry)}
      {ending : Except (Failure EncodeError) Unit} (before : Steady encoder context written)
      (count : context.framesWritten < written.framesWritten)
      (ran : EncodeM.applyDueChange.run written = (ending, applied))
      (after : Steady encoder applied last)
      (refusal : refusal? outcome = refusal? ending)
      (stops : ∀ fault, ending = .error (.fault fault) → outcome = .error (.fault fault))

namespace Takes

open EncodeM

variable {context last : EncodeContext (σ × List Entry)}

/-- Calm steps before others. -/
theorem after_calm {first : EncodeM (σ × List Entry) α} {next : α → EncodeM (σ × List Entry) β}
    {outcome : Except (Failure EncodeError) β} (calm : Calm encoder first)
    (h : ∀ value context, ∀ {outcome last}, (next value).run context = (outcome, last) →
      Takes encoder context last outcome)
    (ran : (first >>= next).run context = (outcome, last)) :
    Takes encoder context last outcome := by
  rcases run_bind_cases ran with ⟨value, later, began, ran⟩ | ⟨failure, failed, rfl⟩
  · obtain ⟨steady, _⟩ := calm.of_run began
    cases h value later ran with
    | calmly steady' unrefused => exact .calmly (Steady.onward.trans steady steady') unrefused
    | applying before count applied after refusal stops =>
      exact .applying (Steady.onward.trans steady before)
        (Nat.lt_of_le_of_lt steady.written count) applied after refusal stops
  · obtain ⟨steady, unrefused⟩ := calm.of_run failed
    exact .calmly steady unrefused

/-- Calm steps after others. -/
theorem before_calm {first : EncodeM (σ × List Entry) α} {next : α → EncodeM (σ × List Entry) β}
    {outcome : Except (Failure EncodeError) β}
    (h : ∀ {outcome last}, first.run context = (outcome, last) →
      Takes encoder context last outcome)
    (calm : ∀ value, Calm encoder (next value))
    (ran : (first >>= next).run context = (outcome, last)) :
    Takes encoder context last outcome := by
  rcases run_bind_cases ran with ⟨value, later, began, ran⟩ | ⟨failure, failed, rfl⟩
  · obtain ⟨steady, unrefused⟩ := (calm value).of_run ran
    cases h began with
    | calmly steady' _ => exact .calmly (Steady.onward.trans steady' steady) unrefused
    | applying before count applied after refusal stops =>
      -- steps that go on after the change show that it has not stopped with a fault
      refine .applying before count applied (Steady.onward.trans after steady)
        (unrefused.trans refusal) fun fault stopped => ?_
      cases stops fault stopped
  · cases h failed with
    | calmly steady unrefused => exact .calmly steady unrefused
    | applying before count applied after refusal stops =>
      refine .applying before count applied after refusal fun fault stopped => ?_
      cases stops fault stopped
      rfl

end Takes

namespace EncodeM

variable {context last : EncodeContext (σ × List Entry)}

theorem takes_of_calm {steps : EncodeM (σ × List Entry) α}
    {outcome : Except (Failure EncodeError) α} (calm : Calm encoder steps)
    (ran : steps.run context = (outcome, last)) : Takes encoder context last outcome :=
  .calmly (calm.of_run ran).1 (calm.of_run ran).2

/-- The change can only come after a file was written. -/
theorem conclude_takes {outcome : Except (Failure EncodeError) Progress}
    (ran : conclude.run context = (outcome, last)) : Takes encoder context last outcome := by
  rw [conclude, ← bind_assoc] at ran
  refine Takes.before_calm (fun {outcome last} ran => ?_) (fun _ => .get_bind fun _ => .pure _) ran
  rcases run_bind_cases ran with ⟨_, written, wrote, ran⟩ | ⟨failure, failed, rfl⟩
  · obtain ⟨_, _, _, _, _, _, _, count, _⟩ := writeOutput_ok wrote
    exact .applying (Calm.writeOutput.of_run wrote).1 (count ▸ Nat.lt_succ_self _) ran
      (Steady.onward.refl last) rfl fun _ stopped => stopped
  · exact takes_of_calm .writeOutput failed

theorem settle_takes {draining : Bool} {reply : Except EncoderError SubmitStatus}
    {outcome : Except (Failure EncodeError) Progress}
    (ran : (settle draining reply).run context = (outcome, last)) :
    Takes encoder context last outcome := by
  unfold settle at ran
  split at ran
  · rw [complete_eq] at ran
    refine Takes.after_calm (.get_bind fun context => .attemptSync _ _ _)
      (fun found context outcome last ran => ?_) ran
    cases found with
    | false => exact takes_of_calm (.pure _) ran
    | true => exact conclude_takes ran
  · exact takes_of_calm (.pure _) ran
  · exact takes_of_calm (.pure _) ran
  all_goals exact takes_of_calm (.bind (.report _) fun _ => .pure _) ran

/-- A round goes on without a change, or applies the one that is due after a file was written. -/
theorem round_takes {loop : LoopState} {outcome : Except (Failure EncodeError) RoundEnd}
    (ran : (round loop).run context = (outcome, last)) : Takes encoder context last outcome :=
  Takes.after_calm (.nextSubmission _) (fun (_, _) _ _ _ ran =>
    Takes.before_calm settle_takes (fun _ => .endRound _ _ _) ran) ran

end EncodeM

/-! ## The change -/

/-- From one state to another a change of the size was refused: the parameters have the new size,
and the surfaces are those there were. -/
structure Refuses (encoder : Encoder σ) (width height : UInt16) (error : EncodeError)
    (reached last : EncodeContext (σ × List Entry)) : Prop where
  options : last.options = reached.options
  encoder_eq : last.session.encoder = encoder.recorded
  framesWritten : last.framesWritten = reached.framesWritten
  params : last.params = reached.params.withResolution width height
  info : last.pool.info = reached.pool.info
  resets : last.resets = reached.resets
  calls : ∃ turns, last.session.transcript = reached.session.transcript ++ turns ∧
    Refusal width height last.params turns error

/-- The ways in which a change of the size ends. -/
inductive Alters (encoder : Encoder σ) (width height : UInt16)
    (reached last : EncodeContext (σ × List Entry)) : Except (Failure EncodeError) Unit → Prop
  | stopped (fault : Fault) : Alters encoder width height reached last (.error (.fault fault))
  | refused {error : EncodeError} (refuses : Refuses encoder width height error reached last) :
      Alters encoder width height reached last (.error (.error error))
  | resized (resizes : Resizes encoder width height reached last) :
      Alters encoder width height reached last (.ok ())

namespace EncodeM

variable {context last : EncodeContext (σ × List Entry)}
  {outcome : Except (Failure EncodeError) Unit}

/-- Without an answer to what surfaces the encoder needs there is no new pool. -/
theorem allocatePool_refused {error : EncodeError}
    (same : context.session.encoder = encoder.recorded)
    (ran : allocatePool.run context = (.error (.error error), last)) :
    ∃ cause, error = .encoder .surfaceRequest cause ∧
      last = context.book (context.session.surfaceRequest context.params) ∧
      last.session.encoder = encoder.recorded ∧
      last.session.transcript = context.session.transcript
        ++ [.surfaceRequest context.params (.error (.error cause))] := by
  have noted := Session.records_surfaceRequest same context.params
  have transcript := noted.transcript_eq
  rw [allocatePool, run_bind_ok (run_get context), run_bind, run_demand] at ran
  cases replied : (context.session.surfaceRequest context.params).reply with
  | ok request =>
    rw [replied] at ran
    cases ran
  | error failure =>
    rw [replied] at ran transcript
    cases failure <;> cases ran
    exact ⟨_, rfl, rfl, noted.encoder_eq.trans same, transcript⟩

theorem changeSize_alters {width height : UInt16}
    (same : context.session.encoder = encoder.recorded)
    (ran : (changeSize width height).run context = (outcome, last)) :
    Alters encoder width height context last outcome := by
  match outcome, ran with
  | .ok (), ran => exact .resized (changeSize_ok same ran)
  | .error (.fault fault), _ => exact .stopped fault
  | .error (.error error), ran =>
    refine .refused ?_
    rw [changeSize, run_bind_ok (run_modify _ _), run_bind_ok (run_get _), run_bind, run_call]
      at ran
    -- the encoder does not tell its parameters, does not take the new ones, or has no surfaces
    obtain ⟨failure, noted, replied⟩ | ⟨current, ⟨failure, noted, replied⟩ | ⟨noted, replied⟩⟩ :=
      Session.resetResolution_cases same (context.params.withResolution width height)
    · dsimp only at ran
      rw [replied] at ran
      cases failure with
      | fault fault => cases ran
      | error cause =>
        cases ran
        exact ⟨rfl, noted.encoder_eq.trans same, rfl, rfl, LockChange.info_foldl, rfl, _,
          noted.transcript_eq, .unknown cause⟩
    · dsimp only at ran
      rw [replied] at ran
      cases failure with
      | fault fault => cases ran
      | error cause =>
        cases ran
        exact ⟨rfl, noted.encoder_eq.trans same, rfl, rfl, LockChange.info_foldl, rfl, _,
          noted.transcript_eq, .notReset current cause⟩
    · dsimp only at ran
      rw [replied] at ran
      rcases run_bind_cases ran with ⟨request, pooled, _, ran⟩ | ⟨failure, failed, told⟩
      · cases ran
      · cases told
        obtain ⟨cause, rfl, rfl, encoder_eq, transcript⟩ :=
          allocatePool_refused (noted.encoder_eq.trans same) failed
        refine ⟨rfl, encoder_eq, rfl, rfl, LockChange.info_foldl.trans LockChange.info_foldl, rfl,
          _, ?_, .noSurfaces current cause⟩
        rw [transcript]
        exact (congrArg (· ++ _) noted.transcript_eq).trans (List.append_assoc _ _ _)

theorem applyChange_alters {change : ResolutionChange}
    (same : context.session.encoder = encoder.recorded)
    (ran : (applyChange change).run context = (outcome, last)) :
    (Steady encoder context last ∧ refusal? outcome = none) ∨
    ∃ source, Alters encoder change.width change.height { context with source } last outcome := by
  unfold applyChange at ran
  cases given : change.input with
  | none =>
    rw [given] at ran
    exact .inr ⟨context.source, changeSize_alters same ran⟩
  | some path =>
    rw [given] at ran
    rcases run_bind_cases ran with ⟨_, later, opened, ran⟩ | ⟨failure, failed, rfl⟩
    · obtain ⟨source, _, rfl⟩ := changeInput_ok opened
      exact .inr ⟨source, changeSize_alters same ran⟩
    · rw [changeInput, run_bind_ok (run_get context)] at failed
      split at failed <;> cases failed
      exact .inl ⟨Steady.onward.refl context, rfl⟩

/-- There is no change, or it is due and alters the size. -/
theorem applyDueChange_alters (same : context.session.encoder = encoder.recorded)
    (ran : applyDueChange.run context = (outcome, last)) :
    (Steady encoder context last ∧ refusal? outcome = none) ∨
    ∃ change source, context.options.resolutionChange = some change ∧
      change.afterFrames.toNat = context.framesWritten ∧
      Alters encoder change.width change.height { context with source } last outcome := by
  rw [applyDueChange, run_bind_ok (run_get context)] at ran
  cases asked : context.options.resolutionChange with
  | none =>
    rw [asked] at ran
    cases ran
    exact .inl ⟨Steady.onward.refl context, rfl⟩
  | some change =>
    rw [asked] at ran
    dsimp only at ran
    split at ran
    · obtain steady | ⟨source, alters⟩ := applyChange_alters same ran
      · exact .inl steady
      · exact .inr ⟨change, source, rfl, by assumption, alters⟩
    · cases ran
      exact .inl ⟨Steady.onward.refl context, rfl⟩

end EncodeM

/-! ## What has become of the size -/

/-- What has become of the picture size since set-up, and the refusal of a change if there was one.
Once a change was tried as many frames are written as it is to come after, so that it is not tried
again. -/
inductive Sizing (encoder : Encoder σ) (ready context : EncodeContext (σ × List Entry)) :
    Option EncodeError → Prop
  | agreed (steady : Steady encoder ready context) : Sizing encoder ready context none
  | changed {change : ResolutionChange} {reached begun : EncodeContext (σ × List Entry)}
      {source : Source} (asked : ready.options.resolutionChange = some change)
      (before : Steady encoder ready reached)
      (resizes : Resizes encoder change.width change.height { reached with source } begun)
      (after : Steady encoder begun context)
      (tried : change.afterFrames.toNat ≤ context.framesWritten) :
      Sizing encoder ready context none
  | refused {change : ResolutionChange} {reached left : EncodeContext (σ × List Entry)}
      {source : Source} {error : EncodeError}
      (asked : ready.options.resolutionChange = some change)
      (before : Steady encoder ready reached)
      (refuses : Refuses encoder change.width change.height error { reached with source } left)
      (after : Steady encoder left context)
      (tried : change.afterFrames.toNat ≤ context.framesWritten) :
      Sizing encoder ready context (some error)

namespace Sizing

variable {ready context last : EncodeContext (σ × List Entry)} {refusal : Option EncodeError}

/-- What has become of the size stays so where there is no change. -/
theorem goes_on (sizing : Sizing encoder ready context refusal)
    (steady : Steady encoder context last) : Sizing encoder ready last refusal := by
  cases sizing with
  | agreed before => exact .agreed (Steady.onward.trans before steady)
  | changed asked before resizes after tried =>
    exact .changed asked before resizes (Steady.onward.trans after steady)
      (Nat.le_trans tried steady.written)
  | refused asked before refuses after tried =>
    exact .refused asked before refuses (Steady.onward.trans after steady)
      (Nat.le_trans tried steady.written)

theorem options (sizing : Sizing encoder ready context refusal) :
    context.options = ready.options := by
  cases sizing with
  | agreed steady => exact steady.options
  | changed _ before resizes after _ =>
    exact after.options.trans (resizes.options.trans before.options)
  | refused _ before refuses after _ =>
    exact after.options.trans (refuses.options.trans before.options)

theorem encoder_eq (same : ready.session.encoder = encoder.recorded)
    (sizing : Sizing encoder ready context refusal) :
    context.session.encoder = encoder.recorded := by
  have keeps : ∀ {earlier}, earlier.session.encoder = encoder.recorded →
      Steady encoder earlier context → context.session.encoder = encoder.recorded := by
    intro earlier same steady
    obtain ⟨_, adds, _⟩ := steady.calls same
    exact adds.encoder_eq
  cases sizing with
  | agreed steady => exact keeps same steady
  | changed _ _ resizes after _ => exact keeps resizes.encoder_eq after
  | refused _ _ refuses after _ => exact keeps refuses.encoder_eq after

end Sizing

namespace EncodeM

variable {ready context last : EncodeContext (σ × List Entry)} {refusal : Option EncodeError}

/-- The step from one round to the next: it stops with a fault, or what has become of the size goes
on, with the refusal if the round ends with one. A change that was tried is not due again, since
more frames are written then. -/
theorem round_sizing {loop : LoopState} {outcome : Except (Failure EncodeError) RoundEnd}
    (same : ready.session.encoder = encoder.recorded)
    (sizing : Sizing encoder ready context refusal)
    (ran : (round loop).run context = (outcome, last)) :
    (∃ fault, outcome = .error (.fault fault)) ∨
      Sizing encoder ready last (refusal.or (refusal? outcome)) := by
  cases (round_takes ran : Takes encoder context last outcome) with
  | calmly steady unrefused =>
    rw [unrefused, Option.or_none]
    exact .inr (sizing.goes_on steady)
  | applying before count applied after told stops =>
    rw [told]
    have written := sizing.goes_on before
    obtain ⟨steady, unrefused⟩ | ⟨change, source, asked, due, alters⟩ :=
      applyDueChange_alters (written.encoder_eq same) applied
    · rw [unrefused, Option.or_none]
      exact .inr ((written.goes_on steady).goes_on after)
    rw [written.options] at asked
    cases sizing with
    | agreed steady =>
      have reached := Steady.onward.trans steady before
      cases alters with
      | stopped fault => exact .inl ⟨fault, stops fault rfl⟩
      | refused refuses =>
        obtain ⟨turns, transcript, refusal⟩ := refuses.calls
        refine .inr (.goes_on ?_ after)
        rw [Option.none_or, refusal?, Failure.refusal?, if_pos refusal.isRefusal]
        exact .refused asked reached refuses (Steady.onward.refl _)
          (refuses.framesWritten ▸ Nat.le_of_eq due)
      | resized resizes =>
        exact .inr (.changed asked reached resizes after
          (Nat.le_trans (Nat.le_of_eq (due.trans resizes.framesWritten.symm)) after.written))
    | changed asked' _ _ _ tried =>
      -- the same change would be due again, and more frames are written than it comes after
      cases asked'.symm.trans asked
      omega
    | refused asked' _ _ _ tried =>
      cases asked'.symm.trans asked
      omega

/-- What has become of the size between two rounds, by induction on the rounds. -/
theorem Reached.sizing {first : EncodeContext (σ × List Entry)} {count : Nat} {loop : LoopState}
    (same : ready.session.encoder = encoder.recorded)
    (sizing : Sizing encoder ready first refusal) (reached : Reached first count loop context) :
    Sizing encoder ready context refusal := by
  induction reached with
  | start => exact sizing
  | next _ ran ih =>
    obtain ⟨_, stopped⟩ | sizing := round_sizing same ih ran
    · cases stopped
    · rwa [refusal?, Option.or_none] at sizing

/-- What a loop leaves that does not stop with a fault. -/
theorem runLoop_sizing {outcome : Except EncodeError StopReason}
    (same : ready.session.encoder = encoder.recorded)
    (sizing : Sizing encoder ready context refusal)
    (ran : runLoop.run context = (Attempt.ofError outcome, last)) :
    Sizing encoder ready last (refusal.or (refusal? (Attempt.ofError outcome))) := by
  rw [runLoop, run_bind_ok (run_get context)] at ran
  obtain ⟨_, _, loop, middle, reached, ended⟩ | ⟨_, _, unfinished⟩ := runRounds_cases .start ran
  · obtain ⟨fault, stopped⟩ | sizing := round_sizing same (Reached.sizing same sizing reached) ended
    · cases outcome <;> cases stopped
    · rwa [refusal?_map] at sizing
  · cases outcome <;> cases unfinished

end EncodeM

/-! ## One loop after the other -/

/-- The states after loops of a run that have come to these outcomes, each started where the one
before it has ended. -/
inductive Looped (first : EncodeContext σ) :
    List (Except EncodeError StopReason) → EncodeContext σ → Prop
  | ready {context : EncodeContext σ} (ran : EncodeM.setUp.run first = (.ok (), context)) :
      Looped first [] context
  | again {outcomes : List (Except EncodeError StopReason)}
      {outcome : Except EncodeError StopReason} {context last : EncodeContext σ}
      (before : Looped first outcomes context)
      (ran : EncodeM.runLoop.run context = (Attempt.ofError outcome, last)) :
      Looped first (outcomes ++ [outcome]) last

/-- A loop that comes to its end in its first round. -/
theorem Looped.again_of_round {first context last : EncodeContext σ}
    {outcomes : List (Except EncodeError StopReason)} {outcome : Except EncodeError StopReason}
    (before : Looped first outcomes context)
    (ran : (EncodeM.round .start).run context = ((Attempt.ofError outcome).map .stop, last)) :
    Looped first (outcomes ++ [outcome]) last := by
  refine before.again ?_
  rw [EncodeM.runLoop, EncodeM.run_bind_ok (EncodeM.run_get context)]
  exact EncodeM.run_runRounds_of_ended .start ran
    (Nat.lt_of_lt_of_le (by decide) (Nat.le_add_left 0x4000000000000000 _))

/-- The first refusal among the outcomes of loops. -/
def firstRefusal? (outcomes : List (Except EncodeError StopReason)) : Option EncodeError :=
  outcomes.findSome? fun outcome => refusal? (Attempt.ofError outcome)

theorem firstRefusal?_append_singleton (outcomes : List (Except EncodeError StopReason))
    (outcome : Except EncodeError StopReason) : firstRefusal? (outcomes ++ [outcome])
      = (firstRefusal? outcomes).or (refusal? (Attempt.ofError outcome)) := by
  rw [firstRefusal?, List.findSome?_append, List.findSome?_singleton]
  rfl

/-- What has become of the size after some loops, by induction on the loops. -/
theorem Looped.sizing {first context : EncodeContext (σ × List Entry)}
    {outcomes : List (Except EncodeError StopReason)}
    (same : first.session.encoder = encoder.recorded) (fresh : first.session.transcript = [])
    (looped : Looped first outcomes context) :
    ∃ ready, Ready encoder first ready ∧
      Sizing encoder ready context (firstRefusal? outcomes) := by
  induction looped with
  | ready ran => exact ⟨_, EncodeM.setUp_ok same fresh ran, .agreed (Steady.onward.refl _)⟩
  | @again outcomes outcome _ _ _ ran ih =>
    obtain ⟨ready, up, sizing⟩ := ih
    rw [firstRefusal?_append_singleton]
    exact ⟨ready, up, EncodeM.runLoop_sizing up.period.encoder_eq sizing ran⟩

/-- What was submitted up to a state that is reached without a change. -/
theorem Ready.submitted {first ready reached : EncodeContext (σ × List Entry)}
    (up : Ready encoder first ready) (steady : Steady encoder ready reached) :
    SubmitsOnly ready.params.frameInfo reached.session.transcript ∧
      ∀ turn ∈ ready.session.transcript, turn ∈ reached.session.transcript := by
  obtain ⟨turns, adds, only⟩ := steady.calls up.period.encoder_eq
  rw [up.period.info] at only
  rw [adds.transcript_eq]
  exact ⟨.append (.of_eq_nil up.unsubmitted) only, fun turn => List.mem_append_left turns⟩

/-- The summary tells the size of the parameters and the number of surfaces in the pool. -/
theorem EncodeM.finish_ok {context last : EncodeContext σ} {reason : StopReason}
    {summary : EncodeSummary} (ran : (finish reason).run context = (.ok summary, last)) :
    summary.frameInfo = context.params.frameInfo ∧ summary.poolSize = context.pool.size ∧
      summary.resets = context.resets := by
  rw [finish, run_bind_ok (run_get context), run_bind_ok (run_report _ _)] at ran
  obtain ⟨_, closed, closes, ran⟩ := run_bind_eq_ok ran
  obtain ⟨_, rfl⟩ := run_demand_eq_ok closes
  rw [run_bind_ok (run_get _)] at ran
  dsimp only at ran
  have size : ∀ answer : Answer (Session σ) Unit, ((context.report
      (.encodingFinished context.framesWritten reason)).book answer).pool.size
        = context.pool.size :=
    fun _ => LockChange.size_foldl
  split at ran <;> cases ran <;> exact ⟨rfl, size _, rfl⟩

/-- As long as no loop has ended with a refusal, the parameters tell the size of the surfaces in the
pool: the one agreed on first, of which all surfaces are that were submitted; or that of the change,
of which all are that were submitted after the encoder had agreed to it. Once one has, the
parameters tell the size of the change, and the pool keeps the one agreed on first, of which all
surfaces are that were submitted before and after the refusal. The summary tells the size of the
parameters in either case. -/
theorem sizes_agree_unless_refused {state : σ} {source : Source} {options : EncodeOptions}
    {store : FileStore} {log : Array Event} {outcomes : List (Except EncodeError StopReason)}
    {context : EncodeContext (σ × List Entry)}
    (looped : Looped (.start (.ofEncoder encoder.recorded (state, [])) source options store log)
      outcomes context) :
    ∃ outcome agreed,
      .query (.jpeg options.width options.height options.frameRate options.quality)
        (.ok (outcome, agreed)) ∈ context.session.transcript ∧
      (firstRefusal? outcomes = none →
        context.params.frameInfo = context.pool.info ∧
        ((context.resets = 0 ∧ context.params = agreed ∧
            SubmitsOnly agreed.frameInfo context.session.transcript) ∨
          ∃ change before current request later,
            options.resolutionChange = some change ∧ context.resets = 1 ∧
            context.params = agreed.withResolution change.width change.height ∧
            context.session.transcript = before ++ [.currentParams (.ok current),
              .reset context.params (.ok ()), .surfaceRequest context.params (.ok request)]
              ++ later ∧
            SubmitsOnly agreed.frameInfo before ∧
            SubmitsOnly context.params.frameInfo later)) ∧
      (∀ error, firstRefusal? outcomes = some error →
        ∃ change before turns later,
          options.resolutionChange = some change ∧ context.resets = 0 ∧
          context.params = agreed.withResolution change.width change.height ∧
          context.pool.info = agreed.frameInfo ∧
          context.session.transcript = before ++ turns ++ later ∧
          Refusal change.width change.height context.params turns error ∧
          SubmitsOnly agreed.frameInfo context.session.transcript) ∧
      ∀ reason summary last, (EncodeM.finish reason).run context = (.ok summary, last) →
        summary.frameInfo = context.params.frameInfo ∧ summary.poolSize = context.pool.size ∧
          summary.resets = context.resets := by
  obtain ⟨ready, up, sizing⟩ := looped.sizing rfl rfl
  obtain ⟨outcome, told⟩ := up.agreed
  have query : _ ∈ ready.session.transcript :=
    (List.mem_filter.1 (told ▸ List.mem_singleton_self _)).1
  have options_eq : ready.options = options := up.options
  have info := up.period.info
  have unreset : ready.resets = 0 := up.resets
  generalize firstRefusal? outcomes = refusal at sizing ⊢
  refine ⟨outcome, ready.params, ?_⟩
  cases sizing with
  | agreed steady =>
    obtain ⟨only, mem⟩ := up.submitted steady
    refine ⟨mem _ query, fun _ => ⟨?_, .inl ⟨steady.resets.trans unreset, steady.params, only⟩⟩,
      nofun, fun _ _ _ => EncodeM.finish_ok⟩
    rw [steady.params, steady.info, info]
  | @changed change reached begun source asked before resizes after tried =>
    obtain ⟨only, mem⟩ := up.submitted before
    obtain ⟨current, request, transcript, pool⟩ := resizes.calls
    obtain ⟨turns, adds, later⟩ := after.calls resizes.encoder_eq
    have begun_info : begun.pool.info = begun.params.frameInfo := by
      rw [pool]
      rfl
    have whole : context.session.transcript = reached.session.transcript ++
        [.currentParams (.ok current), .reset context.params (.ok ()),
          .surfaceRequest context.params (.ok request)] ++ turns := by
      rw [adds.transcript_eq, transcript, after.params]
    refine ⟨?_, fun _ => ⟨?_, .inr ⟨change, reached.session.transcript, current, request, turns,
      options_eq ▸ asked, ?_, ?_, whole, only, ?_⟩⟩, nofun, fun _ _ _ => EncodeM.finish_ok⟩
    · rw [whole, List.append_assoc]
      exact List.mem_append_left _ (mem _ query)
    · rw [after.params, after.info, begun_info]
    · rw [after.resets, resizes.resets]
      exact congrArg (· + 1) (before.resets.trans unreset)
    · rw [after.params, resizes.params]
      exact congrArg (EncodeParams.withResolution · _ _) before.params
    · rw [after.params, ← begun_info]
      exact later
  | @refused change reached left source error asked before refuses after tried =>
    obtain ⟨only, mem⟩ := up.submitted before
    obtain ⟨turns, transcript, refusal⟩ := refuses.calls
    obtain ⟨later, adds, rest⟩ := after.calls refuses.encoder_eq
    have kept : left.pool.info = ready.params.frameInfo :=
      refuses.info.trans (before.info.trans info)
    have whole : context.session.transcript = reached.session.transcript ++ turns ++ later := by
      rw [adds.transcript_eq, transcript]
    refine ⟨?_, nofun, ?_, fun _ _ _ => EncodeM.finish_ok⟩
    · rw [whole, List.append_assoc]
      exact List.mem_append_left _ (mem _ query)
    rintro _ ⟨⟩
    refine ⟨change, reached.session.transcript, turns, later, options_eq ▸ asked, ?_, ?_,
      after.info.trans kept, whole, ?_, ?_⟩
    · rw [after.resets, refuses.resets]
      exact before.resets.trans unreset
    · rw [after.params, refuses.params]
      exact congrArg (EncodeParams.withResolution · _ _) before.params
    · rw [after.params]
      exact refusal
    · rw [kept] at rest
      rw [whole]
      exact .append (.append only (.of_eq_nil refusal.submittedIn_eq)) rest

/-- A run whose encoder refuses to change the size after the first frame. -/
def refusedChange : EncodeContext (ScriptedEncoder × List Entry) :=
  .start (.ofEncoder ScriptedEncoder.encoder.recorded ({ ScriptedEncoder.usual with
      query := [some (.ok fun params =>
        { params with frameInfo := ⟨⟨25, 1⟩, 0, 0, 1, 1, 2, 2⟩ })]
      reset := [some (.error (.backend "busy"))] }, []))
    (.ofBytes #[1, 2, 3, 4, 5, 6, 7, 8, 9])
    { EncodeOptions.ofInput "" 1 1 with
      maxFrames := some 2
      resolutionChange := some ⟨1, 2, 2, none⟩ } .empty #[]

/-- The loop that ends with the refusal leaves a size in the parameters of which there are no
surfaces. -/
theorem refused_size_stays_in_params :
    ∃ context, Looped refusedChange [.error (.resetFailed 2 2)] context ∧
      context.params.frameInfo ≠ context.pool.info := by
  have up : (EncodeM.setUp.run refusedChange).1 = .ok () := by decide +kernel
  have ends : ((EncodeM.round .start).run (EncodeM.setUp.run refusedChange).2).1
      = .error (.error (.resetFailed 2 2)) := by decide +kernel
  refine ⟨((EncodeM.round .start).run (EncodeM.setUp.run refusedChange).2).2, ?_, ?_⟩
  · exact (Looped.ready (Prod.ext up rfl)).again_of_round (Prod.ext ends rfl)
  · decide +kernel

/-- Another loop goes on with the surfaces that there are, up to the frame limit. -/
theorem sizes_agree_unless_refused_and_again :
    ∃ (context : EncodeContext (ScriptedEncoder × List Entry)) (agreed : EncodeParams),
      Looped refusedChange [.error (.resetFailed 2 2), .ok .frameLimit] context ∧
      context.framesWritten = 2 ∧ context.resets = 0 ∧
      context.params = agreed.withResolution 2 2 ∧ context.pool.info = agreed.frameInfo ∧
      agreed.frameInfo = ⟨⟨25, 1⟩, 0, 0, 1, 1, 2, 2⟩ ∧
      SubmitsOnly agreed.frameInfo context.session.transcript ∧
      (submittedIn context.session.transcript).length = 2 := by
  let first := (EncodeM.setUp.run refusedChange).2
  let once := ((EncodeM.round .start).run first).2
  let twice := ((EncodeM.round .start).run once).2
  have up : (EncodeM.setUp.run refusedChange).1 = .ok () := by decide +kernel
  have ends : ((EncodeM.round .start).run first).1 = .error (.error (.resetFailed 2 2)) := by
    decide +kernel
  have limit : ((EncodeM.round .start).run once).1 = .ok (.stop .frameLimit) := by decide +kernel
  have looped : Looped refusedChange [.error (.resetFailed 2 2)] once :=
    (Looped.ready (Prod.ext up rfl)).again_of_round (Prod.ext ends rfl)
  have looped : Looped refusedChange [.error (.resetFailed 2 2), .ok .frameLimit] twice :=
    looped.again_of_round (Prod.ext limit rfl)
  have count : twice.framesWritten = 2 := by decide +kernel
  have submitted : (submittedIn twice.session.transcript).length = 2 := by decide +kernel
  have size : twice.pool.info = ⟨⟨25, 1⟩, 0, 0, 1, 1, 2, 2⟩ := by decide +kernel
  -- Only what is known of the last state matters from here on.
  clear_value twice
  obtain ⟨_, agreed, _, _, refused, _⟩ := sizes_agree_unless_refused looped
  obtain ⟨change, _, _, _, asked, resets, params, info, _, _, only⟩ := refused _ rfl
  cases asked
  exact ⟨twice, agreed, looped, count, resets, params, info, info.symm.trans size, only, submitted⟩

end Nv12Jpeg
