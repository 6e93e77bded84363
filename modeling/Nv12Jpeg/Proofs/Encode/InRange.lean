import Nv12Jpeg.Proofs.CompletionQueue
import Nv12Jpeg.Proofs.Encode.Numbering
import Nv12Jpeg.Proofs.Encode.Offers
import Nv12Jpeg.Proofs.Surface.Rows

/-!
# Runs that stay in their surfaces

A run fills surfaces of one pool after the other and hands them to its encoder. If the rows of the
picture lie one behind the other in each of them, no byte range leaves a surface.

* `Surface.Usable` — surfaces that can be filled and copied;
* `Encoder.Careful` — encoders that go out of range only on other surfaces;
* `EncodeM.Stays` — steps that keep a property of the state and do not go out of range;
* `Fitting` — the property that is kept: the pool, and the one that would be allocated next, have
  usable surfaces;
* `aligned_surfaces_are_usable` — what that says about picture sizes and whole runs.
-/

namespace Nv12Jpeg

/-- A surface of full size whose rows lie one behind the other. -/
structure Surface.Usable (surface : Surface) : Prop where
  apart : surface.info.RowsApart
  size_eq : surface.data.size = surface.info.surfaceSize

/-- A surface can be filled from any source, cut into its planes, and copied if it has columns. -/
structure Surface.Works (surface : Surface) : Prop where
  fills : ∀ store source, ∃ ending filled next,
    surface.readFrame store source = .ok (ending, filled, next) ∧
      filled.info = surface.info ∧ filled.data.size = surface.data.size
  splits : surface.info.chromaOffset ≤ surface.data.size
  copies : 0 < surface.info.cropW.toNat → ∃ frame, surface.toFrame = .ok frame

theorem Surface.Usable.works {surface : Surface} (h : surface.Usable) : surface.Works where
  fills := by
    intro store source
    rw [h.size_eq]
    exact Surface.readFrame_ok h.apart h.size_eq store source
  splits := by
    rw [h.size_eq]
    exact surface.info.chromaOffset_le
  copies := Surface.toFrame_ok h.apart h.size_eq

/-- A computation does not end because a byte range left its buffer. -/
def Attempt.InRange {ε α : Type} (attempt : Attempt ε α) : Prop :=
  attempt ≠ .error (.fault .outOfRange)

/-- No call goes out of range, unless a surface is submitted that is not usable. -/
structure Encoder.Careful {σ : Type} (encoder : Encoder σ) : Prop where
  attach : ∀ accelerator state, (encoder.attach accelerator state).reply.InRange
  query : ∀ params state, (encoder.query params state).reply.InRange
  init : ∀ params state, (encoder.init params state).reply.InRange
  surfaceRequest : ∀ params state, (encoder.surfaceRequest params state).reply.InRange
  currentParams : ∀ state, (encoder.currentParams state).reply.InRange
  reset : ∀ params state, (encoder.reset params state).reply.InRange
  submit : ∀ submission state, (∀ given, submission = some given → given.surface.Usable) →
    (encoder.submit submission state).reply.InRange
  sync : ∀ sync waitMs bitstream state, (encoder.sync sync waitMs bitstream state).1.reply.InRange
  close : ∀ state, (encoder.close state).reply.InRange

/-- Asked for parameters, the encoder takes their geometry, or one whose allocation covers the
picture. -/
def Encoder.Accepts {σ : Type} (encoder : Encoder σ) (asked : EncodeParams) : Prop :=
  ∀ state outcome agreed, (encoder.query asked state).reply = .ok (outcome, agreed) →
    agreed.frameInfo = asked.frameInfo ∨ agreed.frameInfo.Covering

/-! ## Steps that do not go out of range -/

namespace EncodeM

variable {σ α β : Type}

/-- Steps have come to a state with the property, and to a value of this kind or a failure that is
not that a byte range left its buffer. -/
structure Lands (holds : EncodeContext σ → Prop) (yields : α → Prop)
    (ran : Attempt EncodeError α × EncodeContext σ) : Prop where
  kept : holds ran.2
  inRange : ran.1.InRange
  value : ∀ value, ran.1 = .ok value → yields value

/-- From a state with the property steps come to another one, without going out of range. -/
def Stays (holds : EncodeContext σ → Prop) (yields : α → Prop) (steps : EncodeM σ α) : Prop :=
  ∀ context, holds context → Lands holds yields (steps.run context)

variable {holds : EncodeContext σ → Prop} {yields : α → Prop} {yields' : β → Prop}
  {context : EncodeContext σ}

namespace Lands

theorem ok {value : α} (kept : holds context) (yielded : yields value) :
    Lands holds yields (.ok value, context) := by
  refine ⟨kept, nofun, ?_⟩
  rintro _ ⟨⟩
  exact yielded

theorem error {failure : Failure EncodeError} (kept : holds context)
    (inside : failure ≠ .fault .outOfRange) :
    Lands holds yields ((.error failure, context) : Attempt EncodeError α × EncodeContext σ) :=
  ⟨kept, fun same => inside (Except.error.inj same), nofun⟩

/-- Steps go on from where others have come to. -/
theorem bind {later : EncodeContext σ → Prop} {first : EncodeM σ α} {next : α → EncodeM σ β}
    (h : Lands holds yields (first.run context)) (weaker : ∀ context, holds context → later context)
    (h' : ∀ value, yields value → ∀ context, holds context →
      Lands later yields' ((next value).run context)) :
    Lands later yields' ((first >>= next).run context) := by
  obtain ⟨kept, inside, yielded⟩ := h
  rw [run_bind]
  cases ran : first.run context with
  | mk outcome reached =>
    rw [ran] at kept inside yielded
    cases outcome with
    | ok value => exact h' value (yielded value rfl) reached kept
    | error failure =>
      exact .error (weaker _ kept) fun same => inside (congrArg Except.error same)

end Lands

namespace Stays

theorem pure {value : α} (yielded : yields value) :
    Stays holds yields (Pure.pure value : EncodeM σ α) :=
  fun _ held => .ok held yielded

theorem fail (error : EncodeError) : Stays holds yields (EncodeM.fail error : EncodeM σ α) :=
  fun _ held => .error held nofun

theorem bind {first : EncodeM σ α} {next : α → EncodeM σ β} (h : Stays holds yields first)
    (h' : ∀ value, yields value → Stays holds yields' (next value)) :
    Stays holds yields' (first >>= next) :=
  fun context held => (h context held).bind (fun _ => id) h'

/-- Steps that depend on the state. -/
theorem get_bind {next : EncodeContext σ → EncodeM σ α}
    (h : ∀ context, holds context → Lands holds yields ((next context).run context)) :
    Stays holds yields (MonadState.get >>= next) := by
  intro context held
  rw [run_bind_ok (run_get context)]
  exact h context held

theorem modifies {change : EncodeContext σ → EncodeContext σ}
    (kept : ∀ context, holds context → holds (change context)) :
    Stays holds (fun _ => True) (modify change : EncodeM σ PUnit) :=
  fun context held => .ok (kept context held) trivial

end Stays

end EncodeM

/-! ## The property that a run keeps -/

/-- A run with this encoder and these options whose pool has usable surfaces, and whose parameters
are of a kind. -/
structure Fitting {σ : Type} (encoder : Encoder σ) (options : EncodeOptions)
    (kind : EncodeParams → Prop) (context : EncodeContext σ) : Prop where
  encoder_eq : context.session.encoder = encoder
  options_eq : context.options = options
  params : kind context.params
  apart : context.pool.info.RowsApart
  size_eq : context.pool.buffer.size = context.pool.info.surfaceSize * context.pool.size

/-- Parameters whose geometry gives usable surfaces. -/
def EncodeParams.Fit (params : EncodeParams) : Prop := params.frameInfo.RowsApart

theorem Encoder.Accepts.fit {σ : Type} {encoder : Encoder σ} {asked agreed : EncodeParams}
    {state : σ} {outcome : QueryOutcome} (accepts : encoder.Accepts asked) (fit : asked.Fit)
    (replied : (encoder.query asked state).reply = .ok (outcome, agreed)) : agreed.Fit := by
  obtain same | covering := accepts state outcome agreed replied
  · rw [EncodeParams.Fit, same]
    exact fit
  · exact covering.rowsApart

namespace Fitting

variable {σ α : Type} {encoder : Encoder σ} {options : EncodeOptions} {kind : EncodeParams → Prop}
  {context : EncodeContext σ}

/-- Before parameters were agreed on there are those that were asked for. -/
theorem of_asked {asked : EncodeParams} (h : Fitting encoder options (· = asked) context)
    (fit : asked.Fit) : Fitting encoder options EncodeParams.Fit context :=
  { h with params := h.params ▸ fit }

/-- Calls change nothing of it. -/
theorem book (h : Fitting encoder options kind context) {answer : Answer (Session σ) α}
    (same : answer.state.encoder = context.session.encoder) :
    Fitting encoder options kind (context.book answer) where
  encoder_eq := same.trans h.encoder_eq
  options_eq := h.options_eq
  params := h.params
  apart := by
    have info_eq : (context.book answer).pool.info = context.pool.info := LockChange.info_foldl
    rw [info_eq]
    exact h.apart
  size_eq := by
    have info_eq : (context.book answer).pool.info = context.pool.info := LockChange.info_foldl
    have count_eq : (context.book answer).pool.size = context.pool.size := LockChange.size_foldl
    have buffer_eq : (context.book answer).pool.buffer = context.pool.buffer :=
      LockChange.buffer_foldl
    rw [info_eq, count_eq, buffer_eq, h.size_eq]

/-- A surface of the pool is usable. -/
theorem usable (h : Fitting encoder options kind context) {index : Nat} {surface : Surface}
    (shown : context.pool.surface? index = some surface) : surface.Usable := by
  have info_eq := SurfacePool.info_of_surface?_eq_some shown
  have size := SurfacePool.size_of_surface?_eq_some h.size_eq shown
  exact ⟨info_eq ▸ h.apart, info_eq ▸ size⟩

/-- Filling a surface does not go out of range. -/
theorem readFrame_ok (h : Fitting encoder options kind context) {index : Nat}
    (within : index < context.pool.size) (store : FileStore) (source : Source) :
    ∃ how data next, context.pool.readFrame index store source
      = .ok (some how, context.pool.withData index data, next) := by
  have shown := SurfacePool.surface?_eq_some within
  obtain ⟨apart, size_eq⟩ := h.usable shown
  obtain ⟨how, filled, next, read, _⟩ := Surface.readFrame_ok apart size_eq store source
  refine ⟨how, filled.data, next, ?_⟩
  rw [SurfacePool.readFrame, shown]
  exact bind_eq_ok.2 ⟨_, read, rfl⟩

end Fitting

namespace EncodeM

variable {σ α : Type} {encoder : Encoder σ} {options : EncodeOptions} {kind : EncodeParams → Prop}
  {holds : EncodeContext σ → Prop} {context : EncodeContext σ}

theorem stays_report (event : Event) :
    Stays (Fitting encoder options kind) (fun _ => True) (report event : EncodeM σ Unit) :=
  fun _ held => .ok { held with } trivial

/-- The reply to a call that has not gone out of range. -/
theorem lands_heard {reply : Attempt EncoderError α} (kept : holds context)
    (inside : reply.InRange) : Lands holds (fun _ => True) (heard reply, context) := by
  cases reply with
  | ok value => exact .ok kept trivial
  | error failure =>
    cases failure with
    | error error => exact .ok kept trivial
    | fault fault =>
      refine .error kept ?_
      rintro ⟨⟩
      exact inside rfl

/-- A call that does not go out of range. -/
theorem stays_call {make : Session σ → Answer (Session σ) α}
    (careful : ∀ session, session.encoder = encoder →
      (make session).reply.InRange ∧ (make session).state.encoder = session.encoder) :
    Stays (Fitting encoder options kind) (fun _ => True) (call make) := by
  intro context held
  obtain ⟨inside, same⟩ := careful context.session held.encoder_eq
  rw [run_call]
  exact lands_heard (held.book same) inside

theorem stays_demand {step : EncoderStep} {make : Session σ → Answer (Session σ) α}
    (careful : ∀ session, session.encoder = encoder →
      (make session).reply.InRange ∧ (make session).state.encoder = session.encoder) :
    Stays (Fitting encoder options kind) (fun _ => True) (demand step make) := by
  refine .bind (stays_call careful) fun reply _ => ?_
  cases reply with
  | ok value => exact .pure trivial
  | error error => exact .fail _

theorem stays_ofFault {result : Except Fault α} (inside : result ≠ .error .outOfRange) :
    Stays (Fitting encoder options kind) (fun _ => True) (ofFault result : EncodeM σ α) := by
  cases result with
  | ok value => exact .pure trivial
  | error fault =>
    refine fun _ held => .error held ?_
    rintro ⟨⟩
    exact inside rfl

end EncodeM

/-! ## Calls on a session -/

section Session

variable {σ : Type} {encoder : Encoder σ} {session : Session σ}

/-- A session passes a query on, and may report it. -/
theorem Session.reply_query (session : Session σ) (params : EncodeParams) :
    (session.query params).reply = (session.encoder.query params session.state).reply ∧
      (session.query params).state.encoder = session.encoder := by
  unfold Session.query
  dsimp only
  split <;> exact ⟨rfl, rfl⟩

theorem Encoder.Careful.session_resetResolution (careful : encoder.Careful)
    (same : session.encoder = encoder) (params : EncodeParams) :
    (session.resetResolution params).reply.InRange ∧
      (session.resetResolution params).state.encoder = session.encoder := by
  subst same
  unfold Session.resetResolution
  have asked := careful.currentParams session.state
  dsimp only
  split
  · rename_i fault replied
    refine ⟨?_, rfl⟩
    rintro ⟨⟩
    exact asked replied
  · exact ⟨nofun, rfl⟩
  · have done := careful.reset params (session.encoder.currentParams session.state).state
    split
    · rename_i fault replied
      refine ⟨?_, rfl⟩
      rintro ⟨⟩
      exact done replied
    · exact ⟨nofun, rfl⟩
    · exact ⟨nofun, rfl⟩

end Session

/-! ## The steps of a run -/

section Steps

variable {σ : Type} {encoder : Encoder σ} {options : EncodeOptions} {kind : EncodeParams → Prop}

namespace EncodeM

theorem stays_openAccelerator (careful : encoder.Careful) :
    Stays (Fitting encoder options kind) (fun _ => True) (openAccelerator : EncodeM σ Unit) := by
  refine .get_bind fun context held => ?_
  split
  · exact .error held nofun
  · exact .ok held trivial
  · refine Stays.bind (stays_demand fun session same => ?_) (fun _ _ => ?_) context held
    · subst same
      exact ⟨careful.attach _ _, rfl⟩
    · exact .modifies fun _ held => { held with }

/-- Parameters are agreed on that fit. -/
theorem lands_negotiate (careful : encoder.Careful) {asked : EncodeParams} (fit : asked.Fit)
    (accepts : encoder.Accepts asked) {context : EncodeContext σ}
    (held : Fitting encoder options (· = asked) context) :
    Lands (Fitting encoder options EncodeParams.Fit) (fun _ => True) (negotiate.run context) := by
  have params := held.params
  rw [negotiate, run_bind_ok (run_get context), params]
  obtain ⟨replied, same⟩ := context.session.reply_query asked
  rw [held.encoder_eq] at replied
  rw [run_bind, run_demand]
  have kept := held.book same
  cases reply : (context.session.query asked).reply with
  | error failure =>
    have inside := careful.query asked context.session.state
    rw [← replied, reply] at inside
    cases failure with
    | error error => exact .error (kept.of_asked fit) nofun
    | fault fault =>
      refine .error (kept.of_asked fit) ?_
      rintro ⟨⟩
      exact inside rfl
  | ok result =>
    -- from here on the parameters are the ones agreed on, which need not be those asked for
    obtain ⟨outcome, agreed⟩ := result
    have agreed_fit : agreed.Fit := accepts.fit fit (replied ▸ reply)
    refine Stays.bind (.modifies fun _ held => { held with params := agreed_fit })
      (fun _ _ => ?_) _ (kept.of_asked fit)
    have starts : Stays (Fitting encoder options EncodeParams.Fit) (fun _ => True)
        (demand .init (Session.init agreed) >>= fun _ => report .initializationTimed) := by
      refine .bind (stays_demand fun session same => ?_) fun _ _ => stays_report _
      subst same
      exact ⟨careful.init _ _, rfl⟩
    dsimp only
    split
    · exact .bind (stays_report _) fun _ _ => starts
    · exact starts

/-- A pool of fitting parameters has usable surfaces. -/
theorem stays_allocatePool (careful : encoder.Careful) :
    Stays (Fitting encoder options EncodeParams.Fit) (fun _ => True)
      (allocatePool : EncodeM σ SurfaceRequest) := by
  refine .get_bind fun context held => ?_
  have fit := held.params
  refine Stays.bind (stays_demand fun session same => ?_) (fun request _ => ?_) context held
  · subst same
    exact ⟨careful.surfaceRequest _ _, rfl⟩
  · refine .bind (.modifies fun later held => ?_) fun _ _ => .pure trivial
    exact ⟨held.encoder_eq, held.options_eq, held.params, fit, SurfacePool.size_buffer_allocate _ _⟩

/-- Set-up leads to a fitting state. -/
theorem lands_setUp (careful : encoder.Careful) {asked : EncodeParams} (fit : asked.Fit)
    (accepts : encoder.Accepts asked) {context : EncodeContext σ}
    (held : Fitting encoder options (· = asked) context) :
    Lands (Fitting encoder options EncodeParams.Fit) (fun _ => True) (setUp.run context) := by
  have weaker : ∀ context : EncodeContext σ, Fitting encoder options (· = asked) context →
      Fitting encoder options EncodeParams.Fit context := fun _ held => held.of_asked fit
  rw [setUp, run_bind_ok (run_get context)]
  refine (stays_report _ context held).bind weaker fun _ _ context held => ?_
  refine (stays_openAccelerator careful context held).bind weaker fun _ _ context held => ?_
  refine (lands_negotiate careful fit accepts held).bind (fun _ => id) fun _ _ => ?_
  refine Stays.bind (stays_allocatePool careful) fun request _ => ?_
  refine Stays.get_bind fun context held => ?_
  have allocated : Bitstream.allocate context.options.bitstreamCapacity ≠ .error .outOfRange := by
    rw [Bitstream.allocate, Size.buffer]
    split <;> rintro ⟨⟩
  refine Stays.bind (stays_ofFault allocated) (fun bitstream _ => ?_) context held
  refine .bind (.modifies fun _ held => { held with }) fun _ _ => ?_
  exact .get_bind fun context held => stays_report _ context held

/-- A frame is read into a usable surface. -/
theorem stays_readFrame :
    Stays (Fitting encoder options kind)
      (fun submission => ∀ given, submission = some given → given.surface.Usable)
      (readFrame : EncodeM σ (Option Submission)) := by
  intro context held
  cases free : context.pool.findFree with
  | none =>
    rw [readFrame, run_bind_ok (run_get context), free]
    exact .error held (by rintro ⟨⟩)
  | some index =>
    have within := (SurfacePool.findFree_eq_some free).1
    obtain ⟨how, data, next, read⟩ := held.readFrame_ok within context.store context.source
    have kept : Fitting encoder options kind
        { context with pool := context.pool.withData index data, source := next } :=
      ⟨held.encoder_eq, held.options_eq, held.params, held.apart,
        (Bytes.size_write _ _ _).trans held.size_eq⟩
    rw [run_readFrame free read]
    cases how with
    | complete =>
      refine .ok kept fun given same => ?_
      obtain ⟨surface, shown, rfl⟩ := Option.map_eq_some_iff.1 same
      exact kept.usable shown
    | ended => exact .ok kept (by rintro given ⟨⟩)
    | failed error => exact .error kept (by rintro ⟨⟩)

theorem stays_nextSubmission (careful : encoder.Careful) (draining : Bool) :
    Stays (Fitting encoder options kind) (fun _ => True)
      (nextSubmission draining : EncodeM σ (Except EncoderError SubmitStatus × Bool)) := by
  have submits : ∀ submission : Option Submission,
      (∀ given, submission = some given → given.surface.Usable) →
      Stays (Fitting encoder options kind) (fun _ => True) (call (Session.submit submission)) := by
    intro submission usable
    refine stays_call fun session same => ?_
    subst same
    exact ⟨careful.submit _ _ usable, rfl⟩
  unfold nextSubmission
  split
  · exact .bind (submits none nofun) fun _ _ => .pure trivial
  · refine .bind stays_readFrame fun submission usable => ?_
    cases submission with
    | some submission => exact .bind (submits (some submission) usable) fun _ _ => .pure trivial
    | none =>
      refine .bind (stays_report _) fun _ _ => ?_
      exact .bind (submits none nofun) fun _ _ => .pure trivial

theorem stays_syncOnce (careful : encoder.Careful) (sync : SyncPoint) :
    Stays (Fitting encoder options kind) (fun _ => True)
      (syncOnce sync : EncodeM σ (Except EncoderError SyncStatus)) := by
  intro context held
  have inside := careful.sync sync context.options.sync.waitMs context.bitstream
    context.session.state
  have aside : Fitting encoder options kind { context with
      bitstream := (context.session.sync sync context.options.sync.waitMs context.bitstream).2 } :=
    { held with }
  rw [← held.encoder_eq] at inside
  rw [run_syncOnce]
  exact lands_heard (aside.book rfl) inside

/-- Waiting for a result leaves the surfaces alone. -/
theorem stays_attemptSync (careful : encoder.Careful) (sync : SyncPoint) (left attempt : Nat) :
    Stays (Fitting encoder options kind) (fun _ => True)
      (attemptSync sync left attempt : EncodeM σ Bool) := by
  induction left generalizing attempt with
  | zero => exact .fail _
  | succ left ih =>
    refine .bind (stays_syncOnce careful sync) fun reply _ => ?_
    split
    · exact .pure trivial
    · exact .bind (stays_report _) fun _ _ => ih (attempt + 1)
    · refine .bind (stays_report _) fun _ _ => ?_
      exact .bind (.modifies fun _ held => { held with }) fun _ _ => .pure trivial
    · exact .fail _

theorem stays_writeOutput :
    Stays (Fitting encoder options kind) (fun _ => True) (writeOutput : EncodeM σ Unit) := by
  intro context held
  obtain ⟨fault, next, ended⟩ | ⟨_, _, ended⟩ | ⟨_, _, _, _, _, ⟨_, _, ended⟩ | ⟨_, _, ended⟩⟩ :=
    writeOutput_cases context
  · rw [ended]
    refine .error held ?_
    rintro ⟨⟩
    unfold nextFrame at next
    split at next <;> cases next
  · rw [ended]
    exact .error held nofun
  · rw [ended]
    exact .error { held with } nofun
  · rw [ended]
    exact .ok { held with } trivial

theorem stays_changeInput (path : String) :
    Stays (Fitting encoder options kind) (fun _ => True) (changeInput path : EncodeM σ Unit) := by
  refine .get_bind fun context held => ?_
  split
  · exact .error held nofun
  · exact .ok { held with } trivial

/-- A new picture size that there is room for gives usable surfaces again. -/
theorem stays_changeSize (careful : encoder.Careful) {width height : UInt16}
    (room : HasRoom width height) :
    Stays (Fitting encoder options EncodeParams.Fit) (fun _ => True)
      (changeSize width height : EncodeM σ Unit) := by
  refine .bind (.modifies fun context held => ?_) fun _ _ => ?_
  · -- whatever the geometry was, the new one is aligned to the new size
    exact { held with params := (FrameInfo.rowsApart_withCrop _ width height).2 room }
  · refine .get_bind fun context held => ?_
    refine Stays.bind (stays_call fun session same =>
      careful.session_resetResolution same _) (fun reply _ => ?_) context held
    split
    · refine .bind (stays_allocatePool careful) fun _ _ => ?_
      refine .bind (.modifies fun _ held => { held with }) fun _ _ => ?_
      exact .get_bind fun context held => stays_report _ context held
    · exact .fail _

theorem stays_applyDueChange (careful : encoder.Careful)
    (room : ∀ change, options.resolutionChange = some change → HasRoom change.width change.height) :
    Stays (Fitting encoder options EncodeParams.Fit) (fun _ => True)
      (applyDueChange : EncodeM σ Unit) := by
  refine .get_bind fun context held => ?_
  split
  · rename_i change asked
    rw [held.options_eq] at asked
    have changes : Stays (Fitting encoder options EncodeParams.Fit) (fun _ => True)
        (applyChange change : EncodeM σ Unit) := by
      unfold applyChange
      cases change.input with
      | none => exact stays_changeSize careful (room change asked)
      | some path =>
        exact .bind (stays_changeInput path) fun _ _ => stays_changeSize careful (room change asked)
    split
    · exact changes context held
    · exact .ok held trivial
  · exact .ok held trivial

theorem stays_settle (careful : encoder.Careful)
    (room : ∀ change, options.resolutionChange = some change → HasRoom change.width change.height)
    (draining : Bool) (reply : Except EncoderError SubmitStatus) :
    Stays (Fitting encoder options EncodeParams.Fit) (fun _ => True)
      (settle draining reply : EncodeM σ Progress) := by
  unfold settle
  split
  · refine .bind (.get_bind fun context held =>
      stays_attemptSync careful _ _ 1 context held) fun found _ => ?_
    cases found with
    | false => exact .pure trivial
    | true =>
      refine .bind stays_writeOutput fun _ _ => ?_
      refine .bind (stays_applyDueChange careful room) fun _ _ => ?_
      exact .get_bind fun context held => .ok held trivial
  · exact .pure trivial
  · exact .pure trivial
  all_goals exact .bind (stays_report _) fun _ _ => .pure trivial

theorem stays_endRound (loop : LoopState) (draining : Bool) (progress : Progress) :
    Stays (Fitting encoder options kind) (fun _ => True)
      (endRound loop draining progress : EncodeM σ RoundEnd) := by
  unfold endRound
  split
  · exact .pure trivial
  · split
    · refine .get_bind fun context held => ?_
      generalize (if progress = Progress.stalled then _ else _) = stalled
      split
      · exact Stays.bind (stays_report _) (fun _ _ => .pure trivial) context held
      · exact .ok held trivial
    · exact .pure trivial

/-- A loop does not go out of range, by induction on its rounds. -/
theorem stays_runRounds (careful : encoder.Careful)
    (room : ∀ change, options.resolutionChange = some change → HasRoom change.width change.height)
    (rounds : Nat) (loop : LoopState) :
    Stays (Fitting encoder options EncodeParams.Fit) (fun _ => True)
      (runRounds rounds loop : EncodeM σ StopReason) := by
  induction rounds generalizing loop with
  | zero => exact fun _ held => .error held nofun
  | succ rounds ih =>
    have round : Stays (Fitting encoder options EncodeParams.Fit) (fun _ => True)
        (round loop : EncodeM σ RoundEnd) :=
      .bind (stays_nextSubmission careful _) fun _ _ =>
        .bind (stays_settle careful room _ _) fun _ _ => stays_endRound _ _ _
    refine .bind round fun result _ => ?_
    cases result with
    | next loop => exact ih loop
    | stop reason => exact .pure trivial

theorem stays_finish (careful : encoder.Careful) (reason : StopReason) :
    Stays (Fitting encoder options kind) (fun _ => True)
      (finish reason : EncodeM σ EncodeSummary) := by
  have closes : Stays (Fitting encoder options kind) (fun _ => True)
      (demand .close Session.close : EncodeM σ Unit) := by
    refine stays_demand fun session same => ?_
    subst same
    unfold Session.close
    split
    · exact ⟨nofun, rfl⟩
    · exact ⟨careful.close _, rfl⟩
  refine .get_bind fun context held => ?_
  refine Stays.bind (stays_report _) (fun _ _ => .bind closes fun _ _ => ?_) context held
  refine .get_bind fun context held => ?_
  cases context.accelerator with
  | none => exact .ok held trivial
  | some accelerator => exact Stays.bind (stays_report _) (fun _ _ => .pure trivial) context held

/-- A whole run does not go out of range. -/
theorem lands_wholeRun (careful : encoder.Careful) {asked : EncodeParams} (fit : asked.Fit)
    (accepts : encoder.Accepts asked)
    (room : ∀ change, options.resolutionChange = some change → HasRoom change.width change.height)
    {context : EncodeContext σ} (held : Fitting encoder options (· = asked) context) :
    Lands (Fitting encoder options EncodeParams.Fit) (fun _ => True) (wholeRun.run context) := by
  refine (lands_setUp careful fit accepts held).bind (fun _ => id) fun _ _ => ?_
  refine Stays.bind (.get_bind fun context held =>
    stays_runRounds careful room _ _ context held) fun reason _ => ?_
  exact stays_finish careful reason

end EncodeM

/-- A run on a session with a careful encoder does not go out of range. -/
theorem Encoder.Careful.runToEnd {session : Session σ} (careful : session.encoder.Careful)
    (accepts : session.encoder.Accepts
      (.jpeg options.width options.height options.frameRate options.quality))
    (room : HasRoom options.width options.height)
    (later : ∀ change, options.resolutionChange = some change → HasRoom change.width change.height)
    (source : Source) (store : FileStore) (log : Array Event) :
    (EncodeContext.start session source options store log).runToEnd.1.InRange := by
  have fit : (EncodeParams.jpeg options.width options.height options.frameRate
      options.quality).Fit :=
    (FrameInfo.rowsApart_withCrop (.nv12 0 0 options.frameRate) _ _).2 room
  have held : Fitting session.encoder options (· = .jpeg options.width options.height
      options.frameRate options.quality) (EncodeContext.start session source options store log) :=
    ⟨rfl, rfl, rfl, (FrameInfo.rowsApart_withCrop (.nv12 0 0 0) 0 0).2 (by decide),
      Bytes.size_zeros _⟩
  exact (EncodeM.lands_wholeRun careful fit accepts later held).inRange

end Steps

/-! ## The software encoder -/

/-- A usable surface can be copied if it has columns, and is refused as a frame if it has none. -/
theorem Surface.Usable.toFrame {surface : Surface} (h : surface.Usable) :
    surface.toFrame ≠ .error .outOfRange := by
  by_cases columns : 0 < surface.info.cropW.toNat
  · obtain ⟨frame, copied⟩ := Surface.toFrame_ok h.apart h.size_eq columns
    rw [copied]
    rintro ⟨⟩
  · rw [Surface.toFrame, Nv12Planes.toFrame_of_no_columns (Nat.eq_zero_of_not_pos columns)
      (Nat.le_of_lt_succ surface.info.cropH.toNat_lt)]
    rintro ⟨⟩

namespace CpuEncoder

theorem careful : encoder.Careful where
  attach := fun _ _ => nofun
  query := by
    intro params cpu
    show (cpu.query params).reply.InRange
    unfold query
    split <;> nofun
  init := by
    intro params cpu
    show (cpu.init params).reply.InRange
    unfold init initSpawning
    split
    · nofun
    · split <;> nofun
  surfaceRequest := by
    intro params cpu
    show (cpu.surfaceRequest params).reply.InRange
    unfold surfaceRequest
    split <;> nofun
  currentParams := by
    intro cpu
    show cpu.currentParams.reply.InRange
    unfold currentParams
    split <;> nofun
  reset := by
    intro params cpu
    show (cpu.reset params).reply.InRange
    unfold reset
    split
    · nofun
    · split
      · nofun
      · split <;> nofun
  submit := by
    intro submission cpu usable
    show (cpu.submit submission).reply.InRange
    unfold submit
    split
    · split
      · nofun
      · rename_i given
        unfold submitSurface
        dsimp only
        split
        · nofun
        · split
          · nofun
          · split
            · rename_i fault copied
              rintro ⟨⟩
              exact (usable given rfl).toFrame copied
            · split <;> nofun
    · nofun
  sync := by
    intro sync waitMs bitstream cpu
    show (cpu.sync sync waitMs bitstream).1.reply.InRange
    unfold CpuEncoder.sync
    split
    · nofun
    · split
      · nofun
      · dsimp only
        split
        · rename_i endless
          obtain ⟨rfl, _⟩ := Clock.deadline_eq_error (CompletionQueue.wait_eq_error endless)
          nofun
        · dsimp only
          split
          · unfold collect
            dsimp only
            split <;> nofun
          · nofun
          · nofun
  close := fun _ => nofun

/-- The geometry of a picture size is taken as it is. -/
theorem accepts_jpeg (width height : UInt16) (framesPerSecond : UInt32) (quality : UInt16) :
    encoder.Accepts (.jpeg width height framesPerSecond quality) := by
  intro cpu outcome agreed replied
  refine .inl ?_
  change (cpu.query _).reply = _ at replied
  unfold query at replied
  split at replied
  · cases replied
  · cases replied
    show (EncodeParams.jpeg width height framesPerSecond quality).supported.frameInfo = _
    rw [EncodeParams.supported_jpeg]
    rfl

end CpuEncoder

/-! ## Picture sizes -/

/-- The rows of a picture lie one behind the other in its surfaces exactly if it has a size that an
aligned allocation has room for. Then each surface of a pool has all bytes of the geometry, each
surface that has them can be filled, cut into planes and copied, and no run with such sizes goes
out of range on any encoder that takes them and is careful. -/
theorem aligned_surfaces_are_usable {width height : UInt16} {info : FrameInfo}
    (sized : FrameInfo.OfSize width height info) :
    (info.RowsApart ↔ HasRoom width height) ∧
    (HasRoom width height →
      (∀ count index surface, (SurfacePool.allocate info count).surface? index = some surface →
        surface.info = info ∧ surface.data.size = info.surfaceSize) ∧
      (∀ surface : Surface, surface.info = info → surface.data.size = info.surfaceSize →
        surface.Works) ∧
      ∀ {σ : Type} (session : Session σ) (options : EncodeOptions) (source : Source)
          (store : FileStore) (log : Array Event),
        options.width = width → options.height = height → session.encoder.Careful →
        session.encoder.Accepts
          (.jpeg options.width options.height options.frameRate options.quality) →
        (∀ change, options.resolutionChange = some change →
          HasRoom change.width change.height) →
        (EncodeContext.start session source options store log).runToEnd.1.InRange) := by
  have apart := sized.rowsApart_iff
  refine ⟨apart, fun room => ⟨fun count index surface shown => ?_, fun surface same size => ?_, ?_⟩⟩
  · exact ⟨SurfacePool.info_of_surface?_eq_some shown,
      SurfacePool.size_of_surface?_eq_some (SurfacePool.size_buffer_allocate info count) shown⟩
  · subst same
    exact Surface.Usable.works ⟨apart.2 room, size⟩
  · rintro σ session options source store log rfl rfl careful accepts later
    exact careful.runToEnd accepts room later source store log

/-- Pictures of 65520 rows fit, and with them a run on the software encoder that changes to a
single row of 65535 columns. -/
theorem aligned_surfaces_are_usable_largest :
    let options : EncodeOptions := { EncodeOptions.ofInput "" 1 65520 with
      resolutionChange := some ⟨1, 65535, 1, none⟩ }
    HasRoom 1 65520 ∧ HasRoom 65535 1 ∧
    (FrameInfo.nv12 1 65520 25).RowsApart ∧
    (∀ surface, (SurfacePool.allocate (.nv12 1 65520 25) 2).surface? 1 = some surface →
      surface.Works) ∧
    (EncodeContext.start (.ofEncoder CpuEncoder.encoder (.new false [])) (.ofBytes #[1, 2, 3])
      options .empty #[]).runToEnd.1.InRange := by
  intro options
  have room : HasRoom 1 65520 := by decide
  have single : HasRoom 65535 1 := by decide
  have later : ∀ change, options.resolutionChange = some change →
      HasRoom change.width change.height := by
    rintro change ⟨⟩
    exact single
  obtain ⟨apart, works⟩ := aligned_surfaces_are_usable (.nv12 25 : FrameInfo.OfSize 1 65520 _)
  obtain ⟨surfaces, usable, runs⟩ := works room
  refine ⟨room, single, apart.2 room, fun surface shown => ?_, ?_⟩
  · obtain ⟨same, size⟩ := surfaces 2 1 surface shown
    exact usable surface same size
  · exact runs (.ofEncoder CpuEncoder.encoder (.new false [])) options (.ofBytes #[1, 2, 3]) .empty
      #[] rfl rfl CpuEncoder.careful (CpuEncoder.accepts_jpeg 1 65520 25 90) later

/-- A picture with one row more gets surfaces that cannot be copied. -/
theorem tall_picture_is_not_copied :
    ∃ surface, (SurfacePool.allocate (.nv12 1 65521 25) 1).surface? 0 = some surface ∧
      surface.toFrame = .error .outOfRange := by
  have shown := @SurfacePool.surface?_eq_some (.allocate (.nv12 1 65521 25) 1) 0 (by decide)
  have size := SurfacePool.size_of_surface?_eq_some
    (SurfacePool.size_buffer_allocate (.nv12 1 65521 25) 1) shown
  refine ⟨_, shown, ?_⟩
  exact @Surface.toFrame_of_tall _ (.nv12 0 0 25) 1 65521 rfl size (by decide) (by decide)

end Nv12Jpeg
