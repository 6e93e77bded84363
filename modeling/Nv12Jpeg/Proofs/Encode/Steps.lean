import Nv12Jpeg.Encode.Run

/-!
# Steps of an encode run, one at a time

What single steps do to the state of a run, and how that adds up over a sequence of steps:

* `EncodeM.run_bind`, `EncodeM.run_call` and the like — the outcome of a step and the state it
  leaves;
* `EncodeM.run_bind_cases` — the ways in which a sequence of steps comes to its outcome;
* `EncodeM.Keeps` — a step that keeps a relation between the state before and the state after;
* `EncodeM.Keeps.setUp`, `EncodeM.Keeps.settle` and the like — the larger steps keep a relation that
  their calls and changes keep;
* `EncodeM.Never` — a step that never fails with an error.
-/

namespace Nv12Jpeg.EncodeM

variable {σ α β : Type}

@[simp] theorem run_pure (value : α) (context : EncodeContext σ) :
    (pure value : EncodeM σ α).run context = (.ok value, context) := rfl

@[simp] theorem run_throw (failure : Failure EncodeError) (context : EncodeContext σ) :
    (throw failure : EncodeM σ α).run context = (.error failure, context) := rfl

@[simp] theorem run_fail (error : EncodeError) (context : EncodeContext σ) :
    (fail error : EncodeM σ α).run context = (.error (.error error), context) := rfl

@[simp] theorem run_get (context : EncodeContext σ) :
    (get : EncodeM σ (EncodeContext σ)).run context = (.ok context, context) := rfl

@[simp] theorem run_set (next context : EncodeContext σ) :
    (set next : EncodeM σ PUnit).run context = (.ok ⟨⟩, next) := rfl

@[simp] theorem run_modify (change : EncodeContext σ → EncodeContext σ)
    (context : EncodeContext σ) :
    (modify change : EncodeM σ PUnit).run context = (.ok ⟨⟩, change context) := rfl

@[simp] theorem run_report (event : Event) (context : EncodeContext σ) :
    (report event : EncodeM σ Unit).run context = (.ok (), context.report event) := rfl

@[simp] theorem run_ofFault (result : Except Fault α) (context : EncodeContext σ) :
    (ofFault result : EncodeM σ α).run context = (result.mapError .fault, context) := by
  cases result <;> rfl

theorem run_bind (first : EncodeM σ α) (next : α → EncodeM σ β) (context : EncodeContext σ) :
    (first >>= next).run context =
      match first.run context with
      | (.ok value, context) => (next value).run context
      | (.error failure, context) => (.error failure, context) := by
  show (ExceptT.bind first next).run context = _
  simp only [ExceptT.run, ExceptT.bind, ExceptT.mk, bind, StateT.bind]
  cases first context with
  | mk outcome context => cases outcome <;> rfl

/-- Steps that come to the same may stand for one another. -/
theorem run_bind_congr {first first' : EncodeM σ α} {context : EncodeContext σ}
    (same : first.run context = first'.run context) (next : α → EncodeM σ β) :
    (first >>= next).run context = (first' >>= next).run context := by
  rw [run_bind, run_bind, same]

/-- A step that succeeds is followed by the next one. -/
theorem run_bind_ok {first : EncodeM σ α} {next : α → EncodeM σ β} {context later : EncodeContext σ}
    {value : α} (h : first.run context = (.ok value, later)) :
    (first >>= next).run context = (next value).run later := by
  rw [run_bind, h]

/-- A step that fails is the last one. -/
theorem run_bind_error {first : EncodeM σ α} {next : α → EncodeM σ β}
    {context later : EncodeContext σ} {failure : Failure EncodeError}
    (h : first.run context = (.error failure, later)) :
    (first >>= next).run context = (.error failure, later) := by
  rw [run_bind, h]

/-- The outcome of a sequence is that of its last step, or of the first one that fails. -/
theorem run_bind_cases {first : EncodeM σ α} {next : α → EncodeM σ β}
    {context last : EncodeContext σ} {outcome : Except (Failure EncodeError) β}
    (h : (first >>= next).run context = (outcome, last)) :
    (∃ value later, first.run context = (.ok value, later) ∧
      (next value).run later = (outcome, last)) ∨
    ∃ failure, first.run context = (.error failure, last) ∧ outcome = .error failure := by
  rw [run_bind] at h
  cases ran : first.run context with
  | mk result later =>
    rw [ran] at h
    cases result with
    | ok value => exact .inl ⟨value, later, rfl, h⟩
    | error failure =>
      cases h
      exact .inr ⟨failure, rfl, rfl⟩

/-- A sequence succeeds only if each of its steps does. -/
theorem run_bind_eq_ok {first : EncodeM σ α} {next : α → EncodeM σ β}
    {context last : EncodeContext σ} {result : β}
    (h : (first >>= next).run context = (.ok result, last)) :
    ∃ value later, first.run context = (.ok value, later) ∧
      (next value).run later = (.ok result, last) := by
  rcases run_bind_cases h with ran | ⟨failure, _, failed⟩
  · exact ran
  · cases failed

/-- The reply to a call as a step sees it: a fault is not seen. -/
def heard (reply : Attempt EncoderError α) :
    Except (Failure EncodeError) (Except EncoderError α) :=
  match reply with
  | .ok value => .ok (.ok value)
  | .error (.error error) => .ok (.error error)
  | .error (.fault fault) => .error (.fault fault)

theorem run_call (make : Session σ → Answer (Session σ) α) (context : EncodeContext σ) :
    (call make).run context =
      (heard (make context.session).reply, context.book (make context.session)) := by
  rw [call, run_bind_ok (run_get context), run_bind_ok (run_set _ _)]
  cases (make context.session).reply with
  | ok value => rfl
  | error failure => cases failure <;> rfl

theorem book_unlocked {context : EncodeContext σ} {answer : Answer (Session σ) α}
    (unlocked : answer.locks = []) :
    context.book answer = { context with
      session := answer.state
      log := context.log ++ answer.events.toArray } := by
  rw [EncodeContext.book, unlocked]
  rfl

/-- A call that succeeds. -/
theorem run_call_ok {make : Session σ → Answer (Session σ) α} {context : EncodeContext σ}
    {value : α}
    (answered : (make context.session).reply = .ok value) :
    (call make).run context = (.ok (.ok value), context.book (make context.session)) := by
  rw [run_call, answered]
  rfl

/-- The reply to a call that has to succeed as a step sees it. -/
def demanded (step : EncoderStep) (reply : Attempt EncoderError α) :
    Except (Failure EncodeError) α :=
  match reply with
  | .ok value => .ok value
  | .error (.error error) => .error (.error (.encoder step error))
  | .error (.fault fault) => .error (.fault fault)

theorem run_demand (step : EncoderStep) (make : Session σ → Answer (Session σ) α)
    (context : EncodeContext σ) :
    (demand step make).run context =
      (demanded step (make context.session).reply, context.book (make context.session)) := by
  rw [demand, run_bind, run_call]
  cases (make context.session).reply with
  | ok value => rfl
  | error failure => cases failure <;> rfl

/-- A call that has to succeed, and does. -/
theorem run_demand_ok {step : EncoderStep} {make : Session σ → Answer (Session σ) α}
    {context : EncodeContext σ} {value : α}
    (answered : (make context.session).reply = .ok value) :
    (demand step make).run context = (.ok value, context.book (make context.session)) := by
  rw [run_demand, answered]
  rfl

/-- A call that has to succeed has done so, if steps go on after it. -/
theorem run_demand_eq_ok {step : EncoderStep} {make : Session σ → Answer (Session σ) α}
    {context last : EncodeContext σ} {value : α}
    (ran : (demand step make).run context = (.ok value, last)) :
    (make context.session).reply = .ok value ∧ last = context.book (make context.session) := by
  rw [run_demand] at ran
  obtain ⟨answered, rfl⟩ := Prod.mk.inj ran
  refine ⟨?_, rfl⟩
  cases replied : (make context.session).reply with
  | ok other =>
    rw [replied] at answered
    cases answered
    rfl
  | error failure =>
    rw [replied] at answered
    cases failure <;> cases answered

/-- The state that an attempt at collecting a result leaves. -/
def afterSync (sync : SyncPoint) (context : EncodeContext σ) : EncodeContext σ :=
  let (answer, bitstream) :=
    context.session.sync sync context.options.sync.waitMs context.bitstream
  { context with bitstream }.book answer

theorem run_syncOnce (sync : SyncPoint) (context : EncodeContext σ) :
    (syncOnce sync).run context =
      (heard (context.session.sync sync context.options.sync.waitMs context.bitstream).1.reply,
        afterSync sync context) := by
  rw [syncOnce, run_bind_ok (run_get context), run_bind_ok (run_set _ _), run_call]
  rfl

/-- Without a free surface nothing is read. -/
theorem run_readFrame_none {context : EncodeContext σ} (full : context.pool.findFree = none) :
    readFrame.run context = (.error (.error (.noFreeSurface context.pool.size)), context) := by
  rw [readFrame, run_bind_ok (run_get context), full]
  rfl

/-! ## Relations that steps keep -/

/-- A relation between earlier and later states. -/
structure Onward (relation : EncodeContext σ → EncodeContext σ → Prop) : Prop where
  refl : ∀ context, relation context context
  trans : ∀ {first second third}, relation first second → relation second third →
    relation first third

/-- The state after the steps is related to the one before, whatever their outcome. -/
def Keeps (relation : EncodeContext σ → EncodeContext σ → Prop) (steps : EncodeM σ α) : Prop :=
  ∀ context, relation context (steps.run context).2

namespace Keeps

variable {relation : EncodeContext σ → EncodeContext σ → Prop}

theorem of_run {steps : EncodeM σ α} {context last : EncodeContext σ}
    {outcome : Except (Failure EncodeError) α} (h : Keeps relation steps)
    (ran : steps.run context = (outcome, last)) : relation context last := by
  have := h context
  rw [ran] at this
  exact this

theorem pure (onward : Onward relation) (value : α) :
    Keeps relation (Pure.pure value : EncodeM σ α) :=
  onward.refl

theorem throw (onward : Onward relation) (failure : Failure EncodeError) :
    Keeps relation (MonadExcept.throw failure : EncodeM σ α) :=
  onward.refl

theorem bind (onward : Onward relation) {first : EncodeM σ α} {next : α → EncodeM σ β}
    (h : Keeps relation first) (h' : ∀ value, Keeps relation (next value)) :
    Keeps relation (first >>= next) := by
  intro context
  rw [run_bind]
  have before := h context
  cases ran : first.run context with
  | mk outcome later =>
    rw [ran] at before
    cases outcome with
    | ok value => exact onward.trans before (h' value later)
    | error failure => exact before

/-- Steps that depend on the state. -/
theorem get_bind {next : EncodeContext σ → EncodeM σ α}
    (h : ∀ context, relation context ((next context).run context).2) :
    Keeps relation (MonadState.get >>= next) := by
  intro context
  rw [run_bind_ok (run_get context)]
  exact h context

/-- The end of a round only reports. -/
theorem endRound (onward : Onward relation) (reports : ∀ event, Keeps relation (report event))
    (loop : LoopState) (draining : Bool) (progress : Progress) :
    Keeps relation (EncodeM.endRound loop draining progress) := by
  unfold EncodeM.endRound
  split
  · exact .pure onward _
  · split
    · refine .get_bind fun context => ?_
      generalize (if progress = Progress.stalled then _ else _) = stalled
      split
      · exact Keeps.bind onward (reports _) (fun _ => .pure onward _) context
      · exact onward.refl context
    · exact .pure onward _

/-! ### Larger steps

A larger step keeps a relation if the calls and the changes of the state that it is made of do. -/

theorem demand (onward : Onward relation) {step : EncoderStep}
    {make : Session σ → Answer (Session σ) α} (calls : Keeps relation (call make)) :
    Keeps relation (EncodeM.demand step make) := by
  refine .bind onward calls fun reply => ?_
  cases reply with
  | ok value => exact .pure onward value
  | error error => exact .throw onward _

theorem openAccelerator (onward : Onward relation)
    (attaches : ∀ accelerator,
      Keeps relation (EncodeM.demand .attachAccelerator (Session.attach accelerator)))
    (opens : ∀ context accelerator,
      relation context { context with accelerator := some accelerator }) :
    Keeps relation EncodeM.openAccelerator := by
  refine .get_bind fun context => ?_
  split
  · exact onward.refl context
  · exact onward.refl context
  · refine Keeps.bind onward (attaches _) (fun _ context => ?_) context
    exact opens context _

theorem negotiate (onward : Onward relation) (reports : ∀ event, Keeps relation (report event))
    (queries : ∀ params, Keeps relation (EncodeM.demand .query (Session.query params)))
    (agrees : ∀ context params, relation context { context with params })
    (inits : ∀ params, Keeps relation (EncodeM.demand .init (Session.init params))) :
    Keeps relation EncodeM.negotiate := by
  refine .get_bind fun context => ?_
  refine Keeps.bind onward (queries _) (fun (outcome, params) => ?_) context
  have starts : Keeps relation (EncodeM.demand .init (Session.init params) >>= fun _ =>
      report .initializationTimed) := .bind onward (inits params) fun _ => reports _
  refine .bind onward (fun context => agrees context params) fun _ => ?_
  dsimp only
  split
  · exact .bind onward (reports _) fun _ => starts
  · exact starts

theorem allocatePool (onward : Onward relation)
    (suggests : ∀ params,
      Keeps relation (EncodeM.demand .surfaceRequest (Session.surfaceRequest params)))
    (allocates : ∀ context pool,
      relation context { context with pool, poolNumber := context.poolNumber + 1 }) :
    Keeps relation EncodeM.allocatePool := by
  refine .get_bind fun context => ?_
  refine Keeps.bind onward (suggests _) (fun request => ?_) context
  exact .bind onward (fun context => allocates context _) fun _ => .pure onward request

theorem setUp (onward : Onward relation) (reports : ∀ event, Keeps relation (report event))
    (opens : Keeps relation EncodeM.openAccelerator)
    (negotiates : Keeps relation EncodeM.negotiate)
    (allocates : Keeps relation EncodeM.allocatePool)
    (readies : ∀ context bitstream, relation context { context with bitstream }) :
    Keeps relation EncodeM.setUp := by
  refine .get_bind fun context => Keeps.bind onward (reports _) (fun _ => ?_) context
  refine .bind onward opens fun _ => .bind onward negotiates fun _ => ?_
  refine .bind onward allocates fun request => .get_bind fun context => ?_
  refine Keeps.bind onward (fun context => ?_) (fun bitstream => ?_) context
  · rw [run_ofFault]
    exact onward.refl context
  · refine .bind onward (fun context => readies context bitstream) fun _ => ?_
    exact .get_bind fun context => reports _ context

theorem finish (onward : Onward relation) (reports : ∀ event, Keeps relation (report event))
    (closes : Keeps relation (EncodeM.demand .close Session.close)) (reason : StopReason) :
    Keeps relation (EncodeM.finish reason) := by
  refine .get_bind fun context => Keeps.bind onward (reports _) (fun _ => ?_) context
  refine .bind onward closes fun _ => .get_bind fun context => ?_
  split
  · exact Keeps.bind onward (reports _) (fun _ => .pure onward _) context
  · exact onward.refl context

theorem readFrame (onward : Onward relation)
    (fills : ∀ context pool source, relation context { context with pool, source }) :
    Keeps relation EncodeM.readFrame := by
  refine .get_bind fun context => ?_
  split
  · exact onward.refl context
  · rw [run_bind, run_ofFault]
    cases context.pool.readFrame _ context.store context.source with
    | error fault => exact onward.refl context
    | ok read =>
      dsimp only [Except.mapError]
      rw [run_bind_ok (run_set _ _)]
      split <;> exact fills context _ _

theorem nextSubmission (onward : Onward relation)
    (reports : ∀ event, Keeps relation (report event)) (reads : Keeps relation EncodeM.readFrame)
    (submits : ∀ submission, Keeps relation (call (Session.submit submission)))
    (draining : Bool) : Keeps relation (EncodeM.nextSubmission draining) := by
  unfold EncodeM.nextSubmission
  split
  · exact .bind onward (submits none) fun _ => .pure onward _
  · refine .bind onward reads fun next => ?_
    cases next with
    | some submission => exact .bind onward (submits _) fun _ => .pure onward _
    | none =>
      refine .bind onward (reports _) fun _ => ?_
      exact .bind onward (submits none) fun _ => .pure onward _

/-- Waiting for a result. The induction is on the number of attempts that are left. -/
theorem attemptSync (onward : Onward relation) (reports : ∀ event, Keeps relation (report event))
    {sync : SyncPoint} (tries : Keeps relation (syncOnce sync))
    (drops : ∀ context, relation context { context with bitstream := context.bitstream.clear })
    (left attempt : Nat) : Keeps relation (EncodeM.attemptSync sync left attempt) := by
  induction left generalizing attempt with
  | zero => exact .throw onward _
  | succ left ih =>
    refine .bind onward tries fun reply => ?_
    split
    · exact .pure onward true
    · exact .bind onward (reports _) fun _ => ih (attempt + 1)
    · exact .bind onward (reports _) fun _ => .bind onward drops fun _ => .pure onward false
    · exact .throw onward _

theorem changeInput (onward : Onward relation)
    (turns : ∀ context source, relation context { context with source }) (path : String) :
    Keeps relation (EncodeM.changeInput path) := by
  refine .get_bind fun context => ?_
  split
  · exact onward.refl context
  · exact turns context _

theorem changeSize (onward : Onward relation) (reports : ∀ event, Keeps relation (report event))
    (resizes : ∀ context params, relation context { context with params })
    (resets : ∀ params, Keeps relation (call (Session.resetResolution params)))
    (allocates : Keeps relation EncodeM.allocatePool)
    (counts : ∀ context, relation context { context with resets := context.resets + 1 })
    (width height : UInt16) : Keeps relation (EncodeM.changeSize width height) := by
  refine .bind onward (fun context => resizes context _) fun _ => .get_bind fun context => ?_
  refine Keeps.bind onward (resets _) (fun reply => ?_) context
  split
  · refine .bind onward allocates fun _ => .bind onward counts fun _ => ?_
    exact .get_bind fun context => reports _ context
  · exact .throw onward _

theorem applyDueChange (onward : Onward relation)
    (inputs : ∀ path, Keeps relation (EncodeM.changeInput path))
    (sizes : ∀ width height, Keeps relation (EncodeM.changeSize width height)) :
    Keeps relation EncodeM.applyDueChange := by
  have changes : ∀ change, Keeps relation (applyChange change) := by
    intro change
    unfold applyChange
    cases change.input with
    | none => exact sizes _ _
    | some path => exact .bind onward (inputs path) fun _ => sizes _ _
  refine .get_bind fun context => ?_
  split
  · split
    · exact changes _ context
    · exact onward.refl context
  · exact onward.refl context

theorem complete (onward : Onward relation)
    {sync : SyncPoint} (waits : ∀ left, Keeps relation (EncodeM.attemptSync sync left 1))
    (writes : Keeps relation writeOutput) (changes : Keeps relation EncodeM.applyDueChange) :
    Keeps relation (EncodeM.complete sync) := by
  refine .bind onward (.get_bind fun context => waits _ context) fun found => ?_
  cases found with
  | false => exact .pure onward _
  | true =>
    refine .bind onward writes fun _ => .bind onward changes fun _ => ?_
    exact .get_bind onward.refl

theorem settle (onward : Onward relation) (reports : ∀ event, Keeps relation (report event))
    (completes : ∀ sync, Keeps relation (EncodeM.complete sync)) (draining : Bool)
    (reply : Except EncoderError SubmitStatus) :
    Keeps relation (EncodeM.settle draining reply) := by
  unfold EncodeM.settle
  split
  · exact completes _
  · exact .pure onward _
  · exact .pure onward _
  all_goals exact .bind onward (reports _) fun _ => .pure onward _

end Keeps

/-! ## Failures that are out of the question -/

/-- The reply to a call tells no error of the run. -/
theorem heard_ne {reply : Attempt EncoderError α} {error : EncodeError} :
    heard reply ≠ .error (.error error) := by
  cases reply with
  | ok value => nofun
  | error failure => cases failure <;> nofun

/-- Steps that never fail with an error. -/
def Never (error : EncodeError) (steps : EncodeM σ α) : Prop :=
  ∀ context, (steps.run context).1 ≠ .error (.error error)

namespace Never

variable {β : Type} {error : EncodeError}

theorem of_run {steps : EncodeM σ α} {value : EncodeContext σ → α}
    {later : EncodeContext σ → EncodeContext σ}
    (h : ∀ context, steps.run context = (.ok (value context), later context)) :
    Never error steps := by
  intro context failed
  rw [h] at failed
  cases failed

theorem pure (value : α) : Never error (Pure.pure value : EncodeM σ α) := .of_run (run_pure value)

theorem report (event : Event) : Never error (EncodeM.report event : EncodeM σ Unit) :=
  .of_run (run_report event)

theorem modifies (change : EncodeContext σ → EncodeContext σ) :
    Never error (modify change : EncodeM σ PUnit) := .of_run (run_modify change)

theorem set (next : EncodeContext σ) : Never error (MonadState.set next : EncodeM σ PUnit) :=
  .of_run (run_set next)

theorem fail {other : EncodeError} (differs : other ≠ error) :
    Never error (EncodeM.fail other : EncodeM σ α) := by
  intro context same
  cases same
  exact differs rfl

theorem bind {steps : EncodeM σ α} {next : α → EncodeM σ β} (h : Never error steps)
    (h' : ∀ value, Never error (next value)) : Never error (steps >>= next) := by
  intro context failed
  rcases run_bind_cases (Prod.ext failed rfl) with ⟨value, later, _, ran⟩ | ⟨failure, ran, same⟩
  · exact h' value later (congrArg Prod.fst ran)
  · cases same
    exact h context (congrArg Prod.fst ran)

theorem get_bind {next : EncodeContext σ → EncodeM σ α}
    (h : ∀ context, Never error (next context)) :
    Never error (MonadState.get >>= next) := by
  intro context
  rw [run_bind_ok (run_get context)]
  exact h context context

theorem call (make : Session σ → Answer (Session σ) α) : Never error (EncodeM.call make) := by
  intro context
  rw [run_call]
  exact heard_ne

end Never

end Nv12Jpeg.EncodeM
