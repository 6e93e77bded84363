import Nv12Jpeg.Proofs.Encoder.Guards

/-!
# Failed calls of the software encoder

A call that fails leaves no trace: what was used on the way is given back, and the application goes
on as if the call had not been made. Only where a result came and the output buffer has no room for
it something is gone, and that is this result.

* `Answer.Traceless` — the encoder and all locks are as they were before the call;
* `CpuEncoder.traceless_initSpawning` — getting ready where the worker may not start;
* `CpuEncoder.queryInPlace` — a query that replaces the values in the parameters it is given, one
  after the other;
* `CpuEncoder.Owes.sync_fail` — what a failed attempt at collecting a result takes with it;
* `Application.Sound.perform_failed` — an operation that fails changes nothing, and may as well be
  left out;
* `failed_calls_leave_no_trace` — all of it, for every state an application can bring about.
-/

namespace Nv12Jpeg

/-- The error of a call that failed. -/
def Answer.error? {σ α : Type} (answer : Answer σ α) : Option EncoderError :=
  match answer.reply with
  | .error (.error error) => some error
  | _ => none

theorem Answer.error?_eq_some {σ α : Type} {answer : Answer σ α} {error : EncoderError} :
    answer.error? = some error ↔ answer.reply = .fail error := by
  unfold error?
  split
  · simp_all [Attempt.fail]
  · rename_i other
    simp only [reduceCtorEq, false_iff]
    exact other error

/-- After the call its encoder is in this state, and every lock as it was. -/
structure Answer.Traceless {σ α : Type} (answer : Answer σ α) (state : σ) : Prop where
  state_eq : answer.state = state
  locks_foldl : ∀ number pool, answer.locks.foldl (LockChange.apply number) pool = pool

theorem Answer.traceless_quiet {σ α : Type} (reply : Attempt EncoderError α) (state : σ) :
    (quiet reply state).Traceless state := ⟨rfl, fun _ _ => rfl⟩

namespace CpuEncoder

variable {cpu : CpuEncoder} {params : EncodeParams} {error : EncoderError}

/-! ## Calls that change nothing when they fail -/

theorem traceless_query (params : EncodeParams) (cpu : CpuEncoder) :
    (cpu.query params).Traceless cpu := by
  unfold query
  split
  · exact Answer.traceless_quiet _ _
  · exact Answer.traceless_quiet _ _

theorem traceless_surfaceRequest (params : EncodeParams) (cpu : CpuEncoder) :
    (cpu.surfaceRequest params).Traceless cpu := by
  unfold surfaceRequest
  split
  · exact Answer.traceless_quiet _ _
  · exact Answer.traceless_quiet _ _

theorem traceless_currentParams (cpu : CpuEncoder) : cpu.currentParams.Traceless cpu := by
  unfold currentParams
  split
  · exact Answer.traceless_quiet _ _
  · exact Answer.traceless_quiet _ _

theorem traceless_reset (failed : (cpu.reset params).reply = .fail error) :
    (cpu.reset params).Traceless cpu := by
  unfold reset at failed ⊢
  split
  · exact Answer.traceless_quiet _ _
  · rename_i current params_eq
    rw [params_eq] at failed
    split
    · exact Answer.traceless_quiet _ _
    · rename_i sound
      simp only [sound] at failed
      split
      · exact Answer.traceless_quiet _ _
      · rename_i same
        rw [if_neg same] at failed
        cases failed

/-- A submission that fails gives back the credit it used, and the guard. -/
theorem traceless_submit {submission : Option Submission}
    (failed : (cpu.submit submission).reply = .fail error) :
    (cpu.submit submission).Traceless cpu := by
  unfold submit at failed ⊢
  split
  · rename_i params worker params_eq worker_eq
    rw [params_eq, worker_eq] at failed
    cases submission with
    | none => exact Answer.traceless_quiet _ _
    | some submission =>
      simp only [submitSurface] at failed ⊢
      split
      · exact Answer.traceless_quiet _ _
      · rename_i size
        rw [if_neg size] at failed
        split
        · exact Answer.traceless_quiet _ _
        · rename_i credits acquired
          simp only [acquired] at failed
          split
          · rename_i fault copied
            simp only [copied] at failed
            cases failed
          · rename_i frame copied
            simp only [copied] at failed
            split
            · rename_i running
              rw [if_pos running] at failed
              cases failed
            · -- the worker is gone: the job comes back with its guard, and the credit is free
              refine ⟨?_, fun number pool => LockChange.apply_released_acquired _⟩
              simp only [Credits.release_of_acquire? acquired]
  · exact Answer.traceless_quiet _ _

/-! ## Getting ready where the worker may not start -/

/-- A worker that does not start leaves no trace, nor does any other failure. -/
theorem traceless_initSpawning {spawn : Nat → Except EncoderError Worker}
    (failed : (cpu.initSpawning spawn params).reply = .fail error) :
    (cpu.initSpawning spawn params).Traceless cpu := by
  unfold initSpawning at failed ⊢
  split
  · exact Answer.traceless_quiet _ _
  · rename_i fresh
    rw [if_neg fresh] at failed
    split
    · exact Answer.traceless_quiet _ _
    · rename_i sound
      simp only [sound] at failed
      split
      · exact Answer.traceless_quiet _ _
      · rename_i worker spawned
        simp only [spawned] at failed
        cases failed

/-! ## A query in place -/

/-- Replaces a value that is not supported, and takes down that it did. -/
def remedy (isSupported : EncodeParams → Bool) (replace : EncodeParams → EncodeParams)
    (outcome : QueryOutcome) : StateM EncodeParams QueryOutcome := do
  if isSupported (← get) then return outcome
  modify replace
  return .adjusted

/-- Judges the parameters at hand and replaces, one after the other, the values in them that are not
supported. -/
def queryInPlace : StateM EncodeParams (Except EncoderError QueryOutcome) := do
  if let some defect := (← get).fixedDefect? .cpu then return .error defect.toError
  let outcome ← remedy (·.hasQuality)
    (fun params => { params with
      quality := UInt16.ofNat (min (max params.quality.toNat 1) 100) }) .exact
  let outcome ← remedy (fun params => covers params.frameInfo.width params.frameInfo.cropW)
    (fun params => { params with
      frameInfo := { params.frameInfo with width := align16 params.frameInfo.cropW } }) outcome
  let outcome ← remedy (fun params => covers params.frameInfo.height params.frameInfo.cropH)
    (fun params => { params with
      frameInfo := { params.frameInfo with height := align16 params.frameInfo.cropH } }) outcome
  let outcome ← remedy (·.interleaved) (fun params => { params with interleaved := true }) outcome
  modify (·.withWorstCase)
  return .ok outcome

theorem run_remedy (isSupported : EncodeParams → Bool) (replace : EncodeParams → EncodeParams)
    (outcome : QueryOutcome) (params : EncodeParams) :
    (remedy isSupported replace outcome).run params
      = if isSupported params then (outcome, params) else (.adjusted, replace params) := by
  change StateT.run (if isSupported params then pure outcome else _) params = _
  split <;> rfl

/-- A value with its replacement, and the steps behind it. -/
theorem run_remedy_bind {α : Type} (isSupported : EncodeParams → Bool)
    (replace : EncodeParams → EncodeParams) (outcome : QueryOutcome)
    (next : QueryOutcome → StateM EncodeParams α) (params : EncodeParams) :
    (remedy isSupported replace outcome >>= next).run params
      = if isSupported params then (next outcome).run params
        else (next .adjusted).run (replace params) := by
  rw [StateT.run_bind, run_remedy]
  split <;> rfl

/-- The values that are not supported are all replaced, or none of them is. -/
theorem run_queryInPlace (params : EncodeParams) :
    queryInPlace.run params =
      match params.fixedDefect? .cpu with
      | some defect => (.error defect.toError, params)
      | none => (.ok params.adjust.1, params.adjust.2) := by
  unfold queryInPlace
  cases fixed : params.fixedDefect? .cpu with
  | some defect =>
    simp [fixed]
    rfl
  | none =>
    rw [StateT.run_bind, StateT.run_get, pure_bind]
    simp only [fixed, run_remedy_bind]
    obtain ⟨codec, info, interleaved, quality⟩ := params
    by_cases width : covers info.width info.cropW <;>
      by_cases height : covers info.height info.cropH <;>
      cases interleaved <;>
      simp only [EncodeParams.adjust, EncodeParams.isSupported, EncodeParams.supported,
        EncodeParams.supportedQuality, EncodeParams.supportedSide, width, height] <;>
      split <;>
      simp [*] <;>
      rfl

/-- A query tells what it finds in place, and what it makes of the parameters. -/
theorem reply_query (params : EncodeParams) (cpu : CpuEncoder) :
    (cpu.query params).reply =
      match queryInPlace.run params with
      | (.ok outcome, agreed) => .ok (outcome, agreed)
      | (.error error, _) => .fail error := by
  rw [run_queryInPlace]
  unfold query
  cases params.fixedDefect? .cpu with
  | some defect => rfl
  | none => rfl

/-! ## Results without room -/

/-- The capacity goes with the parameters in force. -/
theorem Owes.capacity_eq {owed : List Owed} (h : cpu.Owes owed)
    (params_eq : cpu.params = some params) : cpu.credits.capacity = depthOf params := by
  obtain ⟨none_eq, _⟩ | ⟨current, _, current_eq, _, _, depth_eq, _⟩ := h.phase
  · rw [params_eq] at none_eq
    cases none_eq
  · rw [params_eq] at current_eq
    cases current_eq
    exact depth_eq

/-- An attempt at collecting a result fails only for want of room. What is gone then is the result,
with its credit. -/
theorem Owes.sync_fail {owed : List Owed} (h : cpu.Owes owed) {sync : SyncPoint}
    (outstanding : sync ∈ cpu.outstanding) {waitMs : Nat} {bitstream : Bitstream}
    (failed : (cpu.sync sync waitMs bitstream).1.reply = .fail error) :
    (∃ needed, error = .notEnoughBuffer needed bitstream.available ∧
      bitstream.available < needed) ∧
    (cpu.sync sync waitMs bitstream).2 = bitstream ∧
    (cpu.sync sync waitMs bitstream).1.state.outstanding = cpu.outstanding.erase sync ∧
    (cpu.sync sync waitMs bitstream).1.state.credits.used + 1 = cpu.credits.used ∧
    (cpu.sync sync waitMs bitstream).1.state.credits.capacity = cpu.credits.capacity ∧
    (cpu.sync sync waitMs bitstream).1.state.params = cpu.params ∧
    (cpu.sync sync waitMs bitstream).1.state.nextSync = cpu.nextSync := by
  rw [h.outstanding_eq] at outstanding
  obtain ⟨o, o_mem, rfl⟩ := List.mem_map.1 outstanding
  obtain ⟨file, _, ⟨_, stopped⟩ | ⟨_, _, unfinished, _⟩ | ⟨attempted, outcome⟩⟩ :=
    h.sync_cases o_mem waitMs bitstream
  · rw [stopped] at failed
    cases failed
  · rw [unfinished] at failed
    cases failed
  · rw [failed] at outcome
    obtain ⟨_, _, append_eq, _⟩ | ⟨full, append_eq⟩ := bitstream.append_cases file
    · rw [append_eq] at outcome
      cases congrArg Prod.fst outcome
    · rw [append_eq] at outcome
      obtain ⟨error_eq, unchanged⟩ := Prod.mk.inj outcome
      cases error_eq
      have erased := h.nodup.erase_eq_filter o.sync
      have left : (cpu.sync o.sync waitMs bitstream).1.state.outstanding
          = cpu.outstanding.erase o.sync := by
        rw [attempted.owes.outstanding_eq, h.outstanding_eq, erased, List.filter_map]
        congr 2
        funext o'
        by_cases same : o'.sync = o.sync <;> simp [same]
      refine ⟨⟨file.size, rfl, full⟩, unchanged, left, ?_, ?_, attempted.params_eq,
        attempted.nextSync_eq⟩
      · -- as many credits are used as results are outstanding, before and afterwards
        have used_eq : (cpu.sync o.sync waitMs bitstream).1.state.credits.used
            = (cpu.outstanding.erase o.sync).length := by
          rw [← left, attempted.owes.outstanding_eq, attempted.owes.used_eq, List.length_map]
        rw [used_eq, h.used_eq, h.outstanding_eq, List.length_erase_of_mem outstanding,
          List.length_map]
        exact Nat.sub_add_cancel (List.length_pos_of_mem o_mem)
      · obtain ⟨_, _, rfl⟩ | ⟨params, _, params_eq, _⟩ := h.phase
        · cases o_mem
        · rw [h.capacity_eq params_eq,
            attempted.owes.capacity_eq (attempted.params_eq.trans params_eq)]

end CpuEncoder

/-! ## Operations that fail -/

namespace Application

variable {application : Application} {operation : Operation} {error : EncoderError}

/-- The error of an operation that is a call and fails. -/
def failure? (application : Application) : Operation → Option EncoderError
  | .attach accelerator => (CpuEncoder.encoder.attach accelerator application.cpu).error?
  | .query params => (application.cpu.query params).error?
  | .init params => (application.cpu.init params).error?
  | .surfaceRequest params => (application.cpu.surfaceRequest params).error?
  | .currentParams => application.cpu.currentParams.error?
  | .reset params => (application.cpu.reset params).error?
  | .submit index => (application.pool.surface? index).bind fun surface =>
    (application.cpu.submit (some ⟨⟨application.poolNumber, index⟩, surface⟩)).error?
  | .flush => (application.cpu.submit none).error?
  | .sync sync waitMs => (application.cpu.sync sync waitMs application.bitstream).1.error?
  | .close => application.cpu.close.error?
  | .overwrite _ _ _ | .allocate _ _ | .replace _ => none

/-- Whether an operation asks for a result that was not collected. -/
def Collects (application : Application) (operation : Operation) : Prop :=
  ∃ sync ∈ application.cpu.outstanding, ∃ waitMs, operation = .sync sync waitMs

/-- A call that failed without a trace. -/
theorem book_of_traceless {α : Type} {answer : Answer CpuEncoder α}
    {marks : Except EncoderError α → List Mark} (traceless : answer.Traceless application.cpu)
    (failed : answer.error? = some error) (unmarked : marks (.error error) = []) :
    application.book answer marks = .ok (application, []) := by
  rw [Answer.error?_eq_some] at failed
  rw [book, failed, traceless.state_eq, traceless.locks_foldl]
  exact congrArg Except.ok (congrArg (Prod.mk application) unmarked)

/-- An operation that fails changes nothing, unless it asks for a result that was not collected. -/
theorem Sound.perform_failed {marks : List Mark} (sound : application.Sound marks)
    (failed : application.failure? operation = some error)
    (collects : ¬ application.Collects operation) :
    application.perform operation = .ok (application, []) := by
  cases operation with
  | attach accelerator =>
    simp only [failure?] at failed
    rw [Application.perform]
    exact book_of_traceless (Answer.traceless_quiet _ _) failed rfl
  | query params =>
    exact book_of_traceless (CpuEncoder.traceless_query _ _) failed rfl
  | init params =>
    refine book_of_traceless ?_ failed rfl
    exact CpuEncoder.traceless_initSpawning (Answer.error?_eq_some.1 failed)
  | surfaceRequest params =>
    exact book_of_traceless (CpuEncoder.traceless_surfaceRequest _ _) failed rfl
  | currentParams => exact book_of_traceless (CpuEncoder.traceless_currentParams _) failed rfl
  | reset params =>
    exact book_of_traceless (CpuEncoder.traceless_reset (Answer.error?_eq_some.1 failed)) failed rfl
  | submit index =>
    obtain ⟨surface, found, failed⟩ := Option.bind_eq_some_iff.1 failed
    simp only [Application.perform, found]
    refine book_of_traceless ?_ failed rfl
    exact CpuEncoder.traceless_submit (Answer.error?_eq_some.1 failed)
  | flush =>
    refine book_of_traceless ?_ failed rfl
    exact CpuEncoder.traceless_submit (Answer.error?_eq_some.1 failed)
  | sync sync waitMs =>
    have unowed : sync ∉ (Mark.owedAfter marks).map Owed.sync := by
      rw [← sound.owes.outstanding_eq]
      exact fun outstanding => collects ⟨sync, outstanding, waitMs, rfl⟩
    simp only [Application.perform, sound.owes.sync_unknown unowed]
    rfl
  | close => cases failed
  | overwrite index start payload => cases failed
  | allocate info count => cases failed
  | replace bitstream => cases failed

/-- An operation that changes nothing may as well be left out. -/
theorem run_cons_of_unchanged (unchanged : application.perform operation = .ok (application, []))
    (later : List Operation) :
    application.run (operation :: later) = application.run later := by
  rw [run, unchanged]
  cases ran : application.run later with
  | error fault => simp [bind, Except.bind, ran]
  | ok result => simp [bind, Except.bind, ran, pure, Except.pure]

end Application

/-- In every state that an application can bring about, a call of the encoder that fails leaves no
trace, and all that is done later comes out as if it had not been made; that holds of a call for a
result that is not outstanding as well, and of one to start a worker that does not start. A query
that fails leaves the parameters it was given as they were. A call for a result that is outstanding
fails only when the result came and the output buffer has no room for it: it takes exactly that sync
point out, gives exactly one credit back and leaves the buffer as it was. And once nothing is
outstanding, as after closing, all locks are as the encoder found them. -/
theorem failed_calls_leave_no_trace {reportsResults : Bool} {schedule : List Occasion}
    {pool : SurfacePool} {bitstream : Bitstream} {operations : List Operation}
    {application : Application} {marks : List Mark}
    (history : (Application.start reportsResults schedule pool bitstream).run operations
      = .ok (application, marks)) :
    (∀ operation error, application.failure? operation = some error →
      application.Collects operation ∨
        application.perform operation = .ok (application, []) ∧
          ∀ later, application.run (operation :: later) = application.run later) ∧
    (∀ submission error, (application.cpu.submit submission).reply = .fail error →
      (application.cpu.submit submission).Traceless application.cpu) ∧
    (∀ spawn params error, (application.cpu.initSpawning spawn params).reply = .fail error →
      (application.cpu.initSpawning spawn params).Traceless application.cpu) ∧
    (∀ params error, (application.cpu.query params).reply = .fail error →
      CpuEncoder.queryInPlace.run params = (.error error, params)) ∧
    (∀ sync ∉ application.cpu.outstanding, ∀ waitMs,
      application.cpu.sync sync waitMs application.bitstream
        = (.refused (.invalidInput s!"unknown sync point {sync.text}") application.cpu,
          application.bitstream)) ∧
    (∀ sync ∈ application.cpu.outstanding, ∀ waitMs answer left error,
      application.cpu.sync sync waitMs application.bitstream = (answer, left) →
      answer.reply = .fail error →
        (∃ needed, error = .notEnoughBuffer needed application.bitstream.available ∧
          application.bitstream.available < needed) ∧
        left = application.bitstream ∧
        answer.state.outstanding = application.cpu.outstanding.erase sync ∧
        answer.state.credits.used + 1 = application.cpu.credits.used ∧
        answer.state.credits.capacity = application.cpu.credits.capacity ∧
        answer.state.params = application.cpu.params ∧
        answer.state.nextSync = application.cpu.nextSync) ∧
    (application.cpu.outstanding = [] →
      application.pool.locks = application.foundLocks pool) ∧
    ∀ closed marks, application.perform .close = .ok (closed, marks) →
      closed.pool.locks = closed.foundLocks pool := by
  have found := Application.sound_start reportsResults schedule pool bitstream
  have sound := found.run history
  rw [List.nil_append] at sound
  have guarding := (Application.guarding_start reportsResults schedule pool bitstream).run found
    history
  refine ⟨fun operation error failed => ?_, fun _ _ => CpuEncoder.traceless_submit,
    fun _ _ _ => CpuEncoder.traceless_initSpawning, fun params error failed => ?_,
    fun sync unknown waitMs => ?_,
    fun sync outstanding waitMs answer left error synced failed => ?_,
    guarding.locks_eq_of_outstanding_eq_nil sound, fun closed added done => ?_⟩
  · by_cases collects : application.Collects operation
    · exact .inl collects
    · have unchanged := sound.perform_failed failed collects
      exact .inr ⟨unchanged, Application.run_cons_of_unchanged unchanged⟩
  · rw [CpuEncoder.reply_query] at failed
    rw [CpuEncoder.run_queryInPlace] at failed ⊢
    cases fixed : params.fixedDefect? .cpu with
    | some defect =>
      rw [fixed] at failed
      cases failed
      rfl
    | none =>
      rw [fixed] at failed
      cases failed
  · rw [sound.owes.outstanding_eq] at unknown
    exact sound.owes.sync_unknown unknown waitMs _
  · have gone := @CpuEncoder.Owes.sync_fail _ error _ sound.owes sync outstanding waitMs
      application.bitstream
    rw [synced] at gone
    exact gone failed
  · refine (guarding.perform sound done).locks_eq_of_outstanding_eq_nil (sound.perform done) ?_
    rw [Application.perform] at done
    rw [(Application.book_eq_ok done).1]
    rfl

/-- A picture is under way and the output buffer has no room at all. Getting ready again, a reset to
another depth and one more submission fail and change nothing. The result is lost for want of room;
then nothing is outstanding and no credit is used. -/
theorem failed_calls_leave_no_trace_of_no_room :
    ∃ application : Application, application.cpu.outstanding = [⟨1⟩] ∧
      (∀ operation ∈ [Operation.init (.jpeg 1 1 25 90),
          .reset { EncodeParams.jpeg 1 1 25 90 with asyncDepth := 2 }, .submit 0],
        application.perform operation = .ok (application, [])) ∧
      (application.cpu.sync ⟨1⟩ 100 application.bitstream).1.state.outstanding = [] ∧
      (application.cpu.sync ⟨1⟩ 100 application.bitstream).1.state.credits.used = 0 ∧
      ∀ closed marks, application.perform .close = .ok (closed, marks) →
        closed.pool.locks = closed.foundLocks (.allocate ⟨⟨25, 1⟩, 0, 0, 1, 1, 2, 2⟩ 1) := by
  have told : ((Application.start false [] (.allocate ⟨⟨25, 1⟩, 0, 0, 1, 1, 2, 2⟩ 1)
      (.empty 0)).run [.init (.jpeg 1 1 25 90), .submit 0]).map (fun result =>
        (result.1.cpu.outstanding, result.1.cpu.credits.used,
          [Operation.init (.jpeg 1 1 25 90),
            .reset { EncodeParams.jpeg 1 1 25 90 with asyncDepth := 2 }, .submit 0].all
              fun operation => (result.1.failure? operation).isSome,
          (result.1.cpu.sync ⟨1⟩ 100 result.1.bitstream).1.error?.isSome))
      = .ok ([⟨1⟩], 1, true, true) := by
    decide +kernel
  generalize history : Application.run _ _ = result at told
  cases result with
  | error fault => cases told
  | ok result =>
    obtain ⟨application, marks⟩ := result
    simp only [Except.map, Except.ok.injEq, Prod.mk.injEq, List.all_eq_true] at told
    obtain ⟨outstanding, used, refused, lost⟩ := told
    obtain ⟨unchanged, _, _, _, _, collected, _, closed⟩ := failed_calls_leave_no_trace history
    obtain ⟨error, failed⟩ := Option.isSome_iff_exists.1 lost
    cases synced : application.cpu.sync ⟨1⟩ 100 application.bitstream with
    | mk answer left =>
    rw [synced, Answer.error?_eq_some] at failed
    obtain ⟨_, _, left, fewer, _⟩ := collected ⟨1⟩ (by simp [outstanding]) 100 answer left error
      synced failed
    refine ⟨application, outstanding, ?_, ?_, ?_, closed⟩
    · intro operation mem
      obtain ⟨error, failed⟩ := Option.isSome_iff_exists.1 (refused operation mem)
      obtain ⟨_, _, _, rfl⟩ | ⟨unchanged, _⟩ := unchanged operation error failed
      · simp at mem
      · exact unchanged
    · rw [synced, left, outstanding]
      rfl
    · rw [synced]
      exact Nat.succ.inj (fewer.trans used)

end Nv12Jpeg
