import Nv12Jpeg.Proofs.Encode.Draws

/-!
# Changing the picture size

A run that is to change its picture size works with one set of parameters, one source and one pool
up to some frame, and with others from there on. This holds whatever the encoder answers.

* `Period` — a stretch of a run without a change; `EncodeM.round_ok` says that a round goes on with
  it, but for the change that is due after a file was written;
* `Resizes` — what the change does, and `EncodeM.applyChange_ok`, that it does so;
* `Keeping` — what holds between two rounds: the change is still to come, or it was made;
* `resolution_changes_once` — what that says about a run from its start on.
-/

namespace Nv12Jpeg

variable {σ α : Type} {encoder : Encoder σ} {store : FileStore}

/-- Whether a call is to find parameters to work with, or to replace them. -/
def Turn.setsParams : Turn → Bool
  | .query _ _ | .reset _ _ => true
  | _ => false

/-! ## Stretches of a run without a change -/

/-- From one state to another the size has stayed. Surfaces that were submitted meanwhile were
filled from the source of the first state. -/
structure Period (encoder : Encoder σ) (store : FileStore)
    (begun context : EncodeContext (σ × List Entry)) : Prop where
  options : context.options = begun.options
  encoder_eq : context.session.encoder = encoder.recorded
  changed : FileStore.ChangedAt (MayWrite begun.options store) context.store store
  params : context.params = begun.params
  info : context.pool.info = begun.params.frameInfo
  buffer : context.pool.buffer.size = begun.params.frameInfo.surfaceSize * begun.pool.size
  poolSize : context.pool.size = begun.pool.size
  resets : context.resets = begun.resets
  recent : ∃ turns, context.session.transcript = begun.session.transcript ++ turns ∧
    (∀ turn ∈ turns, turn.setsParams = false) ∧
    Draws begun.options store begun.params.frameInfo begun.source (submittedIn turns) context.source

/-- What makes a state another one for a period, apart from calls and reading. -/
structure Alike (earlier later : EncodeContext (σ × List Entry)) : Prop where
  options : later.options = earlier.options
  changed : FileStore.ChangedAt (MayWrite earlier.options earlier.store) later.store earlier.store
  params : later.params = earlier.params
  info : later.pool.info = earlier.pool.info
  buffer : later.pool.buffer.size = earlier.pool.buffer.size
  poolSize : later.pool.size = earlier.pool.size
  resets : later.resets = earlier.resets

section Period

variable {begun context ready last : EncodeContext (σ × List Entry)}

theorem Alike.refl (context : EncodeContext (σ × List Entry)) : Alike context context :=
  ⟨rfl, .refl _, rfl, rfl, rfl, rfl, rfl⟩

theorem Alike.book (alike : Alike context ready) (answer : Answer (Session (σ × List Entry)) α) :
    Alike context (ready.book answer) where
  options := alike.options
  changed := alike.changed
  params := alike.params
  info := LockChange.info_foldl.trans alike.info
  buffer := (congrArg Array.size LockChange.buffer_foldl).trans alike.buffer
  poolSize := LockChange.size_foldl.trans alike.poolSize
  resets := alike.resets

theorem WritesOnly.alike (writes : WritesOnly context last) : Alike context last where
  options := writes.options
  changed := writes.store
  params := writes.params
  info := congrArg SurfacePool.info writes.pool
  buffer := congrArg (·.buffer.size) writes.pool
  poolSize := congrArg SurfacePool.size writes.pool
  resets := writes.resets

/-- Filling a surface changes nothing else. -/
theorem Alike.of_offers {draining : Bool} {submission : Option Submission}
    (offers : EncodeM.Offers draining context submission ready) : Alike context ready := by
  have filled : ∀ {index : Nat} {how : FrameRead} {pool : SurfacePool} {source : Source},
      context.pool.findFree = some index →
      context.pool.readFrame index context.store context.source = .ok (some how, pool, source) →
      Alike context { context with pool, source } := by
    intro index how pool source free read
    obtain ⟨_, data, rfl⟩ :=
      SurfacePool.readFrame_eq_ok (SurfacePool.findFree_eq_some free).1 read
    exact ⟨rfl, .refl _, rfl, rfl, Bytes.size_write _ _ _, rfl, rfl⟩
  cases offers with
  | flush => exact .refl _
  | frame free read => exact filled free read
  | ended free read => exact { filled free read with }

namespace Period

/-- A state with a new pool begins a period. -/
theorem begin (same : context.session.encoder = encoder.recorded)
    (changed : FileStore.ChangedAt (MayWrite context.options store) context.store store)
    {count : UInt16} (pool : context.pool = .allocate context.params.frameInfo count) :
    Period encoder store context context where
  options := rfl
  encoder_eq := same
  changed := changed
  params := rfl
  info := by rw [pool]; rfl
  buffer := by
    rw [pool, SurfacePool.size, SurfacePool.allocate, Bytes.size_zeros, Array.size_replicate]
  poolSize := rfl
  resets := rfl
  recent := ⟨[], (List.append_nil _).symm, List.forall_mem_nil _, .start⟩

/-- A period goes on over calls that set no parameters, if what they submit was filled before. -/
theorem goes_on {turns : List Turn} (period : Period encoder store begun context)
    (alike : Alike context last) (same : last.session.encoder = encoder.recorded)
    (transcript : last.session.transcript = context.session.transcript ++ turns)
    (unset : ∀ turn ∈ turns, turn.setsParams = false)
    (draws : ∀ submissions,
      Draws begun.options store begun.params.frameInfo begun.source submissions context.source →
      Draws begun.options store begun.params.frameInfo begun.source
        (submissions ++ submittedIn turns) last.source) :
    Period encoder store begun last where
  options := alike.options.trans period.options
  encoder_eq := same
  changed := by
    -- the files of frames are the same ones whether their paths are looked up now or at the start
    have written := alike.changed
    rw [period.options, mayWrite_congr period.changed] at written
    exact written.trans period.changed
  params := alike.params.trans period.params
  info := alike.info.trans period.info
  buffer := alike.buffer.trans period.buffer
  poolSize := alike.poolSize.trans period.poolSize
  resets := alike.resets.trans period.resets
  recent := by
    obtain ⟨before, transcript', unset', draws'⟩ := period.recent
    refine ⟨before ++ turns, ?_, List.forall_mem_append.2 ⟨unset', unset⟩, ?_⟩
    · rw [transcript, transcript', List.append_assoc]
    · rw [submittedIn_append]
      exact draws _ draws'

/-- A period goes on where no call is made. -/
theorem without_calls (period : Period encoder store begun context) (alike : Alike context last)
    (session : last.session = context.session) (source : last.source = context.source) :
    Period encoder store begun last := by
  have transcript : last.session.transcript = context.session.transcript ++ [] := by
    rw [session, List.append_nil]
  refine period.goes_on alike (session ▸ period.encoder_eq) transcript
    (List.forall_mem_nil _) ?_
  intro submissions draws
  rw [source, submittedIn, List.filterMap_nil, List.append_nil]
  exact draws

/-- A period goes on with a submission of what was filled for it. -/
theorem submit {draining : Bool} {submission : Option Submission}
    (period : Period encoder store begun context)
    (offers : EncodeM.Offers draining context submission ready) :
    Period encoder store begun (ready.book (ready.session.submit submission)) := by
  have alike := Alike.of_offers offers
  obtain ⟨session, _⟩ := offers.unchanged
  have same : ready.session.encoder = encoder.recorded := session ▸ period.encoder_eq
  have noted := Session.records_submit same submission
  have transcript := noted.transcript_eq.trans (congrArg (Session.transcript · ++ _) session)
  refine period.goes_on (alike.book _) (noted.encoder_eq.trans same) transcript
    (List.forall_mem_singleton.2 rfl) fun submissions draws => ?_
  have size_eq : context.pool.buffer.size = context.pool.info.surfaceSize * context.pool.size := by
    rw [period.buffer, period.info, period.poolSize]
  have drawn := offers.draws period.changed period.info size_eq draws
  cases submission <;> exact drawn

end Period

/-! ## Steps that go on with a period -/

/-- The size stays, and nothing is written. -/
def Continues (encoder : Encoder σ) (store : FileStore)
    (earlier later : EncodeContext (σ × List Entry)) : Prop :=
  later.framesWritten = earlier.framesWritten ∧
    ∀ begun, Period encoder store begun earlier → Period encoder store begun later

theorem Continues.onward : EncodeM.Onward (Continues encoder store) where
  refl := fun _ => ⟨rfl, fun _ period => period⟩
  trans := fun h h' => ⟨h'.1.trans h.1, fun begun period => h'.2 begun (h.2 begun period)⟩

namespace EncodeM

theorem continues_report (event : Event) :
    Keeps (Continues encoder store) (report event : EncodeM (σ × List Entry) Unit) :=
  fun _ =>
    ⟨rfl, fun _ period => period.without_calls ⟨rfl, .refl _, rfl, rfl, rfl, rfl, rfl⟩ rfl rfl⟩

theorem continues_syncOnce (sync : SyncPoint) :
    Keeps (Continues encoder store) (syncOnce sync : EncodeM (σ × List Entry) _) := by
  intro context
  rw [run_syncOnce]
  refine ⟨rfl, fun begun period => ?_⟩
  have noted := Session.records_sync period.encoder_eq sync context.options.sync.waitMs
    context.bitstream
  have set_aside : Alike context { context with
      bitstream := (context.session.sync sync context.options.sync.waitMs context.bitstream).2 } :=
    ⟨rfl, .refl _, rfl, rfl, rfl, rfl, rfl⟩
  refine period.goes_on (set_aside.book _) (noted.encoder_eq.trans period.encoder_eq)
    noted.transcript_eq (List.forall_mem_singleton.2 rfl) fun submissions draws => ?_
  -- waiting for a result submits nothing, and the source stays where it is
  exact (List.append_nil submissions).symm ▸ draws

theorem continues_attemptSync (sync : SyncPoint) (left attempt : Nat) :
    Keeps (Continues encoder store) (attemptSync sync left attempt : EncodeM (σ × List Entry) _) :=
  .attemptSync Continues.onward continues_report (continues_syncOnce sync)
    (fun _ => ⟨rfl, fun _ period =>
      period.without_calls ⟨rfl, .refl _, rfl, rfl, rfl, rfl, rfl⟩ rfl rfl⟩) left attempt

theorem nextSubmission_ok {draining : Bool} {made : Except EncoderError SubmitStatus × Bool}
    (ran : (nextSubmission draining).run context = (.ok made, last)) :
    Continues encoder store context last := by
  obtain ⟨submission, ready, offers, run_eq⟩ | ⟨_, _, _, _, _, failed⟩ :=
    nextSubmission_cases draining context
  · rw [run_eq] at ran
    obtain ⟨_, rfl⟩ := Prod.mk.inj ran
    exact ⟨offers.unchanged.2.2, fun begun period => period.submit offers⟩
  · rw [failed] at ran
    cases ran

/-- A period goes on after a file was written. -/
theorem writeOutput_goes_on (period : Period encoder store begun context)
    (ran : writeOutput.run context = (.ok (), last)) :
    Period encoder store begun last ∧ last.framesWritten = context.framesWritten + 1 := by
  have writes := writesOnly_writeOutput.of_run ran
  obtain ⟨_, _, _, _, _, _, _, count, _⟩ := writeOutput_ok ran
  exact ⟨period.without_calls writes.alike writes.session writes.source, count⟩

/-- After its submission a round that succeeds has written nothing, or it has written a file and
applied the change that is due. -/
theorem settle_ok {draining : Bool} {reply : Except EncoderError SubmitStatus}
    {progress : Progress} (period : Period encoder store begun context)
    (ran : (settle draining reply).run context = (.ok progress, last)) :
    (Period encoder store begun last ∧ last.framesWritten = context.framesWritten) ∨
    ∃ written, Period encoder store begun written ∧
      written.framesWritten = context.framesWritten + 1 ∧
      applyDueChange.run written = (.ok (), last) := by
  unfold settle at ran
  split at ran
  -- only a submission that was queued with a sync point can lead to a file
  · obtain ⟨found, waited, synced, ran⟩ := run_bind_eq_ok ran
    obtain ⟨_, _, got, synced⟩ := run_bind_eq_ok synced
    cases got
    obtain ⟨count, goes_on⟩ := (continues_attemptSync _ _ 1).of_run synced
    cases found with
    | false =>
      cases ran
      exact .inl ⟨goes_on begun period, count⟩
    | true =>
      obtain ⟨_, written, wrote, ran⟩ := run_bind_eq_ok ran
      obtain ⟨_, _, applied, ran⟩ := run_bind_eq_ok ran
      obtain ⟨_, _, got, ran⟩ := run_bind_eq_ok ran
      cases got
      cases ran
      obtain ⟨period, next⟩ := writeOutput_goes_on (goes_on begun period) wrote
      exact .inr ⟨written, period, next.trans (congrArg (· + 1) count), applied⟩
  · cases ran
    exact .inl ⟨period, rfl⟩
  · split at ran <;> cases ran <;> exact .inl ⟨period, rfl⟩
  all_goals
    cases ran
    exact .inl ⟨(continues_report _ context).2 begun period, rfl⟩

/-- A round that succeeds goes on with a period, but for the change that is due after a file was
written. -/
theorem round_ok {loop : LoopState} {result : RoundEnd}
    (period : Period encoder store begun context)
    (ran : (round loop).run context = (.ok result, last)) :
    (Period encoder store begun last ∧ last.framesWritten = context.framesWritten) ∨
    ∃ written applied, Period encoder store begun written ∧
      written.framesWritten = context.framesWritten + 1 ∧
      applyDueChange.run written = (.ok (), applied) ∧ Continues encoder store applied last := by
  obtain ⟨⟨reply, draining⟩, submitted, made, ran⟩ := run_bind_eq_ok ran
  obtain ⟨count, goes_on⟩ := nextSubmission_ok made
  obtain ⟨progress, settled, acted, ran⟩ := run_bind_eq_ok ran
  have ends : Continues encoder store settled last :=
    (Keeps.endRound Continues.onward continues_report loop draining progress).of_run ran
  obtain ⟨period, same⟩ | ⟨written, period, next, applied⟩ := settle_ok (goes_on begun period) acted
  · exact .inl ⟨ends.2 begun period, ends.1.trans (same.trans count)⟩
  · exact .inr ⟨written, settled, period, next.trans (congrArg (· + 1) count), applied, ends⟩

end EncodeM

/-! ## The change -/

/-- From one state to another a new pool was allocated, as the encoder suggested. -/
structure Allocates (encoder : Encoder σ) (request : SurfaceRequest)
    (earlier later : EncodeContext (σ × List Entry)) : Prop where
  options : later.options = earlier.options
  encoder_eq : later.session.encoder = encoder.recorded
  source : later.source = earlier.source
  store : later.store = earlier.store
  framesWritten : later.framesWritten = earlier.framesWritten
  params : later.params = earlier.params
  resets : later.resets = earlier.resets
  transcript : later.session.transcript
    = earlier.session.transcript ++ [.surfaceRequest earlier.params (.ok request)]
  pool : later.pool = .allocate earlier.params.frameInfo request.suggested

/-- From one state to another the size was changed: the encoder has taken the new parameters, and
there is a pool of as many surfaces of that size as it suggested. -/
structure Resizes (encoder : Encoder σ) (width height : UInt16)
    (reached begun : EncodeContext (σ × List Entry)) : Prop where
  options : begun.options = reached.options
  encoder_eq : begun.session.encoder = encoder.recorded
  source : begun.source = reached.source
  store : begun.store = reached.store
  framesWritten : begun.framesWritten = reached.framesWritten
  params : begun.params = reached.params.withResolution width height
  resets : begun.resets = reached.resets + 1
  calls : ∃ current request,
    begun.session.transcript = reached.session.transcript ++ [.currentParams (.ok current),
      .reset begun.params (.ok ()), .surfaceRequest begun.params (.ok request)] ∧
    begun.pool = .allocate begun.params.frameInfo request.suggested

namespace EncodeM

theorem allocatePool_ok {request : SurfaceRequest}
    (same : context.session.encoder = encoder.recorded)
    (ran : allocatePool.run context = (.ok request, last)) :
    Allocates encoder request context last := by
  rw [allocatePool, run_bind_ok (run_get context)] at ran
  obtain ⟨_, _, called, ran⟩ := run_bind_eq_ok ran
  obtain ⟨answered, rfl⟩ := run_demand_eq_ok called
  cases ran
  have noted := Session.records_surfaceRequest same context.params
  have transcript := noted.transcript_eq
  rw [answered] at transcript
  exact ⟨rfl, noted.encoder_eq.trans same, rfl, rfl, rfl, rfl, rfl, transcript, rfl⟩

theorem changeSize_ok {width height : UInt16} (same : context.session.encoder = encoder.recorded)
    (ran : (changeSize width height).run context = (.ok (), last)) :
    Resizes encoder width height context last := by
  rw [changeSize, run_bind_ok (run_modify _ _), run_bind_ok (run_get _)] at ran
  obtain ⟨reply, _, called, ran⟩ := run_bind_eq_ok ran
  rw [run_call] at called
  obtain ⟨told, rfl⟩ := Prod.mk.inj called
  split at ran
  -- the run goes on only if the encoder has told its parameters and has taken the new ones
  · have refused : ∀ failure, heard (Session.resetReply failure) ≠ .ok (.ok true) := by
      intro failure
      cases failure <;> nofun
    obtain ⟨failure, _, replied⟩ | ⟨current, ⟨failure, _, replied⟩ | ⟨noted, _⟩⟩ :=
      Session.resetResolution_cases same (context.params.withResolution width height)
    · exact absurd (replied ▸ told) (refused failure)
    · exact absurd (replied ▸ told) (refused failure)
    obtain ⟨request, pooled, allocated, ran⟩ := run_bind_eq_ok ran
    have allocates := allocatePool_ok (noted.encoder_eq.trans same) allocated
    have params : pooled.params = context.params.withResolution width height := allocates.params
    have transcript : pooled.session.transcript = context.session.transcript ++
        [.currentParams (.ok current), .reset pooled.params (.ok ()),
          .surfaceRequest pooled.params (.ok request)] := by
      rw [params, allocates.transcript]
      exact (congrArg (· ++ _) noted.transcript_eq).trans (List.append_assoc _ _ _)
    cases ran
    exact ⟨allocates.options, allocates.encoder_eq, allocates.source, allocates.store,
      allocates.framesWritten, params, congrArg (· + 1) allocates.resets, current, request,
      transcript, params ▸ allocates.pool⟩
  · cases ran

theorem changeInput_ok {path : String} (ran : (changeInput path).run context = (.ok (), last)) :
    ∃ source, Source.openFile context.store path = .ok source ∧ last = { context with source } := by
  rw [changeInput, run_bind_ok (run_get context)] at ran
  split at ran
  · cases ran
  · rename_i source opened
    cases ran
    exact ⟨source, opened, rfl⟩

/-- The source of a change is the one so far, or the start of another file. -/
theorem applyChange_ok {change : ResolutionChange}
    (same : context.session.encoder = encoder.recorded)
    (ran : (applyChange change).run context = (.ok (), last)) :
    ∃ source, (change.input = none → source = context.source) ∧
      (∀ path, change.input = some path → Source.openFile context.store path = .ok source) ∧
      Resizes encoder change.width change.height { context with source } last := by
  unfold applyChange at ran
  cases given : change.input with
  | none =>
    rw [given] at ran
    exact ⟨context.source, fun _ => rfl, nofun, changeSize_ok same ran⟩
  | some path =>
    rw [given] at ran
    obtain ⟨_, _, opens, ran⟩ := run_bind_eq_ok ran
    obtain ⟨source, opened, rfl⟩ := changeInput_ok opens
    refine ⟨source, nofun, fun _ same_path => ?_, changeSize_ok same ran⟩
    cases same_path
    exact opened

theorem applyDueChange_ok {change : ResolutionChange}
    (asked : context.options.resolutionChange = some change)
    (ran : applyDueChange.run context = (.ok (), last)) :
    (change.afterFrames.toNat ≠ context.framesWritten ∧ last = context) ∨
    (change.afterFrames.toNat = context.framesWritten ∧
      (applyChange change).run context = (.ok (), last)) := by
  rw [applyDueChange, run_bind_ok (run_get context), asked] at ran
  dsimp only at ran
  split at ran
  · exact .inr ⟨by assumption, ran⟩
  · cases ran
    exact .inl ⟨by assumption, rfl⟩

end EncodeM

/-- The changed size begins a period. -/
theorem Resizes.begins {width height : UInt16} {reached : EncodeContext (σ × List Entry)}
    (resizes : Resizes encoder width height reached begun)
    (changed : FileStore.ChangedAt (MayWrite reached.options store) reached.store store) :
    Period encoder store begun begun := by
  obtain ⟨_, _, _, pool⟩ := resizes.calls
  refine .begin resizes.encoder_eq ?_ pool
  rw [resizes.options, resizes.store]
  exact changed

/-- Between two rounds the change is still to come, or it was made. -/
inductive Keeping (encoder : Encoder σ) (store : FileStore) (change : ResolutionChange)
    (first context : EncodeContext (σ × List Entry)) : Prop
  | pending (period : Period encoder store first context)
      (undue : change.afterFrames.toNat = 0 ∨ context.framesWritten < change.afterFrames.toNat)
  | applied {reached begun : EncodeContext (σ × List Entry)} {source : Source}
      (before : Period encoder store first reached)
      (kept : change.input = none → source = reached.source)
      (opened : ∀ path, change.input = some path →
        Source.openFile reached.store path = .ok source)
      (resizes : Resizes encoder change.width change.height { reached with source } begun)
      (later : Period encoder store begun context)
      (due : 1 ≤ change.afterFrames.toNat ∧ change.afterFrames.toNat ≤ context.framesWritten)

section Keeping

variable {change : ResolutionChange} {first : EncodeContext (σ × List Entry)}

/-- The step from one round to the next. A change that was made is not made again, since more
frames are written then. -/
theorem EncodeM.round_keeping {loop : LoopState} {result : RoundEnd}
    (asked : first.options.resolutionChange = some change)
    (keeping : Keeping encoder store change first context)
    (ran : (round loop).run context = (.ok result, last)) :
    Keeping encoder store change first last := by
  cases keeping with
  | pending period undue =>
    obtain ⟨period, same⟩ | ⟨written, next, period, count, applied, continues⟩ :=
      round_ok period ran
    · exact .pending period (same ▸ undue)
    have asked : written.options.resolutionChange = some change := period.options ▸ asked
    -- a file was written: its number is that of the change, or the change is still to come
    obtain ⟨differs, rfl⟩ | ⟨due, applied⟩ := applyDueChange_ok asked applied
    · refine .pending (continues.2 _ period) ?_
      rw [continues.1]
      omega
    · obtain ⟨source, kept, opened, resizes⟩ := applyChange_ok period.encoder_eq applied
      refine .applied period kept opened resizes
        (continues.2 _ (resizes.begins (period.options ▸ period.changed))) ?_
      rw [continues.1, resizes.framesWritten]
      dsimp only
      omega
  | applied before kept opened resizes period due =>
    obtain ⟨period, same⟩ | ⟨written, next, period, count, applied, continues⟩ :=
      round_ok period ran
    · exact .applied before kept opened resizes period (same ▸ due)
    have asked : written.options.resolutionChange = some change := by
      rw [period.options, resizes.options]
      exact before.options ▸ asked
    -- the count has left the number of the change behind, so it is not due again
    obtain ⟨_, rfl⟩ | ⟨due, _⟩ := applyDueChange_ok asked applied
    · refine .applied before kept opened resizes (continues.2 _ period) ?_
      rw [continues.1]
      omega
    · omega

end Keeping

/-! ## Set-up -/

/-- Calls were made by which no parameters are set and nothing is submitted. -/
structure Prepares (encoder : Encoder σ) (earlier later : EncodeContext (σ × List Entry)) :
    Prop where
  options : later.options = earlier.options
  source : later.source = earlier.source
  store : later.store = earlier.store
  framesWritten : later.framesWritten = earlier.framesWritten
  params : later.params = earlier.params
  resets : later.resets = earlier.resets
  session : earlier.session.encoder = encoder.recorded →
    later.session.encoder = encoder.recorded ∧
    ∃ turns, later.session.transcript = earlier.session.transcript ++ turns ∧
      ∀ turn ∈ turns, turn.setsParams = false ∧ turn.submission? = none

/-- From one state to another parameters were agreed on, and the encoder was initialized. -/
structure Agrees (encoder : Encoder σ) (outcome : QueryOutcome)
    (earlier later : EncodeContext (σ × List Entry)) : Prop where
  options : later.options = earlier.options
  encoder_eq : later.session.encoder = encoder.recorded
  source : later.source = earlier.source
  store : later.store = earlier.store
  framesWritten : later.framesWritten = earlier.framesWritten
  resets : later.resets = earlier.resets
  calls : ∃ turns, later.session.transcript = earlier.session.transcript ++
      .query earlier.params (.ok (outcome, later.params)) :: turns ∧
    ∀ turn ∈ turns, turn.setsParams = false ∧ turn.submission? = none

/-- Steps without a call that leave these fields alone. -/
theorem Prepares.of_session (session : last.session = context.session)
    (options : last.options = context.options) (source : last.source = context.source)
    (store : last.store = context.store)
    (framesWritten : last.framesWritten = context.framesWritten)
    (params : last.params = context.params) (resets : last.resets = context.resets) :
    Prepares encoder context last := by
  refine ⟨options, source, store, framesWritten, params, resets, fun same => ?_⟩
  rw [session]
  exact ⟨same, [], (List.append_nil _).symm, List.forall_mem_nil _⟩

theorem Prepares.onward : EncodeM.Onward (Prepares encoder) where
  refl := fun _ => .of_session rfl rfl rfl rfl rfl rfl rfl
  trans := by
    intro first second third h h'
    refine ⟨h'.options.trans h.options, h'.source.trans h.source, h'.store.trans h.store,
      h'.framesWritten.trans h.framesWritten, h'.params.trans h.params, h'.resets.trans h.resets,
      fun same => ?_⟩
    obtain ⟨same, turns, transcript, others⟩ := h.session same
    obtain ⟨same, turns', transcript', others'⟩ := h'.session same
    refine ⟨same, turns ++ turns', ?_, List.forall_mem_append.2 ⟨others, others'⟩⟩
    rw [transcript', transcript, List.append_assoc]

namespace EncodeM

theorem prepares_report (event : Event) :
    Keeps (Prepares encoder) (report event : EncodeM (σ × List Entry) Unit) :=
  fun _ => .of_session rfl rfl rfl rfl rfl rfl rfl

theorem prepares_demand {step : EncoderStep}
    {make : Session (σ × List Entry) → Answer (Session (σ × List Entry)) α}
    (records : ∀ session, session.encoder = encoder.recorded →
      ∃ entry, (make session).Records session [entry] ∧
        entry.turn.setsParams = false ∧ entry.turn.submission? = none) :
    Keeps (Prepares encoder) (demand step make) := by
  intro context
  rw [run_demand]
  refine ⟨rfl, rfl, rfl, rfl, rfl, rfl, fun same => ?_⟩
  obtain ⟨entry, noted, other⟩ := records context.session same
  exact ⟨noted.encoder_eq.trans same, _, noted.transcript_eq, List.forall_mem_singleton.2 other⟩

theorem prepares_openAccelerator :
    Keeps (Prepares encoder) (openAccelerator : EncodeM (σ × List Entry) Unit) :=
  .openAccelerator Prepares.onward (fun accelerator => prepares_demand
    fun _ same => ⟨_, Session.records_attach same accelerator, rfl, rfl⟩)
    fun _ _ => .of_session rfl rfl rfl rfl rfl rfl rfl

theorem negotiate_ok (same : context.session.encoder = encoder.recorded)
    (ran : negotiate.run context = (.ok (), last)) :
    ∃ outcome, Agrees encoder outcome context last := by
  rw [negotiate, run_bind_ok (run_get context)] at ran
  obtain ⟨⟨outcome, params⟩, _, asked, ran⟩ := run_bind_eq_ok ran
  obtain ⟨answered, rfl⟩ := run_demand_eq_ok asked
  have noted := Session.records_query same context.params
  have transcript := noted.transcript_eq
  rw [answered] at transcript
  rw [run_bind_ok (run_modify _ _)] at ran
  have starts : Keeps (Prepares encoder) (demand .init (Session.init params) >>= fun _ =>
      report .initializationTimed) :=
    .bind Prepares.onward
      (prepares_demand fun _ same => ⟨_, Session.records_init same _, rfl, rfl⟩)
      fun _ => prepares_report _
  have prepares : Prepares encoder
      { context.book (context.session.query context.params) with params } last := by
    dsimp only at ran
    split at ran
    · exact (Keeps.bind Prepares.onward (prepares_report _) fun _ => starts).of_run ran
    · exact starts.of_run ran
  obtain ⟨same, turns, started, others⟩ := prepares.session (noted.encoder_eq.trans same)
  refine ⟨outcome, prepares.options, same, prepares.source, prepares.store, prepares.framesWritten,
    prepares.resets, turns, ?_, others⟩
  rw [started, prepares.params]
  exact (congrArg (· ++ turns) transcript).trans (List.append_assoc _ _ _)

end EncodeM

/-- What set-up leaves. -/
structure Ready (encoder : Encoder σ) (first context : EncodeContext (σ × List Entry)) : Prop where
  options : context.options = first.options
  source : context.source = first.source
  framesWritten : context.framesWritten = first.framesWritten
  resets : context.resets = first.resets
  agreed : ∃ outcome, context.session.transcript.filter Turn.setsParams
    = [.query first.params (.ok (outcome, context.params))]
  unsubmitted : submittedIn context.session.transcript = []
  period : Period encoder first.store context context

theorem filter_setsParams {turns : List Turn}
    (others : ∀ turn ∈ turns, turn.setsParams = false ∧ turn.submission? = none) :
    turns.filter Turn.setsParams = [] ∧ submittedIn turns = [] :=
  ⟨List.filter_eq_nil_iff.2 fun turn mem => by simp [(others turn mem).1],
    List.filterMap_eq_nil_iff.2 fun turn mem => (others turn mem).2⟩

namespace EncodeM

theorem setUp_ok (same : context.session.encoder = encoder.recorded)
    (fresh : context.session.transcript = [])
    (ran : setUp.run context = (.ok (), last)) : Ready encoder context last := by
  rw [setUp, run_bind_ok (run_get context)] at ran
  obtain ⟨_, reported, told, ran⟩ := run_bind_eq_ok ran
  obtain ⟨_, opened, done, ran⟩ := run_bind_eq_ok ran
  have opens : Prepares encoder context opened :=
    Prepares.onward.trans ((prepares_report _).of_run told) (prepares_openAccelerator.of_run done)
  obtain ⟨same, before, begun, others⟩ := opens.session same
  obtain ⟨_, negotiated, done, ran⟩ := run_bind_eq_ok ran
  obtain ⟨outcome, agrees⟩ := negotiate_ok same done
  obtain ⟨later, asked, others'⟩ := agrees.calls
  obtain ⟨request, pooled, done, ran⟩ := run_bind_eq_ok ran
  have allocates := allocatePool_ok agrees.encoder_eq done
  rw [run_bind_ok (run_get pooled)] at ran
  obtain ⟨bitstream, _, allocated, ran⟩ := run_bind_eq_ok ran
  rw [run_ofFault] at allocated
  obtain ⟨_, rfl⟩ := Prod.mk.inj allocated
  have transcript : pooled.session.transcript
      = before ++ .query context.params (.ok (outcome, pooled.params)) :: later ++
        [.surfaceRequest pooled.params (.ok request)] := by
    rw [allocates.transcript, asked, begun, fresh, List.nil_append, opens.params, allocates.params]
  have store : pooled.store = context.store := by
    rw [allocates.store, agrees.store, opens.store]
  obtain ⟨set, unsubmitted⟩ := filter_setsParams others
  obtain ⟨set', unsubmitted'⟩ := filter_setsParams others'
  have agreed : pooled.session.transcript.filter Turn.setsParams
      = [.query context.params (.ok (outcome, pooled.params))] := by
    rw [transcript, List.filter_append, List.filter_append, set, List.filter_cons, set']
    rfl
  have unsubmitted : submittedIn pooled.session.transcript = [] := by
    rw [transcript, submittedIn_append, submittedIn_append, unsubmitted]
    exact congrArg (· ++ []) unsubmitted'
  have changed : FileStore.ChangedAt (MayWrite pooled.options context.store) pooled.store
      context.store := by
    rw [store]
    exact .refl _
  cases ran
  exact ⟨allocates.options.trans (agrees.options.trans opens.options),
    allocates.source.trans (agrees.source.trans opens.source),
    allocates.framesWritten.trans (agrees.framesWritten.trans opens.framesWritten),
    allocates.resets.trans (agrees.resets.trans opens.resets), ⟨outcome, agreed⟩, unsubmitted,
    .begin allocates.encoder_eq changed (allocates.params ▸ allocates.pool)⟩

end EncodeM

/-! ## Runs from the start on -/

/-- No parameters are set during a period. -/
theorem Period.filter_setsParams (period : Period encoder store begun context) :
    context.session.transcript.filter Turn.setsParams
      = begun.session.transcript.filter Turn.setsParams := by
  obtain ⟨turns, transcript, unset, _⟩ := period.recent
  have none_set : turns.filter Turn.setsParams = [] :=
    List.filter_eq_nil_iff.2 fun turn mem => by simp [unset turn mem]
  rw [transcript, List.filter_append, none_set, List.append_nil]

/-- All surfaces submitted in the first period were filled from the source of the run. -/
theorem Ready.draws {first : EncodeContext (σ × List Entry)} (up : Ready encoder first begun)
    (period : Period encoder first.store begun context) :
    Draws first.options first.store begun.params.frameInfo first.source
      (submittedIn context.session.transcript) context.source := by
  obtain ⟨turns, transcript, _, draws⟩ := period.recent
  rw [transcript, submittedIn_append, up.unsubmitted, List.nil_append, ← up.options, ← up.source]
  exact draws

/-- Between two rounds the change is still to come, or it was made, by induction on the rounds. -/
theorem EncodeM.Between.keeping {change : ResolutionChange}
    {first : EncodeContext (σ × List Entry)} {loop : LoopState}
    (asked : first.options.resolutionChange = some change)
    (same : first.session.encoder = encoder.recorded) (fresh : first.session.transcript = [])
    (unwritten : first.framesWritten = 0) (between : Between first loop context) :
    ∃ ready, Ready encoder first ready ∧ Keeping encoder first.store change ready context := by
  induction between with
  | start ran =>
    have ready := setUp_ok same fresh ran
    refine ⟨_, ready, .pending ready.period ?_⟩
    rw [ready.framesWritten, unwritten]
    exact Nat.eq_zero_or_pos _
  | next _ ran ih =>
    obtain ⟨ready, up, keeping⟩ := ih
    exact ⟨ready, up, round_keeping (up.options ▸ asked) keeping ran⟩
  | again _ ran ih =>
    obtain ⟨ready, up, keeping⟩ := ih
    exact ⟨ready, up, round_keeping (up.options ▸ asked) keeping ran⟩

end Period

/-- Between two rounds the picture size was changed once if the frame of the change was written, and
not at all if it was not. Up to the change all surfaces that are submitted are of the geometry that
was agreed on first, and are filled from the first source. From then on they have the new size and
are filled from the start of the new input, or else from where the first one had come; the pool has
as many surfaces as the encoder asked for after it took the new size, and nothing else in the
parameters is new. -/
theorem resolution_changes_once {state : σ} {source : Source} {options : EncodeOptions}
    {log : Array Event} {change : ResolutionChange} {loop : LoopState}
    {context : EncodeContext (σ × List Entry)} (asked : options.resolutionChange = some change)
    (between : EncodeM.Between
      (.start (.ofEncoder encoder.recorded (state, [])) source options store log) loop context) :
    ∃ outcome negotiated query,
      query = .query (.jpeg options.width options.height options.frameRate options.quality)
        (.ok (outcome, negotiated)) ∧
      context.resets = (if 1 ≤ change.afterFrames.toNat ∧
        change.afterFrames.toNat ≤ context.framesWritten then 1 else 0) ∧
      (context.resets = 0 →
        context.session.transcript.filter Turn.setsParams = [query] ∧
        context.params = negotiated ∧
        (∀ submission ∈ submittedIn context.session.transcript,
          submission.surface.info = negotiated.frameInfo) ∧
        Draws options store negotiated.frameInfo source (submittedIn context.session.transcript)
          context.source) ∧
      (context.resets = 1 → ∃ before current changed request later reached begun now,
        context.session.transcript = before ++ [.currentParams (.ok current),
          .reset changed (.ok ()), .surfaceRequest changed (.ok request)] ++ later ∧
        context.session.transcript.filter Turn.setsParams = [query, .reset changed (.ok ())] ∧
        context.params = changed ∧
        changed = { negotiated with
          frameInfo := { negotiated.frameInfo with
            cropW := change.width
            cropH := change.height
            width := align16 change.width
            height := align16 change.height } } ∧
        context.pool.info = changed.frameInfo ∧
        context.pool.size = request.suggested.toNat ∧
        (∀ submission ∈ submittedIn before, submission.surface.info = negotiated.frameInfo) ∧
        (∀ submission ∈ submittedIn later, submission.surface.info = changed.frameInfo) ∧
        Draws options store negotiated.frameInfo source (submittedIn before) reached ∧
        Draws options store changed.frameInfo begun (submittedIn later) context.source ∧
        FileStore.ChangedAt (MayWrite options store) now store ∧
        (change.input = none → begun = reached) ∧
        ∀ path, change.input = some path → Source.openFile now path = .ok begun) := by
  obtain ⟨ready, up, keeping⟩ := between.keeping asked rfl rfl rfl
  obtain ⟨outcome, agreed⟩ := up.agreed
  refine ⟨outcome, ready.params, _, rfl, ?_⟩
  cases keeping with
  | pending period undue =>
    have unchanged : context.resets = 0 := period.resets.trans up.resets
    have draws := up.draws period
    refine
      ⟨?_, fun _ => ⟨period.filter_setsParams.trans agreed, period.params, draws.info_eq, draws⟩,
      fun changed => ?_⟩
    · rw [unchanged, if_neg (by omega)]
    · rw [unchanged] at changed
      cases changed
  | @applied reached begun given before kept opened resizes period due =>
    have changed : context.resets = 1 := by
      rw [period.resets, resizes.resets]
      exact congrArg (· + 1) (before.resets.trans up.resets)
    refine ⟨?_, fun unchanged => ?_, fun _ => ?_⟩
    · rw [changed, if_pos due]
    · rw [changed] at unchanged
      cases unchanged
    obtain ⟨current, request, calls, pool⟩ := resizes.calls
    obtain ⟨later, transcript, unset, draws⟩ := period.recent
    have begun_options : begun.options = options :=
      resizes.options.trans (before.options.trans up.options)
    rw [begun_options, resizes.source] at draws
    have earlier := up.draws before
    have written := before.changed
    rw [up.options] at written
    refine
      ⟨reached.session.transcript, current, begun.params, request, later, reached.source, given,
      reached.store, ?_, ?_, period.params, ?_, period.info, ?_, earlier.info_eq, draws.info_eq,
      earlier, draws, written, kept, opened⟩
    · rw [transcript, calls]
    · rw [period.filter_setsParams, calls, List.filter_append, before.filter_setsParams, agreed]
      rfl
    · rw [resizes.params]
      exact congrArg (EncodeParams.withResolution · _ _) before.params
    · rw [period.poolSize, pool, SurfacePool.size, SurfacePool.allocate, Array.size_replicate]

/-- The geometry that a query has left. -/
def Turn.agreedInfo? : Turn → Option FrameInfo
  | .query _ (.ok (_, params)) => some params.frameInfo
  | _ => none

/-- A run whose change comes with the only frame it may write. -/
def changeWithLastFrame : EncodeContext (ScriptedEncoder × List Entry) :=
  .start (.ofEncoder ScriptedEncoder.encoder.recorded ({ ScriptedEncoder.usual with
      query := [some (.ok fun params =>
        { params with frameInfo := ⟨⟨25, 1⟩, 0, 0, 1, 1, 2, 2⟩ })]
      surfaces := [none, some (.ok (1, 3))] }, []))
    (.ofBytes #[1, 2, 3, 4, 5, 6, 7, 8, 9])
    { EncodeOptions.ofInput "" 1 1 with
      maxFrames := some 1
      resolutionChange := some ⟨1, 2, 2, none⟩ } .empty #[]

/-- The change is made all the same. -/
theorem resolution_changes_once_with_last_frame :
    ((EncodeM.round .start).run (EncodeM.setUp.run changeWithLastFrame).2).1
      = .ok (.stop .frameLimit) ∧
    ∃ context before current changed request later,
      EncodeM.Between changeWithLastFrame .start context ∧ context.framesWritten = 1 ∧
      context.resets = 1 ∧
      context.session.transcript = before ++ [.currentParams (.ok current),
        .reset changed (.ok ()), .surfaceRequest changed (.ok request)] ++ later ∧
      context.pool.info = ⟨⟨25, 1⟩, 0, 0, 2, 2, 16, 16⟩ ∧ context.pool.size = 3 ∧
      request.suggested = 3 ∧
      ∀ (i : Nat) (submission : Submission), (submittedIn before)[i]? = some submission →
        submission.surface.toFrame = .ok
          (FrameInfo.frame ⟨⟨25, 1⟩, 0, 0, 1, 1, 2, 2⟩ #[1, 2, 3, 4, 5, 6, 7, 8, 9] i) := by
  let first := (EncodeM.setUp.run changeWithLastFrame).2
  let last := ((EncodeM.round .start).run first).2
  have up : (EncodeM.setUp.run changeWithLastFrame).1 = .ok () := by decide +kernel
  have limit : ((EncodeM.round .start).run first).1 = .ok (.stop .frameLimit) := by decide +kernel
  have reached : EncodeM.Between changeWithLastFrame .start first := .start (Prod.ext up rfl)
  have reached : EncodeM.Between changeWithLastFrame .start last :=
    reached.again (Prod.ext limit rfl)
  have count : last.framesWritten = 1 := by decide +kernel
  have size : last.pool.size = 3 := by decide +kernel
  have told : (last.session.transcript.filter Turn.setsParams).filterMap Turn.agreedInfo?
      = [⟨⟨25, 1⟩, 0, 0, 1, 1, 2, 2⟩] := by decide +kernel
  refine ⟨limit, last, ?_⟩
  -- Only what is known of the last state matters from here on.
  clear_value last
  obtain ⟨outcome, negotiated, query, rfl, resets, -, changes⟩ :=
    resolution_changes_once rfl reached
  have once : last.resets = 1 := by
    rw [resets, count]
    rfl
  obtain ⟨before, current, changed, request, later, _, _, _, transcript, set, -, changed_eq, info,
    suggested, -, -, draws, -⟩ := changes once
  rw [set] at told
  have agreed : negotiated.frameInfo = ⟨⟨25, 1⟩, 0, 0, 1, 1, 2, 2⟩ := List.head_eq_of_cons_eq told
  rw [agreed] at draws
  have sound : FrameInfo.Sound ⟨⟨25, 1⟩, 0, 0, 1, 1, 2, 2⟩ := by constructor <;> decide
  have feeds : (Source.ofBytes #[1, 2, 3, 4, 5, 6, 7, 8, 9]).Feeds .empty
      (MayWrite changeWithLastFrame.options .empty) #[1, 2, 3, 4, 5, 6, 7, 8, 9] none :=
    ⟨rfl, by decide, by decide +kernel⟩
  obtain ⟨shows, -⟩ := draws.frames sound feeds
  refine ⟨before, current, changed, request, later, reached, count, once, transcript, ?_, size,
    UInt16.toNat_inj.1 (suggested.symm.trans size),
    fun i submission nth => (shows i submission nth).2⟩
  rw [info, changed_eq, agreed]
  rfl

end Nv12Jpeg
