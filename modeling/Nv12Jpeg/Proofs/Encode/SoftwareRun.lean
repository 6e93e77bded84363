import Mathlib.Algebra.Order.Ring.Nat
import Nv12Jpeg.Proofs.Encode.SoftwareSteps

/-!
# Runs on the software encoder

A run on the software encoder writes what is expected of it, as long as its worker keeps up and
files can be written.

* `Books` — what a run has to show for the files it wrote, and `Standing` — a run that can go on
  with raw bytes after these files;
* `Standing.skips`, `Standing.writes`, `Standing.drains` — one round, by what the next frame is
  encoded to;
* `Standing.stretch` — the rounds up to the next file after which something is due;
* `Standing.loops` — the loop as a whole.
-/

namespace Nv12Jpeg

open EncodeM EncodeParams

/-- What a run has to show for files: their number, their paths, and the files themselves. -/
structure Books (options : EncodeOptions) (before : FileStore) (info : FrameInfo) (resets : Nat)
    (files : List Bytes) (context : EncodeContext CpuEncoder) : Prop where
  options_eq : context.options = options
  encoder_eq : context.session.encoder = CpuEncoder.encoder
  framesWritten : context.framesWritten = files.length
  outputs : context.outputs = (List.range files.length).map fun k => outputPath options (k + 1)
  info_eq : context.params.frameInfo = info
  pool_size : context.pool.size = 2
  resets_eq : context.resets = resets
  written : Written options before files context.store

/-- A run that wrote these files, the first ones of `whole`, and can go on with the raw bytes that
are left. -/
structure Standing (options : EncodeOptions) (before : FileStore) (whole : List Bytes)
    (info : FrameInfo) (resets : Nat) (files : List Bytes) (rest : Bytes)
    (context : EncodeContext CpuEncoder) : Prop
    extends Books options before info resets files context where
  within : files <+: whole
  writable : options.Writable before whole.length
  covers : Clock.Covers options.sync.waitMs
  serves : context.session.Serves context.params.withWorstCase options.sync.attempts []
  sound : context.params.defect? .cpu = none
  quality : UInt8.ofNat context.params.quality.toNat = options.jpegQuality
  depth : context.params.asyncDepth = 1
  empty : context.bitstream.bytes = #[]
  capacity : context.bitstream.capacity = options.bitstreamCapacity
  pool_sound : context.pool.Sound
  pool_info : context.pool.info = info
  free : context.pool.locks = #[.free, .free]
  room : context.store.HasRoom ((whole.drop files.length).map Array.size).sum
  feeds : context.source.Feeds context.store (IsOutput options before whole.length) rest none

/-- A round whose submission is queued. -/
theorem EncodeM.run_round_queued {σ : Type} {context submitted : EncodeContext σ} {sync : SyncPoint}
    (next : (nextSubmission false).run context
      = (.ok (.ok (.queued (some sync)), false), submitted)) :
    (EncodeM.round .start).run context
      = (complete sync >>= endRound .start false).run submitted := by
  have next : (nextSubmission LoopState.start.draining).run context = _ := next
  rw [EncodeM.round, run_bind_ok next]
  rfl

/-- What is left of a loop once a file was written. -/
def EncodeM.goOn {σ : Type} (rounds : Nat) : EncodeM σ StopReason := do
  applyDueChange
  if limitReached (← get) then return .frameLimit
  else runRounds rounds .start

/-- A round in which a file is written. -/
theorem EncodeM.run_runRounds_wrote {σ : Type} {context submitted ready later : EncodeContext σ}
    {sync : SyncPoint}
    (next : (nextSubmission false).run context
      = (.ok (.ok (.queued (some sync)), false), submitted))
    (found : (synchronize sync).run submitted = (.ok true, ready))
    (wrote : writeOutput.run ready = (.ok (), later)) (rounds : Nat) :
    (runRounds (rounds + 1) .start).run context = (goOn rounds).run later := by
  have completed : (complete sync).run submitted = (do
      applyDueChange
      return if limitReached (← get) then .stop .frameLimit else .made : EncodeM σ Progress).run
        later := by
    rw [complete, run_bind_ok found, if_pos rfl, run_bind_ok wrote]
  -- What is due is applied in both, and the limit looked at only if that does not fail.
  rw [run_runRounds_succ, run_round_queued next, run_bind, completed, goOn, run_bind, run_bind]
  cases applyDueChange.run later with
  | mk outcome last =>
    cases outcome with
    | error failure => rfl
    | ok _ =>
      dsimp only
      rw [run_bind_ok (run_get _), run_bind_ok (run_get _)]
      by_cases limit : limitReached last = true
      · rw [if_pos limit, if_pos limit]
        rfl
      · rw [if_neg limit, if_neg limit]
        rfl

namespace Standing

variable {options : EncodeOptions} {before : FileStore} {whole : List Bytes} {info : FrameInfo}
  {resets : Nat} {files : List Bytes} {rest : Bytes} {context : EncodeContext CpuEncoder}
  {result : Bytes}

theorem info_sound (standing : Standing options before whole info resets files rest context) :
    info.Sound :=
  standing.pool_info ▸ standing.pool_sound.info

/-- The next frame is submitted and its result waited for. What is then in the output buffer is the
result, or nothing if it does not fit. -/
theorem collects (standing : Standing options before whole info resets files rest context)
    (enough : info.rawFrameSize ≤ rest.size)
    (encoded : (info.frame rest 0).toJpeg options.jpegQuality = .ok result) :
    ∃ (sync : SyncPoint) (submitted ready : EncodeContext CpuEncoder) (bitstream : Bitstream),
      (nextSubmission false).run context = (.ok (.ok (.queued (some sync)), false), submitted) ∧
      (synchronize sync).run submitted
        = (.ok (decide (result.size ≤ options.bitstreamCapacity)), { ready with bitstream }) ∧
      Standing options before whole info resets files
        (rest.extract info.rawFrameSize rest.size) ready ∧
      bitstream.capacity = options.bitstreamCapacity ∧
      bitstream.bytes = if result.size ≤ options.bitstreamCapacity then result else #[] := by
  have size : context.pool.info.cropW = context.params.withWorstCase.frameInfo.cropW ∧
      context.pool.info.cropH = context.params.withWorstCase.frameInfo.cropH := by
    rw [standing.pool_info, ← standing.info_eq]
    exact ⟨rfl, rfl⟩
  obtain ⟨sync, job, data, source, session, pool, log, next, shows, serves, pending, _, feeds,
    released⟩ := run_nextSubmission standing.serves (SurfacePool.findFree_of_two standing.free)
      standing.pool_sound size
      standing.feeds (standing.pool_info ▸ enough)
  rw [standing.pool_info] at shows serves feeds
  -- The surface shows the frame, so what is owed for it is the result.
  have file_ok : Owed.file? ⟨sync, ⟨info, data⟩, context.params.quality⟩ = .ok result := by
    rw [Owed.file?, Surface.toJpeg, shows, Attempt.ofFault_ok, standing.quality, ← encoded]
    rfl
  have covers : Clock.Covers context.options.sync.waitMs := standing.options_eq ▸ standing.covers
  obtain ⟨session', bitstream, log', serves', capacity, bytes_eq, collected⟩ :=
    @run_attemptSync _ _ { context with session, source, pool, log } _ _ _
      options.sync.attempts 1 _ _ covers serves pending file_ok standing.empty standing.capacity
      released fun waits => serves.timely waits.isInfix
  refine ⟨sync, _, { context with
    session := session'
    source
    pool := context.pool.withData 0 data
    log := log' }, bitstream, next, ?_, ?_, capacity, bytes_eq⟩
  · have attempts : context.options.sync.attempts = options.sync.attempts := by
      rw [standing.options_eq]
    rw [synchronize, run_bind_ok (run_get _)]
    dsimp only
    rw [attempts]
    exact collected
  · exact { standing with
      encoder_eq := serves'.encoder_eq
      serves := serves'
      feeds
      pool_sound := SurfacePool.sound_withData standing.pool_sound data }

/-- A frame whose result does not fit leaves nothing behind. -/
theorem skips (standing : Standing options before whole info resets files rest context)
    (enough : info.rawFrameSize ≤ rest.size)
    (encoded : (info.frame rest 0).toJpeg options.jpegQuality = .ok result)
    (large : ¬ result.size ≤ options.bitstreamCapacity) (rounds : Nat) :
    ∃ later, Standing options before whole info resets files
        (rest.extract info.rawFrameSize rest.size) later ∧
      (runRounds (rounds + 1) .start).run context = (runRounds rounds .start).run later := by
  obtain ⟨sync, submitted, ready, bitstream, next, waited, standing, capacity, bytes_eq⟩ :=
    standing.collects enough encoded
  rw [if_neg large] at bytes_eq
  rw [decide_eq_false large] at waited
  refine ⟨{ ready with bitstream }, { standing with capacity, empty := bytes_eq }, ?_⟩
  have completed : (complete sync).run submitted = (.ok .made, { ready with bitstream }) := by
    rw [complete, run_bind_ok waited]
    rfl
  rw [run_runRounds_succ, run_round_queued next, run_bind_ok completed]
  rfl

/-- A frame whose result fits goes to the next file. -/
theorem writes (standing : Standing options before whole info resets files rest context)
    (enough : info.rawFrameSize ≤ rest.size)
    (encoded : (info.frame rest 0).toJpeg options.jpegQuality = .ok result)
    (fits : result.size ≤ options.bitstreamCapacity) (next_file : files ++ [result] <+: whole)
    (rounds : Nat) :
    ∃ later, Standing options before whole info resets (files ++ [result])
        (rest.extract info.rawFrameSize rest.size) later ∧
      (runRounds (rounds + 1) .start).run context = (goOn rounds).run later := by
  obtain ⟨sync, submitted, ready, bitstream, next, waited, standing, capacity, bytes_eq⟩ :=
    standing.collects enough encoded
  rw [if_pos fits] at bytes_eq
  rw [decide_eq_true fits] at waited
  have longer : (files ++ [result]).length = files.length + 1 := List.length_append
  have more : files.length + 1 ≤ whole.length := by
    rw [← longer]
    exact next_file.length_le
  -- What is missing then is room for the result; that for the files behind it is left.
  have room : ready.store.HasRoom (bitstream.bytes.size
      + ((whole.drop (files ++ [result]).length).map Array.size).sum) := by
    have room := standing.room
    obtain ⟨behind, rfl⟩ := next_file
    rw [List.append_assoc, List.drop_left] at room
    rw [List.drop_left, bytes_eq]
    exact room
  obtain ⟨location, store, log, resolved, found, changed, room, wrote⟩ :=
    @run_writeOutput _ { ready with bitstream } _
      (standing.framesWritten ▸ (standing.writable.of_le more).counted)
      (by
        rw [standing.options_eq, standing.framesWritten]
        exact standing.written.others.creatable (standing.writable.creatable _ more))
      room
  refine ⟨_, ?_, run_runRounds_wrote next waited wrote rounds⟩
  have resolved : ready.store.resolve (outputPath ready.options (ready.framesWritten + 1))
      = .ok location := resolved
  rw [standing.options_eq, standing.framesWritten] at resolved
  have found : store.find? location = some (.file bitstream.bytes) := found
  rw [bytes_eq] at found
  -- The file is one of those that the source was said to be apart from.
  have output : FileStore.ChangedAt (IsOutput options before whole.length) store ready.store := by
    refine changed.mono ?_
    rintro _ rfl
    exact ⟨_, Nat.succ_pos _, more, standing.written.others.resolve_iff.1 resolved⟩
  exact { standing with
    within := next_file
    framesWritten := by
      rw [List.length_append, ← standing.framesWritten]
      rfl
    outputs := by
      rw [List.length_append, List.length_singleton, List.range_succ, List.map_append,
        ← standing.outputs, ← standing.framesWritten, ← standing.options_eq]
      rfl
    written := standing.written.add resolved found changed
    empty := Bitstream.bytes_clear _
    capacity
    room
    feeds := standing.feeds.of_changedAt output }

/-- Where less than a frame is left, the loop drains and ends. -/
theorem drains (standing : Standing options before whole info resets files rest context)
    (short : rest.size < info.rawFrameSize) (rounds : Nat) :
    ∃ last, Books options before info resets files last ∧
      (runRounds (rounds + 1) .start).run context = (.ok .drained, last) := by
  obtain ⟨data, source, read, size⟩ :=
    run_readFrame_short (SurfacePool.findFree_of_two standing.free) standing.feeds
      standing.pool_sound (standing.pool_info ▸ short)
  have next : (nextSubmission LoopState.start.draining).run context = _ :=
    run_nextSubmission_ended read standing.serves
  refine ⟨EncodeContext.report { context with pool := context.pool.withData 0 data, source }
    .inputEnded, { standing.toBooks with }, ?_⟩
  rw [run_runRounds_succ, EncodeM.round, run_bind_ok next]
  rfl

theorem limitReached_eq (standing : Standing options before whole info resets files rest context) :
    limitReached context = options.maxFrames.any fun limit => limit.toNat ≤ files.length := by
  rw [limitReached, standing.options_eq, standing.framesWritten]
  cases options.maxFrames <;> rfl

/-- A change is applied only when it is due. -/
theorem undue (standing : Standing options before whole info resets files rest context)
    (h : ∀ change, options.resolutionChange = some change →
      change.afterFrames.toNat ≠ files.length) :
    applyDueChange.run context = (.ok (), context) := by
  rw [applyDueChange, run_bind_ok (run_get _), standing.options_eq]
  cases change_eq : options.resolutionChange with
  | none => rfl
  | some change =>
    dsimp only
    rw [standing.framesWritten, if_neg (h change change_eq)]
    rfl

/-- A file after which nothing is due. -/
theorem passes (standing : Standing options before whole info resets files rest context)
    (undisturbed : options.Undisturbed files.length) (rounds : Nat) :
    (goOn rounds).run context = (runRounds rounds .start).run context := by
  have unlimited : limitReached context = false := by
    rw [standing.limitReached_eq]
    cases limit_eq : options.maxFrames with
    | none => rfl
    | some limit => exact decide_eq_false (Nat.not_le_of_lt (undisturbed.2 limit limit_eq))
  rw [goOn, run_bind_ok (standing.undue undisturbed.1), run_bind_ok (run_get _), unlimited]
  rfl

/-- The input comes first in a change, then the size. -/
theorem changes_input (standing : Standing options before whole info resets files rest context)
    {change : ResolutionChange} (due : options.resolutionChange = some change)
    (now : change.afterFrames.toNat = files.length)
    (readable : ∀ path, change.input = some path → options.CanRead before whole.length path) :
    ∃ source : Source,
      source.Feeds context.store (IsOutput options before whole.length)
        (change.input.elim rest before.bytesUnder) none ∧
      applyDueChange.run context
        = (changeSize change.width change.height).run { context with source } := by
  have applied : applyDueChange.run context = (applyChange change).run context := by
    rw [applyDueChange, run_bind_ok (run_get _), standing.options_eq, due]
    dsimp only
    rw [standing.framesWritten, if_pos now]
  rw [applied, applyChange]
  cases input : change.input with
  | none => exact ⟨context.source, standing.feeds, rfl⟩
  | some path =>
    obtain ⟨location, contents, opened, found, apart⟩ := readable path input
    -- The file is none of those written so far, so it is as it was before the run.
    have unwritten : ¬ IsOutput options before files.length location := by
      rintro ⟨frame, first, last, resolved⟩
      exact apart ⟨frame, first, Nat.le_trans last standing.within.length_le, resolved⟩
    have others := standing.written.others
    refine ⟨.file (.ofLocation location), ?_, ?_⟩
    · show Source.Feeds _ _ _ (before.bytesUnder path) none
      rw [FileStore.bytesUnder_eq opened found]
      exact Source.feeds_ofLocation ((others.others location unwritten).trans found) apart
    · dsimp only
      rw [run_bind_ok (run_changeInput (others.openRead opened unwritten))]

/-- The file after which the resolution change is due. -/
theorem changes (standing : Standing options before whole info resets files rest context)
    {change : ResolutionChange} (due : options.resolutionChange = some change)
    (now : change.afterFrames.toNat = files.length) (w : IsSide change.width)
    (h : IsSide change.height)
    (readable : ∀ path, change.input = some path → options.CanRead before whole.length path) :
    ∃ later, Standing options before whole (info.withCrop change.width change.height) (resets + 1)
        files (change.input.elim rest before.bytesUnder) later ∧
      applyDueChange.run context = (.ok (), later) := by
  obtain ⟨source, feeds, read⟩ := standing.changes_input due now readable
  have sound := defect?_withResolution standing.sound w h
  obtain ⟨session, log, serves, changed⟩ := @run_changeSize _ _ { context with source } _ _
    standing.serves standing.depth standing.depth sound
  have info_eq : context.params.frameInfo.withCrop change.width change.height
      = info.withCrop change.width change.height := by
    rw [standing.info_eq]
  refine ⟨_, ?_, read.trans changed⟩
  exact { standing with
    encoder_eq := serves.encoder_eq
    info_eq := info_eq
    pool_size := rfl
    resets_eq := congrArg (· + 1) standing.resets_eq
    serves
    sound
    pool_sound := SurfacePool.sound_allocate (sound_frameInfo sound) 2
    pool_info := info_eq
    free := rfl
    feeds }

/-- The rounds up to the one that writes the last file of a number that is wanted, or to the end of
the frames if there are not as many. The induction is on the results of these frames. -/
theorem stretch {results : List Bytes} {wanted rounds : Nat}
    (standing : Standing options before whole info resets files rest context)
    (encoded : info.encodings options.jpegQuality rest = .ok results) (positive : 0 < wanted)
    (quiet : ∀ k, files.length < k → k < files.length + wanted →
      k ≤ files.length + (options.fitting results).length → options.Undisturbed k)
    (within : files ++ (options.fitting results).take wanted <+: whole)
    (fuel : results.length < rounds) :
    (wanted ≤ (options.fitting results).length ∧ ∃ middle,
      Standing options before whole info resets (files ++ (options.fitting results).take wanted)
        (rest.extract (options.upTo wanted results * info.rawFrameSize) rest.size) middle ∧
      (runRounds rounds .start).run context
        = (goOn (rounds - options.upTo wanted results)).run middle) ∨
    ((options.fitting results).length < wanted ∧ ∃ last,
      Books options before info resets (files ++ options.fitting results) last ∧
      (runRounds rounds .start).run context = (.ok .drained, last)) := by
  induction results generalizing files rest context wanted rounds with
  | nil =>
    obtain ⟨rounds, rfl⟩ : ∃ fewer, rounds = fewer + 1 := ⟨rounds - 1, by omega⟩
    rcases FrameInfo.encodings_cases standing.info_sound.rawFrameSize_pos encoded with
      ⟨short, _⟩ | ⟨_, _, _, same, _⟩
    · -- the frames have come to their end
      obtain ⟨last, books, drained⟩ := standing.drains short rounds
      refine .inr ⟨positive, last, ?_, drained⟩
      rw [EncodeOptions.fitting, List.filter_nil, List.append_nil]
      exact books
    · cases same
  | cons result results ih =>
    obtain ⟨rounds, rfl⟩ : ∃ fewer, rounds = fewer + 1 := ⟨rounds - 1, by omega⟩
    rcases FrameInfo.encodings_cases standing.info_sound.rawFrameSize_pos encoded with
      ⟨_, same⟩ | ⟨enough, _, _, same, first, others⟩
    · cases same
    cases same
    rw [List.length_cons] at fuel
    -- Frames are counted from behind the first one from here on.
    have behind : ∀ used, (rest.extract info.rawFrameSize rest.size).extract
        (used * info.rawFrameSize) (rest.extract info.rawFrameSize rest.size).size
          = rest.extract ((used + 1) * info.rawFrameSize) rest.size := by
      intro used
      rw [Bytes.extract_size_extract_size, Nat.succ_mul, Nat.add_comm]
    obtain ⟨wanted, rfl⟩ : ∃ fewer, wanted = fewer + 1 := ⟨wanted - 1, by omega⟩
    by_cases fits : result.size ≤ options.bitstreamCapacity
    · -- the result goes to a file, which may be the last one that is wanted
      rw [EncodeOptions.fitting_cons, if_pos fits] at quiet within ⊢
      rw [List.take_succ_cons, List.append_cons] at within
      rw [EncodeOptions.upTo, if_pos fits, List.take_succ_cons, List.length_cons,
        Nat.succ_sub_succ]
      obtain ⟨later, standing, ran⟩ :=
        standing.writes enough first fits ((List.prefix_append _ _).trans within) rounds
      have longer : (files ++ [result]).length = files.length + 1 := List.length_append
      cases wanted with
      | zero =>
        refine .inl ⟨Nat.succ_le_succ (Nat.zero_le _), later, ?_, ?_⟩
        · rw [List.take_zero, EncodeOptions.upTo, Nat.zero_add, Nat.one_mul]
          exact standing
        · rw [EncodeOptions.upTo]
          exact ran
      | succ wanted =>
        rw [standing.passes (by
          rw [longer]
          exact quiet _ (by omega) (by omega) (by rw [List.length_cons]; omega))] at ran
        rw [ran, Nat.succ_le_succ_iff, Nat.succ_lt_succ_iff, ← behind,
          List.append_cons _ _ (List.take _ _), List.append_cons _ _ (options.fitting results)]
        refine ih standing others (Nat.succ_pos _) ?_ within (Nat.lt_of_succ_lt_succ fuel)
        intro k low high within
        rw [longer] at low high within
        exact quiet k (by omega) (by omega) (by rw [List.length_cons]; omega)
    · -- the result is dropped, and as many files as before are wanted of the frames behind it
      rw [EncodeOptions.fitting_cons, if_neg fits] at quiet within ⊢
      rw [EncodeOptions.upTo, if_neg fits, Nat.succ_sub_succ, ← behind]
      obtain ⟨later, standing, ran⟩ := standing.skips enough first fits rounds
      rw [ran]
      exact ih standing others positive quiet within (Nat.lt_of_succ_lt_succ fuel)

/-- The last frames of a run, behind which no change is due. -/
theorem ends {results : List Bytes} {limit : Option Nat} {rounds : Nat}
    (standing : Standing options before whole info resets files rest context)
    (encoded : info.encodings options.jpegQuality rest = .ok results)
    (limit_eq : limit = options.fileLimit.map (· - files.length)) (positive : limit ≠ some 0)
    (unchanged : ∀ change, options.resolutionChange = some change → ∀ k, files.length < k →
      k ≤ files.length + (options.lastFiles limit results).1.length →
      change.afterFrames.toNat ≠ k)
    (within : files ++ (options.lastFiles limit results).1 <+: whole)
    (fuel : results.length < rounds) :
    ∃ last, Books options before info resets (files ++ (options.lastFiles limit results).1) last ∧
      (runRounds rounds .start).run context = (.ok (options.lastFiles limit results).2, last) := by
  cases limits : options.maxFrames with
  | none =>
    -- One more file is wanted than there can be, so the frames come to their end first.
    rw [EncodeOptions.fileLimit, limits] at limit_eq
    subst limit_eq
    have whole : (options.fitting results).take ((options.fitting results).length + 1)
        = options.fitting results := List.take_of_length_le (Nat.le_succ _)
    rcases standing.stretch encoded (Nat.succ_pos (options.fitting results).length)
      (fun k low _ within => ⟨fun change due => unchanged change due k low within,
        fun limit limit_eq => by
          rw [limits] at limit_eq
          cases limit_eq⟩) (by rw [whole]; exact within) fuel with ⟨more, _⟩ | ⟨_, last, books, ran⟩
    · exact absurd more (Nat.not_succ_le_self _)
    · exact ⟨last, books, ran⟩
  | some most =>
    rw [EncodeOptions.fileLimit, limits] at limit_eq
    obtain ⟨left, left_eq⟩ : ∃ left, left = max most.toNat 1 - files.length := ⟨_, rfl⟩
    have limit_eq : limit = some left := limit_eq.trans (congrArg some left_eq.symm)
    subst limit_eq
    have left_pos : 0 < left := Nat.pos_of_ne_zero fun zero => positive (congrArg some zero)
    rw [EncodeOptions.fst_lastFiles_some] at unchanged within
    rw [List.length_take] at unchanged
    have quiet : ∀ k, files.length < k → k < files.length + left →
        k ≤ files.length + (options.fitting results).length → options.Undisturbed k := by
      intro k low high within
      refine ⟨fun change due => unchanged change due k low (by omega), fun limit limit_eq => ?_⟩
      cases limits.symm.trans limit_eq
      omega
    rcases standing.stretch encoded left_pos quiet within fuel with
      ⟨enough, middle, standing, ran⟩ | ⟨few, last, books, ran⟩
    · -- the last file that may be written: nothing is applied after it, and the limit is reached
      have length_eq : (files ++ (options.fitting results).take left).length
          = files.length + left := by
        rw [List.length_append, List.length_take, Nat.min_eq_left enough]
      have limited : limitReached middle = true := by
        rw [standing.limitReached_eq, limits, length_eq]
        exact decide_eq_true (by omega)
      rw [ran, goOn, run_bind_ok (standing.undue fun change due => by
        rw [length_eq]
        exact unchanged change due _ (by omega) (by omega)), run_bind_ok (run_get _),
        if_pos limited, EncodeOptions.lastFiles, if_pos enough]
      exact ⟨middle, standing.toBooks, rfl⟩
    · -- fewer files than there may be
      rw [ran, EncodeOptions.lastFiles, if_neg (Nat.not_le_of_lt few)]
      exact ⟨last, books, rfl⟩

/-- What a run does behind a file after which a change was made. -/
theorem resumes {changed : EncodeContext CpuEncoder} {results : List Bytes} {limit : Option Nat}
    {rounds : Nat} (standing : Standing options before whole info resets files rest changed)
    (applied : applyDueChange.run context = (.ok (), changed)) (wrote : 0 < files.length)
    (encoded : info.encodings options.jpegQuality rest = .ok results)
    (limit_eq : limit = options.fileLimit.map (· - files.length))
    (unchanged : ∀ change, options.resolutionChange = some change →
      change.afterFrames.toNat ≤ files.length)
    (within : files ++ (options.lastFiles limit results).1 <+: whole)
    (fuel : results.length < rounds) :
    ∃ last, Books options before info resets (files ++ (options.lastFiles limit results).1) last ∧
      (goOn rounds).run context = (.ok (options.lastFiles limit results).2, last) := by
  rw [goOn, run_bind_ok applied, run_bind_ok (run_get _)]
  -- A file was written, so that the limit is not looked at for the first time.
  have reached : limitReached changed = true ↔ limit = some 0 := by
    rw [standing.limitReached_eq, limit_eq, EncodeOptions.fileLimit]
    cases options.maxFrames with
    | none => constructor <;> intro same <;> cases same
    | some most =>
      show decide (most.toNat ≤ files.length) = true ↔
        some (max most.toNat 1 - files.length) = some 0
      rw [decide_eq_true_eq, Option.some_inj]
      omega
  by_cases limited : limitReached changed = true
  · cases reached.1 limited
    rw [if_pos limited, EncodeOptions.lastFiles_zero, List.append_nil]
    exact ⟨changed, standing.toBooks, rfl⟩
  · rw [if_neg limited]
    refine standing.ends encoded limit_eq (mt reached.2 limited) ?_ within fuel
    intro change due k low _ now
    exact Nat.not_lt_of_le (unchanged change due) (now ▸ low)

/-- The loop, from its first frame on. -/
theorem loops {bytes : Bytes} {expected : Expected} {rounds : Nat}
    (standing : Standing options before whole options.frameInfo 0 [] bytes context)
    (expected_eq : options.expected before bytes = .ok expected)
    (reachable : ∀ results change,
      options.frameInfo.encodings options.jpegQuality bytes = .ok results →
      options.changeWithin? results = some change → IsSide change.width ∧ IsSide change.height)
    (readable : ∀ change path, options.resolutionChange = some change →
      change.input = some path → options.CanRead before whole.length path)
    (whole_eq : whole = expected.files)
    (bytes_lt : bytes.size < rounds) (store_lt : before.size < rounds) :
    ∃ last, Books options before expected.frameInfo expected.resets expected.files last ∧
      (runRounds rounds .start).run context = (.ok expected.stopReason, last) := by
  obtain ⟨results, encoded⟩ := standing.info_sound.encodings_ok options.jpegQuality bytes
  have count := FrameInfo.length_encodings_le standing.info_sound.one_lt_rawFrameSize encoded
  cases change_eq : options.changeWithin? results with
  | none =>
    rw [EncodeOptions.expected_of_none encoded change_eq] at expected_eq
    obtain rfl := Except.ok.inj expected_eq
    have limit_eq : options.fileLimit = options.fileLimit.map (· - ([] : List Bytes).length) := by
      cases options.fileLimit <;> rfl
    refine standing.ends encoded limit_eq options.fileLimit_ne_zero ?_
      (whole_eq ▸ List.prefix_rfl) (by omega)
    intro change due k positive there
    rw [List.length_nil, Nat.zero_add] at there
    exact EncodeOptions.afterFrames_ne change_eq due positive there
  | some change =>
    obtain ⟨due, after_pos, enough, _⟩ := EncodeOptions.changeWithin?_eq_some.1 change_eq
    obtain ⟨w, h⟩ := reachable results change encoded change_eq
    obtain ⟨results', encoded'⟩ := (FrameInfo.sound_nv12 w h options.frameRate).encodings_ok
      options.jpegQuality (options.bytesBehind before change results bytes)
    rw [EncodeOptions.expected_of_some encoded change_eq encoded'] at expected_eq
    obtain rfl := Except.ok.inj expected_eq
    have taken : ((options.fitting results).take change.afterFrames.toNat).length
        = change.afterFrames.toNat := by
      rw [List.length_take, Nat.min_eq_left enough]
    subst whole_eq
    -- Up to the change the files are the first results, and behind it those of other frames.
    have fuel : results.length < rounds := by omega
    rcases standing.stretch encoded after_pos
      (fun k positive early _ => EncodeOptions.undisturbed_of_lt change_eq positive
        (Nat.lt_of_lt_of_eq early (Nat.zero_add _)))
      (List.prefix_append _ _) fuel with
      ⟨_, middle, standing, ran⟩ | ⟨few, _⟩
    · obtain ⟨later, standing, changed⟩ := standing.changes due
        (by rw [List.nil_append, taken]) w h fun path input => readable change path due input
      rw [List.nil_append] at standing
      have standing : Standing options before _
          (.nv12 change.width change.height options.frameRate) 1
          ((options.fitting results).take change.afterFrames.toNat)
          (options.bytesBehind before change results bytes) later := standing
      have count' := FrameInfo.length_encodings_le standing.info_sound.one_lt_rawFrameSize encoded'
      have size_le := options.size_bytesBehind_le change results
        (Nat.le_max_left bytes.size before.size) (Nat.le_max_right bytes.size before.size)
      have used := options.upTo_le change.afterFrames.toNat results
      rw [ran]
      refine standing.resumes changed (by omega) encoded' (by rw [taken]) ?_ List.prefix_rfl
        (by omega)
      intro other due'
      cases due.symm.trans due'
      exact Nat.le_of_eq taken.symm
    · exact absurd enough (Nat.not_le_of_lt few)

end Standing

end Nv12Jpeg
