import Nv12Jpeg.Proofs.Encode.SoftwareRun

/-!
# The files of a run on the software encoder

* `run_writes_the_expected_files` — a run on the software encoder whose worker keeps up succeeds,
  and its files and its summary are the expected ones;
* `run_times_out` — a run whose worker does not get to the first frame in time fails.
-/

namespace Nv12Jpeg

open EncodeM EncodeParams

variable {options : EncodeOptions} {store : FileStore} {source : Source} {bytes : Bytes}
  {reports : Bool} {schedule : List Occasion} {log : Array Event} {expected : Expected}

/-- The state before a run on the software encoder. -/
def EncodeContext.software (options : EncodeOptions) (store : FileStore) (source : Source)
    (reports : Bool) (schedule : List Occasion) (log : Array Event) : EncodeContext CpuEncoder :=
  .start (.ofEncoder CpuEncoder.encoder (.new reports schedule)) source options store log

/-! ## Set-up -/

/-- The parameters that are agreed on. -/
def EncodeOptions.params (options : EncodeOptions) : EncodeParams :=
  (jpeg options.width options.height options.frameRate
    (jpeg options.width options.height options.frameRate options.quality).supportedQuality)
      |>.withWorstCase

/-- The state in which the loop of such a run starts. -/
def EncodeContext.ready (options : EncodeOptions) (store : FileStore) (source : Source)
    (session : Session CpuEncoder) (log : Array Event) : EncodeContext CpuEncoder :=
  { EncodeContext.start session source options store log with
    params := options.params
    pool := .allocate options.frameInfo 2
    poolNumber := 1
    bitstream := .empty options.bitstreamCapacity }

/-- The set-up with sides and a rate that are supported. -/
theorem run_setUp_software {attempts : Nat} (w : IsSide options.width) (h : IsSide options.height)
    (rate : options.frameRate ≠ 0) (capacity : options.bitstreamCapacity < Size.allocationBound)
    (timely : (CpuEncoder.new reports schedule).Timely attempts) :
    ∃ (session : Session CpuEncoder) (log' : Array Event),
      session.Serves options.params attempts [] ∧
      session.state.schedule = schedule ∧
      setUp.run (.software options store source reports schedule log)
        = (.ok (), .ready options store source session log') := by
  have ran := @run_setUp attempts (.software options store source reports schedule log) _ _ rfl
    timely (fixedDefect?_jpeg w h rate) (defect?_supported_jpeg w h rate) rfl capacity
  have params_eq :
      (EncodeContext.software options store source reports schedule log).params.supported = _ :=
    @supported_jpeg options.width options.height options.quality options.frameRate
  rw [params_eq] at ran
  exact ran

/-- The set-up leaves a run that can go on with all bytes. -/
theorem standing_setUp {files : List Bytes} (w : IsSide options.width) (h : IsSide options.height)
    (rate : options.frameRate ≠ 0) (capacity : options.bitstreamCapacity < Size.allocationBound)
    (timely : (CpuEncoder.new reports schedule).Timely options.sync.attempts)
    (covers : Clock.Covers options.sync.waitMs)
    (feeds : source.Feeds store (IsOutput options store files.length) bytes none)
    (writable : options.Writable store files.length)
    (room : store.HasRoom (files.map Array.size).sum) :
    ∃ ready, setUp.run (.software options store source reports schedule log) = (.ok (), ready) ∧
      Standing options store files options.frameInfo 0 [] bytes ready ∧
      ready.source = source ∧ ready.store = store := by
  have sound := @defect?_supported_jpeg _ _ options.quality _ w h rate
  rw [supported_jpeg] at sound
  obtain ⟨session, log', serves, _, ran⟩ :=
    @run_setUp_software _ store source _ _ log _ w h rate capacity timely
  refine ⟨_, ran, ?_, rfl, rfl⟩
  exact {
    options_eq := rfl
    encoder_eq := serves.encoder_eq
    framesWritten := rfl
    outputs := rfl
    info_eq := rfl
    pool_size := rfl
    resets_eq := rfl
    written := .start _ _
    within := List.nil_prefix
    writable
    covers
    serves
    sound
    quality := congrArg UInt8.ofNat (toNat_supportedQuality _)
    depth := rfl
    empty := rfl
    capacity := rfl
    pool_sound := SurfacePool.sound_allocate (FrameInfo.sound_nv12 w h options.frameRate) 2
    pool_info := rfl
    free := rfl
    room
    feeds }

/-! ## Whole runs -/

/-- A session on the software encoder is closed without an error. -/
theorem Session.reply_close {session : Session CpuEncoder}
    (same : session.encoder = CpuEncoder.encoder) : session.close.reply = .ok () := by
  unfold close
  by_cases closed : session.closed = true
  · rw [if_pos closed]
    rfl
  · rw [if_neg closed, pass, same]
    rfl

/-- The last step sums the run up. -/
theorem Books.finishes {context : EncodeContext CpuEncoder}
    (books : Books options store expected.frameInfo expected.resets expected.files context) :
    ∃ last, (finish expected.stopReason).run context = (.ok (expected.summary options), last) ∧
      last.store = context.store := by
  let told := context.report (.encodingFinished context.framesWritten expected.stopReason)
  let closed := told.book told.session.close
  have demanded : (demand .close Session.close).run told = (.ok (), closed) :=
    run_demand_ok (Session.reply_close books.encoder_eq)
  have summary_eq : EncodeSummary.mk closed.framesWritten closed.outputs expected.stopReason
      closed.params.frameInfo closed.pool.size closed.resets = expected.summary options := by
    have size : closed.pool.size = 2 := (LockChange.size_foldl).trans books.pool_size
    rw [size, show closed.framesWritten = _ from books.framesWritten,
      show closed.outputs = _ from books.outputs,
      show closed.params.frameInfo = _ from books.info_eq,
      show closed.resets = _ from books.resets_eq]
    rfl
  rw [finish, run_bind_ok (run_get _), run_bind_ok (run_report _ _), run_bind_ok demanded,
    run_bind_ok (run_get _), ← summary_eq]
  cases accelerator : closed.accelerator with
  | none => exact ⟨closed, rfl, rfl⟩
  | some accelerator => exact ⟨_, rfl, rfl⟩

/-- A run on the software encoder, whose worker keeps up, succeeds and writes the files that are
expected of it, if these can be created, there is room for all of them, and the input of a change
that comes about can be read. All other files are as before. How long the worker is waited for is up
to the options, as long as the clock can tell the end of the wait. -/
theorem run_writes_the_expected_files (w : IsSide options.width) (h : IsSide options.height)
    (rate : 1 ≤ options.frameRate.toNat)
    (reachable : ∀ results change,
      options.frameInfo.encodings options.jpegQuality bytes = .ok results →
      options.changeWithin? results = some change → IsSide change.width ∧ IsSide change.height)
    (capacity : options.bitstreamCapacity < Size.allocationBound)
    (timely : (CpuEncoder.new reports schedule).Timely options.sync.attempts)
    (covers : Clock.Covers options.sync.waitMs) :
    ∃ expected, options.expected store bytes = .ok expected ∧
      (source.Feeds store (IsOutput options store expected.files.length) bytes none →
        (∀ change path, options.resolutionChange = some change → change.input = some path →
          options.CanRead store expected.files.length path) →
        options.Writable store expected.files.length →
        store.HasRoom (expected.files.map Array.size).sum →
        ∃ last, (EncodeContext.software options store source reports schedule log).runToEnd
            = (.ok (expected.summary options), last) ∧
          (∀ (k : Nat) (payload : Bytes), expected.files[k]? = some payload →
            ∃ location, store.resolve (outputPath options (k + 1)) = .ok location ∧
              last.store.find? location = some (.file payload)) ∧
          ∀ location, ¬ IsOutput options store expected.files.length location →
            last.store.find? location = store.find? location) := by
  obtain ⟨expected, expected_eq⟩ := EncodeOptions.expected_ok store w h reachable
  refine ⟨expected, expected_eq, fun feeds readable writable room => ?_⟩
  have rate_ne : options.frameRate ≠ 0 := by
    rintro zero
    rw [zero] at rate
    exact absurd rate (by decide)
  obtain ⟨ready, made, standing, source_eq, store_eq⟩ := @standing_setUp _ _ _ _ _ _ log _ w h
    rate_ne capacity timely covers feeds writable room
  -- Each frame takes bytes, so there are more rounds than frames before and behind a change.
  have size_le := feeds.size_le
  have bytes_lt : bytes.size < roundLimit ready := by
    rw [roundLimit, source_eq, store_eq]
    omega
  have store_lt : store.size < roundLimit ready := by
    rw [roundLimit, source_eq, store_eq]
    omega
  obtain ⟨done, books, looped⟩ :=
    standing.loops expected_eq reachable readable rfl bytes_lt store_lt
  have looped : runLoop.run ready = (.ok expected.stopReason, done) := by
    rw [runLoop, run_bind_ok (run_get _), looped]
  obtain ⟨last, finished, last_store⟩ := books.finishes
  refine ⟨last.release, ?_, ?_, ?_⟩
  · rw [EncodeContext.runToEnd, EncodeContext.carryOut, wholeRun, run_bind_ok made,
      run_bind_ok looped, finished]
  · intro k payload kth
    obtain ⟨location, resolved, found⟩ := books.written.file k payload kth
    exact ⟨location, resolved, last_store ▸ found⟩
  · intro location outside
    exact (congrArg (·.find? location) last_store).trans (books.written.others.others _ outside)

/-- A frame of one pixel, and a byte that is too little for a frame of the size that follows: one
file is written, also where the bytes come in portions with interruptions, and the worker is late
once. -/
theorem run_writes_the_expected_files_of_one :
    (EncodeContext.software { EncodeOptions.ofInput "" 1 1 with
      resolutionChange := some ⟨1, 2, 2, none⟩ } .empty (.stream (.ofBytes #[200, 128, 128, 7]
        ⟨fun _ => 2, fun _ => 1, none⟩)) false [⟨0, 0⟩] #[]).runToEnd.1 = .ok {
      framesWritten := 1
      outputs := ["./frame1.jpg"]
      stopReason := .drained
      frameInfo := .nv12 2 2 25
      poolSize := 2
      resets := 1 } := by
  let options : EncodeOptions := { EncodeOptions.ofInput "" 1 1 with
    resolutionChange := some ⟨1, 2, 2, none⟩ }
  have reachable : ∀ results change,
      options.frameInfo.encodings options.jpegQuality #[200, 128, 128, 7] = .ok results →
      options.changeWithin? results = some change →
      IsSide change.width ∧ IsSide change.height := by
    intro results change _ within
    obtain ⟨due, _⟩ := EncodeOptions.changeWithin?_eq_some.1 within
    cases due
    decide
  have timely : (CpuEncoder.new false [⟨0, 0⟩]).Timely options.sync.attempts :=
    fun waits => absurd waits.length_le (by decide)
  obtain ⟨expected, expected_eq, runs⟩ := @run_writes_the_expected_files options .empty
    (.stream (.ofBytes #[200, 128, 128, 7] ⟨fun _ => 2, fun _ => 1, none⟩)) #[200, 128, 128, 7]
    false [⟨0, 0⟩] #[] (by decide) (by decide) (by decide) reachable (by decide) timely (by decide)
  -- The only frame is encoded here, to see that its file fits.
  have summary_eq : (options.expected .empty #[200, 128, 128, 7]).map (·.summary options) = .ok {
      framesWritten := 1
      outputs := ["./frame1.jpg"]
      stopReason := .drained
      frameInfo := .nv12 2 2 25
      poolSize := 2
      resets := 1 } := by decide +kernel
  rw [expected_eq] at summary_eq
  have summary_eq := Except.ok.inj summary_eq
  have one : expected.files.length = 1 := congrArg EncodeSummary.framesWritten summary_eq
  have first : FileStore.empty.Creatable (outputPath options 1) := by
    refine FileStore.creatable_iff.2 ⟨["frame1.jpg"], ?_, ?_, ?_⟩ <;> decide +kernel
  have writable : options.Writable .empty expected.files.length := by
    rw [one]
    refine ⟨by decide, fun k within => ?_⟩
    rw [Nat.lt_one_iff.1 within]
    exact first
  have readable : ∀ change path, options.resolutionChange = some change →
      change.input = some path → options.CanRead .empty expected.files.length path := by
    intro change path due input
    cases due
    cases input
  obtain ⟨last, ran, _⟩ := runs (Source.feeds_ofBytes (fun _ => Nat.two_pos) rfl) readable writable
    nofun
  exact (congrArg Prod.fst ran).trans (congrArg Except.ok summary_eq)

/-- A run that fails in the first round of the loop. -/
theorem EncodeContext.runToEnd_of_round_error {σ : Type} {context ready last : EncodeContext σ}
    {failure : Failure EncodeError} (made : setUp.run context = (.ok (), ready))
    (failed : (EncodeM.round .start).run ready = (.error failure, last)) :
    context.runToEnd = (.error failure, last.release) := by
  obtain ⟨rounds, rounds_eq⟩ : ∃ rounds, roundLimit ready = rounds + 1 :=
    ⟨roundLimit ready - 1, by rw [roundLimit]; omega⟩
  have looped : runLoop.run ready = (.error failure, last) := by
    rw [runLoop, run_bind_ok (run_get _), rounds_eq, run_runRounds_succ, failed]
  rw [runToEnd, carryOut, wholeRun, run_bind_ok made, run_bind_error looped]

/-- A run whose first frame is not encoded before the last attempt at collecting it times out. -/
theorem run_times_out {written : Location → Prop} (w : IsSide options.width)
    (h : IsSide options.height) (rate : options.frameRate ≠ 0)
    (capacity : options.bitstreamCapacity < Size.allocationBound)
    (feeds : source.Feeds store written bytes none)
    (enough : options.frameInfo.rawFrameSize ≤ bytes.size)
    (covers : Clock.Covers options.sync.waitMs)
    (late : List.replicate options.sync.attempts 0 <+: schedule.map Occasion.finished) :
    ∃ sync, (EncodeContext.software options store source reports schedule log).runToEnd.1
      = .error (.error (.syncTimeout sync options.sync.attempts)) := by
  have timely := CpuEncoder.timely_new reports schedule
  obtain ⟨session, log', serves, schedule_eq, ran⟩ :=
    @run_setUp_software _ store source _ _ log _ w h rate capacity timely
  obtain ⟨sync, job, data, source', session', pool, log'', next, _, serves, pending, unchanged,
      _⟩ :=
    @run_nextSubmission _ _ (.ready options store source session log') _ _ serves
      (SurfacePool.findFree_of_two rfl)
      (SurfacePool.sound_allocate (FrameInfo.sound_nv12 w h options.frameRate) 2) ⟨rfl, rfl⟩ feeds
      enough
  have late : List.replicate options.sync.attempts 0 <+: session'.state.pace := by
    have pace_eq : session.state.pace = schedule.map Occasion.finished :=
      congrArg (List.map Occasion.finished) schedule_eq
    rw [← pace_eq] at late
    rw [unchanged]
    exact late
  have waited := @run_attemptSync_late _ _ { EncodeContext.ready options store source session log'
    with session := session', source := source', pool, log := log'' } _ _ options.sync.attempts 1
    covers serves pending late
  rw [Nat.add_sub_cancel_left] at waited
  refine ⟨sync, ?_⟩
  cases attempted : (attemptSync sync options.sync.attempts 1).run
      { EncodeContext.ready options store source session log' with
        session := session', source := source', pool, log := log'' } with
  | mk outcome last =>
    rw [attempted] at waited
    cases waited
    have
      synced : (synchronize sync).run { EncodeContext.ready options store source session log' with
        session := session', source := source', pool, log := log'' } = _ := attempted
    have failed := (run_round_queued next).trans (run_bind_error (run_bind_error synced))
    rw [EncodeContext.runToEnd_of_round_error ran failed]

/-- Without memory for the output buffer a run ends before anything is written, and so it does where
all attempts at collecting a result come too early. -/
theorem run_fails_without_room_or_time :
    (EncodeContext.software { EncodeOptions.ofInput "" 1 1 with
      bitstreamCapacity := 0x8000000000000000 } .empty (.ofBytes #[200, 128, 128]) false []
        #[]).runToEnd.1 = .error (.fault .allocation) ∧
    ∃ sync, (EncodeContext.software { EncodeOptions.ofInput "" 1 1 with
      sync := ⟨100, 1⟩ } .empty (.ofBytes #[200, 128, 128]) false [⟨0, 0⟩] #[]).runToEnd.1
        = .error (.error (.syncTimeout sync 1)) :=
  ⟨by decide +kernel, @run_times_out { EncodeOptions.ofInput "" 1 1 with sync := ⟨100, 1⟩ } .empty
    (.ofBytes #[200, 128, 128]) #[200, 128, 128] false [⟨0, 0⟩] #[] (fun _ => False) (by decide)
    (by decide) (by decide) (by decide) ⟨rfl, Nat.zero_le _, by decide +kernel⟩ (by decide)
    (by decide) (by decide)⟩

end Nv12Jpeg
