import Nv12Jpeg.Proofs.Encode.Draining
import Nv12Jpeg.Proofs.Encode.InRange
import Nv12Jpeg.Proofs.Encode.SoftwareFiles
import Nv12Jpeg.Proofs.Encoder.BufferSize
import Nv12Jpeg.Proofs.Surface.FilesRunOut

/-!
# How runs on the software encoder end

A run on the software encoder that reads a file comes to a summary or to an error, whatever its
options are, whatever the files hold, and however late the worker is, as long as the clock can tell
the end of its waits. It may write over the file that it reads, so the frames are not known
beforehand; but each round takes a frame off the file, and the file runs out.

* `EncodeM.Comes` — steps that succeed, fail with an error, or stop for a reason that is known;
* `StopsFor` — the only reasons: a buffer that is too large for any memory, and a frame too many
  for 32 bits to count;
* `Underway` — a run on a file, with a bound on what the file can still deliver;
* `Underway.round_comes`, `Underway.loop_comes` — a round takes a frame off, so the loop ends;
* `encodeFile_comes` — a whole run, with as many files as its summary tells.
-/

namespace Nv12Jpeg

/-! ## Steps that succeed, fail or stop -/

namespace EncodeM

variable {σ α β : Type} {arrives : α → EncodeContext σ → Prop}
  {arrives' : β → EncodeContext σ → Prop} {stops : Fault → EncodeContext σ → Prop}
  {context : EncodeContext σ}

/-- Steps have come to a value and a state of a kind, or to an error, or to a fault of a kind. -/
inductive Comes (arrives : α → EncodeContext σ → Prop) (stops : Fault → EncodeContext σ → Prop) :
    Attempt EncodeError α × EncodeContext σ → Prop
  | arrived {value : α} {last : EncodeContext σ} (there : arrives value last) :
      Comes arrives stops (.ok value, last)
  | failed (error : EncodeError) (last : EncodeContext σ) :
      Comes arrives stops (.error (.error error), last)
  | stopped {fault : Fault} {last : EncodeContext σ} (known : stops fault last) :
      Comes arrives stops (.error (.fault fault), last)

namespace Comes

theorem of_error {ran : Attempt EncodeError α × EncodeContext σ} {error : EncodeError}
    (failed : ran.1 = .error (.error error)) : Comes arrives stops ran := by
  obtain ⟨outcome, last⟩ := ran
  cases failed
  exact .failed error last

theorem imp {arrives' : α → EncodeContext σ → Prop} {ran : Attempt EncodeError α × EncodeContext σ}
    (h : Comes arrives stops ran)
    (weaker : ∀ value last, arrives value last → arrives' value last) :
    Comes arrives' stops ran := by
  cases h with
  | arrived there => exact .arrived (weaker _ _ there)
  | failed error last => exact .failed error last
  | stopped known => exact .stopped known

/-- Steps go on from where others have come to. -/
theorem bind {first : EncodeM σ α} {next : α → EncodeM σ β}
    (h : Comes arrives stops (first.run context))
    (h' : ∀ value last, arrives value last → Comes arrives' stops ((next value).run last)) :
    Comes arrives' stops ((first >>= next).run context) := by
  rw [run_bind]
  generalize first.run context = ran at h
  cases h with
  | arrived there => exact h' _ _ there
  | failed error last => exact .failed error last
  | stopped known => exact .stopped known

/-- A call that has to succeed is refused. -/
theorem of_refused {step : EncoderStep} {make : Session σ → Answer (Session σ) α}
    {next : α → EncodeM σ β} {error : EncoderError}
    (refused : (make context.session).reply = .fail error) :
    Comes arrives' stops ((demand step make >>= next).run context) := by
  rw [run_bind, run_demand, refused]
  exact .failed _ _

end Comes

end EncodeM

/-! ## What a run is about to write and to read -/

/-- No file of the software encoder is larger: there are 8192 units in a row at most, and as many
rows of them. -/
def Jpeg.largestFile : Nat := 0x1000000000

theorem Jpeg.PictureCoding.unitAllowance_le_of_word {quality : Nat} (word : quality ≤ 255) :
    (atQuality quality).unitAllowance ≤ 8000 := by
  refine (unitAllowance_mono word).trans ?_
  rw [unitAllowance, luma_atQuality, chroma_atQuality,
    allowance_of_prices lumaDc_allowance lumaAc_prices.2.1 lumaAc_prices.2.2,
    allowance_of_prices chromaDc_allowance chromaAc_prices.2.1 chromaAc_prices.2.2]
  decide +kernel

theorem Jpeg.fileBound_le_largestFile (quality : UInt8) (width height : UInt16) :
    fileBound quality.toNat width.toNat height.toNat ≤ largestFile := by
  have width_lt := width.toNat_lt
  have height_lt := height.toNat_lt
  have units : (width.toNat + 7) / 8 * ((height.toNat + 7) / 8) ≤ 8192 * 8192 :=
    Nat.mul_le_mul (by omega) (by omega)
  have allowed := PictureCoding.unitAllowance_le_of_word (Nat.le_of_lt_succ quality.toNat_lt)
  have bits := Nat.mul_le_mul units allowed
  rw [fileBound, largestFile]
  omega

/-- How many bytes there may be in the input of a change that is still to come, if no file has more
than `bound`. -/
def EncodeOptions.toCome (options : EncodeOptions) (bound written : Nat) : Nat :=
  match options.resolutionChange with
  | some change => if written < change.afterFrames.toNat then bound else 0
  | none => 0

namespace EncodeOptions

variable {options : EncodeOptions} {bound written : Nat}

theorem toCome_le (options : EncodeOptions) (bound written : Nat) :
    options.toCome bound written ≤ bound := by
  unfold toCome
  split
  · split <;> omega
  · exact Nat.zero_le _

theorem toCome_succ_le (options : EncodeOptions) (bound written : Nat) :
    options.toCome bound (written + 1) ≤ options.toCome bound written := by
  unfold toCome
  split
  · split <;> split <;> omega
  · exact Nat.le_refl _

/-- With the last file before the change its input is not to come any more. -/
theorem toCome_of_due {change : ResolutionChange} (due : options.resolutionChange = some change)
    (now : change.afterFrames.toNat = written + 1) :
    options.toCome bound written = bound ∧ options.toCome bound (written + 1) = 0 := by
  rw [toCome, toCome, due]
  dsimp only
  rw [now, if_pos (Nat.lt_succ_self _), if_neg (Nat.lt_irrefl _)]
  exact ⟨rfl, rfl⟩

end EncodeOptions

/-- What a run stops for: an output buffer that no memory is large enough for, or one frame more
than 32 bits count. -/
inductive StopsFor (options : EncodeOptions) (before store : FileStore) : Fault → Prop
  | allocation (large : Size.allocationBound ≤ options.bitstreamCapacity) :
      StopsFor options before store .allocation
  | counter {files : List Bytes} (written : Written options before files store)
      (full : 0xffffffff ≤ files.length) : StopsFor options before store .sizeOverflow

/-- A run that has written these files, and counted them. -/
structure Counts (options : EncodeOptions) (before : FileStore) (files : List Bytes)
    (context : EncodeContext CpuEncoder) : Prop where
  options_eq : context.options = options
  encoder_eq : context.session.encoder = CpuEncoder.encoder
  framesWritten : context.framesWritten = files.length
  written : Written options before files context.store

/-- A run between two rounds that reads a file. No file has more than `bound` bytes, and the one
that is read delivers no more than `left`. -/
structure Underway (options : EncodeOptions) (before : FileStore) (bound patience left : Nat)
    (files : List Bytes) (context : EncodeContext CpuEncoder) : Prop
    extends Counts options before files context where
  serves : context.session.Serves context.params.withWorstCase patience []
  sound : context.params.defect? .cpu = none
  depth : context.params.asyncDepth = 1
  pool_sound : context.pool.Sound
  pool_info : context.pool.info = context.params.frameInfo
  free : context.pool.locks = #[.free, .free]
  within : context.store.Within bound
  leaves : context.source.Leaves bound left
  covers : Clock.Covers options.sync.waitMs

/-- What a round leads to: the next one, with two bytes less to read at least, or the end. -/
inductive Onwards (options : EncodeOptions) (before : FileStore) (bound patience budget : Nat) :
    RoundEnd → EncodeContext CpuEncoder → Prop
  | next {left : Nat} {files : List Bytes} {context : EncodeContext CpuEncoder}
      (underway : Underway options before bound patience left files context)
      (empty : context.bitstream.bytes = #[])
      (less : left + options.toCome bound files.length + 2 ≤ budget) :
      Onwards options before bound patience budget (.next .start) context
  | stop {reason : StopReason} {files : List Bytes} {context : EncodeContext CpuEncoder}
      (counts : Counts options before files context) :
      Onwards options before bound patience budget (.stop reason) context

open EncodeM

variable {options : EncodeOptions} {before : FileStore} {bound patience left : Nat}
  {files : List Bytes} {context : EncodeContext CpuEncoder}

/-! ## One round -/

/-- The file of a sound surface comes about, and is not larger than any file is. -/
theorem Surface.file_le_largestFile {surface : Surface} (sound : surface.info.Sound)
    (size : surface.data.size = surface.info.surfaceSize) (quality : UInt16) :
    ∃ frame file, surface.toFrame = .ok frame ∧
      (∀ sync, Owed.file? ⟨sync, surface, quality⟩ = .ok file) ∧ file.size ≤ Jpeg.largestFile := by
  obtain ⟨frame, file, copied, encoded, bounded⟩ :=
    Surface.file_bounded sound size (UInt8.ofNat quality.toNat)
  refine ⟨frame, file, copied, fun sync => ?_,
    bounded.trans (Jpeg.fileBound_le_largestFile _ _ _)⟩
  rw [Owed.file?, Surface.toJpeg, copied, Attempt.ofFault_ok, ← encoded]
  rfl

/-- Waiting for the only result that is owed ends in a timeout, or with the result: it is stored, or
does not fit and is dropped. -/
theorem synchronize_comes {params : EncodeParams} {o : Owed} {job : EncodeJob} {file : Bytes}
    {pool : SurfacePool} (covers : Clock.Covers context.options.sync.waitMs)
    (serves : context.session.Serves params patience [o])
    (pending : context.session.state.pending = [job]) (file_ok : o.file? = .ok file)
    (small : file.size ≤ bound) (empty : context.bitstream.bytes = #[])
    (dropped : (LockChange.released job.guarded).apply context.poolNumber context.pool = pool)
    (stops : Fault → EncodeContext CpuEncoder → Prop) :
    Comes (fun found last =>
        ∃ (session : Session CpuEncoder) (bitstream : Bitstream) (log : Array Event),
          session.Serves params patience [] ∧
          last = { context with session, bitstream, pool, log } ∧
          bitstream.bytes.size ≤ bound ∧ (found = false → bitstream.bytes = #[]))
      stops ((synchronize o.sync).run context) := by
  rw [synchronize, run_bind_ok (run_get _)]
  by_cases late : List.replicate context.options.sync.attempts 0
      <+: context.session.state.pace
  · exact .of_error (run_attemptSync_late covers serves pending late)
  obtain ⟨session, bitstream, log, serves, _, bytes_eq, collected⟩ :=
    @run_attemptSync _ _ _ _ _ _ _ 1 _ _ covers serves pending file_ok empty rfl dropped late
  rw [collected]
  refine .arrived ⟨session, bitstream, log, serves, rfl, ?_, fun missed => ?_⟩
  · rw [bytes_eq]
    split
    · exact small
    · exact Nat.zero_le _
  · rw [bytes_eq, if_neg (of_decide_eq_false missed)]

/-- Parameters with a defect do not take the place of others. -/
theorem Session.Serves.resetResolution_refused {session : Session CpuEncoder}
    {params next : EncodeParams} {attempts : Nat} {defect : ParamsDefect}
    (serves : session.Serves params attempts []) (unsound : next.defect? .cpu = some defect) :
    (session.resetResolution next).reply = .ok false := by
  obtain ⟨encoder, cpu, closed⟩ := session
  obtain ⟨rfl, _, params_eq, _⟩ := serves
  have params_eq : cpu.params = some params := params_eq
  have asked : Session.currentParams ⟨CpuEncoder.encoder, cpu, closed⟩
      = .ok params ⟨CpuEncoder.encoder, cpu, closed⟩ := by
    refine Session.pass_ok ?_
    show cpu.currentParams = _
    rw [CpuEncoder.currentParams, params_eq]
  have refused : (Session.reset next ⟨CpuEncoder.encoder, cpu, closed⟩).reply
      = .fail defect.toError := by
    show (cpu.reset next).reply = _
    rw [CpuEncoder.reset, params_eq]
    dsimp only
    rw [unsound]
    rfl
  rw [Session.resetResolution, asked]
  dsimp only [Answer.ok, Answer.quiet, Answer.report, Answer.after]
  rw [refused]
  rfl

namespace Underway

/-- Filling the first surface takes a frame off the file, if it has one. -/
theorem reads (underway : Underway options before bound patience left files context) :
    ∃ how data source, context.pool.readFrame 0 context.store context.source
        = .ok (some how, context.pool.withData 0 data, source) ∧
      data.size = context.pool.info.surfaceSize ∧
      (how = .complete → context.pool.info.rawFrameSize ≤ left ∧
        source.Leaves bound (left - context.pool.info.rawFrameSize)) := by
  obtain ⟨within, _⟩ :=
    SurfacePool.findFree_eq_some (SurfacePool.findFree_of_two underway.free)
  have shown := SurfacePool.surface?_eq_some within
  have size := SurfacePool.size_of_surface?_eq_some underway.pool_sound.size_eq shown
  obtain ⟨how, filled, source, one, _, filled_size⟩ := Surface.readFrame_ok
    underway.pool_sound.info.covering.rowsApart size context.store context.source
  have read : context.pool.readFrame 0 context.store context.source
      = .ok (some how, context.pool.withData 0 filled.data, source) := by
    rw [SurfacePool.readFrame, shown]
    exact bind_eq_ok.2 ⟨_, one, rfl⟩
  exact ⟨how, filled.data, source, read, filled_size,
    SurfacePool.readFrame_leaves underway.leaves underway.within read⟩

/-- A frame that was read is submitted, and its result waited for. -/
theorem collects (underway : Underway options before bound patience left files context)
    (empty : context.bitstream.bytes = #[]) (large : Jpeg.largestFile ≤ bound) {data : Bytes}
    {source : Source} {less : Nat}
    (read : context.pool.readFrame 0 context.store context.source
      = .ok (some .complete, context.pool.withData 0 data, source))
    (size : data.size = context.pool.info.surfaceSize) (leaves : source.Leaves bound less)
    (stops : Fault → EncodeContext CpuEncoder → Prop) :
    ∃ sync submitted,
      (nextSubmission false).run context = (.ok (.ok (.queued (some sync)), false), submitted) ∧
      Comes (fun found last => Underway options before bound patience less files last ∧
          last.bitstream.bytes.size ≤ bound ∧ (found = false → last.bitstream.bytes = #[]))
        stops ((synchronize sync).run submitted) := by
  have free := SurfacePool.findFree_of_two underway.free
  obtain ⟨within, _⟩ := SurfacePool.findFree_eq_some free
  let surface : Surface := ⟨context.pool.info, data⟩
  let submission : Submission := ⟨⟨context.poolNumber, 0⟩, surface⟩
  obtain ⟨frame, file, copied, encoded, small⟩ :=
    @Surface.file_le_largestFile surface underway.pool_sound.info size context.params.quality
  obtain ⟨sync, job, reply, locks, serves, pending, _, guarded⟩ :=
    @Session.Serves.submit _ _ _ underway.serves submission _
      ⟨congrArg FrameInfo.cropW underway.pool_info, congrArg FrameInfo.cropH underway.pool_info⟩
      copied
  let filled : EncodeContext CpuEncoder :=
    { context with pool := context.pool.withData 0 data, source }
  let submitted := filled.book (context.session.submit (some submission))
  have called := @run_call_ok _ _ (Session.submit (some submission)) filled _ reply
  have taken := run_readFrame free read
  rw [SurfacePool.surface?_withData_self underway.pool_sound.size_eq within size] at taken
  refine ⟨sync, submitted, ?_, ?_⟩
  · rw [nextSubmission, if_neg Bool.false_ne_true, run_bind_ok taken]
    exact run_bind_ok called
  -- The surface is locked with the submission, and free again when the worker is through with it.
  have dropped : (LockChange.released job.guarded).apply submitted.poolNumber submitted.pool
      = filled.pool := by
    show LockChange.apply _ ((context.session.submit (some submission)).locks.foldl _ _) _ = _
    rw [locks, guarded]
    exact LockChange.apply_released_acquired _
  have covers : Clock.Covers submitted.options.sync.waitMs :=
    underway.options_eq ▸ underway.covers
  refine (@synchronize_comes _ _ submitted _ _ _ _ _ covers serves pending (encoded sync)
    (small.trans large) empty dropped stops).imp fun found last there => ?_
  obtain ⟨session, bitstream, log, serves, rfl, fits, missed⟩ := there
  refine ⟨?_, fits, missed⟩
  exact { underway with
    encoder_eq := serves.encoder_eq
    serves
    pool_sound := SurfacePool.sound_withData underway.pool_sound data
    leaves }

/-- Writing a result. -/
theorem writes (underway : Underway options before bound patience left files context)
    (small : context.bitstream.bytes.size ≤ bound) :
    Comes (fun _ last => ∃ payload,
        Underway options before bound patience left (files ++ [payload]) last ∧
          last.bitstream.bytes = #[])
      (fun fault last => StopsFor options before last.store fault) (writeOutput.run context) := by
  obtain ⟨fault, full, ended⟩ | ⟨_, _, ended⟩ |
      ⟨location, store, sink, bitstream, created, ended⟩ :=
    writeOutput_cases context
  · -- one more file than are counted
    obtain ⟨rfl, many⟩ := nextFrame_eq_error full
    have count := underway.framesWritten
    rw [ended]
    exact .stopped (.counter underway.written (by omega))
  · rw [ended]
    exact .failed _ _
  obtain ⟨_, _, ended⟩ | ⟨bytes, wrote, ended⟩ := ended
  · rw [ended]
    exact .failed _ _
  obtain ⟨location', resolved, found, changed, _, _, empty, count, _⟩ := writeOutput_ok ended
  rw [underway.options_eq, underway.framesWritten] at resolved
  rw [ended]
  refine .arrived ⟨context.bitstream.bytes, ?_, empty⟩
  exact { underway with
    framesWritten := by
      rw [count, underway.framesWritten, List.length_append, List.length_singleton]
    written := underway.written.add resolved found changed
    within := underway.within.write changed found small }

/-- Another picture size, or the reset fails. -/
theorem resizes (underway : Underway options before bound patience left files context)
    (width height : UInt16) (stops : Fault → EncodeContext CpuEncoder → Prop) :
    Comes (fun _ last => Underway options before bound patience left files last ∧
        last.bitstream = context.bitstream)
      stops ((changeSize width height).run context) := by
  cases sound : (context.params.withResolution width height).defect? .cpu with
  | none =>
    obtain ⟨session, log, serves, changed⟩ :=
      run_changeSize underway.serves underway.depth underway.depth sound
    rw [changed]
    refine .arrived ⟨?_, rfl⟩
    exact { underway with
      encoder_eq := serves.encoder_eq
      serves
      sound
      pool_sound := SurfacePool.sound_allocate (EncodeParams.sound_frameInfo sound) 2
      pool_info := rfl
      free := rfl }
  | some defect =>
    rw [changeSize, run_bind_ok (run_modify _ _), run_bind_ok (run_get _), run_bind, run_call]
    dsimp only
    rw [underway.serves.resetResolution_refused sound]
    exact .failed _ _

/-- Another input, or it is not there. -/
theorem reopens (underway : Underway options before bound patience left files context)
    (path : String) (stops : Fault → EncodeContext CpuEncoder → Prop) :
    Comes (fun _ last => Underway options before bound patience bound files last ∧
        last.bitstream = context.bitstream)
      stops ((changeInput path).run context) := by
  rw [changeInput, run_bind_ok (run_get _)]
  cases opened : Source.openFile context.store path with
  | error error => exact .failed _ _
  | ok source => exact .arrived ⟨{ underway with leaves := .of_openFile opened }, rfl⟩

/-- What is due after the last file is applied. Another input has as many bytes left as were to
come. -/
theorem changes (underway : Underway options before bound patience left files context)
    (empty : context.bitstream.bytes = #[]) {written : Nat} (last_file : files.length = written + 1)
    (stops : Fault → EncodeContext CpuEncoder → Prop) :
    Comes (fun _ last => ∃ less, Underway options before bound patience less files last ∧
        last.bitstream.bytes = #[] ∧
        less + options.toCome bound files.length ≤ left + options.toCome bound written)
      stops (applyDueChange.run context) := by
  have undue : left + options.toCome bound files.length ≤ left + options.toCome bound written := by
    rw [last_file]
    exact Nat.add_le_add_left (options.toCome_succ_le bound written) left
  rw [applyDueChange, run_bind_ok (run_get _), underway.options_eq]
  cases due : options.resolutionChange with
  | none => exact .arrived ⟨left, underway, empty, undue⟩
  | some change =>
    dsimp only
    rw [underway.framesWritten]
    split
    · rename_i now
      obtain ⟨before_it, behind_it⟩ :=
        @EncodeOptions.toCome_of_due options bound written change due (now.trans last_file)
      rw [last_file, before_it, behind_it]
      -- Whichever file is read now, it has no more left than the two together had.
      have resized : ∀ {less : Nat} {context : EncodeContext CpuEncoder},
          Underway options before bound patience less files context →
          context.bitstream.bytes = #[] → less ≤ left + bound →
          Comes (fun _ last => ∃ less, Underway options before bound patience less files last ∧
              last.bitstream.bytes = #[] ∧ less + 0 ≤ left + bound)
            stops ((changeSize change.width change.height).run context) :=
        fun underway empty enough => (underway.resizes _ _ stops).imp fun _ _ there =>
          ⟨_, there.1, there.2 ▸ empty, enough⟩
      rw [applyChange]
      cases change.input with
      | none => exact resized underway empty (Nat.le_add_right _ _)
      | some path =>
        exact (underway.reopens path stops).bind fun _ _ there =>
          resized there.1 (there.2 ▸ empty) (Nat.le_add_left _ _)
    · exact .arrived ⟨left, underway, empty, undue⟩

/-- A result is written, what is due after it is applied, and the limit is looked at. -/
theorem concludes (underway : Underway options before bound patience left files context)
    (small : context.bitstream.bytes.size ≤ bound) {budget : Nat}
    (less : left + options.toCome bound files.length + 2 ≤ budget) :
    Comes (fun progress last => Onwards options before bound patience budget
        (LoopState.start.after options.sync false progress) last)
      (fun fault last => StopsFor options before last.store fault) (conclude.run context) := by
  refine (underway.writes small).bind fun _ last there => ?_
  obtain ⟨payload, underway, empty⟩ := there
  refine (underway.changes empty List.length_append _).bind fun _ last there => ?_
  obtain ⟨left', underway, empty, fewer⟩ := there
  rw [run_bind_ok (run_get _)]
  refine .arrived ?_
  by_cases limit : limitReached last = true
  · rw [if_pos limit]
    exact .stop underway.toCounts
  · rw [if_neg limit]
    exact .next underway empty (by omega)

/-- One round takes a frame off the file, or is the last one. -/
theorem round_comes (underway : Underway options before bound patience left files context)
    (empty : context.bitstream.bytes = #[]) (large : Jpeg.largestFile ≤ bound) :
    Comes (Onwards options before bound patience (left + options.toCome bound files.length))
      (fun fault last => StopsFor options before last.store fault)
      ((EncodeM.round .start).run context) := by
  have free := SurfacePool.findFree_of_two underway.free
  have some_bytes := underway.pool_sound.info.one_lt_rawFrameSize
  obtain ⟨how, data, source, read, size, taken⟩ := underway.reads
  cases how with
  | complete =>
    obtain ⟨enough, leaves⟩ := taken rfl
    obtain ⟨sync, submitted, next, waited⟩ := underway.collects empty large read size leaves _
    have completed : Comes (fun progress last => Onwards options before bound patience
          (left + options.toCome bound files.length)
          (LoopState.start.after options.sync false progress) last)
        (fun fault last => StopsFor options before last.store fault)
        ((complete sync).run submitted) := by
      rw [complete_eq]
      refine waited.bind fun found last there => ?_
      obtain ⟨underway, small, nothing⟩ := there
      cases found with
      | true => exact underway.concludes small (by omega)
      | false => exact .arrived (.next underway (nothing rfl) (by omega))
    rw [run_round_queued next]
    refine completed.bind fun progress last onwards => ?_
    cases progress <;> exact .arrived onwards
  | ended =>
    have next : (nextSubmission LoopState.start.draining).run context = _ :=
      run_nextSubmission_ended (run_readFrame free read) underway.serves
    rw [EncodeM.round, run_bind_ok next]
    exact .arrived (.stop { underway.toCounts with })
  | failed error =>
    have next : (nextSubmission LoopState.start.draining).run context
        = (.error (.error (.inputNotRead error)),
          { context with pool := context.pool.withData 0 data, source }) :=
      run_bind_error (run_readFrame free read)
    rw [EncodeM.round, run_bind_error next]
    exact .failed _ _

/-- A loop ends within half as many rounds as there are bytes to read. The induction is on the
rounds. -/
theorem loop_comes {rounds : Nat}
    (underway : Underway options before bound patience left files context)
    (empty : context.bitstream.bytes = #[]) (large : Jpeg.largestFile ≤ bound)
    (fuel : left + options.toCome bound files.length < 2 * rounds) :
    Comes (fun _ last => ∃ files, Counts options before files last)
      (fun fault last => StopsFor options before last.store fault)
      ((runRounds rounds .start).run context) := by
  induction rounds generalizing left files context with
  | zero => omega
  | succ rounds ih =>
    refine (underway.round_comes empty large).bind fun ending last onwards => ?_
    cases onwards with
    | next underway empty less => exact ih underway empty (by omega)
    | stop counts => exact .arrived ⟨_, counts⟩

end Underway

/-! ## Whole runs -/

/-- The parameters asked for are agreed on, or refused. -/
theorem comes_negotiate {reports : Bool} {schedule : List Occasion}
    (same : context.session = .ofEncoder CpuEncoder.encoder (.new reports schedule))
    (timely : (CpuEncoder.new reports schedule).Timely patience)
    (stops : Fault → EncodeContext CpuEncoder → Prop) :
    Comes (fun _ last => context.params.supported.defect? .cpu = none ∧
        ∃ (session : Session CpuEncoder) (log : Array Event),
          session.Serves context.params.supported.withWorstCase patience [] ∧
          last = { context with
            session, log
            params := context.params.supported.withWorstCase })
      stops (negotiate.run context) := by
  have encoder_eq := congrArg Session.encoder same
  cases fixed : context.params.fixedDefect? .cpu with
  | some defect =>
    have refused : (context.session.query context.params).reply = .fail defect.toError := by
      rw [(Session.reply_query _ _).1, encoder_eq]
      show (CpuEncoder.query _ _).reply = _
      rw [CpuEncoder.query, fixed]
      rfl
    rw [negotiate, run_bind_ok (run_get _)]
    exact .of_refused refused
  | none =>
    cases sound : context.params.supported.defect? .cpu with
    | none =>
      obtain ⟨session, log, serves, _, negotiated⟩ := run_negotiate same timely fixed sound
      rw [negotiated]
      exact .arrived ⟨rfl, session, log, serves, rfl⟩
    | some defect =>
      have refused : (context.session.init context.params.supported.withWorstCase).reply
          = .fail defect.toError := by
        rw [same]
        show (CpuEncoder.init _ (.new reports schedule)).reply = _
        rw [@CpuEncoder.init_of_defect _ (.new reports schedule) defect rfl
          ((EncodeParams.defect?_withWorstCase _ _).trans sound)]
        rfl
      obtain ⟨log, agreed⟩ := run_negotiate_eq encoder_eq fixed
      rw [agreed]
      exact .of_refused refused

/-- The set-up of a run on a file. -/
theorem comes_setUp {store : FileStore} {source : Source} {reports : Bool}
    {schedule : List Occasion} {log : Array Event} (covers : Clock.Covers options.sync.waitMs)
    (within : store.Within bound) (leaves : source.Leaves bound left) :
    Comes (fun _ ready =>
        Underway options store bound (schedule.length + 1) left [] ready ∧
          ready.bitstream.bytes = #[] ∧ ready.source = source ∧ ready.store = store)
      (fun fault last => StopsFor options store last.store fault)
      (setUp.run (.software options store source reports schedule log)) := by
  have timely := CpuEncoder.timely_new reports schedule
  let start := (EncodeContext.software options store source reports schedule log).report
    (.implementationInUse .cpu)
  have opened : openAccelerator.run start = (.ok (), start) := run_openAccelerator rfl
  have first : setUp.run (.software options store source reports schedule log) = (do
      negotiate
      let request ← allocatePool
      let bitstream ← ofFault (Bitstream.allocate (← get).options.bitstreamCapacity)
      modify fun context => { context with bitstream }
      let context ← get
      report (.buffersAllocated context.pool.size request.minimum context.bitstream.capacity) :
        EncodeM CpuEncoder Unit).run start := by
    rw [setUp, run_bind_ok (run_get _), run_bind_ok (run_report _ _)]
    exact run_bind_ok opened
  rw [first]
  refine (@comes_negotiate _ start _ _ rfl timely _).bind fun _ agreed there => ?_
  obtain ⟨sound, session, log', serves, rfl⟩ := there
  obtain ⟨request, allocated⟩ := @run_allocatePool { start with
    session
    params := start.params.supported.withWorstCase
    log := log' } serves.encoder_eq (EncodeParams.defect?_eq_none.1 sound).1 rfl
  rw [run_bind_ok allocated, run_bind_ok (run_get _)]
  by_cases capacity : options.bitstreamCapacity < Size.allocationBound
  · have sized : Bitstream.allocate options.bitstreamCapacity
        = .ok (.empty options.bitstreamCapacity) := bind_eq_ok.2 ⟨_, if_pos capacity, rfl⟩
    dsimp only
    rw [show start.options = options from rfl, sized, run_bind_ok (run_ofFault _ _),
      run_bind_ok (run_modify _ _), run_bind_ok (run_get _), run_report]
    refine .arrived ⟨?_, rfl, rfl, rfl⟩
    exact {
      options_eq := rfl
      encoder_eq := serves.encoder_eq
      framesWritten := rfl
      written := .start _ _
      serves
      sound
      depth := rfl
      pool_sound := SurfacePool.sound_allocate (EncodeParams.sound_frameInfo sound) 2
      pool_info := rfl
      free := rfl
      within
      leaves
      covers }
  · have unsized : Bitstream.allocate options.bitstreamCapacity = .error .allocation := by
      rw [Bitstream.allocate, Size.buffer, if_neg capacity]
      rfl
    dsimp only
    rw [show start.options = options from rfl, unsized, run_bind_error (run_ofFault _ _)]
    exact .stopped (.allocation (Nat.le_of_not_lt capacity))

/-- The last step closes the session and sums the run up. -/
theorem Counts.finish_comes (counts : Counts options before files context) (reason : StopReason)
    (stops : Fault → EncodeContext CpuEncoder → Prop) :
    Comes (fun summary last => ∃ files : List Bytes, files.length = summary.framesWritten ∧
        Written options before files last.store)
      stops ((finish reason).run context) := by
  let told := context.report (.encodingFinished context.framesWritten reason)
  have demanded : (demand .close Session.close).run told
      = (.ok (), told.book told.session.close) :=
    run_demand_ok (Session.reply_close counts.encoder_eq)
  rw [finish, run_bind_ok (run_get _), run_bind_ok (run_report _ _), run_bind_ok demanded,
    run_bind_ok (run_get _)]
  cases (told.book told.session.close).accelerator with
  | none => exact .arrived ⟨files, counts.framesWritten.symm, counts.written⟩
  | some accelerator => exact .arrived ⟨files, counts.framesWritten.symm, counts.written⟩

/-- A run on a file comes to a summary, which tells how many files it has written, or to an error.
It stops for lack of memory, or of bits to count its files, and for nothing else. -/
theorem wholeRun_comes {store : FileStore} {path : String} {source : Source}
    (covers : Clock.Covers options.sync.waitMs)
    (opened : Source.openFile store path = .ok source) (reports : Bool) (schedule : List Occasion)
    (log : Array Event) :
    Comes (fun summary last => ∃ files : List Bytes, files.length = summary.framesWritten ∧
        Written options store files last.store)
      (fun fault last => StopsFor options store last.store fault)
      (wholeRun.run (.software options store source reports schedule log)) := by
  have within : store.Within (max store.size Jpeg.largestFile) :=
    FileStore.within_of_size_le (Nat.le_max_left _ _)
  refine (comes_setUp covers within (.of_openFile opened)).bind fun _ ready there => ?_
  obtain ⟨underway, empty, source_eq, store_eq⟩ := there
  -- Two bytes a round are fewer than all that the input and that of a change can have.
  have fuel : max store.size Jpeg.largestFile
      + options.toCome (max store.size Jpeg.largestFile) ([] : List Bytes).length
        < 2 * roundLimit ready := by
    have more := options.toCome_le (max store.size Jpeg.largestFile) ([] : List Bytes).length
    rw [roundLimit, store_eq]
    rw [Jpeg.largestFile] at more ⊢
    omega
  have looped : Comes (fun _ last => ∃ files, Counts options store files last)
      (fun fault last => StopsFor options store last.store fault) (runLoop.run ready) := by
    rw [runLoop, run_bind_ok (run_get _)]
    exact underway.loop_comes empty (Nat.le_max_right _ _) fuel
  refine looped.bind fun reason last there => ?_
  obtain ⟨files, counts⟩ := there
  exact counts.finish_comes reason _

/-- Only the software encoder comes with the program. -/
theorem Session.create_eq_ok {choice : BackendChoice} {codec : Codec} {cpu : CpuEncoder}
    {session : Session CpuEncoder} {events : List Event}
    (created : Session.create choice codec cpu = .ok (session, events)) :
    session = .ofEncoder CpuEncoder.encoder cpu := by
  obtain ⟨implementation, _, created⟩ := bind_eq_ok.1 created
  split at created
  · cases created
    rfl
  · cases created

/-- Once the input is opened and the encoder chosen, all is up to the run. The session is dropped at
last, which leaves the files as they are. -/
theorem encodeFile_eq {store : FileStore} {source : Source} {reports : Bool}
    {schedule : List Occasion} {session : Session CpuEncoder} {events : List Event}
    {ran : Attempt EncodeError EncodeSummary × EncodeContext CpuEncoder}
    (opened : Source.openFile store options.input = .ok source)
    (created : Session.create options.backend .jpeg (.new reports schedule) = .ok (session, events))
    (run : wholeRun.run (.software options store source reports schedule events.toArray) = ran) :
    encodeFile options store (.new reports schedule)
      = ⟨ran.1, ran.2.store, ran.2.release.log⟩ := by
  obtain rfl := Session.create_eq_ok created
  rw [EncodeContext.software] at run
  rw [encodeFile, opened]
  dsimp only
  rw [created]
  dsimp only [EncodeContext.runToEnd, EncodeContext.carryOut]
  rw [run]
  rfl

/-- How the encoding of a file ends, for all contents of files and all options with waits whose end
the clock can tell: with a summary that tells the number of the files written, with an error, or
with one of two faults. -/
theorem encodeFile_comes {store : FileStore} {reports : Bool} {schedule : List Occasion}
    {run : RunResult} (covers : Clock.Covers options.sync.waitMs)
    (ran : encodeFile options store (.new reports schedule) = run) :
    (∃ summary files, run.outcome = .ok summary ∧ files.length = summary.framesWritten ∧
      Written options store files run.store) ∨
    (∃ error, run.outcome = .error (.error error)) ∨
    ∃ fault, run.outcome = .error (.fault fault) ∧ StopsFor options store run.store fault := by
  cases opened : Source.openFile store options.input with
  | error error =>
    rw [encodeFile, opened] at ran
    subst ran
    exact .inr (.inl ⟨_, rfl⟩)
  | ok source =>
    cases created : Session.create options.backend .jpeg (.new reports schedule) with
    | error error =>
      rw [encodeFile, opened] at ran
      dsimp only at ran
      rw [created] at ran
      subst ran
      exact .inr (.inl ⟨_, rfl⟩)
    | ok made =>
      have whole := @wholeRun_comes options _ _ _ covers opened reports schedule made.2.toArray
      rw [encodeFile_eq opened created rfl] at ran
      subst ran
      generalize wholeRun.run _ = ran at whole ⊢
      cases whole with
      | arrived there =>
        obtain ⟨files, count, written⟩ := there
        exact .inl ⟨_, files, rfl, count, written⟩
      | failed error last => exact .inr (.inl ⟨error, rfl⟩)
      | stopped known => exact .inr (.inr ⟨_, rfl, known⟩)

end Nv12Jpeg
