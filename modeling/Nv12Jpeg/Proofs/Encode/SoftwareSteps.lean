import Nv12Jpeg.Proofs.Encode.Reference
import Nv12Jpeg.Proofs.Encoder.Cpu

/-!
# Steps of a run on the software encoder

What the steps of a run do while nothing goes wrong, on a session of the software encoder whose
worker keeps up.

* `Session.Serves` — a session that is ready for frames and owes these results;
* `EncodeM.run_attemptSync` — waiting for the only result that is owed;
* `EncodeM.run_writeOutput` — writing a file that can be created;
* `EncodeM.run_changeSize`, `EncodeM.run_setUp` — a change of the picture size, and the set-up.
-/

namespace Nv12Jpeg

variable {params : EncodeParams} {attempts : Nat}

/-- Pictures of parameters without a defect have room in their surfaces. -/
theorem EncodeParams.sound_frameInfo (sound : params.defect? .cpu = none) :
    params.frameInfo.Sound := by
  obtain ⟨fixed, adjustable⟩ := defect?_eq_none.1 sound
  obtain ⟨_, ⟨width, height⟩, _⟩ := fixedDefect?_eq_none.1 fixed
  obtain ⟨_, ⟨covers_w, covers_h⟩, _⟩ := adjustableDefect?_eq_none.1 adjustable
  obtain ⟨aligned_w, covers_w⟩ := covers_iff.1 covers_w
  obtain ⟨aligned_h, covers_h⟩ := covers_iff.1 covers_h
  rw [← UInt16.toNat_inj.ne] at width height
  exact ⟨Nat.pos_of_ne_zero width, Nat.pos_of_ne_zero height, covers_w, covers_h,
    by omega, by omega⟩

/-! ## Sessions -/

/-- How many jobs the waits to come find finished. -/
def CpuEncoder.pace (cpu : CpuEncoder) : List Nat := cpu.schedule.map Occasion.finished

/-- The worker keeps up: of as many waits in a row as there are attempts, one at least finds a job
finished. -/
def CpuEncoder.Timely (cpu : CpuEncoder) (attempts : Nat) : Prop :=
  ¬ List.replicate attempts 0 <:+: cpu.pace

theorem CpuEncoder.pace_of_schedule {cpu next : CpuEncoder} (same : next.schedule = cpu.schedule) :
    next.pace = cpu.pace :=
  congrArg (List.map Occasion.finished) same

theorem CpuEncoder.pace_of_tail {cpu next : CpuEncoder}
    (later : next.schedule = cpu.schedule.tail) :
    next.pace = cpu.pace.tail :=
  (congrArg (List.map Occasion.finished) later).trans List.map_tail

/-- Jobs of which none is finished by the next wait are behind its pace. -/
theorem CpuEncoder.head?_pace {cpu : CpuEncoder} (waiting : cpu.pending ≠ [])
    (none_done : cpu.nextJobs = 0) : cpu.pace.head? = some 0 := by
  rw [nextJobs, nextOccasion] at none_done
  rw [pace, List.head?_map]
  cases found : cpu.schedule with
  | nil =>
    rw [found] at none_done
    exact absurd (List.eq_nil_of_length_eq_zero none_done) waiting
  | cons occasion later =>
    rw [found] at none_done
    exact congrArg some none_done

/-- A session on the software encoder, with these parameters in force, that owes these results. -/
structure Session.Serves (session : Session CpuEncoder) (params : EncodeParams) (attempts : Nat)
    (owed : List Owed) : Prop where
  encoder_eq : session.encoder = CpuEncoder.encoder
  owes : session.state.Owes owed
  params_eq : session.state.params = some params
  timely : session.state.Timely attempts

/-- A worker keeps up with more attempts than its schedule tells of: no schedule has more zeros in a
row than it is long. -/
theorem CpuEncoder.timely_new (reports : Bool) (schedule : List Occasion) :
    (new reports schedule).Timely (schedule.length + 1) := by
  intro waits
  have longer := waits.length_le
  rw [List.length_replicate, pace, List.length_map] at longer
  exact Nat.not_succ_le_self _ longer

theorem CpuEncoder.Timely.tail {cpu next : CpuEncoder} (h : cpu.Timely attempts)
    (later : next.schedule = cpu.schedule.tail) : next.Timely attempts := by
  intro waits
  rw [pace_of_tail later] at waits
  exact h (waits.trans (List.tail_suffix _).isInfix)

/-- A call that succeeds and changes nothing. -/
theorem Session.pass_ok {σ α : Type} {session : Session σ} {call : σ → Answer σ α} {value : α}
    (h : call session.state = .ok value session.state) : session.pass call = .ok value session := by
  rw [pass, h]
  rfl

/-- Such a call leaves nothing to book. -/
theorem EncodeContext.book_ok {σ α : Type} (context : EncodeContext σ) (value : α) :
    context.book (.ok value context.session) = context := by
  show { context with log := context.log ++ #[] } = context
  rw [Array.append_empty]

/-- The closest supported parameters are the answer to a query, if there are any. -/
theorem Session.query_eq {session : Session CpuEncoder}
    (same : session.encoder = CpuEncoder.encoder) (fixed : params.fixedDefect? .cpu = none) :
    ∃ (outcome : QueryOutcome) (events : List Event), session.query params
      = ⟨.ok (outcome, params.supported.withWorstCase), session, events, []⟩ := by
  have judged : session.pass (session.encoder.query params) = .ok params.adjust session := by
    refine Session.pass_ok ?_
    rw [same]
    show session.state.query params = _
    rw [CpuEncoder.query, fixed]
  rw [query, judged]
  cases supported : params.isSupported with
  | true =>
    refine ⟨.exact, [], ?_⟩
    rw [EncodeParams.adjust, supported]
    rfl
  | false =>
    refine ⟨.adjusted, [.paramsAdjusted params.supported.withWorstCase], ?_⟩
    rw [EncodeParams.adjust, supported]
    rfl

namespace Session.Serves

variable {session : Session CpuEncoder} {o : Owed} {job : EncodeJob}

/-- A frame of the right size is taken. -/
theorem submit (h : session.Serves params attempts []) {submission : Submission} {frame : Nv12Frame}
    (size : submission.surface.info.cropW = params.frameInfo.cropW ∧
      submission.surface.info.cropH = params.frameInfo.cropH)
    (copied : submission.surface.toFrame = .ok frame) :
    ∃ (sync : SyncPoint) (job : EncodeJob),
      (session.submit (some submission)).reply = .ok (.queued (some sync)) ∧
      (session.submit (some submission)).locks = [.acquired submission.id] ∧
      (session.submit (some submission)).state.Serves params attempts
        [⟨sync, submission.surface, params.quality⟩] ∧
      (session.submit (some submission)).state.state.pending = [job] ∧
      (session.submit (some submission)).state.state.pace = session.state.pace ∧
      job.guarded = submission.id := by
  obtain ⟨encoder, cpu, closed⟩ := session
  obtain ⟨rfl, owes, params_eq, timely⟩ := h
  -- Nothing is owed, so all credits are left, and there is one at least.
  have left : cpu.credits.acquire? ≠ none := by
    obtain ⟨idle, _⟩ | ⟨current, _, _, _, _, depth_eq, _⟩ := owes.phase
    · rw [idle] at params_eq
      cases params_eq
    · have positive : 0 < CpuEncoder.depthOf current := Nat.le_max_right _ _
      rw [Ne, Credits.acquire?_eq_none, owes.used_eq, depth_eq]
      exact Nat.ne_of_lt positive
  have queued := owes.queued params_eq left size copied
  obtain ⟨job, guarded, pending_eq⟩ := queued.pending_eq
  rw [owes.pending_eq_nil] at pending_eq
  refine ⟨⟨cpu.nextSync⟩, job, queued.reply_eq, queued.locks_eq, ⟨rfl, queued.owes, ?_, ?_⟩,
    pending_eq, CpuEncoder.pace_of_schedule queued.schedule_eq, guarded⟩
  · exact queued.params_eq.trans params_eq
  · intro waits
    exact timely (CpuEncoder.pace_of_schedule queued.schedule_eq ▸ waits)

/-- There is nothing to flush. -/
theorem submit_none {owed : List Owed} (h : session.Serves params attempts owed) :
    session.submit none = .ok .moreData session := by
  obtain ⟨encoder, cpu, closed⟩ := session
  obtain ⟨rfl, owes, params_eq, timely⟩ := h
  obtain ⟨idle, _⟩ | ⟨_, worker, _, worker_eq, _⟩ := owes.phase
  · rw [show cpu.params = none from idle] at params_eq
    cases params_eq
  · refine Session.pass_ok ?_
    show cpu.submit none = _
    rw [CpuEncoder.submit, show cpu.params = some params from params_eq,
      show cpu.worker = some worker from worker_eq]

/-- One attempt at collecting the only result that is owed: either the worker has not got to it,
or it is collected. -/
theorem sync (h : session.Serves params attempts [o]) (pending : session.state.pending = [job])
    {waitMs : Nat} (covers : Clock.Covers waitMs) (bitstream : Bitstream) :
    (session.state.pace.head? = some 0 ∧
      (session.sync o.sync waitMs bitstream).1.reply = .ok .inExecution ∧
      (session.sync o.sync waitMs bitstream).2 = bitstream ∧
      (session.sync o.sync waitMs bitstream).1.locks = [] ∧
      (session.sync o.sync waitMs bitstream).1.state.Serves params attempts [o] ∧
      (session.sync o.sync waitMs bitstream).1.state.state.pending = [job] ∧
      (session.sync o.sync waitMs bitstream).1.state.state.pace = session.state.pace.tail) ∨
    ∃ file, o.file? = .ok file ∧
      session.state.pace.head? ≠ some 0 ∧
      (session.sync o.sync waitMs bitstream).1.locks = [.released job.guarded] ∧
      (session.sync o.sync waitMs bitstream).1.state.Serves params attempts [] ∧
      ((session.sync o.sync waitMs bitstream).1.reply, (session.sync o.sync waitMs bitstream).2) =
        match bitstream.append file with
        | .ok next => (.ok .done, next)
        | .error error => (.fail error, bitstream) := by
  obtain ⟨encoder, cpu, closed⟩ := session
  obtain ⟨rfl, owes, params_eq, timely⟩ := h
  have pending : cpu.pending = [job] := pending
  obtain ⟨file, file_ok, ⟨uncovered, _⟩ | ⟨attempted, waiting, reply, unchanged⟩ |
    ⟨attempted, outcome⟩⟩ := owes.sync_cases List.mem_cons_self waitMs bitstream
  · exact absurd covers uncovered
  · -- The result is not there: the job was not begun, and no guard is dropped.
    have none_done : cpu.nextJobs = 0 := by
      rw [attempted.pending_eq, pending] at waiting
      rcases Nat.eq_zero_or_pos cpu.nextJobs with zero | positive
      · exact zero
      · rw [List.drop_eq_nil_of_le (Nat.succ_le_of_lt positive)] at waiting
        exact absurd rfl waiting
    have left := attempted.pending_eq
    have locks := attempted.locks_eq
    rw [none_done, pending] at left locks
    exact .inl ⟨CpuEncoder.head?_pace (pending ▸ List.cons_ne_nil _ _) none_done, reply, unchanged,
      locks, ⟨rfl, attempted.owes, attempted.params_eq.trans params_eq,
        timely.tail attempted.schedule_eq⟩,
      left, CpuEncoder.pace_of_tail attempted.schedule_eq⟩
  · -- The result is collected, so the only job was done.
    have nothing_owed : [o].filter (fun o' => o'.sync ≠ o.sync) = [] := by simp
    rw [nothing_owed] at attempted
    have left := attempted.pending_eq
    have locks := attempted.locks_eq
    rw [attempted.owes.pending_eq_nil, pending] at left
    have done := List.drop_eq_nil_iff.1 left.symm
    rw [pending, List.take_of_length_le done] at locks
    have ready : cpu.pace.head? ≠ some 0 := by
      rw [CpuEncoder.pace, List.head?_map]
      intro behind
      obtain ⟨occasion, first, none_done⟩ := Option.map_eq_some_iff.1 behind
      rw [CpuEncoder.nextJobs, CpuEncoder.nextOccasion, List.headD_eq_head?_getD, first,
        Option.getD_some, none_done] at done
      exact absurd done (Nat.not_succ_le_zero _)
    exact .inr ⟨file, file_ok, ready, locks,
      ⟨rfl, attempted.owes, attempted.params_eq.trans params_eq,
        timely.tail attempted.schedule_eq⟩, outcome⟩

/-- Parameters without a defect take the place of others of the same depth. -/
theorem resetResolution (h : session.Serves params attempts []) {next : EncodeParams}
    (sound : next.defect? .cpu = none)
    (depth : CpuEncoder.depthOf next = CpuEncoder.depthOf params) :
    (session.resetResolution next).reply = .ok true ∧
      (session.resetResolution next).locks = [] ∧
      (session.resetResolution next).state.Serves next.withWorstCase attempts [] := by
  obtain ⟨encoder, cpu, closed⟩ := session
  obtain ⟨rfl, owes, params_eq, timely⟩ := h
  have changed : cpu.reset next = (Answer.ok () { cpu with
      params := some next.withWorstCase }).report (.encoderReset next.withWorstCase) := by
    rw [CpuEncoder.reset, show cpu.params = some params from params_eq]
    dsimp only
    rw [sound]
    dsimp only
    rw [if_neg (not_not_intro depth)]
  have asked : Session.currentParams ⟨CpuEncoder.encoder, cpu, closed⟩
      = .ok params ⟨CpuEncoder.encoder, cpu, closed⟩ := by
    refine Session.pass_ok ?_
    show cpu.currentParams = _
    rw [CpuEncoder.currentParams, show cpu.params = some params from params_eq]
  have replaced : Session.reset next ⟨CpuEncoder.encoder, cpu, closed⟩
      = (Answer.ok () ⟨CpuEncoder.encoder, { cpu with params := some next.withWorstCase },
        closed⟩).report (.encoderReset next.withWorstCase) :=
    congrArg (Answer.mapState fun state => Session.mk CpuEncoder.encoder state closed) changed
  have owes' := owes.reset next
  rw [changed] at owes'
  rw [Session.resetResolution, asked]
  dsimp only [Answer.ok, Answer.quiet, Answer.report]
  rw [replaced]
  exact ⟨rfl, rfl, rfl, owes', rfl, timely⟩

/-- An encoder that was not initialized gets ready. -/
theorem init {reports : Bool} {schedule : List Occasion}
    (timely : (CpuEncoder.new reports schedule).Timely attempts)
    (sound : params.defect? .cpu = none) :
    (Session.init params (.ofEncoder CpuEncoder.encoder (.new reports schedule))).reply = .ok () ∧
      (Session.init params (.ofEncoder CpuEncoder.encoder (.new reports schedule))).locks = [] ∧
      (Session.init params (.ofEncoder CpuEncoder.encoder (.new reports schedule))).state.Serves
        params.withWorstCase attempts [] ∧
      (Session.init params (.ofEncoder CpuEncoder.encoder (.new reports
        schedule))).state.state.schedule = schedule := by
  have owes := (CpuEncoder.owes_new reports schedule).init params
  have ready := @CpuEncoder.init_of_sound params (.new reports schedule) rfl sound
  have passed : Session.init params (.ofEncoder CpuEncoder.encoder (.new reports schedule))
      = (CpuEncoder.init params (.new reports schedule)).mapState fun state =>
        Session.mk CpuEncoder.encoder state false := rfl
  rw [passed]
  rw [ready] at owes ⊢
  exact ⟨rfl, rfl, ⟨rfl, owes, rfl, timely⟩, rfl⟩

end Session.Serves

/-! ## Results -/

namespace EncodeM

theorem run_submit_none {context : EncodeContext CpuEncoder} {owed : List Owed}
    (serves : context.session.Serves params attempts owed) :
    (call (Session.submit none)).run context = (.ok (.ok .moreData), context) := by
  rw [run_call, serves.submit_none, EncodeContext.book_ok]
  rfl

/-- Behind the last frame nothing is left to flush, since every result was collected in its own
round. -/
theorem run_nextSubmission_ended {context ended : EncodeContext CpuEncoder}
    (read : readFrame.run context = (.ok none, ended))
    (serves : ended.session.Serves params attempts []) :
    (nextSubmission false).run context = (.ok (.ok .moreData, true), ended.report .inputEnded) := by
  have flushed := @run_submit_none _ _ (ended.report .inputEnded) _ serves
  rw [nextSubmission, if_neg Bool.false_ne_true, run_bind_ok read]
  dsimp only
  rw [run_bind_ok (run_report _ _), run_bind_ok flushed]
  rfl

/-- A frame of the right size that is there is submitted in the first surface. -/
theorem run_nextSubmission {context : EncodeContext CpuEncoder} {written : Location → Prop}
    {rest : Bytes} (serves : context.session.Serves params attempts [])
    (free : context.pool.findFree = some 0) (sound : context.pool.Sound)
    (size : context.pool.info.cropW = params.frameInfo.cropW ∧
      context.pool.info.cropH = params.frameInfo.cropH)
    (feeds : context.source.Feeds context.store written rest none)
    (enough : context.pool.info.rawFrameSize ≤ rest.size) :
    ∃ (sync : SyncPoint) (job : EncodeJob) (data : Bytes) (source : Source)
      (session : Session CpuEncoder) (pool : SurfacePool) (log : Array Event),
      (nextSubmission false).run context = (.ok (.ok (.queued (some sync)), false), { context with
        session, source, pool, log }) ∧
      Surface.toFrame ⟨context.pool.info, data⟩ = .ok (context.pool.info.frame rest 0) ∧
      session.Serves params attempts [⟨sync, ⟨context.pool.info, data⟩, params.quality⟩] ∧
      session.state.pending = [job] ∧
      session.state.pace = context.session.state.pace ∧
      source.Feeds context.store written
        (rest.extract context.pool.info.rawFrameSize rest.size) none ∧
      (LockChange.released job.guarded).apply context.poolNumber pool
        = context.pool.withData 0 data := by
  obtain ⟨data, source, read, feeds, _, shows⟩ := run_readFrame_complete free feeds sound enough
  let submission : Submission := ⟨⟨context.poolNumber, 0⟩, ⟨context.pool.info, data⟩⟩
  obtain ⟨sync, job, reply, locks, serves, pending, pace, guarded⟩ :=
    @Session.Serves.submit _ _ _ serves submission _ size shows
  have called := @run_call_ok _ _ (Session.submit (some submission))
    { context with pool := context.pool.withData 0 data, source } _ reply
  refine ⟨sync, job, data, source, (context.session.submit (some submission)).state,
    (context.session.submit (some submission)).locks.foldl
      (LockChange.apply context.poolNumber) (context.pool.withData 0 data),
    context.log ++ (context.session.submit (some submission)).events.toArray, ?_, shows, serves,
    pending, pace, feeds, ?_⟩
  · rw [nextSubmission, if_neg Bool.false_ne_true, run_bind_ok read]
    dsimp only
    rw [run_bind_ok called]
    rfl
  · rw [locks, guarded]
    exact LockChange.apply_released_acquired _

section Collect

variable {context : EncodeContext CpuEncoder} {o : Owed} {job : EncodeJob} {file : Bytes}

/-- Waiting for the only result that is owed. The induction is on the attempts: each one that finds
nothing takes a zero off the pace, and there are fewer zeros in a row than attempts. -/
theorem run_attemptSync {left attempt capacity : Nat} {pool : SurfacePool}
    (covers : Clock.Covers context.options.sync.waitMs)
    (serves : context.session.Serves params attempts [o])
    (pending : context.session.state.pending = [job]) (file_ok : o.file? = .ok file)
    (empty : context.bitstream.bytes = #[]) (room : context.bitstream.capacity = capacity)
    (dropped : (LockChange.released job.guarded).apply context.poolNumber context.pool = pool)
    (soon : ¬ List.replicate left 0 <+: context.session.state.pace) :
    ∃ (session : Session CpuEncoder) (bitstream : Bitstream) (log : Array Event),
      session.Serves params attempts [] ∧
      bitstream.capacity = capacity ∧
      bitstream.bytes = (if file.size ≤ capacity then file else #[]) ∧
      (attemptSync o.sync left attempt).run context
        = (.ok (decide (file.size ≤ capacity)),
            { context with session, bitstream, pool, log }) := by
  induction left generalizing context attempt with
  | zero => exact absurd (List.nil_prefix) soon
  | succ left ih =>
    have one := serves.sync pending covers context.bitstream
    rw [attemptSync, run_bind, run_syncOnce, afterSync]
    generalize context.session.sync o.sync context.options.sync.waitMs context.bitstream = result
      at one ⊢
    obtain ⟨⟨reply, session, events, locks⟩, bitstream⟩ := result
    rcases one with ⟨behind, reply_eq, unchanged, locks_eq, serves', pending', pace_eq⟩ |
      ⟨file', file_ok', _, locks_eq, serves', outcome⟩
    · -- the worker has not got to the job: one zero and one attempt less
      cases reply_eq
      cases unchanged
      cases locks_eq
      refine @ih { context with
        session, log := (context.log ++ events.toArray).push (.stillExecuting o.sync attempt) }
        (attempt + 1) covers serves' pending' empty room dropped ?_
      show ¬ List.replicate left 0 <+: session.state.pace
      rw [show session.state.pace = context.session.state.pace.tail from pace_eq]
      obtain ⟨later, split⟩ := List.head?_eq_some_iff.1 behind
      rw [split, List.replicate_succ, List.cons_prefix_cons] at soon
      rw [split]
      exact fun waits => soon ⟨rfl, waits⟩
    · -- the result is there, and the buffer was empty before
      cases locks_eq
      subst dropped
      obtain rfl : file' = file := Except.ok.inj (file_ok'.symm.trans file_ok)
      have none_before : context.bitstream.available = capacity :=
        (Bitstream.available_of_bytes_eq_empty empty).trans room
      rcases context.bitstream.append_cases file' with
        ⟨fits, next, appended, bytes_eq, capacity_eq⟩ | ⟨large, refused⟩
      · rw [none_before] at fits
        rw [appended] at outcome
        cases outcome
        rw [empty, Array.empty_append] at bytes_eq
        rw [if_pos fits, decide_eq_true fits]
        exact ⟨session, bitstream, context.log ++ events.toArray, serves',
          capacity_eq.trans room, bytes_eq, rfl⟩
      · rw [none_before] at large
        rw [refused] at outcome
        cases outcome
        rw [if_neg (Nat.not_le_of_lt large), decide_eq_false (Nat.not_le_of_lt large)]
        exact ⟨session, context.bitstream.clear, _, serves', room, Bitstream.bytes_clear _, rfl⟩

/-- Where all attempts come too early, waiting ends in a timeout. -/
theorem run_attemptSync_late {left attempt : Nat}
    (covers : Clock.Covers context.options.sync.waitMs)
    (serves : context.session.Serves params attempts [o])
    (pending : context.session.state.pending = [job])
    (late : List.replicate left 0 <+: context.session.state.pace) :
    ((attemptSync o.sync left attempt).run context).1
      = .error (.error (.syncTimeout o.sync (attempt + left - 1))) := by
  induction left generalizing context attempt with
  | zero => rfl
  | succ left ih =>
    have one := serves.sync pending covers context.bitstream
    obtain ⟨later, pace_eq⟩ := late
    rw [List.replicate_succ, List.cons_append] at pace_eq
    rw [attemptSync, run_bind, run_syncOnce, afterSync]
    generalize context.session.sync o.sync context.options.sync.waitMs context.bitstream = result
      at one ⊢
    obtain ⟨⟨reply, session, events, locks⟩, bitstream⟩ := result
    rcases one with ⟨_, reply_eq, unchanged, locks_eq, serves, pending, tail_eq⟩ | ⟨_, _, ready, _⟩
    · cases reply_eq
      cases unchanged
      cases locks_eq
      rw [← pace_eq] at tail_eq
      have timeout := @ih { context with
        session, log := (context.log ++ events.toArray).push (.stillExecuting o.sync attempt) }
        (attempt + 1) covers serves pending ⟨later, tail_eq.symm⟩
      rw [Nat.add_right_comm] at timeout
      exact timeout
    · -- the pace begins with a zero
      rw [← pace_eq] at ready
      exact absurd rfl ready

end Collect

/-- What takes the bytes of a file is bounded by the room in the store. -/
theorem room_of_outputSink {store : FileStore} {limit : Nat} {error : IoError}
    (limited : (outputSink store).room = some (limit, error)) : store.room = some limit := by
  rw [outputSink] at limited
  cases room : store.room <;> rw [room] at limited <;> cases limited
  rfl

/-- Writing the waiting bytes to a file that can be created, on a device with room for them and for
as many bytes more. -/
theorem run_writeOutput {σ : Type} {context : EncodeContext σ} {more : Nat}
    (counted : context.framesWritten + 1 < 0x100000000)
    (creatable : context.store.Creatable
      (outputPath context.options (context.framesWritten + 1)))
    (room : context.store.HasRoom (context.bitstream.bytes.size + more)) :
    ∃ (location : Location) (store : FileStore) (log : Array Event),
      context.store.resolve (outputPath context.options (context.framesWritten + 1))
        = .ok location ∧
      store.find? location = some (.file context.bitstream.bytes) ∧
      FileStore.ChangedAt (· = location) store context.store ∧ store.HasRoom more ∧
      writeOutput.run context = (.ok (), { context with
        store, log
        bitstream := context.bitstream.clear
        framesWritten := context.framesWritten + 1
        outputs :=
          context.outputs ++ [outputPath context.options (context.framesWritten + 1)] }) := by
  obtain ⟨fault, uncounted, _⟩ | ⟨error, refused, _⟩ |
      ⟨location, store, sink, bitstream, created, outcome⟩ := writeOutput_cases context
  · rw [nextFrame_eq_ok.2 ⟨counted, rfl⟩] at uncounted
    cases uncounted
  · obtain ⟨file, created⟩ := creatable
    rw [refused] at created
    cases created
  -- The sink has room for all bytes, so writing does not fail either.
  have room := room.create created
  obtain ⟨error, failed, _⟩ | ⟨bytes, wrote, succeeded⟩ := outcome
  · obtain ⟨limit, limited, less⟩ := Bitstream.writeTo_error failed
    have enough := Nat.le_of_add_right_le (room limit (room_of_outputSink limited))
    rw [received_outputSink] at less
    exact absurd less (Nat.not_lt_of_le enough)
  obtain ⟨received, rfl⟩ := Bitstream.writeTo_ok wrote
  rw [received_outputSink, Array.empty_append] at received
  obtain ⟨resolved, found, changed⟩ := FileStore.create_ok created sink.received
  rw [received] at found changed succeeded
  exact ⟨location, _, _, resolved, found, changed, received ▸ room.fill location, succeeded⟩

/-! ## Parameters -/

section Params

variable {context : EncodeContext CpuEncoder}

/-- Going on with another input. -/
theorem run_changeInput {σ : Type} {context : EncodeContext σ} {path : String} {location : Location}
    (opened : context.store.openRead path = .ok location) :
    (changeInput path).run context
      = (.ok (), { context with source := .file (.ofLocation location) }) := by
  have source : Source.openFile context.store path = .ok (.file (.ofLocation location)) :=
    bind_eq_ok.2 ⟨location, opened, rfl⟩
  rw [changeInput, run_bind_ok (run_get _), source]
  rfl

/-- Two surfaces are asked for where one submission is under way at a time. -/
theorem run_allocatePool (same : context.session.encoder = CpuEncoder.encoder)
    (sound : context.params.fixedDefect? .cpu = none) (depth : context.params.asyncDepth = 1) :
    ∃ request : SurfaceRequest, allocatePool.run context = (.ok request, { context with
      pool := .allocate context.params.frameInfo 2
      poolNumber := context.poolNumber + 1 }) := by
  have asked : context.session.surfaceRequest context.params
      = .ok ⟨1, 2, context.params.frameInfo⟩ context.session := by
    refine Session.pass_ok ?_
    rw [same]
    show context.session.state.surfaceRequest context.params = _
    rw [CpuEncoder.surfaceRequest, sound, CpuEncoder.depthOf, depth]
    rfl
  refine ⟨⟨1, 2, context.params.frameInfo⟩, ?_⟩
  have answered : (context.session.surfaceRequest context.params).reply
      = .ok ⟨1, 2, context.params.frameInfo⟩ := by
    rw [asked]
    rfl
  rw [allocatePool, run_bind_ok (run_get context), run_bind_ok (run_demand_ok answered), asked,
    EncodeContext.book_ok, run_bind_ok (run_modify _ _)]
  rfl

/-- Going on with another picture size that has no defect. -/
theorem run_changeSize {width height : UInt16} (serves : context.session.Serves params attempts [])
    (depth : params.asyncDepth = 1) (depth' : context.params.asyncDepth = 1)
    (sound : (context.params.withResolution width height).defect? .cpu = none) :
    ∃ (session : Session CpuEncoder) (log : Array Event),
      session.Serves (context.params.withResolution width height).withWorstCase attempts [] ∧
      (changeSize width height).run context = (.ok (), { context with
        session, log
        params := context.params.withResolution width height
        pool := .allocate (context.params.frameInfo.withCrop width height) 2
        poolNumber := context.poolNumber + 1
        resets := context.resets + 1 }) := by
  obtain ⟨replied, locks, serves'⟩ := serves.resetResolution sound (by
    rw [CpuEncoder.depthOf, CpuEncoder.depthOf, depth]
    exact congrArg (max ·.toNat 1) depth')
  obtain ⟨fixed, _⟩ := EncodeParams.defect?_eq_none.1 sound
  have called := @run_call_ok _ _ _ { context with
    params := context.params.withResolution width height } _ replied
  rw [book_unlocked locks] at called
  obtain ⟨request, allocated⟩ := @run_allocatePool { context with
    session := (context.session.resetResolution (context.params.withResolution width height)).state
    params := context.params.withResolution width height
    log := context.log ++ (context.session.resetResolution
      (context.params.withResolution width height)).events.toArray } serves'.encoder_eq fixed depth'
  refine ⟨_, (context.log ++ (context.session.resetResolution
    (context.params.withResolution width height)).events.toArray).push (.surfacesReallocated
      (context.params.frameInfo.withCrop width height)
      (SurfacePool.allocate (context.params.frameInfo.withCrop width height) 2).size), serves', ?_⟩
  rw [changeSize, run_bind_ok (run_modify _ _), run_bind_ok (run_get _), run_bind_ok called]
  dsimp only
  rw [run_bind_ok allocated, run_bind_ok (run_modify _ _), run_bind_ok (run_get _), run_report]
  rfl

/-- The parameters that a negotiation asks the encoder to start with. Whether they were adjusted
shows in the log only. -/
theorem run_negotiate_eq (same : context.session.encoder = CpuEncoder.encoder)
    (fixed : context.params.fixedDefect? .cpu = none) :
    ∃ log : Array Event, negotiate.run context =
      (demand .init (Session.init context.params.supported.withWorstCase) >>= fun _ =>
        report .initializationTimed).run { context with
          params := context.params.supported.withWorstCase
          log } := by
  obtain ⟨outcome, events, asked⟩ := Session.query_eq same fixed
  have queried := @run_demand_ok _ _ .query (Session.query context.params) context
    (outcome, context.params.supported.withWorstCase) (by rw [asked])
  rw [book_unlocked (by rw [asked]), asked] at queried
  rw [negotiate, run_bind_ok (run_get _), run_bind_ok queried]
  dsimp only
  rw [run_bind_ok (run_modify _ _)]
  cases outcome with
  | exact => exact ⟨_, rfl⟩
  | adjusted => exact ⟨_, rfl⟩

/-- Parameters that can be supported are agreed on. -/
theorem run_negotiate {reports : Bool} {schedule : List Occasion}
    (same : context.session = .ofEncoder CpuEncoder.encoder (.new reports schedule))
    (timely : (CpuEncoder.new reports schedule).Timely attempts)
    (fixed : context.params.fixedDefect? .cpu = none)
    (sound : context.params.supported.defect? .cpu = none) :
    ∃ (session : Session CpuEncoder) (log : Array Event),
      session.Serves context.params.supported.withWorstCase attempts [] ∧
      session.state.schedule = schedule ∧
      negotiate.run context = (.ok (), { context with
        session, log
        params := context.params.supported.withWorstCase }) := by
  obtain ⟨log, agreed⟩ := run_negotiate_eq (congrArg Session.encoder same) fixed
  obtain ⟨replied, locks, serves, unchanged⟩ :=
    @Session.Serves.init context.params.supported.withWorstCase _ _ _ timely sound
  rw [← same] at replied locks serves unchanged
  have demanded := @run_demand_ok _ _ .init _ { context with
    params := context.params.supported.withWorstCase
    log } _ replied
  rw [book_unlocked locks] at demanded
  refine ⟨_, (log ++ (context.session.init
    context.params.supported.withWorstCase).events.toArray).push .initializationTimed, serves,
    unchanged, ?_⟩
  rw [agreed, run_bind_ok demanded, run_report]
  rfl

/-- The software encoder needs no device. -/
theorem run_openAccelerator (same : context.session.encoder = CpuEncoder.encoder) :
    openAccelerator.run context = (.ok (), context) := by
  have unaccelerated : context.session.implementation.acceleration = .none := by
    rw [Session.implementation, same]
    rfl
  rw [openAccelerator, run_bind_ok (run_get _), unaccelerated]
  rfl

/-- The set-up for parameters that can be supported. -/
theorem run_setUp {reports : Bool} {schedule : List Occasion}
    (same : context.session = .ofEncoder CpuEncoder.encoder (.new reports schedule))
    (timely : (CpuEncoder.new reports schedule).Timely attempts)
    (fixed : context.params.fixedDefect? .cpu = none)
    (sound : context.params.supported.defect? .cpu = none)
    (depth : context.params.asyncDepth = 1)
    (capacity : context.options.bitstreamCapacity < Size.allocationBound) :
    ∃ (session : Session CpuEncoder) (log : Array Event),
      session.Serves context.params.supported.withWorstCase attempts [] ∧
      session.state.schedule = schedule ∧
      setUp.run context = (.ok (), { context with
        session, log
        params := context.params.supported.withWorstCase
        pool := .allocate context.params.supported.frameInfo 2
        poolNumber := context.poolNumber + 1
        bitstream := .empty context.options.bitstreamCapacity }) := by
  have opened := @run_openAccelerator (context.report
    (.implementationInUse context.session.implementation)) (congrArg Session.encoder same)
  obtain ⟨session, log, serves, unchanged, negotiated⟩ := @run_negotiate _ (context.report
    (.implementationInUse context.session.implementation)) _ _ same timely fixed sound
  obtain ⟨request, allocated⟩ := @run_allocatePool { context with
    session, log
    params := context.params.supported.withWorstCase } serves.encoder_eq
    (EncodeParams.defect?_eq_none.1 sound).1 depth
  have sized : Bitstream.allocate context.options.bitstreamCapacity
      = .ok (.empty context.options.bitstreamCapacity) :=
    bind_eq_ok.2 ⟨_, if_pos capacity, rfl⟩
  refine ⟨session, log.push (.buffersAllocated (SurfacePool.allocate
    context.params.supported.frameInfo 2).size request.minimum context.options.bitstreamCapacity),
    serves, unchanged, ?_⟩
  have negotiated : negotiate.run (context.report
      (.implementationInUse context.session.implementation)) = (.ok (), { context with
        session, log
        params := context.params.supported.withWorstCase }) := negotiated
  rw [setUp, run_bind_ok (run_get _), run_bind_ok (run_report _ _), run_bind_ok opened,
    run_bind_ok negotiated, run_bind_ok allocated, run_bind_ok (run_get _)]
  dsimp only
  rw [sized, run_bind_ok (run_ofFault _ _), run_bind_ok (run_modify _ _),
    run_bind_ok (run_get _), run_report]
  rfl

end Params

end EncodeM

end Nv12Jpeg
