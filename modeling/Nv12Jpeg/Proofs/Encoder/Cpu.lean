import Nv12Jpeg.Encoder.Cpu
import Nv12Jpeg.Proofs.Encoder.ParamsCheck
import Nv12Jpeg.Proofs.Encoder.Worker

/-!
# What the software encoder owes

The submissions that the encoder counts as outstanding are those whose files its worker owes, and
each of them uses one credit. Every call keeps it that way:

* `CpuEncoder.Owes` — an encoder that owes the results of these submissions and no others;
* `CpuEncoder.Owes.submit_cases` — a submission that is queued is owed from then on, one that is
  refused changes nothing, and one whose surface cannot be copied costs a credit;
* `CpuEncoder.Owes.sync_cases` — a result that is collected is the file that is owed, and is not
  owed any more; a wait that does not begin changes nothing;
* `CpuEncoder.Owes.sync_unknown` — a result that is not owed cannot be collected.
-/

namespace Nv12Jpeg

namespace CpuEncoder

/-- The worker does what the parameters and credits say, or there is none and nothing is owed. -/
inductive Phase (cpu : CpuEncoder) (owed : List Owed) : Prop
  | idle (params_eq : cpu.params = none) (worker_eq : cpu.worker = none) (owed_eq : owed = [])
  | active (params : EncodeParams) (worker : Worker) (params_eq : cpu.params = some params)
      (worker_eq : cpu.worker = some worker) (sound : params.defect? .cpu = none)
      (depth_eq : cpu.credits.capacity = depthOf params)
      (serves : worker.Serves owed cpu.credits.capacity)

/-- An encoder that owes the results of these submissions and no others. -/
structure Owes (cpu : CpuEncoder) (owed : List Owed) : Prop where
  outstanding_eq : cpu.outstanding = owed.map Owed.sync
  nodup : (owed.map Owed.sync).Nodup
  issued : ∀ o ∈ owed, o.sync.number < cpu.nextSync
  used_eq : cpu.credits.used = owed.length
  phase : cpu.Phase owed

/-- The jobs that wait. -/
def pending (cpu : CpuEncoder) : List EncodeJob :=
  match cpu.worker with
  | some worker => worker.pending
  | none => []

/-- The answer to a submission that is queued: it is owed from then on, and its surface guarded. -/
structure Queued (cpu : CpuEncoder) (owed : List Owed) (params : EncodeParams)
    (submission : Submission) (answer : Answer CpuEncoder SubmitStatus) : Prop where
  reply_eq : answer.reply = .ok (.queued (some ⟨cpu.nextSync⟩))
  locks_eq : answer.locks = [.acquired submission.id]
  owes : answer.state.Owes (⟨⟨cpu.nextSync⟩, submission.surface, params.quality⟩ :: owed)
  params_eq : answer.state.params = cpu.params
  nextSync_eq : answer.state.nextSync = cpu.nextSync + 1
  schedule_eq : answer.state.schedule = cpu.schedule
  pending_eq : ∃ job : EncodeJob, job.guarded = submission.id ∧
    answer.state.pending = cpu.pending ++ [job]

/-- What the next wait finds. -/
def nextOccasion (cpu : CpuEncoder) : Occasion := cpu.schedule.headD ⟨cpu.pending.length, 0⟩

/-- How many jobs are finished by the next wait. -/
def nextJobs (cpu : CpuEncoder) : Nat := cpu.nextOccasion.finished

section Waiting

variable {cpu : CpuEncoder} {worker : Worker} {sync : SyncPoint} {waitMs : Nat}
  {bitstream : Bitstream} {next : CompletionQueue SyncPoint JobResult}

theorem pending_eq_of_worker (worker_eq : cpu.worker = some worker) :
    cpu.pending = worker.pending := by
  rw [pending, worker_eq]

theorem nextWait_eq (worker_eq : cpu.worker = some worker) :
    cpu.nextWait worker = (cpu.nextOccasion, cpu.schedule.tail) := by
  rw [nextWait, nextOccasion, pending_eq_of_worker worker_eq]
  cases cpu.schedule <;> rfl

/-- The answer where the result is there after the next jobs are finished. -/
theorem sync_of_received {file : Bytes} (worker_eq : cpu.worker = some worker)
    (outstanding : sync ∈ cpu.outstanding)
    (waited : (worker.advance cpu.nextJobs).1.results.wait sync cpu.nextOccasion.present waitMs
      = .ok (.received (.ok file), next)) :
    cpu.sync sync waitMs bitstream =
      ({ reply := match bitstream.append file with
          | .ok _ => .ok .done
          | .error error => .fail error
         state := { cpu with
          worker := some { (worker.advance cpu.nextJobs).1 with results := next }
          schedule := cpu.schedule.tail
          credits := cpu.credits.release
          outstanding := cpu.outstanding.filter (fun sync' => sync' ≠ sync) }
         events := if cpu.reportsResults then
            [.resultCollected sync next.depth next.peak next.parkedCount]
          else []
         locks := (worker.advance cpu.nextJobs).2 },
        match bitstream.append file with
          | .ok next => next
          | .error _ => bitstream) := by
  rw [CpuEncoder.sync, if_neg (not_not_intro outstanding), worker_eq]
  rw [← List.append_nil (worker.advance cpu.nextJobs).2]
  rw [nextJobs] at waited ⊢
  simp only [nextWait_eq worker_eq, waited, collect, Except.bind]
  cases bitstream.append file <;> rfl

/-- The answer where the job of the result still waits. -/
theorem sync_of_missing (worker_eq : cpu.worker = some worker)
    (outstanding : sync ∈ cpu.outstanding)
    (waited : (worker.advance cpu.nextJobs).1.results.wait sync cpu.nextOccasion.present waitMs
      = .ok (.missing, next)) :
    cpu.sync sync waitMs bitstream =
      ({ reply := .ok .inExecution
         state := { cpu with
          worker := some { (worker.advance cpu.nextJobs).1 with results := next }
          schedule := cpu.schedule.tail }
         events := []
         locks := (worker.advance cpu.nextJobs).2 }, bitstream) := by
  rw [CpuEncoder.sync, if_neg (not_not_intro outstanding), worker_eq]
  rw [← List.append_nil (worker.advance cpu.nextJobs).2]
  rw [nextJobs] at waited ⊢
  simp only [nextWait_eq worker_eq, waited]
  rfl

/-- The answer where the wait does not begin. -/
theorem sync_of_stopped {fault : Fault} (worker_eq : cpu.worker = some worker)
    (outstanding : sync ∈ cpu.outstanding)
    (stopped : (worker.advance cpu.nextJobs).1.results.wait sync cpu.nextOccasion.present waitMs
      = .error fault) :
    cpu.sync sync waitMs bitstream = (.quiet (.error (.fault fault)) cpu, bitstream) := by
  rw [CpuEncoder.sync, if_neg (not_not_intro outstanding), worker_eq]
  rw [nextJobs] at stopped
  simp only [nextWait_eq worker_eq, stopped]

end Waiting

/-- The answer to an attempt at collecting a result, after which these submissions are owed. -/
structure Attempted (cpu : CpuEncoder) (owed : List Owed) (answer : Answer CpuEncoder SyncStatus) :
    Prop where
  owes : answer.state.Owes owed
  params_eq : answer.state.params = cpu.params
  nextSync_eq : answer.state.nextSync = cpu.nextSync
  schedule_eq : answer.state.schedule = cpu.schedule.tail
  locks_eq : answer.locks = Worker.releases (cpu.pending.take cpu.nextJobs)
  pending_eq : answer.state.pending = cpu.pending.drop cpu.nextJobs

/-- A new encoder owes nothing. -/
theorem owes_new (reportsResults : Bool) (schedule : List Occasion) :
    (new reportsResults schedule).Owes [] where
  outstanding_eq := rfl
  nodup := List.nodup_nil
  issued := fun _ mem => absurd mem List.not_mem_nil
  used_eq := rfl
  phase := .idle rfl rfl rfl

namespace Owes

variable {cpu : CpuEncoder} {owed : List Owed}

theorem credit (h : cpu.Owes owed) : owed.length ≤ cpu.credits.capacity :=
  h.used_eq ▸ cpu.credits.used_le

/-- Where nothing is owed no job waits. -/
theorem pending_eq_nil (h : cpu.Owes []) : cpu.pending = [] := by
  obtain ⟨_, worker_eq, _⟩ | ⟨_, worker, _, worker_eq, _, _, serves⟩ := h.phase
  · rw [pending, worker_eq]
  · have none_left := serves.keys_perm.eq_nil
    rw [pending, worker_eq]
    exact List.map_eq_nil_iff.1 (List.append_eq_nil_iff.1 none_left).1

/-- Getting ready does not change what is owed: an encoder that is not ready owes nothing. -/
theorem init (h : cpu.Owes owed) (params : EncodeParams) : (cpu.init params).state.Owes owed := by
  unfold CpuEncoder.init initSpawning
  by_cases ready : cpu.params.isSome
  · rw [if_pos ready]
    exact h
  · rw [if_neg ready]
    cases sound : params.defect? .cpu with
    | some defect => exact h
    | none =>
      obtain ⟨_, _, rfl⟩ | ⟨current, _, params_eq⟩ := h.phase
      · have positive : 0 < depthOf params := Nat.le_max_right _ _
        have capacity : (Credits.ofCapacity (depthOf params)).capacity = depthOf params :=
          Nat.max_eq_left positive
        refine ⟨h.outstanding_eq, h.nodup, h.issued, rfl, ?_⟩
        refine .active params.withWorstCase (.start (depthOf params)) rfl rfl sound capacity ?_
        show (Worker.start (depthOf params)).Serves []
          (Credits.ofCapacity (depthOf params)).capacity
        rw [capacity]
        exact Worker.serves_start positive
      · simp [params_eq] at ready

/-- Other parameters do not change what is owed, at which quality either. -/
theorem reset (h : cpu.Owes owed) (params : EncodeParams) : (cpu.reset params).state.Owes owed := by
  unfold CpuEncoder.reset
  obtain ⟨params_eq, _⟩ | ⟨current, worker, params_eq, worker_eq, sound, depth_eq, serves⟩ :=
    h.phase
  · rw [params_eq]
    exact h
  · rw [params_eq]
    cases sound' : params.defect? .cpu with
    | some defect => exact h
    | none =>
      by_cases other : depthOf params ≠ depthOf current
      · simp only [if_pos other]
        exact h
      · simp only [if_neg other]
        refine ⟨h.outstanding_eq, h.nodup, h.issued, h.used_eq, ?_⟩
        refine .active params.withWorstCase worker rfl worker_eq sound' ?_ serves
        exact depth_eq.trans (Decidable.not_not.1 other).symm

/-- The credits are used up, or one more is. -/
theorem acquire?_cases (credits : Credits) :
    credits.acquire? = none ∨ ∃ next : Credits, credits.acquire? = some next ∧
      next.capacity = credits.capacity ∧ next.used = credits.used + 1 := by
  unfold Credits.acquire?
  split
  · exact .inr ⟨_, rfl, rfl, rfl⟩
  · exact .inl rfl

/-- The job of a surface of the right size makes the file of its submission. -/
theorem made {params : EncodeParams} (sound : params.defect? .cpu = none)
    {submission : Submission} {frame : Nv12Frame} (sync : SyncPoint)
    (size : submission.surface.info.cropW = params.frameInfo.cropW ∧
      submission.surface.info.cropH = params.frameInfo.cropH)
    (copied : submission.surface.toFrame = .ok frame) :
    (⟨sync, submission.surface, params.quality⟩ : Owed).Made
      ⟨sync, frame, UInt8.ofNat (min params.quality.toNat 100), submission.id⟩ := by
  obtain ⟨fixed, adjustable⟩ := EncodeParams.defect?_eq_none.1 sound
  obtain ⟨_, ⟨width, height⟩, _⟩ := EncodeParams.fixedDefect?_eq_none.1 fixed
  obtain ⟨quality, _⟩ := EncodeParams.adjustableDefect?_eq_none.1 adjustable
  rw [← size.1, ← UInt16.toNat_inj.ne] at width
  rw [← size.2, ← UInt16.toNat_inj.ne] at height
  have tight : frame.Tight := Nv12Planes.tight_toFrame copied (Nat.pos_of_ne_zero width)
    (Nat.le_of_lt_succ (UInt16.toNat_lt _)) (Nat.pos_of_ne_zero height)
    (Nat.le_of_lt_succ (UInt16.toNat_lt _))
  have file_eq : frame.toJpeg (UInt8.ofNat (min params.quality.toNat 100))
      = submission.surface.toJpeg params.quality := by
    rw [Nat.min_eq_left (EncodeParams.hasQuality_iff.1 quality).2, Surface.toJpeg, copied]
    rfl
  obtain ⟨file, encoded⟩ := tight.toJpeg_ok (UInt8.ofNat (min params.quality.toNat 100))
  exact ⟨rfl, file_eq, file, file_eq.symm.trans encoded⟩

/-- A surface of the right size is queued if a credit is left and it can be copied. -/
theorem queued (h : cpu.Owes owed) {params : EncodeParams} (params_eq : cpu.params = some params)
    {submission : Submission} {frame : Nv12Frame} (left : cpu.credits.acquire? ≠ none)
    (size : submission.surface.info.cropW = params.frameInfo.cropW ∧
      submission.surface.info.cropH = params.frameInfo.cropH)
    (copied : submission.surface.toFrame = .ok frame) :
    cpu.Queued owed params submission (cpu.submit (some submission)) := by
  obtain ⟨idle, _⟩ | ⟨current, worker, current_eq, worker_eq, sound, depth_eq, serves⟩ := h.phase
  · rw [idle] at params_eq
    cases params_eq
  obtain rfl : params = current := Option.some.inj (params_eq.symm.trans current_eq)
  obtain used_up | ⟨credits, acquired, capacity_eq, used_eq⟩ := acquire?_cases cpu.credits
  · exact absurd used_up left
  have made := made sound ⟨cpu.nextSync⟩ size copied
  have fits : ¬ (submission.surface.info.cropW ≠ params.frameInfo.cropW ∨
      submission.surface.info.cropH ≠ params.frameInfo.cropH) := by
    rw [not_or, Decidable.not_not, Decidable.not_not]
    exact size
  have fresh : (⟨cpu.nextSync⟩ : SyncPoint) ∉ owed.map Owed.sync := by
    intro mem
    obtain ⟨o, o_mem, same⟩ := List.mem_map.1 mem
    have below := h.issued o o_mem
    rw [same] at below
    exact Nat.lt_irrefl _ below
  have answer_eq : cpu.submit (some submission) =
      { reply := .ok (.queued (some ⟨cpu.nextSync⟩))
        state := { cpu with
          worker := some (worker.push ⟨⟨cpu.nextSync⟩, frame,
            UInt8.ofNat (min params.quality.toNat 100), submission.id⟩)
          credits := credits
          outstanding := ⟨cpu.nextSync⟩ :: cpu.outstanding
          nextSync := cpu.nextSync + 1 }
        events := []
        locks := [.acquired submission.id] } := by
    simp only [CpuEncoder.submit, params_eq, worker_eq, submitSurface, if_neg fits, acquired,
      copied, serves.isRunning, if_true]
  rw [answer_eq]
  refine ⟨rfl, rfl, ⟨?_, ?_, ?_, ?_, ?_⟩, rfl, rfl, rfl, ?_⟩
  · rw [List.map_cons, ← h.outstanding_eq]
  · exact List.nodup_cons.2 ⟨fresh, h.nodup⟩
  · intro o mem
    obtain rfl | mem := List.mem_cons.1 mem
    · exact Nat.lt_succ_self _
    · exact Nat.lt_succ_of_lt (h.issued o mem)
  · rw [List.length_cons, ← h.used_eq]
    exact used_eq
  · refine .active params _ params_eq rfl sound (capacity_eq.trans depth_eq) ?_
    rw [capacity_eq]
    exact serves.push made
  · refine ⟨⟨⟨cpu.nextSync⟩, frame, UInt8.ofNat (min params.quality.toNat 100), submission.id⟩,
      rfl, ?_⟩
    rw [pending, pending, worker_eq]
    rfl

/-- A submission that is queued is owed from then on, and one that is refused changes nothing. If
the surface cannot be copied, a credit is used for it all the same. -/
theorem submit_cases (h : cpu.Owes owed) (submission : Submission) :
    (∃ params, cpu.params = some params ∧
      cpu.Queued owed params submission (cpu.submit (some submission))) ∨
    (∃ error, cpu.submit (some submission) = .refused error cpu) ∨
    ∃ fault credits, submission.surface.toFrame = .error fault ∧
      cpu.submit (some submission) = .quiet (.error (.fault fault)) { cpu with credits } := by
  obtain ⟨params_eq, _⟩ | ⟨params, worker, params_eq, worker_eq, sound, depth_eq, serves⟩ := h.phase
  · rw [CpuEncoder.submit, params_eq]
    exact .inr (.inl ⟨_, rfl⟩)
  have answer_eq : cpu.submit (some submission) = cpu.submitSurface params worker submission := by
    simp only [CpuEncoder.submit, params_eq, worker_eq]
  by_cases size : submission.surface.info.cropW ≠ params.frameInfo.cropW ∨
      submission.surface.info.cropH ≠ params.frameInfo.cropH
  · rw [answer_eq, submitSurface, if_pos size]
    exact .inr (.inl ⟨_, rfl⟩)
  cases left : cpu.credits.acquire? with
  | none =>
    simp only [answer_eq, submitSurface, if_neg size, left]
    exact .inr (.inl ⟨_, rfl⟩)
  | some credits =>
    cases copied : submission.surface.toFrame with
    | error fault =>
      simp only [answer_eq, submitSurface, if_neg size, left, copied]
      exact .inr (.inr ⟨fault, credits, rfl, rfl⟩)
    | ok frame =>
      rw [not_or, Decidable.not_not, Decidable.not_not] at size
      exact .inl ⟨params, params_eq, h.queued params_eq (by simp [left]) size copied⟩

/-- Collecting a result gives back the credit of its submission. -/
theorem used_release (h : cpu.Owes owed) {o : Owed} (o_mem : o ∈ owed) :
    cpu.credits.release.used = (owed.filter fun o' => o'.sync ≠ o.sync).length := by
  have erased := List.length_erase_of_mem (List.mem_map_of_mem (f := Owed.sync) o_mem)
  rw [h.nodup.erase_eq_filter, List.filter_map, List.length_map, List.length_map] at erased
  rw [Credits.used_release, h.used_eq, ← erased]
  congr 2
  funext o'
  by_cases same : o'.sync = o.sync <;> simp [same]

/-- What is outstanding without one of the sync points is what is owed without its submission. -/
theorem outstanding_filter (h : cpu.Owes owed) (sync : SyncPoint) :
    cpu.outstanding.filter (fun sync' => sync' ≠ sync)
      = (owed.filter fun o => o.sync ≠ sync).map Owed.sync := by
  rw [h.outstanding_eq, List.filter_map]
  rfl

/-- A result that is collected is the file that is owed, and is not owed any more. There is none
yet only while jobs wait. A wait whose end the clock cannot tell changes nothing. -/
theorem sync_cases (h : cpu.Owes owed) {o : Owed} (o_mem : o ∈ owed) (waitMs : Nat)
    (bitstream : Bitstream) :
    ∃ file, o.file? = .ok file ∧
      ((¬ Clock.Covers waitMs ∧ cpu.sync o.sync waitMs bitstream
          = (.quiet (.error (.fault .noDeadline)) cpu, bitstream)) ∨
        (cpu.Attempted owed (cpu.sync o.sync waitMs bitstream).1 ∧
          (cpu.sync o.sync waitMs bitstream).1.state.pending ≠ [] ∧
          (cpu.sync o.sync waitMs bitstream).1.reply = .ok .inExecution ∧
          (cpu.sync o.sync waitMs bitstream).2 = bitstream) ∨
        (cpu.Attempted (owed.filter fun o' => o'.sync ≠ o.sync)
            (cpu.sync o.sync waitMs bitstream).1 ∧
          ((cpu.sync o.sync waitMs bitstream).1.reply, (cpu.sync o.sync waitMs bitstream).2) =
            match bitstream.append file with
            | .ok next => (.ok .done, next)
            | .error error => (.fail error, bitstream))) := by
  obtain ⟨_, _, rfl⟩ | ⟨params, worker, params_eq, worker_eq, sound, depth_eq, serves⟩ := h.phase
  · cases o_mem
  have outstanding : o.sync ∈ cpu.outstanding := by
    rw [h.outstanding_eq]
    exact List.mem_map_of_mem o_mem
  obtain ⟨serves', left, locks⟩ := serves.advance h.credit cpu.nextJobs
  rw [← pending_eq_of_worker worker_eq] at left locks
  cases waited : (worker.advance cpu.nextJobs).1.results.wait o.sync cpu.nextOccasion.present
    waitMs with
  | error fault =>
    obtain ⟨file, file_ok⟩ := serves.file_ok h.nodup o_mem
    obtain ⟨rfl, uncovered⟩ := Clock.deadline_eq_error (CompletionQueue.wait_eq_error waited)
    exact ⟨file, file_ok, .inl ⟨uncovered, sync_of_stopped worker_eq outstanding waited⟩⟩
  | ok result =>
    obtain ⟨next, ⟨file, found, file_ok, served⟩ | ⟨found, waiting, served⟩⟩ :=
      serves'.search h.nodup o_mem
    all_goals rw [← CompletionQueue.wait_eq_ok waited, found] at waited
    · refine ⟨file, file_ok, .inr (.inr ?_)⟩
      rw [sync_of_received worker_eq outstanding waited]
      refine ⟨⟨⟨h.outstanding_filter o.sync, ?_, ?_, h.used_release o_mem, ?_⟩, rfl, rfl, rfl,
        locks, left⟩, ?_⟩
      · exact (List.filter_sublist.map Owed.sync).nodup h.nodup
      · exact fun o' mem => h.issued o' (List.mem_filter.1 mem).1
      · exact .active params _ params_eq rfl sound depth_eq served
      · cases bitstream.append file <;> rfl
    · obtain ⟨file, file_ok⟩ := serves.file_ok h.nodup o_mem
      refine ⟨file, file_ok, .inr (.inl ?_)⟩
      rw [sync_of_missing worker_eq outstanding waited]
      refine ⟨⟨⟨h.outstanding_eq, h.nodup, h.issued, h.used_eq, ?_⟩, rfl, rfl, rfl, locks, left⟩,
        waiting, rfl, rfl⟩
      exact .active params _ params_eq rfl sound depth_eq served

/-- A result that is not owed cannot be collected, and asking for it changes nothing. -/
theorem sync_unknown (h : cpu.Owes owed) {sync : SyncPoint} (unowed : sync ∉ owed.map Owed.sync)
    (waitMs : Nat) (bitstream : Bitstream) :
    cpu.sync sync waitMs bitstream =
      (.refused (.invalidInput s!"unknown sync point {sync.text}") cpu, bitstream) := by
  rw [← h.outstanding_eq] at unowed
  rw [CpuEncoder.sync, if_pos unowed]

end Owes

/-! ## Calls that issue no sync point -/

@[simp] theorem state_query (cpu : CpuEncoder) (params : EncodeParams) :
    (cpu.query params).state = cpu := by
  unfold query
  split <;> rfl

@[simp] theorem state_surfaceRequest (cpu : CpuEncoder) (params : EncodeParams) :
    (cpu.surfaceRequest params).state = cpu := by
  unfold surfaceRequest
  split <;> rfl

@[simp] theorem state_currentParams (cpu : CpuEncoder) : cpu.currentParams.state = cpu := by
  unfold currentParams
  split <;> rfl

@[simp] theorem state_submit_none (cpu : CpuEncoder) : (cpu.submit none).state = cpu := by
  unfold submit
  split <;> rfl

@[simp] theorem nextSync_init (cpu : CpuEncoder) (params : EncodeParams) :
    (cpu.init params).state.nextSync = cpu.nextSync := by
  unfold init initSpawning
  split
  · rfl
  · split <;> rfl

@[simp] theorem nextSync_reset (cpu : CpuEncoder) (params : EncodeParams) :
    (cpu.reset params).state.nextSync = cpu.nextSync := by
  unfold reset
  split
  · rfl
  · split
    · rfl
    · dsimp only
      split <;> rfl

/-- Closing gives up what is owed. -/
theorem owes_close (cpu : CpuEncoder) : cpu.close.state.Owes [] where
  outstanding_eq := rfl
  nodup := List.nodup_nil
  issued := fun _ mem => absurd mem List.not_mem_nil
  used_eq := rfl
  phase := .idle rfl rfl rfl

end CpuEncoder

end Nv12Jpeg
