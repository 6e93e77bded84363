import Nv12Jpeg.Proofs.Encoder.History
import Nv12Jpeg.Proofs.Surface.Pool

/-!
# Guards that the software encoder holds

The guards of the encoder are those of the jobs that wait, and each job has one on the surface it
was copied from. Whatever an application does, giving up these jobs would leave the locks as the
encoder found them; so they are as it found them when no job waits.

* `Answer.Balanced` — a call takes guards for jobs that begin to wait, and drops those of jobs that
  no longer do; every call does: `CpuEncoder.balanced_init`, `CpuEncoder.Owes.balanced_submit`,
  `CpuEncoder.Owes.balanced_sync` and so on;
* `Application.Guarding` — what this comes to over a run; `Guarding.perform` is the step,
  `Guarding.run` the run;
* `Application.Guarding.locks_eq_of_outstanding_eq_nil` — no surface is left locked once nothing is
  outstanding.
-/

namespace Nv12Jpeg

/-- Guards are taken for jobs that begin to wait, and dropped for jobs that no longer do: if every
job that waits were given up, the locks would be the same after the call as before. No job begins
to wait but that of the surface that is given. -/
structure Answer.Balanced {α : Type} (answer : Answer CpuEncoder α) (cpu : CpuEncoder)
    (given : Option SurfaceId) : Prop where
  released : ∀ number pool,
    (Worker.releases answer.state.pending).foldl (LockChange.apply number)
        (answer.locks.foldl (LockChange.apply number) pool)
      = (Worker.releases cpu.pending).foldl (LockChange.apply number) pool
  guarded : ∀ job ∈ answer.state.pending, job ∈ cpu.pending ∨ given = some job.guarded

/-- A call that concerns no job and no guard. -/
theorem Answer.balanced_of_pending_eq {α : Type} {answer : Answer CpuEncoder α} {cpu : CpuEncoder}
    {given : Option SurfaceId} (pending_eq : answer.state.pending = cpu.pending)
    (unlocked : answer.locks = []) : answer.Balanced cpu given where
  released := by
    intro number pool
    rw [pending_eq, unlocked]
    rfl
  guarded := by
    intro job mem
    rw [pending_eq] at mem
    exact .inl mem

theorem Answer.balanced_quiet {α : Type} (reply : Attempt EncoderError α) (cpu : CpuEncoder)
    (given : Option SurfaceId) : (quiet reply cpu).Balanced cpu given :=
  balanced_of_pending_eq rfl rfl

namespace CpuEncoder

variable {cpu : CpuEncoder} {owed : List Owed}

theorem balanced_query (params : EncodeParams) (cpu : CpuEncoder) :
    (cpu.query params).Balanced cpu none := by
  unfold query
  split <;> exact Answer.balanced_quiet _ _ _

theorem balanced_surfaceRequest (params : EncodeParams) (cpu : CpuEncoder) :
    (cpu.surfaceRequest params).Balanced cpu none := by
  unfold surfaceRequest
  split <;> exact Answer.balanced_quiet _ _ _

theorem balanced_currentParams (cpu : CpuEncoder) : cpu.currentParams.Balanced cpu none := by
  unfold currentParams
  split <;> exact Answer.balanced_quiet _ _ _

/-- A worker that starts has no jobs, and there was none before. -/
theorem Owes.balanced_init (h : cpu.Owes owed) (params : EncodeParams) :
    (cpu.init params).Balanced cpu none := by
  unfold CpuEncoder.init initSpawning
  split
  · exact Answer.balanced_quiet _ _ _
  · rename_i fresh
    split
    · exact Answer.balanced_quiet _ _ _
    · refine Answer.balanced_of_pending_eq ?_ rfl
      obtain ⟨_, worker_eq, _⟩ | ⟨params, _, params_eq, _⟩ := h.phase
      · rw [pending, pending, worker_eq]
        rfl
      · rw [params_eq] at fresh
        exact absurd rfl fresh

theorem balanced_reset (params : EncodeParams) (cpu : CpuEncoder) :
    (cpu.reset params).Balanced cpu none := by
  unfold reset
  split
  · exact Answer.balanced_quiet _ _ _
  · split
    · exact Answer.balanced_quiet _ _ _
    · dsimp only
      split
      · exact Answer.balanced_quiet _ _ _
      · exact Answer.balanced_of_pending_eq rfl rfl

theorem balanced_submit_none (cpu : CpuEncoder) : (cpu.submit none).Balanced cpu none := by
  unfold submit
  split <;> exact Answer.balanced_quiet _ _ _

/-- The job of a submission that is queued comes with a guard on its surface. -/
theorem Owes.balanced_submit (h : cpu.Owes owed) (submission : Submission) :
    (cpu.submit (some submission)).Balanced cpu (some submission.id) := by
  obtain ⟨params, _, queued⟩ | ⟨error, answer_eq⟩ | ⟨fault, credits, _, answer_eq⟩ :=
    h.submit_cases submission
  · obtain ⟨job, guarded_eq, pending_eq⟩ := queued.pending_eq
    constructor
    · -- the guard is taken first, and dropped last, when the jobs are given up in order
      intro number pool
      rw [pending_eq, queued.locks_eq, ← guarded_eq, Worker.releases, List.map_append,
        List.foldl_append, List.foldl_cons, List.foldl_nil, LockChange.foldl_apply]
      exact LockChange.apply_released_acquired _
    · intro job' mem
      rw [pending_eq, List.mem_append, List.mem_singleton] at mem
      obtain mem | rfl := mem
      · exact .inl mem
      · exact .inr (congrArg some guarded_eq.symm)
  · rw [answer_eq]
    exact Answer.balanced_quiet _ _ _
  · rw [answer_eq]
    exact Answer.balanced_of_pending_eq rfl rfl

/-- The oldest jobs are finished while a result is waited for, and their guards dropped. -/
theorem Attempted.balanced {answer : Answer CpuEncoder SyncStatus} (h : cpu.Attempted owed answer) :
    answer.Balanced cpu none where
  released := by
    intro number pool
    rw [h.pending_eq, h.locks_eq, ← List.foldl_append, Worker.releases, Worker.releases,
      ← List.map_append, List.take_append_drop]
    rfl
  guarded := by
    intro job mem
    rw [h.pending_eq] at mem
    exact .inl (List.mem_of_mem_drop mem)

theorem Owes.balanced_sync (h : cpu.Owes owed) (sync : SyncPoint) (waitMs : Nat)
    (bitstream : Bitstream) : (cpu.sync sync waitMs bitstream).1.Balanced cpu none := by
  by_cases known : sync ∈ owed.map Owed.sync
  · obtain ⟨o, o_mem, rfl⟩ := List.mem_map.1 known
    obtain ⟨_, _, ⟨_, stopped⟩ | ⟨attempted, _⟩ | ⟨attempted, _⟩⟩ :=
      h.sync_cases o_mem waitMs bitstream
    · rw [stopped]
      exact Answer.balanced_quiet _ _ _
    · exact attempted.balanced
    · exact attempted.balanced
  · rw [h.sync_unknown known]
    exact Answer.balanced_quiet _ _ _

/-- Closing gives up every job that waits. -/
theorem balanced_close (cpu : CpuEncoder) : cpu.close.Balanced cpu none where
  released := by
    intro number pool
    unfold close pending
    cases cpu.worker with
    | none => rfl
    | some worker => rfl
  guarded := fun _ mem => absurd mem List.not_mem_nil

end CpuEncoder

namespace Application

/-- The locks as the encoder found them: those of the pool that was there first, and free ones in
a pool that was allocated later. -/
def foundLocks (first : SurfacePool) (application : Application) : Array SurfaceLock :=
  if application.poolNumber = 0 then first.locks
  else Array.replicate application.pool.size .free

/-- The locks are as the encoder found them but for the guards of jobs that wait. -/
structure Guarding (first : SurfacePool) (application : Application) : Prop where
  locks_eq : ((Worker.releases application.cpu.pending).foldl
    (LockChange.apply application.poolNumber) application.pool).locks
      = application.foundLocks first
  /-- There are no guards on surfaces of pools to come. -/
  earlier : ∀ job ∈ application.cpu.pending, job.guarded.pool ≤ application.poolNumber

variable {first : SurfacePool} {application next : Application} {marks added : List Mark}

theorem guarding_start (reportsResults : Bool) (schedule : List Occasion) (pool : SurfacePool)
    (bitstream : Bitstream) : (start reportsResults schedule pool bitstream).Guarding pool where
  locks_eq := rfl
  earlier := fun _ mem => absurd mem List.not_mem_nil

/-- What booking an answer leaves of the pool. -/
theorem pool_of_book_eq_ok {α : Type} {answer : Answer CpuEncoder α}
    {marks : Except EncoderError α → List Mark}
    (h : application.book answer marks = .ok (next, added)) :
    next.pool = answer.locks.foldl (LockChange.apply application.poolNumber) application.pool ∧
      next.poolNumber = application.poolNumber := by
  unfold book at h
  obtain ⟨reply, state, events, locks⟩ := answer
  cases reply with
  | ok value =>
    cases h
    exact ⟨rfl, rfl⟩
  | error failure =>
    cases failure with
    | error error =>
      cases h
      exact ⟨rfl, rfl⟩
    | fault fault => cases h

namespace Guarding

/-- A call that concerns no surface of a pool to come. -/
theorem booked {α : Type} (h : application.Guarding first) {answer : Answer CpuEncoder α}
    {given : Option SurfaceId} {marks : Except EncoderError α → List Mark}
    (balanced : answer.Balanced application.cpu given)
    (there : ∀ surface, given = some surface → surface.pool ≤ application.poolNumber)
    (done : application.book answer marks = .ok (next, added)) : next.Guarding first := by
  obtain ⟨cpu_eq, _⟩ := book_eq_ok done
  obtain ⟨pool_eq, number_eq⟩ := pool_of_book_eq_ok done
  constructor
  · rw [cpu_eq, number_eq, pool_eq, balanced.released, h.locks_eq, foundLocks, foundLocks,
      number_eq, pool_eq, LockChange.size_foldl]
  · intro job mem
    rw [cpu_eq] at mem
    rw [number_eq]
    obtain mem | begun := balanced.guarded job mem
    · exact h.earlier job mem
    · exact there job.guarded begun

/-- A call without a surface. -/
theorem booked_none {α : Type} (h : application.Guarding first) {answer : Answer CpuEncoder α}
    {marks : Except EncoderError α → List Mark}
    (balanced : answer.Balanced application.cpu none)
    (done : application.book answer marks = .ok (next, added)) : next.Guarding first :=
  h.booked balanced (fun _ given => nomatch given) done

/-- One operation keeps the guards to the jobs that wait. -/
theorem perform (h : application.Guarding first) (sound : application.Sound marks)
    {operation : Operation} (done : application.perform operation = .ok (next, added)) :
    next.Guarding first := by
  cases operation with
  | attach accelerator =>
    rw [Application.perform] at done
    exact h.booked_none (Answer.balanced_quiet _ _ _) done
  | query params => exact h.booked_none (CpuEncoder.balanced_query _ _) done
  | init params => exact h.booked_none (sound.owes.balanced_init _) done
  | surfaceRequest params => exact h.booked_none (CpuEncoder.balanced_surfaceRequest _ _) done
  | currentParams => exact h.booked_none (CpuEncoder.balanced_currentParams _) done
  | reset params => exact h.booked_none (CpuEncoder.balanced_reset _ _) done
  | submit index =>
    simp only [Application.perform] at done
    cases found : application.pool.surface? index with
    | none =>
      rw [found] at done
      cases done
      exact h
    | some surface =>
      rw [found] at done
      refine h.booked (sound.owes.balanced_submit _) ?_ done
      rintro _ ⟨⟩
      exact Nat.le_refl _
  | flush => exact h.booked_none (CpuEncoder.balanced_submit_none _) done
  | sync sync waitMs =>
    -- the output buffer has no part in this
    have other : Guarding first { application with
      bitstream := (application.cpu.sync sync waitMs application.bitstream).2 } := ⟨h.1, h.2⟩
    exact other.booked_none (sound.owes.balanced_sync sync waitMs application.bitstream) done
  | close =>
    rw [Application.perform] at done
    exact h.booked_none (CpuEncoder.balanced_close _) done
  | overwrite index start payload =>
    obtain ⟨pool, overwritten, done⟩ := bind_eq_ok.1 done
    cases done
    have locks_eq := SurfacePool.locks_of_overwrite_eq_ok overwritten
    refine ⟨?_, h.earlier⟩
    rw [LockChange.locks_foldl_congr locks_eq, h.locks_eq, foundLocks, foundLocks,
      SurfacePool.size, SurfacePool.size, locks_eq]
  | allocate info count =>
    cases done
    constructor
    · -- jobs that wait have their guards on surfaces of earlier pools
      have elsewhere : ∀ change ∈ Worker.releases application.cpu.pending,
          change.surface.pool ≠ application.poolNumber + 1 := by
        intro change mem
        obtain ⟨job, job_mem, rfl⟩ := List.mem_map.1 mem
        have := h.earlier job job_mem
        simp only [LockChange.surface]
        omega
      simp [LockChange.foldl_apply_of_ne elsewhere, foundLocks, SurfacePool.allocate,
        SurfacePool.size]
    · intro job mem
      exact Nat.le_succ_of_le (h.earlier job mem)
  | replace bitstream =>
    cases done
    exact ⟨h.1, h.2⟩

/-- So does a list of them. -/
theorem run (h : application.Guarding first) (sound : application.Sound marks)
    {operations : List Operation} (done : application.run operations = .ok (next, added)) :
    next.Guarding first := by
  induction operations generalizing application marks added with
  | nil =>
    cases done
    exact h
  | cons operation operations ih =>
    obtain ⟨⟨middle, marks'⟩, performed, done⟩ := bind_eq_ok.1 done
    obtain ⟨⟨last, later⟩, others, done⟩ := bind_eq_ok.1 done
    cases done
    exact ih (h.perform sound performed) (sound.perform performed) others

/-- Once nothing is outstanding the locks are as the encoder found them. -/
theorem locks_eq_of_outstanding_eq_nil (h : application.Guarding first)
    (sound : application.Sound marks) (collected : application.cpu.outstanding = []) :
    application.pool.locks = application.foundLocks first := by
  have nothing : Mark.owedAfter marks = [] := by
    rw [sound.owes.outstanding_eq] at collected
    exact List.map_eq_nil_iff.1 collected
  have idle := (nothing ▸ sound.owes).pending_eq_nil
  rw [← h.locks_eq, idle]
  rfl

end Guarding

end Application

end Nv12Jpeg
