import Nv12Jpeg.Encoder.Worker
import Nv12Jpeg.Proofs.CompletionQueue
import Nv12Jpeg.Proofs.Picture.Frame

/-!
# What the worker owes

For each submission the worker owes the file of the surface as it was when it was submitted, at
the quality in force then. The submission is a job that waits, or a completion on its way, and
never both.

* `Owed` — a submission whose result was not collected;
* `Worker.Serves` — the jobs and completions of a worker are those it owes, one for each;
* `Worker.Serves.advance` — finishing jobs changes none of this;
* `Worker.Serves.search` — what is found is the file that is owed under the key asked for.
-/

namespace Nv12Jpeg

/-- The JPEG file of what is visible of a surface. -/
def Surface.toJpeg (surface : Surface) (quality : UInt16) : Attempt EncoderError Bytes := do
  (← .ofFault surface.toFrame).toJpeg (UInt8.ofNat quality.toNat)

/-- A submission whose result was not collected: its sync point, the surface as it was handed over,
and the quality in force. -/
structure Owed where
  sync : SyncPoint
  surface : Surface
  quality : UInt16

namespace Owed

/-- The file that is owed. -/
def file? (owed : Owed) : Attempt EncoderError Bytes := owed.surface.toJpeg owed.quality

/-- A job that makes the file that is owed, and succeeds in it. -/
structure Made (owed : Owed) (job : EncodeJob) : Prop where
  sync_eq : job.sync = owed.sync
  file_eq : job.frame.toJpeg job.quality = owed.file?
  file_ok : ∃ file, owed.file? = .ok file

/-- A completion with the file that is owed. -/
def Met (owed : Owed) (entry : SyncPoint × JobResult) : Prop :=
  entry.1 = owed.sync ∧ ∃ file, entry.2 = .ok file ∧ owed.file? = .ok file

end Owed

namespace Worker

/-- The sync points of jobs that wait and of completions that were not handed out. -/
def keys (worker : Worker) : List SyncPoint :=
  worker.pending.map EncodeJob.sync ++ worker.results.entries.map Prod.fst

/-- A worker whose jobs and completions are those that are owed, one for each, and whose queue has
room for `depth` of them. -/
structure Serves (worker : Worker) (owed : List Owed) (depth : Nat) : Prop where
  senders_ne : worker.results.senders ≠ 0
  receiving : worker.results.receiving = true
  capacity_eq : worker.results.capacity = depth
  counted : worker.results.depth = worker.results.channel.length
  keys_perm : worker.keys.Perm (owed.map Owed.sync)
  jobs : ∀ job ∈ worker.pending, ∃ o ∈ owed, o.Made job
  results : ∀ entry ∈ worker.results.entries, ∃ o ∈ owed, o.Met entry

/-- A worker that was just started owes nothing. -/
theorem serves_start {depth : Nat} (h : 0 < depth) : (start depth).Serves [] depth where
  senders_ne := Nat.one_ne_zero
  receiving := rfl
  capacity_eq := Nat.max_eq_left h
  counted := rfl
  keys_perm := List.Perm.refl _
  jobs := fun _ mem => absurd mem List.not_mem_nil
  results := fun _ mem => absurd mem List.not_mem_nil

namespace Serves

variable {worker : Worker} {owed : List Owed} {depth : Nat}

theorem isRunning (h : worker.Serves owed depth) : worker.isRunning = true := by
  simpa [Worker.isRunning] using h.senders_ne

/-- While a job waits there is room for its completion. -/
theorem not_isFull (h : worker.Serves owed depth) (credit : owed.length ≤ depth)
    (waiting : worker.pending ≠ []) : worker.results.isFull = false := by
  have count := h.keys_perm.length_eq
  have some_job := List.length_pos_of_ne_nil waiting
  simp only [keys, CompletionQueue.entries, List.length_append, List.length_map] at count
  rw [CompletionQueue.isFull, h.receiving, h.capacity_eq, h.counted, Bool.true_and,
    decide_eq_false_iff_not]
  omega

/-- A job for one more submission. -/
theorem push (h : worker.Serves owed depth) {o : Owed} {job : EncodeJob} (made : o.Made job) :
    (worker.push job).Serves (o :: owed) depth where
  senders_ne := h.senders_ne
  receiving := h.receiving
  capacity_eq := h.capacity_eq
  counted := h.counted
  keys_perm := by
    have moved : (worker.push job).keys.Perm (job.sync :: worker.keys) := by
      simp only [keys, Worker.push, List.map_append, List.map_cons, List.map_nil,
        List.append_assoc]
      exact List.perm_middle
    rw [List.map_cons, ← made.sync_eq]
    exact moved.trans (h.keys_perm.cons _)
  jobs := by
    intro job' mem
    obtain mem | mem := List.mem_append.1 mem
    · obtain ⟨o', o'_mem, made'⟩ := h.jobs job' mem
      exact ⟨o', List.mem_cons_of_mem _ o'_mem, made'⟩
    · rw [List.mem_singleton.1 mem]
      exact ⟨o, List.mem_cons_self, made⟩
  results := by
    intro entry mem
    obtain ⟨o', o'_mem, met⟩ := h.results entry mem
    exact ⟨o', List.mem_cons_of_mem _ o'_mem, met⟩

/-- Finishing the oldest job turns it into its completion, and drops its guard. -/
theorem step (h : worker.Serves owed depth) (credit : owed.length ≤ depth) :
    worker.step.1.Serves owed depth ∧ worker.step.1.pending = worker.pending.drop 1 ∧
      worker.step.2 = releases (worker.pending.take 1) := by
  cases jobs : worker.pending with
  | nil =>
    rw [Worker.step, jobs]
    exact ⟨h, jobs, rfl⟩
  | cons job rest =>
    have waiting : worker.pending ≠ [] := by simp [jobs]
    obtain ⟨o, o_mem, made⟩ := h.jobs job (by simp [jobs])
    obtain ⟨file, file_ok⟩ := made.file_ok
    have encoded : job.frame.toJpeg job.quality = .ok file := made.file_eq.trans file_ok
    -- The worker does not block, and the frame of the job can be encoded.
    have room := h.not_isFull credit waiting
    have sent : worker.step = (⟨rest, { worker.results.raise with
        channel := worker.results.channel ++ [(job.sync, .ok file)] }⟩,
        [.released job.guarded]) := by
      rw [Worker.step, jobs]
      simp only [room, encoded, Bool.false_eq_true, if_false, Worker.send,
        CompletionQueue.complete, h.receiving, if_true]
    rw [sent]
    refine ⟨⟨h.senders_ne, h.receiving, h.capacity_eq, ?_, ?_, ?_, ?_⟩, rfl, rfl⟩
    · show worker.results.depth + 1 = _
      rw [h.counted, List.length_append]
      rfl
    · -- the key moves from the jobs to the completions
      refine List.Perm.trans ?_ h.keys_perm
      have sent_behind : ∀ before channel parked : List SyncPoint,
          (before ++ (channel ++ job.sync :: parked)).Perm
            (job.sync :: (before ++ (channel ++ parked))) := by
        intro before channel parked
        rw [← List.append_assoc, ← List.append_assoc]
        exact List.perm_middle
      have sent_behind := sent_behind (rest.map EncodeJob.sync)
        (worker.results.channel.map Prod.fst) (worker.results.parked.map Prod.fst)
      simpa [keys, CompletionQueue.entries, jobs, CompletionQueue.raise] using sent_behind
    · intro job' mem
      exact h.jobs job' (by simp [jobs, mem])
    · intro entry mem
      simp only [CompletionQueue.entries, List.mem_append, List.mem_singleton] at mem
      obtain (mem | rfl) | mem := mem
      · exact h.results entry (List.mem_append_left _ mem)
      · exact ⟨o, o_mem, made.sync_eq, file, rfl, file_ok⟩
      · exact h.results entry (List.mem_append_right _ mem)

/-- Finishing jobs takes the oldest ones and drops their guards. -/
theorem advance (h : worker.Serves owed depth) (credit : owed.length ≤ depth) (jobs : Nat) :
    (worker.advance jobs).1.Serves owed depth ∧
      (worker.advance jobs).1.pending = worker.pending.drop jobs ∧
      (worker.advance jobs).2 = releases (worker.pending.take jobs) := by
  induction jobs generalizing worker with
  | zero => exact ⟨h, rfl, rfl⟩
  | succ jobs ih =>
    obtain ⟨serves, left, locks⟩ := h.step credit
    obtain ⟨serves', left', locks'⟩ := ih serves
    rw [left, List.drop_drop] at left'
    rw [left] at locks'
    rw [Nat.add_comm] at left'
    refine ⟨serves', left', ?_⟩
    show worker.step.2 ++ (worker.step.1.advance jobs).2 = _
    rw [locks, locks', releases, releases, ← List.map_append, ← List.take_add, Nat.add_comm]
    rfl

/-- There is a file for each submission that is owed. -/
theorem file_ok (h : worker.Serves owed depth) (nodup : (owed.map Owed.sync).Nodup) {o : Owed}
    (o_mem : o ∈ owed) : ∃ file, o.file? = .ok file := by
  have key := h.keys_perm.mem_iff.2 (List.mem_map_of_mem o_mem)
  obtain waits | sent := List.mem_append.1 key
  · obtain ⟨job, job_mem, sync_eq⟩ := List.mem_map.1 waits
    obtain ⟨o', o'_mem, made⟩ := h.jobs job job_mem
    obtain rfl := List.inj_on_of_nodup_map nodup o_mem o'_mem (sync_eq.symm.trans made.sync_eq)
    exact made.file_ok
  · obtain ⟨entry, entry_mem, sync_eq⟩ := List.mem_map.1 sent
    obtain ⟨o', o'_mem, met, file, _, file_ok⟩ := h.results entry entry_mem
    obtain rfl := List.inj_on_of_nodup_map nodup o_mem o'_mem (sync_eq.symm.trans met)
    exact ⟨file, file_ok⟩

/-- Once its completion was taken out, a submission is not owed any more. -/
theorem taken (h : worker.Serves owed depth) (nodup : (owed.map Owed.sync).Nodup) {o : Owed}
    {result : JobResult} {next : CompletionQueue SyncPoint JobResult}
    (continues : next.Continues worker.results)
    (perm : worker.results.entries.Perm ((o.sync, result) :: next.entries)) :
    { worker with results := next }.Serves (owed.filter fun o' => o'.sync ≠ o.sync) depth := by
  have others : (owed.map Owed.sync).Perm (o.sync :: { worker with results := next }.keys) := by
    refine h.keys_perm.symm.trans ?_
    exact ((perm.map Prod.fst).append_left _).trans List.perm_middle
  have once : o.sync ∉ { worker with results := next }.keys :=
    (List.nodup_cons.1 (others.nodup_iff.1 nodup)).1
  -- What is left has another key, so it belongs to another submission.
  have kept : ∀ {o' : Owed} {sync : SyncPoint}, o' ∈ owed → o'.sync = sync →
      sync ∈ { worker with results := next }.keys →
      o' ∈ owed.filter fun o' => o'.sync ≠ o.sync := by
    rintro o' _ mem rfl key
    refine List.mem_filter.2 ⟨mem, ?_⟩
    rw [decide_eq_true_eq]
    intro same
    exact once (same ▸ key)
  refine ⟨?_, ?_, ?_, continues.counted, ?_, ?_, ?_⟩
  · exact continues.senders_eq ▸ h.senders_ne
  · exact continues.receiving_eq.trans h.receiving
  · exact continues.capacity_eq.trans h.capacity_eq
  · have others := others.filter fun sync => sync ≠ o.sync
    have unchanged : { worker with results := next }.keys.filter (fun sync => sync ≠ o.sync)
        = { worker with results := next }.keys := by
      refine List.filter_eq_self.2 fun sync key => ?_
      rw [decide_eq_true_eq]
      rintro rfl
      exact once key
    rw [List.filter_map, List.filter_cons_of_neg (by simp), unchanged] at others
    exact others.symm
  · intro job mem
    obtain ⟨o', o'_mem, made⟩ := h.jobs job mem
    refine ⟨o', kept o'_mem made.sync_eq.symm ?_, made⟩
    exact List.mem_append_left _ (List.mem_map_of_mem mem)
  · intro entry mem
    obtain ⟨o', o'_mem, met⟩ := h.results entry (perm.mem_iff.2 (List.mem_cons_of_mem _ mem))
    refine ⟨o', kept o'_mem met.1.symm ?_, met⟩
    exact List.mem_append_right _ (List.mem_map_of_mem mem)

/-- Handing out the completion of a submission that is owed: it is the file that is owed, and the
others are still to come. It is missing only while its job waits. -/
theorem search (h : worker.Serves owed depth) (nodup : (owed.map Owed.sync).Nodup) {o : Owed}
    (o_mem : o ∈ owed) :
    ∃ next : CompletionQueue SyncPoint JobResult,
      ((∃ file, worker.results.search o.sync = (.received (.ok file), next) ∧ o.file? = .ok file ∧
          { worker with results := next }.Serves (owed.filter fun o' => o'.sync ≠ o.sync) depth) ∨
        (worker.results.search o.sync = (.missing, next) ∧ worker.pending ≠ [] ∧
          { worker with results := next }.Serves owed depth)) := by
  have distinct := h.keys_perm.nodup_iff.2 nodup
  obtain ⟨next, continues, outcome⟩ :=
    worker.results.search_cases o.sync (List.nodup_append.1 distinct).2.1 h.counted
  refine ⟨next, ?_⟩
  obtain ⟨result, found, perm⟩ | ⟨missing, found, perm⟩ := outcome
  · obtain ⟨o', o'_mem, sync_eq, file, rfl, file_ok⟩ :=
      h.results (o.sync, result) (perm.mem_iff.2 List.mem_cons_self)
    obtain rfl : o = o' := List.inj_on_of_nodup_map nodup o_mem o'_mem sync_eq
    exact .inl ⟨file, found, file_ok, h.taken nodup continues perm⟩
  · rw [if_neg h.senders_ne] at found
    refine .inr ⟨found, ?_, ?_, ?_, ?_, continues.counted, ?_, h.jobs, ?_⟩
    · -- the key is that of a job, since it is not that of a completion
      intro idle
      have key := h.keys_perm.mem_iff.2 (List.mem_map_of_mem o_mem)
      rw [keys, idle] at key
      exact missing key
    · exact continues.senders_eq ▸ h.senders_ne
    · exact continues.receiving_eq.trans h.receiving
    · exact continues.capacity_eq.trans h.capacity_eq
    · exact ((perm.symm.map Prod.fst).append_left _).trans h.keys_perm
    · intro entry mem
      exact h.results entry (perm.mem_iff.2 mem)

end Serves

end Worker

end Nv12Jpeg
