import Mathlib.Data.List.Infix
import Nv12Jpeg.Encode.Error
import Nv12Jpeg.Encode.Options
import Nv12Jpeg.Proofs.Encoder.Record

/-!
# Flushes in a row

Flushing uses nothing up. What bounds it is the count of flushes in a row without progress, which
starts anew with every flush that is queued with a sync point. Here the replies to flushes are
looked at apart from the loop that makes them.

* `Flushing` — the replies to the flushes of a loop that goes on, and `Flushing.length_le`, how
  many they can be;
* `Flushed` — the replies to all flushes of a loop that has ended, `Flushed.length_le`, and
  `Flushed.eq_flushStalled_iff` and `Flushed.eq_drained_iff`, what they say of its end.
-/

namespace Nv12Jpeg

/-- The reply to a submission without a surface. -/
def Turn.flushReply? : Turn → Option (Attempt EncoderError SubmitStatus)
  | .submit none reply => some reply
  | _ => none

/-- The replies to the flushes among some calls, in order. -/
def flushReplies (turns : List Turn) : List (Attempt EncoderError SubmitStatus) :=
  turns.filterMap Turn.flushReply?

@[simp] theorem flushReplies_append (turns later : List Turn) :
    flushReplies (turns ++ later) = flushReplies turns ++ flushReplies later :=
  List.filterMap_append

/-- Whether a reply to a flush is no progress. -/
def isStall : Attempt EncoderError SubmitStatus → Bool
  | .ok (.queued none) => true
  | .error (.error (.notEnoughBuffer _ _)) => true
  | .error (.error (.deviceLost _)) => true
  | .error (.error (.temporaryBackpressure _)) => true
  | _ => false

/-- Whether a reply comes with a sync point. -/
def hasSyncPoint : Attempt EncoderError SubmitStatus → Bool
  | .ok (.queued (some _)) => true
  | _ => false

/-- The replies to the flushes of a loop that goes on, the last `stalled` of which were no
progress. -/
inductive Flushing (attempts : Nat) :
    (stalled : Nat) → List (Attempt EncoderError SubmitStatus) → Prop
  | start : Flushing attempts 0 []
  | stalled {stalled : Nat} {replies : List (Attempt EncoderError SubmitStatus)}
      {reply : Attempt EncoderError SubmitStatus} (before : Flushing attempts stalled replies)
      (stalls : isStall reply = true) (few : stalled + 1 < attempts) :
      Flushing attempts (stalled + 1) (replies ++ [reply])
  | queued {stalled : Nat} {replies : List (Attempt EncoderError SubmitStatus)} {sync : SyncPoint}
      (before : Flushing attempts stalled replies) :
      Flushing attempts 0 (replies ++ [.ok (.queued (some sync))])

namespace Flushing

variable {attempts stalled : Nat} {replies run : List (Attempt EncoderError SubmitStatus)}

theorem stalled_lt (flushing : Flushing attempts stalled replies) (positive : 0 < attempts) :
    stalled < attempts := by
  cases flushing with
  | start => exact positive
  | stalled _ _ few => exact few
  | queued _ => exact positive

/-- Between two flushes that are queued there are fewer than `attempts` others. -/
theorem length_le (flushing : Flushing attempts stalled replies) (positive : 0 < attempts) :
    replies.length ≤ replies.countP hasSyncPoint * attempts + stalled := by
  induction flushing with
  | start => simp
  | stalled before stalls few ih =>
    rw [List.length_append, List.countP_append, Nat.add_mul]
    simp only [List.length_singleton]
    omega
  | @queued stalled replies sync before ih =>
    have below := before.stalled_lt positive
    have one : [(.ok (.queued (some sync)) : Attempt EncoderError SubmitStatus)].countP hasSyncPoint
        = 1 := rfl
    rw [List.length_append, List.countP_append, one, Nat.add_mul, Nat.one_mul]
    simp only [List.length_singleton]
    omega

/-- While the loop goes on, no flush has found that nothing is left. -/
theorem not_mem_moreData (flushing : Flushing attempts stalled replies) :
    (.ok .moreData : Attempt EncoderError SubmitStatus) ∉ replies := by
  induction flushing with
  | start => simp
  | stalled _ stalls _ ih =>
    simp only [List.mem_append, List.mem_singleton, not_or]
    refine ⟨ih, ?_⟩
    rintro rfl
    cases stalls
  | queued _ ih => simp [ih]

/-- The last `stalled` replies were no progress. -/
theorem exists_run (flushing : Flushing attempts stalled replies) :
    ∃ run, run <:+ replies ∧ run.length = stalled ∧ ∀ reply ∈ run, isStall reply = true := by
  induction flushing with
  | start => exact ⟨[], by simp⟩
  | @stalled _ _ reply _ stalls _ ih =>
    obtain ⟨run, ⟨before, rfl⟩, length, all⟩ := ih
    refine ⟨run ++ [reply], ⟨before, by simp⟩, by simp [length], ?_⟩
    intro other mem
    rcases List.mem_append.1 mem with mem | mem
    · exact all other mem
    · rw [List.mem_singleton.1 mem]
      exact stalls
  | queued _ _ => exact ⟨[], by simp⟩

/-- No more than the last `stalled` replies in a row were no progress. -/
theorem suffix_length_le (flushing : Flushing attempts stalled replies) (suffix : run <:+ replies)
    (all : ∀ reply ∈ run, isStall reply = true) : run.length ≤ stalled := by
  induction flushing generalizing run with
  | start => simp [List.suffix_nil.1 suffix]
  | @stalled stalled _ _ _ _ _ ih =>
    rcases List.suffix_concat_iff.1 suffix with rfl | ⟨rest, rfl, earlier⟩
    · exact Nat.zero_le _
    · have shorter := ih earlier fun reply mem => all reply (List.mem_append_left _ mem)
      rw [List.length_append, List.length_singleton]
      omega
  | queued _ _ =>
    rcases List.suffix_concat_iff.1 suffix with rfl | ⟨rest, rfl, _⟩
    · exact Nat.le_refl _
    · cases all _ (List.mem_append_right _ (List.mem_singleton.2 rfl))

/-- Nowhere were as many replies in a row no progress as there are attempts. -/
theorem infix_length_lt (flushing : Flushing attempts stalled replies) (positive : 0 < attempts)
    (within : run <:+: replies) (all : ∀ reply ∈ run, isStall reply = true) :
    run.length < attempts := by
  -- a run at the very end is bounded by the count, one further in front by the induction
  have at_end : ∀ {stalled replies}, Flushing attempts stalled replies → run <:+ replies →
      run.length < attempts := fun flushing suffix =>
    Nat.lt_of_le_of_lt (flushing.suffix_length_le suffix all) (flushing.stalled_lt positive)
  induction flushing with
  | start => simpa [List.infix_nil.1 within] using positive
  | stalled before stalls few ih =>
    rcases List.infix_concat_iff.1 within with suffix | within
    · exact at_end (before.stalled stalls few) suffix
    · exact ih within
  | queued before ih =>
    rcases List.infix_concat_iff.1 within with suffix | within
    · exact at_end before.queued suffix
    · exact ih within

end Flushing

/-- The replies to all flushes of a loop that has ended, and its end. -/
inductive Flushed (attempts : Nat) :
    List (Attempt EncoderError SubmitStatus) → Except (Failure EncodeError) StopReason → Prop
  /-- The last round made no flush. -/
  | reading {stalled : Nat} {replies : List (Attempt EncoderError SubmitStatus)}
      {outcome : Except (Failure EncodeError) StopReason}
      (before : Flushing attempts stalled replies) (unstalled : outcome ≠ .ok .flushStalled)
      (undrained : outcome ≠ .ok .drained) :
      Flushed attempts replies outcome
  /-- The last flush was no progress, and one too many of that kind. -/
  | stalled {stalled : Nat} {replies : List (Attempt EncoderError SubmitStatus)}
      {reply : Attempt EncoderError SubmitStatus} (before : Flushing attempts stalled replies)
      (stalls : isStall reply = true) (all : attempts ≤ stalled + 1) :
      Flushed attempts (replies ++ [reply]) (.ok .flushStalled)
  /-- The last flush found that nothing is left. -/
  | drained {stalled : Nat} {replies : List (Attempt EncoderError SubmitStatus)}
      (before : Flushing attempts stalled replies) :
      Flushed attempts (replies ++ [.ok .moreData]) (.ok .drained)
  /-- The last flush was answered in another way. -/
  | other {stalled : Nat} {replies : List (Attempt EncoderError SubmitStatus)}
      {reply : Attempt EncoderError SubmitStatus}
      {outcome : Except (Failure EncodeError) StopReason}
      (before : Flushing attempts stalled replies) (moves : isStall reply = false)
      (more : reply ≠ .ok .moreData)
      (unstalled : outcome ≠ .ok .flushStalled) (undrained : outcome ≠ .ok .drained) :
      Flushed attempts (replies ++ [reply]) outcome

namespace Flushed

variable {attempts : Nat} {replies : List (Attempt EncoderError SubmitStatus)}
  {outcome : Except (Failure EncodeError) StopReason}

/-- There is at most one flush more than while the loop goes on. -/
theorem length_le (flushed : Flushed attempts replies outcome) (positive : 0 < attempts)
    {queued : Nat} (few : replies.countP hasSyncPoint ≤ queued) :
    replies.length ≤ (queued + 1) * attempts := by
  have bound : ∀ {stalled before}, Flushing attempts stalled before → before <+: replies →
      before.length + 1 ≤ (queued + 1) * attempts := by
    intro stalled before flushing within
    have fewer := Nat.mul_le_mul_right attempts
      (Nat.le_trans (within.sublist.countP_le) few)
    have length := flushing.length_le positive
    have below := flushing.stalled_lt positive
    rw [Nat.add_mul, Nat.one_mul]
    omega
  cases flushed with
  | reading before _ _ => exact Nat.le_of_succ_le (bound before List.prefix_rfl)
  | stalled before _ _ => simpa using bound before (List.prefix_append _ _)
  | drained before => simpa using bound before (List.prefix_append _ _)
  | other before _ _ _ _ => simpa using bound before (List.prefix_append _ _)

/-- The loop gives up exactly after as many flushes in a row without progress as there are
attempts. -/
theorem eq_flushStalled_iff (flushed : Flushed attempts replies outcome) (positive : 0 < attempts) :
    outcome = .ok .flushStalled ↔
      ∃ run, run <:+: replies ∧ run.length = attempts ∧ ∀ reply ∈ run, isStall reply = true := by
  -- where the last reply is none of these, there are not enough in a row
  have short : ∀ {stalled before last run}, Flushing attempts stalled before →
      isStall last = false → run <:+: before ++ [last] → run.length = attempts →
      ¬ ∀ reply ∈ run, isStall reply = true := by
    intro stalled before last run flushing moves within length all
    rcases List.infix_concat_iff.1 within with suffix | within
    · rcases List.suffix_concat_iff.1 suffix with rfl | ⟨rest, rfl, _⟩
      · exact Nat.ne_of_gt positive length.symm
      · have last_stalls := all last (List.mem_append_right _ (List.mem_singleton.2 rfl))
        exact absurd (moves.symm.trans last_stalls) Bool.false_ne_true
    · exact absurd length (Nat.ne_of_lt (flushing.infix_length_lt positive within all))
  cases flushed with
  | reading before unstalled _ =>
    refine iff_of_false unstalled ?_
    rintro ⟨run, within, length, all⟩
    exact absurd length (Nat.ne_of_lt (before.infix_length_lt positive within all))
  | @stalled stalled _ reply before stalls all =>
    refine iff_of_true rfl ?_
    obtain ⟨run, ⟨earlier, rfl⟩, length, stalled_all⟩ := before.exists_run
    refine ⟨run ++ [reply], ⟨earlier, [], by simp⟩, ?_, ?_⟩
    · have below := before.stalled_lt positive
      rw [List.length_append, List.length_singleton]
      omega
    · intro other mem
      rcases List.mem_append.1 mem with mem | mem
      · exact stalled_all other mem
      · rw [List.mem_singleton.1 mem]
        exact stalls
  | drained before =>
    refine iff_of_false nofun ?_
    rintro ⟨run, within, length, all⟩
    exact short before rfl within length all
  | other before moves _ unstalled _ =>
    refine iff_of_false unstalled ?_
    rintro ⟨run, within, length, all⟩
    exact short before moves within length all

/-- The loop is drained exactly after a flush that found nothing left. -/
theorem eq_drained_iff (flushed : Flushed attempts replies outcome) :
    outcome = .ok .drained ↔ .ok .moreData ∈ replies := by
  cases flushed with
  | reading before _ undrained => exact iff_of_false undrained before.not_mem_moreData
  | stalled before stalls _ =>
    refine iff_of_false nofun ?_
    simp only [List.mem_append, List.mem_singleton, not_or]
    refine ⟨before.not_mem_moreData, ?_⟩
    rintro rfl
    cases stalls
  | drained _ => exact iff_of_true rfl (List.mem_append_right _ (List.mem_singleton.2 rfl))
  | other before _ more _ undrained =>
    refine iff_of_false undrained ?_
    simp only [List.mem_append, List.mem_singleton, not_or]
    exact ⟨before.not_mem_moreData, Ne.symm more⟩

end Flushed

end Nv12Jpeg
