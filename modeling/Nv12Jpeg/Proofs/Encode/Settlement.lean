import Nv12Jpeg.Proofs.Encode.Rounds

/-!
# Every submission is settled before the next one

A submission that is queued with a sync point is outstanding until its result was collected or
dropped. The loop sees to that before it submits anything else, and ends if it cannot.

* `Settled` — the calls after a submission that was settled;
* `Settlement` — what can come of a submission at all;
* `Plays.settles` — what comes of the submission of one round;
* `submissions_are_settled` — what comes of every submission of a loop.
-/

namespace Nv12Jpeg

variable {σ α β : Type} {encoder : Encoder σ}

/-- Whether a frame or a flush is submitted. -/
def Turn.isSubmit : Turn → Bool
  | .submit _ _ => true
  | _ => false

theorem Turn.isSubmit_of_isWork {turn : Turn} (idle : turn.isWork = false) :
    turn.isSubmit = false := by
  cases turn <;> simp_all [Turn.isWork, Turn.isSubmit]

/-- Calls after which there is nothing outstanding, or none at all. -/
def Opens (turns : List Turn) : Prop :=
  turns = [] ∨ ∃ submission reply rest, turns = .submit submission reply :: rest

/-- The calls after a submission that was settled: attempts in vain, fewer than there may be, and
one that tells that the result is there, or that it was dropped for want of room. No more attempts
are made before the next submission. -/
inductive Settled (policy : SyncPolicy) (sync : SyncPoint) : List Turn → Prop
  | intro {tried : Nat} {reply : Attempt EncoderError SyncStatus} {others next : List Turn}
      (within : tried < policy.attempts)
      (decided : reply = .ok .done ∨
        ∃ needed available, reply = .error (.error (.notEnoughBuffer needed available)))
      (idle : ∀ turn ∈ others, turn.isWork = false) (opens : Opens next) :
      Settled policy sync
        (policy.inVain sync tried ++ policy.attempt sync reply :: (others ++ next))

/-- What comes of a submission that was queued with a sync point, from the state before it to the
end of the loop: it was settled, or there was no further call and nothing written, and the loop
failed for that. -/
inductive Settlement (policy : SyncPolicy) (sync : SyncPoint) (context last : EncodeContext σ)
    (outcome : Except (Failure EncodeError) α) : List Turn → Prop
  | settled {later : List Turn} (settled : Settled policy sync later) :
      Settlement policy sync context last outcome later
  /-- An attempt was refused for another reason than want of room. -/
  | refused {tried : Nat} {error : EncoderError} (within : tried < policy.attempts)
      (other : ∀ needed available, error ≠ .notEnoughBuffer needed available)
      (fails : outcome = .error (.error (.encoder .sync error)))
      (nothing : last.store = context.store ∧ last.framesWritten = context.framesWritten ∧
        last.outputs = context.outputs) :
      Settlement policy sync context last outcome
        (policy.inVain sync tried ++ [policy.attempt sync (.error (.error error))])
  /-- The encoder itself came to a stop. -/
  | stopped {tried : Nat} {fault : Fault} (within : tried < policy.attempts)
      (fails : outcome = .error (.fault fault))
      (nothing : last.store = context.store ∧ last.framesWritten = context.framesWritten ∧
        last.outputs = context.outputs) :
      Settlement policy sync context last outcome
        (policy.inVain sync tried ++ [policy.attempt sync (.error (.fault fault))])
  /-- All attempts were in vain. -/
  | timedOut (fails : outcome = .error (.error (.syncTimeout sync policy.attempts)))
      (nothing : last.store = context.store ∧ last.framesWritten = context.framesWritten ∧
        last.outputs = context.outputs) :
      Settlement policy sync context last outcome (policy.inVain sync policy.attempts)

variable {policy : SyncPolicy} {sync : SyncPoint} {later calls : List Turn}

/-- A submission that was settled is settled however the loop goes on. -/
theorem Settled.append (settled : Settled policy sync later) (opens : Opens calls) :
    Settled policy sync (later ++ calls) := by
  obtain @⟨tried, reply, others, next, within, decided, idle, opens'⟩ := settled
  have onward : Opens (next ++ calls) := by
    rcases opens' with rfl | ⟨submission, reply, rest, rfl⟩
    · exact opens
    · exact .inr ⟨submission, reply, rest ++ calls, rfl⟩
  have regroup : policy.inVain sync tried ++ policy.attempt sync reply :: (others ++ next) ++ calls
      = policy.inVain sync tried ++ policy.attempt sync reply :: (others ++ (next ++ calls)) := by
    simp
  rw [regroup]
  exact .intro within decided idle onward

/-- A submission after which more rounds follow was settled. -/
theorem Settlement.settled_of_ok {context last : EncodeContext σ} {value : α}
    (settlement : Settlement policy sync context last (.ok value : Except (Failure EncodeError) α)
      later) : Settled policy sync later := by
  cases settlement with
  | settled settled => exact settled
  | refused _ _ fails => cases fails
  | stopped _ fails => cases fails
  | timedOut fails => cases fails

/-- What the last round leads to is what the loop leads to. -/
theorem Settlement.of_map {context last : EncodeContext σ} {f : α → β}
    {outcome : Except (Failure EncodeError) α}
    (settlement : Settlement policy sync context last (outcome.map f) later) :
    Settlement policy sync context last outcome later := by
  cases outcome with
  | ok value => exact .settled settlement.settled_of_ok
  | error failure =>
    cases settlement with
    | settled settled => exact .settled settled
    | refused within other fails nothing =>
      cases fails
      exact .refused within other rfl nothing
    | stopped within fails nothing =>
      cases fails
      exact .stopped within rfl nothing
    | timedOut fails nothing =>
      cases fails
      exact .timedOut rfl nothing

/-! ## One round -/

theorem not_isSubmit_of_mem_inVain {count : Nat} {turn : Turn}
    (mem : turn ∈ policy.inVain sync count) : turn.isSubmit = false := by
  rw [List.eq_of_mem_replicate mem]
  rfl

/-- Nothing is submitted while a result is waited for. -/
theorem Awaits.not_isSubmit {left total : Nat} {turns : List Turn}
    {found : Except (Failure EncodeError) Bool}
    (awaits : Awaits policy sync left total turns found) :
    ∀ turn ∈ turns, turn.isSubmit = false := by
  intro turn mem
  cases awaits with
  | settled _ _ =>
    rcases List.mem_append.1 mem with mem | mem
    · exact not_isSubmit_of_mem_inVain mem
    · rw [List.mem_singleton.1 mem]
      rfl
  | timedOut => exact not_isSubmit_of_mem_inVain mem

/-- A round makes no call, or its submission and no other. -/
theorem Plays.opens {loop : LoopState} {context last : EncodeContext σ}
    {outcome : Except (Failure EncodeError) RoundEnd}
    (plays : Plays loop context last calls outcome) :
    calls = [] ∨ ∃ submission reply rest, calls = .submit submission reply :: rest ∧
      ∀ turn ∈ rest, turn.isSubmit = false := by
  cases plays with
  | unoffered _ _ => exact .inl rfl
  | judged _ _ _ => exact .inr ⟨_, _, [], rfl, List.forall_mem_nil _⟩
  | waited _ awaits _ _ => exact .inr ⟨_, _, _, rfl, awaits.not_isSubmit⟩
  | collected _ awaits _ _ _ idle =>
    exact .inr ⟨_, _, _, rfl, List.forall_mem_append.2
      ⟨awaits.not_isSubmit, fun turn mem => Turn.isSubmit_of_isWork (idle turn mem)⟩⟩

/-- What is to be submitted costs no file. -/
theorem EncodeM.Offers.files {draining : Bool} {context ready : EncodeContext σ}
    {submission : Option Submission} (offers : Offers draining context submission ready) :
    ready.store = context.store ∧ ready.framesWritten = context.framesWritten ∧
      ready.outputs = context.outputs := by
  cases offers <;> exact ⟨rfl, rfl, rfl⟩

/-- An attempt tells that the result is there, or that it was dropped for want of room. -/
theorem decided_of_verdict {reply : Attempt EncoderError SyncStatus} {found : Bool}
    (verdict : verdict? reply = some (.ok found)) :
    reply = .ok .done ∨
      ∃ needed available, reply = .error (.error (.notEnoughBuffer needed available)) := by
  cases reply with
  | ok status =>
    cases status with
    | done => exact .inl rfl
    | inExecution => cases verdict
  | error failure =>
    cases failure with
    | fault fault => cases verdict
    | error error =>
      cases error with
      | notEnoughBuffer needed available => exact .inr ⟨needed, available, rfl⟩
      | _ => cases verdict

/-- An attempt was refused for another reason, or the encoder came to a stop. -/
theorem failed_of_verdict {reply : Attempt EncoderError SyncStatus} {failure : Failure EncodeError}
    (verdict : verdict? reply = some (.error failure)) :
    (∃ error, reply = .error (.error error) ∧
      (∀ needed available, error ≠ .notEnoughBuffer needed available) ∧
      failure = .error (.encoder .sync error)) ∨
    ∃ fault, reply = .error (.fault fault) ∧ failure = .fault fault := by
  cases reply with
  | ok status => cases status <;> cases verdict
  | error cause =>
    cases cause with
    | fault fault =>
      cases verdict
      exact .inr ⟨fault, rfl, rfl⟩
    | error error =>
      left
      cases error with
      | notEnoughBuffer needed available => cases verdict
      | _ =>
        cases verdict
        exact ⟨_, rfl, nofun, rfl⟩

/-- A wait that comes to an end settles its submission. -/
theorem Awaits.settled_of_ok {total : Nat} {turns others : List Turn} {found : Bool}
    (awaits : Awaits policy sync policy.attempts total turns (.ok found))
    (idle : ∀ turn ∈ others, turn.isWork = false) : Settled policy sync (turns ++ others) := by
  cases awaits with
  | @settled tried reply _ within verdict =>
    have settled : Settled policy sync (policy.inVain sync tried ++
        policy.attempt sync reply :: (others ++ [])) :=
      .intro within (decided_of_verdict verdict) idle (.inl rfl)
    simpa using settled

/-- A wait that fails is the end of the loop. -/
theorem Awaits.settlement_of_error {context last : EncodeContext σ} {turns : List Turn}
    {outcome : Except (Failure EncodeError) α} {failure : Failure EncodeError}
    (awaits : Awaits policy sync policy.attempts policy.attempts turns (.error failure))
    (fails : outcome = .error failure)
    (nothing : last.store = context.store ∧ last.framesWritten = context.framesWritten ∧
      last.outputs = context.outputs) :
    Settlement policy sync context last outcome turns := by
  cases awaits with
  | settled within verdict =>
    rcases failed_of_verdict verdict with ⟨error, rfl, other, rfl⟩ | ⟨fault, rfl, rfl⟩
    · exact .refused within other fails nothing
    · exact .stopped within fails nothing
  | timedOut => exact .timedOut fails nothing

/-- What comes of the submission of a round, if it was queued with a sync point. -/
theorem Plays.settles {loop : LoopState} {context last : EncodeContext σ}
    {outcome : Except (Failure EncodeError) RoundEnd} {submission : Option Submission}
    (plays : Plays loop context last (.submit submission (.ok (.queued (some sync))) :: later)
      outcome) :
    Settlement context.options.sync sync context last outcome later := by
  cases plays with
  | judged _ verdict _ => cases verdict
  | @waited _ ready _ _ found offers awaits nothing unwritten =>
    cases found with
    | error failure =>
      obtain ⟨store, framesWritten, outputs⟩ := offers.files
      exact awaits.settlement_of_error rfl ⟨unwritten.store.trans store,
        unwritten.framesWritten.trans framesWritten, unwritten.outputs.trans outputs⟩
    | ok found =>
      have settled := awaits.settled_of_ok (List.forall_mem_nil _)
      rw [List.append_nil] at settled
      exact .settled settled
  | collected _ awaits _ _ _ idle => exact .settled (awaits.settled_of_ok idle)

/-! ## A loop -/

/-- A call among some calls and further ones is among the former or among the latter. -/
theorem split_append {turns before later : List Turn} {turn : Turn}
    (split : turns ++ calls = before ++ turn :: later) :
    (∃ within, turns = before ++ turn :: within ∧ later = within ++ calls) ∨
    ∃ after, before = turns ++ after ∧ calls = after ++ turn :: later := by
  rcases List.append_eq_append_iff.1 split with ⟨after, rfl, eq⟩ | ⟨within, rfl, eq⟩
  · exact .inr ⟨after, rfl, eq⟩
  · cases within with
    | nil => exact .inr ⟨[], by simp, by simpa using eq.symm⟩
    | cons head within =>
      obtain ⟨rfl, rfl⟩ := List.cons.inj eq
      exact .inl ⟨within, rfl, rfl⟩

/-- The only submission of a round is its first call. -/
theorem Plays.before_eq_nil {loop : LoopState} {context last : EncodeContext σ}
    {outcome : Except (Failure EncodeError) RoundEnd} {before : List Turn}
    {submission : Option Submission} {reply : Attempt EncoderError SubmitStatus}
    (plays : Plays loop context last calls outcome)
    (split : calls = before ++ .submit submission reply :: later) : before = [] := by
  cases before with
  | nil => rfl
  | cons head before =>
    rcases plays.opens with rfl | ⟨_, _, rest, rfl, others⟩
    · cases split
    · obtain ⟨-, rfl⟩ := List.cons.inj split
      cases others (.submit submission reply) (List.mem_append_right _ List.mem_cons_self)

section Loop

variable {first context last : EncodeContext (σ × List Entry)} {loop : LoopState} {count : Nat}

/-- What holds of the submissions between two rounds: each was settled. -/
structure AllSettled (encoder : Encoder σ) (first context : EncodeContext (σ × List Entry))
    (turns : List Turn) : Prop where
  options : context.options = first.options
  adds : Adds encoder first context turns
  settled : ∀ {before later submission sync},
    turns = before ++ .submit submission (.ok (.queued (some sync))) :: later →
    (∃ count loop middle, Reached first count loop middle ∧
      middle.session.transcript = first.session.transcript ++ before) ∧
      Settled first.options.sync sync later

/-- The submissions of the rounds so far and of one more. -/
theorem AllSettled.round {turns : List Turn} {outcome : Except (Failure EncodeError) RoundEnd}
    (all : AllSettled encoder first context turns) (reached : Reached first count loop context)
    (ran : (EncodeM.round loop).run context = (outcome, last)) :
    ∃ calls, Adds encoder first last (turns ++ calls) ∧ last.options = first.options ∧
      ∀ {before later submission sync},
        turns ++ calls = before ++ .submit submission (.ok (.queued (some sync))) :: later →
        ∃ count loop middle, Reached first count loop middle ∧
          middle.session.transcript = first.session.transcript ++ before ∧
          Settlement first.options.sync sync middle last outcome later := by
  obtain ⟨calls, adds, options, plays⟩ := EncodeM.round_plays all.adds.encoder_eq ran
  refine ⟨calls, all.adds.trans adds, options.trans all.options, ?_⟩
  intro before later submission sync split
  rcases split_append split with ⟨within, earlier, rfl⟩ | ⟨after, rfl, now⟩
  · obtain ⟨⟨count, loop, middle, reached, transcript⟩, settled⟩ := all.settled earlier
    have opens : Opens calls := by
      rcases plays.opens with none | ⟨submission, reply, rest, some, _⟩
      · exact .inl none
      · exact .inr ⟨submission, reply, rest, some⟩
    exact ⟨count, loop, middle, reached, transcript, .settled (settled.append opens)⟩
  · obtain rfl := plays.before_eq_nil now
    rw [List.append_nil]
    rw [List.nil_append] at now
    rw [now] at plays
    rw [← all.options]
    exact ⟨count, loop, context, reached, all.adds.transcript_eq, plays.settles⟩

/-- Between two rounds every submission was settled. -/
theorem Reached.allSettled (reached : Reached first count loop context)
    (same : first.session.encoder = encoder.recorded) :
    ∃ turns, AllSettled encoder first context turns := by
  induction reached with
  | start => exact ⟨[], rfl, .of_session same rfl, by simp⟩
  | next reached ran ih =>
    obtain ⟨turns, all⟩ := ih
    obtain ⟨calls, adds, options, settles⟩ := all.round reached ran
    refine ⟨turns ++ calls, options, adds, fun split => ?_⟩
    obtain ⟨count, loop, middle, reached, transcript, settlement⟩ := settles split
    exact ⟨⟨count, loop, middle, reached, transcript⟩, settlement.settled_of_ok⟩

/-- A loop waits for the result of every submission that is queued with a sync point, with attempts
on that sync point only and no other call in between, until an attempt does not find it in the
making or all attempts were made. It goes on only if the result was there or dropped for want of
room; otherwise it fails for that without another call, and without having written anything since
the submission. -/
theorem submissions_are_settled {rounds : Nat} {outcome : Except (Failure EncodeError) StopReason}
    (same : first.session.encoder = encoder.recorded)
    (ran : (EncodeM.runRounds rounds .start).run first = (outcome, last)) :
    ∃ turns, last.session.transcript = first.session.transcript ++ turns ∧
      ∀ before later submission sync,
        turns = before ++ .submit submission (.ok (.queued (some sync))) :: later →
        ∃ count loop middle, Reached first count loop middle ∧
          middle.session.transcript = first.session.transcript ++ before ∧
          Settlement first.options.sync sync middle last outcome later := by
  obtain ⟨count, _, loop, context, reached, ended⟩ | ⟨loop, reached, rfl⟩ :=
    EncodeM.runRounds_cases .start ran
  · obtain ⟨turns, all⟩ := reached.allSettled same
    obtain ⟨calls, adds, _, settles⟩ := all.round reached ended
    refine ⟨turns ++ calls, adds.transcript_eq, fun before later submission sync split => ?_⟩
    obtain ⟨count, loop, middle, reached, transcript, settlement⟩ := settles split
    exact ⟨count, loop, middle, reached, transcript, settlement.of_map⟩
  · obtain ⟨turns, all⟩ := reached.allSettled same
    refine ⟨turns, all.adds.transcript_eq, fun before later submission sync split => ?_⟩
    obtain ⟨⟨count, loop, middle, reached, transcript⟩, settled⟩ := all.settled split
    exact ⟨count, loop, middle, reached, transcript, .settled settled⟩

end Loop

/-- A run whose first result comes with the second attempt, and the second one not in time. -/
def lateResults : EncodeContext (ScriptedEncoder × List Entry) :=
  .start (.ofEncoder ScriptedEncoder.encoder.recorded ({ ScriptedEncoder.usual with
      query := [some (.ok fun params =>
        { params with frameInfo := ⟨⟨25, 1⟩, 0, 0, 1, 1, 2, 2⟩ })]
      sync := [some (.ok .inExecution), none, some (.ok .inExecution), some (.ok .inExecution)] },
    []))
    (.ofBytes #[1, 2, 3, 4, 5, 6]) { EncodeOptions.ofInput "" 1 1 with sync := ⟨7, 2⟩ } .empty #[]

/-- The sync point that a submission was queued with. -/
def Turn.outstanding? : Turn → Option SyncPoint
  | .submit _ (.ok (.queued sync)) => sync
  | _ => none

/-- The second submission is not settled, and the loop makes no call after its two attempts. -/
theorem submissions_are_settled_but_the_second :
    let first := (EncodeM.setUp.run lateResults).2
    let last := ((EncodeM.runRounds 3 .start).run first).2
    last.framesWritten = 1 ∧
      ∃ before later submission middle,
        last.session.transcript = first.session.transcript ++
          (before ++ .submit submission (.ok (.queued (some ⟨2⟩))) :: later) ∧
        Settlement ⟨7, 2⟩ ⟨2⟩ middle last
          (.error (.error (.syncTimeout ⟨2⟩ 2)) : Except (Failure EncodeError) StopReason)
          later := by
  intro first last
  have late : ((EncodeM.runRounds 3 .start).run first).1
      = .error (.error (.syncTimeout ⟨2⟩ 2)) := by decide +kernel
  have written : last.framesWritten = 1 := by decide +kernel
  have points : last.session.transcript.filterMap Turn.outstanding?
      = first.session.transcript.filterMap Turn.outstanding? ++ [⟨1⟩, ⟨2⟩] := by decide +kernel
  have policy : first.options.sync = ⟨7, 2⟩ := by decide +kernel
  have ran : (EncodeM.runRounds 3 .start).run first
      = (.error (.error (.syncTimeout ⟨2⟩ 2)), last) := Prod.ext late rfl
  obtain ⟨turns, transcript, settles⟩ := submissions_are_settled rfl ran
  rw [transcript, List.filterMap_append, List.append_cancel_left_eq] at points
  have second : (⟨2⟩ : SyncPoint) ∈ turns.filterMap Turn.outstanding? := by
    rw [points]
    decide
  obtain ⟨turn, mem, queued⟩ := List.mem_filterMap.1 second
  obtain ⟨before, later, rfl⟩ := List.append_of_mem mem
  unfold Turn.outstanding? at queued
  split at queued
  · subst queued
    obtain ⟨_, _, middle, _, _, settlement⟩ := settles before later _ _ rfl
    rw [policy] at settlement
    exact ⟨written, before, later, _, middle, transcript, settlement⟩
  · cases queued

end Nv12Jpeg
