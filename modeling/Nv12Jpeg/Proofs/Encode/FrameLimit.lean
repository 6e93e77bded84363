import Nv12Jpeg.Encoder.Scripted
import Nv12Jpeg.Proofs.Encode.Settlement

/-!
# The frame limit

The limit is looked at only after a frame was written. So it is an upper bound from one frame on,
and a limit of no frame lets one through.

* `Fileless` — a relation of states, kept by all steps but the one that writes a file;
* `Filed` — where the files lie that were created so far;
* `Bounded` — what holds between two steps of a loop, and whether the limit is reached;
* `EncodeM.round_bounded` is the step from one round to the next, `EncodeM.wholeRun_bounded` is
  about a run;
* `frames_stay_within_limit` — the files, the count and the reason to stop at the end of any run.
-/

namespace Nv12Jpeg

variable {σ α : Type} {first context last : EncodeContext σ}

/-! ## Steps that create no file -/

/-- From one state to another no file was created. -/
structure Fileless (earlier later : EncodeContext σ) : Prop where
  options : later.options = earlier.options
  store : later.store = earlier.store
  framesWritten : later.framesWritten = earlier.framesWritten
  outputs : later.outputs = earlier.outputs

theorem Unwritten.fileless (unwritten : Unwritten context last) : Fileless context last :=
  ⟨unwritten.options, unwritten.store, unwritten.framesWritten, unwritten.outputs⟩

theorem Fileless.onward : EncodeM.Onward (Fileless (σ := σ)) where
  refl := fun _ => ⟨rfl, rfl, rfl, rfl⟩
  trans := fun h h' => ⟨h'.1.trans h.1, h'.2.trans h.2, h'.3.trans h.3, h'.4.trans h.4⟩

namespace EncodeM

theorem fileless_report (event : Event) : Keeps Fileless (report event : EncodeM σ Unit) :=
  fun context => (unwritten_report event context).fileless

theorem fileless_call (make : Session σ → Answer (Session σ) α) : Keeps Fileless (call make) := by
  intro context
  rw [run_call]
  exact ⟨rfl, rfl, rfl, rfl⟩

theorem fileless_demand (step : EncoderStep) (make : Session σ → Answer (Session σ) α) :
    Keeps Fileless (demand step make) :=
  .demand Fileless.onward (fileless_call make)

theorem fileless_allocatePool : Keeps Fileless (allocatePool : EncodeM σ SurfaceRequest) :=
  .allocatePool Fileless.onward (fun _ => fileless_demand _ _) fun _ _ => ⟨rfl, rfl, rfl, rfl⟩

theorem fileless_setUp : Keeps Fileless (setUp : EncodeM σ Unit) := by
  have opens : Keeps Fileless (openAccelerator : EncodeM σ Unit) :=
    .openAccelerator Fileless.onward (fun _ => fileless_demand _ _) fun _ _ => ⟨rfl, rfl, rfl, rfl⟩
  have negotiates : Keeps Fileless (negotiate : EncodeM σ Unit) :=
    .negotiate Fileless.onward fileless_report (fun _ => fileless_demand _ _)
      (fun _ _ => ⟨rfl, rfl, rfl, rfl⟩) fun _ => fileless_demand _ _
  exact .setUp Fileless.onward fileless_report opens negotiates fileless_allocatePool
    fun _ _ => ⟨rfl, rfl, rfl, rfl⟩

theorem fileless_nextSubmission (draining : Bool) :
    Keeps Fileless (nextSubmission draining :
      EncodeM σ (Except EncoderError SubmitStatus × Bool)) :=
  .nextSubmission Fileless.onward fileless_report
    (.readFrame Fileless.onward fun _ _ _ => ⟨rfl, rfl, rfl, rfl⟩) (fun _ => fileless_call _)
    draining

theorem fileless_applyDueChange : Keeps Fileless (applyDueChange : EncodeM σ Unit) := by
  have inputs : ∀ path, Keeps Fileless (changeInput path : EncodeM σ Unit) :=
    .changeInput Fileless.onward fun _ _ => ⟨rfl, rfl, rfl, rfl⟩
  refine .applyDueChange Fileless.onward inputs ?_
  exact .changeSize Fileless.onward fileless_report (fun _ _ => ⟨rfl, rfl, rfl, rfl⟩)
    (fun _ => fileless_call _) fileless_allocatePool fun _ => ⟨rfl, rfl, rfl, rfl⟩

/-- Closing the session creates no file, and the summary tells what was counted. -/
theorem finish_sums_up {reason : StopReason} {summary : EncodeSummary}
    (ran : (finish reason).run context = (.ok summary, last)) :
    summary.framesWritten = last.framesWritten ∧ summary.outputs = last.outputs ∧
      summary.stopReason = reason := by
  obtain ⟨_, _, _, ran⟩ := run_bind_eq_ok ran
  obtain ⟨_, _, _, ran⟩ := run_bind_eq_ok ran
  obtain ⟨_, closed, _, ran⟩ := run_bind_eq_ok ran
  rw [run_bind_ok (run_get closed)] at ran
  dsimp only at ran
  split at ran
  all_goals
    cases ran
    exact ⟨rfl, rfl, rfl⟩

theorem fileless_finish (reason : StopReason) :
    Keeps Fileless (finish reason : EncodeM σ EncodeSummary) :=
  .finish Fileless.onward fileless_report (fileless_demand _ _) reason

end EncodeM

/-! ## Where files lie -/

/-- All that was created are files of the first `created` frames, and each frame that is counted
has its path among the outputs. -/
structure Filed (first context : EncodeContext σ) (created : Nat) : Prop where
  options : context.options = first.options
  files : FileStore.ChangedAt (IsOutput first.options first.store created) context.store first.store
  outputs : context.outputs.length = context.framesWritten

namespace Filed

variable {created more : Nat}

theorem fileless (filed : Filed first context created) (fileless : Fileless context last) :
    Filed first last created where
  options := fileless.options.trans filed.options
  files := fileless.store ▸ filed.files
  outputs := by rw [fileless.outputs, fileless.framesWritten, filed.outputs]

theorem mono (filed : Filed first context created) (le : created ≤ more) :
    Filed first context more where
  options := filed.options
  files := filed.files.mono fun _ ⟨frame, one, before, leads⟩ =>
    ⟨frame, one, Nat.le_trans before le, leads⟩
  outputs := filed.outputs

/-- One more file at the path of the next frame. -/
theorem changed {location : Location} {next : FileStore} (filed : Filed first context created)
    (resolved : context.store.resolve (outputPath context.options (created + 1)) = .ok location)
    (changed : FileStore.ChangedAt (· = location) next context.store) :
    FileStore.ChangedAt (IsOutput first.options first.store (created + 1)) next first.store := by
  rw [filed.options, filed.files.resolve_iff] at resolved
  refine .trans (changed.mono ?_) (filed.mono (Nat.le_succ created)).files
  rintro _ rfl
  exact ⟨created + 1, Nat.succ_pos _, Nat.le_refl _, resolved⟩

end Filed

namespace EncodeM

/-- Writing a result creates the file of the next frame at most, whether it succeeds or fails. -/
theorem writeOutput_filed {outcome : Except (Failure EncodeError) Unit}
    (filed : Filed first context context.framesWritten)
    (ran : writeOutput.run context = (outcome, last)) :
    Filed first last (context.framesWritten + 1) ∧
      (outcome = .ok () → last.framesWritten = context.framesWritten + 1) := by
  obtain ⟨_, _, ended⟩ | ⟨_, _, ended⟩ | ⟨location, store, sink, bitstream, created, ended⟩ :=
    writeOutput_cases context
  · obtain ⟨rfl, rfl⟩ := Prod.mk.inj (ran.symm.trans ended)
    exact ⟨filed.mono (Nat.le_succ _), nofun⟩
  · obtain ⟨rfl, rfl⟩ := Prod.mk.inj (ran.symm.trans ended)
    exact ⟨filed.mono (Nat.le_succ _), nofun⟩
  obtain ⟨resolved, _, changed⟩ := FileStore.create_ok created sink.received
  have files := filed.changed resolved changed
  obtain ⟨_, _, ended⟩ | ⟨_, _, ended⟩ := ended
  · obtain ⟨rfl, rfl⟩ := Prod.mk.inj (ran.symm.trans ended)
    exact ⟨⟨filed.options, files, filed.outputs⟩, nofun⟩
  · obtain ⟨rfl, rfl⟩ := Prod.mk.inj (ran.symm.trans ended)
    refine ⟨⟨filed.options, files, ?_⟩, fun _ => rfl⟩
    exact List.length_append.trans (congrArg (· + 1) filed.outputs)

end EncodeM

/-! ## From step to step -/

/-- The reason to stop, if the loop does not go on. -/
def Progress.reason? : Progress → Option StopReason
  | .stop reason => some reason
  | .made | .stalled => none

theorem Progress.reason?_eq {progress : Progress} {reason : StopReason} :
    progress.reason? = some reason ↔ progress = .stop reason := by
  cases progress <;> simp [reason?]

/-- The reason to stop, if the loop does not go on. -/
def RoundEnd.reason? : RoundEnd → Option StopReason
  | .stop reason => some reason
  | .next _ => none

/-- The files are within the limit, which is reached exactly if it is the reason to stop. -/
structure Bounded (limit : UInt32) (first context : EncodeContext σ) (reason : Option StopReason) :
    Prop where
  filed : Filed first context context.framesWritten
  within : context.framesWritten ≤ max limit.toNat 1
  reached_iff : context.framesWritten = max limit.toNat 1 ↔ reason = some .frameLimit

namespace Bounded

variable {limit : UInt32} {reason : Option StopReason}

theorem start (empty : first.framesWritten = 0) (none : first.outputs = []) :
    Bounded limit first first .none where
  filed := ⟨rfl, .refl _, by rw [empty, none]; rfl⟩
  within := by omega
  reached_iff := by
    refine ⟨fun full => ?_, nofun⟩
    omega

theorem fileless {other : Option StopReason} (bounded : Bounded limit first context reason)
    (fileless : Fileless context last)
    (same : reason = some .frameLimit ↔ other = some .frameLimit) :
    Bounded limit first last other where
  filed := fileless.framesWritten ▸ bounded.filed.fileless fileless
  within := fileless.framesWritten ▸ bounded.within
  reached_iff := by rw [fileless.framesWritten, bounded.reached_iff, same]

/-- Whatever comes next, the files are within the limit. -/
theorem filed_limit (bounded : Bounded limit first context reason) :
    Filed first context (max limit.toNat 1) :=
  bounded.filed.mono bounded.within

/-- There is room for another frame while the loop goes on. -/
theorem lt (bounded : Bounded limit first context none) :
    context.framesWritten < max limit.toNat 1 := by
  refine Nat.lt_of_le_of_ne bounded.within fun full => ?_
  cases bounded.reached_iff.1 full

end Bounded

namespace EncodeM

variable {limit : UInt32}

/-- Writing a result leaves room for another frame, or reaches the limit and stops the loop. -/
theorem conclude_bounded {outcome : Except (Failure EncodeError) Progress}
    (limited : first.options.maxFrames = some limit) (bounded : Bounded limit first context none)
    (ran : conclude.run context = (outcome, last)) :
    Filed first last (max limit.toNat 1) ∧
      ∀ progress, outcome = .ok progress → Bounded limit first last progress.reason? := by
  have room : context.framesWritten + 1 ≤ max limit.toNat 1 := bounded.lt
  rcases run_bind_cases ran with ⟨_, written, wrote, ran⟩ | ⟨_, wrote, rfl⟩
  · obtain ⟨filed, count⟩ := writeOutput_filed bounded.filed wrote
    have count := count rfl
    rcases run_bind_cases ran with ⟨_, changed, due, ran⟩ | ⟨_, due, rfl⟩
    · have fileless := fileless_applyDueChange.of_run due
      have filed := filed.fileless fileless
      rw [run_bind_ok (run_get changed)] at ran
      obtain ⟨rfl, rfl⟩ := Prod.mk.inj ran
      refine ⟨filed.mono room, ?_⟩
      rintro _ ⟨⟩
      have count : changed.framesWritten = context.framesWritten + 1 :=
        fileless.framesWritten.trans count
      refine ⟨count ▸ filed, count ▸ room, ?_⟩
      have reached : limitReached changed = true ↔ changed.framesWritten = max limit.toNat 1 := by
        rw [limitReached, filed.options, limited, decide_eq_true_iff, count]
        omega
      rw [← reached]
      cases limitReached changed <;> decide
    · refine ⟨(filed.fileless (fileless_applyDueChange.of_run due)).mono room, ?_⟩
      rintro _ ⟨⟩
  · refine ⟨(writeOutput_filed bounded.filed wrote).1.mono room, ?_⟩
    rintro _ ⟨⟩

theorem complete_bounded {sync : SyncPoint} {outcome : Except (Failure EncodeError) Progress}
    (limited : first.options.maxFrames = some limit) (bounded : Bounded limit first context none)
    (ran : (complete sync).run context = (outcome, last)) :
    Filed first last (max limit.toNat 1) ∧
      ∀ progress, outcome = .ok progress → Bounded limit first last progress.reason? := by
  have waits : Keeps Fileless (synchronize sync : EncodeM σ Bool) :=
    .get_bind fun context => (unwritten_attemptSync _ _ _ context).fileless
  rw [complete_eq] at ran
  rcases run_bind_cases ran with ⟨found, waited, synced, ran⟩ | ⟨_, synced, rfl⟩
  · have bounded := bounded.fileless (waits.of_run synced) Iff.rfl
    cases found with
    | true => exact conclude_bounded limited bounded ran
    | false =>
      obtain ⟨rfl, rfl⟩ := Prod.mk.inj ran
      refine ⟨bounded.filed_limit, ?_⟩
      rintro _ ⟨⟩
      exact bounded
  · exact ⟨bounded.filed_limit.fileless (waits.of_run synced), nofun⟩

theorem settle_bounded {draining : Bool} {reply : Except EncoderError SubmitStatus}
    {outcome : Except (Failure EncodeError) Progress}
    (limited : first.options.maxFrames = some limit) (bounded : Bounded limit first context none)
    (ran : (settle draining reply).run context = (outcome, last)) :
    Filed first last (max limit.toNat 1) ∧
      ∀ progress, outcome = .ok progress → Bounded limit first last progress.reason? := by
  -- Only a frame that is written can reach the limit; all other replies are answered by a report
  -- at most.
  have unmoved : ∀ {progress}, outcome = .ok progress → progress ≠ .stop .frameLimit →
      Fileless context last → Filed first last (max limit.toNat 1) ∧
        ∀ progress, outcome = .ok progress → Bounded limit first last progress.reason? := by
    rintro progress rfl other fileless
    refine ⟨bounded.filed_limit.fileless fileless, ?_⟩
    rintro _ ⟨⟩
    exact bounded.fileless fileless ⟨nofun, fun same => absurd (Progress.reason?_eq.1 same) other⟩
  have same := Fileless.onward.refl context
  unfold settle at ran
  split at ran
  · exact complete_bounded limited bounded ran
  · obtain ⟨rfl, rfl⟩ := Prod.mk.inj ran
    exact unmoved rfl nofun same
  · obtain ⟨rfl, rfl⟩ := Prod.mk.inj ran
    cases draining <;> exact unmoved rfl nofun same
  all_goals
    obtain ⟨rfl, rfl⟩ := Prod.mk.inj ran
    exact unmoved rfl nofun (fileless_report _ context)

/-- The end of a round has the limit as its reason to stop only if the frame reached it. -/
theorem reason?_after (loop : LoopState) (policy : SyncPolicy) (draining : Bool)
    (progress : Progress) :
    progress.reason? = some .frameLimit ↔
      (loop.after policy draining progress).reason? = some .frameLimit := by
  cases progress with
  | stop reason => exact Iff.rfl
  | made => exact ⟨nofun, nofun⟩
  | stalled =>
    dsimp only [LoopState.after]
    split
    · split <;> exact ⟨nofun, nofun⟩
    · exact ⟨nofun, nofun⟩

/-- A round leaves room for another frame, or stops the loop. -/
theorem round_bounded {loop : LoopState} {outcome : Except (Failure EncodeError) RoundEnd}
    (limited : first.options.maxFrames = some limit) (bounded : Bounded limit first context none)
    (ran : (round loop).run context = (outcome, last)) :
    Filed first last (max limit.toNat 1) ∧
      ∀ result, outcome = .ok result → Bounded limit first last result.reason? := by
  rcases run_bind_cases ran with ⟨⟨reply, draining⟩, submitted, made, ran⟩ | ⟨_, made, rfl⟩
  · have bounded := bounded.fileless ((fileless_nextSubmission _).of_run made) Iff.rfl
    obtain ⟨result, settled, acted, unwritten, _, rfl⟩ := run_endRound_cases ran
    obtain ⟨filed, bounded⟩ := settle_bounded limited bounded acted
    refine ⟨filed.fileless unwritten.fileless, ?_⟩
    cases result with
    | error failure => nofun
    | ok progress =>
      rintro _ ⟨⟩
      exact (bounded progress rfl).fileless unwritten.fileless (reason?_after _ _ _ _)
  · exact ⟨bounded.filed_limit.fileless ((fileless_nextSubmission _).of_run made), nofun⟩

/-- All rounds together. The induction is on their number; between two of them there is room for
another frame. -/
theorem runRounds_bounded {rounds : Nat} {loop : LoopState}
    {outcome : Except (Failure EncodeError) StopReason}
    (limited : first.options.maxFrames = some limit) (bounded : Bounded limit first context none)
    (ran : (runRounds rounds loop).run context = (outcome, last)) :
    Filed first last (max limit.toNat 1) ∧
      ∀ reason, outcome = .ok reason → Bounded limit first last (some reason) := by
  induction rounds generalizing loop context with
  | zero =>
    obtain ⟨rfl, rfl⟩ := Prod.mk.inj ran
    exact ⟨bounded.filed_limit, nofun⟩
  | succ rounds ih =>
    rcases run_bind_cases ran with ⟨result, later, one, ran⟩ | ⟨_, one, rfl⟩
    · obtain ⟨filed, bounded⟩ := round_bounded limited bounded one
      have bounded := bounded result rfl
      cases result with
      | next loop' => exact ih bounded ran
      | stop reason =>
        obtain ⟨rfl, rfl⟩ := Prod.mk.inj ran
        refine ⟨filed, ?_⟩
        rintro _ ⟨⟩
        exact bounded
    · exact ⟨(round_bounded limited bounded one).1, nofun⟩

/-- A whole run: the summary tells the count and the reason that the loop has come to. -/
theorem wholeRun_bounded {outcome : Except (Failure EncodeError) EncodeSummary}
    (limited : first.options.maxFrames = some limit) (bounded : Bounded limit first context none)
    (ran : wholeRun.run context = (outcome, last)) :
    Filed first last (max limit.toNat 1) ∧
      ∀ summary, outcome = .ok summary → Bounded limit first last (some summary.stopReason) ∧
        summary.framesWritten = last.framesWritten ∧ summary.outputs = last.outputs := by
  rcases run_bind_cases ran with ⟨_, ready, up, ran⟩ | ⟨_, up, rfl⟩
  · have bounded := bounded.fileless (fileless_setUp.of_run up) Iff.rfl
    have loops : ∀ {outcome looped}, runLoop.run ready = (outcome, looped) →
        Filed first looped (max limit.toNat 1) ∧
          ∀ reason, outcome = .ok reason → Bounded limit first looped (some reason) := by
      intro outcome looped ran
      rw [runLoop, run_bind_ok (run_get ready)] at ran
      exact runRounds_bounded limited bounded ran
    rcases run_bind_cases ran with ⟨reason, looped, looping, ran⟩ | ⟨_, looping, rfl⟩
    · obtain ⟨filed, bounded⟩ := loops looping
      have fileless := (fileless_finish reason).of_run ran
      refine ⟨filed.fileless fileless, ?_⟩
      rintro summary rfl
      obtain ⟨count, outputs, stopped⟩ := finish_sums_up ran
      rw [stopped]
      exact ⟨(bounded reason rfl).fileless fileless Iff.rfl, count, outputs⟩
    · exact ⟨(loops looping).1, nofun⟩
  · exact ⟨bounded.filed_limit.fileless (fileless_setUp.of_run up), nofun⟩

end EncodeM

/-! ## Whole runs -/

/-- The places where the files of the first frames go. -/
def outputLocations (options : EncodeOptions) (store : FileStore) (frames : Nat) : List Location :=
  (List.range frames).filterMap fun k => (store.resolve (outputPath options (k + 1))).toOption

theorem mem_outputLocations {options : EncodeOptions} {store : FileStore} {frames : Nat}
    {location : Location} :
    location ∈ outputLocations options store frames ↔ IsOutput options store frames location := by
  rw [outputLocations, List.mem_filterMap]
  constructor
  · rintro ⟨k, within, leads⟩
    refine ⟨k + 1, Nat.succ_pos k, List.mem_range.1 within, ?_⟩
    cases resolved : store.resolve (outputPath options (k + 1)) with
    | error error =>
      rw [resolved] at leads
      cases leads
    | ok place =>
      rw [resolved] at leads
      exact congrArg Except.ok (Option.some.inj leads)
  · rintro ⟨frame, one, within, leads⟩
    refine ⟨frame - 1, List.mem_range.2 (by omega), ?_⟩
    rw [Nat.sub_add_cancel one, leads]
    rfl

/-- A run with a frame limit, on any encoder, leaves all places as they were but those of the
files of so many frames, or of one frame if the limit is none, whether it succeeds or fails. If it
succeeds it has written no more frames than that, and the limit is the reason to stop exactly if
it has written as many. -/
theorem frames_stay_within_limit {session : Session σ} {source : Source} {options : EncodeOptions}
    {store : FileStore} {log : Array Event} {limit : UInt32}
    (limited : options.maxFrames = some limit) {outcome : Attempt EncodeError EncodeSummary}
    (ran : (EncodeContext.start session source options store log).runToEnd = (outcome, last)) :
    (outputLocations options store (max limit.toNat 1)).length ≤ max limit.toNat 1 ∧
    (∀ location ∉ outputLocations options store (max limit.toNat 1),
      last.store.find? location = store.find? location) ∧
    ∀ summary, outcome = .ok summary →
      summary.framesWritten ≤ max limit.toNat 1 ∧
      summary.outputs.length = summary.framesWritten ∧
      (summary.framesWritten = max limit.toNat 1 ↔ summary.stopReason = .frameLimit) := by
  obtain ⟨rfl, rfl⟩ := Prod.mk.inj ran
  obtain ⟨filed, bounded⟩ := EncodeM.wholeRun_bounded limited (.start rfl rfl)
    (Prod.ext rfl rfl : EncodeM.wholeRun.run
      (EncodeContext.start session source options store log) = _)
  refine ⟨?_, fun location outside => ?_, fun summary done => ?_⟩
  · exact Nat.le_trans (List.length_filterMap_le _ _) (Nat.le_of_eq List.length_range)
  · exact filed.files.others location fun output => outside (mem_outputLocations.2 output)
  · obtain ⟨bounded, count, outputs⟩ := bounded summary done
    refine ⟨count ▸ bounded.within, ?_, ?_⟩
    · rw [outputs, count, bounded.filed.outputs]
    · rw [count, bounded.reached_iff, Option.some.injEq]

/-- A run on three frames, each of which is finished at once, with a frame limit. -/
def limitedToFrames (limit : UInt32) : EncodeContext ScriptedEncoder :=
  .start (.ofEncoder ScriptedEncoder.encoder { ScriptedEncoder.usual with
      query := [some (.ok fun params =>
        { params with frameInfo := ⟨⟨25, 1⟩, 0, 0, 1, 1, 2, 2⟩ })]
      sync := [some (.ok (.done #[1])), some (.ok (.done #[2])), some (.ok (.done #[3]))] })
    (.ofBytes (Array.replicate 9 7))
    { EncodeOptions.ofInput "" 1 1 with maxFrames := some limit } .empty #[]

/-- Two of the frames are written, and nothing else is. -/
theorem frames_stay_within_limit_of_two :
    ∃ summary last, (limitedToFrames 2).runToEnd = (.ok summary, last) ∧
      summary.framesWritten = 2 ∧ summary.stopReason = .frameLimit ∧
      ∀ location, location ≠ ["frame1.jpg"] → location ≠ ["frame2.jpg"] →
        last.store.find? location = FileStore.empty.find? location := by
  have done : (limitedToFrames 2).runToEnd.1 = .ok
      ⟨2, ["./frame1.jpg", "./frame2.jpg"], .frameLimit, ⟨⟨25, 1⟩, 0, 0, 1, 1, 2, 2⟩, 2, 0⟩ := by
    decide +kernel
  have ran : (limitedToFrames 2).runToEnd = (.ok _, (limitedToFrames 2).runToEnd.2) :=
    Prod.ext done rfl
  obtain ⟨-, untouched, counted⟩ := frames_stay_within_limit (rfl : _ = some (2 : UInt32)) ran
  obtain ⟨-, -, reached⟩ := counted _ rfl
  have places : outputLocations (limitedToFrames 2).options .empty 2
      = [["frame1.jpg"], ["frame2.jpg"]] := by decide +kernel
  refine ⟨_, _, ran, rfl, reached.1 rfl, fun location one two => ?_⟩
  refine untouched location fun listed => ?_
  have listed : location ∈ [["frame1.jpg"], ["frame2.jpg"]] := places ▸ listed
  simp [one, two] at listed

/-- With a limit of no frame, one is written all the same. -/
theorem limit_of_none_lets_one_through :
    ∃ summary, (limitedToFrames 0).runToEnd.1 = .ok summary ∧ ¬ summary.framesWritten ≤ 0 ∧
      (limitedToFrames 0).store.find? ["frame1.jpg"] = none ∧
      (limitedToFrames 0).runToEnd.2.store.find? ["frame1.jpg"] = some (.file #[1]) :=
  ⟨⟨1, ["./frame1.jpg"], .frameLimit, ⟨⟨25, 1⟩, 0, 0, 1, 1, 2, 2⟩, 2, 0⟩, by decide +kernel,
    by decide, by decide +kernel, by decide +kernel⟩

end Nv12Jpeg
