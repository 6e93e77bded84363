import Nv12Jpeg.Proofs.Encode.Deeds
import Nv12Jpeg.Proofs.Encode.Offers

/-!
# The protocol of calls

Which calls a run makes on its encoder, in which order, and where it stops making any, whatever the
encoder answers and whatever source and files do.

* `Stands` — a run that has come to a stage in deeds that follow each other, among them the calls of
  its session's record;
* `Leads` — steps of a run that are such deeds, `Leads.bind` puts them together;
* `EncodeM.leads_round` and `EncodeM.leads_runRounds` — one round, and all of them;
* `run_keeps_to_the_protocol` — a whole run, from its first deed to closing the encoder.
-/

namespace Nv12Jpeg

variable {σ α β : Type}

/-- What a run works on. -/
def EncodeContext.world (context : EncodeContext σ) : World :=
  ⟨context.source, context.store, context.pool, context.poolNumber, context.bitstream⟩

/-- What a run sets out from. -/
structure Outset (σ : Type) where
  encoder : Encoder σ
  options : EncodeOptions
  /-- How many submissions are made at most. -/
  limit : Nat
  first : Stage
  world : World

variable {outset : Outset σ}

/-! ## Steps that keep to the protocol -/

/-- The run has come to `stage` in a course of deeds. The calls among them are those that were
recorded, and the world they have left is the one that the run works on. -/
structure Stands (outset : Outset σ) (context : EncodeContext (σ × List Entry)) (stage : Stage) :
    Prop where
  encoder_eq : context.session.encoder = outset.encoder.recorded
  unclosed : context.session.closed = false
  options_eq : context.options = outset.options
  course : ∃ deeds, Course outset.options outset.first outset.world deeds stage context.world ∧
    context.session.record = deeds.filterMap Deed.entry?

/-- Steps with this outcome have come to a stage, with so many files written: if they succeeded,
`goal` holds of their value and where they have come; if they failed, the deeds may end there. -/
def Landed (limit : Nat) (goal : α → Stage → Nat → Prop) (stage : Stage) (count : Nat) :
    Except (Failure EncodeError) α → Prop
  | .ok value => goal value stage count
  | .error failure => stage.Ends limit (.error failure)

/-- From a stage, with so many files written, steps do deeds in order and come where `goal` says if
they succeed, and where the deeds may end if they fail. -/
def Leads (outset : Outset σ) (stage : Stage) (count : Nat) (steps : EncodeM (σ × List Entry) α)
    (goal : α → Stage → Nat → Prop) : Prop :=
  ∀ context last outcome, Stands outset context stage → context.framesWritten = count →
    steps.run context = (outcome, last) →
      ∃ stage', Stands outset last stage' ∧
        Landed outset.limit goal stage' last.framesWritten outcome

/-- Steps arrive at a stage, with so many files written, whatever their value is. -/
def Arrives (stage : Stage) (count : Nat) (_ : α) (stage' : Stage) (count' : Nat) : Prop :=
  stage' = stage ∧ count' = count

/-- Between two deeds: what a run works on, its record and its count of files are as they were. -/
structure StandsStill (earlier later : EncodeContext (σ × List Entry)) : Prop where
  session : later.session = earlier.session
  options_eq : later.options = earlier.options
  world : later.world = earlier.world
  written : later.framesWritten = earlier.framesWritten

section Steps

variable {stage stage' : Stage} {count : Nat} {context last : EncodeContext (σ × List Entry)}

namespace Stands

theorem still (h : Stands outset context stage) (same : StandsStill context last) :
    Stands outset last stage where
  encoder_eq := same.session ▸ h.encoder_eq
  unclosed := same.session ▸ h.unclosed
  options_eq := same.options_eq.trans h.options_eq
  course := by
    rw [same.world, same.session]
    exact h.course

/-- A deed that is no call. -/
theorem deed {deed : Deed} (h : Stands outset context stage)
    (does : context.world.Does deed last.world) (silent : deed.entry? = none)
    (moves : stage.next outset.options deed = some stage')
    (session : last.session = context.session) (options_eq : last.options = context.options) :
    Stands outset last stage' where
  encoder_eq := session ▸ h.encoder_eq
  unclosed := session ▸ h.unclosed
  options_eq := options_eq.trans h.options_eq
  course := by
    obtain ⟨deeds, course, record_eq⟩ := h.course
    refine ⟨_, course.step moves does, ?_⟩
    rw [session, record_eq, List.filterMap_append, List.filterMap_cons, silent, List.filterMap_nil,
      List.append_nil]

/-- A call that may be made. -/
theorem call {answer : Answer (Session (σ × List Entry)) α} {entry : Entry}
    (h : Stands outset context stage) (noted : answer.Records context.session [entry])
    (moves : stage.call outset.options entry.turn = some stage')
    (given : context.world.Gives entry) (session : last.session = answer.state)
    (options_eq : last.options = context.options)
    (world : last.world = context.world.book entry) : Stands outset last stage' where
  encoder_eq := session ▸ noted.encoder_eq.trans h.encoder_eq
  unclosed := session ▸ noted.closed_eq.trans h.unclosed
  options_eq := options_eq.trans h.options_eq
  course := by
    obtain ⟨deeds, course, record_eq⟩ := h.course
    have does : context.world.Does (.call entry) last.world := by
      rw [world]
      exact .call given
    have moves : stage.next outset.options (.call entry) = some stage' := moves
    refine ⟨_, course.step moves does, ?_⟩
    rw [session, noted.record_eq, record_eq, List.filterMap_append]
    rfl

/-- Plain calls that may be made one after the other. -/
theorem book {answer : Answer (Session (σ × List Entry)) α} {entries : List Entry}
    (h : Stands outset context stage) (noted : answer.Records context.session entries)
    (plain : ∀ entry ∈ entries, entry.IsPlain)
    (moves : (entries.map Entry.turn).foldlM (Stage.call outset.options) stage = some stage') :
    Stands outset (context.book answer) stage' where
  encoder_eq := noted.encoder_eq.trans h.encoder_eq
  unclosed := noted.closed_eq.trans h.unclosed
  options_eq := h.options_eq
  course := by
    obtain ⟨deeds, course, record_eq⟩ := h.course
    have world : (context.book answer).world
        = context.world.guard (entries.flatMap Entry.locks) := by
      rw [← noted.locks_eq]
      rfl
    have calls : (entries.map Deed.call).filterMap Deed.entry? = entries := by
      rw [List.filterMap_map]
      exact List.filterMap_some
    refine ⟨_, world ▸ course.calls plain moves, ?_⟩
    rw [List.filterMap_append, calls, ← record_eq]
    exact noted.record_eq

/-- One plain call. -/
theorem plain {answer : Answer (Session (σ × List Entry)) α} {entry : Entry}
    (h : Stands outset context stage) (noted : answer.Records context.session [entry])
    (plain : entry.IsPlain) (moves : stage.call outset.options entry.turn = some stage') :
    Stands outset (context.book answer) stage' :=
  h.book noted (List.forall_mem_singleton.2 plain) (by simp [moves])

end Stands

namespace Leads

open EncodeM

variable {goal : α → Stage → Nat → Prop} {goal' : β → Stage → Nat → Prop}

theorem pure {value : α} (holds : goal value stage count) :
    Leads outset stage count (Pure.pure value) goal := by
  rintro context last outcome stands rfl ran
  cases ran
  exact ⟨stage, stands, holds⟩

theorem throw {failure : Failure EncodeError} (ends : stage.Ends outset.limit (.error failure)) :
    Leads outset stage count (MonadExcept.throw failure) goal := by
  rintro context last outcome stands rfl ran
  cases ran
  exact ⟨stage, stands, ends⟩

theorem bind {first : EncodeM (σ × List Entry) α} {next : α → EncodeM (σ × List Entry) β}
    (h : Leads outset stage count first goal)
    (h' : ∀ value stage' count', goal value stage' count' →
      Leads outset stage' count' (next value) goal') :
    Leads outset stage count (first >>= next) goal' := by
  intro context last outcome stands counted ran
  rcases run_bind_cases ran with ⟨value, later, done, rest⟩ | ⟨failure, failed, rfl⟩
  · obtain ⟨stage', stands, holds⟩ := h _ _ _ stands counted done
    exact h' value stage' _ holds _ _ _ stands rfl rest
  · exact h _ _ _ stands counted failed

/-- Steps that depend on the state. -/
theorem get_bind {next : EncodeContext (σ × List Entry) → EncodeM (σ × List Entry) α}
    (h : ∀ context, context.options = outset.options → context.framesWritten = count →
      Leads outset stage count (next context) goal) :
    Leads outset stage count (get >>= next) goal := by
  intro context last outcome stands counted ran
  rw [run_bind_ok (run_get context)] at ran
  exact h context stands.options_eq counted _ _ _ stands counted ran

/-- A change of the state that is no deed. -/
theorem modify_bind {change : EncodeContext (σ × List Entry) → EncodeContext (σ × List Entry)}
    {next : PUnit → EncodeM (σ × List Entry) α}
    (same : ∀ context, StandsStill context (change context))
    (h : Leads outset stage count (next ⟨⟩) goal) :
    Leads outset stage count (modify change >>= next) goal := by
  intro context last outcome stands counted ran
  rw [run_bind_ok (run_modify change context)] at ran
  exact h _ _ _ (stands.still (same context)) ((same context).written.trans counted) ran

theorem modify {change : EncodeContext (σ × List Entry) → EncodeContext (σ × List Entry)}
    {goal : PUnit → Stage → Nat → Prop}
    (same : ∀ context, StandsStill context (change context)) (holds : goal ⟨⟩ stage count) :
    Leads outset stage count (modify change) goal := by
  rintro context last outcome stands rfl ran
  cases ran
  exact ⟨stage, stands.still (same context), (same context).written.symm ▸ holds⟩

theorem report_bind {event : Event} {next : Unit → EncodeM (σ × List Entry) α}
    (h : Leads outset stage count (next ()) goal) :
    Leads outset stage count (report event >>= next) goal :=
  @modify_bind _ _ _ _ _ _ (·.report event) _ (fun _ => ⟨rfl, rfl, rfl, rfl⟩) h

/-- A plain call without which the run cannot go on. -/
theorem demand {make : Session (σ × List Entry) → Answer (Session (σ × List Entry)) α}
    {turn : Attempt EncoderError α → Turn} {step : EncoderStep}
    (notes : ∀ session, session.encoder = outset.encoder.recorded →
      (make session).Records session [⟨turn (make session).reply, (make session).locks, none⟩])
    (plain : ∀ reply locks, Entry.IsPlain ⟨turn reply, locks, none⟩)
    (moves : ∀ reply, stage.call outset.options (turn reply) = some (.after step stage' reply)) :
    Leads outset stage count (EncodeM.demand step make) (Arrives stage' count) := by
  rintro context last outcome stands rfl ran
  rw [run_demand] at ran
  obtain ⟨rfl, rfl⟩ := Prod.mk.inj ran
  refine ⟨_, stands.plain (notes _ stands.encoder_eq) (plain _ _) (moves _), ?_⟩
  obtain (_ | _) | value := (make context.session).reply
  · exact .cut _
  · exact .cut _
  · exact ⟨rfl, rfl⟩

end Leads

/-! ## Set-up -/

namespace EncodeM

theorem leads_negotiate : Leads outset .asking count negotiate (Arrives .initialized count) := by
  -- The encoder is initialized with what was agreed on, whether that was reported or not.
  have initializes : ∀ params, Leads outset .agreed count
      (demand .init (Session.init params) >>= fun _ => report .initializationTimed)
      (Arrives .initialized count) := by
    intro params
    refine (Leads.demand (fun session same => Session.records_init same _)
      (fun _ _ _ => .call ⟨nofun, nofun⟩) fun _ => rfl).bind ?_
    rintro _ _ _ ⟨rfl, rfl⟩
    exact .report_bind (.pure ⟨rfl, rfl⟩)
  refine .get_bind fun context _ _ => ?_
  refine (Leads.demand (fun session same => Session.records_query same _)
    (fun _ _ _ => .call ⟨nofun, nofun⟩) fun _ => rfl).bind ?_
  rintro ⟨outcome, params⟩ _ _ ⟨rfl, rfl⟩
  refine .modify_bind (fun _ => ⟨rfl, rfl, rfl, rfl⟩) ?_
  dsimp only
  split
  · exact .report_bind (initializes params)
  · exact initializes params

/-- Surfaces are allocated as they are asked for. -/
theorem leads_allocatePool (moves : ∀ params reply,
      stage.call outset.options (.surfaceRequest params reply)
        = some (.after .surfaceRequest stage' reply)) :
    Leads outset stage count allocatePool (Arrives stage' count) := by
  rintro context last outcome stands rfl ran
  have noted := Session.records_surfaceRequest stands.encoder_eq context.params
  rw [allocatePool, run_bind_ok (run_get context), run_bind, run_demand] at ran
  -- The call is booked together with the surfaces that are made for its reply.
  cases answered : (context.session.surfaceRequest context.params).reply with
  | ok request =>
    rw [answered] at ran noted
    cases ran
    refine ⟨_, stands.call noted (moves _ _) ⟨nofun, nofun⟩ rfl rfl ?_, rfl, rfl⟩
    rfl
  | error failure =>
    rw [answered] at ran noted
    have called := stands.plain noted (fun _ => .call ⟨nofun, nofun⟩) (moves _ _)
    cases failure <;> cases ran
    · exact ⟨_, called, .cut _⟩
    · exact ⟨_, called, .cut _⟩

theorem leads_attach (accelerator : Accelerator) :
    Leads outset (.opened accelerator) count
      (do
        demand .attachAccelerator (Session.attach accelerator)
        modify fun context => { context with accelerator := some accelerator })
      (Arrives .asking count) := by
  have moves : ∀ reply, Stage.call outset.options (.opened accelerator) (.attach accelerator reply)
      = some (.after .attachAccelerator .asking reply) := fun _ => if_pos rfl
  refine (Leads.demand (fun session same => Session.records_attach same _)
    (fun _ _ _ => .call ⟨nofun, nofun⟩) moves).bind ?_
  rintro _ _ _ ⟨rfl, rfl⟩
  exact .modify (fun _ => ⟨rfl, rfl, rfl, rfl⟩) ⟨rfl, rfl⟩

/-- A device that was opened is handed over. -/
theorem openAccelerator_stands {outcome : Except (Failure EncodeError) Unit}
    (stands : Stands outset context (.opening context.session.implementation.acceleration))
    (ran : openAccelerator.run context = (outcome, last)) :
    ∃ stage', Stands outset last stage' ∧
      Landed outset.limit (Arrives .asking context.framesWritten) stage' last.framesWritten
        outcome := by
  have opens : Stands outset context (.afterDevice
      (Accelerator.openFor context.store context.session.implementation.acceleration)) :=
    stands.deed (.openDevice _) rfl (if_pos rfl) rfl rfl
  rw [openAccelerator, run_bind_ok (run_get context)] at ran
  cases opened : Accelerator.openFor context.store context.session.implementation.acceleration with
  | error error =>
    rw [opened] at ran opens
    cases ran
    exact ⟨_, opens, .cut _⟩
  | ok device =>
    rw [opened] at ran opens
    cases device with
    | none =>
      cases ran
      exact ⟨_, opens, rfl, rfl⟩
    | some accelerator => exact leads_attach accelerator _ _ _ opens rfl ran

/-- The output buffer is allocated if that is possible. -/
theorem leads_allocate {next : EncodeM (σ × List Entry) α} {goal : α → Stage → Nat → Prop}
    (h : Leads outset (.resting .start) count next goal) :
    Leads outset .supplied count (do
      let bitstream ← ofFault (Bitstream.allocate outset.options.bitstreamCapacity)
      modify fun context => { context with bitstream }
      next) goal := by
  intro context last outcome stands counted ran
  cases sized : Bitstream.allocate outset.options.bitstreamCapacity with
  | error fault =>
    rw [sized] at ran
    cases ran
    exact ⟨_, stands.deed (.unallocated sized) rfl (if_pos rfl) rfl rfl, .cut _⟩
  | ok bitstream =>
    rw [sized] at ran
    have allocated : Stands outset { context with bitstream } (.resting .start) :=
      stands.deed (.allocated sized) rfl (if_pos rfl) rfl rfl
    exact h _ _ _ allocated counted ran

theorem setUp_stands {outcome : Except (Failure EncodeError) Unit}
    (stands : Stands outset context (.opening context.session.implementation.acceleration))
    (ran : setUp.run context = (outcome, last)) :
    ∃ stage', Stands outset last stage' ∧
      Landed outset.limit (Arrives (.resting .start) context.framesWritten) stage'
        last.framesWritten outcome := by
  rw [setUp, run_bind_ok (run_get context), run_bind_ok (run_report _ context)] at ran
  have reported : Stands outset
      (context.report (.implementationInUse context.session.implementation))
      (.opening context.session.implementation.acceleration) := stands.still ⟨rfl, rfl, rfl, rfl⟩
  rcases run_bind_cases ran with ⟨_, opened, done, rest⟩ | ⟨failure, failed, rfl⟩
  · obtain ⟨_, stands, rfl, counted⟩ := openAccelerator_stands reported done
    refine Leads.bind leads_negotiate ?_ _ _ _ stands counted rest
    rintro _ _ _ ⟨rfl, rfl⟩
    refine (leads_allocatePool fun _ _ => rfl).bind ?_
    rintro request _ _ ⟨rfl, rfl⟩
    refine .get_bind fun _ options_eq _ => ?_
    rw [options_eq]
    refine leads_allocate (.get_bind fun _ _ _ => ?_)
    exact .modify (fun _ => ⟨rfl, rfl, rfl, rfl⟩) ⟨rfl, rfl⟩
  · exact openAccelerator_stands reported failed

/-! ## Rounds -/

theorem search_stands {tally : Tally} (stands : Stands outset context (.resting tally))
    (more : tally.draining = false) :
    Stands outset context (.afterSearch tally context.pool.size context.pool.findFree) := by
  refine stands.deed .search rfl ?_ rfl rfl
  show (if tally.draining then none else _) = _
  rw [more]
  rfl

/-- What comes before a submission are deeds, too: looking for a surface and filling it. -/
theorem Offers.submits {tally : Tally} {submission : Option Submission}
    {ready : EncodeContext (σ × List Entry)}
    (offers : Offers tally.draining context submission ready)
    (stands : Stands outset context (.resting tally)) :
    Stands outset (ready.book (ready.session.submit submission))
      (.afterSubmit outset.options (tally.submitted submission.isNone)
        (ready.session.submit submission).reply) := by
  obtain ⟨⟨draining, stalled⟩, written, rounds⟩ := tally
  cases offers with
  | flush =>
    have noted := Session.records_submit stands.encoder_eq none
    exact stands.plain noted (fun _ => .call ⟨nofun, nofun⟩) rfl
  | @frame _ index pool source surface free read shown =>
    have searched := search_stands stands rfl
    rw [free] at searched
    have filled : Stands outset { context with pool, source }
        (.filled ⟨⟨false, stalled⟩, written, rounds⟩ index) :=
      searched.deed (.read read) rfl (if_pos rfl) rfl rfl
    have noted := Session.records_submit filled.encoder_eq
      (some ⟨⟨context.poolNumber, index⟩, surface⟩)
    refine filled.call noted (if_pos rfl) ⟨nofun, ?_⟩ rfl rfl rfl
    rintro _ ⟨⟩
    exact ⟨rfl, shown⟩
  | @ended _ index pool source free read =>
    have searched := search_stands stands rfl
    rw [free] at searched
    have ended : Stands outset ({ context with pool, source }.report .inputEnded)
        (.resting ⟨⟨true, stalled⟩, written, rounds⟩) :=
      searched.deed (.read read) rfl (if_pos rfl) rfl rfl
    have noted := Session.records_submit ended.encoder_eq none
    exact ended.plain noted (fun _ => .call ⟨nofun, nofun⟩) rfl

theorem leads_nextSubmission {tally : Tally} :
    Leads outset (.resting tally) count (nextSubmission tally.draining) fun made stage' count' =>
      stage' = .afterSubmit outset.options (tally.submitted made.2) (.ofError made.1) ∧
        count' = count := by
  rintro context last outcome stands rfl ran
  -- Something is submitted, or the run fails before that.
  obtain ⟨submission, ready, offers, made⟩ | ⟨failure, later, reads, unoffered, _, failed⟩ :=
    nextSubmission_cases tally.draining context
  · have submits := offers.submits stands
    rw [made] at ran
    obtain ⟨rfl, rfl⟩ := Prod.mk.inj ran
    refine ⟨_, submits, ?_⟩
    obtain (_ | _) | status := (ready.session.submit submission).reply
    · exact ⟨rfl, offers.unchanged.2.2⟩
    · exact .cut _
    · exact ⟨rfl, offers.unchanged.2.2⟩
  · rw [failed] at ran
    cases ran
    have searched := search_stands stands reads
    cases unoffered with
    | noFreeSurface used =>
      rw [used] at searched
      exact ⟨_, searched, .cut _⟩
    | fault free stopped =>
      rw [free] at searched
      exact ⟨_, searched.deed (.unread stopped) rfl (if_pos rfl) rfl rfl, .cut _⟩
    | unread free read =>
      rw [free] at searched
      exact ⟨_, searched.deed (.read read) rfl (if_pos rfl) rfl rfl, .cut _⟩

section Waiting

variable {tally : Tally} {sync : SyncPoint}

/-- One attempt at collecting a result. What is done with the output buffer is up to the reply. -/
theorem sync_stands {attempts : Nat} {reply : Attempt EncoderError SyncStatus}
    (stands : Stands outset context (.waiting tally sync attempts))
    (replied : (context.session.sync sync context.options.sync.waitMs context.bitstream).1.reply
      = reply)
    (session : last.session = (afterSync sync context).session)
    (options_eq : last.options = context.options)
    (world : last.world = context.world.book ⟨.sync sync context.options.sync.waitMs reply,
      (context.session.sync sync context.options.sync.waitMs context.bitstream).1.locks,
      some (context.bitstream,
        (context.session.sync sync context.options.sync.waitMs context.bitstream).2)⟩) :
    Stands outset last (.afterSync outset.options tally sync attempts reply) := by
  have noted := Session.records_sync stands.encoder_eq sync context.options.sync.waitMs
    context.bitstream
  rw [replied] at noted
  refine stands.call noted (if_pos rfl) ⟨?_, nofun⟩ session options_eq world
  rintro _ _ ⟨⟩
  rfl

/-- All attempts at collecting a result. The induction is on those that are left. -/
theorem leads_attemptSync {left attempts : Nat}
    (all : attempts + left = outset.options.sync.attempts) :
    Leads outset (.await outset.options tally sync attempts) count
      (attemptSync sync left (attempts + 1)) fun found stage' count' =>
        (stage' = if found then .collect tally else .forward tally) ∧ count' = count := by
  induction left generalizing attempts count with
  | zero =>
    rw [Nat.add_zero] at all
    rw [Stage.await, if_neg (Nat.not_lt_of_le (Nat.le_of_eq all.symm))]
    exact .throw (.cut _)
  | succ left ih =>
    rw [Stage.await, if_pos (by omega)]
    rintro context last outcome stands rfl ran
    rw [attemptSync, run_bind, run_syncOnce] at ran
    -- one attempt, which settles the matter or leaves it to the others
    cases replied :
      (context.session.sync sync context.options.sync.waitMs context.bitstream).1.reply with
    | ok status =>
      rw [replied] at ran
      cases status with
      | done =>
        cases ran
        exact ⟨_, sync_stands stands replied rfl rfl rfl, rfl, rfl⟩
      | inExecution =>
        refine Leads.report_bind (ih ?_) _ _ _ (sync_stands stands replied rfl rfl rfl) rfl ran
        omega
    | error failure =>
      rw [replied] at ran
      cases failure with
      | fault fault =>
        cases ran
        exact ⟨_, sync_stands stands replied rfl rfl rfl, .cut _⟩
      | error error =>
        cases error with
        | notEnoughBuffer needed available =>
          cases ran
          exact ⟨_, sync_stands stands replied rfl rfl rfl, rfl, rfl⟩
        | _ =>
          cases ran
          exact ⟨_, sync_stands stands replied rfl rfl rfl, .cut _⟩

end Waiting

section Completing

variable {tally : Tally} {change : ResolutionChange}

/-- A file is created and the result written to it, if there is a number for the file. -/
theorem leads_writeOutput (written : tally.written = count) :
    Leads outset (.collect tally) count writeOutput
      (Arrives (.filed outset.options tally.filed) (count + 1)) := by
  rintro context last outcome stands rfl ran
  rw [Stage.collect, written] at stands
  cases counted : nextFrame context.framesWritten with
  | error fault =>
    rw [counted] at stands
    rw [writeOutput, run_bind_ok (run_get context), counted] at ran
    cases ran
    exact ⟨_, stands, .cut _⟩
  | ok frame =>
  rw [counted] at stands
  have path_eq : outputPath context.options (context.framesWritten + 1)
      = outputPath outset.options (tally.written + 1) := by
    rw [stands.options_eq, written]
  -- The file cannot be created, or it was, and a part of the result or all of it was written to it.
  obtain ⟨fault, uncounted, _⟩ | ⟨error, refused, ended⟩ |
      ⟨location, store, sink, bitstream, created, wrote⟩ := writeOutput_cases context
  · rw [counted] at uncounted
    cases uncounted
  · rw [ended] at ran
    cases ran
    exact ⟨_, stands.deed (.uncreated refused) rfl (if_pos path_eq) rfl rfl, .cut _⟩
  · have creates : Stands outset { context with store } (.writing tally location) :=
      stands.deed (.created created) rfl (if_pos path_eq) rfl rfl
    obtain ⟨error, wrote, ended⟩ | ⟨bytes, wrote, ended⟩ := wrote
    all_goals
      rw [ended] at ran
      cases ran
    · refine ⟨_, creates.deed (.write wrote) rfl (if_pos rfl) rfl rfl, ?_⟩
      rw [path_eq]
      exact .cut _
    · exact ⟨_, creates.deed (.write wrote) rfl (if_pos rfl) rfl rfl, rfl, rfl⟩

/-- The two calls of a reset. -/
theorem leads_resetResolution (params : EncodeParams) :
    Leads outset (.resizing tally change) count (call (Session.resetResolution params))
      fun reply stage' count' => count' = count ∧
        ((reply = .ok true ∧ stage' = .replaced tally) ∨
          (reply = .ok false ∧
            stage' = .cut (.error (.resetFailed change.width change.height)))) := by
  rintro context last outcome stands rfl ran
  rw [run_call] at ran
  obtain ⟨rfl, rfl⟩ := Prod.mk.inj ran
  have plain : ∀ reply locks, Entry.IsPlain ⟨.currentParams reply, locks, none⟩ :=
    fun _ _ _ => .call ⟨nofun, nofun⟩
  have plain' : ∀ reply locks, Entry.IsPlain ⟨.reset params reply, locks, none⟩ :=
    fun _ _ _ => .call ⟨nofun, nofun⟩
  -- the first call fails, the second one does, or none
  obtain ⟨failure, noted, told⟩ | ⟨current, ⟨failure, noted, told⟩ | ⟨noted, told⟩⟩ :=
    Session.resetResolution_cases stands.encoder_eq params
  all_goals rw [told]
  · refine ⟨_, stands.plain noted (plain _ _) rfl, ?_⟩
    cases failure with
    | error error => exact ⟨rfl, .inr ⟨rfl, rfl⟩⟩
    | fault fault => exact .cut _
  · refine ⟨_, stands.book noted ?_ rfl, ?_⟩
    · exact List.forall_mem_cons.2 ⟨plain _ _, List.forall_mem_singleton.2 (plain' _ _)⟩
    · cases failure with
      | error error => exact ⟨rfl, .inr ⟨rfl, rfl⟩⟩
      | fault fault => exact .cut _
  · refine ⟨_, stands.book noted ?_ rfl, rfl, .inl ⟨rfl, rfl⟩⟩
    exact List.forall_mem_cons.2 ⟨plain _ _, List.forall_mem_singleton.2 (plain' _ _)⟩

theorem leads_changeSize :
    Leads outset (.resizing tally change) count (changeSize change.width change.height)
      (Arrives (.settled outset.options tally) count) := by
  refine .modify_bind (fun _ => ⟨rfl, rfl, rfl, rfl⟩) ?_
  refine .get_bind fun context _ _ => (leads_resetResolution _).bind ?_
  rintro _ _ _ ⟨rfl, ⟨rfl, rfl⟩ | ⟨rfl, rfl⟩⟩
  · refine (leads_allocatePool fun _ _ => rfl).bind ?_
    rintro request _ _ ⟨rfl, rfl⟩
    refine .modify_bind (fun _ => ⟨rfl, rfl, rfl, rfl⟩) ?_
    exact .get_bind fun _ _ _ =>
      .modify (fun _ => ⟨rfl, rfl, rfl, rfl⟩) ⟨rfl, rfl⟩
  · exact .throw (.cut _)

/-- The input of a resolution change is opened. -/
theorem leads_changeInput {path : String} :
    Leads outset (.switching tally change path) count (changeInput path)
      (Arrives (.resizing tally change) count) := by
  rintro context last outcome stands rfl ran
  rw [changeInput, run_bind_ok (run_get context)] at ran
  cases opened : Source.openFile context.store path with
  | error error =>
    rw [opened] at ran
    cases ran
    exact ⟨_, stands.deed (.unopened opened) rfl (if_pos rfl) rfl rfl, .cut _⟩
  | ok source =>
    rw [opened] at ran
    cases ran
    exact ⟨_, stands.deed (.opened opened) rfl (if_pos rfl) rfl rfl, rfl, rfl⟩

/-- What is due with a file written is done, which may be nothing. -/
theorem leads_applyDueChange (written : tally.written = count) :
    Leads outset (.filed outset.options tally) count applyDueChange
      (Arrives (.settled outset.options tally) count) := by
  refine .get_bind fun context options_eq counted => ?_
  rw [options_eq, counted, ← written, Stage.filed]
  cases asked : outset.options.resolutionChange with
  | none =>
    rw [EncodeOptions.dueChange?, asked]
    exact .pure ⟨rfl, rfl⟩
  | some change =>
    have due_eq : outset.options.dueChange? tally.written
        = if change.afterFrames.toNat = tally.written then some change else none := by
      simp [EncodeOptions.dueChange?, asked, Option.filter]
    rw [due_eq]
    dsimp only
    by_cases due : change.afterFrames.toNat = tally.written
    · rw [if_pos due, if_pos due]
      dsimp only
      unfold applyChange
      cases change.input with
      | none => exact leads_changeSize
      | some path =>
        refine leads_changeInput.bind ?_
        rintro _ _ _ ⟨rfl, rfl⟩
        exact leads_changeSize
    · rw [if_neg due, if_neg due]
      exact .pure ⟨rfl, rfl⟩

/-- What a run stands at after a submission was acted upon. -/
def Settled (options : EncodeOptions) (tally : Tally) (progress : Progress) (stage : Stage)
    (count : Nat) : Prop :=
  match progress with
  | .made => stage = .forward { tally with written := count }
  | .stalled => stage = .stall options { tally with written := count }
  | .stop reason => stage = .finished reason

theorem leads_complete {sync : SyncPoint} (written : tally.written = count) :
    Leads outset (.await outset.options tally sync 0) count (complete sync)
      (Settled outset.options tally) := by
  subst written
  have waits : Leads outset (.await outset.options tally sync 0) tally.written (synchronize sync)
      fun found stage' count' => (stage' = if found then .collect tally else .forward tally) ∧
        count' = tally.written :=
    .get_bind fun context options_eq _ => leads_attemptSync (by rw [options_eq, Nat.zero_add])
  refine waits.bind ?_
  rintro found _ _ ⟨rfl, rfl⟩
  cases found with
  | false => exact .pure rfl
  | true =>
    refine (leads_writeOutput rfl).bind ?_
    rintro _ _ _ ⟨rfl, rfl⟩
    refine (leads_applyDueChange rfl).bind ?_
    rintro _ _ _ ⟨rfl, rfl⟩
    refine .get_bind fun context options_eq counted => .pure ?_
    have reached : limitReached context
        = outset.options.maxFrames.any fun limit => limit.toNat ≤ tally.filed.written := by
      rw [limitReached, options_eq, counted]
      cases outset.options.maxFrames <;> rfl
    rw [Stage.settled, reached]
    cases outset.options.maxFrames.any fun limit => limit.toNat ≤ tally.filed.written <;> rfl

/-- Acting on the reply to a submission. -/
theorem leads_settle (written : tally.written = count)
    (reply : Except EncoderError SubmitStatus) :
    Leads outset (.afterSubmit outset.options tally (.ofError reply)) count
      (settle tally.draining reply) (Settled outset.options tally) := by
  subst written
  cases reply with
  | ok status =>
    cases status with
    | moreData =>
      obtain ⟨⟨draining, _⟩, _, _⟩ := tally
      cases draining with
      | true => exact .pure rfl
      | false => exact .pure rfl
    | queued sync =>
      cases sync with
      | some sync => exact leads_complete rfl
      | none => exact .pure rfl
  | error error =>
    cases error with
    | notEnoughBuffer needed available => exact .report_bind (.pure rfl)
    | deviceLost detail => exact .report_bind (.pure rfl)
    | temporaryBackpressure detail => exact .report_bind (.pure rfl)
    | _ => exact .report_bind (.pure rfl)

/-- Where a run stands after so many rounds. -/
def Rounded (rounds : Nat) (result : RoundEnd) (stage : Stage) (count : Nat) : Prop :=
  match result with
  | .next loop => stage = .resting ⟨loop, count, rounds⟩
  | .stop reason => stage = .finished reason

theorem leads_endRound {loop : LoopState} {progress : Progress}
    (stalled : tally.stalled = loop.stalled)
    (settled : Settled outset.options tally progress stage count) :
    Leads outset stage count (endRound loop tally.draining progress) (Rounded tally.rounds) := by
  obtain ⟨⟨draining, _⟩, written, rounds⟩ := tally
  subst stalled
  cases progress with
  | stop reason => exact .pure settled
  | made =>
    obtain rfl := settled
    cases draining with
    | false => exact .pure rfl
    | true =>
      -- A flush that made progress is none of those that did not.
      refine .get_bind fun context options_eq _ => ?_
      have positive : 0 < outset.options.sync.attempts := Nat.le_max_right _ _
      rw [options_eq, if_neg (by simpa using Nat.pos_iff_ne_zero.1 positive)]
      exact .pure rfl
  | stalled =>
    obtain rfl := settled
    cases draining with
    | false => exact .pure rfl
    | true =>
      refine .get_bind fun context options_eq _ => ?_
      rw [options_eq, if_pos rfl, Stage.stall, if_pos rfl]
      by_cases enough : outset.options.sync.attempts ≤ loop.stalled + 1
      · rw [if_pos enough, if_pos enough]
        exact .report_bind (.pure rfl)
      · rw [if_neg enough, if_neg enough]
        exact .pure rfl

theorem leads_round {loop : LoopState} {rounds : Nat} :
    Leads outset (.resting ⟨loop, count, rounds⟩) count (round loop) (Rounded (rounds + 1)) := by
  refine leads_nextSubmission.bind ?_
  rintro ⟨reply, draining⟩ _ _ ⟨rfl, rfl⟩
  exact (leads_settle rfl reply).bind fun progress stage' count' settled =>
    leads_endRound rfl settled

/-- A number of rounds, by induction on it: each starts where the one before has come. -/
theorem leads_runRounds {left rounds : Nat} {loop : LoopState}
    (all : rounds + left = outset.limit) :
    Leads outset (.resting ⟨loop, count, rounds⟩) count (runRounds left loop) fun reason stage' _ =>
      stage' = .finished reason := by
  induction left generalizing rounds count loop with
  | zero => exact .throw (.unfinished all)
  | succ left ih =>
    refine leads_round.bind ?_
    intro result stage' count' rounded
    cases result with
    | next loop =>
      obtain rfl := rounded
      exact ih (by omega)
    | stop reason => exact .pure rounded

end Completing

end EncodeM

end Steps

/-! ## Whole runs -/

/-- What comes of a run whose deeds have ended, once its encoder was closed with this reply. -/
inductive Concludes : Except (Failure EncodeError) StopReason → Attempt EncoderError Unit →
    Attempt EncodeError EncodeSummary → Prop
  | failed (failure : Failure EncodeError) (reply : Attempt EncoderError Unit) :
      Concludes (.error failure) reply (.error failure)
  | closed {reason : StopReason} {summary : EncodeSummary} (told : summary.stopReason = reason) :
      Concludes (.ok reason) (.ok ()) (.ok summary)
  | unclosed (reason : StopReason) (error : EncoderError) :
      Concludes (.ok reason) (.error (.error error)) (.error (.error (.encoder .close error)))
  | fault (reason : StopReason) (fault : Fault) :
      Concludes (.ok reason) (.error (.fault fault)) (.error (.fault fault))

/-- A run has closed its encoder, and done nothing else. -/
structure Closes (context last : EncodeContext (σ × List Entry)) (reply : Attempt EncoderError Unit)
    (locks : List LockChange) : Prop where
  record_eq : last.session.record = context.session.record ++ [⟨.close reply, locks, none⟩]
  source_eq : last.source = context.source
  store_eq : last.store = context.store

/-- Neither the source nor the files were touched. -/
def Untouched (earlier later : EncodeContext σ) : Prop :=
  later.source = earlier.source ∧ later.store = earlier.store

theorem Untouched.onward : EncodeM.Onward (Untouched (σ := σ)) where
  refl := fun _ => ⟨rfl, rfl⟩
  trans := fun h h' => ⟨h'.1.trans h.1, h'.2.trans h.2⟩

namespace EncodeM

variable {stage : Stage} {context last : EncodeContext (σ × List Entry)}

theorem untouched_report (event : Event) : Keeps Untouched (report event : EncodeM σ Unit) :=
  fun _ => ⟨rfl, rfl⟩

theorem untouched_demand (step : EncoderStep) (make : Session σ → Answer (Session σ) α) :
    Keeps Untouched (demand step make) := by
  intro context
  rw [run_demand]
  exact ⟨rfl, rfl⟩

theorem untouched_setUp : Keeps Untouched (setUp : EncodeM σ Unit) := by
  have opens : Keeps Untouched (openAccelerator : EncodeM σ Unit) :=
    .openAccelerator Untouched.onward (fun _ => untouched_demand _ _) fun _ _ => ⟨rfl, rfl⟩
  have negotiates : Keeps Untouched (negotiate : EncodeM σ Unit) :=
    .negotiate Untouched.onward untouched_report (fun _ => untouched_demand _ _)
      (fun _ _ => ⟨rfl, rfl⟩) fun _ => untouched_demand _ _
  have allocates : Keeps Untouched (allocatePool : EncodeM σ SurfaceRequest) :=
    .allocatePool Untouched.onward (fun _ => untouched_demand _ _) fun _ _ => ⟨rfl, rfl⟩
  exact .setUp Untouched.onward untouched_report opens negotiates allocates fun _ _ => ⟨rfl, rfl⟩

/-- The end of a run whose loop is over: the encoder is closed, and dropping the session does not
close it again. -/
theorem finish_concludes {reason : StopReason} {outcome : Attempt EncodeError EncodeSummary}
    (stands : Stands outset context stage) (ran : (finish reason).run context = (outcome, last)) :
    ∃ reply locks, Closes context last.release reply locks ∧
      Concludes (.ok reason) reply outcome := by
  obtain ⟨closed, record⟩ := Session.close_of_open stands.encoder_eq stands.unclosed
  have released : ∀ later : EncodeContext (σ × List Entry),
      later.session = context.session.close.state → later.source = context.source →
      later.store = context.store →
      Closes context later.release context.session.close.reply context.session.close.locks := by
    intro later same source store
    refine ⟨?_, source, store⟩
    show later.session.drop.state.record = _
    rw [same, Session.drop_of_closed closed, record]
  refine ⟨context.session.close.reply, context.session.close.locks, ?_⟩
  rw [finish, run_bind_ok (run_get context), run_bind_ok (run_report _ context), run_bind,
    run_demand] at ran
  have same : (context.report (.encodingFinished context.framesWritten reason)).session.close.reply
      = context.session.close.reply := rfl
  rw [same] at ran
  cases answered : context.session.close.reply with
  | ok value =>
    rw [answered] at ran released
    dsimp only [demanded] at ran
    rw [run_bind_ok (run_get _)] at ran
    split at ran <;> cases ran
    · exact ⟨released _ rfl rfl rfl, .closed rfl⟩
    · exact ⟨released _ rfl rfl rfl, .closed rfl⟩
  | error failure =>
    rw [answered] at ran released
    cases failure <;> cases ran
    · exact ⟨released _ rfl rfl rfl, .unclosed reason _⟩
    · exact ⟨released _ rfl rfl rfl, .fault reason _⟩

/-- A run that failed: dropping the session closes the encoder. -/
theorem release_concludes {failure : Failure EncodeError} (stands : Stands outset context stage) :
    ∃ reply locks, Closes context context.release reply locks ∧
      Concludes (.error failure) reply (.error failure) :=
  ⟨_, _, ⟨Session.drop_of_open stands.encoder_eq stands.unclosed, rfl, rfl⟩, .failed failure _⟩

/-- The loop, with as many rounds left as there are at most. -/
theorem runLoop_stands {outcome : Except (Failure EncodeError) StopReason}
    (stands : Stands outset context (.resting .start)) (unwritten : context.framesWritten = 0)
    (limit : roundLimit context = outset.limit) (ran : runLoop.run context = (outcome, last)) :
    ∃ stage', Stands outset last stage' ∧ stage'.Ends outset.limit outcome := by
  rw [runLoop, run_bind_ok (run_get context)] at ran
  obtain ⟨stage', stands, landed⟩ :=
    leads_runRounds ((Nat.zero_add _).trans limit) _ _ _ stands unwritten ran
  refine ⟨stage', stands, ?_⟩
  cases outcome with
  | ok reason =>
    obtain rfl : stage' = .finished reason := landed
    exact .finished reason
  | error failure => exact landed

/-- A whole run, up to closing the encoder and with it. -/
theorem runToEnd_concludes
    (stands : Stands outset context (.opening context.session.implementation.acceleration))
    (unwritten : context.framesWritten = 0) (limit : roundLimit context = outset.limit) :
    ∃ before stage ending reply locks, Stands outset before stage ∧
      stage.Ends outset.limit ending ∧ Closes before context.runToEnd.2 reply locks ∧
      Concludes ending reply context.runToEnd.1 := by
  rw [EncodeContext.runToEnd, EncodeContext.carryOut]
  cases ran : wholeRun.run context with
  | mk outcome last =>
  dsimp only
  -- set-up, the loop and the summary come one after the other, and each may be the last
  rcases run_bind_cases ran with ⟨_, ready, done, rest⟩ | ⟨failure, failed, rfl⟩
  · obtain ⟨_, stands, rfl, counted⟩ := setUp_stands stands done
    obtain ⟨source, store⟩ := untouched_setUp.of_run done
    have limit : roundLimit ready = outset.limit := by
      rw [roundLimit, source, store]
      exact limit
    rcases run_bind_cases rest with ⟨reason, ended, looped, finishes⟩ | ⟨failure, failed, rfl⟩
    · obtain ⟨stage, stands, ends⟩ :=
        runLoop_stands stands (counted.trans unwritten) limit looped
      obtain ⟨reply, locks, closes, concludes⟩ := finish_concludes stands finishes
      exact ⟨ended, stage, .ok reason, reply, locks, stands, ends, closes, concludes⟩
    · obtain ⟨stage, stands, ends⟩ :=
        runLoop_stands stands (counted.trans unwritten) limit failed
      obtain ⟨reply, locks, closes, concludes⟩ := release_concludes stands
      exact ⟨last, stage, .error failure, reply, locks, stands, ends, closes, concludes⟩
  · obtain ⟨stage, stands, ends⟩ := setUp_stands stands failed
    obtain ⟨reply, locks, closes, concludes⟩ := release_concludes stands
    exact ⟨last, stage, .error failure, reply, locks, stands, ends, closes, concludes⟩

end EncodeM

/-- Whatever an encoder answers, and whatever source and files do, a run is a course of deeds with
the calls on its encoder among them, from opening the device on. A deed that fails is the last one;
where the deeds end tells why. Then the encoder is closed, once and as the last call, whatever came
of the run. No frame is submitted and no result asked for before the encoder was initialized with
success. -/
theorem run_keeps_to_the_protocol (encoder : Encoder σ) (state : σ) (source : Source)
    (options : EncodeOptions) (store : FileStore) (log : Array Event) :
    let start :=
      EncodeContext.start (.ofEncoder encoder.recorded (state, [])) source options store log
    ∃ (deeds : List Deed) (stage : Stage) (world : World)
        (ending : Except (Failure EncodeError) StopReason) (reply : Attempt EncoderError Unit)
        (locks : List LockChange),
      start.runToEnd.2.session.record
        = deeds.filterMap Deed.entry? ++ [⟨.close reply, locks, none⟩] ∧
      Course options (.opening (encoder.implementation state).acceleration) (.start source store)
        deeds stage world ∧
      start.runToEnd.2.source = world.source ∧ start.runToEnd.2.store = world.store ∧
      stage.Ends (EncodeM.roundLimit start) ending ∧
      Concludes ending reply start.runToEnd.1 ∧
      (∀ deed ∈ deeds.dropLast, deed.fails = false) ∧
      (∀ entry reply, .call entry ∈ deeds → entry.turn ≠ .close reply) ∧
      ∀ before entry later, deeds = before ++ .call entry :: later → entry.turn.isWork = true →
        ∃ earlier params, .call earlier ∈ before ∧ earlier.turn = .init params (.ok ()) := by
  intro start
  let outset : Outset σ := ⟨encoder, options, EncodeM.roundLimit start,
    .opening (encoder.implementation state).acceleration, .start source store⟩
  obtain ⟨last, stage, ending, reply, locks, stands, ends, closes, concludes⟩ :=
    @EncodeM.runToEnd_concludes σ outset start ⟨rfl, rfl, rfl, [], .start, rfl⟩ rfl rfl
  obtain ⟨deeds, course, record_eq⟩ := stands.course
  refine ⟨deeds, stage, last.world, ending, reply, locks, record_eq ▸ closes.record_eq, course,
    closes.source_eq, closes.store_eq, ends, concludes, course.fails_last.1,
    fun entry reply mem => course.unclosed mem reply, ?_⟩
  rintro before entry later rfl work
  exact course.init_before rfl work

end Nv12Jpeg
