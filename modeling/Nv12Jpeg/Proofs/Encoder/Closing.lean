import Nv12Jpeg.Proofs.Encoder.Reachable
import Nv12Jpeg.Session

/-!
# Sessions that were closed

A session closes its encoder once. The first close ends everything that was under way; but a
session can be initialized again after that, and then no further close reaches the encoder.

* `Milestone` — what calls came to, as far as closing is concerned, with `Reopened` and `Voided`;
* `Session.Reached` — the sessions that calls lead to from a new one on a software encoder;
* `Session.Tracked` — initialization, the flag of a session and what is outstanding agree with
  the calls that were made, which every call keeps: `Session.Reached.tracked`;
* `Session.close_of_reached` — what closing leaves behind, whatever was called before.
-/

namespace Nv12Jpeg

/-- What a call on a session came to. -/
inductive Milestone where
  /-- The encoder was initialized. -/
  | initialized
  /-- A submission was queued and its sync point handed out. -/
  | queued (sync : SyncPoint)
  /-- The session was closed. -/
  | closed
  deriving DecidableEq, Repr

namespace Milestone

/-- The sync point that was handed out, if one was. -/
def issued? : Milestone → Option SyncPoint
  | queued sync => some sync
  | initialized | closed => none

/-- The sync points that were handed out, in their order. -/
def issued (history : List Milestone) : List SyncPoint := history.filterMap issued?

/-- An initialization succeeded after a close. -/
def Reopened (history : List Milestone) : Prop := [closed, initialized].Sublist history

/-- The sync point was handed out before the first close. -/
def Voided (history : List Milestone) (sync : SyncPoint) : Prop :=
  closed ∈ history ∧ queued sync ∈ history.takeWhile (· ≠ closed)

instance (history : List Milestone) : Decidable (Reopened history) :=
  inferInstanceAs (Decidable (List.Sublist _ _))

instance (history : List Milestone) (sync : SyncPoint) : Decidable (Voided history sync) :=
  inferInstanceAs (Decidable (_ ∧ _))

variable {history later : List Milestone} {sync : SyncPoint}

theorem issued_append : issued (history ++ later) = issued history ++ issued later :=
  List.filterMap_append

theorem issued_queued (syncs : List SyncPoint) : issued (syncs.map queued) = syncs := by
  simp [issued, List.filterMap_map, Function.comp_def, issued?]

theorem mem_issued : sync ∈ issued history ↔ queued sync ∈ history := by
  constructor
  · intro mem
    obtain ⟨milestone, milestone_mem, same⟩ := List.mem_filterMap.1 mem
    cases milestone with
    | queued other =>
      cases same
      exact milestone_mem
    | initialized => cases same
    | closed => cases same
  · exact fun mem => List.mem_filterMap.2 ⟨_, mem, rfl⟩

theorem Reopened.closed_mem (h : Reopened history) : closed ∈ history :=
  List.Sublist.subset h List.mem_cons_self

/-- An initialization that succeeds is one after a close if there was a close. -/
theorem reopened_of_initialized : Reopened (history ++ [initialized]) ↔ closed ∈ history := by
  constructor
  · intro reopened
    simpa using reopened.closed_mem
  · exact fun before =>
      List.Sublist.append (List.singleton_sublist.2 before) (List.Sublist.refl [initialized])

/-- Without an initialization nothing is initialized again. -/
theorem reopened_append (none_new : initialized ∉ later) :
    Reopened (history ++ later) ↔ Reopened history := by
  constructor
  · intro reopened
    obtain ⟨early, late, split, early_sub, late_sub⟩ := List.sublist_append_iff.1 reopened
    match early, late, split with
    | [], _, rfl => exact absurd (late_sub.subset (by simp)) none_new
    | [_], _, rfl => exact absurd (late_sub.subset List.mem_cons_self) none_new
    | [_, _], _, rfl => exact early_sub
  · exact fun reopened => List.Sublist.trans reopened (List.sublist_append_left ..)

/-- The sync points handed out before the first close, wherever that is. -/
theorem voided_split {early late : List Milestone} (unclosed : closed ∉ early) :
    Voided (early ++ closed :: late) sync ↔ queued sync ∈ early := by
  have all_open : ∀ milestone ∈ early, decide (milestone ≠ closed) = true :=
    fun milestone mem => decide_eq_true fun same => unclosed (same ▸ mem)
  rw [Voided, List.takeWhile_append_of_pos all_open, List.takeWhile_cons_of_neg (by simp),
    List.append_nil]
  exact and_iff_right (List.mem_append_right _ List.mem_cons_self)

/-- Nothing becomes void later. -/
theorem voided_append (closed_mem : closed ∈ history) (later : List Milestone) :
    Voided (history ++ later) sync ↔ Voided history sync := by
  obtain ⟨early, late, rfl, unclosed⟩ := List.eq_append_cons_of_mem closed_mem
  rw [List.append_assoc, List.cons_append, voided_split unclosed, voided_split unclosed]

/-- Nothing becomes void without a close. -/
theorem voided_append_open (unclosed : closed ∉ later) :
    Voided (history ++ later) sync ↔ Voided history sync := by
  by_cases before : closed ∈ history
  · exact voided_append before later
  · simp [Voided, before, unclosed]

end Milestone

/-! ## What calls do to the encoder -/

/-- What a call to get ready came to. -/
def Answer.milestones {σ : Type} (answer : Answer σ Unit) : List Milestone :=
  match answer.reply with
  | .ok () => [.initialized]
  | .error _ => []

namespace CpuEncoder

variable {cpu : CpuEncoder} {owed : List Owed}

theorem nodup_firstSyncPoints (count : Nat) : (firstSyncPoints count).Nodup := by
  refine List.Pairwise.map _ (fun n m differs same => differs ?_) (List.nodup_range (n := count))
  exact Nat.succ.inj (SyncPoint.mk.inj same)

/-- An encoder has parameters once it was initialized. -/
theorem isSome_params_init (cpu : CpuEncoder) (params : EncodeParams) :
    (cpu.init params).state.params.isSome = true ↔
      cpu.params.isSome = true ∨ (cpu.init params).milestones = [.initialized] := by
  unfold CpuEncoder.init initSpawning
  split
  case isTrue ready => simp [ready, Answer.refused, Answer.quiet]
  case isFalse idle =>
    cases params.defect? .cpu with
    | some defect => simp [idle, Answer.refused, Answer.quiet, Answer.milestones, Attempt.fail]
    | none => simp [Answer.ok, Answer.quiet, Answer.milestones, Answer.report]

theorem outstanding_init (cpu : CpuEncoder) (params : EncodeParams) :
    (cpu.init params).state.outstanding = cpu.outstanding := by
  unfold CpuEncoder.init initSpawning
  split
  · rfl
  · split <;> rfl

/-- A reset replaces parameters, and does not make or remove any. -/
theorem isSome_params_reset (cpu : CpuEncoder) (params : EncodeParams) :
    (cpu.reset params).state.params.isSome = cpu.params.isSome := by
  unfold CpuEncoder.reset
  split
  · rfl
  · split
    · rfl
    · dsimp only
      split
      · rfl
      · simp_all [Answer.ok, Answer.quiet, Answer.report]

theorem outstanding_reset (cpu : CpuEncoder) (params : EncodeParams) :
    (cpu.reset params).state.outstanding = cpu.outstanding := by
  unfold CpuEncoder.reset
  split
  · rfl
  · split
    · rfl
    · dsimp only
      split <;> rfl

/-- A submission keeps the parameters; what is outstanding behind it was so before, or was handed
out by it. -/
theorem Owes.submit_keeps (h : cpu.Owes owed) (submission : Option Submission) :
    (cpu.submit submission).state.params = cpu.params ∧
    ∀ sync ∈ (cpu.submit submission).state.outstanding,
      sync ∈ cpu.outstanding ∨ sync ∈ (cpu.submit submission).handedOut := by
  cases submission with
  | none =>
    rw [state_submit_none]
    exact ⟨rfl, fun sync mem => .inl mem⟩
  | some submission =>
    obtain ⟨params, _, queued⟩ | ⟨error, answer_eq⟩ | ⟨fault, credits, _, answer_eq⟩ :=
      h.submit_cases submission
    · refine ⟨queued.params_eq, fun sync mem => ?_⟩
      rw [queued.owes.outstanding_eq, List.map_cons, ← h.outstanding_eq] at mem
      rw [Answer.handedOut, queued.reply_eq]
      exact (List.mem_cons.1 mem).symm.imp id List.mem_singleton.2
    all_goals
      rw [answer_eq]
      exact ⟨rfl, fun sync mem => .inl mem⟩

/-- Waiting keeps the parameters; what is outstanding behind it was so before. -/
theorem Owes.sync_keeps (h : cpu.Owes owed) (sync : SyncPoint) (waitMs : Nat)
    (bitstream : Bitstream) :
    (cpu.sync sync waitMs bitstream).1.state.params = cpu.params ∧
    (cpu.sync sync waitMs bitstream).1.state.outstanding ⊆ cpu.outstanding := by
  by_cases known : sync ∈ owed.map Owed.sync
  · obtain ⟨o, o_mem, rfl⟩ := List.mem_map.1 known
    obtain ⟨_, _, ⟨_, stopped⟩ | ⟨attempted, _⟩ | ⟨attempted, _⟩⟩ :=
      h.sync_cases o_mem waitMs bitstream
    · rw [stopped]
      exact ⟨rfl, List.Subset.refl _⟩
    · refine ⟨attempted.params_eq, ?_⟩
      rw [attempted.owes.outstanding_eq, h.outstanding_eq]
      exact List.Subset.refl _
    · refine ⟨attempted.params_eq, ?_⟩
      rw [attempted.owes.outstanding_eq, h.outstanding_eq]
      exact List.map_subset _ (List.filter_subset_self _)
  · rw [h.sync_unknown known]
    exact ⟨rfl, List.Subset.refl _⟩

end CpuEncoder

/-! ## Sessions in use -/

namespace Session

/-- The sessions that calls lead to from one created on a software encoder, and what the calls came
to, in their order. A call that never comes back leads to no session. -/
inductive Reached (reportsResults : Bool) (schedule : List Occasion) :
    Session CpuEncoder → List Milestone → Prop
  | new : Reached reportsResults schedule
      (.ofEncoder CpuEncoder.encoder (.new reportsResults schedule)) []
  | attach {session : Session CpuEncoder} {history : List Milestone} (accelerator : Accelerator) :
      Reached reportsResults schedule session history →
      Reached reportsResults schedule (session.attach accelerator).state history
  | query {session : Session CpuEncoder} {history : List Milestone} (params : EncodeParams) :
      Reached reportsResults schedule session history →
      Reached reportsResults schedule (session.query params).state history
  | init {session : Session CpuEncoder} {history : List Milestone} (params : EncodeParams) :
      Reached reportsResults schedule session history →
      Reached reportsResults schedule (session.init params).state
        (history ++ (session.init params).milestones)
  | surfaceRequest {session : Session CpuEncoder} {history : List Milestone}
      (params : EncodeParams) :
      Reached reportsResults schedule session history →
      Reached reportsResults schedule (session.surfaceRequest params).state history
  | currentParams {session : Session CpuEncoder} {history : List Milestone} :
      Reached reportsResults schedule session history →
      Reached reportsResults schedule session.currentParams.state history
  | reset {session : Session CpuEncoder} {history : List Milestone} (params : EncodeParams) :
      Reached reportsResults schedule session history →
      Reached reportsResults schedule (session.reset params).state history
  | submit {session : Session CpuEncoder} {history : List Milestone}
      (submission : Option Submission) :
      Reached reportsResults schedule session history → (session.submit submission).Returns →
      Reached reportsResults schedule (session.submit submission).state
        (history ++ (session.submit submission).handedOut.map .queued)
  | sync {session : Session CpuEncoder} {history : List Milestone} (sync : SyncPoint)
      (waitMs : Nat) (bitstream : Bitstream) :
      Reached reportsResults schedule session history →
      Reached reportsResults schedule (session.sync sync waitMs bitstream).1.state history
  | close {session : Session CpuEncoder} {history : List Milestone} :
      Reached reportsResults schedule session history →
      Reached reportsResults schedule session.close.state (history ++ [.closed])

/-- Whatever implementation is chosen, a session that is created is one on a software encoder. -/
theorem reached_of_create {choice : BackendChoice} {codec : Codec} {reportsResults : Bool}
    {schedule : List Occasion} {session : Session CpuEncoder} {events : List Event}
    (created : create choice codec (.new reportsResults schedule) = .ok (session, events)) :
    Reached reportsResults schedule session [] := by
  obtain ⟨implementation, _, created⟩ := bind_eq_ok.1 created
  split at created
  · cases created
    exact .new
  · cases created

/-- The parts of a session agree with what was called before. -/
structure Tracked (session : Session CpuEncoder) (history : List Milestone) : Prop where
  encoder_eq : session.encoder = CpuEncoder.encoder
  accounts : ∃ owed, session.state.Accounts owed (Milestone.issued history)
  closed_iff : session.closed = true ↔ .closed ∈ history
  /-- After the first close the encoder has parameters only if it was initialized again. -/
  ready_iff : .closed ∈ history →
    (session.state.params.isSome = true ↔ Milestone.Reopened history)
  void : ∀ sync ∈ session.state.outstanding, ¬ Milestone.Voided history sync

namespace Tracked

variable {cpu next : CpuEncoder} {closed : Bool} {session : Session CpuEncoder}
  {history later : List Milestone}

/-- The session in its parts. -/
theorem exists_eq (h : Tracked session history) :
    ∃ cpu closed, session = ⟨CpuEncoder.encoder, cpu, closed⟩ := by
  obtain ⟨encoder, cpu, closed⟩ := session
  obtain rfl : encoder = CpuEncoder.encoder := h.encoder_eq
  exact ⟨cpu, closed, rfl⟩

/-- A call other than closing, behind which nothing is outstanding that was handed out before and
was not outstanding any more. -/
theorem grown (h : Tracked ⟨CpuEncoder.encoder, cpu, closed⟩ history)
    (unclosed : .closed ∉ later)
    (accounts : ∃ owed, next.Accounts owed (Milestone.issued (history ++ later)))
    (ready_iff : .closed ∈ history →
      (next.params.isSome = true ↔ Milestone.Reopened (history ++ later)))
    (outstanding : ∀ sync ∈ next.outstanding,
      sync ∈ cpu.outstanding ∨ sync ∉ Milestone.issued history) :
    Tracked ⟨CpuEncoder.encoder, next, closed⟩ (history ++ later) where
  encoder_eq := rfl
  accounts := accounts
  closed_iff := by
    rw [List.mem_append, or_iff_left unclosed]
    exact h.closed_iff
  ready_iff := fun before => ready_iff ((List.mem_append.1 before).resolve_right unclosed)
  void := by
    intro sync mem
    rw [Milestone.voided_append_open unclosed]
    obtain still | fresh := outstanding sync mem
    · exact h.void sync still
    · exact fun voided =>
        fresh (Milestone.mem_issued.2 ((List.takeWhile_sublist _).subset voided.2))

/-- A call that comes to nothing. -/
theorem kept (h : Tracked ⟨CpuEncoder.encoder, cpu, closed⟩ history)
    (accounts : ∃ owed, next.Accounts owed (Milestone.issued history))
    (params : next.params.isSome = cpu.params.isSome)
    (outstanding : next.outstanding ⊆ cpu.outstanding) :
    Tracked ⟨CpuEncoder.encoder, next, closed⟩ history := by
  have same : Tracked ⟨CpuEncoder.encoder, next, closed⟩ (history ++ []) :=
    h.grown List.not_mem_nil ((List.append_nil history).symm ▸ accounts)
      (fun before => by rw [List.append_nil, params]; exact h.ready_iff before)
      fun sync mem => .inl (outstanding mem)
  rwa [List.append_nil] at same

theorem init (h : Tracked ⟨CpuEncoder.encoder, cpu, closed⟩ history) (params : EncodeParams) :
    Tracked ⟨CpuEncoder.encoder, (cpu.init params).state, closed⟩
      (history ++ (cpu.init params).milestones) := by
  obtain ⟨owed, accounts⟩ := h.accounts
  have accounts := accounts.init params
  have ready := CpuEncoder.isSome_params_init cpu params
  have outstanding := CpuEncoder.outstanding_init cpu params
  obtain none_new | one_new : (cpu.init params).milestones = [] ∨
      (cpu.init params).milestones = [.initialized] := by
    unfold Answer.milestones
    split
    · exact .inr rfl
    · exact .inl rfl
  · rw [none_new] at ready ⊢
    rw [List.append_nil]
    exact h.kept ⟨owed, accounts⟩ (Bool.eq_iff_iff.2 (by simpa using ready))
      (outstanding ▸ List.Subset.refl _)
  · rw [one_new] at ready ⊢
    refine h.grown (by simp) ⟨owed, ?_⟩ (fun before => ?_) fun sync mem => .inl (outstanding ▸ mem)
    · rw [Milestone.issued_append]
      exact (List.append_nil _).symm ▸ accounts
    · rw [Milestone.reopened_of_initialized, ready]
      exact iff_of_true (.inr rfl) before

theorem submit (h : Tracked ⟨CpuEncoder.encoder, cpu, closed⟩ history)
    (submission : Option Submission) (returns : (cpu.submit submission).Returns) :
    Tracked ⟨CpuEncoder.encoder, (cpu.submit submission).state, closed⟩
      (history ++ (cpu.submit submission).handedOut.map .queued) := by
  obtain ⟨owed, accounts⟩ := h.accounts
  obtain ⟨params, outstanding⟩ := accounts.owes.submit_keeps submission
  obtain ⟨owed', accounts⟩ := accounts.submit submission returns
  have distinct : (Milestone.issued history ++ (cpu.submit submission).handedOut).Nodup :=
    accounts.issued_eq ▸ CpuEncoder.nodup_firstSyncPoints _
  refine h.grown (by simp) ⟨owed', ?_⟩ (fun before => ?_) fun sync mem => ?_
  · rw [Milestone.issued_append, Milestone.issued_queued]
    exact accounts
  · rw [params, Milestone.reopened_append (by simp)]
    exact h.ready_iff before
  · -- What is handed out now was not handed out before, so no close made it void.
    exact (outstanding sync mem).imp id fun handed_out before =>
      (List.nodup_append.1 distinct).2.2 sync before sync handed_out rfl

theorem close (h : Tracked session history) :
    Tracked session.close.state (history ++ [.closed]) := by
  obtain ⟨owed, accounts⟩ := h.accounts
  have issued : Milestone.issued (history ++ [.closed]) = Milestone.issued history := by
    rw [Milestone.issued_append]
    exact List.append_nil _
  have reopened : Milestone.Reopened (history ++ [.closed]) ↔ Milestone.Reopened history :=
    Milestone.reopened_append (by simp)
  obtain ⟨cpu, closed, rfl⟩ := h.exists_eq
  cases closed with
  | true =>
    -- The encoder is not closed again: all stays as it was behind the first close.
    have before : .closed ∈ history := h.closed_iff.1 rfl
    exact {
      encoder_eq := rfl
      accounts := ⟨owed, issued ▸ accounts⟩
      closed_iff := by simp [Session.close, Answer.ok, Answer.quiet]
      ready_iff := fun _ => (h.ready_iff before).trans reopened.symm
      void := fun sync mem => (Milestone.voided_append before _).not.2 (h.void sync mem) }
  | false =>
    have first : .closed ∉ history := fun before => nomatch h.closed_iff.2 before
    exact {
      encoder_eq := rfl
      accounts := ⟨[], issued ▸ accounts.close⟩
      closed_iff := by simp [Session.close, Session.pass, Answer.mapState]
      ready_iff := fun _ => iff_of_false Bool.false_ne_true fun again =>
        first (reopened.1 again).closed_mem
      void := fun sync mem => absurd mem List.not_mem_nil }

end Tracked

/-- Asking what would become of parameters changes nothing. -/
theorem state_query_cpu (params : EncodeParams) (cpu : CpuEncoder) (closed : Bool) :
    (Session.query params ⟨CpuEncoder.encoder, cpu, closed⟩).state
      = ⟨CpuEncoder.encoder, cpu, closed⟩ := by
  have passed : (Session.mk CpuEncoder.encoder (cpu.query params).state closed)
      = ⟨CpuEncoder.encoder, cpu, closed⟩ := by
    rw [CpuEncoder.state_query]
  unfold query
  dsimp only
  split <;> exact passed

/-- Every call keeps track. -/
theorem Reached.tracked {reportsResults : Bool} {schedule : List Occasion}
    {session : Session CpuEncoder} {history : List Milestone}
    (h : Reached reportsResults schedule session history) : session.Tracked history := by
  induction h with
  | new =>
    exact {
      encoder_eq := rfl
      accounts := ⟨[], CpuEncoder.accounts_new reportsResults schedule⟩
      closed_iff := by simp [ofEncoder]
      ready_iff := fun before => absurd before List.not_mem_nil
      void := fun sync mem => absurd mem List.not_mem_nil }
  | attach accelerator _ ih =>
    obtain ⟨cpu, closed, rfl⟩ := ih.exists_eq
    exact ih
  | query params _ ih =>
    obtain ⟨cpu, closed, rfl⟩ := ih.exists_eq
    rwa [state_query_cpu]
  | init params _ ih =>
    obtain ⟨cpu, closed, rfl⟩ := ih.exists_eq
    exact ih.init params
  | surfaceRequest params _ ih =>
    obtain ⟨cpu, closed, rfl⟩ := ih.exists_eq
    show Tracked ⟨_, (cpu.surfaceRequest params).state, closed⟩ _
    rwa [CpuEncoder.state_surfaceRequest]
  | currentParams _ ih =>
    obtain ⟨cpu, closed, rfl⟩ := ih.exists_eq
    show Tracked ⟨_, cpu.currentParams.state, closed⟩ _
    rwa [CpuEncoder.state_currentParams]
  | reset params _ ih =>
    obtain ⟨cpu, closed, rfl⟩ := ih.exists_eq
    obtain ⟨owed, accounts⟩ := ih.accounts
    exact ih.kept ⟨owed, accounts.reset params⟩ (cpu.isSome_params_reset params)
      (cpu.outstanding_reset params ▸ List.Subset.refl _)
  | submit submission _ returns ih =>
    obtain ⟨cpu, closed, rfl⟩ := ih.exists_eq
    exact ih.submit submission returns
  | sync sync waitMs bitstream _ ih =>
    obtain ⟨cpu, closed, rfl⟩ := ih.exists_eq
    obtain ⟨owed, accounts⟩ := ih.accounts
    obtain ⟨params, outstanding⟩ := accounts.owes.sync_keeps sync waitMs bitstream
    exact ih.kept (accounts.sync sync waitMs bitstream) (congrArg Option.isSome params) outstanding
  | close _ ih => exact ih.close

/-! ## Closing -/

/-- A session whose encoder is not initialized: what needs parameters or a submission is refused and
changes nothing, and sound parameters initialize it. -/
structure Ended (session : Session CpuEncoder) : Prop where
  params_unknown : session.currentParams = .refused .notInitialized session
  submit_refused : ∀ submission, session.submit submission = .refused .notInitialized session
  sync_rejected : ∀ sync waitMs bitstream, session.sync sync waitMs bitstream
    = (.refused (.invalidInput s!"unknown sync point {sync.text}") session, bitstream)
  init_accepted : ∀ params, params.defect? .cpu = none → (session.init params).reply = .ok ()

variable {cpu : CpuEncoder} {closed : Bool}

/-- A sync point that is not outstanding is refused. -/
theorem sync_of_unknown {sync : SyncPoint} (unknown : sync ∉ cpu.outstanding) (waitMs : Nat)
    (bitstream : Bitstream) :
    Session.sync sync waitMs bitstream ⟨CpuEncoder.encoder, cpu, closed⟩
      = (.refused (.invalidInput s!"unknown sync point {sync.text}")
          ⟨CpuEncoder.encoder, cpu, closed⟩, bitstream) := by
  have refused : CpuEncoder.encoder.sync sync waitMs bitstream cpu
      = (.refused (.invalidInput s!"unknown sync point {sync.text}") cpu, bitstream) :=
    if_pos unknown
  rw [Session.sync, refused]
  rfl

/-- A session is ended while its encoder has no parameters and nothing is outstanding. -/
theorem ended_of_idle (params_eq : cpu.params = none) (outstanding_eq : cpu.outstanding = []) :
    Ended ⟨CpuEncoder.encoder, cpu, closed⟩ where
  params_unknown := by
    have refused : cpu.currentParams = .refused .notInitialized cpu := by
      rw [CpuEncoder.currentParams, params_eq]
    exact congrArg (Answer.mapState (Session.mk CpuEncoder.encoder · closed)) refused
  submit_refused := by
    intro submission
    have refused : cpu.submit submission = .refused .notInitialized cpu := by
      rw [CpuEncoder.submit, params_eq]
    exact congrArg (Answer.mapState (Session.mk CpuEncoder.encoder · closed)) refused
  sync_rejected := fun sync => sync_of_unknown (by rw [outstanding_eq]; exact List.not_mem_nil)
  init_accepted := by
    intro params sound
    show (cpu.init params).reply = _
    rw [CpuEncoder.init_of_sound params_eq sound]
    rfl

/-- Closing always succeeds, whatever was called before. Unless an initialization succeeded after
the first close, the session is ended then. If one did, closing once more does not reach the
encoder: it changes nothing, and the parameters stay in force. The sync points from before the
first close are refused in either case. -/
theorem close_of_reached {reportsResults : Bool} {schedule : List Occasion}
    {session : Session CpuEncoder} {history : List Milestone}
    (h : Reached reportsResults schedule session history) :
    session.close.reply = .ok () ∧
    (¬ Milestone.Reopened history → session.close.state.Ended) ∧
    (Milestone.Reopened history → session.close = .ok () session ∧
      ∃ params, session.currentParams = .ok params session) ∧
    ∀ sync, Milestone.Voided (history ++ [.closed]) sync → ∀ waitMs bitstream,
      session.close.state.sync sync waitMs bitstream
        = (.refused (.invalidInput s!"unknown sync point {sync.text}") session.close.state,
          bitstream) := by
  have tracked := h.tracked
  obtain ⟨left, flag, left_eq⟩ := tracked.close.exists_eq
  have void := tracked.close.void
  obtain ⟨cpu, closed, rfl⟩ := tracked.exists_eq
  obtain ⟨owed, accounts⟩ := tracked.accounts
  refine ⟨?_, fun unopened => ?_, fun reopened => ?_, fun sync voided => ?_⟩
  · cases closed <;> rfl
  · cases closed with
    | false => exact ended_of_idle rfl rfl
    | true =>
      -- The encoder was closed before, and no call since then gave it parameters.
      have idle : cpu.params = none := by
        have absent := (tracked.ready_iff (tracked.closed_iff.1 rfl)).not.2 unopened
        exact Option.not_isSome_iff_eq_none.1 absent
      exact ended_of_idle idle (accounts.regular.idle idle).2
  · have before := reopened.closed_mem
    obtain rfl : closed = true := tracked.closed_iff.2 before
    obtain ⟨params, (params_eq : cpu.params = some params)⟩ :=
      Option.isSome_iff_exists.1 ((tracked.ready_iff before).2 reopened)
    have answered : cpu.currentParams = .ok params cpu := by
      rw [CpuEncoder.currentParams, params_eq]
    exact ⟨rfl, params,
      congrArg (Answer.mapState (Session.mk CpuEncoder.encoder · true)) answered⟩
  · rw [left_eq] at void ⊢
    exact sync_of_unknown fun outstanding => void sync outstanding voided

/-- A new session on a software encoder. -/
private def fresh : Session CpuEncoder := .ofEncoder CpuEncoder.encoder (.new false [])

/-- The parameters of a picture of one pixel. -/
private def pixel : EncodeParams := .jpeg 1 1 30 80

/-- A surface of zero bytes for such a picture. -/
private def black : Submission := ⟨⟨0, 0⟩, ⟨⟨30, 1⟩, 0, 0, 1, 1, 2, 2⟩, .zeros 6⟩

/-- Closed with a submission under way, initialized and used again, and closed once more. -/
theorem close_of_reached_twice :
    let used := ((fresh.init pixel).state.submit (some black)).state
    let again := ((used.close.state.init pixel).state.submit (some black)).state
    used.close.reply = .ok () ∧ used.close.state.Ended ∧
      again.state.outstanding = [⟨2⟩] ∧ again.close = .ok () again ∧
      (∃ params, again.currentParams = .ok params again) ∧
      ∀ waitMs bitstream, again.close.state.sync ⟨1⟩ waitMs bitstream
        = (.refused (.invalidInput "unknown sync point sync#1") again.close.state, bitstream) := by
  intro used again
  have created : Reached false [] fresh [] :=
    reached_of_create (show create .auto .jpeg (.new false []) = .ok (fresh, _) from rfl)
  have used_reached : Reached false [] used [.initialized, .queued ⟨1⟩] :=
    .submit (some black) (.init pixel created) (by decide +kernel)
  have again_reached : Reached false [] again
      [.initialized, .queued ⟨1⟩, .closed, .initialized, .queued ⟨2⟩] :=
    .submit (some black) (.init pixel (.close used_reached)) (by decide +kernel)
  obtain ⟨closes, ended, _⟩ := close_of_reached used_reached
  obtain ⟨_, _, reopened, void⟩ := close_of_reached again_reached
  obtain ⟨unchanged, params⟩ := reopened (by decide)
  exact ⟨closes, ended (by decide), by decide +kernel, unchanged, params,
    void ⟨1⟩ (by decide)⟩

/-- A session that is initialized after it was closed stays initialized when it is closed again. -/
theorem not_ended_of_reopened :
    let reopened := ((fresh.init pixel).state.close.state.init pixel).state
    Reached false [] reopened [.initialized, .closed, .initialized] ∧
      reopened.close.reply = .ok () ∧ ¬ reopened.close.state.Ended ∧
      reopened.close.state.currentParams.reply = .ok pixel.withWorstCase ∧
      (reopened.close.state.submit none).reply = .ok .moreData ∧
      (reopened.close.state.init pixel).reply
        = .fail (.backend "encoder is already initialized") := by
  intro reopened
  have params : reopened.close.state.currentParams.reply = .ok pixel.withWorstCase := by
    decide +kernel
  refine ⟨.init pixel (.close (.init pixel .new)), rfl, fun ended => ?_, params, rfl, ?_⟩
  · rw [ended.params_unknown] at params
    cases params
  · decide +kernel

end Session

end Nv12Jpeg
