import Nv12Jpeg.Proofs.Encoder.Cpu

/-!
# Reachable states of the software encoder

Whatever calls an application makes, in any order and whether they succeed or not, the parts of the
encoder's state agree with each other.

* `CpuEncoder.Reached` — the states that calls lead to, with the sync points handed out on the way;
* `CpuEncoder.Regular` — parameters, worker, credits, outstanding sync points and numbering agree;
* `CpuEncoder.Accounts` — the same with the results that are owed, which every call keeps:
  `Accounts.init`, `Accounts.reset`, `Accounts.submit`, `Accounts.sync`, `Accounts.close`;
* `CpuEncoder.reached_regular` — every state that calls lead to is regular.
-/

namespace Nv12Jpeg

/-- The sync point that a submission was answered with, if it was. -/
def Answer.handedOut {σ : Type} (answer : Answer σ SubmitStatus) : List SyncPoint :=
  match answer.reply with
  | .ok (.queued (some sync)) => [sync]
  | _ => []

/-- The call came back to its caller, with a result or an error. -/
def Answer.Returns {σ α : Type} (answer : Answer σ α) : Prop :=
  ∀ fault, answer.reply ≠ .error (.fault fault)

instance {σ α : Type} (answer : Answer σ α) : Decidable answer.Returns :=
  match told : answer.reply with
  | .error (.fault fault) => isFalse fun returns => returns fault told
  | .error (.error _) => isTrue fun _ stops => nomatch told.symm.trans stops
  | .ok _ => isTrue fun _ stops => nomatch told.symm.trans stops

namespace CpuEncoder

/-- The states that calls lead to from a new encoder, and the sync points that were handed out on
the way, in their order. A call that never comes back leads to no state. -/
inductive Reached (reportsResults : Bool) (schedule : List Occasion) :
    CpuEncoder → List SyncPoint → Prop
  | new : Reached reportsResults schedule (new reportsResults schedule) []
  | query {cpu : CpuEncoder} {issued : List SyncPoint} (params : EncodeParams) :
      Reached reportsResults schedule cpu issued →
      Reached reportsResults schedule (cpu.query params).state issued
  | init {cpu : CpuEncoder} {issued : List SyncPoint} (params : EncodeParams) :
      Reached reportsResults schedule cpu issued →
      Reached reportsResults schedule (cpu.init params).state issued
  | surfaceRequest {cpu : CpuEncoder} {issued : List SyncPoint} (params : EncodeParams) :
      Reached reportsResults schedule cpu issued →
      Reached reportsResults schedule (cpu.surfaceRequest params).state issued
  | currentParams {cpu : CpuEncoder} {issued : List SyncPoint} :
      Reached reportsResults schedule cpu issued →
      Reached reportsResults schedule cpu.currentParams.state issued
  | reset {cpu : CpuEncoder} {issued : List SyncPoint} (params : EncodeParams) :
      Reached reportsResults schedule cpu issued →
      Reached reportsResults schedule (cpu.reset params).state issued
  | submit {cpu : CpuEncoder} {issued : List SyncPoint} (submission : Option Submission) :
      Reached reportsResults schedule cpu issued → (cpu.submit submission).Returns →
      Reached reportsResults schedule (cpu.submit submission).state
        (issued ++ (cpu.submit submission).handedOut)
  | sync {cpu : CpuEncoder} {issued : List SyncPoint} (sync : SyncPoint) (waitMs : Nat)
      (bitstream : Bitstream) :
      Reached reportsResults schedule cpu issued →
      Reached reportsResults schedule (cpu.sync sync waitMs bitstream).1.state issued
  | close {cpu : CpuEncoder} {issued : List SyncPoint} :
      Reached reportsResults schedule cpu issued →
      Reached reportsResults schedule cpu.close.state issued

/-- The sync points 1, 2, 3 and so on. -/
def firstSyncPoints (count : Nat) : List SyncPoint := (List.range count).map fun n => ⟨n + 1⟩

/-- The parts of an encoder agree with each other, and with the sync points it handed out since it
was made. -/
structure Regular (cpu : CpuEncoder) (issued : List SyncPoint) : Prop where
  /-- There is a worker exactly while there are parameters. -/
  worker_iff : cpu.params.isSome ↔ cpu.worker.isSome
  params_sound : ∀ params, cpu.params = some params → params.defect? .cpu = none
  /-- The parameters state the bound on the size of their own frames. -/
  params_sized : ∀ params, cpu.params = some params → params.bufferSizeKb = params.worstCaseKb
  capacity_eq : ∀ params, cpu.params = some params →
    cpu.credits.capacity = max params.asyncDepth.toNat 1
  idle : cpu.params = none → cpu.credits.used = 0 ∧ cpu.outstanding = []
  used_eq : cpu.credits.used = cpu.outstanding.length
  used_le : cpu.credits.used ≤ cpu.credits.capacity
  outstanding_nodup : cpu.outstanding.Nodup
  outstanding_issued : ∀ sync ∈ cpu.outstanding, 1 ≤ sync.number ∧ sync.number < cpu.nextSync
  /-- No number is left out and none is used twice. -/
  issued_eq : issued = firstSyncPoints issued.length
  nextSync_eq : cpu.nextSync = issued.length + 1

/-- An encoder that owes these results, with parameters that state the bound on their own frames,
and that handed out these sync points. -/
structure Accounts (cpu : CpuEncoder) (owed : List Owed) (issued : List SyncPoint) : Prop where
  owes : cpu.Owes owed
  sized : ∀ params, cpu.params = some params → params.bufferSizeKb = params.worstCaseKb
  started : ∀ o ∈ owed, 1 ≤ o.sync.number
  issued_eq : issued = firstSyncPoints issued.length
  nextSync_eq : cpu.nextSync = issued.length + 1

theorem firstSyncPoints_succ (count : Nat) :
    firstSyncPoints (count + 1) = firstSyncPoints count ++ [⟨count + 1⟩] := by
  simp [firstSyncPoints, List.range_succ]

theorem handedOut_submit_none (cpu : CpuEncoder) : (cpu.submit none).handedOut = [] := by
  unfold CpuEncoder.submit
  split <;> rfl

/-- A new encoder owes nothing and handed nothing out. -/
theorem accounts_new (reportsResults : Bool) (schedule : List Occasion) :
    (new reportsResults schedule).Accounts [] [] where
  owes := owes_new reportsResults schedule
  sized := fun _ given => nomatch given
  started := fun _ mem => absurd mem List.not_mem_nil
  issued_eq := rfl
  nextSync_eq := rfl

namespace Accounts

variable {cpu next : CpuEncoder} {owed left : List Owed} {issued : List SyncPoint}

/-- A call that hands nothing out, after which no more is owed. -/
theorem unissued (h : cpu.Accounts owed issued) (owes : next.Owes left) (fewer : left ⊆ owed)
    (sized : ∀ params, next.params = some params → params.bufferSizeKb = params.worstCaseKb)
    (same : next.nextSync = cpu.nextSync) : next.Accounts left issued where
  owes := owes
  sized := sized
  started := fun o mem => h.started o (fewer mem)
  issued_eq := h.issued_eq
  nextSync_eq := same.trans h.nextSync_eq

/-- Initialization states the bound, or leaves the parameters as they are. -/
theorem init (h : cpu.Accounts owed issued) (params : EncodeParams) :
    (cpu.init params).state.Accounts owed issued := by
  refine h.unissued (h.owes.init params) (List.Subset.refl _) ?_ (nextSync_init cpu params)
  intro given
  unfold CpuEncoder.init initSpawning
  split
  · exact h.sized given
  · split
    · exact h.sized given
    · rintro ⟨⟩
      rfl

/-- A reset states the bound for the parameters it takes, or leaves those in force. -/
theorem reset (h : cpu.Accounts owed issued) (params : EncodeParams) :
    (cpu.reset params).state.Accounts owed issued := by
  refine h.unissued (h.owes.reset params) (List.Subset.refl _) ?_ (nextSync_reset cpu params)
  intro given
  unfold CpuEncoder.reset
  split
  · exact h.sized given
  · split
    · exact h.sized given
    · dsimp only
      split
      · exact h.sized given
      · rintro ⟨⟩
        rfl

/-- A submission that is queued takes the next number; any other that comes back takes none, and so
does asking to flush. -/
theorem submit (h : cpu.Accounts owed issued) (submission : Option Submission)
    (returns : (cpu.submit submission).Returns) :
    ∃ owed', (cpu.submit submission).state.Accounts owed'
      (issued ++ (cpu.submit submission).handedOut) := by
  cases submission with
  | none =>
    rw [state_submit_none, handedOut_submit_none, List.append_nil]
    exact ⟨owed, h⟩
  | some submission =>
  obtain ⟨params, params_eq, queued⟩ | ⟨error, answer_eq⟩ | ⟨fault, credits, _, answer_eq⟩ :=
    h.owes.submit_cases submission
  · refine ⟨_, queued.owes, ?_, ?_, ?_, ?_⟩
    · rw [queued.params_eq]
      exact h.sized
    · intro o mem
      obtain rfl | mem := List.mem_cons.1 mem
      · exact h.nextSync_eq ▸ Nat.succ_pos _
      · exact h.started o mem
    · rw [Answer.handedOut, queued.reply_eq, List.length_append, List.length_singleton,
        firstSyncPoints_succ, ← h.issued_eq, h.nextSync_eq]
    · rw [Answer.handedOut, queued.reply_eq, queued.nextSync_eq, h.nextSync_eq,
        List.length_append, List.length_singleton]
  · have none_out : (cpu.submit (some submission)).handedOut = [] := by
      rw [answer_eq]
      rfl
    rw [none_out, List.append_nil, answer_eq]
    exact ⟨owed, h⟩
  · rw [answer_eq] at returns
    exact absurd rfl (returns fault)

/-- A result that is collected is owed no more; no number is taken. -/
theorem sync (h : cpu.Accounts owed issued) (sync : SyncPoint) (waitMs : Nat)
    (bitstream : Bitstream) :
    ∃ owed', (cpu.sync sync waitMs bitstream).1.state.Accounts owed' issued := by
  by_cases known : sync ∈ owed.map Owed.sync
  · obtain ⟨o, o_mem, rfl⟩ := List.mem_map.1 known
    obtain ⟨_, _, ⟨_, stopped⟩ | ⟨attempted, _⟩ | ⟨attempted, _⟩⟩ :=
      h.owes.sync_cases o_mem waitMs bitstream
    · rw [stopped]
      exact ⟨owed, h⟩
    · exact ⟨owed, h.unissued attempted.owes (List.Subset.refl _)
        (attempted.params_eq ▸ h.sized) attempted.nextSync_eq⟩
    · exact ⟨_, h.unissued attempted.owes (List.filter_subset_self _)
        (attempted.params_eq ▸ h.sized) attempted.nextSync_eq⟩
  · rw [h.owes.sync_unknown known]
    exact ⟨owed, h⟩

/-- After closing nothing is owed, and numbering goes on where it was. -/
theorem close (h : cpu.Accounts owed issued) : cpu.close.state.Accounts [] issued :=
  h.unissued (owes_close cpu) (List.nil_subset _) (fun _ given => nomatch given) rfl

/-- What is owed accounts for the whole state. -/
theorem regular (h : cpu.Accounts owed issued) : cpu.Regular issued where
  worker_iff := by
    obtain ⟨params_eq, worker_eq, _⟩ | ⟨_, _, params_eq, worker_eq, _⟩ := h.owes.phase <;>
      simp [params_eq, worker_eq]
  params_sound := by
    intro params given
    obtain ⟨params_eq, _⟩ | ⟨_, _, params_eq, _, sound, _⟩ := h.owes.phase
    · rw [params_eq] at given
      cases given
    · rw [params_eq] at given
      cases given
      exact sound
  params_sized := h.sized
  capacity_eq := by
    intro params given
    obtain ⟨params_eq, _⟩ | ⟨_, _, params_eq, _, _, depth_eq, _⟩ := h.owes.phase
    · rw [params_eq] at given
      cases given
    · rw [params_eq] at given
      cases given
      exact depth_eq
  idle := by
    intro absent
    obtain ⟨_, _, rfl⟩ | ⟨_, _, params_eq, _⟩ := h.owes.phase
    · exact ⟨h.owes.used_eq, h.owes.outstanding_eq⟩
    · rw [params_eq] at absent
      cases absent
  used_eq := by
    rw [h.owes.used_eq, h.owes.outstanding_eq, List.length_map]
  used_le := cpu.credits.used_le
  outstanding_nodup := h.owes.outstanding_eq ▸ h.owes.nodup
  outstanding_issued := by
    intro sync mem
    rw [h.owes.outstanding_eq] at mem
    obtain ⟨o, o_mem, rfl⟩ := List.mem_map.1 mem
    exact ⟨h.started o o_mem, h.owes.issued o o_mem⟩
  issued_eq := h.issued_eq
  nextSync_eq := h.nextSync_eq

end Accounts

variable {reportsResults : Bool} {schedule : List Occasion} {cpu : CpuEncoder}
  {issued : List SyncPoint}

/-- Every call keeps the accounts. -/
theorem Reached.accounts (h : Reached reportsResults schedule cpu issued) :
    ∃ owed, cpu.Accounts owed issued := by
  induction h with
  | new => exact ⟨[], accounts_new reportsResults schedule⟩
  | query params _ ih => rwa [state_query]
  | surfaceRequest params _ ih => rwa [state_surfaceRequest]
  | currentParams _ ih => rwa [state_currentParams]
  | init params _ ih =>
    obtain ⟨owed, accounts⟩ := ih
    exact ⟨owed, accounts.init params⟩
  | reset params _ ih =>
    obtain ⟨owed, accounts⟩ := ih
    exact ⟨owed, accounts.reset params⟩
  | submit submission _ returns ih =>
    obtain ⟨owed, accounts⟩ := ih
    exact accounts.submit submission returns
  | sync sync waitMs bitstream _ ih =>
    obtain ⟨owed, accounts⟩ := ih
    exact accounts.sync sync waitMs bitstream
  | close _ ih =>
    obtain ⟨owed, accounts⟩ := ih
    exact ⟨[], accounts.close⟩

/-- Every state that calls lead to is regular. -/
theorem reached_regular (h : Reached reportsResults schedule cpu issued) : cpu.Regular issued := by
  obtain ⟨owed, accounts⟩ := h.accounts
  exact accounts.regular

/-- A surface of zero bytes to submit, for a picture of one row. -/
private def blank (width : UInt16) : Submission :=
  ⟨⟨0, 0⟩, ⟨⟨30, 1⟩, 0, 0, width, 1, 2, 2⟩, .zeros 6⟩

/-- Submissions before initialization and of another size take no number, and closing does not
start the numbering anew. -/
theorem reached_regular_reopened :
    ∃ (cpu : CpuEncoder) (issued : List SyncPoint),
      Reached false [⟨0, 0⟩] cpu issued ∧ issued = [⟨1⟩, ⟨2⟩] ∧ cpu.outstanding = [⟨2⟩] ∧
      cpu.credits.used = 1 ∧ cpu.Regular issued := by
  have early := Reached.submit (some (blank 1)) (@Reached.new false [⟨0, 0⟩]) (by decide +kernel)
  have other_size := Reached.submit (some (blank 2)) (.init (.jpeg 1 1 30 80) early)
    (by decide +kernel)
  have first := Reached.submit (some (blank 1)) other_size (by decide +kernel)
  have reopened := Reached.init (.jpeg 1 1 30 80) (.close (.sync ⟨1⟩ 100 (.empty 10) first))
  have second := Reached.submit (some (blank 1)) reopened (by decide +kernel)
  exact ⟨_, _, second, by decide +kernel, by decide +kernel, by decide +kernel,
    reached_regular second⟩

end CpuEncoder

end Nv12Jpeg
