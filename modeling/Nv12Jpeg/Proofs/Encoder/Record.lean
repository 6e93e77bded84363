import Nv12Jpeg.Encoder.Recorded
import Nv12Jpeg.Session

/-!
# The record of a session

A session on a recorded encoder has a record of the calls that were made on it.

* `Answer.Records` — the entries that a call on a session adds to its record;
* `Session.records_attach` and the like — each call on a session is one entry;
* `Session.resetResolution_cases` — the procedure of a reset is two entries, or one if that fails;
* `Session.close_of_open`, `Session.drop_of_closed` — the encoder is closed once.
-/

namespace Nv12Jpeg

/-- Whether a frame is submitted, a flush asked for, or a result. -/
def Turn.isWork : Turn → Bool
  | .submit _ _ | .sync _ _ _ => true
  | _ => false

/-- The surface that a call submitted. -/
def Turn.submission? : Turn → Option Submission
  | .submit submission _ => submission
  | _ => none

/-- The calls that were recorded in a session, oldest first. -/
def Session.record {σ : Type} (session : Session (σ × List Entry)) : List Entry := session.state.2

/-- The same calls without the guards. -/
def Session.transcript {σ : Type} (session : Session (σ × List Entry)) : List Turn :=
  session.record.map Entry.turn

variable {σ α : Type} {encoder : Encoder σ} {session : Session (σ × List Entry)}

/-- A call leaves a session on the same encoder and as open as before, adds these entries to its
record, and takes and drops the guards they tell of. -/
structure Answer.Records (answer : Answer (Session (σ × List Entry)) α)
    (session : Session (σ × List Entry)) (entries : List Entry) : Prop where
  encoder_eq : answer.state.encoder = session.encoder
  closed_eq : answer.state.closed = session.closed
  record_eq : answer.state.record = session.record ++ entries
  locks_eq : answer.locks = entries.flatMap Entry.locks

/-- A call that is neither a submission nor asks for a result. -/
def Answer.RecordsOthers (answer : Answer (Session (σ × List Entry)) α)
    (session : Session (σ × List Entry)) : Prop :=
  ∃ entries, answer.Records session entries ∧ ∀ entry ∈ entries, entry.turn.isWork = false

namespace Answer.Records

variable {answer : Answer (Session (σ × List Entry)) α} {entries : List Entry}

theorem transcript_eq (h : answer.Records session entries) :
    answer.state.transcript = session.transcript ++ entries.map Entry.turn := by
  rw [Session.transcript, h.record_eq, List.map_append]
  rfl

/-- One entry that tells of other things. -/
theorem others {entry : Entry} (h : answer.Records session [entry])
    (idle : entry.turn.isWork = false) : answer.RecordsOthers session :=
  ⟨_, h, List.forall_mem_singleton.2 idle⟩

end Answer.Records

/-- What is left of the failure of a reset for the caller to see. -/
def Session.resetReply : Failure EncoderError → Attempt EncoderError Bool
  | .error _ => .ok false
  | .fault fault => .error (.fault fault)

namespace Session

theorem records_pass (turn : Attempt EncoderError α → Turn) (make : σ → Answer σ α)
    (session : Session (σ × List Entry)) :
    (session.pass (Encoder.recording turn none make)).Records session
      [⟨turn (session.pass (Encoder.recording turn none make)).reply,
        (session.pass (Encoder.recording turn none make)).locks, none⟩] :=
  ⟨rfl, rfl, rfl, (List.append_nil _).symm⟩

theorem records_attach (h : session.encoder = encoder.recorded) (accelerator : Accelerator) :
    (session.attach accelerator).Records session
      [⟨.attach accelerator (session.attach accelerator).reply,
        (session.attach accelerator).locks, none⟩] := by
  rw [attach, h]
  exact records_pass _ _ session

/-- A query may be reported, which is not in the record. -/
theorem records_query (h : session.encoder = encoder.recorded) (params : EncodeParams) :
    (session.query params).Records session
      [⟨.query params (session.query params).reply, (session.query params).locks, none⟩] := by
  obtain ⟨encoder_eq, closed_eq, record_eq, locks_eq⟩ :=
    records_pass (.query params) (encoder.query params) session
  have passed : session.pass (session.encoder.query params)
      = session.pass (Encoder.recording (.query params) none (encoder.query params)) := by
    rw [h]
    rfl
  rw [query, passed]
  split <;> exact ⟨encoder_eq, closed_eq, record_eq, locks_eq⟩

theorem records_init (h : session.encoder = encoder.recorded) (params : EncodeParams) :
    (session.init params).Records session
      [⟨.init params (session.init params).reply, (session.init params).locks, none⟩] := by
  rw [init, h]
  exact records_pass _ _ session

theorem records_surfaceRequest (h : session.encoder = encoder.recorded) (params : EncodeParams) :
    (session.surfaceRequest params).Records session
      [⟨.surfaceRequest params (session.surfaceRequest params).reply,
        (session.surfaceRequest params).locks, none⟩] := by
  rw [surfaceRequest, h]
  exact records_pass _ _ session

theorem records_currentParams (h : session.encoder = encoder.recorded) :
    session.currentParams.Records session
      [⟨.currentParams session.currentParams.reply, session.currentParams.locks, none⟩] := by
  rw [currentParams, h]
  exact records_pass _ _ session

theorem records_reset (h : session.encoder = encoder.recorded) (params : EncodeParams) :
    (session.reset params).Records session
      [⟨.reset params (session.reset params).reply, (session.reset params).locks, none⟩] := by
  rw [reset, h]
  exact records_pass _ _ session

theorem records_submit (h : session.encoder = encoder.recorded)
    (submission : Option Submission) :
    (session.submit submission).Records session
      [⟨.submit submission (session.submit submission).reply,
        (session.submit submission).locks, none⟩] := by
  rw [submit, h]
  exact records_pass _ _ session

/-- An attempt at collecting a result is recorded with the output buffer before and after it. -/
theorem records_sync (h : session.encoder = encoder.recorded) (sync : SyncPoint) (waitMs : Nat)
    (bitstream : Bitstream) :
    (session.sync sync waitMs bitstream).1.Records session
      [⟨.sync sync waitMs (session.sync sync waitMs bitstream).1.reply,
        (session.sync sync waitMs bitstream).1.locks,
        some (bitstream, (session.sync sync waitMs bitstream).2)⟩] := by
  rw [Session.sync, h]
  exact ⟨h.symm, rfl, rfl, (List.append_nil _).symm⟩

/-- The ways in which a session goes on with other parameters, or does not. -/
theorem resetResolution_cases (h : session.encoder = encoder.recorded) (params : EncodeParams) :
    (∃ failure, (session.resetResolution params).Records session
        [⟨.currentParams (.error failure), session.currentParams.locks, none⟩] ∧
      (session.resetResolution params).reply = resetReply failure) ∨
    ∃ current,
      (∃ failure, (session.resetResolution params).Records session
          [⟨.currentParams (.ok current), session.currentParams.locks, none⟩,
            ⟨.reset params (.error failure), (session.currentParams.state.reset params).locks,
              none⟩] ∧
        (session.resetResolution params).reply = resetReply failure) ∨
      (session.resetResolution params).Records session
          [⟨.currentParams (.ok current), session.currentParams.locks, none⟩,
            ⟨.reset params (.ok ()), (session.currentParams.state.reset params).locks, none⟩] ∧
        (session.resetResolution params).reply = .ok true := by
  have asked := records_currentParams h
  have done := records_reset (asked.encoder_eq.trans h) params
  have encoder_eq := done.encoder_eq.trans asked.encoder_eq
  have closed_eq := done.closed_eq.trans asked.closed_eq
  have record_eq := done.record_eq
  have locks_eq := congrArg (session.currentParams.locks ++ ·) done.locks_eq
  rw [asked.record_eq, List.append_assoc] at record_eq
  unfold resetResolution
  cases known : session.currentParams.reply with
  | error failure =>
    rw [known] at asked
    refine .inl ⟨failure, ?_⟩
    cases failure <;> simp only [known]
    · exact ⟨⟨asked.encoder_eq, asked.closed_eq, asked.record_eq, asked.locks_eq⟩, rfl⟩
    · exact ⟨⟨asked.encoder_eq, asked.closed_eq, asked.record_eq, asked.locks_eq⟩, rfl⟩
  | ok current =>
    rw [known] at record_eq
    refine .inr ⟨current, ?_⟩
    cases taken : (session.currentParams.state.reset params).reply with
    | error failure =>
      rw [taken] at record_eq
      refine .inl ⟨failure, ?_⟩
      cases failure <;> simp only [known, Answer.after, Answer.report, taken]
      · exact ⟨⟨encoder_eq, closed_eq, record_eq, locks_eq⟩, rfl⟩
      · exact ⟨⟨encoder_eq, closed_eq, record_eq, locks_eq⟩, rfl⟩
    | ok _ =>
      rw [taken] at record_eq
      refine .inr ?_
      simp only [known, Answer.after, Answer.report, taken]
      exact ⟨⟨encoder_eq, closed_eq, record_eq, locks_eq⟩, trivial⟩

/-- The procedure by which a session goes on with other parameters is neither a submission nor asks
for a result. -/
theorem recordsOthers_resetResolution (h : session.encoder = encoder.recorded)
    (params : EncodeParams) : (session.resetResolution params).RecordsOthers session := by
  obtain ⟨_, recorded, _⟩ | ⟨_, ⟨_, recorded, _⟩ | ⟨recorded, _⟩⟩ :=
    resetResolution_cases h params
  all_goals exact ⟨_, recorded, by simp [Turn.isWork]⟩

/-- Closing an open session closes its encoder. -/
theorem close_of_open (h : session.encoder = encoder.recorded)
    (unclosed : session.closed = false) :
    session.close.state.closed = true ∧ session.close.state.record
      = session.record ++ [⟨.close session.close.reply, session.close.locks, none⟩] := by
  rw [close, unclosed, h]
  exact ⟨rfl, rfl⟩

/-- Dropping an open session closes its encoder, too. -/
theorem drop_of_open (h : session.encoder = encoder.recorded) (unclosed : session.closed = false) :
    session.drop.state.record
      = session.record ++ [⟨.close session.close.reply, session.close.locks, none⟩] := by
  rw [← (close_of_open h unclosed).2, drop]
  dsimp only
  split <;> rfl

/-- Dropping a session that was closed does nothing. -/
theorem drop_of_closed (closed : session.closed = true) : session.drop.state = session := by
  rw [drop, close, closed]
  rfl

end Session

end Nv12Jpeg
