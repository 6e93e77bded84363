import Nv12Jpeg.Encode.Options
import Nv12Jpeg.Session

/-!
# Encoders that answer from sequences

An encoder whose replies to submissions and waits are laid down beforehand does not look at what it
is given. What it is asked besides is left to another encoder, and it keeps no guards.

* `ReplySequences.encoder` — such an encoder; it counts the calls it has answered;
* `ReplySequences.inserting` — the same replies with some more put in;
* `ReplySequences.Resumes` — replies that go on as others do, some places further on;
* `Drops` — the replies after which a frame is dropped.
-/

namespace Nv12Jpeg

variable {α τ : Type}

/-- How many calls were answered from sequences, by kind. -/
structure CallCounts where
  /-- The surfaces submitted. -/
  surfaces : Nat
  flushes : Nat
  /-- The attempts at collecting a result. -/
  waits : Nat
  deriving DecidableEq, Repr

namespace CallCounts

/-- No call yet. -/
def zero : CallCounts := ⟨0, 0, 0⟩

instance : Add CallCounts where
  add counts more :=
    ⟨counts.surfaces + more.surfaces, counts.flushes + more.flushes, counts.waits + more.waits⟩

instance : LE CallCounts where
  le counts more :=
    counts.surfaces ≤ more.surfaces ∧ counts.flushes ≤ more.flushes ∧ counts.waits ≤ more.waits

theorem le_refl (counts : CallCounts) : counts ≤ counts :=
  ⟨Nat.le_refl _, Nat.le_refl _, Nat.le_refl _⟩

theorem le_trans {counts more most : CallCounts} (h : counts ≤ more) (h' : more ≤ most) :
    counts ≤ most :=
  ⟨Nat.le_trans h.1 h'.1, Nat.le_trans h.2.1 h'.2.1, Nat.le_trans h.2.2 h'.2.2⟩

/-- One more submission, of a surface or to flush. -/
def submitted (counts : CallCounts) (flush : Bool) : CallCounts :=
  if flush then { counts with flushes := counts.flushes + 1 }
  else { counts with surfaces := counts.surfaces + 1 }

/-- One more attempt at collecting a result. -/
def waited (counts : CallCounts) : CallCounts := { counts with waits := counts.waits + 1 }

theorem le_submitted (counts : CallCounts) (flush : Bool) : counts ≤ counts.submitted flush := by
  cases flush
  · exact ⟨Nat.le_succ _, Nat.le_refl _, Nat.le_refl _⟩
  · exact ⟨Nat.le_refl _, Nat.le_succ _, Nat.le_refl _⟩

theorem le_waited (counts : CallCounts) : counts ≤ counts.waited :=
  ⟨Nat.le_refl _, Nat.le_refl _, Nat.le_succ _⟩

theorem submitted_add (counts ahead : CallCounts) (flush : Bool) :
    (counts + ahead).submitted flush = counts.submitted flush + ahead := by
  cases flush
  · exact congrArg (CallCounts.mk · _ _) (Nat.add_right_comm _ _ _)
  · exact congrArg (CallCounts.mk _ · _) (Nat.add_right_comm _ _ _)

theorem waited_add (counts ahead : CallCounts) :
    (counts + ahead).waited = counts.waited + ahead :=
  congrArg (CallCounts.mk _ _) (Nat.add_right_comm _ _ _)

end CallCounts

/-! ## Sequences -/

/-- What comes of an attempt at collecting a result where the output buffer has some room: the bytes
that are put into it if they fit, and the reply. -/
abbrev WaitReply := (room : Nat) → Bytes × Except EncoderError SyncStatus

/-- Replies to submissions and waits, each by the number of calls of its kind before. -/
structure ReplySequences where
  surfaces : Nat → Except EncoderError SubmitStatus
  flushes : Nat → Except EncoderError SubmitStatus
  waits : Nat → WaitReply

/-- A sequence with elements put in at a place. -/
def insertAt (sequence : Nat → α) (place : Nat) (elements : List α) (n : Nat) : α :=
  if n < place then sequence n
  else elements.getD (n - place) (sequence (n - elements.length))

theorem insertAt_of_lt {sequence : Nat → α} {place n : Nat} {elements : List α} (h : n < place) :
    insertAt sequence place elements n = sequence n :=
  if_pos h

theorem insertAt_add {sequence : Nat → α} {place k : Nat} {elements : List α} {element : α}
    (h : elements[k]? = some element) : insertAt sequence place elements (place + k) = element := by
  rw [insertAt, if_neg (by omega), Nat.add_sub_cancel_left, List.getD_eq_getElem?_getD, h,
    Option.getD_some]

theorem insertAt_of_le {sequence : Nat → α} {place n : Nat} {elements : List α} (h : place ≤ n) :
    insertAt sequence place elements (n + elements.length) = sequence n := by
  rw [insertAt, if_neg (by omega), List.getD_eq_getElem?_getD,
    List.getElem?_eq_none (by omega), Option.getD_none, Nat.add_sub_cancel]

/-- The bytes that wait with `payload` behind them if all of it fits. -/
def Bitstream.offered (bitstream : Bitstream) (payload : Bytes) : Bitstream :=
  match bitstream.append payload with
  | .ok next => next
  | .error _ => bitstream

/-- The same answer with its state seen beside the counts of calls, and without guards. -/
def Answer.beside (answer : Answer τ α) (counts : CallCounts) : Answer (τ × CallCounts) α :=
  ⟨answer.reply, (answer.state, counts), answer.events, []⟩

namespace ReplySequences

/-- The reply to the next submission of a surface, or to the next flush. -/
def reply (replies : ReplySequences) (counts : CallCounts) (flush : Bool) :
    Except EncoderError SubmitStatus :=
  if flush then replies.flushes counts.flushes else replies.surfaces counts.surfaces

/-- Answers submissions and waits from the sequences, whatever is submitted or waited for, and all
else as `others` does. -/
def encoder (replies : ReplySequences) (others : Encoder τ) : Encoder (τ × CallCounts) where
  implementation := fun state => others.implementation state.1
  attach := fun accelerator state => (others.attach accelerator state.1).beside state.2
  query := fun params state => (others.query params state.1).beside state.2
  init := fun params state => (others.init params state.1).beside state.2
  surfaceRequest := fun params state => (others.surfaceRequest params state.1).beside state.2
  currentParams := fun state => (others.currentParams state.1).beside state.2
  reset := fun params state => (others.reset params state.1).beside state.2
  submit := fun submission (state, counts) =>
    .quiet (.ofError (replies.reply counts submission.isNone))
      (state, counts.submitted submission.isNone)
  sync := fun _ _ bitstream (state, counts) =>
    let (added, reply) := replies.waits counts.waits bitstream.available
    (.quiet (.ofError reply) (state, counts.waited), bitstream.offered added)
  close := fun state => (others.close state.1).beside state.2

/-- The same replies with one more for a surface, and some more for waits. -/
def inserting (replies : ReplySequences) (surface : Nat) (reply : Except EncoderError SubmitStatus)
    (wait : Nat) (waits : List WaitReply) : ReplySequences where
  surfaces := insertAt replies.surfaces surface [reply]
  flushes := replies.flushes
  waits := insertAt replies.waits wait waits

/-- From some counts up to others, the replies `later` are those of `replies`, `ahead` further
on. -/
structure Resumes (replies later : ReplySequences) (ahead first bound : CallCounts) : Prop where
  surfaces : ∀ n, first.surfaces ≤ n → n < bound.surfaces →
    later.surfaces (n + ahead.surfaces) = replies.surfaces n
  flushes : ∀ n, first.flushes ≤ n → n < bound.flushes →
    later.flushes (n + ahead.flushes) = replies.flushes n
  waits : ∀ n, first.waits ≤ n → n < bound.waits →
    later.waits (n + ahead.waits) = replies.waits n

namespace Resumes

variable {replies later : ReplySequences} {ahead first next bound : CallCounts}
  {reply : Except EncoderError SubmitStatus} {surface wait : Nat} {waits : List WaitReply}

theorem from_next (resumes : Resumes replies later ahead first bound) (le : first ≤ next) :
    Resumes replies later ahead next bound where
  surfaces := fun n h => resumes.surfaces n (Nat.le_trans le.1 h)
  flushes := fun n h => resumes.flushes n (Nat.le_trans le.2.1 h)
  waits := fun n h => resumes.waits n (Nat.le_trans le.2.2 h)

theorem reply_add (resumes : Resumes replies later ahead first bound) {flush : Bool}
    (within : first.submitted flush ≤ bound) :
    later.reply (first + ahead) flush = replies.reply first flush := by
  cases flush
  · exact resumes.surfaces _ (Nat.le_refl _) within.1
  · exact resumes.flushes _ (Nat.le_refl _) within.2.1

theorem waits_add (resumes : Resumes replies later ahead first bound)
    (within : first.waited ≤ bound) :
    later.waits (first + ahead).waits = replies.waits first.waits :=
  resumes.waits _ (Nat.le_refl _) within.2.2

theorem none : Resumes replies later ahead first first where
  surfaces := fun _ h h' => absurd h (Nat.not_le_of_lt h')
  flushes := fun _ h h' => absurd h (Nat.not_le_of_lt h')
  waits := fun _ h h' => absurd h (Nat.not_le_of_lt h')

/-- Before the place where replies are put in nothing has changed. -/
theorem before (lt : bound.surfaces ≤ surface) (lt' : bound.waits ≤ wait) :
    Resumes replies (replies.inserting surface reply wait waits) .zero first bound where
  surfaces := fun _ _ h => insertAt_of_lt (Nat.lt_of_lt_of_le h lt)
  flushes := fun _ _ _ => rfl
  waits := fun _ _ h => insertAt_of_lt (Nat.lt_of_lt_of_le h lt')

/-- Behind them the others follow. -/
theorem behind (le : surface ≤ first.surfaces) (le' : wait ≤ first.waits) :
    Resumes replies (replies.inserting surface reply wait waits) ⟨1, 0, waits.length⟩ first
      bound where
  surfaces := fun _ h _ => @insertAt_of_le _ _ _ _ [reply] (Nat.le_trans le h)
  flushes := fun _ _ _ => rfl
  waits := fun _ h _ => insertAt_of_le (Nat.le_trans le' h)

end Resumes

variable {replies : ReplySequences} {others : Encoder τ} {session : Session (τ × CallCounts)}

/-- What a submission is answered with. -/
theorem submit_eq (same : session.encoder = replies.encoder others)
    (submission : Option Submission) :
    session.submit submission = .quiet
      (.ofError (replies.reply session.state.2 submission.isNone))
      { session with state := (session.state.1, session.state.2.submitted submission.isNone) } := by
  obtain ⟨_, _, _⟩ := session
  subst same
  rfl

/-- What an attempt at collecting a result is answered with. -/
theorem sync_eq (same : session.encoder = replies.encoder others) (sync : SyncPoint) (waitMs : Nat)
    (bitstream : Bitstream) :
    session.sync sync waitMs bitstream =
      (.quiet (.ofError (replies.waits session.state.2.waits bitstream.available).2)
          { session with state := (session.state.1, session.state.2.waited) },
        bitstream.offered (replies.waits session.state.2.waits bitstream.available).1) := by
  obtain ⟨_, _, _⟩ := session
  subst same
  rfl

/-! ### Other calls -/

/-- An answer that comes with a state and whether the session is closed then, as one with the
session, and without guards. -/
def leaving (replies : ReplySequences) (others : Encoder τ) (counts : CallCounts)
    (answer : Answer (τ × Bool) α) : Answer (Session (τ × CallCounts)) α where
  reply := answer.reply
  state := ⟨replies.encoder others, (answer.state.1, counts), answer.state.2⟩
  events := answer.events
  locks := []

/-- A call that the sequences have no part in, nor guards. -/
def Common (others : Encoder τ)
    (make : Session (τ × CallCounts) → Answer (Session (τ × CallCounts)) α) : Prop :=
  ∃ answer : τ → Bool → Answer (τ × Bool) α,
    ∀ (replies : ReplySequences) (state : τ × CallCounts) (closed : Bool),
      make ⟨replies.encoder others, state, closed⟩ =
        replies.leaving others state.2 (answer state.1 closed)

theorem Common.eq {make : Session (τ × CallCounts) → Answer (Session (τ × CallCounts)) α}
    (common : Common others make) (same : session.encoder = replies.encoder others) :
    ∃ reply state closed events, make session =
      ⟨reply, ⟨replies.encoder others, (state, session.state.2), closed⟩, events, []⟩ := by
  obtain ⟨_, made⟩ := common
  obtain ⟨_, state, closed⟩ := session
  subst same
  exact ⟨_, _, _, _, made replies state closed⟩

/-- A call that is passed on. -/
theorem common_of_pass {make : Session (τ × CallCounts) → Answer (Session (τ × CallCounts)) α}
    (call : τ → Answer τ α)
    (passes : ∀ (replies : ReplySequences) (state : τ × CallCounts) (closed : Bool),
      make ⟨replies.encoder others, state, closed⟩ =
        Session.pass ⟨replies.encoder others, state, closed⟩
          fun state => (call state.1).beside state.2) :
    Common others make :=
  ⟨fun state closed => (call state).mapState (·, closed), passes⟩

theorem common_attach (accelerator : Accelerator) :
    Common others (Session.attach accelerator) :=
  common_of_pass (others.attach accelerator) fun _ _ _ => rfl

theorem common_init (params : EncodeParams) : Common others (Session.init params) :=
  common_of_pass (others.init params) fun _ _ _ => rfl

theorem common_surfaceRequest (params : EncodeParams) :
    Common others (Session.surfaceRequest params) :=
  common_of_pass (others.surfaceRequest params) fun _ _ _ => rfl

theorem common_query (params : EncodeParams) : Common others (Session.query params) := by
  refine ⟨fun state closed => (Session.query params ⟨others, state, closed⟩).mapState
    fun session => (session.state, session.closed), fun replies state closed => ?_⟩
  simp only [Session.query, Session.pass, ReplySequences.encoder, Answer.mapState, Answer.beside]
  split <;> rfl

theorem common_close : Common others Session.close := by
  refine ⟨fun state closed => (Session.close ⟨others, state, closed⟩).mapState
    fun session => (session.state, session.closed), fun replies state closed => ?_⟩
  cases closed <;> rfl

end ReplySequences

/-! ## Dropped frames -/

/-- The reply to the submission of a frame, and the replies to the waits that follow it, after which
the frame is dropped: it was not taken, or there is no result to wait for, or its result does not
fit into the output buffer. -/
inductive Drops (policy : SyncPolicy) : Except EncoderError SubmitStatus → List WaitReply → Prop
  | noRoom (needed available : Nat) : Drops policy (.error (.notEnoughBuffer needed available)) []
  | lost (detail : String) : Drops policy (.error (.deviceLost detail)) []
  | busy (detail : String) : Drops policy (.error (.temporaryBackpressure detail)) []
  | unwaited : Drops policy (.ok (.queued none)) []
  | wanting : Drops policy (.ok .moreData) []
  /-- Fewer waits than there may be find it in the making, and the last one that it is too large,
  whatever they have put into the buffer. -/
  | tooLarge {sync : SyncPoint} {vain : List WaitReply} {last : WaitReply}
      (within : vain.length < policy.attempts)
      (executing : ∀ wait ∈ vain, ∀ room, (wait room).2 = .ok .inExecution)
      (large : ∀ room, ∃ needed available,
        (last room).2 = .error (.notEnoughBuffer needed available)) :
      Drops policy (.ok (.queued (some sync))) (vain ++ [last])

end Nv12Jpeg
