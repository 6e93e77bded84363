import Nv12Jpeg.Proofs.Encode.Steps
import Nv12Jpeg.Proofs.Surface.Pool

/-!
# What a round has to submit

Before its submission a round fills a surface, or has come to the end of the source. Both is seen
here apart from what the encoder answers.

* `SurfacePool.readFrame_eq_ok` — filling a surface changes the bytes of a pool only;
* `EncodeM.Offers` — what a round is about to submit, and the state in which it does;
* `EncodeM.nextSubmission_cases` — a round submits what it has to offer, or fails before that
  without any call.
-/

namespace Nv12Jpeg

/-- Filling a surface of a pool changes the bytes of the pool only. -/
theorem SurfacePool.readFrame_eq_ok {pool filled : SurfacePool} {index : Nat} {store : FileStore}
    {source next : Source} {ending : Option FrameRead} (within : index < pool.size)
    (read : pool.readFrame index store source = .ok (ending, filled, next)) :
    (∃ how, ending = some how) ∧ ∃ data, filled = pool.withData index data := by
  rw [readFrame, surface?_eq_some within] at read
  obtain ⟨⟨how, surface, later⟩, _, read⟩ := bind_eq_ok.1 read
  cases read
  exact ⟨⟨how, rfl⟩, surface.data, rfl⟩

namespace EncodeM

variable {σ α : Type} {context last : EncodeContext σ}

/-- What a round is about to submit, if `draining` tells whether the source ended before, and the
state in which it does so. -/
inductive Offers : (draining : Bool) → EncodeContext σ → Option Submission → EncodeContext σ → Prop
  /-- The source has ended, so there is only a flush. -/
  | flush {context : EncodeContext σ} : Offers true context none context
  /-- A frame was read into a free surface. -/
  | frame {context : EncodeContext σ} {index : Nat} {pool : SurfacePool} {source : Source}
      {surface : Surface} (free : context.pool.findFree = some index)
      (read : context.pool.readFrame index context.store context.source
        = .ok (some .complete, pool, source))
      (shown : pool.surface? index = some surface) :
      Offers false context (some ⟨⟨context.poolNumber, index⟩, surface⟩)
        { context with pool, source }
  /-- The source ended instead. -/
  | ended {context : EncodeContext σ} {index : Nat} {pool : SurfacePool} {source : Source}
      (free : context.pool.findFree = some index)
      (read : context.pool.readFrame index context.store context.source
        = .ok (some .ended, pool, source)) :
      Offers false context none ({ context with pool, source }.report .inputEnded)

/-- Having something to submit has cost no call, and nothing was written for it. -/
theorem Offers.unchanged {draining : Bool} {submission : Option Submission}
    {ready : EncodeContext σ} (offers : Offers draining context submission ready) :
    ready.session = context.session ∧ ready.options = context.options ∧
      ready.framesWritten = context.framesWritten := by
  cases offers <;> exact ⟨rfl, rfl, rfl⟩

/-- A round fails before its submission: no surface is free, or it cannot be filled. -/
inductive Unoffered (context : EncodeContext σ) : Failure EncodeError → EncodeContext σ → Prop
  | noFreeSurface (used : context.pool.findFree = none) :
      Unoffered context (.error (.noFreeSurface context.pool.size)) context
  | fault {index : Nat} {fault : Fault} (free : context.pool.findFree = some index)
      (stopped : context.pool.readFrame index context.store context.source = .error fault) :
      Unoffered context (.fault fault) context
  | unread {index : Nat} {pool : SurfacePool} {source : Source} {error : IoError}
      (free : context.pool.findFree = some index)
      (read : context.pool.readFrame index context.store context.source
        = .ok (some (.failed error), pool, source)) :
      Unoffered context (.error (.inputNotRead error)) { context with pool, source }

theorem run_call_pair {make : Session σ → Answer (Session σ) α} {ended : Bool} :
    (call make >>= fun reply => pure (reply, ended)).run context =
      ((heard (make context.session).reply).map (·, ended),
        context.book (make context.session)) := by
  rw [run_bind, run_call]
  cases heard (make context.session).reply <;> rfl

/-- What a round has to submit after filling a surface, or why it fails. -/
def offered (submission : Option Submission) :
    FrameRead → Except (Failure EncodeError) (Option Submission)
  | .complete => .ok submission
  | .ended => .ok none
  | .failed error => .error (.error (.inputNotRead error))

theorem run_readFrame {index : Nat} {how : FrameRead} {pool : SurfacePool} {source : Source}
    (free : context.pool.findFree = some index)
    (read : context.pool.readFrame index context.store context.source
      = .ok (some how, pool, source)) :
    readFrame.run context = (offered ((pool.surface? index).map fun surface =>
      ⟨⟨context.poolNumber, index⟩, surface⟩) how, { context with pool, source }) := by
  rw [readFrame, run_bind_ok (run_get context), free]
  dsimp only
  rw [read, run_bind_ok (run_ofFault _ _), run_bind_ok (run_set _ _)]
  cases how <;> rfl

/-- A round submits what it has to offer, or fails before that. -/
theorem nextSubmission_cases (draining : Bool) (context : EncodeContext σ) :
    (∃ submission ready, Offers draining context submission ready ∧
      (nextSubmission draining).run context =
        ((heard (ready.session.submit submission).reply).map (·, submission.isNone),
          ready.book (ready.session.submit submission))) ∨
    ∃ failure last, draining = false ∧ Unoffered context failure last ∧
      readFrame.run context = (.error failure, last) ∧
      (nextSubmission draining).run context = (.error failure, last) := by
  cases draining with
  | true => exact .inl ⟨none, context, .flush, run_call_pair⟩
  | false =>
  rw [nextSubmission, if_neg Bool.false_ne_true]
  cases free : context.pool.findFree with
  | none =>
    have read := run_readFrame_none free
    exact .inr ⟨_, context, rfl, .noFreeSurface free, read, run_bind_error read⟩
  | some index =>
  obtain ⟨within, _⟩ := SurfacePool.findFree_eq_some free
  cases read : context.pool.readFrame index context.store context.source with
  | error fault =>
    have fails : readFrame.run context = (.error (.fault fault), context) := by
      rw [readFrame, run_bind_ok (run_get context), free]
      dsimp only
      rw [read]
      rfl
    exact .inr ⟨_, context, rfl, .fault free read, fails, run_bind_error fails⟩
  | ok result =>
  obtain ⟨ending, pool, source⟩ := result
  obtain ⟨⟨how, rfl⟩, data, rfl⟩ := SurfacePool.readFrame_eq_ok within read
  have reads := run_readFrame free read
  cases how with
  | complete =>
    have shown := SurfacePool.surface?_eq_some
      (show index < (context.pool.withData index data).size from within)
    rw [shown] at reads
    exact .inl ⟨_, _, .frame free read shown, by rw [run_bind_ok reads]; exact run_call_pair⟩
  | ended =>
    refine .inl ⟨none, _, .ended free read, ?_⟩
    rw [run_bind_ok reads]
    dsimp only [Option.map]
    rw [run_bind_ok (run_report _ _)]
    exact run_call_pair
  | failed error => exact .inr ⟨_, _, rfl, .unread free read, reads, run_bind_error reads⟩

end EncodeM

end Nv12Jpeg
