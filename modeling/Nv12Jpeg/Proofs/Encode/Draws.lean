import Nv12Jpeg.Proofs.Encode.Offers
import Nv12Jpeg.Proofs.Encode.Submissions

/-!
# Surfaces drawn from a source

The surfaces that a run submits are filled from a source that goes on from one to the next. What is
said of them here holds whatever the source is and whichever surfaces of a pool are used.

* `submittedIn` — the surfaces that were submitted in a sequence of calls;
* `Draws` — surfaces that were filled from a source, one after the other, as it goes on;
* `Draws.info_eq` — they are all of one geometry;
* `Draws.frames` — if the source feeds bytes, they show its frames, one after the other;
* `Draws.length_le` — so there are no more of them than whole frames.
-/

namespace Nv12Jpeg

/-- The surfaces that were submitted, in order. -/
def submittedIn (turns : List Turn) : List Submission := turns.filterMap Turn.submission?

theorem submittedIn_append (turns later : List Turn) :
    submittedIn (turns ++ later) = submittedIn turns ++ submittedIn later :=
  List.filterMap_append

/-- Filling a surface of this geometry has left its pool, and the source, in these states. Until
then files were written for frames only. -/
inductive Fills (options : EncodeOptions) (store : FileStore) (info : FrameInfo) (source : Source)
    (index : Nat) (how : FrameRead) (filled : SurfacePool) (next : Source) : Prop
  | intro {now : FileStore} {pool : SurfacePool}
      (changed : FileStore.ChangedAt (MayWrite options store) now store)
      (info_eq : pool.info = info)
      (size_eq : pool.buffer.size = pool.info.surfaceSize * pool.size)
      (within : index < pool.size)
      (read : pool.readFrame index now source = .ok (some how, filled, next))

/-- The surfaces of these submissions were filled one after the other with what a source gave from
its state `first` on, and that has left it in another state. -/
inductive Draws (options : EncodeOptions) (store : FileStore) (info : FrameInfo) (first : Source) :
    List Submission → Source → Prop
  | start : Draws options store info first [] first
  /-- A whole frame was read into a surface, and that was submitted. -/
  | frame {submissions : List Submission} {reached next : Source} {filled : SurfacePool}
      {id : SurfaceId} {surface : Surface}
      (before : Draws options store info first submissions reached)
      (fills : Fills options store info reached id.index .complete filled next)
      (shown : filled.surface? id.index = some surface) :
      Draws options store info first (submissions ++ [⟨id, surface⟩]) next
  /-- There was no whole frame. -/
  | ended {submissions : List Submission} {reached next : Source} {filled : SurfacePool}
      {index : Nat} (before : Draws options store info first submissions reached)
      (fills : Fills options store info reached index .ended filled next) :
      Draws options store info first submissions next

variable {options : EncodeOptions} {store : FileStore} {info : FrameInfo}
  {first reached next : Source} {filled : SurfacePool} {submissions : List Submission}
  {bytes : Bytes} {failure : Option IoError}

namespace Fills

variable {index : Nat} {how : FrameRead} {surface : Surface}

/-- Surfaces keep their geometry. -/
theorem surface_info (fills : Fills options store info reached index how filled next)
    (shown : filled.surface? index = some surface) : surface.info = info := by
  obtain ⟨_, info_eq, _, within, read⟩ := fills
  obtain ⟨_, data, rfl⟩ := SurfacePool.readFrame_eq_ok within read
  rw [SurfacePool.surface?_eq_some (by exact within)] at shown
  cases shown
  exact info_eq

/-- Where there are enough bytes for a frame, the surface shows it. -/
theorem frame (fills : Fills options store info reached index how filled next) (sound : info.Sound)
    (feeds : reached.Feeds store (MayWrite options store) bytes failure)
    (enough : info.rawFrameSize ≤ bytes.size) :
    how = .complete ∧
    next.Feeds store (MayWrite options store) (bytes.extract info.rawFrameSize bytes.size) failure ∧
    ∀ surface, filled.surface? index = some surface →
      surface.toFrame = .ok (info.frame bytes 0) := by
  obtain ⟨changed, rfl, size_eq, within, read⟩ := fills
  rename_i now pool
  have sound : pool.Sound := ⟨sound, size_eq⟩
  obtain ⟨data, later, read', rest, size, shows⟩ :=
    SurfacePool.readFrame_complete (feeds.of_changedAt changed) sound within enough
  rw [read'] at read
  cases read
  refine ⟨rfl, rest.of_changedAt changed.symm, fun surface shown => ?_⟩
  rw [SurfacePool.surface?_withData_self sound.size_eq within size] at shown
  cases shown
  rw [shows, FrameInfo.frame, Nat.zero_mul, Nat.zero_add]

/-- Where there are not, the source is used up. -/
theorem short (fills : Fills options store info reached index how filled next) (sound : info.Sound)
    (feeds : reached.Feeds store (MayWrite options store) bytes failure)
    (short : bytes.size < info.rawFrameSize) :
    how = .ofFailure failure ∧ next.Feeds store (MayWrite options store) #[] failure := by
  obtain ⟨changed, rfl, size_eq, within, read⟩ := fills
  obtain ⟨data, later, read', rest, _⟩ :=
    SurfacePool.readFrame_short (feeds.of_changedAt changed) ⟨sound, size_eq⟩ within short
  rw [read'] at read
  cases read
  exact ⟨rfl, rest.of_changedAt changed.symm⟩

end Fills

namespace Draws

/-- All surfaces are of one geometry. -/
theorem info_eq (draws : Draws options store info first submissions reached) :
    ∀ submission ∈ submissions, submission.surface.info = info := by
  induction draws with
  | start => exact fun _ mem => absurd mem List.not_mem_nil
  | frame _ fills shown ih =>
    intro submission mem
    rcases List.mem_append.1 mem with mem | mem
    · exact ih submission mem
    · obtain rfl := List.mem_singleton.1 mem
      exact fills.surface_info shown
  | ended _ _ ih => exact ih

/-- Surfaces drawn from a source that feeds bytes show its frames, and the source goes on behind
them, or has nothing left. -/
theorem frames (draws : Draws options store info first submissions reached) (sound : info.Sound)
    (feeds : first.Feeds store (MayWrite options store) bytes failure) :
    (∀ (i : Nat) (submission : Submission), submissions[i]? = some submission →
      (i + 1) * info.rawFrameSize ≤ bytes.size ∧
        submission.surface.toFrame = .ok (info.frame bytes i)) ∧
    ∃ rest, reached.Feeds store (MayWrite options store) rest failure ∧
      (rest = bytes.extract (submissions.length * info.rawFrameSize) bytes.size ∨ rest = #[]) := by
  have positive := sound.rawFrameSize_pos
  induction draws with
  | start =>
    refine ⟨nofun, bytes, feeds, .inl ?_⟩
    rw [List.length_nil, Nat.zero_mul, Array.extract_eq_self_of_le (Nat.le_refl _)]
  | @frame submissions _ _ _ id surface _ fills shown ih =>
    obtain ⟨shows, rest, feeds, rest_eq⟩ := ih
    rcases Nat.lt_or_ge rest.size info.rawFrameSize with short | enough
    · -- what is left is no frame, so none was read
      obtain ⟨ending, _⟩ := fills.short sound feeds short
      cases failure <;> cases ending
    · obtain ⟨_, feeds, frame⟩ := fills.frame sound feeds enough
      obtain rfl | rfl := rest_eq
      · rw [Array.size_extract] at enough
        have count : (submissions.length + 1) * info.rawFrameSize ≤ bytes.size := by
          rw [Nat.succ_mul]
          omega
        refine ⟨fun i submission nth => ?_, _, feeds, .inl ?_⟩
        · rcases Nat.lt_or_ge i submissions.length with earlier | new
          · rw [List.getElem?_append_left earlier] at nth
            exact shows i submission nth
          · obtain ⟨within, nth⟩ := List.getElem?_eq_some_iff.1 nth
            rw [List.length_append, List.length_singleton] at within
            obtain rfl : i = submissions.length := by omega
            rw [List.getElem_concat_length rfl] at nth
            cases nth
            refine ⟨count, (frame surface shown).trans ?_⟩
            rw [info.frame_extract, Nat.add_zero]
        · rw [List.length_append, List.length_singleton, Array.extract_extract, Array.size_extract,
            Nat.succ_mul]
          congr 1
          omega
      · rw [Array.size_empty] at enough
        omega
  | ended _ fills ih =>
    obtain ⟨shows, rest, feeds, _⟩ := ih
    refine ⟨shows, ?_⟩
    rcases Nat.lt_or_ge rest.size info.rawFrameSize with short | enough
    · exact ⟨_, (fills.short sound feeds short).2, .inr rfl⟩
    · cases (fills.frame sound feeds enough).1

/-- Surfaces are drawn for whole frames only. -/
theorem length_le (draws : Draws options store info first submissions reached) (sound : info.Sound)
    (feeds : first.Feeds store (MayWrite options store) bytes failure) :
    submissions.length ≤ bytes.size / info.rawFrameSize := by
  obtain ⟨shows, _⟩ := draws.frames sound feeds
  rw [Nat.le_div_iff_mul_le sound.rawFrameSize_pos]
  cases size : submissions.length with
  | zero => simp
  | succ before =>
    have nth := List.getElem?_eq_getElem (show before < submissions.length by omega)
    exact (shows before _ nth).1

end Draws

/-- What a round is about to submit was filled from the source, if it is a frame. -/
theorem EncodeM.Offers.draws {σ : Type} {draining : Bool} {context ready : EncodeContext σ}
    {submission : Option Submission} (offers : Offers draining context submission ready)
    (changed : FileStore.ChangedAt (MayWrite options store) context.store store)
    (info_eq : context.pool.info = info)
    (size_eq : context.pool.buffer.size = context.pool.info.surfaceSize * context.pool.size)
    (draws : Draws options store info first submissions context.source) :
    Draws options store info first (submissions ++ submission.toList) ready.source := by
  cases offers with
  | flush => exact (List.append_nil submissions).symm ▸ draws
  | frame free read shown =>
    obtain ⟨within, _⟩ := SurfacePool.findFree_eq_some free
    exact draws.frame (.intro changed info_eq size_eq within read) shown
  | ended free read =>
    obtain ⟨within, _⟩ := SurfacePool.findFree_eq_some free
    exact (List.append_nil submissions).symm ▸
      draws.ended (.intro changed info_eq size_eq within read)

end Nv12Jpeg
