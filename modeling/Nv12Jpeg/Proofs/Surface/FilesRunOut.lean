import Nv12Jpeg.Proofs.FileStore
import Nv12Jpeg.Proofs.Surface.Pool

/-!
# Files run out

A file that is read frame by frame may be written over meanwhile, so which bytes it will deliver is
not known beforehand. But it runs out all the same: no byte is delivered from an offset twice, and
no offset lies behind the largest file there is.

* `FileStore.Within` — a bound on the sizes of files, and `FileStore.Within.write`, that it is kept
  where a file within the bound is written;
* `FileReader.left` — how many bytes a reader can still deliver, given such a bound;
* `Source.Leaves` — a file that can deliver no more than so many bytes;
* `SurfacePool.readFrame_leaves` — a frame takes its bytes off.
-/

namespace Nv12Jpeg

/-! ## Sizes of files -/

namespace FileStore

/-- No file has more than `bound` bytes. -/
def Within (store : FileStore) (bound : Nat) : Prop :=
  ∀ location bytes, store.find? location = some (.file bytes) → bytes.size ≤ bound

variable {store next : FileStore} {bound : Nat}

theorem within_of_size_le (le : store.size ≤ bound) : store.Within bound :=
  fun _ _ found => Nat.le_trans (size_le_size found) le

/-- One more file within the bound. -/
theorem Within.write (within : store.Within bound) {location : Location} {bytes : Bytes}
    (changed : ChangedAt (· = location) next store)
    (found : next.find? location = some (.file bytes)) (small : bytes.size ≤ bound) :
    next.Within bound := by
  intro other bytes' found'
  by_cases same : other = location
  · rw [same, found] at found'
    cases found'
    exact small
  · exact within other bytes' (changed.others other same ▸ found')

theorem Within.contents (within : store.Within bound) {location : Location} {bytes : Bytes}
    (opened : store.contents location = .ok bytes) : bytes.size ≤ bound := by
  unfold FileStore.contents at opened
  split at opened
  · rename_i found
    cases opened
    exact within _ _ found
  · cases opened
  · cases opened
    exact Nat.zero_le _

end FileStore

/-! ## Readers -/

namespace FileReader

variable {store : FileStore} {bound count : Nat} {reader next : FileReader} {part : Bytes}

/-- How many bytes a reader can still deliver if no file has more than `bound` bytes: those in its
buffer, and those behind its offset. -/
def left (reader : FileReader) (bound : Nat) : Nat := reader.waiting + (bound - reader.offset)

/-- What is handed out of the buffer is not left. -/
theorem left_take (reader : FileReader) (count : Nat) :
    (reader.take count).2.left bound + (reader.take count).1.size ≤ reader.left bound := by
  have size : (reader.take count).1.size
      = min (reader.used + count) reader.buffer.size - reader.used := Array.size_extract
  have waiting : (reader.take count).2.waiting
      = reader.buffer.size - (reader.used + (reader.take count).1.size) := rfl
  have offset : (reader.take count).2.offset = reader.offset := rfl
  rw [left, left, waiting, offset, FileReader.waiting]
  omega

/-- What is taken from the file lies behind the offset. -/
theorem size_fetch_le (within : store.Within bound)
    (fetched : reader.fetch store count = .ok part) :
    part.size ≤ bound - reader.offset := by
  obtain ⟨contents, opened, same⟩ := bind_eq_ok.1 fetched
  cases same
  have stored := within.contents opened
  rw [Array.size_extract]
  omega

/-- One read takes what it delivers off. -/
theorem left_read (within : store.Within bound)
    (read : reader.read store count = .ok (part, next)) :
    next.left bound + part.size ≤ reader.left bound := by
  unfold FileReader.read at read
  split at read
  · cases read
    exact reader.left_take count
  · split at read
    · obtain ⟨part, fetched, same⟩ := bind_eq_ok.1 read
      cases same
      have behind := size_fetch_le within fetched
      rw [left, left]
      show (0 - 0) + (bound - (reader.offset + part.size)) + part.size ≤ _
      omega
    · obtain ⟨buffer, fetched, same⟩ := bind_eq_ok.1 read
      have behind := size_fetch_le within fetched
      have taken := @left_take bound
        { reader with offset := reader.offset + buffer.size, buffer, used := 0 } count
      rw [Except.ok.inj same] at taken
      have filled : left { reader with
          offset := reader.offset + buffer.size, buffer, used := 0 } bound
          = buffer.size - 0 + (bound - (reader.offset + buffer.size)) := rfl
      rw [filled] at taken
      show next.left bound + part.size ≤ reader.waiting + (bound - reader.offset)
      dsimp only at taken
      omega

/-- Reading on takes all that was asked for off, if it is delivered. By induction on the reads. -/
theorem left_readOn (within : store.Within bound) {reads : Nat} {reading : Reading}
    (read : readOn store reads reader count part = (reading, next)) :
    next.left bound ≤ reader.left bound ∧
      (reading.ending = .complete → next.left bound + count ≤ reader.left bound) := by
  induction reads generalizing reader count part with
  | zero =>
    cases read
    refine ⟨Nat.le_refl _, fun complete => ?_⟩
    dsimp only at complete
    split at complete
    · omega
    · cases complete
  | succ reads ih =>
    rw [readOn] at read
    split at read
    · cases read
      exact ⟨Nat.le_refl _, fun _ => by omega⟩
    · split at read
      · cases read
        exact ⟨Nat.le_refl _, fun complete => by cases complete⟩
      · rename_i more later one
        have taken := left_read within one
        split at read
        · cases read
          exact ⟨by omega, fun complete => by cases complete⟩
        · obtain ⟨less, all⟩ := ih read
          refine ⟨by omega, fun complete => ?_⟩
          have all := all complete
          omega

end FileReader

/-! ## Sources -/

/-- A file that delivers no more than `left` bytes, if no file has more than `bound`. -/
def Source.Leaves (source : Source) (bound left : Nat) : Prop :=
  ∃ reader, source = .file reader ∧ reader.left bound ≤ left

namespace Source.Leaves

variable {store : FileStore} {source next : Source} {bound left more count : Nat}

theorem mono (leaves : source.Leaves bound left) (le : left ≤ more) : source.Leaves bound more := by
  obtain ⟨reader, file, less⟩ := leaves
  exact ⟨reader, file, Nat.le_trans less le⟩

/-- A file that is opened can deliver as many bytes as the largest file. -/
theorem of_openFile {path : String} (opened : Source.openFile store path = .ok source) :
    source.Leaves bound bound := by
  obtain ⟨location, _, same⟩ := bind_eq_ok.1 opened
  cases same
  refine ⟨_, rfl, ?_⟩
  show (0 - 0) + (bound - 0) ≤ bound
  omega

theorem readExact (leaves : source.Leaves bound left) (within : store.Within bound)
    {reading : Reading} (read : source.readExact store count = (reading, next)) :
    next.Leaves bound left ∧ (reading.ending = .complete →
      count ≤ left ∧ next.Leaves bound (left - count)) := by
  obtain ⟨reader, rfl, less⟩ := leaves
  cases read
  obtain ⟨fewer, all⟩ := @FileReader.left_readOn store bound count reader _ #[] within (count + 1) _
    rfl
  refine ⟨⟨_, rfl, Nat.le_trans fewer less⟩, fun complete => ?_⟩
  have all := all complete
  exact ⟨by omega, ⟨_, rfl, Nat.le_sub_of_add_le (Nat.le_trans all less)⟩⟩

/-- Rows take their bytes off, if they are all delivered. The induction is on their number. -/
theorem readRows (leaves : source.Leaves bound left) (within : store.Within bound)
    {row pitch start : Nat} {data filled : Bytes} {ending : FrameRead}
    (read : Surface.readRows store row pitch count start data source = .ok (ending, filled, next)) :
    next.Leaves bound left ∧ (ending = .complete →
      count * row ≤ left ∧ next.Leaves bound (left - count * row)) := by
  induction count generalizing start data source left with
  | zero =>
    cases read
    refine ⟨leaves, fun _ => ?_⟩
    rw [Nat.zero_mul]
    exact ⟨Nat.zero_le _, leaves⟩
  | succ count ih =>
    rw [Surface.readRows] at read
    split at read
    · split at read
      · rename_i one
        obtain ⟨_, all⟩ := leaves.readExact within one
        obtain ⟨enough, fewer⟩ := all rfl
        obtain ⟨rest, whole⟩ := ih fewer read
        refine ⟨rest.mono (Nat.sub_le _ _), fun complete => ?_⟩
        obtain ⟨enough', last⟩ := whole complete
        have split : left - row - count * row = left - (count + 1) * row := by
          rw [Nat.succ_mul, Nat.sub_sub, Nat.add_comm]
        rw [split] at last
        rw [Nat.succ_mul] at last ⊢
        exact ⟨by omega, last⟩
      · rename_i other one
        cases read
        obtain ⟨rest, _⟩ := leaves.readExact within one
        exact ⟨rest, fun complete => absurd complete other⟩
    · cases read

/-- A frame takes its bytes off, if it is complete. -/
theorem readFrame (leaves : source.Leaves bound left) (within : store.Within bound)
    {surface filled : Surface} {ending : FrameRead}
    (read : surface.readFrame store source = .ok (ending, filled, next)) :
    next.Leaves bound left ∧ (ending = .complete →
      surface.info.rawFrameSize ≤ left ∧ next.Leaves bound (left - surface.info.rawFrameSize)) := by
  obtain ⟨⟨luma, half, later⟩, first, read⟩ := bind_eq_ok.1 read
  obtain ⟨rest, all⟩ := leaves.readRows within first
  cases luma with
  | complete =>
    obtain ⟨enough, fewer⟩ := all rfl
    obtain ⟨⟨chroma, whole, last⟩, second, same⟩ := bind_eq_ok.1 read
    cases same
    obtain ⟨rest', all'⟩ := fewer.readRows within second
    refine ⟨rest'.mono (Nat.sub_le _ _), fun complete => ?_⟩
    obtain ⟨enough', last⟩ := all' complete
    rw [FrameInfo.rawFrameSize, Nat.mul_comm surface.info.cropW.toNat,
      Nat.mul_comm (chromaRowBytes _), ← Nat.sub_sub]
    exact ⟨by omega, last⟩
  | ended =>
    cases read
    exact ⟨rest, fun complete => by cases complete⟩
  | failed error =>
    cases read
    exact ⟨rest, fun complete => by cases complete⟩

end Source.Leaves

/-- Filling a surface of a pool takes the bytes of a frame off, if it is complete. -/
theorem SurfacePool.readFrame_leaves {pool filled : SurfacePool} {index : Nat} {store : FileStore}
    {source next : Source} {bound left : Nat} {ending : FrameRead}
    (leaves : source.Leaves bound left) (within : store.Within bound)
    (read : pool.readFrame index store source = .ok (some ending, filled, next)) :
    ending = .complete →
      pool.info.rawFrameSize ≤ left ∧ next.Leaves bound (left - pool.info.rawFrameSize) := by
  rw [readFrame] at read
  split at read
  · cases read
  · rename_i surface shown
    obtain ⟨⟨how, surface', later⟩, one, same⟩ := bind_eq_ok.1 read
    cases same
    rw [← info_of_surface?_eq_some shown]
    exact (leaves.readFrame within one).2

end Nv12Jpeg
