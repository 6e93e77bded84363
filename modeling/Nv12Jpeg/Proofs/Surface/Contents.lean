import Nv12Jpeg.Proofs.Encoder.ParamsCheck
import Nv12Jpeg.Proofs.Surface.Pool

/-!
# The bytes of a pool after a frame was read

A pool is one buffer, and reading a frame into one of its surfaces writes rows into that buffer.

* `FrameInfo.covering_of_covers` — sides that pass the check of the parameters leave room for every
  row, of an empty crop too;
* `SurfacePool.getElem?_withData_self` and `SurfacePool.getElem?_withData_of_same` — the buffer byte
  by byte, once a surface got new bytes;
* `SurfacePool.readFrame_fills_crop` — where each byte of the source goes, how reading ends, and
  which bytes of the buffer stay.
-/

namespace Nv12Jpeg

/-- Sides that pass the check of the parameters cover the crop. -/
theorem FrameInfo.covering_of_covers {info : FrameInfo} (wide : covers info.width info.cropW = true)
    (high : covers info.height info.cropH = true) : info.Covering := by
  obtain ⟨wide_16, wide⟩ := EncodeParams.covers_iff.1 wide
  obtain ⟨high_16, high⟩ := EncodeParams.covers_iff.1 high
  exact ⟨wide, high, by omega, by omega⟩

namespace SurfacePool

variable {pool : SurfacePool} {index : Nat} {data : Bytes}

/-- A byte of a surface that got new bytes. -/
theorem getElem?_withData_self (size_eq : pool.buffer.size = pool.info.surfaceSize * pool.size)
    (within : index < pool.size) (size : data.size = pool.info.surfaceSize) {inner : Nat}
    (inside : inner < pool.info.surfaceSize) :
    (pool.withData index data).buffer[pool.offset index + inner]? = data[inner]? := by
  have room := offset_add_le size_eq within
  show (pool.buffer.write (pool.offset index) data)[pool.offset index + inner]? = _
  rw [Bytes.getElem?_write, if_pos (by omega), Nat.add_sub_cancel_left]

/-- A byte that a surface has in common with the bytes put in its place, or that is not in it. -/
theorem getElem?_withData_of_same (size : data.size = pool.info.surfaceSize) {place : Nat}
    (same : ∀ inner < pool.info.surfaceSize, place = pool.offset index + inner →
      data[inner]? = pool.buffer[place]?) :
    (pool.withData index data).buffer[place]? = pool.buffer[place]? := by
  show (pool.buffer.write (pool.offset index) data)[place]? = _
  rw [Bytes.getElem?_write]
  split
  · exact same _ (by omega) (by omega)
  · rfl

variable {source : Source} {store : FileStore} {written : Location → Prop} {bytes : Bytes}
  {failure : Option IoError}

/-- Reading a frame into a surface of the pool is reading it into that surface by itself, and
changes no place of the buffer but the visible ones of that surface. -/
theorem readFrame_of_surface (feeds : source.Feeds store written bytes failure)
    (covering : pool.info.Covering)
    (size_eq : pool.buffer.size = pool.info.surfaceSize * pool.size) (within : index < pool.size)
    {ending : FrameRead} {next : Source} (size : data.size = pool.info.surfaceSize)
    (read : Surface.readFrame ⟨pool.info,
        pool.buffer.extract (pool.offset index) (pool.offset index + pool.info.surfaceSize)⟩
      store source = .ok (ending, ⟨pool.info, data⟩, next)) :
    pool.readFrame index store source = .ok (some ending, pool.withData index data, next) ∧
    ∀ place, (∀ inner, pool.info.Visible inner → place ≠ pool.offset index + inner) →
      (pool.withData index data).buffer[place]? = pool.buffer[place]? := by
  constructor
  · rw [readFrame, surface?_eq_some within]
    exact bind_eq_ok.2 ⟨_, read, rfl⟩
  · intro place outside
    refine getElem?_withData_of_same size fun inner inside place_eq => ?_
    have same := Surface.readFrame_elsewhere feeds covering
      (Bytes.size_extract_add (offset_add_le size_eq within)) read
      fun visible => outside inner visible place_eq
    rw [place_eq]
    exact same.trans ((Bytes.getElem?_extract_add _ _ _ _).trans (if_pos inside))

/-- Reading a frame never leaves the buffer. It is complete if and only if the source has all
bytes of a frame, and then the source is behind exactly these, which are the visible bytes in the
order of luma rows and chroma rows. Otherwise it ends as the source does. In each case padding and
the other surfaces stay as they are. -/
theorem readFrame_fills_crop (wide : covers pool.info.width pool.info.cropW = true)
    (high : covers pool.info.height pool.info.cropH = true)
    (size_eq : pool.buffer.size = pool.info.surfaceSize * pool.size) (within : index < pool.size)
    (feeds : source.Feeds store written bytes failure) :
    ∃ (ending : FrameRead) (filled : SurfacePool) (next : Source),
      pool.readFrame index store source = .ok (some ending, filled, next) ∧
      (ending = .complete ↔ pool.info.rawFrameSize ≤ bytes.size) ∧
      (bytes.size < pool.info.rawFrameSize → ending = .ofFailure failure) ∧
      (pool.info.rawFrameSize ≤ bytes.size →
        next.Feeds store written (bytes.extract pool.info.rawFrameSize bytes.size) failure ∧
        (∀ y < pool.info.cropH.toNat, ∀ x < pool.info.cropW.toNat,
          filled.buffer[pool.offset index + (y * pool.info.pitch + x)]?
            = bytes[y * pool.info.cropW.toNat + x]?) ∧
        ∀ r < chromaRows pool.info.cropH.toNat, ∀ c < chromaRowBytes pool.info.cropW.toNat,
          filled.buffer[pool.offset index + (pool.info.chromaOffset + r * pool.info.pitch + c)]?
            = bytes[pool.info.cropW.toNat * pool.info.cropH.toNat
                + r * chromaRowBytes pool.info.cropW.toNat + c]?) ∧
      (∀ place, (∀ inner, pool.info.Visible inner → place ≠ pool.offset index + inner) →
        filled.buffer[place]? = pool.buffer[place]?) ∧
      (∀ other ≠ index, filled.surface? other = pool.surface? other) ∧
      filled.info = pool.info ∧ filled.locks = pool.locks ∧
      filled.buffer.size = pool.buffer.size := by
  have covering := FrameInfo.covering_of_covers wide high
  have surface_size := Bytes.size_extract_add (offset_add_le size_eq within)
  by_cases enough : pool.info.rawFrameSize ≤ bytes.size
  · obtain ⟨data, next, read, rest, size, lumas, chromas⟩ := Surface.readFrame_rows feeds
      (show (Surface.mk pool.info _).info.Covering from covering) surface_size rfl rfl enough
    obtain ⟨read, kept⟩ := readFrame_of_surface feeds covering size_eq within size read
    refine ⟨.complete, pool.withData index data, next, read, by simp [enough], by omega,
      fun _ => ⟨rest, ?_, ?_⟩, kept, fun _ differs => surface?_withData_of_ne differs size, rfl,
      rfl, Bytes.size_write _ _ _⟩
    · intro y y_lt x x_lt
      have inside := covering.lt_surfaceSize (.inl ⟨y, y_lt, x, x_lt, rfl⟩)
      have row := congrArg (·[x]?) (lumas y y_lt)
      rw [getElem?_withData_self size_eq within size inside]
      simpa only [Bytes.getElem?_extract_add, if_pos x_lt] using row
    · intro r r_lt c c_lt
      have inside := covering.lt_surfaceSize (.inr ⟨r, r_lt, c, c_lt, rfl⟩)
      have row := congrArg (·[c]?) (chromas r r_lt)
      rw [getElem?_withData_self size_eq within size inside, Nat.mul_comm pool.info.cropW.toNat]
      simpa only [Bytes.getElem?_extract_add, if_pos c_lt] using row
  · obtain ⟨⟨_, data⟩, next, read, _, rfl, size⟩ := Surface.readFrame_short feeds
      (show (Surface.mk pool.info _).info.Covering from covering) surface_size
      (Nat.lt_of_not_le enough)
    obtain ⟨read, kept⟩ := readFrame_of_surface feeds covering size_eq within size read
    refine ⟨.ofFailure failure, pool.withData index data, next, read, ?_, fun _ => rfl,
      fun enough' => absurd enough' enough, kept,
      fun _ differs => surface?_withData_of_ne differs size, rfl, rfl, Bytes.size_write _ _ _⟩
    cases failure <;> simp [ReadEnd.ofFailure, enough]

/-- A stream of 19 bytes in portions of one to three, with interruptions, that fails behind them. -/
private def halting : ByteStream :=
  .ofBytes (Array.ofFn fun i : Fin 19 => UInt8.ofNat (i.val + 1))
    ⟨fun position => position % 3 + 1, fun position => position % 2,
      some (19, .stream "device lost")⟩

/-- Two surfaces of 16 by 16 pixels for pictures of 3 by 3, with bytes from before. -/
private def used : SurfacePool :=
  ⟨FrameInfo.nv12 3 3 30, Array.replicate 768 200, #[.free, .free]⟩

/-- The 17 bytes of a frame of 3 by 3 pixels go to the second surface; the next frame fails. -/
theorem readFrame_fills_crop_of_three :
    ∃ (filled : SurfacePool) (next : Source),
      used.readFrame 1 .empty (.stream halting) = .ok (some .complete, filled, next) ∧
      next.Feeds .empty (fun _ => False) #[18, 19] (some (.stream "device lost")) ∧
      filled.buffer[384 + (2 * 16 + 1)]? = some 8 ∧
      filled.buffer[384 + (256 + 1 * 16 + 3)]? = some 17 ∧
      ∃ (ending : FrameRead) (left : SurfacePool) (last : Source),
        filled.readFrame 0 .empty next = .ok (some ending, left, last) ∧
        ending = .failed (.stream "device lost") ∧ left.surface? 1 = filled.surface? 1 := by
  have feeds : (Source.stream halting).Feeds .empty (fun _ => False) halting.bytes
      (some (.stream "device lost")) := ⟨fun _ => Nat.succ_pos _, by decide +kernel, rfl⟩
  obtain ⟨_, filled, next, read, complete, _, rows, _, _, info, locks, size⟩ :=
    readFrame_fills_crop (show covers used.info.width used.info.cropW = true by decide)
      (show covers used.info.height used.info.cropH = true by decide)
      (show used.buffer.size = _ by decide +kernel) (show 1 < used.size by decide) feeds
  have raw : used.info.rawFrameSize = 17 := by decide
  obtain rfl := complete.2 (by decide +kernel)
  obtain ⟨rest, luma, chroma⟩ := rows (by decide +kernel)
  obtain ⟨ending, left, last, read', _, short, _, _, others, _⟩ :=
    readFrame_fills_crop
      (show covers filled.info.width filled.info.cropW = true by rw [info]; decide)
      (show covers filled.info.height filled.info.cropH = true by rw [info]; decide)
      (show filled.buffer.size = _ by rw [size, info, SurfacePool.size, locks]; decide +kernel)
      (show 0 < filled.size by rw [SurfacePool.size, locks]; decide) rest
  rw [raw] at rest
  refine ⟨filled, next, read, ?_, ?_, ?_, ending, left, last, read', ?_, others 1 (by decide)⟩
  · exact (show halting.bytes.extract 17 halting.bytes.size = #[18, 19] by decide +kernel) ▸ rest
  · exact (luma 2 (by decide) 1 (by decide)).trans (by decide +kernel)
  · exact (chroma 1 (by decide) 3 (by decide)).trans (by decide +kernel)
  · exact short (by rw [info, raw]; decide +kernel)

end SurfacePool

end Nv12Jpeg
