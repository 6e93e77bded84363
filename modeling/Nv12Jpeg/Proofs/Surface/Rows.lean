import Nv12Jpeg.Proofs.Encoder.ParamsCheck
import Nv12Jpeg.Proofs.Surface.Pool

/-!
# Where rows lie in a surface

A surface can be filled and read without leaving it if its rows lie one behind the other. Aligned
allocations have their rows so, up to the size at which alignment stops: sides are held in 16 bits,
so the allocation of a picture of more than 65520 columns or rows is smaller than the picture.

* `FrameInfo.RowsApart` — geometries whose rows lie one behind the other in a surface;
* `Surface.readFrame_ok`, `Surface.toFrame_ok` — such surfaces can be filled
  from any source and copied;
* `FrameInfo.rowsApart_withCrop` — for which picture sizes an aligned allocation is of this kind;
* `Surface.toFrame_of_tall` — what comes of a picture that has too many rows.
-/

namespace Nv12Jpeg

namespace FrameInfo

/-- The rows of the crop lie one behind the other in a surface: luma rows in the luma plane, and
chroma rows behind it. -/
structure RowsApart (info : FrameInfo) : Prop where
  luma : ∀ y y', y < y' → y' < info.cropH.toNat →
    y * info.pitch + info.cropW.toNat ≤ y' * info.pitch
  luma_inside : ∀ y < info.cropH.toNat, y * info.pitch + info.cropW.toNat ≤ info.chromaOffset
  chroma : ∀ r r', r < r' → r' < chromaRows info.cropH.toNat →
    r * info.pitch + chromaRowBytes info.cropW.toNat ≤ r' * info.pitch
  chroma_inside : ∀ r < chromaRows info.cropH.toNat,
    info.chromaOffset + (r * info.pitch + chromaRowBytes info.cropW.toNat) ≤ info.surfaceSize

variable {info : FrameInfo} {width height : UInt16}

theorem pitch_le (info : FrameInfo) : info.pitch ≤ 65535 :=
  Nat.le_of_lt_succ info.width.toNat_lt

theorem chromaOffset_le (info : FrameInfo) : info.chromaOffset ≤ info.surfaceSize :=
  Nat.le_add_right _ _

/-- An allocation that covers its crop has room for each row. -/
theorem Covering.rowsApart (h : info.Covering) : info.RowsApart where
  luma := fun y y' before _ => Bytes.row_end_le h.cropW_le_pitch before
  luma_inside := fun y within =>
    Nat.le_trans (Bytes.row_end_le h.cropW_le_pitch within) h.luma_le
  chroma := fun r r' before _ => Bytes.row_end_le h.chromaRowBytes_le_pitch before
  chroma_inside := by
    intro r within
    have row := Bytes.row_end_le h.chromaRowBytes_le_pitch within
    have room := h.chroma_le
    omega

end FrameInfo

/-! ## Filling and copying -/

namespace Surface

/-- Rows that lie in a buffer can be read, whatever the source gives. -/
theorem readRows_ok (store : FileStore) {row pitch count start : Nat} {data : Bytes}
    (inside : ∀ y < count, start + y * pitch + row ≤ data.size) (source : Source) :
    ∃ ending filled next,
      readRows store row pitch count start data source = .ok (ending, filled, next) ∧
        filled.size = data.size := by
  -- The rows that are left lie in the buffer as well: a row that is read keeps its size.
  induction count generalizing start data source with
  | zero => exact ⟨_, _, _, rfl, rfl⟩
  | succ count ih =>
    have first := inside 0 (Nat.succ_pos count)
    rw [Nat.zero_mul, Nat.add_zero] at first
    rw [readRows, if_pos first]
    obtain ⟨⟨part, ending⟩, next⟩ := source.readExact store row
    cases ending with
    | complete =>
      have others : ∀ y < count,
          start + pitch + y * pitch + row ≤ (data.write start part).size := by
        intro y within
        have row := inside (y + 1) (Nat.succ_lt_succ within)
        rw [Nat.succ_mul] at row
        rw [Bytes.size_write]
        omega
      obtain ⟨ending, filled, last, read, size⟩ := ih others next
      exact ⟨ending, filled, last, read, size.trans (Bytes.size_write _ _ _)⟩
    | ended => exact ⟨_, _, _, rfl, Bytes.size_write _ _ _⟩
    | failed error => exact ⟨_, _, _, rfl, Bytes.size_write _ _ _⟩

variable {surface : Surface}

/-- A surface whose rows lie in it can be filled, whatever the source gives. -/
theorem readFrame_ok (apart : surface.info.RowsApart)
    (size : surface.data.size = surface.info.surfaceSize) (store : FileStore) (source : Source) :
    ∃ ending filled next, surface.readFrame store source = .ok (ending, filled, next) ∧
      filled.info = surface.info ∧ filled.data.size = surface.info.surfaceSize := by
  have luma : ∀ y < surface.info.cropH.toNat,
      0 + y * surface.info.pitch + surface.info.cropW.toNat ≤ surface.data.size := by
    intro y within
    have row := apart.luma_inside y within
    have plane := surface.info.chromaOffset_le
    omega
  obtain ⟨ending, half, later, read, half_size⟩ := readRows_ok store luma source
  cases ending with
  | complete =>
    have chroma : ∀ r < chromaRows surface.info.cropH.toNat,
        surface.info.chromaOffset + r * surface.info.pitch
          + chromaRowBytes surface.info.cropW.toNat ≤ half.size := by
      intro r within
      have row := apart.chroma_inside r within
      omega
    obtain ⟨ending, filled, next, read', filled_size⟩ := readRows_ok store chroma later
    refine ⟨ending, { surface with data := filled }, next, ?_, rfl,
      filled_size.trans (half_size.trans size)⟩
    refine bind_eq_ok.2 ⟨_, read, ?_⟩
    exact bind_eq_ok.2 ⟨_, read', rfl⟩
  | ended =>
    exact ⟨_, { surface with data := half }, later, bind_eq_ok.2 ⟨_, read, rfl⟩, rfl,
      half_size.trans size⟩
  | failed error =>
    exact ⟨_, { surface with data := half }, later, bind_eq_ok.2 ⟨_, read, rfl⟩, rfl,
      half_size.trans size⟩

/-- The planes of a surface whose rows lie in it hold them. -/
theorem holds_planes (apart : surface.info.RowsApart)
    (size : surface.data.size = surface.info.surfaceSize) (w : 0 < surface.info.cropW.toNat) :
    surface.planes.Holds where
  width_pos := w
  width_le := Nat.le_of_lt_succ surface.info.cropW.toNat_lt
  height_le := Nat.le_of_lt_succ surface.info.cropH.toNat_lt
  pitch_le := Nat.le_succ_of_le surface.info.pitch_le
  luma_row := by
    intro y within
    have row := apart.luma_inside y within
    have plane := surface.info.chromaOffset_le
    show y * surface.info.pitch + surface.info.cropW.toNat ≤ (surface.data.extract 0 _).size
    rw [Array.size_extract, size]
    omega
  chroma_row := by
    intro r within
    have row := apart.chroma_inside r within
    show r * surface.info.pitch + chromaRowBytes surface.info.cropW.toNat
      ≤ (surface.data.extract _ _).size
    rw [Array.size_extract, size]
    omega

/-- A surface whose rows lie in it can be copied. -/
theorem toFrame_ok (apart : surface.info.RowsApart)
    (size : surface.data.size = surface.info.surfaceSize) (w : 0 < surface.info.cropW.toNat) :
    ∃ frame, surface.toFrame = .ok frame :=
  ⟨_, (holds_planes apart size w).copyable.toFrame_eq⟩

end Surface

/-! ## Aligned allocations -/

theorem toNat_align16 (side : UInt16) :
    (align16 side).toNat = min ((side.toNat + 15) / 16 * 16) 65520 := by
  rw [align16, UInt16.toNat_ofNat_of_lt']
  exact Nat.lt_of_le_of_lt (Nat.min_le_right _ _) (by decide)

/-- Picture sizes that an aligned allocation has room for. Of a side above 65520 there is room only
if there is one row at most, or no column. -/
def HasRoom (width height : UInt16) : Prop :=
  (width.toNat ≤ 65520 ∨ height.toNat ≤ 1) ∧ (height.toNat ≤ 65520 ∨ width.toNat = 0)

instance (width height : UInt16) : Decidable (HasRoom width height) :=
  inferInstanceAs (Decidable (_ ∧ _))

namespace FrameInfo

/-- The geometries that a picture size leads to: for new parameters, and for ones in use. -/
inductive OfSize (width height : UInt16) : FrameInfo → Prop
  | nv12 (framesPerSecond : UInt32) : OfSize width height (.nv12 width height framesPerSecond)
  | withCrop (info : FrameInfo) : OfSize width height (info.withCrop width height)

variable {info : FrameInfo} {width height : UInt16}

/-- Up to 65520 columns and rows an aligned allocation covers the picture. -/
theorem covering_withCrop (info : FrameInfo) (w : width.toNat ≤ 65520) (h : height.toNat ≤ 65520) :
    (info.withCrop width height).Covering := by
  constructor <;> simp only [withCrop, toNat_align16] <;> omega

/-- Rows without bytes lie anywhere. -/
theorem rowsApart_of_no_columns (info : FrameInfo) (empty : width.toNat = 0) :
    (info.withCrop width height).RowsApart := by
  have pitch_eq : (info.withCrop width height).pitch = 0 := by
    simp [pitch, withCrop, toNat_align16, empty]
  have row_eq : (info.withCrop width height).cropW.toNat = 0 := empty
  constructor <;> simp [pitch_eq, row_eq, chromaRowBytes, chromaOffset]

/-- A single row may be longer than the pitch. -/
theorem rowsApart_of_one_row (info : FrameInfo) (one : height.toNat ≤ 1) :
    (info.withCrop width height).RowsApart := by
  have wide := width.toNat_lt
  have row_le : chromaRowBytes width.toNat ≤ width.toNat * 2 := by
    rw [chromaRowBytes]
    omega
  -- there is a row only in an allocation of 16 rows
  have offset : height.toNat = 1 → (info.withCrop width height).chromaOffset
      = min ((width.toNat + 15) / 16 * 16) 65520 * 16 := by
    intro single
    simp [chromaOffset, pitch, withCrop, toNat_align16, single]
  have only : ∀ {rows y : Nat}, rows ≤ height.toNat → y < rows → y = 0 ∧ height.toNat = 1 := by
    omega
  constructor
  · intro y y' before within
    exact absurd (only (Nat.le_refl _) within).1 (by omega)
  · intro y within
    obtain ⟨rfl, single⟩ := only (Nat.le_refl _) within
    rw [offset single, Nat.zero_mul]
    show 0 + width.toNat ≤ _
    omega
  · intro r r' before within
    exact absurd (only (chromaRows_le _) within).1 (by omega)
  · intro r within
    obtain ⟨rfl, single⟩ := only (chromaRows_le _) within
    rw [surfaceSize, offset single, Nat.zero_mul]
    show _ + (0 + chromaRowBytes width.toNat) ≤ _
    omega

/-- The rows of a picture lie one behind the other in an aligned allocation that has room for them,
and in no other one. -/
theorem rowsApart_withCrop (info : FrameInfo) (width height : UInt16) :
    (info.withCrop width height).RowsApart ↔ HasRoom width height := by
  have wide := width.toNat_lt
  constructor
  · intro apart
    constructor
    · -- the second luma row would begin before the end of the first one
      by_cases narrow : width.toNat ≤ 65520
      · exact .inl narrow
      · refine .inr (Nat.le_of_not_lt fun two => ?_)
        have first := apart.luma 0 1 Nat.one_pos two
        simp only [pitch, withCrop, toNat_align16] at first
        omega
    · -- luma row 65520 would begin where the chroma plane does
      by_cases low : height.toNat ≤ 65520
      · exact .inl low
      · refine .inr (Nat.eq_zero_of_not_pos fun one => ?_)
        have beyond := apart.luma_inside 65520 (Nat.lt_of_not_le low)
        simp only [chromaOffset, pitch, withCrop, toNat_align16] at beyond
        rw [Nat.min_eq_right (show 65520 ≤ (height.toNat + 15) / 16 * 16 by omega),
          Nat.mul_comm] at beyond
        omega
  · rintro ⟨narrow, low⟩
    by_cases covered : width.toNat ≤ 65520 ∧ height.toNat ≤ 65520
    · exact (covering_withCrop info covered.1 covered.2).rowsApart
    · by_cases empty : width.toNat = 0
      · exact rowsApart_of_no_columns info empty
      · exact rowsApart_of_one_row info (by omega)

theorem OfSize.rowsApart_iff (h : OfSize width height info) :
    info.RowsApart ↔ HasRoom width height := by
  cases h with
  | nv12 framesPerSecond => exact rowsApart_withCrop (.nv12 0 0 framesPerSecond) width height
  | withCrop info => exact rowsApart_withCrop info width height

end FrameInfo

/-- Of a picture with more than 65520 rows, luma row 65520 begins behind the luma plane, so that no
surface of it can be copied. -/
theorem Surface.toFrame_of_tall {surface : Surface} {info : FrameInfo} {width height : UInt16}
    (aligned : surface.info = info.withCrop width height)
    (size : surface.data.size = surface.info.surfaceSize) (columns : 0 < width.toNat)
    (tall : 65520 < height.toNat) : surface.toFrame = .error .outOfRange := by
  have width_eq : surface.planes.width = width.toNat := by
    rw [planes, aligned]
    rfl
  have height_eq : surface.planes.height = height.toNat := by
    rw [planes, aligned]
    rfl
  have luma_size : surface.planes.luma.size = surface.info.pitch * 65520 := by
    have high : surface.info.height.toNat = 65520 := by
      rw [aligned, FrameInfo.withCrop, toNat_align16]
      omega
    have plane := surface.info.chromaOffset_le
    show (surface.data.extract 0 surface.info.chromaOffset).size = _
    rw [Array.size_extract, size, Nat.min_eq_left plane, Nat.sub_zero, FrameInfo.chromaOffset, high]
  have row : ∀ y ≤ 65535, surface.planes.lumaRow y
      = surface.planes.luma.slice (y * surface.info.pitch) surface.planes.width := by
    intro y low
    show (do surface.planes.luma.slice (← Size.mul y surface.info.pitch) surface.planes.width
      : Except Fault Bytes) = _
    rw [Size.mul_of_le (by omega) (Nat.le_succ_of_le surface.info.pitch_le), ok_bind]
  have short := height.toNat_lt
  refine Nv12Planes.toFrame_eq_error (width_eq ▸ columns)
    (width_eq ▸ Nat.le_of_lt_succ width.toNat_lt) (height_eq ▸ Nat.le_of_lt_succ short) ?_
    (height_eq ▸ tall) ?_
  · intro y within
    rw [row y (by omega), Bytes.slice]
    split
    · exact .inl ⟨_, rfl⟩
    · exact .inr rfl
  · rw [row 65520 (by omega), Bytes.slice, if_neg (by rw [luma_size, Nat.mul_comm]; omega)]

end Nv12Jpeg
