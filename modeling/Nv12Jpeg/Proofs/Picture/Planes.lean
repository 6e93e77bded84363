import Nv12Jpeg.Fault
import Nv12Jpeg.Picture.Rgb
import Nv12Jpeg.Proofs.Bytes

/-!
# Planes that can be copied and converted

Planes may be given with any numbers. Of those that can be used, only the size of the picture and
the visible bytes of each row matter.

* `Nv12Planes.Copyable` — planes with every visible row in them, of a size that leaves room for a
  copy; `Copyable.toFrame_eq` says what the copy is;
* `Nv12Planes.Checked` — planes without a defect; `check_eq_ok` says that the check finds them;
* `Nv12Planes.Accepted` — planes without a defect whose sides a picture can have; these are
  converted, and no others: `toRgb_eq_ok`, `accepted_iff`;
* `Nv12Planes.toFrame_congr`, `Nv12Planes.Accepted.toRgb_congr` — copies and pictures depend on
  nothing but the visible rows.
-/

namespace Nv12Jpeg

theorem chromaRowBytes_le {width : Nat} (h : width ≤ 65535) : chromaRowBytes width ≤ 65536 := by
  rw [chromaRowBytes]
  omega

theorem le_chromaRowBytes (width : Nat) : width ≤ chromaRowBytes width := by
  rw [chromaRowBytes]
  omega

theorem chromaRowBytes_le_succ (width : Nat) : chromaRowBytes width ≤ width + 1 := by
  rw [chromaRowBytes]
  omega

theorem chromaRows_pos {height : Nat} (h : 0 < height) : 0 < chromaRows height := by
  rw [chromaRows]
  omega

theorem chromaRows_le (height : Nat) : chromaRows height ≤ height := by
  rw [chromaRows]
  omega

/-- Each luma row has a chroma row beside it. -/
theorem half_lt_chromaRows {y height : Nat} (h : y < height) : y / 2 < chromaRows height := by
  rw [chromaRows]
  omega

theorem RgbImage.bufferSize_eq_ok {width height size : Nat} :
    bufferSize width height = .ok size ↔ 3 * width < Size.bound ∧
      3 * width * height < Size.allocationBound ∧ size = 3 * width * height := by
  have less : Size.allocationBound < Size.bound := by decide
  constructor
  · intro h
    obtain ⟨row, row_eq, h⟩ := bind_eq_ok.1 h
    obtain ⟨total, total_eq, h⟩ := bind_eq_ok.1 h
    obtain ⟨row_lt, rfl⟩ := Size.mul_eq_ok.1 row_eq
    obtain ⟨_, rfl⟩ := Size.mul_eq_ok.1 total_eq
    exact ⟨row_lt, Size.buffer_eq_ok.1 h⟩
  · rintro ⟨row_lt, fits, rfl⟩
    refine bind_eq_ok.2 ⟨_, Size.mul_eq_ok.2 ⟨row_lt, rfl⟩, ?_⟩
    exact bind_eq_ok.2 ⟨_, Size.mul_eq_ok.2 ⟨by omega, rfl⟩, Size.buffer_eq_ok.2 ⟨fits, rfl⟩⟩

namespace Nv12Planes

variable {planes other : Nv12Planes} {count first : Nat} {out : Bytes}

/-! ## Rows -/

theorem appendRows_eq_ok {row : Nat → Except Fault Bytes} (part : Nat → Bytes)
    (h : ∀ y, first ≤ y → y < first + count → row y = .ok (part y)) :
    appendRows row count first out = .ok (out ++ Bytes.joinRows part count first) := by
  induction count generalizing first out with
  | zero => simp [appendRows, Bytes.joinRows]
  | succ count ih =>
    rw [appendRows, h first (by omega) (by omega), Bytes.joinRows, ← Array.append_assoc]
    exact ih fun y low high => h y (by omega) (by omega)

theorem appendRows_congr {row row' : Nat → Except Fault Bytes}
    (h : ∀ y, first ≤ y → y < first + count → row y = row' y) :
    appendRows row count first out = appendRows row' count first out := by
  induction count generalizing first out with
  | zero => rfl
  | succ count ih =>
    rw [appendRows, appendRows, h first (by omega) (by omega)]
    cases row' first with
    | error fault => rfl
    | ok part => exact ih fun y low high => h y (by omega) (by omega)

/-- A row that lies in its plane. -/
theorem row_eq {plane : Bytes} {pitch row y : Nat} (start_lt : y * pitch < Size.bound)
    (inside : y * pitch + row ≤ plane.size) :
    (do plane.slice (← Size.mul y pitch) row : Except Fault Bytes)
      = .ok (plane.extract (y * pitch) (y * pitch + row)) :=
  bind_eq_ok.2 ⟨_, Size.mul_eq_ok.2 ⟨start_lt, rfl⟩, Bytes.slice_eq_ok.2 ⟨inside, rfl⟩⟩

/-! ## Copying -/

/-- Of planes that leave room for a copy, the rows are appended. -/
theorem toFrame_eq_rows (width_pos : 0 < planes.width) (width_lt : planes.width + 1 < Size.bound)
    (frame_lt : chromaRowBytes planes.width * (planes.height + chromaRows planes.height)
      < Size.allocationBound) :
    planes.toFrame = (do
      let padding := Bytes.zeros (chromaRowBytes planes.width - planes.width)
      let luma ← appendRows (fun y => return (← planes.lumaRow y) ++ padding) planes.height 0 #[]
      let data ← appendRows planes.chromaRow (chromaRows planes.height) 0 luma
      return {
        width := planes.width
        height := planes.height
        pitch := chromaRowBytes planes.width
        data } : Except Fault Nv12Frame) := by
  have wide := le_chromaRowBytes planes.width
  have less : Size.allocationBound < Size.bound := by decide
  have rows_le := Nat.le_mul_of_pos_left (planes.height + chromaRows planes.height)
    (Nat.lt_of_lt_of_le width_pos wide)
  have row : chromaRowSize planes.width = .ok (chromaRowBytes planes.width) :=
    FrameInfo.chromaRowSize_eq_ok.2 ⟨width_lt, rfl⟩
  have rows : Size.add planes.height (chromaRows planes.height)
      = .ok (planes.height + chromaRows planes.height) :=
    Size.add_eq_ok.2 ⟨by omega, rfl⟩
  have size : Size.mul (chromaRowBytes planes.width) (planes.height + chromaRows planes.height)
      = .ok (chromaRowBytes planes.width * (planes.height + chromaRows planes.height)) :=
    Size.mul_eq_ok.2 ⟨by omega, rfl⟩
  have room : Size.buffer
      (chromaRowBytes planes.width * (planes.height + chromaRows planes.height))
      = .ok (chromaRowBytes planes.width * (planes.height + chromaRows planes.height)) :=
    if_pos frame_lt
  have some_bytes : ¬ chromaRowBytes planes.width = 0 := by omega
  simp only [toFrame, row, rows, size, room, ok_bind, if_neg some_bytes]

/-- Copies depend on the visible rows only. -/
theorem toFrame_congr (width_eq : planes.width = other.width)
    (height_eq : planes.height = other.height)
    (luma : ∀ y < other.height, planes.lumaRow y = other.lumaRow y)
    (chroma : ∀ r < chromaRows other.height, planes.chromaRow r = other.chromaRow r) :
    planes.toFrame = other.toFrame := by
  have lumas : ∀ padding : Bytes,
      appendRows (fun y => return (← planes.lumaRow y) ++ padding) other.height 0 #[]
        = appendRows (fun y => return (← other.lumaRow y) ++ padding) other.height 0 #[] :=
    fun padding => appendRows_congr fun y _ within => by rw [luma y (by omega)]
  have chromas : ∀ out : Bytes, appendRows planes.chromaRow (chromaRows other.height) 0 out
      = appendRows other.chromaRow (chromaRows other.height) 0 out :=
    fun out => appendRows_congr fun r _ within => chroma r (by omega)
  simp only [toFrame, width_eq, height_eq, lumas, chromas]

/-- Planes with all visible bytes of every row in them, of a size that leaves room for a copy. -/
structure Copyable (planes : Nv12Planes) : Prop where
  width_pos : 0 < planes.width
  width_lt : planes.width + 1 < Size.bound
  frame_lt : chromaRowBytes planes.width * (planes.height + chromaRows planes.height)
    < Size.allocationBound
  luma_row : ∀ y < planes.height, y * planes.pitch < Size.bound ∧
    y * planes.pitch + planes.width ≤ planes.luma.size
  chroma_row : ∀ r < chromaRows planes.height, r * planes.pitch < Size.bound ∧
    r * planes.pitch + chromaRowBytes planes.width ≤ planes.chroma.size

namespace Copyable

theorem lumaRow_eq (h : planes.Copyable) {y : Nat} (within : y < planes.height) :
    planes.lumaRow y = .ok (planes.luma.extract (y * planes.pitch)
      (y * planes.pitch + planes.width)) :=
  row_eq (h.luma_row y within).1 (h.luma_row y within).2

theorem chromaRow_eq (h : planes.Copyable) {r : Nat} (within : r < chromaRows planes.height) :
    planes.chromaRow r = .ok (planes.chroma.extract (r * planes.pitch)
      (r * planes.pitch + chromaRowBytes planes.width)) :=
  row_eq (h.chroma_row r within).1 (h.chroma_row r within).2

/-- The copy of the visible bytes. -/
theorem toFrame_eq (h : planes.Copyable) :
    planes.toFrame = .ok {
      width := planes.width
      height := planes.height
      pitch := chromaRowBytes planes.width
      data :=
        Bytes.joinRows (fun y => planes.luma.extract (y * planes.pitch)
            (y * planes.pitch + planes.width)
          ++ Bytes.zeros (chromaRowBytes planes.width - planes.width)) planes.height 0
        ++ Bytes.joinRows (fun r => planes.chroma.extract (r * planes.pitch)
            (r * planes.pitch + chromaRowBytes planes.width)) (chromaRows planes.height) 0 } := by
  rw [toFrame_eq_rows h.width_pos h.width_lt h.frame_lt]
  refine bind_eq_ok.2 ⟨_, appendRows_eq_ok (fun y => planes.luma.extract (y * planes.pitch)
      (y * planes.pitch + planes.width)
    ++ Bytes.zeros (chromaRowBytes planes.width - planes.width)) (fun y _ within => ?_), ?_⟩
  · exact bind_eq_ok.2 ⟨_, h.lumaRow_eq (by omega), rfl⟩
  · refine bind_eq_ok.2 ⟨_, appendRows_eq_ok _ fun r _ within => h.chromaRow_eq (by omega), ?_⟩
    rw [Array.empty_append]
    rfl

end Copyable

/-! ## The check -/

/-- Planes that hold every visible byte, up to the end of the last row. -/
structure Checked (planes : Nv12Planes) : Prop where
  width_pos : 0 < planes.width
  height_pos : 0 < planes.height
  width_lt : planes.width + 1 < Size.bound
  row_le : chromaRowBytes planes.width ≤ planes.pitch
  luma_lt : (planes.height - 1) * planes.pitch + planes.width < Size.bound
  luma_le : (planes.height - 1) * planes.pitch + planes.width ≤ planes.luma.size
  chroma_lt : (chromaRows planes.height - 1) * planes.pitch + chromaRowBytes planes.width
    < Size.bound
  chroma_le : (chromaRows planes.height - 1) * planes.pitch + chromaRowBytes planes.width
    ≤ planes.chroma.size

theorem planeSize_eq_ok {rows pitch row needed : Nat} :
    planeSize rows pitch row = .ok needed ↔
      (rows - 1) * pitch + row < Size.bound ∧ needed = (rows - 1) * pitch + row := by
  constructor
  · intro h
    obtain ⟨start, product, sum⟩ := bind_eq_ok.1 h
    obtain ⟨_, rfl⟩ := Size.mul_eq_ok.1 product
    exact Size.add_eq_ok.1 sum
  · rintro ⟨fits, rfl⟩
    exact bind_eq_ok.2 ⟨_, Size.mul_eq_ok.2 ⟨by omega, rfl⟩, Size.add_eq_ok.2 ⟨fits, rfl⟩⟩

/-- What a plane needs is no more than its rows with their padding. -/
theorem needed_le {rows pitch row : Nat} (rows_pos : 0 < rows) (row_le : row ≤ pitch) :
    (rows - 1) * pitch + row ≤ rows * pitch := by
  obtain ⟨before, rfl⟩ := Nat.exists_eq_succ_of_ne_zero (Nat.ne_of_gt rows_pos)
  rw [Nat.succ_mul, Nat.succ_sub_one]
  omega

/-- The check finds no defect in these planes, and in no others. -/
theorem check_eq_ok : planes.check = .ok () ↔ planes.Checked := by
  constructor
  · intro h
    rw [check] at h
    split at h
    case isTrue => cases h
    case isFalse some_bytes =>
    obtain ⟨row, row_eq, h⟩ := bind_eq_ok.1 h
    obtain ⟨width_lt, rfl⟩ := FrameInfo.chromaRowSize_eq_ok.1 (Attempt.ofFault_eq_ok.1 row_eq)
    split at h
    case isTrue => cases h
    case isFalse wide =>
    obtain ⟨luma, luma_eq, h⟩ := bind_eq_ok.1 h
    obtain ⟨luma_lt, rfl⟩ := planeSize_eq_ok.1 (Attempt.ofFault_eq_ok.1 luma_eq)
    obtain ⟨chroma, chroma_eq, h⟩ := bind_eq_ok.1 h
    obtain ⟨chroma_lt, rfl⟩ := planeSize_eq_ok.1 (Attempt.ofFault_eq_ok.1 chroma_eq)
    split at h
    case isTrue => cases h
    case isFalse long =>
    exact ⟨by omega, by omega, width_lt, by omega, luma_lt, by omega, chroma_lt, by omega⟩
  · intro h
    have width_pos := h.width_pos
    have height_pos := h.height_pos
    have luma_le := h.luma_le
    have chroma_le := h.chroma_le
    rw [check, if_neg (by omega)]
    refine bind_eq_ok.2 ⟨_, Attempt.ofFault_eq_ok.2
      (FrameInfo.chromaRowSize_eq_ok.2 ⟨h.width_lt, rfl⟩), ?_⟩
    rw [if_neg (Nat.not_lt_of_le h.row_le)]
    refine bind_eq_ok.2 ⟨_, Attempt.ofFault_eq_ok.2 (planeSize_eq_ok.2 ⟨h.luma_lt, rfl⟩), ?_⟩
    refine bind_eq_ok.2 ⟨_, Attempt.ofFault_eq_ok.2 (planeSize_eq_ok.2 ⟨h.chroma_lt, rfl⟩), ?_⟩
    rw [if_neg (by omega)]
    rfl

/-! ## Converting -/

/-- The colours of rows depend on their visible bytes only. -/
theorem appendRgbRows_congr (luma : ∀ y, first ≤ y → y < first + count →
      planes.lumaRow y = other.lumaRow y)
    (chroma : ∀ y, first ≤ y → y < first + count →
      planes.chromaRow (y / 2) = other.chromaRow (y / 2)) :
    planes.appendRgbRows count first out = other.appendRgbRows count first out := by
  induction count generalizing first out with
  | zero => rfl
  | succ count ih =>
    rw [appendRgbRows, appendRgbRows, luma first (by omega) (by omega),
      chroma first (by omega) (by omega)]
    cases other.lumaRow first with
    | error fault => rfl
    | ok row =>
      cases other.chromaRow (first / 2) with
      | error fault => rfl
      | ok pairs =>
        exact ih (fun y low high => luma y (by omega) (by omega))
          fun y low high => chroma y (by omega) (by omega)

/-- Every row of such planes has its colours. -/
theorem Copyable.appendRgbRows_ok (h : planes.Copyable) (within : first + count ≤ planes.height) :
    ∃ data, planes.appendRgbRows count first out = .ok data := by
  induction count generalizing first out with
  | zero => exact ⟨out, rfl⟩
  | succ count ih =>
    rw [appendRgbRows, h.lumaRow_eq (by omega),
      h.chromaRow_eq (half_lt_chromaRows (show first < planes.height by omega))]
    exact ih (by omega)

/-- Planes without a defect, with sides and an extent that a picture can have. -/
structure Accepted (planes : Nv12Planes) : Prop extends Checked planes where
  width_lt_word : planes.width < 0x100000000
  height_lt_word : planes.height < 0x100000000
  image_lt : 3 * planes.width * planes.height < Size.allocationBound

/-- A picture fits in memory only if a copy of its planes does. -/
theorem frame_lt {width height : Nat} (width_lt : width < 0x100000000)
    (height_lt : height < 0x100000000) (image_lt : 3 * width * height < Size.allocationBound) :
    chromaRowBytes width * (height + chromaRows height) < Size.allocationBound := by
  have narrow := chromaRowBytes_le_succ width
  have low : 2 * (height + chromaRows height) ≤ 3 * height + 1 := by
    rw [chromaRows]
    omega
  have twice := Nat.mul_le_mul narrow low
  have expanded : (width + 1) * (3 * height + 1) = 3 * width * height + width + 3 * height + 1 := by
    rw [Nat.succ_mul, Nat.mul_succ, Nat.mul_left_comm, Nat.mul_assoc]
    omega
  rw [Nat.mul_left_comm, expanded] at twice
  rw [Size.allocationBound] at *
  omega

/-- Planes that are converted can be copied. -/
theorem Accepted.copyable (h : planes.Accepted) : planes.Copyable where
  width_pos := h.width_pos
  width_lt := h.width_lt
  frame_lt := frame_lt h.width_lt_word h.height_lt_word h.image_lt
  luma_row := by
    intro y within
    have before := Nat.mul_le_mul_right planes.pitch (show y ≤ planes.height - 1 by omega)
    have fits := h.luma_lt
    have inside := h.luma_le
    omega
  chroma_row := by
    intro r within
    have before := Nat.mul_le_mul_right planes.pitch
      (show r ≤ chromaRows planes.height - 1 by omega)
    have fits := h.chroma_lt
    have inside := h.chroma_le
    omega

theorem rgbSide_eq_ok {side result : Nat} :
    rgbSide side = .ok result ↔ side < 0x100000000 ∧ result = side := by
  unfold rgbSide
  split
  · rename_i fits
    simp [pure, Except.pure, fits, eq_comm]
  · rename_i large
    simp [Attempt.fail, large]

/-- Planes are converted to a picture of their size, or are not to be used. -/
theorem toRgb_eq_ok {image : RgbImage} :
    planes.toRgb = .ok image ↔ planes.Accepted ∧ image.width = planes.width ∧
      image.height = planes.height ∧ planes.appendRgbRows planes.height 0 #[] = .ok image.data := by
  constructor
  · intro h
    obtain ⟨_, check, h⟩ := bind_eq_ok.1 h
    obtain ⟨width, width_eq, h⟩ := bind_eq_ok.1 h
    obtain ⟨height, height_eq, h⟩ := bind_eq_ok.1 h
    obtain ⟨width_lt, rfl⟩ := rgbSide_eq_ok.1 width_eq
    obtain ⟨height_lt, rfl⟩ := rgbSide_eq_ok.1 height_eq
    obtain ⟨_, room, h⟩ := bind_eq_ok.1 h
    obtain ⟨data, rows, h⟩ := bind_eq_ok.1 h
    cases h
    exact ⟨⟨check_eq_ok.1 check, width_lt, height_lt,
      (RgbImage.bufferSize_eq_ok.1 (Attempt.ofFault_eq_ok.1 room)).2.1⟩, rfl, rfl,
      Attempt.ofFault_eq_ok.1 rows⟩
  · rintro ⟨accepted, width_eq, height_eq, rows⟩
    refine bind_eq_ok.2 ⟨(), check_eq_ok.2 accepted.toChecked, ?_⟩
    refine bind_eq_ok.2 ⟨_, rgbSide_eq_ok.2 ⟨accepted.width_lt_word, rfl⟩, ?_⟩
    refine bind_eq_ok.2 ⟨_, rgbSide_eq_ok.2 ⟨accepted.height_lt_word, rfl⟩, ?_⟩
    have short := accepted.width_lt_word
    refine bind_eq_ok.2 ⟨_, Attempt.ofFault_eq_ok.2 (RgbImage.bufferSize_eq_ok.2
      ⟨by rw [Size.bound]; omega, accepted.image_lt, rfl⟩), ?_⟩
    refine bind_eq_ok.2 ⟨_, Attempt.ofFault_eq_ok.2 rows, ?_⟩
    rw [← width_eq, ← height_eq]
    rfl

/-- Such planes are converted. -/
theorem Accepted.toRgb_ok (h : planes.Accepted) :
    ∃ image, planes.toRgb = .ok image ∧ image.width = planes.width ∧
      image.height = planes.height := by
  obtain ⟨data, rows⟩ : ∃ data, planes.appendRgbRows planes.height 0 #[] = .ok data :=
    h.copyable.appendRgbRows_ok (by omega)
  exact ⟨⟨planes.width, planes.height, data⟩, toRgb_eq_ok.2 ⟨h, rfl, rfl, rows⟩, rfl, rfl⟩

/-- Planes that are converted to a picture. -/
theorem accepted_iff : planes.Accepted ↔ ∃ image, planes.toRgb = .ok image := by
  constructor
  · intro h
    obtain ⟨image, converted, _⟩ := h.toRgb_ok
    exact ⟨image, converted⟩
  · rintro ⟨image, converted⟩
    exact (toRgb_eq_ok.1 converted).1

/-- Pictures depend on the visible rows only. -/
theorem Accepted.toRgb_congr {image : RgbImage} (h : planes.Accepted)
    (converted : other.toRgb = .ok image) (width_eq : planes.width = other.width)
    (height_eq : planes.height = other.height)
    (luma : ∀ y < other.height, planes.lumaRow y = other.lumaRow y)
    (chroma : ∀ r < chromaRows other.height, planes.chromaRow r = other.chromaRow r) :
    planes.toRgb = .ok image := by
  obtain ⟨_, image_width, image_height, rows⟩ := toRgb_eq_ok.1 converted
  refine toRgb_eq_ok.2 ⟨h, image_width.trans width_eq.symm, image_height.trans height_eq.symm, ?_⟩
  rw [height_eq, ← rows]
  refine appendRgbRows_congr (fun y _ within => luma y (by omega)) fun y _ within => ?_
  exact chroma _ (half_lt_chromaRows (by omega))

end Nv12Planes

end Nv12Jpeg
