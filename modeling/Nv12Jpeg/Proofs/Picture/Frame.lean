import Nv12Jpeg.Jpeg.File
import Nv12Jpeg.Proofs.Picture.Planes

/-!
# Tight frames

A frame is *tight* if its rows follow each other without padding, but for the one byte that makes
the luma rows of an odd width even. Copying the visible bytes of planes makes such frames, and each
of them can be encoded.

* `Nv12Frame.ofRaw` — the tight frame of the bytes that a raw file holds for it, and
  `Nv12Frame.raw` — these bytes;
* `Nv12Planes.Holds` — planes that hold what is visible of every row, so that no byte is out of
  range, and `Nv12Planes.Full`, those that hold the rows up to their ends;
* `Nv12Planes.Holds.copyable`, `Nv12Planes.Full.accepted` — such planes can be copied and converted;
* `Nv12Planes.tight_toFrame` — whatever copying gives is tight;
* `Nv12Frame.Tight.toJpeg_ok` — a tight frame has a JPEG file at every quality.
-/

namespace Nv12Jpeg

/-- A frame whose rows follow each other, of a size that a surface can have. -/
structure Nv12Frame.Tight (frame : Nv12Frame) : Prop where
  width_pos : 0 < frame.width
  width_le : frame.width ≤ 65535
  height_pos : 0 < frame.height
  height_le : frame.height ≤ 65535
  pitch_eq : frame.pitch = chromaRowBytes frame.width
  size_eq : frame.data.size = frame.height * frame.pitch + chromaRows frame.height * frame.pitch

/-- The tight frame of a picture whose bytes are given as raw files hold them: `height` rows of
`width` luma bytes, then the chroma rows. -/
def Nv12Frame.ofRaw (width height : Nat) (raw : Bytes) : Nv12Frame where
  width := width
  height := height
  pitch := chromaRowBytes width
  data :=
    Bytes.joinRows (fun y => raw.extract (y * width) (y * width + width)
        ++ Bytes.zeros (chromaRowBytes width - width)) height 0
      ++ raw.extract (height * width)
        (height * width + chromaRows height * chromaRowBytes width)

/-- The bytes of a frame as raw files hold them, without the padding of its luma rows. -/
def Nv12Frame.raw (frame : Nv12Frame) : Bytes :=
  Bytes.joinRows (fun y => frame.data.extract (y * frame.pitch) (y * frame.pitch + frame.width))
      frame.height 0
    ++ frame.data.extract (frame.height * frame.pitch)
      (frame.height * frame.pitch + chromaRows frame.height * frame.pitch)

/-- The luma rows of a frame made of raw bytes are as long as its chroma rows. -/
theorem Nv12Frame.size_paddedRow {width height : Nat} {raw : Bytes}
    (size : raw.size = height * width + chromaRows height * chromaRowBytes width) (y : Nat)
    (_ : 0 ≤ y) (within : y < 0 + height) :
    (raw.extract (y * width) (y * width + width)
      ++ Bytes.zeros (chromaRowBytes width - width)).size = chromaRowBytes width := by
  have wide := le_chromaRowBytes width
  have inside := Bytes.row_end_le (Nat.le_refl width) (show y < height by omega)
  rw [Array.size_append, Bytes.size_extract_add (by omega), Bytes.size_zeros]
  omega

theorem Nv12Frame.tight_ofRaw {width height : Nat} {raw : Bytes} (width_pos : 0 < width)
    (width_le : width ≤ 65535) (height_pos : 0 < height) (height_le : height ≤ 65535)
    (size : raw.size = height * width + chromaRows height * chromaRowBytes width) :
    (ofRaw width height raw).Tight := by
  refine ⟨width_pos, width_le, height_pos, height_le, rfl, ?_⟩
  rw [ofRaw, Array.size_append, Bytes.size_joinRows (size_paddedRow size),
    Bytes.size_extract_add (Nat.le_of_eq size.symm)]

/-- A frame made of raw bytes has just these bytes. -/
theorem Nv12Frame.raw_ofRaw {width height : Nat} {raw : Bytes}
    (size : raw.size = height * width + chromaRows height * chromaRowBytes width) :
    (ofRaw width height raw).raw = raw := by
  have wide := le_chromaRowBytes width
  have padded_size := size_paddedRow size
  have luma_size := Bytes.size_joinRows padded_size
  obtain ⟨luma, luma_eq⟩ : ∃ luma, luma = Bytes.joinRows (fun y =>
      raw.extract (y * width) (y * width + width)
        ++ Bytes.zeros (chromaRowBytes width - width)) height 0 := ⟨_, rfl⟩
  rw [← luma_eq] at luma_size
  have rows : ∀ y, 0 ≤ y → y < 0 + height →
      (ofRaw width height raw).data.extract (y * chromaRowBytes width)
        (y * chromaRowBytes width + width) = raw.extract (y * width) (y * width + width) := by
    intro y _ within
    have inside := Bytes.row_end_le wide (show y < height by omega)
    have inside_raw := Bytes.row_end_le (Nat.le_refl width) (show y < height by omega)
    have row := Bytes.extract_joinRows padded_size (show y < height by omega)
    rw [← luma_eq, Nat.zero_add] at row
    have visible := Bytes.extract_extract_add luma (y * chromaRowBytes width)
      (show 0 + width ≤ chromaRowBytes width by omega)
    rw [row, Nat.zero_add, Nat.add_zero, Array.extract_append,
      Bytes.size_extract_add (by omega), Nat.zero_sub, Nat.sub_self, Array.extract_zero,
      Array.append_empty,
      Array.extract_eq_self_of_le (Nat.le_of_eq (Bytes.size_extract_add (by omega)))] at visible
    have outside : y * chromaRowBytes width + width - luma.size = 0 := by omega
    rw [visible, ofRaw, ← luma_eq, Array.extract_append, outside, Array.extract_zero,
      Array.append_empty]
  have whole := Bytes.joinRows_extract raw 0 width height 0
  simp only [Nat.zero_add, Nat.zero_mul] at whole
  have chroma := Bytes.size_extract_add (show height * width
    + chromaRows height * chromaRowBytes width ≤ raw.size by omega)
  show Bytes.joinRows (fun y => (ofRaw width height raw).data.extract (y * chromaRowBytes width)
    (y * chromaRowBytes width + width)) height 0 ++ (ofRaw width height raw).data.extract
    (height * chromaRowBytes width)
    (height * chromaRowBytes width + chromaRows height * chromaRowBytes width) = raw
  have no_luma : luma.extract (height * chromaRowBytes width)
      (height * chromaRowBytes width + chromaRows height * chromaRowBytes width) = #[] :=
    Array.extract_empty_of_size_le_start (Nat.le_of_eq luma_size)
  rw [Bytes.joinRows_congr rows, whole, ofRaw, ← luma_eq, Array.extract_append, no_luma, luma_size,
    Nat.sub_self, Nat.add_sub_cancel_left, Array.empty_append,
    Array.extract_eq_self_of_le (Nat.le_of_eq chroma), ← size, Bytes.extract_append_extract_size]

/-! ## Copying -/

namespace Nv12Planes

/-- Rows that can be appended, up to one that cannot. -/
theorem appendRows_eq_error {row : Nat → Except Fault Bytes} {fault : Fault}
    {count first y : Nat} {out : Bytes}
    (others : ∀ y, first ≤ y → y < first + count →
      (∃ part, row y = .ok part) ∨ row y = .error fault)
    (low : first ≤ y) (high : y < first + count) (fails : row y = .error fault) :
    appendRows row count first out = .error fault := by
  induction count generalizing first out with
  | zero => omega
  | succ count ih =>
    rw [appendRows]
    obtain ⟨part, one⟩ | stops := others first (Nat.le_refl first) (by omega)
    · have later : first + 1 ≤ y := by
        refine Nat.lt_of_le_of_ne low ?_
        rintro rfl
        rw [fails] at one
        cases one
      rw [one]
      exact ih (fun y low high => others y (by omega) (by omega)) later (by omega)
    · rw [stops]
      rfl

theorem size_appendRows {row : Nat → Except Fault Bytes} {count first size : Nat}
    {out data : Bytes} (rows : ∀ y part, row y = .ok part → part.size = size)
    (h : appendRows row count first out = .ok data) :
    data.size = out.size + count * size := by
  induction count generalizing first out with
  | zero =>
    cases h
    omega
  | succ count ih =>
    obtain ⟨part, one, others⟩ := bind_eq_ok.1 h
    rw [ih others, Array.size_append, rows first part one, Nat.succ_mul]
    omega

theorem size_lumaRow {planes : Nv12Planes} {y : Nat} {part : Bytes}
    (h : planes.lumaRow y = .ok part) : part.size = planes.width := by
  obtain ⟨start, _, row⟩ := bind_eq_ok.1 h
  obtain ⟨inside, rfl⟩ := Bytes.slice_eq_ok.1 row
  exact Bytes.size_extract_add inside

theorem size_chromaRow {planes : Nv12Planes} {r : Nat} {part : Bytes}
    (h : planes.chromaRow r = .ok part) : part.size = chromaRowBytes planes.width := by
  obtain ⟨start, _, row⟩ := bind_eq_ok.1 h
  obtain ⟨inside, rfl⟩ := Bytes.slice_eq_ok.1 row
  exact Bytes.size_extract_add inside

/-- Copying the visible bytes makes tight frames. -/
theorem tight_toFrame {planes : Nv12Planes} {frame : Nv12Frame} (h : planes.toFrame = .ok frame)
    (width_pos : 0 < planes.width) (width_le : planes.width ≤ 65535)
    (height_pos : 0 < planes.height) (height_le : planes.height ≤ 65535) : frame.Tight := by
  obtain ⟨pitch, row, h⟩ := bind_eq_ok.1 h
  obtain ⟨rows, _, h⟩ := bind_eq_ok.1 h
  obtain ⟨total, _, h⟩ := bind_eq_ok.1 h
  obtain ⟨_, _, h⟩ := bind_eq_ok.1 h
  obtain ⟨_, rfl⟩ := FrameInfo.chromaRowSize_eq_ok.1 row
  have wide := le_chromaRowBytes planes.width
  rw [if_neg (by omega)] at h
  obtain ⟨luma, luma_rows, h⟩ := bind_eq_ok.1 h
  obtain ⟨data, chroma_rows, h⟩ := bind_eq_ok.1 h
  cases h
  refine ⟨width_pos, width_le, height_pos, height_le, rfl, ?_⟩
  have luma_size : luma.size = 0 + planes.height * chromaRowBytes planes.width := by
    refine size_appendRows ?_ luma_rows
    intro y part padded
    obtain ⟨visible, row, padded⟩ := bind_eq_ok.1 padded
    cases padded
    rw [Array.size_append, size_lumaRow row, Bytes.size_zeros]
    omega
  rw [size_appendRows (fun r part => size_chromaRow) chroma_rows, luma_size, Nat.zero_add]

/-- There is room for a copy of planes of a size that a surface can have. -/
theorem frame_lt_of_le {width height : Nat} (width_le : width ≤ 65535)
    (height_le : height ≤ 65535) :
    chromaRowBytes width * (height + chromaRows height) < Size.allocationBound := by
  have image := Nat.mul_le_mul (Nat.mul_le_mul_left 3 width_le) height_le
  exact frame_lt (by omega) (by omega) (by rw [Size.allocationBound]; omega)

/-- Of planes without columns no frame can be made: it would have rows of no bytes. -/
theorem toFrame_of_no_columns {planes : Nv12Planes} (empty : planes.width = 0)
    (height_le : planes.height ≤ 65535) : planes.toFrame = .error .emptyRow := by
  have low := chromaRows_le planes.height
  have row : chromaRowSize planes.width = .ok 0 := by
    rw [empty]
    rfl
  have rows : Size.add planes.height (chromaRows planes.height)
      = .ok (planes.height + chromaRows planes.height) :=
    Size.add_eq_ok.2 ⟨by rw [Size.bound]; omega, rfl⟩
  have size : Size.mul 0 (planes.height + chromaRows planes.height) = .ok 0 :=
    Size.mul_eq_ok.2 ⟨by rw [Size.bound]; omega, (Nat.zero_mul _).symm⟩
  have room : Size.buffer 0 = .ok 0 := rfl
  simp only [toFrame, row, rows, size, room, ok_bind, if_pos]

/-- Of planes of a size that a surface can have, no frame can be made if a luma row is missing. -/
theorem toFrame_eq_error {planes : Nv12Planes} {fault : Fault} {y : Nat}
    (width_pos : 0 < planes.width) (width_le : planes.width ≤ 65535)
    (height_le : planes.height ≤ 65535)
    (others : ∀ y < planes.height,
      (∃ part, planes.lumaRow y = .ok part) ∨ planes.lumaRow y = .error fault)
    (within : y < planes.height) (fails : planes.lumaRow y = .error fault) :
    planes.toFrame = .error fault := by
  rw [toFrame_eq_rows width_pos (by rw [Size.bound]; omega) (frame_lt_of_le width_le height_le)]
  show appendRows _ _ _ _ >>= _ = _
  rw [appendRows_eq_error (fun y _ within => ?_) (Nat.zero_le y) (by omega) ?_]
  · rfl
  · rw [fails]
    rfl
  · obtain ⟨part, row⟩ | stops := others y (by omega)
    · exact .inl ⟨_, bind_eq_ok.2 ⟨part, row, rfl⟩⟩
    · rw [stops]
      exact .inr rfl

/-- Planes of a size that a surface can have, with all visible bytes of every row in them. -/
structure Holds (planes : Nv12Planes) : Prop where
  width_pos : 0 < planes.width
  width_le : planes.width ≤ 65535
  height_le : planes.height ≤ 65535
  pitch_le : planes.pitch ≤ 65536
  luma_row : ∀ y < planes.height, y * planes.pitch + planes.width ≤ planes.luma.size
  chroma_row : ∀ r < chromaRows planes.height,
    r * planes.pitch + chromaRowBytes planes.width ≤ planes.chroma.size

namespace Holds

variable {planes : Nv12Planes}

theorem copyable (h : planes.Holds) : planes.Copyable := by
  have width_le := h.width_le
  have height_le := h.height_le
  have rows_le := Nat.le_trans (chromaRows_le planes.height) height_le
  have start_lt : ∀ {y : Nat}, y ≤ 65535 → y * planes.pitch < Size.bound := fun low =>
    (Size.mul_eq_ok.1 (Size.mul_of_le (Nat.le_succ_of_le low) h.pitch_le)).1
  exact {
    width_pos := h.width_pos
    width_lt := by
      rw [Size.bound]
      omega
    frame_lt := frame_lt_of_le width_le height_le
    luma_row := fun y within => ⟨start_lt (by omega), h.luma_row y within⟩
    chroma_row := fun r within => ⟨start_lt (by omega), h.chroma_row r within⟩ }

end Holds

/-- Planes of a size that a surface can have, with every row in them, up to its end. -/
structure Full (planes : Nv12Planes) : Prop where
  width_pos : 0 < planes.width
  width_le : planes.width ≤ 65535
  height_pos : 0 < planes.height
  height_le : planes.height ≤ 65535
  row_le : chromaRowBytes planes.width ≤ planes.pitch
  pitch_le : planes.pitch ≤ 65536
  luma_size : planes.height * planes.pitch ≤ planes.luma.size
  chroma_size : chromaRows planes.height * planes.pitch ≤ planes.chroma.size

namespace Full

variable {planes : Nv12Planes}

/-- Full planes are those of a picture. -/
theorem accepted (h : planes.Full) : planes.Accepted := by
  have width_le := h.width_le
  have height_le := h.height_le
  have luma := needed_le h.height_pos (Nat.le_trans (le_chromaRowBytes planes.width) h.row_le)
  have chroma := needed_le (chromaRows_pos h.height_pos) h.row_le
  have luma_size := h.luma_size
  have chroma_size := h.chroma_size
  have rows_le := Nat.le_trans (chromaRows_le planes.height) height_le
  have fits : ∀ {rows : Nat}, rows ≤ 65535 → rows * planes.pitch < Size.bound := fun low =>
    (Size.mul_eq_ok.1 (Size.mul_of_le (Nat.le_succ_of_le low) h.pitch_le)).1
  have luma_lt := fits height_le
  have chroma_lt := fits rows_le
  have image := Nat.mul_le_mul (Nat.mul_le_mul_left 3 width_le) height_le
  exact {
    width_pos := h.width_pos
    height_pos := h.height_pos
    width_lt := by
      rw [Size.bound]
      omega
    row_le := h.row_le
    luma_lt := by omega
    luma_le := by omega
    chroma_lt := by omega
    chroma_le := by omega
    width_lt_word := by omega
    height_lt_word := by omega
    image_lt := by
      rw [Size.allocationBound]
      omega }

end Full

end Nv12Planes

/-! ## Encoding -/

namespace Nv12Frame

variable {frame : Nv12Frame}

/-- The planes of a tight frame are full. -/
theorem Tight.planes_ok (h : frame.Tight) :
    ∃ planes, frame.planes = .ok planes ∧ planes.Full := by
  obtain ⟨width_pos, width_le, height_pos, height_le, pitch_eq, size⟩ := h
  have narrow : frame.pitch ≤ 65536 := pitch_eq ▸ chromaRowBytes_le width_le
  refine ⟨_, bind_eq_ok.2 ⟨_, Size.mul_of_le narrow (by omega), rfl⟩, width_pos, width_le,
    height_pos, height_le, Nat.le_of_eq pitch_eq.symm, narrow, ?_, ?_⟩
  · rw [Array.size_extract, Nat.mul_comm frame.pitch]
    show frame.height * frame.pitch ≤ _
    omega
  · rw [Array.size_extract, Nat.mul_comm frame.pitch]
    show chromaRows frame.height * frame.pitch ≤ _
    omega

/-- A tight frame has a JPEG file at every quality. -/
theorem Tight.toJpeg_ok (h : frame.Tight) (quality : UInt8) :
    ∃ file, frame.toJpeg quality = .ok file := by
  obtain ⟨planes, planes_eq, full⟩ := h.planes_ok
  obtain ⟨image, image_eq, width, height⟩ := full.accepted.toRgb_ok
  have width_pos := full.width_pos
  have width_le := full.width_le
  have height_pos := full.height_pos
  have height_le := full.height_le
  rw [toJpeg, planes_eq, Attempt.ofFault_ok]
  simp only [bind, Except.bind, image_eq]
  rw [Jpeg.encode, if_neg (by omega)]
  exact ⟨_, rfl⟩

end Nv12Frame

end Nv12Jpeg
