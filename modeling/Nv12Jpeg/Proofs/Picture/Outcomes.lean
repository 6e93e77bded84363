import Nv12Jpeg.Proofs.Picture.Frame

/-!
# What converting planes comes to

Planes can be given with any numbers. They are converted, rejected as invalid input, or stop the
conversion with a fault, and their numbers tell which it is.

* `Nv12Planes.Sufficient` — planes that show a picture, by arithmetic without bounds;
* `Nv12Planes.Overflows` — planes about which the check does not come to a verdict, since its own
  sums and products leave their word;
* `Nv12Planes.check_cases` — the check has a verdict or overflows;
* `Nv12Planes.toRgb_outcome`, `Nv12Frame.toJpeg_outcome` — the outcome of the conversions;
* `conversions_fault_on_overflow_only` — no range is left, and nothing but an overflow or the want
  of memory stops a conversion.
-/

namespace Nv12Jpeg

/-! ## Planes of all kinds -/

/-- Numbers and bytes that a word and a memory can hold. -/
structure Nv12Planes.Given (planes : Nv12Planes) : Prop where
  width_lt : planes.width < Size.bound
  height_lt : planes.height < Size.bound
  pitch_lt : planes.pitch < Size.bound
  luma_lt : planes.luma.size < Size.allocationBound
  chroma_lt : planes.chroma.size < Size.allocationBound

/-- Numbers and bytes that a word and a memory can hold. -/
structure Nv12Frame.Given (frame : Nv12Frame) : Prop where
  width_lt : frame.width < Size.bound
  height_lt : frame.height < Size.bound
  pitch_lt : frame.pitch < Size.bound
  data_lt : frame.data.size < Size.allocationBound

/-- Planes with some pixels, sides of 32 bits, and all that is visible up to the end of the last
row. -/
structure Nv12Planes.Sufficient (planes : Nv12Planes) : Prop where
  width_pos : 0 < planes.width
  height_pos : 0 < planes.height
  width_lt : planes.width < 0x100000000
  height_lt : planes.height < 0x100000000
  row_le : chromaRowBytes planes.width ≤ planes.pitch
  luma_le : (planes.height - 1) * planes.pitch + planes.width ≤ planes.luma.size
  chroma_le : (chromaRows planes.height - 1) * planes.pitch + chromaRowBytes planes.width
    ≤ planes.chroma.size

/-- Planes whose chroma row, or else the end of whose last luma row, has no number in the word. -/
def Nv12Planes.Overflows (planes : Nv12Planes) : Prop :=
  (0 < planes.height ∧ planes.width + 1 = Size.bound) ∨
  (0 < planes.width ∧ 0 < planes.height ∧ chromaRowBytes planes.width ≤ planes.pitch ∧
    Size.bound ≤ (planes.height - 1) * planes.pitch + planes.width)

/-- Whether a memory can hold the picture. -/
def Nv12Planes.Storable (planes : Nv12Planes) : Prop :=
  3 * planes.width * planes.height < Size.allocationBound

/-- A failure that tells the caller that the input is invalid. -/
def IsInvalidInput (failure : Failure EncoderError) : Prop :=
  ∃ message, failure = .error (.invalidInput message)

theorem Nv12Defect.isInvalidInput (defect : Nv12Defect) : IsInvalidInput (.error defect.toError) :=
  ⟨defect.message, rfl⟩

namespace Nv12Planes

variable {planes : Nv12Planes}

theorem planeSize_eq_error {rows pitch row : Nat}
    (large : Size.bound ≤ (rows - 1) * pitch + row) :
    planeSize rows pitch row = .error .sizeOverflow := by
  rw [planeSize, Size.mul]
  by_cases product : (rows - 1) * pitch < Size.bound
  · rw [if_pos product, ok_bind, Size.add, if_neg (Nat.not_lt_of_le large)]
  · rw [if_neg product]
    rfl

/-- If the luma plane has a size, so has the chroma plane. -/
theorem chroma_needed_lt (width_lt : planes.width + 1 < Size.bound)
    (height_pos : 0 < planes.height) (row_le : chromaRowBytes planes.width ≤ planes.pitch)
    (luma_lt : (planes.height - 1) * planes.pitch + planes.width < Size.bound) :
    (chromaRows planes.height - 1) * planes.pitch + chromaRowBytes planes.width < Size.bound := by
  have row := chromaRowBytes_le_succ planes.width
  -- Only in pictures of one or two rows is the last chroma row the first one. In others it ends
  -- before the last luma row starts.
  by_cases low : planes.height ≤ 2
  · have first : chromaRows planes.height - 1 = 0 := by
      rw [chromaRows]
      omega
    rw [first, Nat.zero_mul]
    omega
  · have before : chromaRows planes.height ≤ planes.height - 1 := by
      rw [chromaRows]
      omega
    have chroma := needed_le (chromaRows_pos height_pos) row_le
    have rows := Nat.mul_le_mul_right planes.pitch before
    omega

/-- The check accepts planes, rejects them, or overflows. -/
theorem check_cases (given : planes.Given) :
    (planes.check = .ok () ∧ planes.Checked) ∨
    (planes.check = .error (.fault .sizeOverflow) ∧ planes.Overflows) ∨
    ((∃ failure, planes.check = .error failure ∧ IsInvalidInput failure) ∧
      ¬ planes.Checked ∧ ¬ planes.Overflows) := by
  have width_lt := given.width_lt
  rw [check]
  by_cases empty : planes.width = 0 ∨ planes.height = 0
  · refine .inr (.inr ⟨⟨_, if_pos empty, Nv12Defect.isInvalidInput _⟩, fun h => ?_, ?_⟩)
    · have width_pos := h.width_pos
      have height_pos := h.height_pos
      omega
    · rintro (⟨height_pos, last⟩ | ⟨width_pos, height_pos, _⟩)
      · rw [Size.bound] at last
        omega
      · omega
  rw [if_neg empty]
  by_cases last : planes.width + 1 = Size.bound
  · have row : chromaRowSize planes.width = .error .sizeOverflow := by
      rw [chromaRowSize, Size.add, if_neg (Nat.not_lt_of_le (Nat.le_of_eq last.symm))]
      rfl
    rw [row]
    exact .inr (.inl ⟨rfl, .inl ⟨by omega, last⟩⟩)
  have width_succ_lt : planes.width + 1 < Size.bound := by omega
  rw [FrameInfo.chromaRowSize_eq_ok.2 ⟨width_succ_lt, rfl⟩, Attempt.ofFault_ok, ok_bind]
  by_cases narrow : planes.pitch < chromaRowBytes planes.width
  · refine .inr (.inr ⟨⟨_, if_pos narrow, Nv12Defect.isInvalidInput _⟩, fun h => ?_, ?_⟩)
    · exact Nat.not_lt_of_le h.row_le narrow
    · rintro (⟨_, other⟩ | ⟨_, _, row_le, _⟩)
      · exact last other
      · exact Nat.not_lt_of_le row_le narrow
  have row_le := Nat.le_of_not_lt narrow
  rw [if_neg narrow]
  by_cases large : Size.bound ≤ (planes.height - 1) * planes.pitch + planes.width
  · rw [planeSize_eq_error large]
    exact .inr (.inl ⟨rfl, .inr ⟨by omega, by omega, row_le, large⟩⟩)
  have luma_lt := Nat.lt_of_not_le large
  have chroma_lt := chroma_needed_lt width_succ_lt (by omega) row_le luma_lt
  rw [planeSize_eq_ok.2 ⟨luma_lt, rfl⟩, Attempt.ofFault_ok, ok_bind,
    planeSize_eq_ok.2 ⟨chroma_lt, rfl⟩, Attempt.ofFault_ok, ok_bind]
  by_cases short : planes.luma.size < (planes.height - 1) * planes.pitch + planes.width ∨
      planes.chroma.size < (chromaRows planes.height - 1) * planes.pitch
        + chromaRowBytes planes.width
  · refine .inr (.inr ⟨⟨_, if_pos short, Nv12Defect.isInvalidInput _⟩, fun h => ?_, ?_⟩)
    · have luma_le := h.luma_le
      have chroma_le := h.chroma_le
      omega
    · rintro (⟨_, other⟩ | ⟨_, _, _, other⟩)
      · exact last other
      · exact large other
  · rw [if_neg short]
    exact .inl ⟨rfl, by omega, by omega, width_succ_lt, row_le, luma_lt, by omega, chroma_lt,
      by omega⟩

/-- Sufficient planes pass the check, since no memory holds as many bytes as would overflow. -/
theorem sufficient_iff (given : planes.Given) :
    planes.Sufficient ↔
      planes.Checked ∧ planes.width < 0x100000000 ∧ planes.height < 0x100000000 := by
  have luma_lt := given.luma_lt
  have chroma_lt := given.chroma_lt
  constructor
  · intro h
    have width_lt := h.width_lt
    have luma_le := h.luma_le
    have chroma_le := h.chroma_le
    rw [Size.allocationBound] at luma_lt chroma_lt
    refine ⟨⟨h.width_pos, h.height_pos, ?_, h.row_le, ?_, luma_le, ?_, chroma_le⟩, width_lt,
      h.height_lt⟩
    all_goals
      rw [Size.bound]
      omega
  · rintro ⟨h, width_lt, height_lt⟩
    exact ⟨h.width_pos, h.height_pos, width_lt, height_lt, h.row_le, h.luma_le, h.chroma_le⟩

theorem Checked.not_overflows (h : planes.Checked) : ¬ planes.Overflows := by
  have width_lt := h.width_lt
  have luma_lt := h.luma_lt
  rintro (⟨_, last⟩ | ⟨_, _, _, large⟩)
  · omega
  · omega

theorem rgbSide_cases (side : Nat) :
    (rgbSide side = .ok side ∧ side < 0x100000000) ∨
    ((∃ failure, rgbSide side = .error failure ∧ IsInvalidInput failure) ∧
      ¬ side < 0x100000000) := by
  rw [rgbSide]
  by_cases fits : side < 0x100000000
  · exact .inl ⟨if_pos fits, fits⟩
  · exact .inr ⟨⟨_, if_neg fits, Nv12Defect.isInvalidInput _⟩, fits⟩

/-- A picture that no memory holds gets no buffer. -/
theorem bufferSize_eq_error {width height : Nat}
    (large : ¬ 3 * width * height < Size.allocationBound) :
    ∃ fault, RgbImage.bufferSize width height = .error fault ∧ fault ≠ .outOfRange := by
  cases size : RgbImage.bufferSize width height with
  | ok _ => exact absurd (RgbImage.bufferSize_eq_ok.1 size).2.1 large
  | error fault =>
    refine ⟨fault, rfl, ?_⟩
    rintro rfl
    rw [RgbImage.bufferSize, Size.mul] at size
    split at size
    · rw [ok_bind, Size.mul] at size
      split at size
      · rw [ok_bind, Size.buffer] at size
        split at size <;> cases size
      · cases size
    · cases size

/-- Converting planes gives a picture, rejects them, or stops with a fault. -/
inductive Outcome (planes : Nv12Planes) : Attempt EncoderError RgbImage → Prop
  /-- They show a picture. -/
  | converted {image : RgbImage} (sufficient : planes.Sufficient) (storable : planes.Storable) :
      Outcome planes (.ok image)
  /-- They do not. -/
  | rejected {failure : Failure EncoderError} (invalid : IsInvalidInput failure)
      (insufficient : ¬ planes.Sufficient) (calm : ¬ planes.Overflows) :
      Outcome planes (.error failure)
  /-- The check overflows before it has told. -/
  | overflowed (overflows : planes.Overflows) :
      Outcome planes (.error (.fault .sizeOverflow))
  /-- They show a picture that no memory holds. -/
  | unstorable {fault : Fault} (inside : fault ≠ .outOfRange) (sufficient : planes.Sufficient)
      (large : ¬ planes.Storable) : Outcome planes (.error (.fault fault))

theorem toRgb_outcome (given : planes.Given) : planes.Outcome planes.toRgb := by
  obtain ⟨accepts, checked⟩ | ⟨stops, overflows⟩ | ⟨⟨failure, rejects, invalid⟩, unchecked, calm⟩ :=
    check_cases given
  · have calm := checked.not_overflows
    rw [toRgb, accepts, ok_bind]
    obtain ⟨width, width_lt⟩ | ⟨⟨failure, wide, invalid⟩, large⟩ := rgbSide_cases planes.width
    · rw [width, ok_bind]
      obtain ⟨height, height_lt⟩ | ⟨⟨failure, high, invalid⟩, large⟩ := rgbSide_cases planes.height
      · rw [height, ok_bind]
        have sufficient := (sufficient_iff given).2 ⟨checked, width_lt, height_lt⟩
        by_cases storable : planes.Storable
        · have accepted : planes.Accepted := ⟨checked, width_lt, height_lt, storable⟩
          obtain ⟨data, rows⟩ : ∃ data, planes.appendRgbRows planes.height 0 #[] = .ok data :=
            accepted.copyable.appendRgbRows_ok (by omega)
          rw [RgbImage.bufferSize_eq_ok.2 ⟨by rw [Size.bound]; omega, storable, rfl⟩,
            Attempt.ofFault_ok, ok_bind, rows, Attempt.ofFault_ok, ok_bind]
          exact .converted sufficient storable
        · obtain ⟨fault, size, inside⟩ := bufferSize_eq_error storable
          rw [size]
          exact .unstorable inside sufficient storable
      · rw [high]
        exact .rejected invalid (fun sufficient => large sufficient.height_lt) calm
    · rw [wide]
      exact .rejected invalid (fun sufficient => large sufficient.width_lt) calm
  · rw [toRgb, stops]
    exact .overflowed overflows
  · rw [toRgb, rejects]
    exact .rejected invalid (fun sufficient => unchecked ((sufficient_iff given).1 sufficient).1)
      calm

/-- Planes are converted exactly if they show a picture and a memory holds it. -/
theorem toRgb_ok_iff (given : planes.Given) :
    (∃ image, planes.toRgb = .ok image) ↔ planes.Sufficient ∧ planes.Storable := by
  constructor
  · rintro ⟨image, converted⟩
    have accepted := (toRgb_eq_ok.1 converted).1
    exact ⟨(sufficient_iff given).2 ⟨accepted.toChecked, accepted.width_lt_word,
      accepted.height_lt_word⟩, accepted.image_lt⟩
  · rintro ⟨sufficient, storable⟩
    obtain ⟨checked, width_lt, height_lt⟩ := (sufficient_iff given).1 sufficient
    exact accepted_iff.1 ⟨checked, width_lt, height_lt, storable⟩

end Nv12Planes

/-! ## Frames -/

namespace Nv12Frame

variable {frame : Nv12Frame} {planes : Nv12Planes}

/-- Frames that cannot be cut into planes, or whose chroma row has no number in the word. -/
def Overflows (frame : Nv12Frame) : Prop :=
  Size.bound ≤ frame.pitch * frame.height ∨ (0 < frame.height ∧ frame.width + 1 = Size.bound)

/-- The planes of a frame overflow only for the width of their rows. -/
theorem planes_ok (given : frame.Given) (cut : frame.planes = .ok planes) :
    planes.Given ∧ frame.pitch * frame.height < Size.bound ∧
      (planes.Overflows ↔ frame.Overflows) := by
  obtain ⟨_, split, cut⟩ := bind_eq_ok.1 cut
  obtain ⟨fits, rfl⟩ := Size.mul_eq_ok.1 split
  cases cut
  have data_lt := given.data_lt
  refine ⟨⟨given.width_lt, given.height_lt, given.pitch_lt, ?_, ?_⟩, fits, ?_, ?_⟩
  · rw [Array.size_extract]
    omega
  · rw [Array.size_extract]
    omega
  · rintro (⟨height_pos, last⟩ | ⟨_, height_pos, row_le, large⟩)
    · exact .inr ⟨height_pos, last⟩
    · have needed := Nv12Planes.needed_le height_pos
        (Nat.le_trans (le_chromaRowBytes _) row_le)
      rw [Nat.mul_comm frame.height] at needed
      dsimp only at large needed
      omega
  · rintro (large | last)
    · omega
    · exact .inl last

/-- Whether a frame stops its encoding: it overflows, or shows a picture that no memory holds. -/
def Stops (frame : Nv12Frame) : Prop :=
  frame.Overflows ∨ ∃ planes, frame.planes = .ok planes ∧ planes.Sufficient ∧ ¬ planes.Storable

/-- The file of a frame is there, or an error tells why not, unless the frame stops its
encoding. -/
theorem toJpeg_outcome (given : frame.Given) (quality : UInt8) :
    (frame.Stops ∧ ∃ fault, frame.toJpeg quality = .error (.fault fault) ∧ fault ≠ .outOfRange) ∨
    (¬ frame.Stops ∧ ((∃ file, frame.toJpeg quality = .ok file) ∨
      ∃ error, frame.toJpeg quality = .error (.error error))) := by
  rw [toJpeg]
  cases cut : frame.planes with
  | error fault =>
    obtain ⟨rfl, large⟩ : fault = .sizeOverflow ∧ Size.bound ≤ frame.pitch * frame.height := by
      rw [planes, Size.mul] at cut
      split at cut
      case isTrue => cases cut
      case isFalse large =>
        cases cut
        exact ⟨rfl, Nat.le_of_not_lt large⟩
    exact .inl ⟨.inl (.inl large), _, rfl, by decide⟩
  | ok planes =>
    obtain ⟨given, fits, overflows_iff⟩ := planes_ok given cut
    have same : ∀ {other}, frame.planes = .ok other → other = planes := fun cut' =>
      Except.ok.inj (cut'.symm.trans cut)
    rw [Attempt.ofFault_ok, ok_bind]
    have outcome := planes.toRgb_outcome given
    generalize planes.toRgb = converted at outcome
    cases outcome with
    | converted sufficient storable =>
      have calm := ((Nv12Planes.sufficient_iff given).1 sufficient).1.not_overflows
      refine .inr ⟨?_, ?_⟩
      · rintro (overflows | ⟨other, cut', _, large⟩)
        · exact calm (overflows_iff.2 overflows)
        · exact large (same cut' ▸ storable)
      · rw [ok_bind]
        split
        · exact .inl ⟨_, rfl⟩
        · exact .inr ⟨_, rfl⟩
    | rejected invalid insufficient calm =>
      obtain ⟨message, rfl⟩ := invalid
      refine .inr ⟨?_, .inr ⟨_, rfl⟩⟩
      rintro (overflows | ⟨other, cut', sufficient, _⟩)
      · exact calm (overflows_iff.2 overflows)
      · exact insufficient (same cut' ▸ sufficient)
    | overflowed overflows =>
      exact .inl ⟨.inl (overflows_iff.1 overflows), _, rfl, by decide⟩
    | unstorable inside sufficient large =>
      exact .inl ⟨.inr ⟨planes, cut, sufficient, large⟩, _, rfl, inside⟩

end Nv12Frame

/-! ## Both conversions -/

/-- Planes that words and a memory can hold are converted to a picture exactly if they show one and
a memory holds it, and are otherwise rejected as invalid input, unless the check overflows. A frame
is encoded, or an error tells why not, unless it overflows or shows a picture that no memory holds.
No byte range is ever left. -/
theorem conversions_fault_on_overflow_only {planes : Nv12Planes} {frame : Nv12Frame}
    (quality : UInt8) (given : planes.Given) (given' : frame.Given) :
    (((∃ image, planes.toRgb = .ok image) ↔ planes.Sufficient ∧ planes.Storable) ∧
      ((∃ message, planes.toRgb = .error (.error (.invalidInput message))) ↔
        ¬ planes.Sufficient ∧ ¬ planes.Overflows) ∧
      ((∃ fault, planes.toRgb = .error (.fault fault)) ↔
        planes.Overflows ∨ (planes.Sufficient ∧ ¬ planes.Storable)) ∧
      (∀ error, planes.toRgb = .error (.error error) → ∃ message, error = .invalidInput message) ∧
      planes.toRgb ≠ .error (.fault .outOfRange)) ∧
    ((∃ fault, frame.toJpeg quality = .error (.fault fault)) ↔ frame.Stops) ∧
    (¬ frame.Stops → (∃ file, frame.toJpeg quality = .ok file) ∨
      ∃ error, frame.toJpeg quality = .error (.error error)) ∧
    frame.toJpeg quality ≠ .error (.fault .outOfRange) := by
  constructor
  · refine ⟨Nv12Planes.toRgb_ok_iff given, ?_⟩
    have calm : planes.Sufficient → ¬ planes.Overflows := fun sufficient =>
      ((Nv12Planes.sufficient_iff given).1 sufficient).1.not_overflows
    have outcome := planes.toRgb_outcome given
    generalize planes.toRgb = converted at outcome
    cases outcome with
    | converted sufficient storable =>
      refine ⟨iff_of_false nofun fun h => h.1 sufficient, iff_of_false nofun ?_, nofun, nofun⟩
      rintro (overflows | ⟨_, large⟩)
      · exact calm sufficient overflows
      · exact large storable
    | rejected invalid insufficient calm =>
      obtain ⟨message, rfl⟩ := invalid
      refine ⟨iff_of_true ⟨message, rfl⟩ ⟨insufficient, calm⟩, iff_of_false nofun ?_, ?_, nofun⟩
      · rintro (overflows | ⟨sufficient, _⟩)
        · exact calm overflows
        · exact insufficient sufficient
      · rintro _ ⟨⟩
        exact ⟨message, rfl⟩
    | overflowed overflows =>
      exact ⟨iff_of_false nofun fun h => h.2 overflows, iff_of_true ⟨_, rfl⟩ (.inl overflows),
        nofun, nofun⟩
    | unstorable inside sufficient large =>
      refine ⟨iff_of_false nofun fun h => h.1 sufficient,
        iff_of_true ⟨_, rfl⟩ (.inr ⟨sufficient, large⟩), nofun, ?_⟩
      intro outside
      cases outside
      exact inside rfl
  · obtain ⟨stops, fault, faults, inside⟩ | ⟨goes_on, file | error⟩ :=
      Nv12Frame.toJpeg_outcome given' quality
    · refine ⟨iff_of_true ⟨fault, faults⟩ stops, fun other => absurd stops other, ?_⟩
      intro outside
      rw [faults] at outside
      cases outside
      exact inside rfl
    · obtain ⟨file, encoded⟩ := file
      rw [encoded]
      exact ⟨iff_of_false nofun goes_on, fun _ => .inl ⟨file, rfl⟩, nofun⟩
    · obtain ⟨error, failed⟩ := error
      rw [failed]
      exact ⟨iff_of_false nofun goes_on, fun _ => .inr ⟨error, rfl⟩, nofun⟩

/-- Planes of 3 by 3 pixels that end with the last visible byte are converted, and with one byte
less they are rejected. -/
theorem conversions_fault_on_overflow_only_at_last_byte :
    let full : Nv12Planes := ⟨3, 3, 4, Bytes.zeros 11, Bytes.zeros 8⟩
    let short : Nv12Planes := ⟨3, 3, 4, Bytes.zeros 11, Bytes.zeros 7⟩
    let frame : Nv12Frame := ⟨3, 3, 4, Bytes.zeros 20⟩
    (∃ image, full.toRgb = .ok image) ∧
    (∃ message, short.toRgb = .error (.error (.invalidInput message))) ∧
    frame.toJpeg 90 ≠ .error (.fault .outOfRange) := by
  intro full short frame
  have frame_given : frame.Given := ⟨by decide, by decide, by decide, by decide⟩
  have full_given : full.Given := ⟨by decide, by decide, by decide, by decide, by decide⟩
  have short_given : short.Given := ⟨by decide, by decide, by decide, by decide, by decide⟩
  obtain ⟨⟨converted, _⟩, _, _, inside⟩ :=
    conversions_fault_on_overflow_only 90 full_given frame_given
  obtain ⟨⟨_, rejected, _⟩, _⟩ := conversions_fault_on_overflow_only 90 short_given frame_given
  have storable : full.Storable := show 3 * 3 * 3 < Size.allocationBound by decide
  refine ⟨converted.2 ⟨⟨by decide, by decide, by decide, by decide, by decide, by decide,
    by decide⟩, storable⟩, rejected.2 ⟨fun sufficient => ?_, ?_⟩, inside⟩
  · exact absurd sufficient.chroma_le (by decide)
  · rintro (⟨_, last⟩ | ⟨_, _, _, large⟩)
    · exact absurd last (by decide)
    · exact absurd large (by decide)

/-- Planes without bytes that are said to have more rows than a word can count bytes are not
rejected, nor are they as a frame: finding out how many bytes they need overflows. -/
theorem tall_planes_overflow :
    (⟨2, 0x8000000000000001, 2, #[], #[]⟩ : Nv12Planes).Given ∧
    ¬ (⟨2, 0x8000000000000001, 2, #[], #[]⟩ : Nv12Planes).Sufficient ∧
    (⟨2, 0x8000000000000001, 2, #[], #[]⟩ : Nv12Planes).toRgb
      = .error (.fault .sizeOverflow) ∧
    (⟨1, 0x8000000000000000, 2, #[]⟩ : Nv12Frame).Given ∧
    (⟨1, 0x8000000000000000, 2, #[]⟩ : Nv12Frame).toJpeg 90 = .error (.fault .sizeOverflow) := by
  refine ⟨⟨?_, ?_, ?_, ?_, ?_⟩, fun sufficient => ?_, rfl, ⟨?_, ?_, ?_, ?_⟩, rfl⟩
  case refine_6 => exact absurd sufficient.height_lt (by decide)
  all_goals decide

end Nv12Jpeg
