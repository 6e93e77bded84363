import Nv12Jpeg.Encoder.Cpu
import Nv12Jpeg.Proofs.Picture.Planes

/-!
# Repacking keeps the picture

A copy of planes has the rows of the picture one behind the other, without what lies between them
in the planes. It is the same picture.

* `Nv12Planes.Repacks` — planes whose rows follow each other and are those of other planes; those
  of a copy are of this kind: `Nv12Planes.Copyable.repacks`;
* `Nv12Planes.Repacks.toFrame_eq`, `Nv12Planes.Repacks.toRgb_eq` — copying them again gives the same
  copy, and converting them the same picture;
* `Nv12Planes.Matches` — planes with the same visible bytes, at whatever distances;
* `Nv12Planes.toFrame_keeps_picture` — repacking and padding change no picture.
-/

namespace Nv12Jpeg

/-- A frame is cut where its luma rows end. -/
theorem Nv12Frame.planes_of_append {width height pitch : Nat} {luma chroma : Bytes}
    (luma_size : luma.size = height * pitch) (luma_lt : height * pitch < Size.bound) :
    Nv12Frame.planes ⟨width, height, pitch, luma ++ chroma⟩
      = .ok ⟨width, height, pitch, luma, chroma⟩ := by
  have product : Size.mul pitch height = .ok luma.size :=
    Size.mul_eq_ok.2 ⟨by rwa [Nat.mul_comm], by rw [luma_size, Nat.mul_comm]⟩
  refine bind_eq_ok.2 ⟨_, product, ?_⟩
  simp [pure, Except.pure]

namespace Nv12Planes

variable {planes packed other : Nv12Planes} {image : RgbImage}

/-- Planes without padding rows that have the visible rows of `planes`. -/
structure Repacks (packed planes : Nv12Planes) : Prop where
  width_eq : packed.width = planes.width
  height_eq : packed.height = planes.height
  pitch_eq : packed.pitch = chromaRowBytes planes.width
  luma_size : packed.luma.size = planes.height * chromaRowBytes planes.width
  chroma_size : packed.chroma.size = chromaRows planes.height * chromaRowBytes planes.width
  luma_row : ∀ y < planes.height, packed.lumaRow y = planes.lumaRow y
  chroma_row : ∀ r < chromaRows planes.height, packed.chromaRow r = planes.chromaRow r

/-- A row of a plane that is put together from rows of one size. -/
theorem row_of_joinRows {part : Nat → Bytes} {count size row y : Nat}
    (sizes : ∀ y, 0 ≤ y → y < 0 + count → (part y).size = size) (within : y < count)
    (row_le : row ≤ size) (start_lt : y * size < Size.bound) :
    (do (Bytes.joinRows part count 0).slice (← Size.mul y size) row : Except Fault Bytes)
      = .ok ((part y).extract 0 row) := by
  have inside := Bytes.row_end_le row_le within
  have whole := Bytes.extract_joinRows sizes within
  have visible := Bytes.extract_extract_add (Bytes.joinRows part count 0) (y * size)
    (show 0 + row ≤ size by omega)
  rw [whole, Nat.zero_add, Nat.zero_add, Nat.add_zero] at visible
  rw [row_eq start_lt (by rw [Bytes.size_joinRows sizes]; omega), visible]

/-- The planes of a copy have the visible rows of what was copied. -/
theorem Copyable.repacks (h : planes.Copyable) :
    ∃ frame packed, planes.toFrame = .ok frame ∧ frame.planes = .ok packed ∧
      packed.Repacks planes := by
  have wide := le_chromaRowBytes planes.width
  have less : Size.allocationBound < Size.bound := by decide
  have frame_lt := h.frame_lt
  rw [Nat.mul_add, Nat.mul_comm _ planes.height, Nat.mul_comm _ (chromaRows planes.height)]
    at frame_lt
  have start_lt : ∀ {rows y : Nat}, rows * chromaRowBytes planes.width < Size.bound →
      y < rows → y * chromaRowBytes planes.width < Size.bound := by
    intro rows y fits within
    have := Nat.mul_le_mul_right (chromaRowBytes planes.width) (Nat.le_of_lt within)
    omega
  -- Padded luma rows are as long as chroma rows, so each row of the copy starts at a multiple of
  -- the pitch.
  have luma_sizes : ∀ y, 0 ≤ y → y < 0 + planes.height →
      (planes.luma.extract (y * planes.pitch) (y * planes.pitch + planes.width)
        ++ Bytes.zeros (chromaRowBytes planes.width - planes.width)).size
          = chromaRowBytes planes.width := by
    intro y _ within
    rw [Array.size_append, Bytes.size_extract_add (h.luma_row y (by omega)).2, Bytes.size_zeros]
    omega
  have chroma_sizes : ∀ r, 0 ≤ r → r < 0 + chromaRows planes.height →
      (planes.chroma.extract (r * planes.pitch)
        (r * planes.pitch + chromaRowBytes planes.width)).size = chromaRowBytes planes.width :=
    fun r _ within => Bytes.size_extract_add (h.chroma_row r (by omega)).2
  have luma_size := Bytes.size_joinRows luma_sizes
  have chroma_size := Bytes.size_joinRows chroma_sizes
  refine ⟨_, ⟨planes.width, planes.height, chromaRowBytes planes.width, _, _⟩, h.toFrame_eq,
    Nv12Frame.planes_of_append luma_size (by omega), rfl, rfl, rfl, luma_size, chroma_size, ?_, ?_⟩
  · intro y within
    have visible := Bytes.size_extract_add (h.luma_row y within).2
    refine (row_of_joinRows luma_sizes within wide (start_lt (by omega) within)).trans ?_
    rw [h.lumaRow_eq within, Array.extract_append, visible, Nat.sub_self, Array.extract_zero,
      Array.append_empty, Array.extract_eq_self_of_le (Nat.le_of_eq visible)]
  · intro r within
    have visible := Bytes.size_extract_add (h.chroma_row r within).2
    refine (row_of_joinRows chroma_sizes within (Nat.le_refl _)
      (start_lt (by omega) within)).trans ?_
    rw [h.chromaRow_eq within, Array.extract_eq_self_of_le (Nat.le_of_eq visible)]

namespace Repacks

/-- Repacked planes make the same copy. -/
theorem toFrame_eq (h : packed.Repacks planes) : packed.toFrame = planes.toFrame :=
  toFrame_congr h.width_eq h.height_eq h.luma_row h.chroma_row

/-- Repacked planes are accepted if the others are. -/
theorem accepted (h : packed.Repacks planes) (accepted : planes.Accepted) : packed.Accepted := by
  obtain ⟨width, height, pitch, luma, chroma⟩ := packed
  obtain ⟨rfl, rfl, rfl, luma_size, chroma_size, _, _⟩ := h
  have less : Size.allocationBound < Size.bound := by decide
  have fits := accepted.copyable.frame_lt
  rw [Nat.mul_add, Nat.mul_comm _ planes.height, Nat.mul_comm _ (chromaRows planes.height)] at fits
  have luma_needed := needed_le accepted.height_pos (le_chromaRowBytes planes.width)
  have chroma_needed := needed_le (chromaRows_pos accepted.height_pos)
    (Nat.le_refl (chromaRowBytes planes.width))
  dsimp only at luma_size chroma_size
  exact {
    width_pos := accepted.width_pos
    height_pos := accepted.height_pos
    width_lt := accepted.width_lt
    row_le := Nat.le_refl _
    luma_lt := by
      dsimp only
      omega
    luma_le := by
      dsimp only
      omega
    chroma_lt := by
      dsimp only
      omega
    chroma_le := by
      dsimp only
      omega
    width_lt_word := accepted.width_lt_word
    height_lt_word := accepted.height_lt_word
    image_lt := accepted.image_lt }

/-- Repacked planes are converted to the same picture. -/
theorem toRgb_eq (h : packed.Repacks planes) (converted : planes.toRgb = .ok image) :
    packed.toRgb = .ok image :=
  (h.accepted (toRgb_eq_ok.1 converted).1).toRgb_congr converted h.width_eq h.height_eq h.luma_row
    h.chroma_row

end Repacks

/-- Planes of one size with the same visible bytes, whatever lies between their rows. -/
structure Matches (planes other : Nv12Planes) : Prop where
  width_eq : planes.width = other.width
  height_eq : planes.height = other.height
  luma : ∀ y < other.height, ∀ x < other.width,
    planes.luma[y * planes.pitch + x]? = other.luma[y * other.pitch + x]?
  chroma : ∀ r < chromaRows other.height, ∀ c < chromaRowBytes other.width,
    planes.chroma[r * planes.pitch + c]? = other.chroma[r * other.pitch + c]?

/-- Planes with the same visible bytes are converted to the same picture. -/
theorem Matches.toRgb_eq (h : planes.Matches other) (accepted : planes.Accepted)
    (converted : other.toRgb = .ok image) : planes.toRgb = .ok image := by
  have copyable := accepted.copyable
  have others := (toRgb_eq_ok.1 converted).1.copyable
  refine accepted.toRgb_congr converted h.width_eq h.height_eq (fun y within => ?_)
    fun r within => ?_
  · rw [copyable.lumaRow_eq (h.height_eq ▸ within), others.lumaRow_eq within, h.width_eq,
      Bytes.extract_eq_extract (h.luma y within)]
  · rw [copyable.chromaRow_eq (h.height_eq ▸ within), others.chromaRow_eq within, h.width_eq,
      Bytes.extract_eq_extract (h.chroma r within)]

end Nv12Planes

/-- The file of a frame is that of the picture it shows. -/
theorem Nv12Frame.toJpeg_eq_ok {frame : Nv12Frame} {packed : Nv12Planes} {image : RgbImage}
    {quality : UInt8} {file : Bytes} (cut : frame.planes = .ok packed)
    (converted : packed.toRgb = .ok image) :
    frame.toJpeg quality = .ok file ↔ Jpeg.encode image quality = .ok file := by
  rw [toJpeg, cut, Attempt.ofFault_ok]
  simp only [bind, Except.bind, converted]
  cases Jpeg.encode image quality with
  | ok written => simp [pure, Except.pure]
  | error error => simp [Attempt.fail]

/-- A submission that is queued leaves a copy of its surface as the last job of the worker. -/
theorem CpuEncoder.job_of_submit {cpu : CpuEncoder} {submission : Submission} {sync : SyncPoint}
    (queued : (cpu.submit (some submission)).reply = .ok (.queued (some sync))) :
    ∃ worker frame quality, submission.surface.toFrame = .ok frame ∧
      (cpu.submit (some submission)).state.worker
        = some (Worker.push worker ⟨sync, frame, quality, submission.id⟩) := by
  unfold submit at queued ⊢
  split at queued
  case h_2 => cases queued
  case h_1 params worker params_eq worker_eq =>
  simp only [submitSurface] at queued ⊢
  split at queued
  case isTrue => cases queued
  case isFalse size =>
  rw [if_neg size]
  split at queued
  case h_1 => cases queued
  case h_2 credits acquired =>
  split at queued
  case h_1 => cases queued
  case h_2 frame copied =>
  split at queued
  case isFalse => cases queued
  case isTrue running =>
  rw [if_pos running]
  cases queued
  exact ⟨worker, frame, _, copied, rfl⟩

/-- Planes that are converted to a picture can be copied, the copy is converted to the same
picture, and copying it once more changes nothing. Planes that have the same visible bytes are
converted to the same picture as well, if they are converted at all. So the copy that the encoder
takes of a surface when it is submitted shows the picture that the surface shows, and its file is
the file of that picture. -/
theorem Nv12Planes.toFrame_keeps_picture {planes : Nv12Planes} {image : RgbImage}
    (converted : planes.toRgb = .ok image) :
    (∃ frame packed, planes.toFrame = .ok frame ∧ frame.planes = .ok packed ∧
      packed.toRgb = .ok image ∧ packed.toFrame = .ok frame) ∧
    (∀ other shown, Nv12Planes.toRgb other = .ok shown → other.Matches planes → shown = image) ∧
    ∀ (cpu : CpuEncoder) (submission : Submission) (sync : SyncPoint),
      submission.surface.planes = planes →
      (cpu.submit (some submission)).reply = .ok (.queued (some sync)) →
      ∃ worker job packed, (cpu.submit (some submission)).state.worker = some worker ∧
        worker.pending.getLast? = some job ∧ job.sync = sync ∧
        job.frame.planes = .ok packed ∧ packed.toRgb = .ok image ∧
        ∀ file, job.frame.toJpeg job.quality = .ok file ↔
          Jpeg.encode image job.quality = .ok file := by
  obtain ⟨frame, packed, copied, cut, repacks⟩ :=
    (toRgb_eq_ok.1 converted).1.copyable.repacks
  have same := repacks.toRgb_eq converted
  refine ⟨⟨frame, packed, copied, cut, same, repacks.toFrame_eq.trans copied⟩, ?_, ?_⟩
  · intro other shown shows_ agrees
    have again := agrees.toRgb_eq (toRgb_eq_ok.1 shows_).1 converted
    rw [shows_] at again
    exact Except.ok.inj again
  · intro cpu submission sync planes_eq queued
    obtain ⟨worker, frame', quality, copied', worker_eq⟩ := CpuEncoder.job_of_submit queued
    obtain rfl : frame = frame' := by
      rw [Surface.toFrame, planes_eq, copied] at copied'
      exact Except.ok.inj copied'
    exact ⟨_, _, packed, worker_eq, List.getLast?_concat .., rfl, cut, same,
      fun file => Nv12Frame.toJpeg_eq_ok cut same⟩

/-- A picture of 3 by 3 pixels whose rows have padding of their own, and the same rows in planes
that end with the last of them. -/
theorem Nv12Planes.toFrame_keeps_picture_of_odd_size :
    let padded : Nv12Planes := ⟨3, 3, 6,
      #[81, 82, 83, 7, 7, 7, 90, 91, 92, 7, 7, 7, 16, 235, 128, 7, 7, 7],
      #[90, 240, 128, 128, 7, 7, 128, 54, 34, 16, 7, 7]⟩
    let close : Nv12Planes := ⟨3, 3, 4,
      #[81, 82, 83, 9, 90, 91, 92, 9, 16, 235, 128], #[90, 240, 128, 128, 128, 54, 34, 16]⟩
    ∃ image frame packed, padded.toRgb = .ok image ∧ padded.toFrame = .ok frame ∧
      frame.planes = .ok packed ∧ packed.toRgb = .ok image ∧ packed.toFrame = .ok frame ∧
      close.toRgb = .ok image := by
  intro padded close
  have padded_ok : padded.Accepted := ⟨⟨by decide, by decide, by decide, by decide, by decide,
    by decide, by decide, by decide⟩, by decide, by decide, by decide⟩
  have close_ok : close.Accepted := ⟨⟨by decide, by decide, by decide, by decide, by decide,
    by decide, by decide, by decide⟩, by decide, by decide, by decide⟩
  obtain ⟨image, converted, _⟩ := padded_ok.toRgb_ok
  obtain ⟨shown, converted', _⟩ := close_ok.toRgb_ok
  obtain ⟨⟨frame, packed, copied, cut, same, again⟩, others, _⟩ := toFrame_keeps_picture converted
  have agrees : close.Matches padded := ⟨rfl, rfl, by decide, by decide⟩
  exact ⟨image, frame, packed, converted, copied, cut, same, again,
    others close shown converted' agrees ▸ converted'⟩

end Nv12Jpeg
