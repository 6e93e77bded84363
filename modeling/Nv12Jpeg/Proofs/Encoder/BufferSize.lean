import Nv12Jpeg.Proofs.Bitstream
import Nv12Jpeg.Proofs.Encode.SoftwareSteps
import Nv12Jpeg.Proofs.Encoder.Judgement
import Nv12Jpeg.Proofs.Jpeg.FileSize
import Nv12Jpeg.Proofs.Picture.Colours
import Nv12Jpeg.Proofs.Picture.Repacking

/-!
# The reported buffer size

The encoder reports three bytes a pixel and 4096 more as the size of its output buffer. A file grows
with the units of a picture and with the quality, not with the pixels, so this is a bound for some
pictures and not for others.

* `Jpeg.fileBound` — a bound that goes by units and quality;
* `CpuEncoder.files_are_bounded_by_units` — every file keeps to it, and so fits in the reported size
  if the bound does; up to quality 24 it does for pictures made of whole units;
* `CpuEncoder.narrow_picture_exceeds_reported_size` — a picture whose file does not fit.
-/

namespace Nv12Jpeg

namespace Jpeg

/-- The most bytes that the file of a picture has: its header, its end marker, and what each of its
units is allowed. -/
def fileBound (quality width height : Nat) : Nat :=
  (8 * 625 + 14 + (width + 7) / 8 * ((height + 7) / 8)
    * (PictureCoding.atQuality quality).unitAllowance) / 8

theorem size_le_fileBound {image : RgbImage} {quality : UInt8} {file : Bytes}
    (encoded : encode image quality = .ok file) :
    file.size ≤ fileBound quality.toNat image.width image.height := by
  have bounded := size_encode_le (PictureCoding.sound_atQuality quality.toNat) encoded
  rw [unitCount] at bounded
  rw [fileBound, Nat.le_div_iff_mul_le (by decide)]
  omega

/-- Up to quality 24 a file has three bytes for each pixel of its units and 626 more. -/
theorem fileBound_le {quality : Nat} (low : quality ≤ 24) (width height : Nat) :
    fileBound quality width height ≤ 64 * ((width + 7) / 8 * ((height + 7) / 8)) * 3 + 626 := by
  have allowed := Nat.mul_le_mul_left ((width + 7) / 8 * ((height + 7) / 8))
    (PictureCoding.unitAllowance_le low)
  rw [fileBound]
  omega

theorem encode_ok {image : RgbImage} (width_pos : 0 < image.width) (width_le : image.width ≤ 65535)
    (height_pos : 0 < image.height) (height_le : image.height ≤ 65535) (quality : UInt8) :
    ∃ file, encode image quality = .ok file := by
  rw [encode, if_neg (by omega)]
  exact ⟨_, rfl⟩

end Jpeg

/-- A sound surface can be copied, and the file of the copy is that of the picture on it. -/
theorem Surface.shows {surface : Surface} (sound : surface.info.Sound)
    (size : surface.data.size = surface.info.surfaceSize) :
    ∃ image frame, surface.planes.toRgb = .ok image ∧
      image.width = surface.info.cropW.toNat ∧ image.height = surface.info.cropH.toNat ∧
      surface.toFrame = .ok frame ∧
      ∀ quality file, frame.toJpeg quality = .ok file ↔ Jpeg.encode image quality = .ok file := by
  have accepted := (Surface.full_planes sound size).accepted
  obtain ⟨image, converted, width_eq, height_eq⟩ := accepted.toRgb_ok
  obtain ⟨frame, packed, copied, cut, repacks⟩ := accepted.copyable.repacks
  exact ⟨image, frame, converted, width_eq, height_eq, copied,
    fun quality file => Nv12Frame.toJpeg_eq_ok cut (repacks.toRgb_eq converted)⟩

/-- The file of a sound surface is bounded by the units of its crop. -/
theorem Surface.file_bounded {surface : Surface} (sound : surface.info.Sound)
    (size : surface.data.size = surface.info.surfaceSize) (quality : UInt8) :
    ∃ frame file, surface.toFrame = .ok frame ∧ frame.toJpeg quality = .ok file ∧
      file.size
        ≤ Jpeg.fileBound quality.toNat surface.info.cropW.toNat surface.info.cropH.toNat := by
  obtain ⟨image, frame, -, width_eq, height_eq, copied, same⟩ := Surface.shows sound size
  obtain ⟨file, encoded⟩ := Jpeg.encode_ok (width_eq ▸ sound.crop_w_pos)
    (width_eq ▸ Nat.le_of_lt_succ surface.info.cropW.toNat_lt) (height_eq ▸ sound.crop_h_pos)
    (height_eq ▸ Nat.le_of_lt_succ surface.info.cropH.toNat_lt) quality
  have bounded := Jpeg.size_le_fileBound encoded
  rw [width_eq, height_eq] at bounded
  exact ⟨frame, file, copied, (same _ _).2 encoded, bounded⟩

namespace EncodeParams

variable {params : EncodeParams}

/-- The reported size is three bytes a pixel and 4096 more, rounded up to 1024. -/
theorem le_worstCaseKb (params : EncodeParams) :
    params.frameInfo.cropW.toNat * params.frameInfo.cropH.toNat * 3 + 4096
      ≤ 1024 * params.worstCaseKb.toNat := by
  have width_lt := params.frameInfo.cropW.toNat_lt
  have height_lt := params.frameInfo.cropH.toNat_lt
  have pixels_le := Nat.mul_le_mul (Nat.le_of_lt_succ width_lt) (Nat.le_of_lt_succ height_lt)
  rw [worstCaseKb, UInt32.toNat_ofNat_of_lt' (by
    show _ < 4294967296
    omega)]
  omega

/-- Parameters without a defect are only given a buffer size. -/
theorem adjust_of_defect?_eq_none (sound : params.defect? .cpu = none) :
    params.adjust = (.exact, params.withWorstCase) := by
  obtain ⟨-, adjustable⟩ := defect?_eq_none.1 sound
  obtain ⟨quality, ⟨wide, high⟩, interleaved⟩ := adjustableDefect?_eq_none.1 adjustable
  have unchanged : params.supported = params := by
    rw [supported, supportedQuality, if_pos quality, supportedSide, if_pos wide, supportedSide,
      if_pos high, ← interleaved]
  refine Prod.ext (adjust_fst_eq_exact.2 adjustable) ?_
  show params.supported.withWorstCase = _
  rw [unchanged]

end EncodeParams

namespace CpuEncoder

variable {cpu : CpuEncoder} {asked : EncodeParams}

/-- The files of an encoder are bounded by the units of its pictures and by its quality. -/
theorem files_are_bounded_by_units (fresh : cpu.params = none)
    (accepted : (cpu.init asked).reply = .ok ()) :
    let info := asked.frameInfo
    let bound := Jpeg.fileBound asked.quality.toNat info.cropW.toNat info.cropH.toNat
    ∃ reported, (cpu.query asked).reply = .ok (.exact, reported) ∧
      (cpu.init asked).state.currentParams.reply = .ok reported ∧
      (∀ surface : Surface, surface.info = info → surface.data.size = info.surfaceSize →
        ∃ frame file, surface.toFrame = .ok frame ∧
          frame.toJpeg (UInt8.ofNat (min asked.quality.toNat 100)) = .ok file ∧
          file.size ≤ bound ∧
          (bound ≤ 1024 * reported.bufferSizeKb.toNat → ∃ filled,
            (Bitstream.empty (1024 * reported.bufferSizeKb.toNat)).append file = .ok filled ∧
              filled.bytes = file)) ∧
      (asked.quality.toNat ≤ 24 →
        64 * ((info.cropW.toNat + 7) / 8 * ((info.cropH.toNat + 7) / 8))
          ≤ info.cropW.toNat * info.cropH.toNat + 1156 →
        bound ≤ 1024 * reported.bufferSizeKb.toNat) := by
  intro info bound
  have sound := (init_eq_ok_iff fresh).1 accepted
  obtain ⟨fixed, adjustable⟩ := EncodeParams.defect?_eq_none.1 sound
  obtain ⟨_, quality_le⟩ := EncodeParams.hasQuality_iff.1
    (EncodeParams.adjustableDefect?_eq_none.1 adjustable).1
  have info_sound := EncodeParams.sound_frameInfo sound
  refine ⟨asked.withWorstCase,
    query_eq_ok.2 ⟨fixed, EncodeParams.adjust_of_defect?_eq_none sound⟩, ?_, ?_, ?_⟩
  · rw [currentParams, params_of_init_eq_ok fresh accepted]
    rfl
  · intro surface info_eq size
    obtain ⟨quality, quality_eq⟩ : ∃ quality, quality = UInt8.ofNat (min asked.quality.toNat 100) :=
      ⟨_, rfl⟩
    have same_quality : quality.toNat = asked.quality.toNat := by
      rw [quality_eq, Nat.min_eq_left quality_le, UInt8.toNat_ofNat_of_lt']
      exact Nat.lt_of_le_of_lt quality_le (by decide)
    obtain ⟨frame, file, copied, encoded, bounded⟩ :=
      Surface.file_bounded (info_eq ▸ info_sound) (info_eq ▸ size) quality
    rw [same_quality, info_eq] at bounded
    rw [← quality_eq]
    refine ⟨frame, file, copied, encoded, bounded, fun fits => ?_⟩
    have room : file.size
        ≤ (Bitstream.empty (1024 * asked.withWorstCase.bufferSizeKb.toNat)).available :=
      bounded.trans fits
    obtain ⟨-, filled, appended, bytes_eq, -⟩ | ⟨full, -⟩ := Bitstream.append_cases _ file
    · exact ⟨filled, appended, by rw [bytes_eq, Bitstream.bytes_empty, Array.empty_append]⟩
    · exact absurd room (Nat.not_le_of_lt full)
  · intro low padding
    calc bound
      _ ≤ 64 * ((info.cropW.toNat + 7) / 8 * ((info.cropH.toNat + 7) / 8)) * 3 + 626 :=
        Jpeg.fileBound_le low _ _
      _ ≤ info.cropW.toNat * info.cropH.toNat * 3 + 4096 := by omega
      _ ≤ 1024 * asked.withWorstCase.bufferSizeKb.toNat := asked.le_worstCaseKb

/-- Pictures of 64 by 48 pixels are made of whole units. -/
theorem files_are_bounded_by_units_of_whole_units :
    let asked := EncodeParams.jpeg 64 48 25 24
    let surface : Surface := ⟨asked.frameInfo, Bytes.zeros asked.frameInfo.surfaceSize⟩
    ((CpuEncoder.new false []).init asked).reply = .ok () ∧
      ∃ frame file filled, surface.toFrame = .ok frame ∧ frame.toJpeg 24 = .ok file ∧
        (Bitstream.empty (1024 * 13)).append file = .ok filled ∧ filled.bytes = file := by
  intro asked surface
  have sound : asked.defect? .cpu = none := by decide
  have accepted : ((CpuEncoder.new false []).init asked).reply = .ok () :=
    (init_eq_ok_iff rfl).2 sound
  obtain ⟨reported, queried, -, files, whole⟩ := files_are_bounded_by_units rfl accepted
  have judged := (query_eq_ok.1 queried).2
  rw [EncodeParams.adjust_of_defect?_eq_none sound] at judged
  have size_eq : reported.bufferSizeKb.toNat = 13 := by
    rw [← (Prod.mk.inj judged).2]
    decide
  rw [size_eq] at files whole
  obtain ⟨frame, file, copied, encoded, -, fits⟩ := files surface rfl (Bytes.size_zeros _)
  obtain ⟨filled, appended, bytes_eq⟩ := fits (whole (by decide) (by decide))
  exact ⟨accepted, frame, file, filled, copied, encoded, appended, bytes_eq⟩

end CpuEncoder

/-! ## A narrow picture -/

namespace Narrow

/-- The luma bytes of the picture, from its top down. They repeat themselves after eight rows, and
so after one unit. -/
def luma (y : Nat) : UInt8 := #[190, 226, 53, 254, 0, 0, 0, 138].getD (y % 8) 0

/-- The blue differences, one for each two rows. -/
def blue (r : Nat) : UInt8 := #[7, 3, 220, 0].getD (r % 4) 0

/-- The red differences, one for each two rows. -/
def red (r : Nat) : UInt8 := #[83, 255, 82, 9].getD (r % 4) 0

/-- A byte of the surface, whose rows have 16 of them: the bytes of a luma row are alike, and so are
the pairs of a chroma row. -/
def byte (i : Nat) : UInt8 :=
  if i < 25600 then luma (i / 16)
  else if i % 2 = 0 then blue ((i - 25600) / 16) else red ((i - 25600) / 16)

/-- The bytes of the surface. -/
def data : Bytes := .ofFn fun i : Fin 38400 => byte i

/-- A surface with a picture of one column and 1600 rows. -/
def surface : Surface := ⟨.nv12 1 1600 25, data⟩

/-- The colour of a pixel. -/
def colour (y : Nat) : Rgb := .ofBt601 (luma y) (blue (y / 2)) (red (y / 2))

/-- The units of the picture. -/
def unit : Jpeg.Block Jpeg.YCbCr := .ofFn fun y _ => Jpeg.ycbcr (colour y)

theorem repeatedLength_unit : Jpeg.repeatedLength (.atQuality 90) unit = 370 := by
  decide +kernel

theorem size_data : data.size = 38400 := by
  rw [data, Array.size_ofFn]

theorem data_at {i : Nat} (within : i < 38400) : data[i]? = some (byte i) := by
  rw [data, Array.getElem?_ofFn, dif_pos within]

theorem chromaOffset_eq : (FrameInfo.nv12 1 1600 25).chromaOffset = 25600 := by decide

theorem pitch_planes : surface.planes.pitch = 16 := by decide

theorem luma_planes : surface.planes.luma = data.extract 0 25600 := by
  simp only [Surface.planes, surface, chromaOffset_eq]

theorem chroma_planes : surface.planes.chroma = data.extract 25600 38400 := by
  simp only [Surface.planes, surface, chromaOffset_eq, size_data]

theorem luma_at {y : Nat} (row : y < 1600) :
    surface.planes.luma[y * surface.planes.pitch + 0]? = some (luma y) := by
  have place : (0 + (y * 16 + 0)) / 16 = y := by omega
  rw [pitch_planes, luma_planes, Array.getElem?_extract, size_data, if_pos (by omega),
    data_at (by omega), byte, if_pos (by omega), place]

theorem blue_at {r : Nat} (row : r < 800) :
    surface.planes.chroma[r * surface.planes.pitch + 0 / 2 * 2]? = some (blue r) := by
  have place : (25600 + (r * 16 + 0 / 2 * 2) - 25600) / 16 = r := by omega
  rw [pitch_planes, chroma_planes, Array.getElem?_extract, size_data, if_pos (by omega),
    data_at (by omega), byte, if_neg (by omega), if_pos (by omega), place]

theorem red_at {r : Nat} (row : r < 800) :
    surface.planes.chroma[r * surface.planes.pitch + 0 / 2 * 2 + 1]? = some (red r) := by
  have place : (25600 + (r * 16 + 0 / 2 * 2 + 1) - 25600) / 16 = r := by omega
  rw [pitch_planes, chroma_planes, Array.getElem?_extract, size_data, if_pos (by omega),
    data_at (by omega), byte, if_neg (by omega), if_neg (by omega), place]

variable {image : RgbImage}

theorem pixel_eq (converted : surface.planes.toRgb = .ok image) {y : Nat} (row : y < 1600) :
    image.pixel 0 y = colour y := by
  obtain ⟨accepted, -⟩ := Nv12Planes.toRgb_eq_ok.1 converted
  obtain ⟨_, _, _, luma_eq, blue_eq, red_eq, shown⟩ :=
    accepted.pixel_eq converted (x := 0) (y := y) (by decide) row
  rw [luma_at row] at luma_eq
  rw [blue_at (by omega)] at blue_eq
  rw [red_at (by omega)] at red_eq
  rw [shown, colour, Option.some.inj luma_eq, Option.some.inj blue_eq, Option.some.inj red_eq]

/-- Rows that are eight apart have the same colour. -/
theorem colour_add (row y : Nat) : colour (8 * row + y) = colour y := by
  have luma_eq : (8 * row + y) % 8 = y % 8 := by omega
  have chroma_eq : (8 * row + y) / 2 % 4 = y / 2 % 4 := by omega
  rw [colour, luma, blue, red, luma_eq, chroma_eq, colour, luma, blue, red]

theorem unitAt_eq (converted : surface.planes.toRgb = .ok image) (width_eq : image.width = 1)
    (height_eq : image.height = 1600) {row : Nat} (within : row < 200) :
    Jpeg.unitAt image 0 row = unit := by
  rw [Jpeg.unitAt, unit]
  refine Jpeg.Block.ofFn_congr fun y _ x _ => ?_
  have column : min (8 * 0 + x) (image.width - 1) = 0 := by omega
  have place : min (8 * row + y) (image.height - 1) = 8 * row + y := by omega
  rw [column, place, pixel_eq converted (by omega), colour_add]

/-- The file of the picture has 370 bits for each unit but the first. -/
theorem le_size (converted : surface.planes.toRgb = .ok image) (width_eq : image.width = 1)
    (height_eq : image.height = 1600) {file : Bytes} (encoded : Jpeg.encode image 90 = .ok file) :
    9828 < file.size := by
  have count_eq : Jpeg.unitCount image = 199 + 1 := by rw [Jpeg.unitCount, width_eq, height_eq]
  have alike (n : Nat) (within : n ≤ 199) : Jpeg.unitAt image (n % ((image.width + 7) / 8))
      (n / ((image.width + 7) / 8)) = unit := by
    rw [width_eq, Nat.mod_one, Nat.div_one]
    exact unitAt_eq converted width_eq height_eq (by omega)
  have bits := Jpeg.le_size_encode encoded count_eq alike
  rw [show (90 : UInt8).toNat = 90 from rfl, repeatedLength_unit] at bits
  omega

end Narrow

/-- A column of 1600 pixels at quality 90: the encoder takes the parameters and reports 9 KiB, and
the file does not fit in them. -/
theorem CpuEncoder.narrow_picture_exceeds_reported_size :
    let asked := EncodeParams.jpeg 1 1600 25 90
    let opened := (CpuEncoder.new false []).init asked
    opened.reply = .ok () ∧
      ∃ reported frame file, opened.state.currentParams.reply = .ok reported ∧
        Narrow.surface.info = asked.frameInfo ∧
        Narrow.surface.data.size = asked.frameInfo.surfaceSize ∧
        Narrow.surface.toFrame = .ok frame ∧ frame.toJpeg 90 = .ok file ∧
        1024 * reported.bufferSizeKb.toNat < file.size ∧
        (Bitstream.empty (1024 * reported.bufferSizeKb.toNat)).append file
          = .error (.notEnoughBuffer file.size (1024 * reported.bufferSizeKb.toNat)) := by
  intro asked opened
  have sound : asked.defect? .cpu = none := by decide
  have accepted : opened.reply = .ok () := (init_eq_ok_iff rfl).2 sound
  have size_eq : asked.withWorstCase.bufferSizeKb.toNat = 9 := by decide
  have geometry : Narrow.surface.info = asked.frameInfo := rfl
  have filled : Narrow.surface.data.size = asked.frameInfo.surfaceSize := by
    have needed : asked.frameInfo.surfaceSize = 38400 := by decide
    rw [needed, Narrow.surface, Narrow.size_data]
  obtain ⟨image, frame, converted, width_eq, height_eq, copied, same⟩ :=
    Surface.shows (EncodeParams.sound_frameInfo sound) filled
  have narrow : image.width = 1 := width_eq.trans (by decide)
  have high : image.height = 1600 := height_eq.trans (by decide)
  obtain ⟨file, encoded⟩ : ∃ file, Jpeg.encode image 90 = .ok file :=
    Jpeg.encode_ok (by omega) (by omega) (by omega) (by omega) 90
  have large := Narrow.le_size converted narrow high encoded
  have full : 1024 * asked.withWorstCase.bufferSizeKb.toNat < file.size := by omega
  refine ⟨accepted, asked.withWorstCase, frame, file, ?_, geometry, filled, copied,
    (same 90 file).2 encoded, full, ?_⟩
  · rw [currentParams, params_of_init_eq_ok rfl accepted]
    rfl
  · obtain ⟨fits, -⟩ | ⟨-, refused⟩ := Bitstream.append_cases
      (.empty (1024 * asked.withWorstCase.bufferSizeKb.toNat)) file
    · exact absurd full (Nat.not_lt_of_le fits)
    · exact refused

end Nv12Jpeg
