import Nv12Jpeg.Encoder.ParamsCheck

/-!
# Parameters without a defect

What there is to know of parameters that the software encoder accepts.
-/

namespace Nv12Jpeg.EncodeParams

variable {params : EncodeParams} {implementation : Implementation}

private theorem first_none {c : Prop} [Decidable c] {defect : ParamsDefect}
    {others : Option ParamsDefect} :
    (if c then some defect else others) = none ↔ ¬ c ∧ others = none := by
  by_cases h : c <;> simp [h]

theorem fixedDefect?_eq_none :
    params.fixedDefect? implementation = none ↔
      implementation.codecs.contains params.codec = true ∧
      (params.frameInfo.cropW ≠ 0 ∧ params.frameInfo.cropH ≠ 0) ∧
      (params.frameInfo.cropX = 0 ∧ params.frameInfo.cropY = 0) ∧
      (params.frameInfo.frameRate.denominator ≠ 0 ∧ params.frameInfo.frameRate.numerator ≠ 0) ∧
      params.ioPattern = .systemMemory := by
  simp only [fixedDefect?, first_none, not_or, Decidable.not_not, Bool.not_eq_true',
    Bool.not_eq_false, and_true]

theorem adjustableDefect?_eq_none :
    params.adjustableDefect? = none ↔
      params.hasQuality = true ∧
      (covers params.frameInfo.width params.frameInfo.cropW = true ∧
        covers params.frameInfo.height params.frameInfo.cropH = true) ∧
      params.interleaved = true := by
  simp only [adjustableDefect?, first_none, Bool.or_eq_true, not_or, Bool.not_eq_true',
    Bool.not_eq_false, and_true]

theorem defect?_eq_none :
    params.defect? implementation = none ↔
      params.fixedDefect? implementation = none ∧ params.adjustableDefect? = none :=
  Option.or_eq_none_iff

theorem hasQuality_iff :
    params.hasQuality = true ↔ 1 ≤ params.quality.toNat ∧ params.quality.toNat ≤ 100 := by
  simp only [hasQuality, Bool.and_eq_true, decide_eq_true_eq]

theorem covers_iff {allocated crop : UInt16} :
    covers allocated crop = true ↔
      allocated.toNat % 16 = 0 ∧ crop.toNat ≤ allocated.toNat := by
  rw [covers, Bool.and_eq_true, decide_eq_true_eq, decide_eq_true_eq]

/-- A side of pictures that the software encoder takes: from 1 to the largest multiple of 16. -/
def IsSide (side : UInt16) : Prop := 1 ≤ side.toNat ∧ side.toNat ≤ 65520

instance (side : UInt16) : Decidable (IsSide side) := inferInstanceAs (Decidable (_ ∧ _))

theorem IsSide.ne_zero {side : UInt16} (h : IsSide side) : side ≠ 0 := by
  rintro rfl
  exact absurd h.1 (by decide)

/-- An aligned side covers every side up to the largest multiple of 16. -/
theorem covers_align16 {side : UInt16} (within : side.toNat ≤ 65520) :
    covers (align16 side) side = true := by
  have aligned : (align16 side).toNat = (side.toNat + 15) / 16 * 16 := by
    rw [align16, Nat.min_eq_left (by omega), UInt16.toNat_ofNat_of_lt']
    show _ < 65536
    omega
  rw [covers_iff, aligned]
  omega

theorem IsSide.covers_align16 {side : UInt16} (h : IsSide side) :
    covers (align16 side) side = true :=
  EncodeParams.covers_align16 h.2

/-- A new picture size is no defect. -/
theorem defect?_withResolution {width height : UInt16}
    (sound : params.defect? implementation = none)
    (w : IsSide width) (h : IsSide height) :
    (params.withResolution width height).defect? implementation = none := by
  obtain ⟨fixed, adjustable⟩ := defect?_eq_none.1 sound
  obtain ⟨codec, _, offsets, rate, memory⟩ := fixedDefect?_eq_none.1 fixed
  obtain ⟨quality, _, interleaved⟩ := adjustableDefect?_eq_none.1 adjustable
  exact defect?_eq_none.2 ⟨fixedDefect?_eq_none.2
      ⟨codec, ⟨w.ne_zero, h.ne_zero⟩, offsets, rate, memory⟩,
    adjustableDefect?_eq_none.2 ⟨quality, ⟨w.covers_align16, h.covers_align16⟩, interleaved⟩⟩

/-- The supported quality is the nearest one from 1 to 100. -/
theorem toNat_supportedQuality (params : EncodeParams) :
    params.supportedQuality.toNat = min (max params.quality.toNat 1) 100 := by
  unfold supportedQuality
  split
  · rename_i within
    obtain ⟨low, high⟩ := hasQuality_iff.1 within
    omega
  · rw [UInt16.toNat_ofNat_of_lt']
    show _ < 65536
    omega

section Jpeg

variable {width height quality : UInt16} {framesPerSecond : UInt32}

/-- All that may have to be adjusted is the quality. -/
theorem supported_jpeg : (jpeg width height framesPerSecond quality).supported
    = jpeg width height framesPerSecond
      (jpeg width height framesPerSecond quality).supportedQuality := by
  have aligned : ∀ side, supportedSide (align16 side) side = align16 side := fun _ => ite_self _
  rw [supported]
  show EncodeParams.mk _ { FrameInfo.nv12 width height framesPerSecond with
    width := supportedSide (align16 width) width
    height := supportedSide (align16 height) height } _ _ _ _ _ _ = _
  rw [aligned, aligned]
  rfl

theorem fixedDefect?_jpeg (w : IsSide width) (h : IsSide height) (rate : framesPerSecond ≠ 0) :
    (jpeg width height framesPerSecond quality).fixedDefect? .cpu = none :=
  fixedDefect?_eq_none.2
    ⟨rfl, ⟨w.ne_zero, h.ne_zero⟩, ⟨rfl, rfl⟩, ⟨show (1 : UInt32) ≠ 0 by decide, rate⟩, rfl⟩

theorem defect?_supported_jpeg (w : IsSide width) (h : IsSide height) (rate : framesPerSecond ≠ 0) :
    (jpeg width height framesPerSecond quality).supported.defect? .cpu = none := by
  rw [supported_jpeg]
  refine defect?_eq_none.2 ⟨fixedDefect?_jpeg w h rate, adjustableDefect?_eq_none.2
    ⟨hasQuality_iff.2 ?_, ⟨w.covers_align16, h.covers_align16⟩, rfl⟩⟩
  show 1 ≤ (supportedQuality _).toNat ∧ (supportedQuality _).toNat ≤ 100
  rw [toNat_supportedQuality]
  omega

end Jpeg

@[simp] theorem defect?_withWorstCase (params : EncodeParams) (implementation : Implementation) :
    params.withWorstCase.defect? implementation = params.defect? implementation := rfl

end Nv12Jpeg.EncodeParams
