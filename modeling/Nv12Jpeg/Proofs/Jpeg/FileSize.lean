import Nv12Jpeg.Jpeg.File
import Nv12Jpeg.Proofs.Jpeg.Prices

/-!
# How large a file is

A file has a header of fixed size, and each of its units weighs no more than an allowance that
depends on the quality only. So what bounds a file is the number of its units, not that of its
pixels.

* `Scan.level_units_le` — what the units of a picture weigh;
* `Jpeg.size_encode_le` — the bytes of a file;
* `PictureCoding.unitAllowance_mono` — the allowance grows with the quality; up to quality 24 it is
  192 bytes a unit: `PictureCoding.unitAllowance_le`.
-/

namespace Nv12Jpeg.Jpeg

/-! ## Units -/

namespace PictureCoding

/-- What a zero pays in a block of luma. -/
def lumaShare : Nat := 6

/-- What a zero pays in a block of chroma. -/
def chromaShare : Nat := 4

/-- How much energy buys one bit. -/
def energyPrice : Nat := 600000

/-- The most that the code words of a unit weigh: what its blocks may cost beyond their energy, and
the energy of a unit. -/
def unitAllowance (coding : PictureCoding) : Nat :=
  (coding.luma.allowance lumaShare energyPrice + 2 * coding.chroma.allowance chromaShare energyPrice
    + unitEnergy) / energyPrice

/-- The components can be coded. -/
structure Sound (coding : PictureCoding) : Prop where
  luma : coding.luma.Sound lumaShare
  chroma : coding.chroma.Sound chromaShare

end PictureCoding

/-- The code words of a unit whose predecessor had blocks that began with these coefficients. -/
def unitWords (coding : PictureCoding) (lastY lastCb lastCr : Int) (unit : Block YCbCr) :
    List Codeword :=
  blockWords coding.luma lastY (coefficients coding.luma (unit.map YCbCr.y))
    ++ blockWords coding.chroma lastCb (coefficients coding.chroma (unit.map YCbCr.cb))
    ++ blockWords coding.chroma lastCr (coefficients coding.chroma (unit.map YCbCr.cr))

/-- The bits of a unit behind one that is like it. -/
def repeatedLength (coding : PictureCoding) (unit : Block YCbCr) : Nat :=
  ((unitWords coding ((coefficients coding.luma (unit.map YCbCr.y)).headD 0)
    ((coefficients coding.chroma (unit.map YCbCr.cb)).headD 0)
    ((coefficients coding.chroma (unit.map YCbCr.cr)).headD 0) unit).map Codeword.length).sum

namespace Scan

theorem sink_unit (coding : PictureCoding) (scan : Scan) (unit : Block YCbCr) :
    (scan.unit coding unit).sink
      = (unitWords coding scan.lastY scan.lastCb scan.lastCr unit).foldl BitSink.put scan.sink := by
  simp only [Scan.unit, unitWords]

/-- The blocks before have coefficients of a bounded energy. -/
structure Near (scan : Scan) : Prop where
  y : scan.lastY.natAbs ≤ coefficientLimit
  cb : scan.lastCb.natAbs ≤ coefficientLimit
  cr : scan.lastCr.natAbs ≤ coefficientLimit

theorem sink_behind (header : Bytes) : (behind header).sink = .behind header := rfl

theorem near_behind (header : Bytes) : (behind header).Near :=
  ⟨Nat.zero_le _, Nat.zero_le _, Nat.zero_le _⟩

variable {coding : PictureCoding}

theorem natAbs_headD_coefficients_le {coding : ComponentCoding} {share : Nat}
    (sound : coding.Sound share) {samples : Block Int}
    (bounded : (cosineTransform samples).energy ≤ unitEnergy) :
    ((coefficients coding samples).headD 0).natAbs ≤ coefficientLimit :=
  natAbs_quantize_cell_le (sound.steps_pos (0, 0)) bounded (0, 0)

/-- A unit weighs no more than its allowance. -/
theorem level_unit_le (sound : coding.Sound) {scan : Scan}
    (near : scan.Near) (colours : Block Rgb) :
    (scan.unit coding (colours.map ycbcr)).Near ∧
      (scan.unit coding (colours.map ycbcr)).sink.level
        ≤ scan.sink.level + coding.unitAllowance := by
  have unit_le := energy_unit_le colours
  have y_nonneg := (cosineTransform ((colours.map ycbcr).map YCbCr.y)).energy_nonneg
  have cb_nonneg := (cosineTransform ((colours.map ycbcr).map YCbCr.cb)).energy_nonneg
  have cr_nonneg := (cosineTransform ((colours.map ycbcr).map YCbCr.cr)).energy_nonneg
  simp only at unit_le
  have y_le := weight_blockWords_le sound.luma PictureCoding.energyPrice near.y
    ((colours.map ycbcr).map YCbCr.y) (by omega)
  have cb_le := weight_blockWords_le sound.chroma PictureCoding.energyPrice near.cb
    ((colours.map ycbcr).map YCbCr.cb) (by omega)
  have cr_le := weight_blockWords_le sound.chroma PictureCoding.energyPrice near.cr
    ((colours.map ycbcr).map YCbCr.cr) (by omega)
  refine ⟨⟨natAbs_headD_coefficients_le sound.luma (by omega),
    natAbs_headD_coefficients_le sound.chroma (by omega),
    natAbs_headD_coefficients_le sound.chroma (by omega)⟩, ?_⟩
  refine (scan.sink.level_putAll_le _).trans (Nat.add_le_add_left ?_ _)
  rw [PictureCoding.unitAllowance, Nat.le_div_iff_mul_le (by decide), List.map_append,
    List.map_append, List.sum_append, List.sum_append, ← Int.ofNat_le]
  simp only [Nat.cast_add, Nat.cast_mul, Nat.cast_ofNat]
  linarith

/-- Units weigh no more than their allowances. -/
theorem level_units_le (sound : coding.Sound) (image : RgbImage) (count first : Nat) {scan : Scan}
    (near : scan.Near) :
    (units coding image count first scan).sink.level
      ≤ scan.sink.level + count * coding.unitAllowance := by
  induction count generalizing first scan with
  | zero => exact Nat.le_add_right _ _
  | succ count ih =>
    obtain ⟨near_next, unit_le⟩ := level_unit_le sound near (Block.ofFn fun y x =>
      image.pixel (min (8 * (first % ((image.width + 7) / 8)) + x) (image.width - 1))
        (min (8 * (first / ((image.width + 7) / 8)) + y) (image.height - 1)))
    have others := ih (first + 1) near_next
    rw [units, Nat.succ_mul]
    refine others.trans ?_
    omega

theorem count_units_le (coding : PictureCoding) (image : RgbImage) (count first : Nat) {scan : Scan}
    (count_le : scan.sink.count ≤ 7) : (units coding image count first scan).sink.count ≤ 7 := by
  induction count generalizing first scan with
  | zero => exact count_le
  | succ count ih =>
    refine ih (first + 1) ?_
    rw [sink_unit]
    exact scan.sink.count_putAll_le _ count_le

/-- Behind a unit that is like them, units have all the same bits. -/
theorem le_length_units (coding : PictureCoding) {image : RgbImage} {unit : Block YCbCr}
    (before : Scan) (count first : Nat)
    (alike : ∀ n, first ≤ n → n < first + count →
      unitAt image (n % ((image.width + 7) / 8)) (n / ((image.width + 7) / 8)) = unit) :
    (before.unit coding unit).sink.length + count * repeatedLength coding unit
      ≤ (units coding image count first (before.unit coding unit)).sink.length := by
  induction count generalizing first before with
  | zero => exact Nat.le_of_eq (by rw [Nat.zero_mul, Nat.add_zero, units])
  | succ count ih =>
    have next := alike first (Nat.le_refl _) (by omega)
    have others := ih (before.unit coding unit) (first + 1)
      fun n low high => alike n (by omega) (by omega)
    have added := (before.unit coding unit).sink.le_length_putAll
      (unitWords coding (before.unit coding unit).lastY (before.unit coding unit).lastCb
        (before.unit coding unit).lastCr unit)
    rw [← sink_unit] at added
    have same : ((unitWords coding (before.unit coding unit).lastY (before.unit coding unit).lastCb
        (before.unit coding unit).lastCr unit).map Codeword.length).sum
        = repeatedLength coding unit := rfl
    rw [units, Nat.succ_mul, next]
    omega

end Scan

/-! ## Files -/

theorem length_segment (marker : UInt8) (data : List UInt8) :
    (segment marker data).length = data.length + 4 := by
  simp [segment, word16]

/-- Every header has the same size. -/
theorem length_header (coding : PictureCoding) (width height : Nat) :
    (header coding width height).length = 623 := by
  have lumaDc : HuffmanCode.lumaDc.counts.length + HuffmanCode.lumaDc.symbols.length = 28 := rfl
  have lumaAc : HuffmanCode.lumaAc.counts.length + HuffmanCode.lumaAc.symbols.length = 178 := by
    decide +kernel
  have chromaDc : HuffmanCode.chromaDc.counts.length + HuffmanCode.chromaDc.symbols.length
      = 28 := rfl
  have chromaAc : HuffmanCode.chromaAc.counts.length + HuffmanCode.chromaAc.symbols.length
      = 178 := by
    decide +kernel
  simp only [header, applicationHeader, frameHeader, quantizationSegment, huffmanSegment,
    scanHeader, length_segment, word16, List.length_append, List.length_cons, List.length_nil,
    List.length_map,
    Block.length_zigzag]
  omega

/-- The scan of a picture. -/
def scanOf (coding : PictureCoding) (image : RgbImage) : Scan :=
  (Scan.behind (header coding image.width image.height).toArray).units coding image
    (unitCount image) 0

/-- A file ends in the two bytes of the end marker. -/
theorem size_of_encode_eq_ok {image : RgbImage} {quality : UInt8} {file : Bytes}
    (encoded : encode image quality = .ok file) :
    file.size = (scanOf (.atQuality quality.toNat) image).sink.finish.size + 2 := by
  rw [encode] at encoded
  split at encoded
  case isTrue => cases encoded
  case isFalse =>
    rw [← Except.ok.inj encoded, scanOf]
    simp [endMarker]

/-- A file is as large as its header and end marker and what its units weigh, at most. -/
theorem size_encode_le {image : RgbImage} {quality : UInt8} {file : Bytes}
    (sound : (PictureCoding.atQuality quality.toNat).Sound)
    (encoded : encode image quality = .ok file) :
    8 * file.size
      ≤ 8 * 625 + unitCount image * (PictureCoding.atQuality quality.toNat).unitAllowance + 14 := by
  obtain ⟨coding, coding_eq⟩ : ∃ coding, coding = PictureCoding.atQuality quality.toNat := ⟨_, rfl⟩
  have size_eq := size_of_encode_eq_ok encoded
  rw [← coding_eq] at sound size_eq ⊢
  have finished := (scanOf coding image).sink.size_finish_le
  have units_le : (scanOf coding image).sink.level ≤ _ := Scan.level_units_le sound image
    (unitCount image) 0 (Scan.near_behind (header coding image.width image.height).toArray)
  have started : (Scan.behind (header coding image.width image.height).toArray).sink.level
      = 8 * 623 := by
    rw [Scan.sink_behind, BitSink.level_behind, List.size_toArray, length_header]
  omega

/-- A picture whose units are all alike takes the bits of each of them, the first one perhaps
excepted. -/
theorem le_size_encode {image : RgbImage} {quality : UInt8} {file : Bytes} {unit : Block YCbCr}
    {count : Nat} (encoded : encode image quality = .ok file) (units : unitCount image = count + 1)
    (alike : ∀ n ≤ count,
      unitAt image (n % ((image.width + 7) / 8)) (n / ((image.width + 7) / 8)) = unit) :
    8 * 625 + count * repeatedLength (.atQuality quality.toNat) unit ≤ 8 * file.size := by
  obtain ⟨coding, coding_eq⟩ : ∃ coding, coding = PictureCoding.atQuality quality.toNat := ⟨_, rfl⟩
  have size_eq := size_of_encode_eq_ok encoded
  rw [← coding_eq] at size_eq ⊢
  obtain ⟨scan, scan_eq⟩ : ∃ scan, scan = Scan.behind
      (header coding image.width image.height).toArray := ⟨_, rfl⟩
  have started : scan.sink.length = 8 * 623 := by
    rw [scan_eq, Scan.sink_behind, BitSink.length_behind, List.size_toArray, length_header]
  have first := scan.sink.le_length_putAll
    (unitWords coding scan.lastY scan.lastCb scan.lastCr unit)
  rw [← Scan.sink_unit] at first
  have others := Scan.le_length_units coding scan count 1 fun n _ high =>
    alike n (by omega)
  have whole : scanOf coding image = Scan.units coding image count 1 (scan.unit coding unit) := by
    rw [scanOf, ← scan_eq, units, Scan.units, alike 0 (Nat.zero_le _)]
  have finished := (scanOf coding image).sink.le_size_finish
    (Scan.count_units_le coding image _ 0 (Nat.zero_le _))
  rw [whole] at finished size_eq
  omega

/-! ## The usual coding -/

namespace QuantizationTable

theorem percent_anti {low high : Nat} (le : low ≤ high) : percent high ≤ percent low := by
  rw [percent, percent]
  have clamped : min (max low 1) 100 ≤ min (max high 1) 100 :=
    min_le_min_right _ (max_le_max_right _ le)
  obtain ⟨fine, fine_eq⟩ : ∃ fine, fine = min (max high 1) 100 := ⟨_, rfl⟩
  obtain ⟨coarse, coarse_eq⟩ : ∃ coarse, coarse = min (max low 1) 100 := ⟨_, rfl⟩
  simp only [← fine_eq, ← coarse_eq] at clamped ⊢
  have coarse_pos : 0 < coarse := by omega
  by_cases low_half : coarse < 50
  · rw [if_pos low_half]
    have at_least : 5000 / 49 ≤ 5000 / coarse := Nat.div_le_div_left (by omega) coarse_pos
    split
    case isTrue => exact Nat.div_le_div_left clamped coarse_pos
    case isFalse => omega
  · rw [if_neg low_half, if_neg (by omega)]
    omega

theorem scaled_anti {low high : Nat} (le : low ≤ high) (step : Nat) :
    scaled high step ≤ scaled low step := by
  refine min_le_min_right _ (max_le_max_right _ (Nat.div_le_div_right ?_))
  exact Nat.add_le_add_right (Nat.mul_le_mul_left _ (percent_anti le)) _

theorem scaled_pos (quality step : Nat) : 0 < scaled quality step := by
  rw [scaled]
  omega

end QuantizationTable

/-- The steps of a quality divide. -/
theorem sound_component (base : QuantizationTable) (dc : Array Codeword) {ac : Array Codeword}
    {share : Nat} (quality : Nat) (cheap : (ac.getD sixteenZeros default).weight ≤ 16 * share) :
    (ComponentCoding.mk (base.atQuality quality) dc ac).Sound share where
  steps_pos place := by
    rw [QuantizationTable.atQuality, Block.cell_map]
    exact QuantizationTable.scaled_pos _ _
  cheap := cheap

/-- A component with the steps of a quality has a larger allowance at a higher quality. -/
theorem allowance_mono (base : QuantizationTable) (dc ac : Array Codeword) (share scale : Nat)
    {low high : Nat} (le : low ≤ high) :
    (ComponentCoding.mk (base.atQuality low) dc ac).allowance share scale
      ≤ (ComponentCoding.mk (base.atQuality high) dc ac).allowance share scale := by
  refine Nat.add_le_add_left ?_ _
  rw [List.map_map, List.map_map]
  refine List.sum_le_sum fun place _ => stepAllowance_anti ac share scale ?_
  rw [QuantizationTable.atQuality, QuantizationTable.atQuality, Block.cell_map, Block.cell_map]
  exact QuantizationTable.scaled_anti le _

/-- The prices of luma values by their sizes, when a zero pays 6. -/
theorem lumaAc_prices :
    (lumaAcTable.getD sixteenZeros default).weight ≤ 16 * PictureCoding.lumaShare ∧
    (lumaAcTable.getD endOfBlock default).weight = 6 ∧
    (List.range 12).map (sizePrice lumaAcTable PictureCoding.lumaShare)
      = [6, 4, 7, 13, 19, 25, 32, 35, 37, 44, 47, 22] := by
  decide +kernel

/-- The prices of chroma values by their sizes, when a zero pays 4. -/
theorem chromaAc_prices :
    (chromaAcTable.getD sixteenZeros default).weight ≤ 16 * PictureCoding.chromaShare ∧
    (chromaAcTable.getD endOfBlock default).weight = 2 ∧
    (List.range 12).map (sizePrice chromaAcTable PictureCoding.chromaShare)
      = [2, 5, 11, 19, 22, 27, 31, 36, 39, 41, 44, 22] := by
  decide +kernel

theorem lumaDc_allowance :
    ((Finset.range 13).sup fun size => (lumaDcTable.getD size default).weight + 2 * size) = 39 := by
  decide +kernel

theorem chromaDc_allowance :
    ((Finset.range 13).sup fun size => (chromaDcTable.getD size default).weight + 2 * size)
      = 43 := by
  decide +kernel

/-- What a component is allowed by the prices of its sizes. -/
theorem allowance_of_prices {quantization : QuantizationTable} {dc ac : Array Codeword}
    {share first last : Nat} {prices : List Nat}
    (first_eq : ((Finset.range 13).sup fun size => (dc.getD size default).weight + 2 * size)
      = first)
    (last_eq : (ac.getD endOfBlock default).weight = last)
    (priced : (List.range 12).map (sizePrice ac share) = prices) (scale : Nat) :
    (ComponentCoding.mk quantization dc ac).allowance share scale
      = scale * (first + last) + ((Block.zigzagOrder.tail.map quantization.cell).map fun step =>
          max (scale * share) ((Finset.Icc 1 11).sup fun size =>
            scale * prices.getD size 0 - (4 * (2 ^ size - 1) * step) ^ 2)).sum := by
  rw [ComponentCoding.allowance, ComponentCoding.dcAllowance, first_eq, last_eq]
  exact congrArg (scale * (first + last) + List.sum ·)
    (List.map_congr_left fun step _ => stepAllowance_of_prices priced scale step)

namespace PictureCoding

theorem luma_atQuality (quality : Nat) : (atQuality quality).luma
    = ⟨QuantizationTable.lumaBase.atQuality quality, lumaDcTable, lumaAcTable⟩ := rfl

theorem chroma_atQuality (quality : Nat) : (atQuality quality).chroma
    = ⟨QuantizationTable.chromaBase.atQuality quality, chromaDcTable, chromaAcTable⟩ := rfl

theorem sound_atQuality (quality : Nat) : (atQuality quality).Sound where
  luma := by
    rw [luma_atQuality]
    exact sound_component _ _ quality lumaAc_prices.1
  chroma := by
    rw [chroma_atQuality]
    exact sound_component _ _ quality chromaAc_prices.1

/-- Units are allowed more at a higher quality. -/
theorem unitAllowance_mono {low high : Nat} (le : low ≤ high) :
    (atQuality low).unitAllowance ≤ (atQuality high).unitAllowance := by
  refine Nat.div_le_div_right
    (Nat.add_le_add_right (Nat.add_le_add ?_ (Nat.mul_le_mul_left _ ?_)) _)
  · exact allowance_mono _ _ _ _ _ le
  · exact allowance_mono _ _ _ _ _ le

/-- Up to quality 24 a unit is allowed 192 bytes, which are three for each of its pixels. -/
theorem unitAllowance_le {quality : Nat} (low : quality ≤ 24) :
    (atQuality quality).unitAllowance ≤ 1536 := by
  refine (unitAllowance_mono low).trans ?_
  rw [unitAllowance, luma_atQuality, chroma_atQuality,
    allowance_of_prices lumaDc_allowance lumaAc_prices.2.1 lumaAc_prices.2.2,
    allowance_of_prices chromaDc_allowance chromaAc_prices.2.1 chromaAc_prices.2.2]
  decide +kernel

end PictureCoding

end Nv12Jpeg.Jpeg
