import Nv12Jpeg.Jpeg.CosineTransform
import Nv12Jpeg.Jpeg.Huffman
import Nv12Jpeg.Jpeg.Quantization
import Nv12Jpeg.Picture.Rgb

/-!
# The scan of a picture

A picture is coded as one scan of units. A unit is a square of 8 by 8 pixels and holds a block of
luma, a block of blue and a block of red difference, none of them subsampled. Units go row by
row; where a unit reaches beyond the picture, the nearest pixel of the edge stands in.

* `ycbcr` gives the three samples of a colour;
* `blockWords` codes the coefficients of a block: the change of the first one since the block
  before, then runs of zeros and values;
* `Scan.units` codes the units of a picture one after the other.
-/

namespace Nv12Jpeg.Jpeg

/-- The samples of a colour: luma, blue difference, red difference, each from 0 to 255. -/
structure YCbCr where
  y : Int
  cb : Int
  cr : Int
  deriving DecidableEq, Repr

/-- The samples of a colour in fixed point with 16 fractional bits, rounded to a whole number. -/
def ycbcr (colour : Rgb) : YCbCr :=
  let r : Int := colour.red.toNat
  let g : Int := colour.green.toNat
  let b : Int := colour.blue.toNat
  { y := (19595 * r + 38469 * g + 7471 * b + 32767) / 65536
    cb := (-11059 * r - 21709 * g + 32768 * b + 8421375) / 65536
    cr := (32768 * r - 27439 * g - 5329 * b + 8421375) / 65536 }

/-- The unit whose top left pixel is at column `8 * column` of row `8 * row`. -/
def unitAt (image : RgbImage) (column row : Nat) : Block YCbCr :=
  Block.ofFn fun y x =>
    ycbcr (image.pixel (min (8 * column + x) (image.width - 1))
      (min (8 * row + y) (image.height - 1)))

/-- How a component is coded. -/
structure ComponentCoding where
  quantization : QuantizationTable
  /-- The code words for the sizes of DC differences. -/
  dc : Array Codeword
  /-- The code words for runs of zeros and the sizes of AC coefficients. -/
  ac : Array Codeword

/-- The code words for the sizes of luma DC differences. -/
def lumaDcTable : Array Codeword := HuffmanCode.lumaDc.table

/-- The code words for luma AC coefficients. -/
def lumaAcTable : Array Codeword := HuffmanCode.lumaAc.table

/-- The code words for the sizes of chroma DC differences. -/
def chromaDcTable : Array Codeword := HuffmanCode.chromaDc.table

/-- The code words for chroma AC coefficients. -/
def chromaAcTable : Array Codeword := HuffmanCode.chromaAc.table

/-- The bits of the magnitude of a value; none for zero. -/
def magnitudeSize (value : Int) : Nat := if value = 0 then 0 else Nat.log2 value.natAbs + 1

/-- The bits that tell a value among those of its size: its magnitude, or the complement of it
for a negative value. -/
def magnitude (value : Int) : Codeword :=
  let size := magnitudeSize value
  ⟨(if value < 0 then value - 1 + (1 <<< size : Nat) else value).toNat, size⟩

/-- A run of 16 zeros. -/
def sixteenZeros : Nat := 0xf0

/-- Nothing but zeros up to the end of the block. -/
def endOfBlock : Nat := 0x00

/-- Codes the coefficients behind the first one, of which `zeros` zeros were read already. -/
def acWords (table : Array Codeword) : (zeros : Nat) → (coefficients : List Int) → List Codeword
  | 0, [] => []
  | _ + 1, [] => [table.getD endOfBlock default]
  | zeros, value :: rest =>
    if value = 0 then acWords table (zeros + 1) rest
    else
      List.replicate (zeros / 16) (table.getD sixteenZeros default)
        ++ table.getD (zeros % 16 * 16 + magnitudeSize value) default
        :: magnitude value :: acWords table 0 rest

/-- Codes a block whose predecessor of the same component began with `previous`. -/
def blockWords (coding : ComponentCoding) (previous : Int) : (coefficients : List Int) →
    List Codeword
  | [] => []
  | first :: rest =>
    let difference := first - previous
    coding.dc.getD (magnitudeSize difference) default :: magnitude difference
      :: acWords coding.ac 0 rest

/-- The coefficients of a block of samples, in steps and in zigzag order. -/
def coefficients (coding : ComponentCoding) (samples : Block Int) : List Int :=
  (Block.zipWith quantize (cosineTransform samples) coding.quantization).zigzag

/-- How the components of a picture are coded. -/
structure PictureCoding where
  luma : ComponentCoding
  chroma : ComponentCoding

/-- The usual coding at a quality. -/
def PictureCoding.atQuality (quality : Nat) : PictureCoding where
  luma := ⟨QuantizationTable.lumaBase.atQuality quality, lumaDcTable, lumaAcTable⟩
  chroma := ⟨QuantizationTable.chromaBase.atQuality quality, chromaDcTable, chromaAcTable⟩

/-- A scan in the course of being written. -/
structure Scan where
  sink : BitSink
  /-- The first coefficient of the last luma block. -/
  lastY : Int
  /-- The first coefficient of the last block of blue differences. -/
  lastCb : Int
  /-- The first coefficient of the last block of red differences. -/
  lastCr : Int

namespace Scan

/-- A scan without units, behind the bytes of a file header. -/
def behind (header : Bytes) : Scan := ⟨.behind header, 0, 0, 0⟩

/-- Codes a unit. -/
def unit (coding : PictureCoding) (scan : Scan) (unit : Block YCbCr) : Scan :=
  let y := coefficients coding.luma (unit.map YCbCr.y)
  let cb := coefficients coding.chroma (unit.map YCbCr.cb)
  let cr := coefficients coding.chroma (unit.map YCbCr.cr)
  let words := blockWords coding.luma scan.lastY y
    ++ blockWords coding.chroma scan.lastCb cb ++ blockWords coding.chroma scan.lastCr cr
  { sink := words.foldl BitSink.put scan.sink
    lastY := y.headD 0
    lastCb := cb.headD 0
    lastCr := cr.headD 0 }

/-- Codes `count` units of a picture, the first of them number `first`. -/
def units (coding : PictureCoding) (image : RgbImage) : (count first : Nat) → Scan → Scan
  | 0, _, scan => scan
  | count + 1, first, scan =>
    let across := (image.width + 7) / 8
    units coding image count (first + 1)
      (scan.unit coding (unitAt image (first % across) (first / across)))

end Scan

/-- The number of units of a picture. -/
def unitCount (image : RgbImage) : Nat := (image.width + 7) / 8 * ((image.height + 7) / 8)

end Nv12Jpeg.Jpeg
