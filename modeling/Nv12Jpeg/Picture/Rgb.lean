import Nv12Jpeg.Picture.Nv12

/-!
# RGB pictures

* `Rgb.ofBt601` is the colour of one luma byte under one chroma pair: BT.601 studio swing to full
  range, in fixed point with 8 fractional bits;
* `Nv12Planes.toRgb` converts a whole picture; the columns and rows of a 2 by 2 square share the
  chroma pair under them.
-/

namespace Nv12Jpeg

/-- A colour. -/
structure Rgb where
  red : UInt8
  green : UInt8
  blue : UInt8
  deriving DecidableEq, Repr, Inhabited

namespace Rgb

/-- A value with 8 fractional bits, rounded down and confined to a byte. -/
def channel (scaled : Int) : UInt8 := UInt8.ofNat (min (scaled / 256).toNat 255)

/-- The colour of luma `y` under the chroma pair `u`, `v`. -/
def ofBt601 (y u v : UInt8) : Rgb :=
  let luma := 298 * max ((y.toNat : Int) - 16) 0 + 128
  let cb := (u.toNat : Int) - 128
  let cr := (v.toNat : Int) - 128
  { red := channel (luma + 409 * cr)
    green := channel (luma - 100 * cb - 208 * cr)
    blue := channel (luma + 516 * cb) }

end Rgb

/-- A picture as red, green and blue bytes, row by row. -/
structure RgbImage where
  width : Nat
  height : Nat
  data : Bytes
  deriving DecidableEq, Repr

namespace RgbImage

/-- The colour at column `x` of row `y`; black where the picture has no such byte. -/
def pixel (image : RgbImage) (x y : Nat) : Rgb :=
  let start := (y * image.width + x) * 3
  ⟨image.data.getD start 0, image.data.getD (start + 1) 0, image.data.getD (start + 2) 0⟩

/-- The bytes of a picture to be allocated: three for each pixel. -/
def bufferSize (width height : Nat) : Except Fault Nat := do
  Size.buffer (← Size.mul (← Size.mul 3 width) height)

end RgbImage

namespace Nv12Planes

/-- Appends the colours of one row, given its luma bytes and the chroma pairs under them. -/
def appendRgbRow (luma chroma : Bytes) (out : Bytes) : Bytes :=
  Nat.fold luma.size (fun x _ out =>
    let pair := x / 2 * 2
    let colour := Rgb.ofBt601 luma[x] (chroma.getD pair 0) (chroma.getD (pair + 1) 0)
    ((out.push colour.red).push colour.green).push colour.blue) out

/-- Appends the colours of `count` rows, the first of them row `first`. -/
def appendRgbRows (planes : Nv12Planes) : (count first : Nat) → Bytes → Except Fault Bytes
  | 0, _, out => .ok out
  | count + 1, first, out => do
    let luma ← planes.lumaRow first
    let chroma ← planes.chromaRow (first / 2)
    appendRgbRows planes count (first + 1) (appendRgbRow luma chroma out)

/-- The side of an RGB picture, if it has at most 32 bits. -/
def rgbSide (side : Nat) : Attempt EncoderError Nat :=
  if side < 0x100000000 then pure side else .fail (Nv12Defect.oversized side).toError

/-- Converts planes to an RGB picture of the same size. -/
def toRgb (planes : Nv12Planes) : Attempt EncoderError RgbImage := do
  planes.check
  let width ← rgbSide planes.width
  let height ← rgbSide planes.height
  let _ ← .ofFault (RgbImage.bufferSize width height)
  let data ← .ofFault (planes.appendRgbRows planes.height 0 #[])
  return { width, height, data }

end Nv12Planes

end Nv12Jpeg
