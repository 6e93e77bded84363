import Nv12Jpeg.Jpeg.Scan

/-!
# JPEG files

A baseline file: the application header, the frame header, the quantisation tables, the Huffman
tables, the scan, and the end marker.

* `Jpeg.encode` is the file of a picture, or the reason why there is none;
* `Nv12Frame.toJpeg` converts an NV12 frame and encodes the result.
-/

namespace Nv12Jpeg.Jpeg

/-- The picture's sides do not fit the 16-bit fields of the frame header. -/
structure SizeError where
  width : Nat
  height : Nat
  deriving DecidableEq, Repr

/-- The text of a size error. -/
def SizeError.message (error : SizeError) : String :=
  "Format error encoding Jpeg:\n"
    ++ s!"Invalid image size ({error.width} x {error.height}) to encode as JPEG: "
    ++ "width and height must be >= 1 and <= 65535"

/-- Two bytes, the more significant first. -/
def word16 (value : Nat) : List UInt8 := [UInt8.ofNat (value / 256), UInt8.ofNat value]

/-- A marker segment: its data are preceded by their length, which counts itself. -/
def segment (marker : UInt8) (data : List UInt8) : List UInt8 :=
  0xff :: marker :: word16 (data.length + 2) ++ data

/-- The application header: version 1.2, and square pixels of no stated size. -/
def applicationHeader : List UInt8 :=
  segment 0xe0 [0x4a, 0x46, 0x49, 0x46, 0, 1, 2, 0, 0, 1, 0, 1, 0, 0]

/-- The frame header: 8-bit samples, three components, the second and third with the chroma
table, none subsampled. -/
def frameHeader (width height : Nat) : List UInt8 :=
  segment 0xc0 (8 :: word16 height ++ word16 width
    ++ [3, 1, 0x11, 0, 2, 0x11, 1, 3, 0x11, 1])

/-- A quantisation table in zigzag order. -/
def quantizationSegment (identifier : UInt8) (table : QuantizationTable) : List UInt8 :=
  segment 0xdb (identifier :: table.zigzag.map UInt8.ofNat)

/-- A Huffman table. -/
def huffmanSegment (identifier : UInt8) (code : HuffmanCode) : List UInt8 :=
  segment 0xc4 (identifier :: code.counts.map UInt8.ofNat ++ code.symbols.map UInt8.ofNat)

/-- The scan header: all three components together, with the tables of luma and chroma. -/
def scanHeader : List UInt8 := segment 0xda [3, 1, 0, 2, 0x11, 3, 0x11, 0, 0x3f, 0]

/-- Everything in front of the coded data. -/
def header (coding : PictureCoding) (width height : Nat) : List UInt8 :=
  [0xff, 0xd8] ++ applicationHeader ++ frameHeader width height
    ++ quantizationSegment 0 coding.luma.quantization
    ++ quantizationSegment 1 coding.chroma.quantization
    ++ huffmanSegment 0x00 .lumaDc ++ huffmanSegment 0x10 .lumaAc
    ++ huffmanSegment 0x01 .chromaDc ++ huffmanSegment 0x11 .chromaAc
    ++ scanHeader

/-- The end of a file. -/
def endMarker : List UInt8 := [0xff, 0xd9]

/-- The baseline file of a picture at a quality from 1 to 100. -/
def encode (image : RgbImage) (quality : UInt8) : Except SizeError Bytes :=
  if image.width = 0 ∨ 65535 < image.width ∨ image.height = 0 ∨ 65535 < image.height then
    .error ⟨image.width, image.height⟩
  else
    let coding := PictureCoding.atQuality quality.toNat
    let scan := Scan.behind (header coding image.width image.height).toArray
    let scan := scan.units coding image (unitCount image) 0
    .ok (scan.sink.finish ++ endMarker)

end Nv12Jpeg.Jpeg

namespace Nv12Jpeg.Nv12Frame

/-- The JPEG file of a frame. -/
def toJpeg (frame : Nv12Frame) (quality : UInt8) : Attempt EncoderError Bytes := do
  let image ← (← .ofFault frame.planes).toRgb
  match Jpeg.encode image quality with
  | .ok file => pure file
  | .error error => .fail (.backend s!"jpeg encode failed: {error.message}")

end Nv12Jpeg.Nv12Frame
