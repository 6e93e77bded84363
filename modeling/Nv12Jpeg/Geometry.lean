import Nv12Jpeg.Fault

/-!
# Frame geometry

An NV12 frame is a plane of luma rows followed by a plane of interleaved chroma rows, one for
every two luma rows. Its *crop* is the picture; its *allocation* is the memory of one surface,
which has 16-pixel alignment unless a caller sets it otherwise.

* `align16` rounds up to a multiple of 16, and stops at the largest 16-bit one;
* `FrameInfo.surfaceSize` counts the bytes of a surface;
* `FrameInfo.rawFrameSize` counts the bytes of a frame in a raw file.
-/

namespace Nv12Jpeg

/-- The least multiple of 16 that is not below `value`, or 65520 if that exceeds 16 bits. -/
def align16 (value : UInt16) : UInt16 :=
  UInt16.ofNat (min ((value.toNat + 15) / 16 * 16) 65520)

/-- The bytes of a chroma row under `width` pixels: two for every two columns begun. -/
def chromaRowBytes (width : Nat) : Nat := (width + 1) / 2 * 2

/-- The bytes of a chroma row, computed in the word that holds sizes. -/
def chromaRowSize (width : Nat) : Except Fault Nat := do
  let rounded ← Size.add width 1
  return rounded / 2 * 2

/-- The chroma rows under `height` luma rows: one for every two rows begun. -/
def chromaRows (height : Nat) : Nat := (height + 1) / 2

/-- Frames per second, as a fraction. -/
structure FrameRate where
  numerator : UInt32
  denominator : UInt32
  deriving DecidableEq, Repr

/-- A frame rate as it is written in messages. -/
def FrameRate.text (rate : FrameRate) : String :=
  s!"{rate.numerator}/{rate.denominator}"

/-- The geometry of an NV12 surface and of the picture in it. -/
structure FrameInfo where
  frameRate : FrameRate
  cropX : UInt16
  cropY : UInt16
  cropW : UInt16
  cropH : UInt16
  /-- The allocated width; also the distance between two rows. -/
  width : UInt16
  /-- The allocated height. -/
  height : UInt16
  deriving DecidableEq, Repr

namespace FrameInfo

/-- The code by which the pixel layout is known. -/
def fourcc : String := "NV12"

/-- The chroma subsampling of the pixel layout. -/
def chromaFormat : String := "Yuv420"

/-- Gives the crop a new size and aligns the allocation to it. -/
def withCrop (info : FrameInfo) (width height : UInt16) : FrameInfo :=
  { info with
    cropW := width
    cropH := height
    width := align16 width
    height := align16 height }

/-- The geometry of a `width` by `height` picture in the top left corner of an aligned surface. -/
def nv12 (width height : UInt16) (framesPerSecond : UInt32) : FrameInfo where
  frameRate := ⟨framesPerSecond, 1⟩
  cropX := 0
  cropY := 0
  cropW := width
  cropH := height
  width := align16 width
  height := align16 height

/-- The distance in bytes between the starts of two rows of a surface. -/
def pitch (info : FrameInfo) : Nat := info.width.toNat

/-- Where the chroma plane starts in a surface. -/
def chromaOffset (info : FrameInfo) : Nat := info.pitch * info.height.toNat

/-- The bytes of one surface. -/
def surfaceSize (info : FrameInfo) : Nat :=
  info.chromaOffset + info.chromaOffset / 2

/-- The bytes of one frame of the crop size without padding, as raw files hold it. -/
def rawFrameSize (info : FrameInfo) : Nat :=
  info.cropW.toNat * info.cropH.toNat
    + chromaRowBytes info.cropW.toNat * chromaRows info.cropH.toNat

/-- A geometry as it is written in messages. -/
def text (info : FrameInfo) : String :=
  s!"{fourcc} {info.cropW}x{info.cropH} (alloc {info.width}x{info.height}) @ "
    ++ s!"{info.frameRate.text}fps"

/-- The checked count is the plain one wherever it exists. -/
theorem chromaRowSize_eq_ok {width row : Nat} :
    chromaRowSize width = .ok row ↔ width + 1 < Size.bound ∧ row = chromaRowBytes width := by
  by_cases h : width + 1 < Size.bound <;>
    simp [chromaRowSize, chromaRowBytes, Size.add, h, bind, Except.bind, pure, Except.pure,
      eq_comm]

@[simp] theorem withCrop_nv12 (w h w' h' : UInt16) (fps : UInt32) :
    (nv12 w h fps).withCrop w' h' = nv12 w' h' fps := rfl

end FrameInfo

end Nv12Jpeg
