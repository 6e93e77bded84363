import Nv12Jpeg.Bytes
import Nv12Jpeg.Encoder.Reply
import Nv12Jpeg.Geometry

/-!
# NV12 pictures

A picture in NV12 is a plane of luma rows and a plane of chroma rows whose starts lie `pitch`
bytes apart. Planes may be given with any numbers, so each access is checked.

* `Nv12Planes.check` tells the first defect that makes planes unusable as a picture;
* `Nv12Planes.toFrame` copies the visible bytes into a frame of its own, without padding rows;
* `Nv12Frame.planes` cuts the bytes of a frame into its two planes.
-/

namespace Nv12Jpeg

/-- What can be wrong with the numbers and bytes of an NV12 picture. -/
inductive Nv12Defect where
  | emptyFrame (width height : Nat)
  | narrowPitch (pitch chromaRow : Nat)
  | shortPlanes (width height lumaSize lumaNeeded chromaSize chromaNeeded : Nat)
  /-- A side has more than 32 bits. -/
  | oversized (side : Nat)
  deriving DecidableEq, Repr

/-- The text of a defect. -/
def Nv12Defect.message : Nv12Defect → String
  | .emptyFrame width height => s!"empty nv12 frame {width}x{height}"
  | .narrowPitch pitch chromaRow => s!"pitch {pitch} is narrower than chroma row {chromaRow}"
  | .shortPlanes width height lumaSize lumaNeeded chromaSize chromaNeeded =>
    s!"nv12 planes too small for {width}x{height}: luma {lumaSize}/{lumaNeeded}, "
      ++ s!"chroma {chromaSize}/{chromaNeeded}"
  | .oversized side => s!"frame dimension {side} overflows"

/-- A defective picture is invalid input. -/
def Nv12Defect.toError (defect : Nv12Defect) : EncoderError := .invalidInput defect.message

/-- The planes of one NV12 picture. -/
structure Nv12Planes where
  width : Nat
  height : Nat
  /-- The distance in bytes between the starts of two rows, in either plane. -/
  pitch : Nat
  luma : Bytes
  chroma : Bytes
  deriving DecidableEq, Repr

/-- An NV12 picture in one buffer: luma rows, then chroma rows, all `pitch` bytes apart. -/
structure Nv12Frame where
  width : Nat
  height : Nat
  pitch : Nat
  data : Bytes
  deriving DecidableEq, Repr

namespace Nv12Planes

/-- The bytes a plane needs for `rows` rows of `row` bytes, the last one without padding. -/
def planeSize (rows pitch row : Nat) : Except Fault Nat := do
  Size.add (← Size.mul (rows - 1) pitch) row

/-- Accepts planes that hold every visible byte, and names what is wrong with any other. -/
def check (planes : Nv12Planes) : Attempt EncoderError Unit := do
  if planes.width = 0 ∨ planes.height = 0 then
    .fail (Nv12Defect.emptyFrame planes.width planes.height).toError
  else
    let row ← .ofFault (chromaRowSize planes.width)
    if planes.pitch < row then
      .fail (Nv12Defect.narrowPitch planes.pitch row).toError
    else
      let lumaNeeded ← .ofFault (planeSize planes.height planes.pitch planes.width)
      let chromaNeeded ← .ofFault (planeSize (chromaRows planes.height) planes.pitch row)
      if planes.luma.size < lumaNeeded ∨ planes.chroma.size < chromaNeeded then
        .fail (Nv12Defect.shortPlanes planes.width planes.height planes.luma.size lumaNeeded
          planes.chroma.size chromaNeeded).toError
      else
        pure ()

/-- The visible bytes of luma row `y`. -/
def lumaRow (planes : Nv12Planes) (y : Nat) : Except Fault Bytes := do
  planes.luma.slice (← Size.mul y planes.pitch) planes.width

/-- The visible bytes of chroma row `r`. -/
def chromaRow (planes : Nv12Planes) (r : Nat) : Except Fault Bytes := do
  planes.chroma.slice (← Size.mul r planes.pitch) (chromaRowBytes planes.width)

/-- Appends `count` rows to `out`, the first of them row `first`. -/
def appendRows (row : Nat → Except Fault Bytes) : (count first : Nat) → Bytes →
    Except Fault Bytes
  | 0, _, out => .ok out
  | count + 1, first, out => do appendRows row count (first + 1) (out ++ (← row first))

/-- Copies the visible bytes into a frame whose rows follow each other; the rows of an odd width
end in one zero byte in the luma plane. -/
def toFrame (planes : Nv12Planes) : Except Fault Nv12Frame := do
  let pitch ← chromaRowSize planes.width
  let rows ← Size.add planes.height (chromaRows planes.height)
  let _ ← Size.buffer (← Size.mul pitch rows)
  if pitch = 0 then
    .error .emptyRow
  else
    let padding := Bytes.zeros (pitch - planes.width)
    let luma ← appendRows (fun y => return (← planes.lumaRow y) ++ padding) planes.height 0 #[]
    let data ← appendRows planes.chromaRow (chromaRows planes.height) 0 luma
    return { width := planes.width, height := planes.height, pitch, data }

end Nv12Planes

/-- The two planes of a frame: `height` rows of luma, as far as there are bytes, and the rest. -/
def Nv12Frame.planes (frame : Nv12Frame) : Except Fault Nv12Planes := do
  let split := min (← Size.mul frame.pitch frame.height) frame.data.size
  return {
    width := frame.width
    height := frame.height
    pitch := frame.pitch
    luma := frame.data.extract 0 split
    chroma := frame.data.extract split frame.data.size }

/-! ## A test pattern

A raw frame with a diagonal luma ramp within studio swing and neutral chroma. -/

namespace TestPattern

/-- The luma byte at column `x` of row `y`: the diagonal number, in turns of 220 from 16 on. -/
def luma (seed : UInt8) (x y : Nat) : UInt8 :=
  UInt8.ofNat ((x + y + seed.toNat) % 220 + 16)

/-- Appends `count` luma rows, the first of them row `first`. -/
def appendLuma (width : Nat) (seed : UInt8) : (count first : Nat) → Bytes → Bytes
  | 0, _, out => out
  | count + 1, first, out =>
    appendLuma width seed count (first + 1)
      (Nat.fold width (fun x _ out => out.push (luma seed x first)) out)

/-- The bytes of the pattern as a raw file holds them. -/
def frame (width height : Nat) (seed : UInt8) : Except Fault Bytes := do
  let lumaSize ← Size.mul width height
  let chromaSize ← Size.mul (← chromaRowSize width) (chromaRows height)
  let _ ← Size.buffer (← Size.add lumaSize chromaSize)
  return appendLuma width seed height 0 #[] ++ Array.replicate chromaSize 128

end TestPattern

end Nv12Jpeg
