import Nv12Jpeg.Encoder.Reply
import Nv12Jpeg.Implementation

/-!
# Which parameters the software encoder takes

Parameters may have a defect for which there is no remedy, or one that a closest supported value
remedies.

* `EncodeParams.fixedDefect?` is the first defect without a remedy;
* `EncodeParams.defect?` is the first defect of either kind;
* `EncodeParams.adjust` remedies what can be remedied and states the buffer size.
-/

namespace Nv12Jpeg

/-- What can be wrong with parameters. -/
inductive ParamsDefect where
  | unknownCodec (codec : Codec)
  | emptyCrop (width height : UInt16)
  | cropOffset
  | noFrameRate (rate : FrameRate)
  | videoMemory
  | qualityOutOfRange (quality : UInt16)
  /-- The allocation is not aligned or does not cover the crop. -/
  | allocation (info : FrameInfo)
  | separateScans
  deriving DecidableEq, Repr

/-- The error a defect leads to. -/
def ParamsDefect.toError : ParamsDefect → EncoderError
  | .unknownCodec codec => .unsupportedCodec codec
  | .emptyCrop width height =>
    .invalidInput s!"crop size must be positive, got {width}x{height}"
  | .cropOffset => .unsupportedConfig "crop offsets are not supported"
  | .noFrameRate rate => .invalidInput s!"invalid frame rate {rate.text}"
  | .videoMemory => .unsupportedConfig "only system-memory input surfaces are supported"
  | .qualityOutOfRange quality =>
    .invalidInput s!"quality must be within 1..=100, got {quality}"
  | .allocation info =>
    .invalidInput (s!"allocation size {info.width}x{info.height} does not cover crop "
      ++ s!"{info.cropW}x{info.cropH} at 16-pixel alignment")
  | .separateScans => .unsupportedConfig "only interleaved scans are supported"

/-- Whether an allocated side is aligned and covers the side of the crop. -/
def covers (allocated crop : UInt16) : Bool :=
  allocated.toNat % 16 = 0 && decide (crop.toNat ≤ allocated.toNat)

namespace EncodeParams

/-- The first defect that no other value remedies. -/
def fixedDefect? (params : EncodeParams) (implementation : Implementation) :
    Option ParamsDefect :=
  let info := params.frameInfo
  if !implementation.codecs.contains params.codec then some (.unknownCodec params.codec)
  else if info.cropW = 0 ∨ info.cropH = 0 then some (.emptyCrop info.cropW info.cropH)
  else if info.cropX ≠ 0 ∨ info.cropY ≠ 0 then some .cropOffset
  else if info.frameRate.denominator = 0 ∨ info.frameRate.numerator = 0 then
    some (.noFrameRate info.frameRate)
  else if params.ioPattern ≠ .systemMemory then some .videoMemory
  else none

/-- Whether the quality is from 1 to 100. -/
def hasQuality (params : EncodeParams) : Bool :=
  decide (1 ≤ params.quality.toNat) && decide (params.quality.toNat ≤ 100)

/-- The first defect that another value remedies. -/
def adjustableDefect? (params : EncodeParams) : Option ParamsDefect :=
  let info := params.frameInfo
  if !params.hasQuality then some (.qualityOutOfRange params.quality)
  else if !covers info.width info.cropW || !covers info.height info.cropH then
    some (.allocation info)
  else if !params.interleaved then some .separateScans
  else none

/-- The first defect. -/
def defect? (params : EncodeParams) (implementation : Implementation) : Option ParamsDefect :=
  (params.fixedDefect? implementation).or params.adjustableDefect?

/-- A bound on the size of an encoded frame in units of 1024 bytes: three bytes a pixel and 4096
more. -/
def worstCaseKb (params : EncodeParams) : UInt32 :=
  let info := params.frameInfo
  UInt32.ofNat ((info.cropW.toNat * info.cropH.toNat * 3 + 4096 + 1023) / 1024)

/-- States the bound on the size of an encoded frame. -/
def withWorstCase (params : EncodeParams) : EncodeParams :=
  { params with bufferSizeKb := params.worstCaseKb }

/-- The quality as it is, or the nearest one that is supported. -/
def supportedQuality (params : EncodeParams) : UInt16 :=
  if params.hasQuality then params.quality
  else UInt16.ofNat (min (max params.quality.toNat 1) 100)

/-- An allocated side as it is, or the aligned side of the crop if it does not cover that. -/
def supportedSide (allocated crop : UInt16) : UInt16 :=
  if covers allocated crop then allocated else align16 crop

/-- Replaces values that are not supported by the closest ones that are. -/
def supported (params : EncodeParams) : EncodeParams :=
  let info := params.frameInfo
  { params with
    quality := params.supportedQuality
    frameInfo := { info with
      width := supportedSide info.width info.cropW
      height := supportedSide info.height info.cropH }
    interleaved := true }

/-- Whether every value is supported as it is. -/
def isSupported (params : EncodeParams) : Bool :=
  params.hasQuality && covers params.frameInfo.width params.frameInfo.cropW
    && covers params.frameInfo.height params.frameInfo.cropH && params.interleaved

/-- The supported parameters closest to these, and whether they differ from these. -/
def adjust (params : EncodeParams) : QueryOutcome × EncodeParams :=
  (if params.isSupported then .exact else .adjusted, params.supported.withWorstCase)

end EncodeParams

end Nv12Jpeg
