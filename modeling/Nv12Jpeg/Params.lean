import Nv12Jpeg.Geometry

/-!
# Encode parameters

What an application asks of an encoder and what an encoder answers: the geometry of its frames,
the quality of the pictures and the way frames are handed over.
-/

namespace Nv12Jpeg

/-- The picture formats that can be encoded to. -/
inductive Codec where
  | jpeg
  deriving DecidableEq, Repr

/-- The name of a codec in messages. -/
def Codec.text : Codec → String
  | .jpeg => "jpeg"

/-- Where the input surfaces live. -/
inductive IoPattern where
  | systemMemory
  | videoMemory
  deriving DecidableEq, Repr

/-- The parameters of an encode session. -/
structure EncodeParams where
  codec : Codec
  frameInfo : FrameInfo
  interleaved : Bool
  quality : UInt16
  restartInterval : UInt16
  ioPattern : IoPattern
  /-- How many submissions may wait for their result at a time. -/
  asyncDepth : UInt16
  /-- The encoder's bound on the size of one encoded frame. -/
  bufferSizeKb : UInt32
  deriving DecidableEq, Repr

namespace EncodeParams

/-- The parameters for JPEG pictures of one size and quality, all else as usual. -/
def jpeg (width height : UInt16) (framesPerSecond : UInt32) (quality : UInt16) :
    EncodeParams where
  codec := .jpeg
  frameInfo := .nv12 width height framesPerSecond
  interleaved := true
  quality := quality
  restartInterval := 0
  ioPattern := .systemMemory
  asyncDepth := 1
  bufferSizeKb := 0

/-- Gives the pictures a new size. -/
def withResolution (params : EncodeParams) (width height : UInt16) : EncodeParams :=
  { params with frameInfo := params.frameInfo.withCrop width height }

/-- Parameters as they are written in messages. -/
def text (params : EncodeParams) : String :=
  s!"EncodeParams(codec={params.codec.text}, frame={params.frameInfo.text}, "
    ++ s!"quality={params.quality}, interleaved={params.interleaved}, "
    ++ s!"async_depth={params.asyncDepth})"

end EncodeParams

/-- What a pool of surfaces has to provide. -/
structure SurfaceRequest where
  minimum : UInt16
  suggested : UInt16
  info : FrameInfo
  deriving DecidableEq, Repr

/-- Whether parameters were accepted as they are or replaced by the closest supported ones. -/
inductive QueryOutcome where
  | exact
  | adjusted
  deriving DecidableEq, Repr

end Nv12Jpeg
