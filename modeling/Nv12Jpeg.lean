import Nv12Jpeg.Main
import Nv12Jpeg.Encoder.Recorded
import Nv12Jpeg.Encoder.Scripted
import Nv12Jpeg.Proofs.Bytes
import Nv12Jpeg.Proofs.Stream.Source
import Nv12Jpeg.Proofs.Bitstream
import Nv12Jpeg.Proofs.Bitstream.Waiting
import Nv12Jpeg.Proofs.CompletionQueue
import Nv12Jpeg.Proofs.Encoder.Cpu
import Nv12Jpeg.Proofs.Encoder.History
import Nv12Jpeg.Proofs.Encode.Numbering
import Nv12Jpeg.Proofs.Encode.Submissions
import Nv12Jpeg.Proofs.Encode.SoftwareFiles
import Nv12Jpeg.Proofs.Surface.Contents
import Nv12Jpeg.Proofs.Encoder.Reachable
import Nv12Jpeg.Proofs.Encode.Offers
import Nv12Jpeg.Proofs.Encode.Protocol
import Nv12Jpeg.Proofs.Encode.Draws
import Nv12Jpeg.Proofs.Encode.ResolutionChange
import Nv12Jpeg.Proofs.CompletionQueue.Delivery
import Nv12Jpeg.Proofs.Encoder.Negotiation
import Nv12Jpeg.Proofs.Encode.Rounds
import Nv12Jpeg.Proofs.Encode.Settlement
import Nv12Jpeg.Proofs.Encode.Flushes
import Nv12Jpeg.Proofs.Encode.Draining
import Nv12Jpeg.Proofs.Encoder.Guards
import Nv12Jpeg.Proofs.Encoder.Failures
import Nv12Jpeg.Proofs.Surface.Rows
import Nv12Jpeg.Proofs.Encode.InRange
import Nv12Jpeg.Proofs.Encode.RefusedChange
import Nv12Jpeg.Proofs.Picture.Planes
import Nv12Jpeg.Proofs.Picture.Repacking
import Nv12Jpeg.Proofs.Surface.RawFrames
import Nv12Jpeg.Proofs.Encoder.Closing
import Nv12Jpeg.Proofs.Surface.Independence
import Nv12Jpeg.Proofs.Picture.Colours
import Nv12Jpeg.Proofs.Picture.Outcomes
import Nv12Jpeg.Proofs.Encode.FrameLimit
import Nv12Jpeg.Proofs.Encoder.ReplySequences
import Nv12Jpeg.Proofs.Encode.Alongside
import Nv12Jpeg.Proofs.Encode.FramesLeft
import Nv12Jpeg.Proofs.Encode.DroppedFrames
import Nv12Jpeg.Proofs.Surface.Handles
import Nv12Jpeg.Proofs.Encoder.Judgement
import Nv12Jpeg.Proofs.CompletionQueue.Statistics
import Nv12Jpeg.Proofs.Jpeg.BitSink
import Nv12Jpeg.Proofs.Jpeg.Energy
import Nv12Jpeg.Proofs.Jpeg.Prices
import Nv12Jpeg.Proofs.Jpeg.FileSize
import Nv12Jpeg.Proofs.Encoder.BufferSize
import Nv12Jpeg.Proofs.CommandLine.PictureSize
import Nv12Jpeg.Proofs.CommandLine.Spelling
import Nv12Jpeg.Proofs.CommandLine.Options
import Nv12Jpeg.Proofs.Surface.FilesRunOut
import Nv12Jpeg.Proofs.Encode.SoftwareEnding
import Nv12Jpeg.Proofs.CommandLine.Program
