import Nv12Jpeg.CommandLine.Reading
import Nv12Jpeg.CommandLine.Value
import Nv12Jpeg.Encode.Options

/-!
# The options that are set

What the options of a command line are set to. Values are taken from left to right, and the first
one that is wrong is reported.

* `Given.put` sets one option, `Given.ofOccurrences` sets all;
* `Given.toOptions` are the encode options, if all that is needed is there.
-/

namespace Nv12Jpeg.CommandLine

/-- The options that are set, with their values. -/
structure Given where
  input : Option String
  width : Option UInt16
  height : Option UInt16
  frameRate : Option UInt32
  quality : Option UInt16
  outputDir : Option String
  backend : Option BackendChoice
  maxFrames : Option UInt32
  resetAfter : Option UInt32
  resetSize : Option PictureSize
  resetInput : Option String
  bitstreamSize : Option Nat
  syncWait : Option Nat
  syncAttempts : Option UInt32
  /-- How often more messages were asked for. -/
  verbosity : Nat
  deriving DecidableEq, Repr

namespace Given

/-- Nothing is set. -/
def nothing : Given where
  input := none
  width := none
  height := none
  frameRate := none
  quality := none
  outputDir := none
  backend := none
  maxFrames := none
  resetAfter := none
  resetSize := none
  resetInput := none
  bitstreamSize := none
  syncWait := none
  syncAttempts := none
  verbosity := 0

/-- Whether an option with a value is set. -/
def has (given : Given) : Flag → Bool
  | .input => given.input.isSome
  | .width => given.width.isSome
  | .height => given.height.isSome
  | .frameRate => given.frameRate.isSome
  | .quality => given.quality.isSome
  | .outputDir => given.outputDir.isSome
  | .backend => given.backend.isSome
  | .maxFrames => given.maxFrames.isSome
  | .resetAfter => given.resetAfter.isSome
  | .resetSize => given.resetSize.isSome
  | .resetInput => given.resetInput.isSome
  | .bitstreamSize => given.bitstreamSize.isSome
  | .syncWait => given.syncWait.isSome
  | .syncAttempts => given.syncAttempts.isSome
  | .verbose | .help => false

/-- Sets an option to a value, in place of what it was set to. -/
def put (given : Given) (flag : Flag) (value : String) : Except UsageError Given :=
  match flag with
  | .input => do return { given with input := some (← flag.readPath value) }
  | .width => do return { given with width := some (← flag.readWord16 1 value) }
  | .height => do return { given with height := some (← flag.readWord16 1 value) }
  | .frameRate => do return { given with frameRate := some (← flag.readWord32 1 value) }
  | .quality => do return { given with quality := some (← flag.readWord16 0 value) }
  | .outputDir => do return { given with outputDir := some (← flag.readPath value) }
  | .backend => do return { given with backend := some (← flag.readChoice value) }
  | .maxFrames => do return { given with maxFrames := some (← flag.readWord32 0 value) }
  | .resetAfter => do return { given with resetAfter := some (← flag.readWord32 1 value) }
  | .resetSize => do return { given with resetSize := some (← flag.readPictureSize value) }
  | .resetInput => do return { given with resetInput := some (← flag.readPath value) }
  | .bitstreamSize => do return { given with bitstreamSize := some (← flag.readSize value) }
  | .syncWait => do return { given with syncWait := some (← flag.readSize value) }
  | .syncAttempts => do return { given with syncAttempts := some (← flag.readWord32 0 value) }
  | .verbose | .help => .error (.unneededValue flag value)

/-- Takes one occurrence of an option into account. -/
def take (given : Given) (occurrence : Occurrence) : Except UsageError Given :=
  if occurrence.flag = .verbose then .ok { given with verbosity := given.verbosity + 1 }
  else
    match occurrence.value with
    | none => .error (.noValue occurrence.flag)
    | some value =>
      if given.has occurrence.flag then .error (.repeated occurrence.flag)
      else given.put occurrence.flag value

/-- Takes occurrences of options into account, one after the other. There is no result if help is
asked for before anything is wrong. -/
def ofOccurrences (given : Given) : (occurrences : List Occurrence) →
    Except UsageError (Option Given)
  | [] => .ok (some given)
  | occurrence :: rest =>
    if occurrence.flag = .help then .ok none
    else do (← given.take occurrence).ofOccurrences rest

/-- The value of an option that has to be set. -/
def need {α : Type} (flag : Flag) : Option α → Except UsageError α
  | some value => .ok value
  | none => .error (.notGiven flag)

/-- The change of the picture size. Its frame and its size go together, and its input needs both. -/
def change (given : Given) : Except UsageError (Option ResolutionChange) :=
  if given.resetAfter = none ∧ given.resetSize = none ∧ given.resetInput = none then .ok none
  else do
    let after ← need .resetAfter given.resetAfter
    let size ← need .resetSize given.resetSize
    return some ⟨after, size.width, size.height, given.resetInput⟩

/-- The encode options, with what is not set as usual. A frame limit of 0 is none. -/
def toOptions (given : Given) : Except UsageError EncodeOptions := do
  let input ← need .input given.input
  let width ← need .width given.width
  let height ← need .height given.height
  let change ← given.change
  let usual := EncodeOptions.ofInput input width height
  return { usual with
    frameRate := given.frameRate.getD usual.frameRate
    quality := given.quality.getD usual.quality
    outputDir := given.outputDir.getD usual.outputDir
    backend := given.backend.getD usual.backend
    bitstreamCapacity := given.bitstreamSize.getD usual.bitstreamCapacity
    maxFrames := match given.maxFrames with
      | some limit => if limit = 0 then none else some limit
      | none => usual.maxFrames
    resolutionChange := change
    sync := {
      waitMs := given.syncWait.getD usual.sync.waitMs
      maxAttempts := given.syncAttempts.getD usual.sync.maxAttempts } }

end Given

end Nv12Jpeg.CommandLine
