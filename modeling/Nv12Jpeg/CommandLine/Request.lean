import Nv12Jpeg.CommandLine.Given

/-!
# What a command line asks for

* `Request.ofArguments` reads a request, or reports the first thing that is wrong;
* `helpText` is what is printed when help is asked for.
-/

namespace Nv12Jpeg.CommandLine

/-- What a command line asks for. -/
inductive Request where
  | help
  | encode (options : EncodeOptions) (verbosity : Nat)
  deriving DecidableEq, Repr

/-- The request that arguments make. What is wrong with an option in front comes first, then an
argument that spells no option, then an option that is missing. -/
def Request.ofArguments (arguments : List String) : Except UsageError Request :=
  let reading := Reading.ofArguments arguments
  match Given.nothing.ofOccurrences reading.settled, reading.defect with
  | .error defect, _ => .error defect
  | .ok none, _ => .ok .help
  | .ok (some _), some defect => .error defect
  | .ok (some given), none => given.toOptions.map (.encode · given.verbosity)

/-- The lines of the help text about one option; those without a letter are indented further. -/
def Flag.helpLines (flag : Flag) : List String :=
  let indent := match flag.spelling with
    | .letter _ => "  "
    | .word _ => "      "
  let heading := indent ++ flag.heading
  let note := "          " ++ flag.note
  if flag = .help then [heading] else [heading, note]

/-- The help text. -/
def helpText : String :=
  let lines := [
    "Encode raw NV12 frames into numbered JPEG files", "",
    "Usage: legacy-encode [OPTIONS] -i <INPUT> -w <WIDTH> -h <HEIGHT>", "",
    "Options:"] ++ Flag.all.flatMap Flag.helpLines
  String.join (lines.map fun line => line ++ "\n")

end Nv12Jpeg.CommandLine
