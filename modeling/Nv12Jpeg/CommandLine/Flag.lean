/-!
# Command-line options

The options of the command line with the letter or word that spells each, and what the help text
says of it.

* `Flag.ofLetter?` and `Flag.ofWord?` find an option by its spelling;
* `Flag.heading` and `Flag.note` are its two lines of the help text;
* `UsageError` says why arguments say nothing that could be done.
-/

namespace Nv12Jpeg.CommandLine

/-- An option of the command line. -/
inductive Flag where
  | input
  | width
  | height
  | frameRate
  | quality
  | outputDir
  | backend
  | maxFrames
  | resetAfter
  | resetSize
  | resetInput
  | bitstreamSize
  | syncWait
  | syncAttempts
  | verbose
  | help
  deriving DecidableEq, Repr

namespace Flag

/-- All options, in the order of the help text. -/
def all : List Flag :=
  [input, width, height, frameRate, quality, outputDir, backend, maxFrames, resetAfter, resetSize,
   resetInput, bitstreamSize, syncWait, syncAttempts, verbose, help]

/-- How an option is spelt: as a letter after one dash, or as a word after two. -/
inductive Spelling where
  | letter (letter : Char)
  | word (word : String)
  deriving DecidableEq, Repr

/-- The spelling of an option. -/
def spelling : Flag → Spelling
  | input => .letter 'i'
  | width => .letter 'w'
  | height => .letter 'h'
  | frameRate => .letter 'f'
  | quality => .letter 'q'
  | verbose => .letter 'v'
  | outputDir => .word "output-dir"
  | backend => .word "backend"
  | maxFrames => .word "max-frames"
  | resetAfter => .word "reset-after"
  | resetSize => .word "reset-size"
  | resetInput => .word "reset-input"
  | bitstreamSize => .word "bitstream-size"
  | syncWait => .word "sync-wait-ms"
  | syncAttempts => .word "sync-max-attempts"
  | help => .word "help"

/-- The option that a letter spells. -/
def ofLetter? (letter : Char) : Option Flag :=
  all.find? fun flag => flag.spelling = .letter letter

/-- The option that a word spells; words are never shortened. -/
def ofWord? (word : String) : Option Flag :=
  all.find? fun flag => flag.spelling = .word word

/-- Whether an option is followed by a value. -/
def takesValue : Flag → Bool
  | verbose | help => false
  | _ => true

/-- What the help text calls the value of an option. -/
def valueName : Flag → String
  | input => "INPUT"
  | width => "WIDTH"
  | height => "HEIGHT"
  | frameRate => "FPS"
  | quality => "QUALITY"
  | outputDir => "OUTPUT_DIR"
  | backend => "BACKEND"
  | maxFrames => "MAX_FRAMES"
  | resetAfter => "RESET_AFTER"
  | resetSize => "RESET_SIZE"
  | resetInput => "RESET_INPUT"
  | bitstreamSize => "BITSTREAM_SIZE"
  | syncWait => "SYNC_WAIT_MS"
  | syncAttempts => "SYNC_MAX_ATTEMPTS"
  | verbose | help => ""

/-- An option as a message spells it. -/
def text (flag : Flag) : String :=
  match flag.spelling with
  | .letter letter => s!"-{letter}"
  | .word word => s!"--{word}"

/-- An option as the help text spells it, with its value; one that may be repeated has dots. -/
def heading (flag : Flag) : String :=
  if flag.takesValue then s!"{flag.text} <{flag.valueName}>"
  else if flag = verbose then s!"{flag.text}..."
  else flag.text

/-- What the help text says about an option. -/
def note : Flag → String
  | input => "Raw NV12 input file"
  | frameRate => "[default: 25]"
  | quality => "[default: 90]"
  | outputDir => "[default: .]"
  | backend => "[default: auto] [possible values: auto, sw, hw]"
  | maxFrames => "Stop after this many written frames (0 = until the input ends) [default: 3]"
  | resetAfter => "Reset to `--reset-size` after this many written frames"
  | resetInput => "Continue reading from this file after the reset"
  | bitstreamSize => "[default: 2000000]"
  | syncWait => "[default: 100]"
  | syncAttempts => "[default: 50]"
  | width | height | resetSize | verbose | help => ""

end Flag

/-- What is wrong with the arguments of a command line. -/
inductive UsageError where
  /-- An argument is no option, and no value of one. -/
  | unknownArgument (argument : String)
  /-- An option without values has one attached. -/
  | unneededValue (flag : Flag) (value : String)
  /-- An option stands without its value. -/
  | noValue (flag : Flag)
  /-- An option that may occur once occurs again. -/
  | repeated (flag : Flag)
  /-- A number or a size is malformed or out of range. -/
  | malformedValue (flag : Flag) (value : String)
  /-- A value is none of those an option admits; a path may not be empty. -/
  | unfitValue (flag : Flag) (value : String)
  /-- An option is not there which is needed always, or with another one that is there. -/
  | notGiven (flag : Flag)
  deriving DecidableEq, Repr

/-- The text of a usage error. -/
def UsageError.message : UsageError → String
  | unknownArgument argument => s!"unexpected argument '{argument}'"
  | unneededValue flag value => s!"unexpected value '{value}' for '{flag.heading}'"
  | noValue flag => s!"a value is required for '{flag.heading}'"
  | repeated flag => s!"'{flag.heading}' cannot be used several times"
  | malformedValue flag value | unfitValue flag value =>
    s!"invalid value '{value}' for '{flag.heading}'"
  | notGiven flag => s!"'{flag.heading}' is required"

end Nv12Jpeg.CommandLine
