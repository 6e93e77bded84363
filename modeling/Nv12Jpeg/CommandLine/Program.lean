import Nv12Jpeg.CommandLine.Request
import Nv12Jpeg.Encode.Run

/-!
# The command-line program

`runProgram` does what arguments ask for, on the files in a store, and reports what the program
prints, the code it ends with, and the files and log it leaves behind.
-/

namespace Nv12Jpeg.CommandLine

/-- The text of a failed run: the input, the error, and once more the cause of the error. -/
def failureText (options : EncodeOptions) (error : EncodeError) : String :=
  ": ".intercalate
    (s!"encoding {options.input} failed" :: error.message :: error.causeMessage?.toList)

/-- How a program ends. -/
inductive ProgramEnd where
  | success
  /-- The arguments are wrong. -/
  | usage (error : UsageError)
  /-- Encoding failed, for the reason in the text. -/
  | failure (text : String)
  | fault (fault : Fault)
  deriving DecidableEq, Repr

/-- The exit code of a program. -/
def ProgramEnd.exitCode : ProgramEnd → Nat
  | success => 0
  | usage _ => 1
  | failure _ => 255
  | fault _ => 101

/-- The text that a program ends with when something went wrong. -/
def ProgramEnd.errorText? : ProgramEnd → Option String
  | success => none
  | usage error => some s!"error: {error.message}"
  | failure text => some s!"error: {text}"
  | fault _ => some "the work stopped at a fault"

/-- What a run of the program leaves behind. -/
structure ProgramRun where
  ending : ProgramEnd
  /-- What was printed. -/
  output : String
  store : FileStore
  /-- How much of the log is wanted. -/
  verbosity : Nat
  log : Array Event

/-- Whether events of a level are wanted. -/
def isWanted (verbosity : Nat) : LogLevel → Bool
  | .error | .warn | .info => true
  | .debug => decide (1 ≤ verbosity)
  | .trace => decide (2 ≤ verbosity)

/-- An event on one line. -/
def eventLine (event : Event) : String :=
  let fields := event.fields.map fun (name, text) => s!"{name}={text}"
  " ".intercalate (event.level.text :: event.message :: fields)

/-- The lines of the log that are wanted. -/
def ProgramRun.logLines (run : ProgramRun) : List String :=
  (run.log.toList.filter (isWanted run.verbosity ·.level)).map eventLine

/-- Does what arguments ask for. -/
def runProgram (arguments : List String) (store : FileStore) (cpu : CpuEncoder) : ProgramRun :=
  match Request.ofArguments arguments with
  | .error error => ⟨.usage error, "", store, 0, #[]⟩
  | .ok .help => ⟨.success, helpText, store, 0, #[]⟩
  | .ok (.encode options verbosity) =>
    let run := encodeFile options store cpu
    let (ending, output) := match run.outcome with
      | .ok summary => (.success, s!"Encoded {summary.framesWritten} frames\n")
      | .error (.error error) => (.failure (failureText options error), "")
      | .error (.fault fault) => (.fault fault, "")
    ⟨ending, output, run.store, verbosity, run.log⟩

end Nv12Jpeg.CommandLine
