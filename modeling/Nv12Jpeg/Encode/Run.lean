import Nv12Jpeg.Encode.Loop

/-!
# Encode runs

* `EncodeContext.carryOut` drops the session after whatever steps are asked for;
* `EncodeContext.runToEnd` is a run on a session that exists already;
* `encodeFile` opens the input, selects an implementation and runs on its encoder.
-/

namespace Nv12Jpeg

namespace EncodeM

variable {σ : Type}

/-- A whole run: set-up, loop and summary. -/
def wholeRun : EncodeM σ EncodeSummary := do
  setUp
  finish (← runLoop)

end EncodeM

/-- The outcome of a run with the files and the log as the run leaves them. -/
structure RunResult where
  outcome : Attempt EncodeError EncodeSummary
  store : FileStore
  log : Array Event

namespace EncodeContext

variable {σ : Type}

/-- Carries out steps of a run and drops the session, whatever the outcome. -/
def carryOut {α : Type} (context : EncodeContext σ) (steps : EncodeM σ α) :
    Attempt EncodeError α × EncodeContext σ :=
  let (outcome, context) := steps.run context
  (outcome, context.release)

/-- Runs to the end and drops the session. -/
def runToEnd (context : EncodeContext σ) : Attempt EncodeError EncodeSummary × EncodeContext σ :=
  context.carryOut EncodeM.wholeRun

end EncodeContext

/-- Runs on the software encoder, with its input from a file. -/
def encodeFile (options : EncodeOptions) (store : FileStore) (cpu : CpuEncoder) : RunResult :=
  match Source.openFile store options.input with
  | .error error => ⟨.fail (.inputNotOpened options.input error), store, #[]⟩
  | .ok source =>
    match Session.create options.backend .jpeg cpu with
    | .error error => ⟨.fail (.encoder .createSession error), store, #[]⟩
    | .ok (session, events) =>
      let (outcome, context) :=
        (EncodeContext.start session source options store events.toArray).runToEnd
      ⟨outcome, context.store, context.log⟩

end Nv12Jpeg
