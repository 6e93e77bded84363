import Nv12Jpeg.CommandLine.Program
import Nv12Jpeg.Proofs.CommandLine.Options
import Nv12Jpeg.Proofs.Encode.FrameLimit
import Nv12Jpeg.Proofs.Encode.SoftwareEnding

/-!
# How the program ends

* `FilesWritten` — as many files as are counted, each of them at a place of its own;
* `help_of_ofArguments` — help is given only where it is asked for;
* `exit_code_tells_outcome` — for all arguments and all contents of files: what comes of the
  arguments, and what the exit code and the output tell of the run.
-/

namespace Nv12Jpeg

/-- The files of so many frames were written. Each has a place of its own, and all other places are
as before. -/
structure FilesWritten (options : EncodeOptions) (before after : FileStore)
    (frames : Nat) : Prop where
  written : ∃ files : List Bytes, files.length = frames ∧ Written options before files after
  places : (outputLocations options before frames).length = frames
  apart : (outputLocations options before frames).Nodup

theorem Written.filesWritten {options : EncodeOptions} {before after : FileStore}
    {files : List Bytes}
    (written : Written options before files after) :
    FilesWritten options before after files.length where
  written := ⟨files, rfl, written⟩
  places := by
    have all : ∀ k ∈ List.range files.length,
        (before.resolve (outputPath options (k + 1))).toOption.isSome = true := by
      intro k within
      obtain ⟨location, resolved, _⟩ :=
        written.file k _ (List.getElem?_eq_getElem (List.mem_range.1 within))
      rw [resolved]
      rfl
    rw [outputLocations, List.filterMap_length_eq_length.2 all, List.length_range]
  apart := by
    -- The paths of two frames lead to one place only if the frames have one number.
    refine List.nodup_range.filterMap fun i j location there there' => ?_
    have resolved {k : Nat}
        (leads : location ∈ (before.resolve (outputPath options (k + 1))).toOption) :
        before.resolve (outputPath options (k + 1)) = .ok location := by
      cases found : before.resolve (outputPath options (k + 1)) with
      | error error =>
        rw [found] at leads
        cases leads
      | ok place =>
        rw [found] at leads
        exact congrArg Except.ok (Option.some.inj leads)
    exact Nat.succ.inj (FileStore.output_inj (resolved there) (resolved there'))

namespace CommandLine

open EncodeM

/-- Help is given only where the word for it is among the arguments. -/
theorem help_of_ofArguments {arguments : List String}
    (request : Request.ofArguments arguments = .ok .help) : "--help" ∈ arguments := by
  unfold Request.ofArguments at request
  dsimp only at request
  split at request
  · cases request
  · rename_i done
    obtain ⟨o, settled, help⟩ := Given.help_of_ofOccurrences done
    have mem : o ∈ (Reading.ofArguments arguments).occurrences := by
      unfold Reading.settled at settled
      split at settled
      · split at settled
        · exact List.mem_of_mem_dropLast settled
        · exact settled
      · exact settled
    rcases Reading.occurrence_cases mem with rfl | ⟨_, there⟩ | takes
    · cases help
    · exact there
    · rw [help] at takes
      cases takes
  · cases request
  · rename_i given _ _
    cases options_eq : given.toOptions with
    | error error =>
      rw [options_eq] at request
      cases request
    | ok options =>
      rw [options_eq] at request
      cases request

/-- What the exit code of the program tells, for all arguments and all contents of files.

Arguments that make no request are a usage error, and no file is created. Arguments that ask for
help are answered with it. All others ask for encode options, which are within their bounds and
leave nothing out that is said of a change of the picture size. The run on these options ends with
code 0 and the number of files that were written, whatever the reason to stop is, or with code 255.
It stops before that only for want of memory, or where there are more frames than 32 bits count. -/
theorem exit_code_tells_outcome (arguments : List String) (store : FileStore) (reports : Bool)
    (schedule : List Occasion) :
    let cpu := CpuEncoder.new reports schedule
    let run := runProgram arguments store cpu
    match Request.ofArguments arguments with
    | .error error => run.ending = .usage error ∧ run.ending.exitCode = 1 ∧ run.store = store
    | .ok .help =>
      "--help" ∈ arguments ∧ run.ending.exitCode = 0 ∧ run.output = helpText ∧ run.store = store
    | .ok (.encode options _) =>
      AsksFor arguments options ∧ WellFormed options ∧ ResetAsTold arguments options ∧
      run.store = (encodeFile options store cpu).store ∧
      match (encodeFile options store cpu).outcome with
      | .ok summary => run.ending.exitCode = 0 ∧
          run.output = s!"Encoded {summary.framesWritten} frames\n" ∧
          FilesWritten options store run.store summary.framesWritten
      | .error (.error _) => run.ending.exitCode = 255
      | .error (.fault fault) => StopsFor options store run.store fault := by
  unfold runProgram
  cases request : Request.ofArguments arguments with
  | error error => exact ⟨rfl, rfl, rfl⟩
  | ok asked =>
    cases asked with
    | help => exact ⟨help_of_ofArguments request, rfl, rfl, rfl⟩
    | encode options verbosity =>
      have asks := asksFor_of_ofArguments request
      refine ⟨asks, asks.wellFormed, asks.resetAsTold, rfl, ?_⟩
      dsimp only
      obtain ⟨summary, files, outcome, count, written⟩ | ⟨error, outcome⟩ |
          ⟨fault, outcome, known⟩ :=
        @encodeFile_comes options store reports schedule _ asks.covers rfl
      · rw [outcome]
        exact ⟨rfl, rfl, count ▸ written.filesWritten⟩
      · rw [outcome]
        rfl
      · rw [outcome]
        exact known

/-- An input of one frame of one pixel. -/
def onePixel : FileStore := FileStore.empty.put ["in"] (.file #[200, 128, 128])

/-- Options for this input, with a change of the picture size that does not come about. -/
def onePixelOptions : EncodeOptions :=
  { EncodeOptions.ofInput "in" 1 1 with resolutionChange := some ⟨2, 2, 1, none⟩ }

/-- The frame is encoded and written, although the worker is late once. -/
theorem encodeFile_onePixel :
    ∃ summary, (encodeFile onePixelOptions onePixel (.new false [⟨0, 0⟩])).outcome = .ok summary ∧
      summary.framesWritten = 1 := by
  have opened : Source.openFile onePixel onePixelOptions.input
      = .ok (.file (.ofLocation ["in"])) := by
    have there : onePixel.openRead "in" = .ok ["in"] := by decide +kernel
    exact bind_eq_ok.2 ⟨_, there, rfl⟩
  have apart : ¬ IsOutput onePixelOptions onePixel 1 ["in"] := by
    rintro ⟨frame, _, _, resolved⟩
    exact FileStore.outputFileName_ne frame (by decide)
      (Option.some.inj (FileStore.getLast?_resolve_output resolved)).symm
  have found : onePixel.find? ["in"] = some (.file #[200, 128, 128]) := by decide
  have first : onePixel.Creatable (outputPath onePixelOptions 1) := by
    refine FileStore.creatable_iff.2 ⟨["frame1.jpg"], ?_, ?_, ?_⟩ <;> decide +kernel
  have writable : onePixelOptions.Writable onePixel 1 := by
    refine ⟨by decide, fun k within => ?_⟩
    rw [Nat.lt_one_iff.1 within]
    exact first
  have timely : (CpuEncoder.new false [⟨0, 0⟩]).Timely onePixelOptions.sync.attempts :=
    fun waits => absurd waits.length_le (by decide)
  have reachable : ∀ results change,
      onePixelOptions.frameInfo.encodings onePixelOptions.jpegQuality #[200, 128, 128]
        = .ok results →
      onePixelOptions.changeWithin? results = some change →
      EncodeParams.IsSide change.width ∧ EncodeParams.IsSide change.height := by
    intro results change _ within
    obtain ⟨due, _⟩ := EncodeOptions.changeWithin?_eq_some.1 within
    cases due
    decide
  obtain ⟨expected, expected_eq⟩ :=
    EncodeOptions.expected_ok onePixel (by decide) (by decide) reachable
  -- The frame is encoded here, to see that its file fits.
  have one : expected.files.length = 1 := by
    have counted : (onePixelOptions.expected onePixel #[200, 128, 128]).map (·.files.length)
        = .ok 1 := by decide +kernel
    rw [expected_eq] at counted
    exact Except.ok.inj counted
  have room : onePixel.HasRoom (expected.files.map Array.size).sum := by
    intro room limited
    cases limited
  obtain ⟨ready, made, standing, _, store_eq⟩ := @standing_setUp onePixelOptions
    onePixel _ _ false [⟨0, 0⟩] #[.implementationSelected .cpu] expected.files (by decide)
    (by decide) (by decide) (by decide) timely (by decide)
    (one.symm ▸ Source.feeds_ofLocation found apart) (one.symm ▸ writable) room
  have size : onePixel.size = 3 := by decide
  have rounds : 3 < roundLimit ready := by
    rw [roundLimit]
    omega
  obtain ⟨done, books, looped⟩ :=
    standing.loops expected_eq reachable nofun rfl rounds (size ▸ rounds)
  obtain ⟨last, finished, _⟩ := books.finishes
  refine ⟨expected.summary onePixelOptions, ?_, one⟩
  have created : Session.create onePixelOptions.backend .jpeg (.new false [⟨0, 0⟩])
      = .ok (.ofEncoder CpuEncoder.encoder (.new false [⟨0, 0⟩]),
          [.implementationSelected .cpu]) := rfl
  have looped : runLoop.run ready = (.ok expected.stopReason, done) := by
    rw [runLoop, run_bind_ok (run_get _), looped]
  have ran : wholeRun.run
      (.software onePixelOptions onePixel (.file (.ofLocation ["in"])) false [⟨0, 0⟩]
        #[.implementationSelected .cpu]) = (.ok (expected.summary onePixelOptions), last) := by
    rw [wholeRun, run_bind_ok made, run_bind_ok looped, finished]
  rw [encodeFile_eq opened created ran]

/-- The program on this input, with the change of the picture size asked for by two arguments. -/
theorem exit_code_tells_outcome_of_one :
    let run := runProgram ["-i", "in", "-vw1", "-h", "1", "--reset-after=2", "--reset-size", "2X1"]
      onePixel (.new false [⟨0, 0⟩])
    run.ending.exitCode = 0 ∧ run.output = "Encoded 1 frames\n" ∧
      FilesWritten onePixelOptions onePixel run.store 1 := by
  obtain ⟨arguments, arguments_eq⟩ : ∃ arguments, arguments =
    ["-i", "in", "-vw1", "-h", "1", "--reset-after=2", "--reset-size", "2X1"] := ⟨_, rfl⟩
  have request : Request.ofArguments arguments = .ok (.encode onePixelOptions 1) := by
    rw [arguments_eq]
    decide +kernel
  obtain ⟨summary, outcome, count⟩ := encodeFile_onePixel
  have told := exit_code_tells_outcome arguments onePixel false [⟨0, 0⟩]
  rw [request] at told
  obtain ⟨_, _, _, _, told⟩ := told
  rw [outcome] at told
  dsimp only at told
  rw [count] at told
  rw [← arguments_eq]
  exact told

end CommandLine

end Nv12Jpeg
