import Nv12Jpeg.CommandLine.Program

/-!
# The executable

The outer layer of the program. It looks at the files that the arguments name, has `runProgram` do
the work on what it saw, and then writes the files that are new and prints what there is to print.
-/

namespace Nv12Jpeg.CommandLine

/-- What is found under a path on disk. -/
def look (path : String) : IO (Option Node) := do
  match ← (IO.FS.Handle.mk path .read).toBaseIO with
  | .error _ => return none
  | .ok handle =>
    match ← handle.readBinToEnd.toBaseIO with
    | .ok contents => return some (.file contents.data)
    | .error _ => return some .directory

/-- Adds what is found under a path on disk to a store. -/
def addFromDisk (store : FileStore) (path : String) : IO FileStore := do
  match ← look path with
  | some (.file contents) => return store.addFile path contents
  | some .directory => return store.addDirectory path
  | none => return store

/-- The paths a request reads from, and the directory it writes to. -/
def pathsOf : Except UsageError Request → List String
  | .ok (.encode options _) =>
    let second := options.resolutionChange.bind ResolutionChange.input
    [options.input] ++ second.toList ++ [FileStore.join options.outputDir "."]
  | _ => []

/-- Runs the program on the files on disk. -/
def runOnDisk (arguments : List String) : IO UInt32 := do
  let before ← (pathsOf (Request.ofArguments arguments)).foldlM addFromDisk FileStore.empty
  let setting ← IO.getEnv "HW_JPEG_REPORT_METRICS"
  let run := runProgram arguments before (CpuEncoder.new (CpuEncoder.reportsFor setting) [])
  for (location, contents) in run.store.newFiles before do
    IO.FS.writeBinFile ("/".intercalate location) ⟨contents⟩
  for line in run.logLines do
    IO.eprintln line
  IO.print run.output
  if let some text := run.ending.errorText? then
    IO.eprintln text
  return UInt32.ofNat run.ending.exitCode

end Nv12Jpeg.CommandLine

/-- Runs the program with the arguments of its command line. -/
def main (arguments : List String) : IO UInt32 :=
  Nv12Jpeg.CommandLine.runOnDisk arguments
