import CompileDriver.CommandLine.Execute
import CompileDriver.Host.Start

/-!
# The program

Reads the arguments and the source that they name, lets the library carry out
the run in a process of its own with that source, and writes what the run wrote.
-/

namespace CompileDriver

/-- The content of a file, or nothing when it cannot be read. -/
def readSource (path : String) : IO (Option Bytes) := do
  try
    let content ← IO.FS.readBinFile path
    return some content.toList
  catch _ => return none

/-- A fresh process in which the files with the given paths exist. -/
def hostWith (sources : List (Path × Bytes)) : Host :=
  let host := Host.start (Place.ofText "/work") (Place.ofText "/tmp") (Place.ofText "/usr/local/bin")
  let files := sources.foldl
    (fun (files : FileTree) (path, content) =>
      match files.write host.directory path content with
      | .ok files => files
      | .error _ => files)
    host.files
  { host with files }

end CompileDriver

open CompileDriver in
/-- Run the command line. -/
def main (arguments : List String) : IO UInt32 := do
  let sources ← arguments.filterMapM fun argument => do
    return (← readSource argument).map fun content => (Bytes.ofText argument, content)
  let (code, host) :=
    (CommandLine.execute Program.standard (arguments.map Bytes.ofText)).run (hostWith sources)
  (← IO.getStdout).write ⟨host.received.stdout.toArray⟩
  (← IO.getStderr).write ⟨host.received.stderr.toArray⟩
  return code.toUInt32
