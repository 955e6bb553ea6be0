import CompileDriver.Guard.Capture

/-!
# Results of requests

A request to run or to build a program ends with a record: a status, the message
of a failure, the captured output of the program and the path of the executable
that was written.
-/

namespace CompileDriver

/-- The outcome of a request. -/
structure BuildResult where
  /-- Zero exactly for a success. -/
  status : Nat := 0
  error : Option String := none
  stdout : String := ""
  stderr : String := ""
  /-- The executable that was written. -/
  outputPath : Option Path := none
  deriving Repr, DecidableEq

namespace BuildResult

/-- A program that ran and produced output. -/
def ran (output : CapturedOutput) : BuildResult :=
  { stdout := output.stdout, stderr := output.stderr }

/-- An executable that was written. -/
def built (path : Path) : BuildResult :=
  { outputPath := some path }

/-- A request that failed. -/
def failure (message : String) : BuildResult :=
  { status := 1, error := some message }

/-- A result with the output that was captured. -/
def withOutput (result : BuildResult) (output : CapturedOutput) : BuildResult :=
  { result with stdout := output.stdout, stderr := output.stderr }

/-- Whether the request succeeded. -/
def isSuccess (result : BuildResult) : Bool :=
  result.status = 0

/-- The message of a failure, empty for a success. -/
def errorMessage (result : BuildResult) : String :=
  result.error.getD ""

end BuildResult

end CompileDriver
