import CompileDriver.Highlight
import CompileDriver.OsError
import CompileDriver.Path

/-!
# Errors of the front end

Why a program could not be compiled and run, and how that is reported to the
user.
-/

namespace CompileDriver

/-- Why a request of the front end failed. -/
inductive RequestError
  /-- There is no source file. -/
  | sourceNotFound (source : Path)
  /-- The program could not be compiled or failed while running.  What it wrote
  before is kept. -/
  | runFailed (message stdout stderr : String)
  /-- The program could not be written out. -/
  | buildFailed (message : String)
  /-- Something could not be created. -/
  | resourceCreation (path : Path) (error : OsError)
  /-- Another failure of the operating system. -/
  | io (error : OsError)
  deriving Repr, DecidableEq

namespace RequestError

/-- The text of an error. -/
def message : RequestError → String
  | .sourceNotFound source => "source file not found: " ++ source.display
  | .runFailed message _ _ => "codon run failed: " ++ message
  | .buildFailed message => "codon build failed: " ++ message
  | .resourceCreation path error => s!"couldn't create `{path.display}`, {error.message}"
  | .io error => error.message

/-- The line that reports an error to the user. -/
def report (error : RequestError) : String :=
  errorLine error.message

/-- What the program wrote before it failed. -/
def captured : RequestError → Option (String × String)
  | .runFailed _ stdout stderr => some (stdout, stderr)
  | _ => none

end RequestError

end CompileDriver
