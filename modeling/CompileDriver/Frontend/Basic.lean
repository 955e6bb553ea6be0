import CompileDriver.Codon.Session
import CompileDriver.Driver
import CompileDriver.FileTree.StaleSockets
import CompileDriver.Frontend.Options
import CompileDriver.Frontend.RequestError
import CompileDriver.Program.Launch

/-!
# The front end

Compiles a source and runs it, or only builds it, as the options say.  A missing
source is noticed before anything is done; then stale sockets are removed from
the current directory, and the driver carries out the request.
-/

namespace CompileDriver

/-- What a successful request produced. -/
structure RunOutput where
  /-- What the program wrote to standard output. -/
  stdout : String := ""
  /-- What the program wrote to standard error. -/
  stderr : String := ""
  /-- The executable that was written, when the program was only built. -/
  outputPath : Option Path := none
  deriving Repr, DecidableEq

/-- A front end over a toolchain. -/
structure Frontend (σ : Type) where
  options : Options
  install : Install
  driver : Driver σ

namespace Frontend

variable {σ : Type}

/-- A front end over a given toolchain. -/
def withToolchain (host : Host) (options : Options) (toolchain : Toolchain σ) : Frontend σ :=
  { options
    install := Install.resolve host options.codonPath
    driver := { toolchain } }

/-- A front end over the compiler of the installation that the options name. -/
def codon (launcher : Launcher) (host : Host) (options : Options) : Frontend Codon.Session :=
  withToolchain host options
    (Codon.toolchain launcher (Install.resolve host options.codonPath).binary)

/-- The settings of a build of `source`. -/
def settings (frontend : Frontend σ) (host : Host) (source : Path) (standalone : Bool) :
    Settings :=
  frontend.options.settings host frontend.install source standalone

/-- Report a file that cannot be removed. -/
def reportRefused (refused : Place × OsError) : Action Unit :=
  Log.debug s!"couldn't remove `{refused.1.path.display}`: {refused.2.message}"

/-- Remove the stale sockets that are found from `path`, and tell how many.
Those that cannot be removed are reported. -/
def sweepFrom (path : Path) : Action Nat := do
  let host ← get
  let sweep := host.files.sweep host.directory path
  set { host with files := sweep.tree }
  sweep.refused.forM reportRefused
  return sweep.removed

/-- Remove stale sockets from the current directory and everything below it. -/
def sweepSockets : Action (Except OsError Unit) := do
  match (← get).currentDirectory with
  | .error error => return .error error
  | .ok directory =>
      let removed ← sweepFrom directory.path
      if 0 < removed then Log.debug s!"removed {removed} stale socket file(s)"
      return .ok ()

/-- What a request to run makes of its result. -/
def ofRun (result : BuildResult) : Except RequestError RunOutput :=
  if result.isSuccess then .ok { stdout := result.stdout, stderr := result.stderr }
  else .error (.runFailed result.errorMessage result.stdout result.stderr)

/-- What a request to build makes of its result. -/
def ofBuild (result : BuildResult) : Except RequestError RunOutput :=
  if result.isSuccess then .ok { outputPath := result.outputPath }
  else .error (.buildFailed result.errorMessage)

/-- Where a build of `source` writes its executable. -/
def outputFor (frontend : Frontend σ) (source : Path) : Path :=
  frontend.options.outputPath.getD (Path.defaultOutput source)

/-- Carry out the request for an existing source. -/
def request (frontend : Frontend σ) (source : Path) :
    Action (Ending (Except RequestError RunOutput) × Frontend σ) := do
  let host ← get
  if frontend.options.runAfterBuild then
    let (ending, driver) ← frontend.driver.run (frontend.settings host source false)
      frontend.options.programArguments
    return (ending.map ofRun, { frontend with driver })
  else
    let (ending, driver) ← frontend.driver.build (frontend.settings host source true)
      (frontend.outputFor source)
    return (ending.map ofBuild, { frontend with driver })

/-- Compile `source` and run it or write it out. -/
def compileAndMaybeRun (frontend : Frontend σ) (source : Path) :
    Action (Ending (Except RequestError RunOutput) × Frontend σ) := do
  let host ← get
  if !host.files.exists? host.directory source then
    return (.returned (.error (.sourceNotFound source)), frontend)
  else if frontend.options.cleanSockets then
    match ← sweepSockets with
    | .error error => return (.returned (.error (.io error)), frontend)
    | .ok () => frontend.request source
  else frontend.request source

end Frontend

end CompileDriver
