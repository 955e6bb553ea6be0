import CompileDriver.Analysis.Report
import CompileDriver.CommandLine.Arguments
import CompileDriver.Frontend.Basic

/-!
# Executing a command line

What a whole run of the program does: it analyses the source, or compiles it and
runs or writes out the program.  The captured output of the program is written
to where it would have gone, also when the program failed.
-/

namespace CompileDriver.CommandLine

/-- What the program says about its version. -/
def versionPage : String := "syqure 0.1.0\n"

/-- What the program says about its arguments. -/
def helpPage (environment : Environment) : String :=
  let configured := (environment.codonPath.map Utf8.lossy).getD ""
  "Compile and run Codon/Sequre programs\n\n" ++
  "Usage: syqure [OPTIONS] <SOURCE> [-- <PROGRAM_ARGS>...]\n\n" ++
  "Arguments:\n" ++
  "  <SOURCE>           Path to the .codon source file\n" ++
  "  [PROGRAM_ARGS]...  Program arguments passed to the compiled Codon binary\n\n" ++
  "Options:\n" ++
  "      --release                      Compile in release mode\n" ++
  "      --build-only                   Only build; do not run the resulting binary\n" ++
  "      --codon-path <CODON_PATH>      Path to Codon installation (defaults to CODON_PATH or " ++
  "./codon/install) [env: CODON_PATH=" ++ configured ++ "]\n" ++
  "      --plugin <PLUGIN>              The plugin to load, by name or path [default: sequre]\n" ++
  "      --disable-opt <PASS>           Disable an optimisation pass, in addition to the " ++
  "default ones\n" ++
  "      --lib <LIB>                    Additional library to link\n" ++
  "      --linker-flags <LINKER_FLAGS>  Extra flags for the linker [default: ]\n" ++
  "  -o, --output <OUTPUT>              Where to write the executable when only building\n" ++
  "      --verbose                      Show compiler warnings\n" ++
  "      --debug                        Log what the driver does\n" ++
  "      --analyze                      Analyse the source statically instead of compiling it\n" ++
  "      --json                         Print the analysis as JSON\n" ++
  "      --version-info                 Print the version of the Codon compiler before compiling\n" ++
  "  -h, --help                         Print help\n" ++
  "  -V, --version                      Print version\n"

/-- What is written for arguments that describe no run. -/
def refuse (error : UsageError) : Action Unit := do
  match error with
  | .helpPage => (Output.standard .stdout).print (helpPage (← get).environment)
  | .versionPage => (Output.standard .stdout).print versionPage
  | _ => (Output.standard .stderr).print "error: the arguments cannot be understood; try '--help'\n"

/-- Analyse the source: the exit code. -/
def analyze (arguments : Arguments) : Action Nat := do
  let host ← get
  match Analysis.ofFile host.files host.directory arguments.source with
  | .error error =>
      (Output.standard .stderr).print (errorLine error.message)
      return 1
  | .ok analysis =>
      let text := if arguments.json then analysis.json ++ "\n" else analysis.report
      (Output.standard .stdout).print text
      return 0

/-- Write the output of a program out to where it would have gone. -/
def replay (stdout stderr : String) : Action Unit := do
  (Output.standard .stdout).print stdout
  (Output.standard .stderr).print stderr

/-- Show the outcome of a request: the exit code. -/
def present (outcome : Except RequestError RunOutput) : Action Nat := do
  match outcome with
  | .ok output =>
      replay output.stdout output.stderr
      match output.outputPath with
      | some path => (Output.standard .stdout).print s!"Built executable at {path.display}\n"
      | none => pure ()
      return 0
  | .error error =>
      match error.captured with
      | some (stdout, stderr) => replay stdout stderr
      | none => pure ()
      (Output.standard .stderr).print error.report
      return 1

/-- Present the outcome of a request, unless a panic has ended it. -/
def conclude : Ending (Except RequestError RunOutput) → Action Nat
  | .returned outcome => present outcome
  | .unwound _ => return CrashReport.exitCode
  | .exited code => return code

/-- Compile the source and run it or write it out: the exit code. -/
def compile (launcher : Launcher) (arguments : Arguments) : Action Nat := do
  let host ← get
  let frontend := Frontend.codon launcher host (arguments.options host)
  if arguments.versionInfo then
    let version ← frontend.driver.version
    (Output.standard .stdout).print s!"codon {version}\n"
  Log.debug s!"using the installation at `{frontend.install.root.display}`"
  let (ending, _) ← frontend.compileAndMaybeRun arguments.source
  conclude ending

/-- Install a logger that writes to the standard streams. -/
def installLogger (debug : Bool) : Action Unit := do
  let (installed, _) ← ({} : Logger).install (.standard .stdout) (.standard .stderr)
    (some (if debug then .debug else .warn))
  if installed then return ()
  else
    (Output.standard .stderr).print
      s!"couldn't initialise the logger: {Logger.alreadyInstalled}\n"

/-- A whole run with the arguments behind the name of the program: the exit
code. -/
def execute (launcher : Launcher) (arguments : List Bytes) : Action Nat := do
  modify fun host => { host with panicHook := .crashReport }
  match parse (← get).environment arguments with
  | .error error =>
      refuse error
      Stream.stdout.flush
      return error.exitCode
  | .ok arguments =>
      installLogger arguments.debug
      let code ← if arguments.analyze then analyze arguments else compile launcher arguments
      Stream.stdout.flush
      return code

end CompileDriver.CommandLine
