import CompileDriver.Codon.BuildArguments
import CompileDriver.Host.Spawn
import CompileDriver.Toolchain.Basic

/-!
# Sessions of the Codon compiler

A toolchain that runs the `codon` compiler as a program.  Compiling writes an
artifact into a scratch directory that belongs to the session; running executes
the artifact with the standard streams of the process, and writing an executable
copies it.  Closing the session removes the scratch directory.
-/

namespace CompileDriver.Codon

/-- The state of a session. -/
structure Session where
  /-- The compiler binary. -/
  binary : Path
  settings : Settings
  /-- The loaded plugins, in order. -/
  plugins : List String := []
  /-- The source that was parsed last. -/
  input : Option Path := none
  /-- What the last successful compilation wrote. -/
  artifact : Option Path := none
  /-- The scratch directory, once a compilation needed it. -/
  scratch : Option Place := none
  deriving Repr, DecidableEq

namespace Session

/-- The end of a call that fails with a message. -/
def fail (kind : ToolchainError.Kind) (message : String) : CallEnd :=
  .failed { kind, rendered := message }

/-- The end of a call that the operating system failed. -/
def failSystem (error : OsError) : CallEnd :=
  .failed (.ofOsError error)

/-- Load a plugin.  One that looks like a path has to exist. -/
def loadPlugin (session : Session) (plugin : String) : Action (CallEnd × Session) := do
  let host ← get
  if (Bytes.ofText plugin).contains Bytes.slash && !host.files.exists? host.directory (Bytes.ofText plugin) then
    return (fail .plugin s!"plugin `{plugin}` not found", session)
  else return (.succeeded, { session with plugins := session.plugins ++ [plugin] })

/-- Take a regular file as the source. -/
def parseFile (session : Session) (input : Path) : Action (CallEnd × Session) := do
  let host ← get
  if host.files.isFile host.directory input then
    return (.succeeded, { session with input := some input })
  else return (fail .parser s!"couldn't read `{input.display}`", session)

/-- How the names of scratch directories begin. -/
def scratchPrefix : String := "syqure-"

/-- The place of the scratch directory with a number. -/
def scratchPlace (temporary : Place) (number : Nat) : Place :=
  temporary ++ [Bytes.ofText (scratchPrefix ++ Decimal.zeroPadded 6 number)]

/-- The lowest number from `number` on whose place is not taken.  Among more
numbers than there are entries one is free. -/
def freeScratch (files : FileTree) (temporary : Place) (number : Nat) : Nat :=
  let candidates := (List.range (files.entries.length + 1)).map (number + ·)
  (candidates.find? fun candidate =>
    (files.get? (scratchPlace temporary candidate)).isNone).getD number

/-- Make a new scratch directory. -/
def makeScratch : Action (Except OsError Place) := do
  let host ← get
  let number := freeScratch host.files host.temporary host.scratchesMade
  let place := scratchPlace host.temporary number
  if host.files.hasDirectory host.temporary then
    set { host with
          files := host.files.insert place Node.openDirectory
          scratchesMade := number + 1 }
    return .ok place
  else
    let error :=
      match host.files.makeDirectory host.directory place.path with
      | .error error => error
      | .ok _ => .notFound
    return .error (.text s!"{error.message} at path \"{(Place.path place).display}\"")

/-- The scratch directory of a session, which is made when there is none
yet. -/
def needScratch (session : Session) : Action (Except OsError Place) :=
  match session.scratch with
  | some place => return .ok place
  | none => makeScratch

/-- Where the artifact of a source goes. -/
def artifactPath (scratch : Place) (input : Path) : Path :=
  Path.join scratch.path ((Path.fileStem input).getD (Bytes.ofText "program"))

/-- The environment that the compiler is started in: the inherited one, with
the directories that the settings name. -/
def compilerEnvironment (environment : Environment) (settings : Settings) : Environment :=
  { codonPath := settings.stdlibPath.or environment.codonPath
    pluginPath := settings.pluginPath.or environment.pluginPath }

/-- An invocation of the compiler. -/
def compilerInvocation (session : Session) (host : Host) (arguments : List String) : Invocation :=
  { program := session.binary
    name := session.binary
    arguments := arguments.map Bytes.ofText
    environment := host.bindings (compilerEnvironment host.environment session.settings)
    directory := host.directory }

/-- The error of a compiler that failed: its diagnostics, or its status when it
said nothing. -/
def compilerError (diagnostics : Bytes) (status : ExitStatus) : CallEnd :=
  let text := Utf8.lossy diagnostics
  if Text.isAllBlank text then fail .other s!"codon exited with {status.text}"
  else fail .parser (Text.trimEnd text)

/-- Compile the parsed source.  The diagnostics of a successful compiler go to
the standard error of the process. -/
def compile (launcher : Launcher) (session : Session) : Action (CallEnd × Session) := do
  match session.input with
  | none => return (fail .other "no input was parsed", session)
  | some input =>
      match ← session.needScratch with
      | .error error => return (failSystem error, session)
      | .ok scratch =>
          let session := { session with scratch := some scratch }
          let artifact := artifactPath scratch input
          let arguments := buildArguments session.settings session.plugins input artifact
          match ← Spawn.collecting launcher (session.compilerInvocation (← get) arguments) with
          | .error error => return (failSystem error, session)
          | .ok { output, status } =>
              if status.isSuccess then
                if output.stderr ≠ [] then Stream.stderr.write output.stderr
                return (.succeeded, { session with artifact := some artifact })
              else return (compilerError output.stderr status, session)

/-- The end of a call that needs an artifact and has none. -/
def notCompiled : CallEnd :=
  fail .other "the program hasn't been compiled"

/-- The invocation of an artifact: the first argument is the name that it is
told. -/
def programInvocation (host : Host) (artifact : Path) (arguments : List String) : Invocation :=
  { program := artifact
    name := (arguments.head?.map Bytes.ofText).getD artifact
    arguments := (arguments.drop 1).map Bytes.ofText
    environment := host.bindings host.environment
    directory := host.directory }

/-- Run the artifact. -/
def run (launcher : Launcher) (session : Session) (arguments : List String) :
    Action (CallEnd × Session) := do
  match session.artifact with
  | none => return (notCompiled, session)
  | some artifact =>
      match ← Spawn.inheriting launcher (programInvocation (← get) artifact arguments) with
      | .error error => return (failSystem error, session)
      | .ok status =>
          if status.isSuccess then return (.succeeded, session)
          else return (fail .runtime s!"program exited with {status.text}", session)

/-- Take over the tree that a copy has left. -/
def takeCopy : Except OsError FileTree → Action (Except OsError Unit)
  | .error error => return .error error
  | .ok files => do
      modify fun host => { host with files }
      return .ok ()

/-- Copy a file, which takes a descriptor for each of the two files. -/
def copyFile (source target : Path) : Action (Except OsError Unit) := do
  modify fun host => host.note (.copied source target)
  let host ← get
  match host.files.entry host.directory source with
  | .error error => return .error error
  | .ok (place, node) =>
      match ← SystemCall.openAs (.entry · place) with
      | .error error => return .error error
      | .ok input =>
          match ← (if node.isFile then SystemCall.openAs (.entry · place) else pure (.ok input)) with
          | .error error =>
              SystemCall.close input
              return .error error
          | .ok output =>
              let copied := (← get).files.copy host.directory source target
              if output ≠ input then SystemCall.close output
              SystemCall.close input
              takeCopy copied

/-- Copy the artifact to a path. -/
def writeExecutable (session : Session) (output : Path) (options : LinkOptions) :
    Action (CallEnd × Session) := do
  if options.sharedLib ≠ session.settings.sharedLib then
    return (fail .other "the program was compiled for a different link mode", session)
  else match session.artifact with
    | none => return (notCompiled, session)
    | some artifact =>
        match ← copyFile artifact output with
        | .error error => return (failSystem error, session)
        | .ok () => return (.succeeded, session)

/-- Remove the scratch directory, which takes a descriptor. -/
def close (session : Session) : Action Unit := do
  match session.scratch with
  | none => return ()
  | some place =>
      match ← SystemCall.openAs (.entry · place) with
      | .error _ => return ()
      | .ok number =>
          modify fun host => { host with files := host.files.eraseAll place }
          SystemCall.close number

end Session

/-- The version that the compiler reports. -/
def version (launcher : Launcher) (binary : Path) : Action String := do
  let host ← get
  let invocation : Invocation :=
    { program := binary
      name := binary
      arguments := [Bytes.ofText "--version"]
      environment := host.bindings host.environment
      directory := host.directory }
  match ← Spawn.collecting launcher invocation with
  | .ok { output, status } =>
      if status.isSuccess then return Text.trim (Utf8.lossy output.stdout)
      else
        Log.debug s!"`{binary.display} --version` exited with {status.text}"
        return "unknown"
  | .error error =>
      Log.debug s!"couldn't run `{binary.display}`: {error.message}"
      return "unknown"

/-- The toolchain of a compiler binary. -/
def toolchain (launcher : Launcher) (binary : Path) : Toolchain Session where
  version := version launcher binary
  createSession settings := return .ok { binary, settings }
  loadPlugin := Session.loadPlugin
  parseFile := Session.parseFile
  compile := Session.compile launcher
  run session arguments _ := Session.run launcher session arguments
  writeExecutable := Session.writeExecutable
  close := Session.close

end CompileDriver.Codon
