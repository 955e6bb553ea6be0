import CompileDriver.BuildResult
import CompileDriver.Guard.Suppressor
import CompileDriver.Timings
import CompileDriver.Toolchain.Basic

/-!
# The driver

A driver walks a session through a request: it creates the session, loads the
plugins, parses and compiles, and then runs the program or writes it out.  The
first failure ends the request.

While the program is prepared the diagnostics can be hidden, and while it runs
its output is captured.  Nothing is logged as long as a stream is redirected;
the times of the phases are reported after the streams are back in place.  A
panic of the toolchain unwinds the request: the guards and the session are given
up, the last acquired first.
-/

namespace CompileDriver

/-- A driver of requests over a toolchain. -/
structure Driver (σ : Type) where
  toolchain : Toolchain σ
  /-- Whether the output of programs is captured. -/
  capturing : Bool := true
  /-- Whether captures poll their pipes. -/
  nonblocking : Bool := false
  /-- How long each phase of the last request took, when that is logged. -/
  timings : Timings := {}

namespace Driver

variable {σ : Type}

/-- Note the return from a call, unless it panicked. -/
def returned (call : SessionCall) : CallEnd → Action Unit
  | .succeeded => modify fun host => host.note (.sessionReturn call none)
  | .failed error => modify fun host => host.note (.sessionReturn call (some error))
  | .panicked _ => return ()

/-- Note a call on a session before it is made and when it has returned. -/
def calling (call : SessionCall) (action : Action (CallEnd × σ)) : Action (CallEnd × σ) := do
  modify fun host => host.note (.sessionCall call)
  let (ended, session) ← action
  returned call ended
  return (ended, session)

/-- Create the session of a request, which is noted like a call on it. -/
def create (toolchain : Toolchain σ) (settings : Settings) : Action (Except Panic σ) := do
  let call := SessionCall.create settings.optimisation
  modify fun host => host.note (.sessionCall call)
  match ← toolchain.createSession settings with
  | .error panic => return .error panic
  | .ok session =>
      returned call .succeeded
      return .ok session

/-- Timings with a further phase.  The phases of a request are recorded once
each, so that nothing overflows. -/
def recorded (timings : Timings) (name : String) (time : Duration) : Timings :=
  match timings.record name time with
  | .ok timings => timings
  | .error _ => timings

/-- Perform a phase and, when that is logged, record how long it took.  A phase
that panics is not recorded. -/
def timed (name : String) (timings : Timings) (phase : Action (CallEnd × σ)) :
    Action (CallEnd × σ × Timings) := do
  if ← Log.isEnabled .debug then
    let (ended, session) ← phase
    match ended with
    | .panicked _ => return (ended, session, timings)
    | _ => return (ended, session, recorded timings name (← SystemCall.elapsed))
  else
    let (ended, session) ← phase
    return (ended, session, timings)

/-- Load plugins in order, up to the first one that does not load. -/
def loadPlugins (toolchain : Toolchain σ) (session : σ) : List String → Action (CallEnd × σ)
  | [] => return (.succeeded, session)
  | name :: rest => do
      match ← calling (.plugin name) (toolchain.loadPlugin session name) with
      | (.succeeded, session) => loadPlugins toolchain session rest
      | stopped => return stopped

/-- Load the plugins, parse the input and compile. -/
def prepare (toolchain : Toolchain σ) (settings : Settings) (session : σ) :
    Action (CallEnd × σ × Timings) := do
  match ← timed "plugins" {} (loadPlugins toolchain session settings.plugins) with
  | (.succeeded, session, timings) =>
      match ← timed "parse" timings
          (calling (.parse settings.input) (toolchain.parseFile session settings.input)) with
      | (.succeeded, session, timings) =>
          timed "compile" timings (calling .compile (toolchain.compile session))
      | stopped => return stopped
  | stopped => return stopped

/-- Log the time of every recorded phase. -/
def reportTimings (timings : Timings) : Action Unit := do
  if ← Log.isEnabled .debug then
    timings.phases.forM fun (name, time) =>
      Log.debug (Text.padRight 10 name ++ " " ++ time.text)

/-- The end of a request by a panic, after which `cleanup` gives up what the
request holds unless the process exits. -/
def unwind (panic : Panic) (cleanup : Action Unit) : Action (Ending BuildResult) := do
  match ← panic.raise with
  | some code => return .exited code
  | none =>
      cleanup
      return .unwound panic

/-- The arguments that a program is run with: its source, then those of the
request. -/
def programArguments (settings : Settings) (arguments : List String) : List String :=
  settings.input.display :: arguments

/-- Start capturing, or go on without a capture when that fails. -/
def startCapture (driver : Driver σ) : Action (Bool × Capture) := do
  let capture : Capture := { nonblocking := driver.nonblocking }
  if driver.capturing then
    match ← capture.start with
    | (.ok (), capture) => return (true, capture)
    | (.error error, capture) =>
        Log.debug s!"running without capturing output: {error.message}"
        return (false, capture)
  else return (false, capture)

/-- Run the prepared program under a capture. -/
def runPrepared (driver : Driver σ) (settings : Settings) (arguments : List String) (session : σ)
    (timings : Timings) : Action (Ending BuildResult × Timings) := do
  let arguments := programArguments settings arguments
  let (capturing, capture) ← driver.startCapture
  let (ended, session, timings) ← timed "run" timings
    (calling (.run arguments settings.libs)
      (driver.toolchain.run session arguments settings.libs))
  match ended with
  | .panicked panic =>
      let ending ← unwind panic do
        discard capture.stop
        driver.toolchain.close session
      return (ending, timings)
  | ended =>
      let output ← if capturing then capture.intoOutput else pure {}
      reportTimings timings
      driver.toolchain.close session
      match ended with
      | .failed error => return (.returned ((BuildResult.failure error.message).withOutput output), timings)
      | _ => return (.returned (.ran output), timings)

/-- Compile the input of the settings and run it. -/
def run (driver : Driver σ) (settings : Settings) (arguments : List String) :
    Action (Ending BuildResult × Driver σ) := do
  let suppressor ← Suppressor.engage .stderr settings.quiet
  match ← create driver.toolchain settings with
  | .error panic =>
      let ending ← unwind panic (discard suppressor.restore)
      return (ending, { driver with timings := {} })
  | .ok session =>
      let (ended, session, timings) ← prepare driver.toolchain settings session
      match ended with
      | .panicked panic =>
          let ending ← unwind panic do
            driver.toolchain.close session
            discard suppressor.restore
          return (ending, { driver with timings })
      | .failed error =>
          discard suppressor.restore
          reportTimings timings
          driver.toolchain.close session
          return (.returned (.failure error.message), { driver with timings })
      | .succeeded =>
          discard suppressor.restore
          let (ending, timings) ← driver.runPrepared settings arguments session timings
          return (ending, { driver with timings })

/-- Prepare a program and write it out. -/
def link (driver : Driver σ) (settings : Settings) (output : Path) (session : σ) :
    Action (CallEnd × σ × Timings) := do
  match ← prepare driver.toolchain settings session with
  | (.succeeded, session, timings) =>
      timed "link" timings
        (calling (.link output settings.linkOptions)
          (driver.toolchain.writeExecutable session output settings.linkOptions))
  | stopped => return stopped

/-- Compile the input of the settings and write it to `output`. -/
def build (driver : Driver σ) (settings : Settings) (output : Path) :
    Action (Ending BuildResult × Driver σ) := do
  let suppressor ← Suppressor.engage .stderr settings.quiet
  match ← create driver.toolchain settings with
  | .error panic =>
      let ending ← unwind panic (discard suppressor.restore)
      return (ending, { driver with timings := {} })
  | .ok session =>
      let (ended, session, timings) ← driver.link settings output session
      match ended with
      | .panicked panic =>
          let ending ← unwind panic do
            driver.toolchain.close session
            discard suppressor.restore
          return (ending, { driver with timings })
      | ended =>
          discard suppressor.restore
          reportTimings timings
          driver.toolchain.close session
          match ended with
          | .failed error => return (.returned (.failure error.message), { driver with timings })
          | _ => return (.returned (.built output), { driver with timings })

/-- The version of the toolchain. -/
def version (driver : Driver σ) : Action String :=
  driver.toolchain.version

end Driver

end CompileDriver
