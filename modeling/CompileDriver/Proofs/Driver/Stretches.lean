import CompileDriver.Proofs.Driver.Tidy

/-!
# The stretches of a request

A request runs a program or builds it.  A request to run a program prepares it and then
runs it under a capture, which in turn is a start of the capture, one call, and a
conclusion.  The definitions of this module name these stretches, so that statements can
speak about the states between them; the equations say that the request is made of them.

What a request does outside its calls is silent, and so are the calls of a toolchain
that is discreet.
-/

namespace CompileDriver

variable {σ : Type}

/-- The toolchain notes nothing about sessions on its own account. -/
structure Toolchain.Discreet (toolchain : Toolchain σ) : Prop where
  create : ∀ settings, Silent (toolchain.createSession settings) fun _ => True
  call : ∀ session call, Silent (toolchain.perform session call) fun _ => True
  close : ∀ session, Silent (toolchain.close session) fun _ => True

/-- The toolchain that follows a script is discreet. -/
theorem ToolchainScript.discreet (launcher : Launcher) (script : ToolchainScript) :
    (script.toolchain launcher).Discreet where
  create settings :=
    (governs_create launcher silence_letsRun script settings).weaken fun _ _ => trivial
  call _ call := (governs_call launcher silence_letsRun script call).weaken fun _ _ => trivial
  close _ := .value trivial

namespace Driver

/-! ## Requests -/

/-- A request to a driver. -/
inductive Request
  /-- Compile the input of the settings and run it with arguments. -/
  | run (settings : Settings) (arguments : List String)
  /-- Compile the input of the settings and write it to a path. -/
  | build (settings : Settings) (output : Path)
  deriving Repr, DecidableEq

def Request.settings : Request → Settings
  | .run settings _ => settings
  | .build settings _ => settings

/-- Perform a request. -/
def serve (driver : Driver σ) : Request → Action (Ending BuildResult × Driver σ)
  | .run settings arguments => driver.run settings arguments
  | .build settings output => driver.build settings output

/-! ## Beginning -/

/-- How every request begins: a session is created under the suppressor, and the request goes
on with both.  If that panics, the suppressor is restored. -/
def beginning {ρ : Type} (driver : Driver σ) (settings : Settings)
    (stopped : Ending BuildResult → ρ) (next : Suppressor → σ → Action ρ) : Action ρ := do
  let suppressor ← Suppressor.engage .stderr settings.quiet
  match ← create driver.toolchain settings with
  | .error panic =>
      let ending ← unwind panic (discard suppressor.restore)
      return stopped ending
  | .ok session => next suppressor session

/-! ## Preparing -/

/-- What a request to run a program does before it starts the capture: the session
with the times of its phases, or how the request has ended. -/
def preparing (driver : Driver σ) (settings : Settings) :
    Action (Except (Ending BuildResult × Driver σ) (σ × Timings)) := do
  let suppressor ← Suppressor.engage .stderr settings.quiet
  match ← create driver.toolchain settings with
  | .error panic =>
      let ending ← unwind panic (discard suppressor.restore)
      return .error (ending, { driver with timings := {} })
  | .ok session =>
      let (ended, session, timings) ← prepare driver.toolchain settings session
      match ended with
      | .panicked panic =>
          let ending ← unwind panic do
            driver.toolchain.close session
            discard suppressor.restore
          return .error (ending, { driver with timings })
      | .failed error =>
          discard suppressor.restore
          reportTimings timings
          driver.toolchain.close session
          return .error (.returned (.failure error.message), { driver with timings })
      | .succeeded =>
          discard suppressor.restore
          return .ok (session, timings)

/-- A request prepares the program and runs it. -/
theorem run_eq (driver : Driver σ) (settings : Settings) (arguments : List String) :
    driver.run settings arguments = do
      match ← driver.preparing settings with
      | .error reached => return reached
      | .ok (session, timings) =>
          let (ending, timings) ← driver.runPrepared settings arguments session timings
          return (ending, { driver with timings }) := by
  funext host
  simp only [run, preparing, Action.bind_apply]
  cases (create driver.toolchain settings (Suppressor.engage .stderr settings.quiet host).2).1 with
  | error panic => rfl
  | ok session =>
      simp only [Action.bind_apply]
      rcases prepare driver.toolchain settings session _ with
        ⟨⟨_ | error | panic, session, timings⟩, later⟩
      all_goals rfl

/-! ## Running -/

/-- What a request does after the call that has run the program. -/
def concluding (driver : Driver σ) (capturing : Bool) (capture : Capture) :
    CallEnd × σ × Timings → Action (Ending BuildResult × Timings)
  | (.panicked panic, session, timings) => do
      let ending ← unwind panic do
        discard capture.stop
        driver.toolchain.close session
      return (ending, timings)
  | (ended, session, timings) => do
      let output ← if capturing then capture.intoOutput else pure {}
      reportTimings timings
      driver.toolchain.close session
      match ended with
      | .failed error =>
          return (.returned ((BuildResult.failure error.message).withOutput output), timings)
      | _ => return (.returned (.ran output), timings)

/-- The call that runs the program. -/
def runCall (settings : Settings) (arguments : List String) : SessionCall :=
  .run (programArguments settings arguments) settings.libs

/-- Running is starting the capture, the call, and the conclusion. -/
theorem runPrepared_eq (driver : Driver σ) (settings : Settings) (arguments : List String)
    (session : σ) (timings : Timings) :
    driver.runPrepared settings arguments session timings = (do
      let (capturing, capture) ← driver.startCapture
      let reached ← timed "run" timings
        (calling (runCall settings arguments)
          (driver.toolchain.perform session (runCall settings arguments)))
      driver.concluding capturing capture reached) := by
  funext host
  simp only [runPrepared, runCall, Toolchain.perform, Action.bind_apply]
  rcases timed "run" timings _ (driver.startCapture host).2 with
    ⟨⟨_ | error | panic, session, timings⟩, later⟩
  all_goals rfl

/-! ## What is between the calls -/

theorem elapsed_apply (host : Host) :
    ∃ time measurements, SystemCall.elapsed host = (time, { host with measurements }) := by
  simp only [SystemCall.elapsed, Action.bind_apply, Action.get_apply]
  cases host.measurements with
  | nil => exact ⟨_, host.measurements, rfl⟩
  | cons time rest => exact ⟨_, rest, rfl⟩

/-- A phase that is timed does what the phase does; what comes out besides are the
times, and what is left of the clock. -/
theorem timed_apply (name : String) (timings : Timings) (phase : Action (CallEnd × σ))
    (host : Host) :
    ∃ later measurements, timed name timings phase host =
      (((phase host).1.1, (phase host).1.2, later), { (phase host).2 with measurements }) := by
  have looked : (Log.isEnabled .debug host).2 = host := rfl
  rw [timed, Action.bind_apply, looked]
  cases (Log.isEnabled .debug host).1 with
  | false => exact ⟨timings, (phase host).2.measurements, rfl⟩
  | true =>
      rw [if_pos rfl, Action.bind_apply]
      rcases phase host with ⟨⟨ended, session⟩, reached⟩
      obtain ⟨time, measurements, elapsed⟩ := elapsed_apply reached
      cases ended with
      | panicked panic => exact ⟨timings, reached.measurements, rfl⟩
      | succeeded =>
          simp only [Action.bind_apply, elapsed, Action.pure_apply]
          exact ⟨_, measurements, rfl⟩
      | failed error =>
          simp only [Action.bind_apply, elapsed, Action.pure_apply]
          exact ⟨_, measurements, rfl⟩

end Driver

/-! ## Silence between the calls -/

theorem silence_letsServe : silence.LetsServe where
  anywhere _ := trivial
  steps := Host.Steps.quiet
  crash _ := .of_journal rfl

namespace Silent

theorem engage (stream : Stream) (wanted : Bool) :
    Silent (Suppressor.engage stream wanted) fun _ => True :=
  silence_letsServe.engage stream wanted

theorem restoreSuppressor (suppressor : Suppressor) :
    Silent (discard suppressor.restore : Action Unit) fun _ => True :=
  silence_letsServe.restoreSuppressor suppressor

theorem stop (capture : Capture) : Silent (discard capture.stop : Action Unit) fun _ => True :=
  silence_letsServe.stop capture

theorem intoOutput (capture : Capture) : Silent capture.intoOutput fun _ => True :=
  silence_letsServe.intoOutput capture

theorem startCapture (driver : Driver σ) : Silent driver.startCapture fun _ => True :=
  silence_letsServe.startCapture driver

theorem reportTimings (timings : Timings) : Silent (Driver.reportTimings timings) fun _ => True :=
  silence_letsServe.reportTimings timings

theorem unwind (panic : Panic) {cleanup : Action Unit} (silent : Silent cleanup fun _ => True) :
    Silent (Driver.unwind panic cleanup) fun _ => True :=
  silence_letsServe.unwind panic silent

/-- Nothing is called while a request gives up its suppressor and its session. -/
theorem closing {driver : Driver σ} (discreet : driver.toolchain.Discreet)
    (suppressor : Suppressor) (session : σ) (timings : Timings) {ρ : Type} (yields : ρ → Prop)
    {last : ρ} (known : yields last) :
    Silent
      (do discard suppressor.restore
          Driver.reportTimings timings
          driver.toolchain.close session
          return last) yields :=
  (restoreSuppressor suppressor).bind fun _ _ => (reportTimings timings).bind fun _ _ =>
    (discreet.close session).bind fun _ _ => .value known

/-- Nothing is called either when a request unwinds before its program was run. -/
theorem unwinding {driver : Driver σ} (discreet : driver.toolchain.Discreet)
    (suppressor : Suppressor) (session : σ) (panic : Panic) :
    Silent
      (Driver.unwind panic do
        driver.toolchain.close session
        discard suppressor.restore) fun _ => True :=
  unwind panic ((discreet.close session).bind fun _ _ => restoreSuppressor suppressor)

/-- Nothing is called after the program was run. -/
theorem concluding {driver : Driver σ} (discreet : driver.toolchain.Discreet) (capturing : Bool)
    (capture : Capture) (reached : CallEnd × σ × Timings) :
    Silent (driver.concluding capturing capture reached) fun _ => True := by
  obtain ⟨ended, session, timings⟩ := reached
  have closed (last : Ending BuildResult × Timings) :
      Silent
        (do Driver.reportTimings timings
            driver.toolchain.close session
            return last) fun _ => True :=
    (reportTimings timings).bind fun _ _ => (discreet.close session).bind fun _ _ => .value trivial
  have collected (last : CapturedOutput → Ending BuildResult × Timings) :
      Silent
        (do let output ← if capturing then capture.intoOutput else pure {}
            Driver.reportTimings timings
            driver.toolchain.close session
            return last output) fun _ => True := by
    dsimp only
    split
    · exact (intoOutput capture).bind fun output _ => closed (last output)
    · exact closed (last {})
  cases ended with
  | panicked panic =>
      have cleanup := (stop capture).bind fun _ _ => discreet.close session
      exact (unwind panic cleanup).bind fun _ _ => .value trivial
  | succeeded => exact collected fun output => (.returned (.ran output), timings)
  | failed error =>
      exact collected fun output =>
        (.returned ((BuildResult.failure error.message).withOutput output), timings)

end Silent

end CompileDriver
