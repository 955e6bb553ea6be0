import CompileDriver.Proofs.Driver.Stretches
import CompileDriver.Proofs.Driver.Walk
import CompileDriver.Proofs.Host.Files

/-!
# Invariants of requests

A toolchain maintains an assertion about its session and the file tree if every permitted
call does.  What a request does between its calls only adds to files that are open, so a
lasting assertion survives it, and whole requests lead from what holds before there is a
session to what holds after it was closed, wherever they fail.
-/

namespace CompileDriver

variable {σ : Type}

/-- The toolchain leads from `start` over `holds`, which tells about the session, to
`finish`, as long as only permitted calls are made. -/
structure Toolchain.Maintains (toolchain : Toolchain σ) (permits : SessionCall → Prop)
    (start : Host → Prop) (holds : σ → Host → Prop) (finish : Host → Prop) : Prop where
  lastingStart : Host.Lasting start
  lasting : ∀ session, Host.Lasting (holds session)
  lastingFinish : Host.Lasting finish
  create : ∀ settings, Ensures start (toolchain.createSession settings) fun outcome host =>
    match outcome with
    | .error _ => finish host
    | .ok session => holds session host
  call : ∀ session call, permits call →
    Ensures (holds session) (toolchain.perform session call) fun reached => holds reached.2
  close : ∀ session, Ensures (holds session) (toolchain.close session) fun _ => finish
  /-- The process may exit before the session is closed. -/
  exit : ∀ session host, holds session host → finish host

namespace Ensures

variable {α : Type} {holds finish : Host → Prop}

/-- What a request does between its calls. -/
theorem serve (lasting : Host.Lasting holds) {action : Action α} {yields : α → Prop}
    (appends : appending.Governs action yields) : Ensures holds action fun _ => holds :=
  (of_appending lasting appends).weaken fun _ _ reached => reached.2

/-- A panic leads to the cleanup, or the process exits. -/
theorem unwindOrExit (lasting : Host.Lasting holds) (exit : ∀ host, holds host → finish host)
    (panic : Panic) {cleanup : Action Unit} (ensures : Ensures holds cleanup fun _ => finish) :
    Ensures holds (Driver.unwind panic cleanup) fun _ => finish := by
  refine (serve lasting (appending_letsServe.raise panic)).bind fun ended => ?_
  cases ended with
  | none => exact ensures.bind fun _ => .value fun _ finished => finished
  | some code => exact .value exit

end Ensures

namespace Driver

variable {driver : Driver σ} {permits : SessionCall → Prop} {start : Host → Prop}
  {holds : σ → Host → Prop} {finish : Host → Prop}
  (maintains : driver.toolchain.Maintains permits start holds finish)

include maintains

/-! ## Calls -/

theorem maintains_calling (session : σ) {call : SessionCall} (permitted : permits call) :
    Ensures (holds session) (calling call (driver.toolchain.perform session call))
      fun reached => holds reached.2 := by
  refine (Ensures.note (maintains.lasting session) _).bind fun _ => ?_
  refine (maintains.call session call permitted).bind fun reached => ?_
  have returns : Ensures (holds reached.2) (returned call reached.1) fun _ => holds reached.2 := by
    cases reached.1 with
    | succeeded => exact .note (maintains.lasting reached.2) _
    | failed error => exact .note (maintains.lasting reached.2) _
    | panicked panic => exact .value fun _ holding => holding
  exact returns.bind fun _ => .value fun _ holding => holding

theorem maintains_course : Course driver.toolchain permits holds where
  calling session _ permitted := maintains_calling maintains session permitted
  elapsed session := .of_steps (maintains.lasting session) Spares.elapsed

theorem maintains_create (settings : Settings) :
    Ensures start (create driver.toolchain settings) fun outcome host =>
      match outcome with
      | .error _ => finish host
      | .ok session => holds session host := by
  refine (Ensures.note maintains.lastingStart _).bind fun _ => ?_
  refine (maintains.create settings).bind fun outcome => ?_
  cases outcome with
  | error panic => exact .value fun _ finished => finished
  | ok session =>
      refine (Ensures.note (maintains.lasting session) _).bind fun _ => ?_
      exact .value fun _ holding => holding

/-! ## Ends -/

/-- The request reports its times and closes the session. -/
theorem maintains_closing {ρ : Type} (session : σ) (timings : Timings) (last : ρ) :
    Ensures (holds session)
      (do reportTimings timings
          driver.toolchain.close session
          return last) fun _ => finish := by
  refine (Ensures.serve (maintains.lasting session)
    (appending_letsServe.reportTimings timings)).bind fun _ => ?_
  exact (maintains.close session).bind fun _ => .value fun _ finished => finished

theorem maintains_restoring {ρ : Type} (suppressor : Suppressor) (session : σ) (timings : Timings)
    (last : ρ) :
    Ensures (holds session)
      (do discard suppressor.restore
          reportTimings timings
          driver.toolchain.close session
          return last) fun _ => finish := by
  refine (Ensures.serve (maintains.lasting session)
    (appending_letsServe.restoreSuppressor suppressor)).bind fun _ => ?_
  exact maintains_closing maintains session timings last

theorem maintains_unwinding (suppressor : Suppressor) (session : σ) (panic : Panic) :
    Ensures (holds session)
      (unwind panic do
        driver.toolchain.close session
        discard suppressor.restore) fun _ => finish := by
  apply Ensures.unwindOrExit (maintains.lasting session) (maintains.exit session)
  refine (maintains.close session).bind fun _ => ?_
  exact .serve maintains.lastingFinish (appending_letsServe.restoreSuppressor suppressor)

theorem maintains_concluding (capturing : Bool) (capture : Capture) (ended : CallEnd) (session : σ)
    (timings : Timings) :
    Ensures (holds session) (driver.concluding capturing capture (ended, session, timings))
      fun _ => finish := by
  have collected (last : CapturedOutput → Ending BuildResult × Timings) :
      Ensures (holds session)
        (do let output ← if capturing then capture.intoOutput else pure {}
            reportTimings timings
            driver.toolchain.close session
            return last output) fun _ => finish := by
    dsimp only
    split
    · refine (Ensures.serve (maintains.lasting session)
        (appending_letsServe.intoOutput capture)).bind fun output => ?_
      exact maintains_closing maintains session timings (last output)
    · exact maintains_closing maintains session timings (last {})
  cases ended with
  | succeeded => exact collected fun output => (.returned (.ran output), timings)
  | failed error =>
      exact collected fun output =>
        (.returned ((BuildResult.failure error.message).withOutput output), timings)
  | panicked panic =>
      have cleanup : Ensures (holds session)
          (do discard capture.stop
              driver.toolchain.close session) fun _ => finish :=
        (Ensures.serve (maintains.lasting session) (appending_letsServe.stop capture)).bind
          fun _ => maintains.close session
      refine (Ensures.unwindOrExit (maintains.lasting session) (maintains.exit session) panic
        cleanup).bind fun _ => ?_
      exact .value fun _ finished => finished

/-! ## Requests -/

theorem maintains_runPrepared {settings : Settings} {arguments : List String}
    (permitted : permits (runCall settings arguments)) (session : σ) (timings : Timings) :
    Ensures (holds session) (driver.runPrepared settings arguments session timings)
      fun _ => finish := by
  rw [runPrepared_eq]
  refine (Ensures.serve (maintains.lasting session)
    (appending_letsServe.startCapture driver)).bind fun started => ?_
  have running := maintains_calling maintains session permitted
  refine ((maintains_course maintains).timed running "run" timings).bind fun reached => ?_
  exact maintains_concluding maintains started.1 started.2 reached.1 reached.2.1 reached.2.2

theorem maintains_beginning {ρ : Type} (settings : Settings) (stopped : Ending BuildResult → ρ)
    {next : Suppressor → σ → Action ρ}
    (rest : ∀ suppressor session,
      Ensures (holds session) (next suppressor session) fun _ => finish) :
    Ensures start (driver.beginning settings stopped next) fun _ => finish := by
  refine (Ensures.serve maintains.lastingStart
    (appending_letsServe.engage .stderr settings.quiet)).bind fun suppressor => ?_
  refine (maintains_create maintains settings).bind fun created => ?_
  cases created with
  | error panic =>
      refine (Ensures.serve maintains.lastingFinish (appending_letsServe.unwind panic
        (appending_letsServe.restoreSuppressor suppressor))).bind fun _ => ?_
      exact .value fun _ finished => finished
  | ok session => exact rest suppressor session

/-- A request to run a program maintains the assertion. -/
theorem maintains_run {settings : Settings} {arguments : List String}
    (permitted : ∀ call ∈ runCalls settings arguments, permits call) :
    Ensures start (driver.run settings arguments) fun _ => finish := by
  have prepares (call : SessionCall) (member : call ∈ preparation settings) : permits call :=
    permitted call (by simp [runCalls, member])
  have runs : permits (runCall settings arguments) :=
    permitted _ (by simp [runCalls, runCall, programArguments])
  refine maintains_beginning maintains settings _ fun suppressor session => ?_
  refine ((maintains_course maintains).prepare settings prepares session).bind fun prepared => ?_
  obtain ⟨ended, session, timings⟩ := prepared
  cases ended with
  | succeeded =>
      refine (Ensures.serve (maintains.lasting session)
        (appending_letsServe.restoreSuppressor suppressor)).bind fun _ => ?_
      refine (maintains_runPrepared maintains runs session timings).bind fun _ => ?_
      exact .value fun _ finished => finished
  | failed error => exact maintains_restoring maintains suppressor session timings _
  | panicked panic =>
      refine (maintains_unwinding maintains suppressor session panic).bind fun _ => ?_
      exact .value fun _ finished => finished

/-- So does a request to build one. -/
theorem maintains_build {settings : Settings} {output : Path}
    (permitted : ∀ call ∈ buildCalls settings output, permits call) :
    Ensures start (driver.build settings output) fun _ => finish := by
  have prepares (call : SessionCall) (member : call ∈ preparation settings) : permits call :=
    permitted call (by simp [buildCalls, member])
  have links : permits (.link output settings.linkOptions) :=
    permitted _ (link_mem_buildCalls settings output)
  refine maintains_beginning maintains settings _ fun suppressor session => ?_
  refine ((maintains_course maintains).link settings output prepares links session).bind
    fun linked => ?_
  obtain ⟨ended, session, timings⟩ := linked
  cases ended with
  | succeeded => exact maintains_restoring maintains suppressor session timings _
  | failed error => exact maintains_restoring maintains suppressor session timings _
  | panicked panic =>
      refine (maintains_unwinding maintains suppressor session panic).bind fun _ => ?_
      exact .value fun _ finished => finished

end Driver

end CompileDriver
