import CompileDriver.Proofs.Driver.Crashes
import CompileDriver.Proofs.Driver.Logging

/-!
# A request reports last

Wherever a request ends, it ends in the same way: the times of its phases are reported and the
session is closed, unless a panic has been raised.  `work` is all that comes before that, in one
action for both kinds of requests; `serve_eq` says that a request is its work and its report.

When the work is done, the guards have been given up.
-/

namespace CompileDriver

variable {σ : Type}

/-- What the work of a request comes to: its result, with the session that is still to be closed,
or how it was ended by a panic, and the times of its phases. -/
abbrev Worked (σ : Type) := Except (Ending BuildResult) (BuildResult × σ) × Timings

namespace Driver

variable (driver : Driver σ)

/-- Take what was captured after the call that has run the program. -/
def gathering (capturing : Bool) (capture : Capture) : CallEnd × σ × Timings → Action (Worked σ)
  | (.panicked panic, session, timings) => do
      let ending ← unwind panic do
        discard capture.stop
        driver.toolchain.close session
      return (.error ending, timings)
  | (ended, session, timings) => do
      let output ← if capturing then capture.intoOutput else pure {}
      match ended with
      | .failed error =>
          return (.ok ((BuildResult.failure error.message).withOutput output, session), timings)
      | _ => return (.ok (.ran output, session), timings)

/-- What a request does after its suppressor has been given up. -/
def beyond (session : σ) (timings : Timings) : Request → Action (Worked σ)
  | .run settings arguments => do
      let (capturing, capture) ← driver.startCapture
      let reached ← timed "run" timings
        (calling (runCall settings arguments)
          (driver.toolchain.perform session (runCall settings arguments)))
      driver.gathering capturing capture reached
  | .build _ output => return (.ok (.built output, session), timings)

/-- Give up the suppressor after the calls that it has covered, and go on. -/
def uncovering (suppressor : Suppressor) (request : Request) :
    CallEnd × σ × Timings → Action (Worked σ)
  | (.panicked panic, session, timings) => do
      let ending ← unwind panic do
        driver.toolchain.close session
        discard suppressor.restore
      return (.error ending, timings)
  | (.failed error, session, timings) => do
      discard suppressor.restore
      return (.ok (.failure error.message, session), timings)
  | (.succeeded, session, timings) => do
      discard suppressor.restore
      driver.beyond session timings request

/-- A request up to its report. -/
def work (request : Request) : Action (Worked σ) := do
  let suppressor ← Suppressor.engage .stderr request.settings.quiet
  match ← create driver.toolchain request.settings with
  | .error panic =>
      let ending ← unwind panic (discard suppressor.restore)
      return (.error ending, {})
  | .ok session => driver.working session request >>= driver.uncovering suppressor request

/-- The report of a request, and its end. -/
def reporting : Worked σ → Action (Ending BuildResult × Driver σ)
  | (.error ending, timings) => return (ending, { driver with timings })
  | (.ok (result, session), timings) => do
      reportTimings timings
      driver.toolchain.close session
      return (.returned result, { driver with timings })

theorem concluding_reports (capturing : Bool) (capture : Capture)
    (reached : CallEnd × σ × Timings) :
    (do
      let (ending, timings) ← driver.concluding capturing capture reached
      return (ending, { driver with timings })) =
        driver.gathering capturing capture reached >>= driver.reporting := by
  obtain ⟨_ | error | panic, session, timings⟩ := reached
  · cases capturing <;> rfl
  · cases capturing <;> rfl
  · rfl

theorem runPrepared_reports (settings : Settings) (arguments : List String) (session : σ)
    (timings : Timings) :
    (do
      let (ending, timings) ← driver.runPrepared settings arguments session timings
      return (ending, { driver with timings })) =
        driver.beyond session timings (.run settings arguments) >>= driver.reporting := by
  rw [runPrepared_eq]
  funext host
  exact congrFun (driver.concluding_reports _ _ _) _

/-- A request does its work and reports. -/
theorem serve_eq (request : Request) :
    driver.serve request = driver.work request >>= driver.reporting := by
  funext host
  cases request with
  | run settings arguments =>
      simp only [serve, run, work, Request.settings, working, Action.bind_apply]
      cases (create driver.toolchain settings
        (Suppressor.engage .stderr settings.quiet host).2).1 with
      | error panic => rfl
      | ok session =>
          simp only [Action.bind_apply]
          rcases prepare driver.toolchain settings session _ with
            ⟨⟨_ | error | panic, session, timings⟩, later⟩
          · exact congrFun (driver.runPrepared_reports settings arguments session timings) _
          · rfl
          · rfl
  | build settings output =>
      simp only [serve, build, work, Request.settings, working, Action.bind_apply]
      cases (create driver.toolchain settings
        (Suppressor.engage .stderr settings.quiet host).2).1 with
      | error panic => rfl
      | ok session =>
          simp only [Action.bind_apply]
          rcases driver.link settings output session _ with
            ⟨⟨_ | error | panic, session, timings⟩, later⟩
          all_goals rfl

/-! ## The streams of the report -/

variable {driver} {leaks : Nat → Prop} {owns : σ → Nat → Prop} {base : OpenFiles}
  {threads : List (Nat × Nat)}

/-- Where work leads to a report, all guards have been given up. -/
def Placeable (leaks : Nat → Prop) (owns : σ → Nat → Prop) (base : OpenFiles)
    (threads : List (Nat × Nat)) (worked : Worked σ) (host : Host) : Prop :=
  ∀ result session, worked.1 = .ok (result, session) →
    Holding leaks (fun _ => False) base threads (owns session) host

section

variable (tidy : driver.toolchain.Tidy owns leaks)

include tidy

theorem gathering_placeable {capturing : Bool} {capture : Capture}
    (inactive : capturing = false → capture.taps = none) (ended : CallEnd) (session : σ)
    (timings : Timings) :
    Ensures (Captured leaks (fun _ => False) base threads capture (owns session))
      (driver.gathering capturing capture (ended, session, timings))
      (Placeable leaks owns base threads) := by
  have notHeld (stream : Stream) : ¬ owns session stream.number := (tidy.streams stream).2 session
  have last (worked : CapturedOutput → BuildResult) :
      Ensures (Captured leaks (fun _ => False) base threads capture (owns session))
        (do let output ← if capturing then capture.intoOutput else pure {}
            return (Except.ok (worked output, session), timings))
        (Placeable leaks owns base threads) := by
    have placed (output : CapturedOutput) :
        Ensures (Holding leaks (fun _ => False) base threads (owns session))
          (pure (Except.ok (worked output, session), timings))
          (Placeable leaks owns base threads) := by
      rintro host holding result _ ⟨⟩
      exact holding
    cases capturing with
    | true =>
        have stopped : Ensures (Captured leaks (fun _ => False) base threads capture (owns session))
            capture.intoOutput fun _ =>
              Holding leaks (fun _ => False) base threads (owns session) :=
          (Ensures.stopCaptured notHeld).bind fun _ => .value fun _ holding => holding
        exact stopped.bind placed
    | false =>
        intro host captured
        exact placed {} host (captured.holding_of_inactive (inactive rfl))
  cases ended with
  | succeeded => exact last .ran
  | failed error => exact last fun output => (BuildResult.failure error.message).withOutput output
  | panicked panic => exact fun host _ result other => nofun

theorem beyond_placeable (session : σ) (timings : Timings) (request : Request) :
    Ensures (Holding leaks (fun _ => False) base threads (owns session))
      (driver.beyond session timings request) (Placeable leaks owns base threads) := by
  cases request with
  | run settings arguments =>
      have notHeld (stream : Stream) : ¬ owns session stream.number :=
        (tidy.streams stream).2 session
      refine (Ensures.startCaptured driver notHeld).bind ?_
      rintro ⟨capturing, capture⟩ host ⟨captured, inactive⟩
      have frame : Frame leaks (Captured leaks (fun _ => False) base threads capture) :=
        Captured.frame capture
      have running := frame.calling tidy session (runCall settings arguments)
      refine ((frame.course tidy).timed running "run" timings).bind (fun reached => ?_) host
        captured
      exact gathering_placeable tidy inactive reached.1 reached.2.1 reached.2.2
  | build settings output =>
      rintro host holding result _ ⟨⟩
      exact holding

theorem work_placeable (request : Request) :
    Ensures (Host.Shows base threads) (driver.work request)
      (Placeable leaks owns base threads) := by
  refine (Ensures.engageHidden leaks request.settings.quiet).bind fun suppressor => ?_
  have frame : Frame leaks (Hidden leaks (fun _ => False) base threads suppressor) :=
    Hidden.frame suppressor
  refine (frame.create tidy request.settings).bind fun created => ?_
  cases created with
  | error panic => exact fun host _ result other => nofun
  | ok session =>
      have worked : Ensures (Hidden leaks (fun _ => False) base threads suppressor (owns session))
          (driver.working session request)
          fun reached =>
            Hidden leaks (fun _ => False) base threads suppressor (owns reached.2.1) := by
        cases request with
        | run settings arguments =>
            exact (frame.course tidy).prepare settings (fun _ => prepares_of_preparation) session
        | build settings output =>
            exact (frame.course tidy).link settings output (fun _ => prepares_of_preparation) rfl
              session
      refine worked.bind fun reached => ?_
      obtain ⟨ended, session, timings⟩ := reached
      have restored : Ensures (Hidden leaks (fun _ => False) base threads suppressor (owns session))
          (discard suppressor.restore : Action PUnit)
          fun _ => Holding leaks (fun _ => False) base threads (owns session) :=
        (Ensures.restoreHidden ((tidy.streams .stderr).2 session)).discarded
      cases ended with
      | succeeded => exact restored.bind fun _ => beyond_placeable tidy session timings request
      | failed error =>
          refine restored.bind fun _ => ?_
          rintro host holding result _ ⟨⟩
          exact holding
      | panicked panic => exact fun host _ result other => nofun

/-- When a request reports, the streams refer to what they referred to before. -/
theorem work_streams {request : Request} {before : Host} {result : BuildResult} {session : σ}
    (reports : (driver.work request before).1.1 = .ok (result, session)) (stream : Stream) :
    (driver.work request before).2.opened stream.number = before.opened stream.number := by
  have shown : before.Shows before.opened before.threads := ⟨rfl, List.Subset.refl _⟩
  have holding := work_placeable tidy request before shown result session reports
  exact holding.streams (fun stream => (tidy.streams stream).1)
    (fun stream => (tidy.streams stream).2 session) stream

end

end Driver

end CompileDriver
