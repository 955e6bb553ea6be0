import CompileDriver.Proofs.Driver.Paired
import CompileDriver.Proofs.Timings

/-!
# Requests side by side

The same request of two drivers whose toolchains behave alike, on hosts that a request cannot
tell apart, by its stages: preparing the program, running it under a capture, and giving up
what is held.  Durations differ, and so do the texts that are captured as far as these
statements go.
-/

namespace CompileDriver

variable {σ τ : Type}

namespace Driver

/-- The names of the phases do not depend on the times. -/
theorem names_recorded (timings : Timings) (name : String) (time : Duration) :
    (recorded timings name time).names =
      if name ∈ timings.names then timings.names else timings.names ++ [name] := by
  rw [recorded, Timings.record]
  cases added : Timings.addTo name time timings.phases with
  | none => exact (if_pos (Timings.mem_of_addTo_eq_none added)).symm
  | some phases => exact Timings.names_of_addTo added

/-- Two phases have ended alike, with sessions that are the same and with records of the
same phases. -/
structure Reaches (same : σ → τ → Prop) (reached : CallEnd × σ × Timings)
    (twin : CallEnd × τ × Timings) : Prop where
  ended : reached.1 = twin.1
  session : same reached.2.1 twin.2.1
  names : reached.2.2.names = twin.2.2.names

/-- Two requests have ended alike while they prepared their programs, or they have sessions
that are the same and records of the same phases. -/
inductive Prepares (same : σ → τ → Prop) :
    Except (Ending BuildResult × Driver σ) (σ × Timings) →
      Except (Ending BuildResult × Driver τ) (τ × Timings) → Prop
  | ended {ending : Ending BuildResult} {driver : Driver σ} {twin : Driver τ}
      (names : driver.timings.names = twin.timings.names) :
      Prepares same (.error (ending, driver)) (.error (ending, twin))
  | ready {session : σ} {other : τ} {timings timingsTwin : Timings}
      (sameSession : same session other) (names : timings.names = timingsTwin.names) :
      Prepares same (.ok (session, timings)) (.ok (other, timingsTwin))

/-- An ending without the texts that were captured. -/
def silenced (ending : Ending BuildResult) : Ending BuildResult :=
  ending.map (·.withOutput {})

/-- Two requests have ended alike but for the texts that were captured, with records of the
same phases. -/
structure EndsLike (reached twin : Ending BuildResult × Timings) : Prop where
  ending : silenced reached.1 = silenced twin.1
  names : reached.2.names = twin.2.names

end Driver

namespace Abreast

open Host

section

variable {world : Host → Host → Prop} {start startTwin : Host} (enduring : Enduring world)

/-! ## What is done between the calls -/

theorem isEnabled (level : Level) :
    Abreast (Paired world start startTwin) (Log.isEnabled level) (Log.isEnabled level) Eq := by
  intro one two paired
  have sameLogger : one.logger = two.logger := congrArg View.logger paired.akin.alike
  have sameThreshold : one.threshold = two.threshold :=
    congrArg View.threshold paired.akin.alike
  have sameAnswer : (Log.isEnabled level one).1 = (Log.isEnabled level two).1 := by
    simp [Log.isEnabled, sameLogger, sameThreshold]
  exact ⟨paired, sameAnswer⟩

theorem raise (panic : Panic) : Abreast Alike panic.raise panic.raise Eq := by
  apply look
  intro one two alike
  have sameHook : one.panicHook = two.panicHook := congrArg View.panicHook alike
  have reported : Abreast Alike panic.report panic.report fun _ _ => True := by
    apply look
    intro one two alike
    have sameReported : one.crashReported = two.crashReported :=
      congrArg View.crashReported alike
    rw [sameReported]
    split
    · exact ⟨alike, trivial⟩
    · have begun : Alike { one with crashReported := true } { two with crashReported := true } := by
        have changed : { one.view with crashReported := true } =
            { two.view with crashReported := true } := by rw [alike]
        exact changed
      have wrote := speaking (Speaks.writeReport panic) (Speaks.writeReport panic) _ _ begun
      simp only [AbreastAt, Action.bind_apply, Action.set_apply]
      exact wrote
  rw [sameHook]
  cases two.panicHook with
  | unwind => exact ⟨alike, rfl⟩
  | crashReport => exact reported.bind (fun _ _ _ => .value rfl) _ _ alike

include enduring

theorem unwind (panic : Panic) {cleanup cleanupTwin : Action Unit}
    (abreast : Abreast (Paired world start startTwin) cleanup cleanupTwin fun _ _ => True) :
    Abreast (Paired world start startTwin) (Driver.unwind panic cleanup)
      (Driver.unwind panic cleanupTwin) Eq := by
  have raised : Abreast (Paired world start startTwin) panic.raise panic.raise Eq :=
    serve enduring (raise panic) (fun letsServe => letsServe.raise panic)
      fun letsServe => letsServe.raise panic
  apply raised.bind
  rintro (_ | code) _ rfl
  · exact abreast.bind fun _ _ _ => .value rfl
  · exact .value rfl

theorem hide (stream : Stream) (wanted : Bool) :
    Abreast (Paired world start startTwin) (Suppressor.engage stream wanted)
      (Suppressor.engage stream wanted) Eq :=
  serve enduring (engage stream wanted) (fun letsServe => letsServe.engage stream wanted)
    fun letsServe => letsServe.engage stream wanted

theorem showAgain (suppressor : Suppressor) :
    Abreast (Paired world start startTwin) (discard suppressor.restore : Action Unit)
      (discard suppressor.restore) fun _ _ => True :=
  serve enduring (restoreSuppressor suppressor).discarded
    (fun letsServe => letsServe.restoreSuppressor suppressor)
    fun letsServe => letsServe.restoreSuppressor suppressor

theorem reportTimings (timings twin : Timings) :
    Abreast (Paired world start startTwin) (Driver.reportTimings timings)
      (Driver.reportTimings twin) fun _ _ => True := by
  have reports (timings : Timings) :
      Speaks (fun _ => False) (Driver.reportTimings timings) fun _ => True :=
    .reportTimings (fun _ => not_false) timings
  exact serve enduring (speaking (reports timings) (reports twin))
    (fun letsServe => letsServe.reportTimings timings) fun letsServe => letsServe.reportTimings twin

theorem startCapture {driver : Driver σ} {other : Driver τ}
    (sameCapturing : driver.capturing = other.capturing)
    (sameNonblocking : driver.nonblocking = other.nonblocking) :
    Abreast (Paired world start startTwin) driver.startCapture other.startCapture
      fun started twin => started.1 = twin.1 ∧ started.2.Resembles twin.2 := by
  refine serve enduring ?_ (fun letsServe => letsServe.startCapture driver)
    fun letsServe => letsServe.startCapture other
  have inert : Capture.Resembles { nonblocking := driver.nonblocking }
      { nonblocking := other.nonblocking } := ⟨sameNonblocking, .none⟩
  unfold Driver.startCapture
  rw [sameCapturing]
  cases other.capturing with
  | false => exact .value ⟨rfl, inert⟩
  | true =>
      apply (Abreast.start inert).bind
      rintro ⟨outcome, capture⟩ ⟨_, captureTwin⟩ ⟨rfl, resembles⟩
      cases outcome with
      | error error => exact (debug _ _).bind fun _ _ _ => .value ⟨rfl, resembles⟩
      | ok done => exact .value ⟨rfl, resembles⟩

end

/-! ## Calls -/

section

variable {world : Host → Host → Prop} {start startTwin : Host} (enduring : Enduring world)
  {same : σ → τ → Prop} {toolchain : Toolchain σ} {twin : Toolchain τ}
  (behaves : toolchain.BehavesLike twin world same) (discreet : toolchain.Discreet)
  (discreetTwin : twin.Discreet)

theorem returned (enduring : Enduring world) (call : SessionCall) (ended : CallEnd) :
    Abreast (Paired world start startTwin) (Driver.returned call ended)
      (Driver.returned call ended) fun _ _ => True := by
  cases ended with
  | succeeded => exact note enduring _
  | failed error => exact note enduring _
  | panicked panic => exact .value trivial

include enduring behaves discreet discreetTwin

theorem calling {session : σ} {other : τ} (sameSession : same session other) (call : SessionCall) :
    Abreast (Paired world start startTwin)
      (Driver.calling call (toolchain.perform session call))
      (Driver.calling call (twin.perform other call))
      fun reached reachedTwin => reached.1 = reachedTwin.1 ∧ same reached.2 reachedTwin.2 := by
  apply (note enduring _).bind
  intro _ _ _
  apply ((behaves.call session other call sameSession).quietly (discreet.call session call)
    (discreetTwin.call other call)).bind
  rintro ⟨ended, session⟩ ⟨_, other⟩ ⟨rfl, sameSession⟩
  exact (returned enduring call ended).bind fun _ _ _ => .value ⟨rfl, sameSession⟩

theorem create (settings : Settings) :
    Abreast (Paired world start startTwin) (Driver.create toolchain settings)
      (Driver.create twin settings) (SameOutcome same) := by
  apply (note enduring _).bind
  intro _ _ _
  apply ((behaves.create settings).quietly (discreet.create settings)
    (discreetTwin.create settings)).bind
  rintro _ _ (panic | sameSession)
  · exact .value (.error panic)
  · exact (returned enduring _ .succeeded).bind fun _ _ _ => .value (.ok sameSession)

omit enduring in
theorem closeSession {session : σ} {other : τ} (sameSession : same session other) :
    Abreast (Paired world start startTwin) (toolchain.close session) (twin.close other)
      fun _ _ => True :=
  (behaves.close session other sameSession).quietly (discreet.close session)
    (discreetTwin.close other)

omit behaves discreet discreetTwin in
/-- A phase that is timed is recorded under the same name on both sides, or on none. -/
theorem timed {phase : Action (CallEnd × σ)} {phaseTwin : Action (CallEnd × τ)}
    (abreast : Abreast (Paired world start startTwin) phase phaseTwin
      fun reached reachedTwin => reached.1 = reachedTwin.1 ∧ same reached.2 reachedTwin.2)
    (name : String) {timings timingsTwin : Timings} (names : timings.names = timingsTwin.names) :
    Abreast (Paired world start startTwin) (Driver.timed name timings phase)
      (Driver.timed name timingsTwin phaseTwin) (Driver.Reaches same) := by
  have clocks : Abreast (Paired world start startTwin) SystemCall.elapsed SystemCall.elapsed
      fun _ _ => True :=
    serve enduring elapsed (fun letsServe => letsServe.spares Spares.elapsed)
      fun letsServe => letsServe.spares Spares.elapsed
  have sameNames (time timeTwin : Duration) :
      (Driver.recorded timings name time).names =
        (Driver.recorded timingsTwin name timeTwin).names := by
    rw [Driver.names_recorded, Driver.names_recorded, names]
  apply (isEnabled .debug).bind
  rintro enabled _ rfl
  cases enabled with
  | false =>
      apply abreast.bind
      rintro ⟨ended, session⟩ ⟨_, other⟩ ⟨rfl, sameSession⟩
      exact .value ⟨rfl, sameSession, names⟩
  | true =>
      apply abreast.bind
      rintro ⟨ended, session⟩ ⟨_, other⟩ ⟨rfl, sameSession⟩
      cases ended with
      | panicked panic => exact .value ⟨rfl, sameSession, names⟩
      | succeeded =>
          exact clocks.bind fun time timeTwin _ =>
            .value ⟨rfl, sameSession, sameNames time timeTwin⟩
      | failed error =>
          exact clocks.bind fun time timeTwin _ =>
            .value ⟨rfl, sameSession, sameNames time timeTwin⟩

/-! ## Stages -/

theorem loadPlugins (names : List String) {session : σ} {other : τ}
    (sameSession : same session other) :
    Abreast (Paired world start startTwin) (Driver.loadPlugins toolchain session names)
      (Driver.loadPlugins twin other names)
      fun reached reachedTwin => reached.1 = reachedTwin.1 ∧ same reached.2 reachedTwin.2 := by
  induction names generalizing session other with
  | nil => exact .value ⟨rfl, sameSession⟩
  | cons name rest ih =>
      apply (calling enduring behaves discreet discreetTwin sameSession (.plugin name)).bind
      rintro ⟨ended, session⟩ ⟨_, other⟩ ⟨rfl, sameSession⟩
      cases ended with
      | succeeded => exact ih sameSession
      | failed error => exact .value ⟨rfl, sameSession⟩
      | panicked panic => exact .value ⟨rfl, sameSession⟩

theorem prepare (settings : Settings) {session : σ} {other : τ}
    (sameSession : same session other) :
    Abreast (Paired world start startTwin) (Driver.prepare toolchain settings session)
      (Driver.prepare twin settings other) (Driver.Reaches same) := by
  apply (timed enduring (loadPlugins enduring behaves discreet discreetTwin settings.plugins
    sameSession) "plugins" rfl).bind
  rintro ⟨ended, session, timings⟩ ⟨_, other, timingsTwin⟩ ⟨rfl, sameSession, names⟩
  cases ended with
  | failed error => exact .value ⟨rfl, sameSession, names⟩
  | panicked panic => exact .value ⟨rfl, sameSession, names⟩
  | succeeded =>
      apply (timed enduring (calling enduring behaves discreet discreetTwin sameSession
        (.parse settings.input)) "parse" names).bind
      rintro ⟨ended, session, timings⟩ ⟨_, other, timingsTwin⟩ ⟨rfl, sameSession, names⟩
      cases ended with
      | failed error => exact .value ⟨rfl, sameSession, names⟩
      | panicked panic => exact .value ⟨rfl, sameSession, names⟩
      | succeeded =>
          exact timed enduring (calling enduring behaves discreet discreetTwin sameSession
            .compile) "compile" names

end

section

variable {world : Host → Host → Prop} {start startTwin : Host} (enduring : Enduring world)
  {same : σ → τ → Prop} {driver : Driver σ} {twin : Driver τ}
  (behaves : driver.toolchain.BehavesLike twin.toolchain world same)
  (discreet : driver.toolchain.Discreet) (discreetTwin : twin.toolchain.Discreet)

include enduring behaves discreet discreetTwin

theorem link (settings : Settings) (output : Path) {session : σ} {other : τ}
    (sameSession : same session other) :
    Abreast (Paired world start startTwin) (driver.link settings output session)
      (twin.link settings output other) (Driver.Reaches same) := by
  apply (prepare enduring behaves discreet discreetTwin settings sameSession).bind
  rintro ⟨ended, session, timings⟩ ⟨_, other, timingsTwin⟩ ⟨rfl, sameSession, names⟩
  cases ended with
  | failed error => exact .value ⟨rfl, sameSession, names⟩
  | panicked panic => exact .value ⟨rfl, sameSession, names⟩
  | succeeded =>
      exact timed enduring (calling enduring behaves discreet discreetTwin sameSession
        (.link output settings.linkOptions)) "link" names

/-- What is left to do for a request that gives up its suppressor and its session. -/
theorem closing {α β : Type} (suppressor : Suppressor) {session : σ} {other : τ}
    (sameSession : same session other) (timings timingsTwin : Timings) {last : α} {lastTwin : β}
    {yields : α → β → Prop} (known : yields last lastTwin) :
    Abreast (Paired world start startTwin)
      (do discard suppressor.restore
          Driver.reportTimings timings
          driver.toolchain.close session
          return last)
      (do discard suppressor.restore
          Driver.reportTimings timingsTwin
          twin.toolchain.close other
          return lastTwin) yields := by
  apply (showAgain enduring suppressor).bind
  intro _ _ _
  apply (reportTimings enduring timings timingsTwin).bind
  intro _ _ _
  exact (closeSession behaves discreet discreetTwin sameSession).bind fun _ _ _ => .value known

/-- What is left to do for a request that unwinds before its program was run. -/
theorem unwinding (suppressor : Suppressor) {session : σ} {other : τ}
    (sameSession : same session other) (panic : Panic) :
    Abreast (Paired world start startTwin)
      (Driver.unwind panic do
        driver.toolchain.close session
        discard suppressor.restore)
      (Driver.unwind panic do
        twin.toolchain.close other
        discard suppressor.restore) Eq := by
  apply unwind enduring panic
  apply (closeSession behaves discreet discreetTwin sameSession).bind
  intro _ _ _
  exact showAgain enduring suppressor

theorem beginning {α β : Type} (settings : Settings) {stopped : Ending BuildResult → α}
    {stoppedTwin : Ending BuildResult → β} {next : Suppressor → σ → Action α}
    {nextTwin : Suppressor → τ → Action β} {yields : α → β → Prop}
    (ended : ∀ ending, yields (stopped ending) (stoppedTwin ending))
    (rest : ∀ suppressor session other, same session other →
      Abreast (Paired world start startTwin) (next suppressor session)
        (nextTwin suppressor other) yields) :
    Abreast (Paired world start startTwin) (driver.beginning settings stopped next)
      (twin.beginning settings stoppedTwin nextTwin) yields := by
  apply (hide enduring .stderr settings.quiet).bind
  rintro suppressor _ rfl
  apply (create enduring behaves discreet discreetTwin settings).bind
  rintro _ _ (panic | sameSession)
  · apply (unwind enduring panic (showAgain enduring suppressor)).bind
    rintro ending _ rfl
    exact .value (ended ending)
  · exact rest suppressor _ _ sameSession

theorem preparing (settings : Settings) :
    Abreast (Paired world start startTwin) (driver.preparing settings) (twin.preparing settings)
      (Driver.Prepares same) := by
  apply beginning enduring behaves discreet discreetTwin settings fun _ => .ended rfl
  intro suppressor session other sameSession
  apply (prepare enduring behaves discreet discreetTwin settings sameSession).bind
  rintro ⟨ended, session, timings⟩ ⟨_, other, timingsTwin⟩ ⟨rfl, sameSession, names⟩
  cases ended with
  | succeeded =>
      exact (showAgain enduring suppressor).bind fun _ _ _ => .value (.ready sameSession names)
  | failed error =>
      exact closing enduring behaves discreet discreetTwin suppressor sameSession timings
        timingsTwin (.ended names)
  | panicked panic =>
      apply (unwinding enduring behaves discreet discreetTwin suppressor sameSession panic).bind
      rintro ending _ rfl
      exact .value (.ended names)

/-- The times are reported and the session is closed before the result is returned. -/
theorem returning {session : σ} {other : τ} (sameSession : same session other)
    {timings timingsTwin : Timings} (names : timings.names = timingsTwin.names)
    {result resultTwin : BuildResult}
    (sameResult : result.withOutput {} = resultTwin.withOutput {}) :
    Abreast (Paired world start startTwin)
      (do Driver.reportTimings timings
          driver.toolchain.close session
          return (Ending.returned result, timings))
      (do Driver.reportTimings timingsTwin
          twin.toolchain.close other
          return (Ending.returned resultTwin, timingsTwin)) Driver.EndsLike := by
  apply (reportTimings enduring timings timingsTwin).bind
  intro _ _ _
  apply (closeSession behaves discreet discreetTwin sameSession).bind
  intro _ _ _
  exact .value ⟨congrArg Ending.returned sameResult, names⟩

/-- What a request does after the call that has run the program. -/
theorem concluding (capturing : Bool) {capture captureTwin : Capture}
    (resembles : capture.Resembles captureTwin) {reached : CallEnd × σ × Timings}
    {reachedTwin : CallEnd × τ × Timings} (reaches : Driver.Reaches same reached reachedTwin) :
    Abreast (Paired world start startTwin) (driver.concluding capturing capture reached)
      (twin.concluding capturing captureTwin reachedTwin) Driver.EndsLike := by
  obtain ⟨ended, session, timings⟩ := reached
  obtain ⟨_, other, timingsTwin⟩ := reachedTwin
  obtain ⟨rfl, sameSession, names⟩ := reaches
  have stopped : Abreast (Paired world start startTwin) (discard capture.stop : Action Unit)
      (discard captureTwin.stop) fun _ _ => True :=
    serve enduring (stop resembles).discarded (fun letsServe => letsServe.stop capture)
      fun letsServe => letsServe.stop captureTwin
  have collected : Abreast (Paired world start startTwin) capture.intoOutput
      captureTwin.intoOutput fun _ _ => True :=
    serve enduring (intoOutput resembles) (fun letsServe => letsServe.intoOutput capture)
      fun letsServe => letsServe.intoOutput captureTwin
  have reported (result : CapturedOutput → BuildResult)
      (sameResult : ∀ output twin, (result output).withOutput {} = (result twin).withOutput {}) :
      Abreast (Paired world start startTwin)
        (do let output ← if capturing then capture.intoOutput else pure {}
            Driver.reportTimings timings
            driver.toolchain.close session
            return (Ending.returned (result output), timings))
        (do let output ← if capturing then captureTwin.intoOutput else pure {}
            Driver.reportTimings timingsTwin
            twin.toolchain.close other
            return (Ending.returned (result output), timingsTwin)) Driver.EndsLike := by
    cases capturing with
    | false =>
        exact returning enduring behaves discreet discreetTwin sameSession names (sameResult {} {})
    | true =>
        apply collected.bind
        intro output outputTwin _
        exact returning enduring behaves discreet discreetTwin sameSession names
          (sameResult output outputTwin)
  cases ended with
  | succeeded => exact reported .ran fun _ _ => rfl
  | failed error =>
      exact reported (fun output => (BuildResult.failure error.message).withOutput output)
        fun _ _ => rfl
  | panicked panic =>
      have cleanup : Abreast (Paired world start startTwin)
          (do discard capture.stop
              driver.toolchain.close session)
          (do discard captureTwin.stop
              twin.toolchain.close other) fun _ _ => True :=
        stopped.bind fun _ _ _ => closeSession behaves discreet discreetTwin sameSession
      apply (unwind enduring panic cleanup).bind
      rintro ending _ rfl
      exact .value ⟨rfl, names⟩

/-! ## Requests -/

variable (sameCapturing : driver.capturing = twin.capturing)
  (sameNonblocking : driver.nonblocking = twin.nonblocking)

include sameCapturing sameNonblocking

theorem runPrepared (settings : Settings) (arguments : List String) {session : σ} {other : τ}
    (sameSession : same session other) {timings timingsTwin : Timings}
    (names : timings.names = timingsTwin.names) :
    Abreast (Paired world start startTwin)
      (driver.runPrepared settings arguments session timings)
      (twin.runPrepared settings arguments other timingsTwin) Driver.EndsLike := by
  rw [Driver.runPrepared_eq, Driver.runPrepared_eq]
  apply (startCapture enduring sameCapturing sameNonblocking).bind
  rintro ⟨capturing, capture⟩ ⟨_, captureTwin⟩ ⟨rfl, resembles⟩
  apply (timed enduring (calling enduring behaves discreet discreetTwin sameSession
    (Driver.runCall settings arguments)) "run" names).bind
  intro reached reachedTwin reaches
  exact concluding enduring behaves discreet discreetTwin capturing resembles reaches

theorem run (settings : Settings) (arguments : List String) :
    Abreast (Paired world start startTwin) (driver.run settings arguments)
      (twin.run settings arguments) fun reached reachedTwin =>
        Driver.EndsLike (reached.1, reached.2.timings) (reachedTwin.1, reachedTwin.2.timings) := by
  rw [Driver.run_eq, Driver.run_eq]
  apply (preparing enduring behaves discreet discreetTwin settings).bind
  rintro _ _ (names | ⟨sameSession, names⟩)
  · exact .value ⟨rfl, names⟩
  · apply (runPrepared enduring behaves discreet discreetTwin sameCapturing sameNonblocking settings
      arguments sameSession names).bind
    rintro ⟨ending, timings⟩ ⟨endingTwin, timingsTwin⟩ endsLike
    exact .value endsLike

omit sameCapturing sameNonblocking in
/-- Nothing is captured while a program is built, so that the endings are the same. -/
theorem build (settings : Settings) (output : Path) :
    Abreast (Paired world start startTwin) (driver.build settings output)
      (twin.build settings output) fun reached reachedTwin =>
        reached.1 = reachedTwin.1 ∧ reached.2.timings.names = reachedTwin.2.timings.names := by
  apply beginning enduring behaves discreet discreetTwin settings fun _ => ⟨rfl, rfl⟩
  intro suppressor session other sameSession
  apply (link enduring behaves discreet discreetTwin settings output sameSession).bind
  rintro ⟨ended, session, timings⟩ ⟨_, other, timingsTwin⟩ ⟨rfl, sameSession, names⟩
  cases ended with
  | succeeded =>
      exact closing enduring behaves discreet discreetTwin suppressor sameSession timings
        timingsTwin ⟨rfl, names⟩
  | failed error =>
      exact closing enduring behaves discreet discreetTwin suppressor sameSession timings
        timingsTwin ⟨rfl, names⟩
  | panicked panic =>
      apply (unwinding enduring behaves discreet discreetTwin suppressor sameSession panic).bind
      rintro ending _ rfl
      exact .value ⟨rfl, names⟩

end

end Abreast

end CompileDriver
