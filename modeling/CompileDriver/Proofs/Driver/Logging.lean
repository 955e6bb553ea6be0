import CompileDriver.Proofs.Driver.Restore
import CompileDriver.Proofs.Driver.Stretches
import CompileDriver.Proofs.Guard.Logging

/-!
# Nothing is logged into a redirected stream

While a request is in progress its streams may be hidden or captured.  The main
result says that every record of a request is logged at a moment when both streams
refer to what they referred to at its start.

The argument has two halves.  What a request logs outside its calls it logs last, that
is, with the table that a guard leaves behind when it could not be set up or was given
up; and there the frames of the request show the original streams.
-/

namespace CompileDriver

variable {σ : Type} {leaks : Nat → Prop} {owns : σ → Nat → Prop}

/-- When the moment is the emission of a record, the streams refer to the given
files. -/
def Moment.Undiverted (files : OpenFiles) (moment : Moment) : Prop :=
  moment.record? ≠ none → ∀ stream : Stream, moment.table.file? stream.number = files stream.number

theorem Moment.undiverted_of_plain (files : OpenFiles) {moment : Moment}
    (plain : moment.IsPlain) : moment.Undiverted files :=
  fun logged => absurd (Plain.record plain) logged

theorem Plain.report (panic : Panic) : Plain panic.report := by
  apply Discipline.Governs.report (fun _ => trivial) fun _ => Host.Notes.of_journal rfl
  exact .each fun part _ => ((letsWrite .stderr).writeOut (Bytes.ofText part)).discarded

/-! ## Toolchains that log nothing -/

/-- Whatever the host, the action logs nothing. -/
abbrev LogsNothing {α : Type} (action : Action α) : Prop :=
  (noting fun moment => moment.record? = none).Governs action fun _ => True

/-- The toolchain itself logs nothing. -/
structure Toolchain.LogsNothing (toolchain : Toolchain σ) : Prop where
  create : ∀ settings, CompileDriver.LogsNothing (toolchain.createSession settings)
  call : ∀ session call, CompileDriver.LogsNothing (toolchain.perform session call)
  close : ∀ session, CompileDriver.LogsNothing (toolchain.close session)

namespace LogsNothing

variable {α β : Type}

theorem of_plain {action : Action α} (plain : Plain action) : LogsNothing action :=
  plain.relax (fun _ _ => trivial) fun _ _ notes => notes.weaken fun _ => Plain.record

theorem note {event : Event} (silent : ∀ table, Moment.record? { event, table } = none) :
    LogsNothing (modify (·.note event) : Action PUnit) :=
  .changed fun host => .note host (silent host.table)

theorem returned (call : SessionCall) (ended : CallEnd) :
    LogsNothing (Driver.returned call ended) := by
  cases ended with
  | succeeded => exact note fun _ => rfl
  | failed error => exact note fun _ => rfl
  | panicked panic => exact .value trivial

theorem calling {toolchain : Toolchain σ} (logsNothing : toolchain.LogsNothing) (session : σ)
    (call : SessionCall) : LogsNothing (Driver.calling call (toolchain.perform session call)) := by
  apply Discipline.Governs.bind (note fun _ => rfl)
  intro _ _
  apply (logsNothing.call session call).bind
  intro reached _
  exact (returned _ _).bind fun _ _ => .value trivial

theorem create {toolchain : Toolchain σ} (logsNothing : toolchain.LogsNothing)
    (settings : Settings) : LogsNothing (Driver.create toolchain settings) := by
  apply Discipline.Governs.bind (note fun _ => rfl)
  intro _ _
  apply (logsNothing.create settings).bind
  intro outcome _
  cases outcome with
  | error panic => exact .value trivial
  | ok session => exact (note fun _ => rfl).bind fun _ _ => .value trivial

/-- Programs log nothing. -/
theorem inheriting (launcher : Launcher) (invocation : Invocation) :
    LogsNothing (Spawn.inheriting launcher invocation) := by
  have launched (invocation : Invocation) : LogsNothing (Spawn.launch launcher invocation) :=
    (note fun _ => rfl).bind fun _ _ => .look fun _ _ => .value trivial
  have written (stream : Stream) (bytes : Bytes) :
      LogsNothing (Spawn.writeInherited stream bytes) := by
    apply Discipline.Governs.look
    intro host _
    split
    · exact (of_plain (Plain.write stream.number bytes)).discarded host trivial
    · exact .value trivial
  unfold Spawn.inheriting
  split
  · exact .value trivial
  · refine .look fun host _ => ((launched _).bind fun started _ => ?_) host trivial
    cases started with
    | error error => exact .value trivial
    | ok execution =>
        refine .bind (.changed fun _ => .of_journal rfl) fun _ _ => ?_
        exact (Discipline.Governs.each fun _ _ => written _ _).bind fun _ _ => .value trivial

theorem elapsed : LogsNothing SystemCall.elapsed := by
  apply Discipline.Governs.look
  intro host _
  split
  · exact .value trivial
  · exact ⟨.of_journal rfl, trivial⟩

end LogsNothing

namespace ToolchainScript

variable (launcher : Launcher)

theorem logsNothing_act (actions : List ScriptAction) : LogsNothing (act launcher actions) := by
  induction actions with
  | nil => exact .value trivial
  | cons action rest ih =>
      cases action with
      | write stream bytes =>
        exact (LogsNothing.of_plain (.writeStream stream bytes)).bind fun _ _ => ih
      | child script =>
          have ran : LogsNothing (runChild launcher script) :=
            .look fun host _ => LogsNothing.inheriting launcher _ host trivial
          exact ran.discarded.bind fun _ _ => ih
      | limit count => exact .bind (.changed fun _ => .of_journal rfl) fun _ _ => ih
      | panic message => exact .value trivial

theorem logsNothing_perform (phase : ScriptPhase) (call : SessionCall) :
    LogsNothing (perform launcher phase call) := by
  refine (logsNothing_act launcher phase.actions).bind fun panic _ => ?_
  cases panic with
  | some panic => exact .value trivial
  | none =>
      dsimp only
      split
      · split <;> exact .value trivial
      · exact .value trivial

/-- The toolchain that follows a script logs nothing. -/
theorem logsNothing (script : ToolchainScript) : (script.toolchain launcher).LogsNothing where
  create settings := by
    refine (logsNothing_perform launcher script.create _).bind fun ended _ => ?_
    cases ended <;> exact .value trivial
  call session call := by
    have called (phase : ScriptPhase) :
        LogsNothing (do return (← perform launcher phase call, ())) :=
      (logsNothing_perform launcher phase call).bind fun _ _ => .value trivial
    cases call with
    | create => exact .value trivial
    | plugin | parse | compile | run | link => exact called _
  close _ := .value trivial

end ToolchainScript

/-! ## Assertions with a history -/

/-- An assertion about a host, where all records since an earlier state were logged while
the streams referred to the files of that state. -/
structure Logged (before : Host) (holds : Host → Prop) (host : Host) : Prop where
  records : before.Notes (Moment.Undiverted before.opened) host
  holds : holds host

namespace Logged

variable {α : Type} {before : Host} {pre : Host → Prop} {post : α → Host → Prop}

/-- An action that logs last, when what it leaves behind after a complaint shows the
original streams. -/
theorem ensures {complains : α → Prop} {action : Action α} (logs : LogsLast complains action)
    (sound : Ensures pre action post)
    (shown : ∀ value host, complains value → post value host →
      ∀ stream : Stream, host.opened stream.number = before.opened stream.number) :
    Ensures (Logged before pre) action fun value => Logged before (post value) := by
  intro host logged
  have reached := sound host logged.holds
  constructor
  · apply logged.records.trans
    apply (logs host).weaken
    intro moment atEnd record stream
    obtain ⟨complained, same⟩ := atEnd record
    rw [same]
    exact shown _ _ complained reached stream
  · exact reached

theorem ensures_of_logsNothing {action : Action α} (logsNothing : LogsNothing action)
    (sound : Ensures pre action post) :
    Ensures (Logged before pre) action fun value => Logged before (post value) := by
  intro host logged
  constructor
  · apply logged.records.trans
    apply (logsNothing host trivial).1.weaken
    intro moment unlogged record
    exact absurd unlogged record
  · exact sound host logged.holds

theorem ensures_of_plain {action : Action α} (plain : Plain action)
    (sound : Ensures pre action post) :
    Ensures (Logged before pre) action fun value => Logged before (post value) :=
  ensures_of_logsNothing (.of_plain plain) sound

end Logged

/-! ## The streams of the frames -/

section

variable {mine : Nat → Prop} {base : OpenFiles} {threads : List (Nat × Nat)} {host : Host}

/-- In the plain frame the streams are the original ones. -/
theorem Holding.streams
    (holding : Holding leaks (fun _ => False) base threads mine host)
    (notLeaked : ∀ stream : Stream, ¬ leaks stream.number)
    (notMine : ∀ stream : Stream, ¬ mine stream.number) (stream : Stream) :
    host.opened stream.number = base stream.number := by
  by_cases wasFree : base stream.number = none
  · rw [wasFree]
    apply by_contra
    intro used
    rcases holding.keeps.known stream.number used with ⟨wasOpen, -⟩ | isHeld | leaked
    · exact wasOpen wasFree
    · exact notMine stream isHeld
    · exact notLeaked stream leaked
  · exact holding.keeps.kept stream.number not_false wasFree

/-- So they are when the suppressor has stayed inert. -/
theorem Hidden.holding_of_inert
    (hidden : Hidden leaks (fun _ => False) base threads (.inert .stderr) mine host) :
    Holding leaks (fun _ => False) base threads mine host := by
  rcases hidden with ⟨-, holding⟩ | ⟨copy, file, opening, engaged, -⟩
  · exact holding
  · cases engaged

theorem Captured.holding_of_inactive {capture : Capture} (inactive : capture.taps = none)
    (captured : Captured leaks (fun _ => False) base threads capture mine host) :
    Holding leaks (fun _ => False) base threads mine host := by
  rcases captured with ⟨-, holding⟩ | ⟨_, _, _, _, _, active, -⟩
  · exact holding
  · rw [inactive] at active
    cases active

end

/-! ## Requests -/

namespace LogsLast

/-- A capture that cannot be started is reported. -/
theorem startCapture (driver : Driver σ) :
    LogsLast (fun outcome => outcome.1 = false) driver.startCapture := by
  unfold Driver.startCapture
  dsimp only
  split
  · apply bind (start _)
    · rintro ⟨error | done, capture⟩ failed
      · exact (Speaks.debug (fun _ => not_false) _).bind fun _ _ => .value rfl
      · exact failed.elim
    · rintro ⟨error | done, capture⟩ notFailed
      · exact absurd trivial notFailed
      · exact of_plain (.value trivial)
  · exact of_plain (.value trivial)

theorem reportTimings (timings : Timings) :
    LogsLast (fun _ => True) (Driver.reportTimings timings) :=
  of_speaks (Speaks.reportTimings (fun _ => not_false) timings) fun _ known => known

end LogsLast

namespace Driver

section

variable {driver : Driver σ} {before : Host} {mine : Nat → Prop}

/-- The plain frame of a request in progress, with its history. -/
abbrev Shown (leaks : Nat → Prop) (before : Host) (mine : Nat → Prop) : Host → Prop :=
  Logged before (Holding leaks (fun _ => False) before.opened before.threads mine)

/-- The frame with a suppressor. -/
abbrev Covered (leaks : Nat → Prop) (before : Host) (suppressor : Suppressor)
    (mine : Nat → Prop) : Host → Prop :=
  Logged before (Hidden leaks (fun _ => False) before.opened before.threads suppressor mine)

/-- The frame with a capture. -/
abbrev Tapped (leaks : Nat → Prop) (before : Host) (capture : Capture) (mine : Nat → Prop) :
    Host → Prop :=
  Logged before (Captured leaks (fun _ => False) before.opened before.threads capture mine)

/-- Every frame with a history survives the calls on the session. -/
theorem logged_course {holds : (Nat → Prop) → Host → Prop} (frame : Frame leaks holds)
    (tidy : driver.toolchain.Tidy owns leaks) (logsNothing : driver.toolchain.LogsNothing) :
    Course driver.toolchain SessionCall.Prepares fun session =>
      Logged before (holds (owns session)) where
  calling session call _ :=
    Logged.ensures_of_logsNothing (.calling logsNothing session call)
      (frame.calling tidy session call)
  elapsed _ := Logged.ensures_of_logsNothing .elapsed (frame.stays .elapsed)

theorem covered_engage (leaks : Nat → Prop) (wanted : Bool)
    (notLeaked : ∀ stream : Stream, ¬ leaks stream.number) :
    Ensures (Logged before (Host.Shows before.opened before.threads))
      (Suppressor.engage .stderr wanted) fun suppressor =>
        Covered leaks before suppressor fun _ => False := by
  apply Logged.ensures (LogsLast.engage .stderr wanted) (Ensures.engageHidden leaks wanted)
  rintro _ host rfl hidden
  exact hidden.holding_of_inert.streams notLeaked fun _ => not_false

theorem shown_restore {suppressor : Suppressor} (notMine : ¬ mine Stream.stderr.number) :
    Ensures (Covered leaks before suppressor mine) (discard suppressor.restore : Action PUnit)
      fun _ => Shown leaks before mine :=
  (Logged.ensures_of_plain (Plain.restoreSuppressor suppressor)
    (Ensures.restoreHidden notMine)).discarded

theorem shown_reportTimings (notLeaked : ∀ stream : Stream, ¬ leaks stream.number)
    (notMine : ∀ stream : Stream, ¬ mine stream.number) (timings : Timings) :
    Ensures (Shown leaks before mine) (reportTimings timings) fun _ => Shown leaks before mine := by
  apply Logged.ensures (LogsLast.reportTimings timings) (Holding.frame.reportTimings timings)
  intro _ host _ holding
  exact holding.streams notLeaked notMine

theorem shown_stop (notLeaked : ∀ stream : Stream, ¬ leaks stream.number)
    (notMine : ∀ stream : Stream, ¬ mine stream.number) (capture : Capture) :
    Ensures (Tapped leaks before capture mine) capture.stop fun _ => Shown leaks before mine := by
  apply Logged.ensures (LogsLast.stop capture) (Ensures.stopCaptured notMine)
  intro _ host _ holding
  exact holding.streams notLeaked notMine

/-- A panic that unwinds is followed by the cleanup; one that ends the process is
reported without a record. -/
theorem logged_unwind {pre post : Host → Prop} (panic : Panic) {cleanup : Action Unit}
    (ensures : Ensures (Logged before pre) cleanup fun _ => Logged before post) :
    Ensures (Logged before pre) (unwind panic cleanup)
      fun _ => before.Notes (Moment.Undiverted before.opened) := by
  intro host logged
  simp only [unwind, Panic.raise, Action.bind_apply, Action.get_apply]
  cases host.panicHook with
  | unwind => exact (ensures host logged).records
  | crashReport =>
      -- the report of a crash is written, and no record of the log
      have reported := (Plain.report panic).notes
        (fun _ => Moment.undiverted_of_plain before.opened) host
      exact logged.records.trans reported

variable (tidy : driver.toolchain.Tidy owns leaks)
  (logsNothing : driver.toolchain.LogsNothing)

include tidy logsNothing

theorem covered_create (suppressor : Suppressor) (settings : Settings) :
    Ensures (Covered leaks before suppressor fun _ => False) (create driver.toolchain settings)
      fun outcome => Covered leaks before suppressor (Toolchain.heldBy owns outcome) :=
  Logged.ensures_of_logsNothing (.create logsNothing settings)
    ((Hidden.frame suppressor).create tidy settings)

theorem shown_close (session : σ) :
    Ensures (Shown leaks before (owns session)) (driver.toolchain.close session)
      fun _ => Shown leaks before fun _ => False :=
  Logged.ensures_of_logsNothing (logsNothing.close session) (Holding.frame.close tidy session)

/-- The end of a request whose guards are given up already. -/
theorem logged_conclusion {ρ : Type} (session : σ) (timings : Timings) (result : ρ) :
    Ensures (Shown leaks before (owns session))
      (do reportTimings timings
          driver.toolchain.close session
          return result)
      fun _ => before.Notes (Moment.Undiverted before.opened) := by
  have notLeaked (stream : Stream) := (tidy.streams stream).1
  have notMine (stream : Stream) := (tidy.streams stream).2 session
  exact (shown_reportTimings notLeaked notMine timings).bind fun _ =>
    (shown_close tidy logsNothing session).bind fun _ => .value fun _ shown => shown.records

/-- The end of a request whose suppressor is still in place. -/
theorem logged_closing {ρ : Type} (suppressor : Suppressor) (session : σ) (timings : Timings)
    (result : ρ) :
    Ensures (Covered leaks before suppressor (owns session))
      (do discard suppressor.restore
          reportTimings timings
          driver.toolchain.close session
          return result)
      fun _ => before.Notes (Moment.Undiverted before.opened) := by
  have restored := @shown_restore leaks before (owns session) suppressor
    ((tidy.streams .stderr).2 session)
  exact restored.bind fun _ => logged_conclusion tidy logsNothing session timings result

/-- The end of a request that unwinds while its suppressor is still in place. -/
theorem logged_unwinding {ρ : Type} (suppressor : Suppressor) (session : σ) (panic : Panic)
    (result : Ending BuildResult → ρ) :
    Ensures (Covered leaks before suppressor (owns session))
      (do let ending ← unwind panic do
            driver.toolchain.close session
            discard suppressor.restore
          return result ending)
      fun _ => before.Notes (Moment.Undiverted before.opened) := by
  have cleanup : Ensures (Covered leaks before suppressor (owns session))
      (do driver.toolchain.close session
          discard suppressor.restore)
      fun _ => Shown leaks before fun _ => False := by
    have closed : Ensures (Covered leaks before suppressor (owns session))
        (driver.toolchain.close session) fun _ => Covered leaks before suppressor fun _ => False :=
      Logged.ensures_of_logsNothing (logsNothing.close session)
        ((Hidden.frame suppressor).close tidy session)
    exact closed.bind fun _ => shown_restore not_false
  exact (logged_unwind panic cleanup).bind fun _ => .value fun _ records => records

/-- The end of a request whose program was run.  Only a capture that is active is
stopped. -/
theorem logged_concluding {capturing : Bool} {capture : Capture}
    (inactive : capturing = false → capture.taps = none) (ended : CallEnd) (session : σ)
    (timings : Timings) :
    Ensures (Tapped leaks before capture (owns session))
      (driver.concluding capturing capture (ended, session, timings))
      fun _ => before.Notes (Moment.Undiverted before.opened) := by
  have notLeaked (stream : Stream) := (tidy.streams stream).1
  have notMine (stream : Stream) := (tidy.streams stream).2 session
  have stopped : Ensures (Tapped leaks before capture (owns session)) capture.stop
      fun _ => Shown leaks before (owns session) :=
    shown_stop notLeaked notMine capture
  -- after a call that returned, whatever the result
  have returned (result : CapturedOutput → BuildResult) :
      Ensures (Tapped leaks before capture (owns session))
        (do let output ← if capturing then capture.intoOutput else pure {}
            reportTimings timings
            driver.toolchain.close session
            return (Ending.returned (result output), timings))
        fun _ => before.Notes (Moment.Undiverted before.opened) := by
    have conclusion (output : CapturedOutput) : Ensures (Shown leaks before (owns session)) _ _ :=
      logged_conclusion tidy logsNothing session timings (Ending.returned (result output), timings)
    cases capturing with
    | true =>
        have collected : Ensures (Tapped leaks before capture (owns session)) capture.intoOutput
            fun _ => Shown leaks before (owns session) :=
          stopped.bind fun _ => .value fun _ shown => shown
        exact collected.bind conclusion
    | false =>
        intro host tapped
        apply conclusion {} host
        constructor
        · exact tapped.records
        · exact tapped.holds.holding_of_inactive (inactive rfl)
  rcases ended with _ | error | panic
  · exact returned .ran
  · exact returned fun output => (BuildResult.failure error.message).withOutput output
  · have cleanup : Ensures (Tapped leaks before capture (owns session))
        (do discard capture.stop
            driver.toolchain.close session)
        fun _ => Shown leaks before fun _ => False :=
      stopped.discarded.bind fun _ => shown_close tidy logsNothing session
    exact (logged_unwind panic cleanup).bind fun _ => .value fun _ records => records

theorem logged_runPrepared (settings : Settings) (arguments : List String) (session : σ)
    (timings : Timings) :
    Ensures (Shown leaks before (owns session))
      (driver.runPrepared settings arguments session timings)
      fun _ => before.Notes (Moment.Undiverted before.opened) := by
  have notLeaked (stream : Stream) := (tidy.streams stream).1
  have notMine (stream : Stream) := (tidy.streams stream).2 session
  have started : Ensures (Shown leaks before (owns session)) driver.startCapture fun outcome =>
      Logged before fun host =>
        Captured leaks (fun _ => False) before.opened before.threads outcome.2 (owns session) host ∧
          (outcome.1 = false → outcome.2.taps = none) := by
    apply Logged.ensures (LogsLast.startCapture driver) (Ensures.startCaptured driver notMine)
    rintro outcome host failed ⟨captured, inactive⟩
    exact (captured.holding_of_inactive (inactive failed)).streams notLeaked notMine
  rw [runPrepared_eq]
  refine started.bind ?_
  rintro ⟨capturing, capture⟩ host ⟨records, captured, inactive⟩
  have course : Course driver.toolchain SessionCall.Prepares fun session =>
      Tapped leaks before capture (owns session) :=
    logged_course (Captured.frame capture) tidy logsNothing
  have running : Ensures (Tapped leaks before capture (owns session))
      (calling (runCall settings arguments)
        (driver.toolchain.perform session (runCall settings arguments)))
      fun reached => Tapped leaks before capture (owns reached.2) :=
    Logged.ensures_of_logsNothing (.calling logsNothing session _)
      ((Captured.frame capture).calling tidy session _)
  have concluded := (course.timed running "run" timings).bind fun reached =>
    logged_concluding tidy logsNothing inactive reached.1 reached.2.1 reached.2.2
  exact concluded host ⟨records, captured⟩

/-- What a request logs before it has a session, and when that panics. -/
theorem logged_beginning {ρ : Type} (settings : Settings) (stopped : Ending BuildResult → ρ)
    {next : Suppressor → σ → Action ρ}
    (rest : ∀ suppressor session, Ensures (Covered leaks before suppressor (owns session))
      (next suppressor session) fun _ => before.Notes (Moment.Undiverted before.opened)) :
    Ensures (Logged before (Host.Shows before.opened before.threads))
      (driver.beginning settings stopped next)
      fun _ => before.Notes (Moment.Undiverted before.opened) := by
  have notLeaked (stream : Stream) := (tidy.streams stream).1
  refine (covered_engage leaks settings.quiet notLeaked).bind fun suppressor => ?_
  refine (covered_create tidy logsNothing suppressor settings).bind fun created => ?_
  rcases created with panic | session
  · have restored : Ensures (Covered leaks before suppressor fun _ => False)
        (discard suppressor.restore) fun _ => Shown leaks before fun _ => False :=
      shown_restore not_false
    exact (logged_unwind panic restored).bind fun _ => .value fun _ records => records
  · exact rest suppressor session

theorem logged_run (settings : Settings) (arguments : List String) :
    Ensures (Logged before (Host.Shows before.opened before.threads))
      (driver.run settings arguments) fun _ => before.Notes (Moment.Undiverted before.opened) := by
  refine logged_beginning tidy logsNothing settings _ fun suppressor session => ?_
  have course : Course driver.toolchain SessionCall.Prepares fun session =>
      Covered leaks before suppressor (owns session) :=
    logged_course (Hidden.frame suppressor) tidy logsNothing
  refine (course.prepare settings (fun _ => prepares_of_preparation) session).bind
    fun prepared => ?_
  rcases prepared with ⟨_ | error | panic, session, timings⟩
  · have restored : Ensures (Covered leaks before suppressor (owns session))
        (discard suppressor.restore) fun _ => Shown leaks before (owns session) :=
      shown_restore ((tidy.streams .stderr).2 session)
    exact restored.bind fun _ =>
      (logged_runPrepared tidy logsNothing settings arguments session timings).bind fun _ =>
        .value fun _ records => records
  · exact logged_closing tidy logsNothing suppressor session timings _
  · exact logged_unwinding tidy logsNothing suppressor session panic _

theorem logged_build (settings : Settings) (output : Path) :
    Ensures (Logged before (Host.Shows before.opened before.threads))
      (driver.build settings output) fun _ => before.Notes (Moment.Undiverted before.opened) := by
  refine logged_beginning tidy logsNothing settings _ fun suppressor session => ?_
  have course : Course driver.toolchain SessionCall.Prepares fun session =>
      Covered leaks before suppressor (owns session) :=
    logged_course (Hidden.frame suppressor) tidy logsNothing
  refine (course.link settings output (fun _ => prepares_of_preparation) rfl session).bind
    fun linked => ?_
  rcases linked with ⟨_ | error | panic, session, timings⟩
  · exact logged_closing tidy logsNothing suppressor session timings _
  · exact logged_closing tidy logsNothing suppressor session timings _
  · exact logged_unwinding tidy logsNothing suppressor session panic _

end

/-- Nothing is logged into a redirected stream.  With a toolchain that touches no
descriptor of others and logs nothing itself, every record of a request, wherever the
request fails or panics and whichever guards cannot be set up, is logged while both
streams refer to what they referred to when the request began. -/
theorem records_meet_original_streams (driver : Driver σ) (tidy : driver.toolchain.Tidy owns leaks)
    (logsNothing : driver.toolchain.LogsNothing) (settings : Settings) (host : Host) :
    (∀ arguments,
      host.Notes (Moment.Undiverted host.opened) (driver.run settings arguments host).2) ∧
    ∀ output, host.Notes (Moment.Undiverted host.opened) (driver.build settings output host).2 := by
  have begun : Logged host (Host.Shows host.opened host.threads) host :=
    ⟨.refl host, rfl, List.Subset.refl _⟩
  constructor
  · intro arguments
    exact logged_run tidy logsNothing settings arguments host begun
  · intro output
    exact logged_build tidy logsNothing settings output host begun

/-- A script whose program writes half a line and fails. -/
def failingRun : ToolchainScript :=
  { run :=
      { actions := [.write .stdout (Bytes.ofText "half a")]
        failure := some { kind := .runtime, rendered := "the program failed" } } }

/-- A request that can neither hide the diagnostics nor capture the program, whose first
reader fails before the second one is refused: three complaints and the times of four
phases are logged, all of them into the original streams. -/
theorem records_meet_original_streams_refused_guards :
    let driver : Driver Unit := { toolchain := failingRun.toolchain fun _ _ => .error .notFound }
    let settings : Settings := { argv0 := [], input := [], quiet := true }
    let host : Host :=
      { table := .standard
        refusals :=
          some .tooManyOpen :: (List.replicate 7 none ++ [some .unavailable])
        schedule := List.replicate 40 [(0, .fail .badDescriptor)]
        threshold := some .debug
        logger := some { output := some (.standard .stdout) } }
    (((driver.run settings [] host).2.historySince host).filterMap Moment.record?).length = 7 ∧
      host.Notes (Moment.Undiverted host.opened) (driver.run settings [] host).2 := by
  intro driver settings host
  have tidy := failingRun.tidy fun _ _ => .error .notFound
  have logsNothing := failingRun.logsNothing fun _ _ => .error .notFound
  constructor
  · decide +kernel
  · exact (records_meet_original_streams driver tidy logsNothing settings host).1 []

end Driver

end CompileDriver
