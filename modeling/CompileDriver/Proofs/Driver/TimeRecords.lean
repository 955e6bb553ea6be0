import CompileDriver.Proofs.Driver.Disciplined
import CompileDriver.Proofs.Driver.Reporting

/-!
# The records of times

The time of a phase is logged in a line that begins with the name of the phase.  Neither the
guards nor the driver log any other line that reads like this, so that the lines can be counted
in the journal.

What a request does before its report is reticent: it makes no calls on its own account, leaves
the settings of the log as they are, and logs no line that reads like the time of a phase.
-/

namespace CompileDriver

variable {σ α β : Type}

/-! ## Lines that read like times -/

namespace Driver

/-- The names of the phases. -/
def phaseNames : List String :=
  ["plugins", "parse", "compile", "run", "link"]

/-- How the line begins that is logged for a phase. -/
def timeOpening (name : String) : String :=
  Text.padRight 10 name ++ " "

/-- The line that is logged for a phase. -/
def timeLine (phase : String × Duration) : String :=
  timeOpening phase.1 ++ phase.2.text

/-- Whether a message begins like the line of a phase. -/
def readsLikeTime (message : String) : Bool :=
  phaseNames.any fun name => (timeOpening name).toList.isPrefixOf message.toList

theorem readsLikeTime_timeLine {phase : String × Duration} (known : phase.1 ∈ phaseNames) :
    readsLikeTime (timeLine phase) = true := by
  rw [readsLikeTime, List.any_eq_true]
  refine ⟨phase.1, known, ?_⟩
  rw [List.isPrefixOf_iff_prefix, timeLine, String.toList_append]
  exact List.prefix_append _ _

/-- A message whose opening already differs from that of every phase does not read like a
time. -/
theorem readsLikeTime_append {opening : String}
    (differs : ∀ name ∈ phaseNames, (timeOpening name).toList.take opening.toList.length ≠
      opening.toList.take (timeOpening name).toList.length) (rest : String) :
    readsLikeTime (opening ++ rest) = false := by
  rw [readsLikeTime, List.any_eq_false]
  intro name known begins
  rw [List.isPrefixOf_iff_prefix, String.toList_append] at begins
  apply differs name known
  have sameLength := List.prefix_iff_eq_take.mp begins
  rw [List.take_append] at sameLength
  calc (timeOpening name).toList.take opening.toList.length
      = (opening.toList.take (timeOpening name).toList.length ++
          rest.toList.take ((timeOpening name).toList.length - opening.toList.length)).take
            opening.toList.length := by rw [← sameLength]
    _ = opening.toList.take (timeOpening name).toList.length := by
        rw [← List.take_append, List.take_take, Nat.min_comm, ← List.take_take,
          List.take_left]

end Driver

/-! ## Times in the journal -/

/-- The message, when the moment is the emission of a record that reads like the time of a
phase. -/
def Moment.time? (moment : Moment) : Option String :=
  match moment.record? with
  | some (.debug, message) => if Driver.readsLikeTime message then some message else none
  | _ => none

theorem Moment.time?_of_record {moment : Moment} (unlogged : moment.record? = none) :
    moment.time? = none := by
  rw [time?, unlogged]

namespace Host

/-- The lines since an earlier state that read like the times of phases. -/
def timesSince (host earlier : Host) : List String :=
  (host.historySince earlier).filterMap Moment.time?

/-- Between two states nothing is logged that reads like the time of a phase. -/
abbrev Untimed (before after : Host) : Prop :=
  before.Notes (fun moment => moment.time? = none) after

variable {before after first second third : Host}

theorem timesSince_trans (start : first.journal <:+ second.journal)
    (rest : second.journal <:+ third.journal) :
    third.timesSince first = second.timesSince first ++ third.timesSince second := by
  simp only [timesSince, historySince_trans start rest, List.filterMap_append]

theorem Untimed.timesSince (untimed : Untimed before after) : after.timesSince before = [] := by
  rw [Host.timesSince, List.filterMap_eq_nil_iff]
  exact (Notes.iff_historySince.mp untimed).2

/-- The settings of the log are the same. -/
structure SameLog (before after : Host) : Prop where
  logger : after.logger = before.logger
  threshold : after.threshold = before.threshold

theorem SameLog.trans (start : SameLog first second) (rest : SameLog second third) :
    SameLog first third :=
  ⟨rest.logger.trans start.logger, rest.threshold.trans start.threshold⟩

theorem SameLog.of_view (same : after.view = before.view) : SameLog before after :=
  ⟨congrArg View.logger same, congrArg View.threshold same⟩

theorem Step.sameLog {foreign : Nat → Prop} (step : Step foreign before after) :
    SameLog before after := by
  cases step with
  | utter utterance => exact .of_view utterance.view
  | startReader started =>
      unfold Host.startReader at started
      split at started <;> cases started
      exact ⟨rfl, rfl⟩
  | join thread =>
      have awaited :=
        view_of_readersRan (readersRan_await before fun host => !host.isReading thread)
      exact ⟨congrArg View.logger awaited, congrArg View.threshold awaited⟩
  | _ => exact ⟨rfl, rfl⟩

theorem Steps.sameLog {foreign : Nat → Prop} (steps : Steps foreign before after) :
    SameLog before after := by
  induction steps with
  | refl => exact ⟨rfl, rfl⟩
  | tail _ step ih => exact ih.trans step.sameLog

/-- What becomes of a host without a call on a session and without a word about times. -/
structure Reticent (before after : Host) : Prop where
  quiet : Quiet before after
  sameLog : SameLog before after
  untimed : Untimed before after

end Host

/-! ## Reticence -/

/-- To leave the settings of the log as they are. -/
def loggingAlike : Discipline where
  needs _ := True
  allows := Host.SameLog
  refl _ := ⟨rfl, rfl⟩
  trans := .trans
  keeps _ _ := trivial

theorem logging_letsServe : loggingAlike.LetsServe where
  anywhere _ := trivial
  steps steps := steps.sameLog
  crash _ := ⟨rfl, rfl⟩

theorem logging_letsRun : loggingAlike.LetsRun where
  anywhere _ := trivial
  utterances utterances := Host.Steps.sameLog utterances.steps
  files _ _ := ⟨rfl, rfl⟩
  numberLimit _ _ := ⟨rfl, rfl⟩

/-- To leave the log to the request: to change none of its settings, and to log nothing that
reads like the time of a phase. -/
def reserve : Discipline where
  needs _ := True
  allows before after := Host.SameLog before after ∧ Host.Untimed before after
  refl host := ⟨⟨rfl, rfl⟩, .refl host⟩
  trans start rest := ⟨start.1.trans rest.1, start.2.trans rest.2⟩
  keeps _ _ := trivial

/-- To be reticent. -/
def reticence : Discipline where
  needs _ := True
  allows := Host.Reticent
  refl host := ⟨.refl host, ⟨rfl, rfl⟩, .refl host⟩
  trans start rest :=
    ⟨start.quiet.trans rest.quiet, start.sameLog.trans rest.sameLog,
      start.untimed.trans rest.untimed⟩
  keeps _ _ := trivial

/-- Whatever the host, the action logs nothing that reads like the time of a phase. -/
abbrev Untimed (action : Action α) : Prop :=
  (noting fun moment => moment.time? = none).Governs action fun _ => True

/-- Whatever the host, the action is reticent. -/
abbrev Reticent (action : Action α) : Prop :=
  reticence.Governs action fun _ => True

/-- The toolchain leaves the log to the request. -/
structure Toolchain.LeavesLog (toolchain : Toolchain σ) : Prop where
  create : ∀ settings, reserve.Governs (toolchain.createSession settings) fun _ => True
  call : ∀ session call, reserve.Governs (toolchain.perform session call) fun _ => True
  close : ∀ session, reserve.Governs (toolchain.close session) fun _ => True

/-! ### What the guards log -/

namespace Untimed

theorem of_logsNothing {action : Action α} (logsNothing : LogsNothing action) : Untimed action :=
  logsNothing.relax (fun _ _ => trivial) fun _ _ notes =>
    notes.weaken fun _ => Moment.time?_of_record

theorem of_plain {action : Action α} (plain : Plain action) : Untimed action :=
  of_logsNothing (.of_plain plain)

/-- A line that does not begin like that of a phase. -/
theorem debug {message : String} (differs : Driver.readsLikeTime message = false) :
    Untimed (Log.debug message) := by
  have noted : Untimed (modify (·.note (.logRecord .debug message)) : Action PUnit) :=
    .changed fun host => .note host (by simp [Moment.time?, Moment.record?, differs])
  apply Discipline.Governs.look
  intro host _
  split
  · rename_i logger installed
    have logged : Untimed (logger.log .debug message) := by
      apply Discipline.Governs.look
      intro host _
      split
      · refine (noted.bind fun _ _ => ?_) host trivial
        split
        · exact of_plain (.print _ _)
        · exact .value trivial
      · exact .value trivial
    exact logged host trivial
  · exact .value trivial

/-- The guards log nothing that reads like a time. -/
theorem letsGuard : (noting fun moment => moment.time? = none).LetsGuard fun _ => False where
  toLetsAcquire := Plain.letsDivert.toLetsAcquire.relax (fun _ _ => trivial) fun _ _ notes =>
    notes.weaken fun _ plain => Moment.time?_of_record (Plain.record plain)
  own _ := not_false
  flush stream := of_plain (.flush stream)
  joinReader thread := of_plain (.joinReader thread)
  reportEarlyEnd stream early := by
    cases early with
    | none => exact .value trivial
    | some error =>
        apply debug
        have differs (rest : String) : Driver.readsLikeTime ("the `" ++ rest) = false :=
          Driver.readsLikeTime_append (by decide +kernel) rest
        rw [String.append_assoc, String.append_assoc]
        exact differs _
  leaveVisible stream error := by
    apply debug
    have differs (rest : String) : Driver.readsLikeTime ("leaving `" ++ rest) = false :=
      Driver.readsLikeTime_append (by decide +kernel) rest
    rw [String.append_assoc, String.append_assoc]
    exact differs _

theorem engage (stream : Stream) (wanted : Bool) : Untimed (Suppressor.engage stream wanted) :=
  (letsGuard.engage stream wanted).weaken fun _ _ => trivial

theorem stop (capture : Capture) : Untimed capture.stop :=
  (letsGuard.stop capture.own_none).weaken fun _ _ => trivial

theorem intoOutput (capture : Capture) : Untimed capture.intoOutput :=
  letsGuard.intoOutput capture.own_none

theorem start (capture : Capture) : Untimed capture.start :=
  (letsGuard.start capture.own_none).weaken fun _ _ => trivial

theorem startCapture (driver : Driver σ) : Untimed driver.startCapture := by
  unfold Driver.startCapture
  dsimp only
  split
  · refine (start _).bind fun outcome _ => ?_
    obtain ⟨error | done, capture⟩ := outcome
    · refine (debug ?_).bind fun _ _ => .value trivial
      have differs (rest : String) :
          Driver.readsLikeTime ("running without capturing output: " ++ rest) = false :=
        Driver.readsLikeTime_append (by decide +kernel) rest
      exact differs _
    · exact .value trivial
  · exact .value trivial

theorem raise (panic : Panic) : Untimed panic.raise := by
  apply Discipline.Governs.look
  intro host _
  split
  · exact .value trivial
  · exact ((of_plain (.report panic)).bind fun _ _ => .value trivial) host trivial

end Untimed

/-! ### What requests do between the calls -/

namespace Reticent

theorem of_parts {action : Action α} {one two : α → Prop} (silent : Silent action one)
    (same : loggingAlike.Governs action two) (untimed : Untimed action) : Reticent action :=
  fun host _ =>
    ⟨⟨(silent host trivial).1, (same host trivial).1, (untimed host trivial).1⟩, trivial⟩

theorem engage (stream : Stream) (wanted : Bool) :
    Reticent (Suppressor.engage stream wanted) :=
  of_parts (.engage stream wanted) (logging_letsServe.engage stream wanted)
    (.engage stream wanted)

theorem restoreSuppressor (suppressor : Suppressor) :
    Reticent (discard suppressor.restore : Action Unit) :=
  of_parts (.restoreSuppressor suppressor) (logging_letsServe.restoreSuppressor suppressor)
    (Untimed.of_plain (.restoreSuppressor suppressor)).discarded

theorem stop (capture : Capture) : Reticent (discard capture.stop : Action Unit) :=
  of_parts (.stop capture) (logging_letsServe.stop capture) (Untimed.stop capture).discarded

theorem intoOutput (capture : Capture) : Reticent capture.intoOutput :=
  of_parts (.intoOutput capture) (logging_letsServe.intoOutput capture) (.intoOutput capture)

theorem startCapture (driver : Driver σ) : Reticent driver.startCapture :=
  of_parts (.startCapture driver) (logging_letsServe.startCapture driver) (.startCapture driver)

theorem raise (panic : Panic) : Reticent panic.raise :=
  of_parts (silence_letsServe.raise panic) (logging_letsServe.raise panic) (.raise panic)

/-- A request that is unwound does not return. -/
theorem unwind (panic : Panic) {cleanup : Action Unit} (reticent : Reticent cleanup) :
    reticence.Governs (Driver.unwind panic cleanup) fun ending =>
      ∀ result, ending ≠ .returned result := by
  refine (raise panic).bind fun ended _ => ?_
  cases ended with
  | none => exact reticent.bind fun _ _ => .value nofun
  | some code => exact .value nofun

section

variable {toolchain : Toolchain σ} (discreet : toolchain.Discreet)
  (leavesLog : toolchain.LeavesLog)

include discreet leavesLog

theorem createSession (settings : Settings) : Reticent (toolchain.createSession settings) :=
  fun host _ =>
    have left := (leavesLog.create settings host trivial).1
    ⟨⟨(discreet.create settings host trivial).1, left.1, left.2⟩, trivial⟩

theorem perform (session : σ) (call : SessionCall) : Reticent (toolchain.perform session call) :=
  fun host _ =>
    have left := (leavesLog.call session call host trivial).1
    ⟨⟨(discreet.call session call host trivial).1, left.1, left.2⟩, trivial⟩

theorem close (session : σ) : Reticent (toolchain.close session) :=
  fun host _ =>
    have left := (leavesLog.close session host trivial).1
    ⟨⟨(discreet.close session host trivial).1, left.1, left.2⟩, trivial⟩

end

end Reticent

/-- The toolchain that follows a script leaves the log to the request. -/
theorem ToolchainScript.leavesLog (launcher : Launcher) (script : ToolchainScript) :
    (script.toolchain launcher).LeavesLog where
  create settings host _ :=
    ⟨⟨(governs_create launcher logging_letsRun script settings host trivial).1,
      (Untimed.of_logsNothing ((script.logsNothing launcher).create settings) host trivial).1⟩,
      trivial⟩
  call session call host _ :=
    ⟨⟨(governs_call launcher logging_letsRun script call host trivial).1,
      (Untimed.of_logsNothing ((script.logsNothing launcher).call session call) host trivial).1⟩,
      trivial⟩
  close _ := .value trivial

/-! ## The report -/

namespace Host

/-- Whether records of the lowest level that times are logged at are enabled. -/
def logsTimes (host : Host) : Bool :=
  (Log.isEnabled .debug host).1

theorem SameLog.logsTimes {before after : Host} (same : SameLog before after) :
    after.logsTimes = before.logsTimes := by
  simp only [Host.logsTimes, Log.isEnabled, Action.bind_apply, Action.get_apply,
    Action.pure_apply, same.logger, same.threshold]

end Host

namespace Driver

variable {host : Host}

/-- A record that is enabled is noted; what follows is its way to the output. -/
theorem debug_of_enabled (message : String) (enabled : host.logsTimes = true) :
    ∃ rest : Action Unit, Plain rest ∧
      Log.debug message host = rest (host.note (.logRecord .debug message)) := by
  obtain ⟨installed, admitted⟩ := Bool.and_eq_true_iff.mp enabled
  obtain ⟨logger, isLogger⟩ := Option.isSome_iff_exists.mp installed
  simp only [Log.debug, Action.bind_apply, Action.get_apply, isLogger, Logger.log, admitted,
    if_true, Action.modify_apply]
  cases logger.route .debug with
  | none => exact ⟨pure (), .value trivial, rfl⟩
  | some output => exact ⟨_, .print output _, rfl⟩

theorem timesSince_debug {message : String} (reads : readsLikeTime message = true)
    (enabled : host.logsTimes = true) :
    (Log.debug message host).2.timesSince host = [message] := by
  obtain ⟨rest, plain, same⟩ := debug_of_enabled message enabled
  have untimed : Host.Untimed (host.note (.logRecord .debug message))
      (rest (host.note (.logRecord .debug message))).2 :=
    (Untimed.of_plain plain _ trivial).1
  have noted : (host.note (.logRecord .debug message)).timesSince host = [message] := by
    have grown : (host.note (.logRecord .debug message)).journal =
        [{ event := .logRecord .debug message, table := host.table }] ++ host.journal := rfl
    rw [Host.timesSince, Host.historySince_of_journal grown]
    simp [Moment.time?, Moment.record?, reads]
  rw [same, Host.timesSince_trans (List.suffix_cons _ _) untimed.grown, noted,
    untimed.timesSince, List.append_nil]

/-- The lines of phases are logged in their order. -/
theorem timesSince_lines {phases : List (String × Duration)}
    (known : ∀ phase ∈ phases, phase.1 ∈ phaseNames) (enabled : host.logsTimes = true) :
    (phases.forM (fun phase => Log.debug (timeLine phase)) host).2.timesSince host =
      phases.map timeLine := by
  induction phases generalizing host with
  | nil => simp [Host.timesSince, Host.historySince_self]
  | cons phase rest ih =>
      have steps := (Log.debug_utterances (timeLine phase) host).steps
      have more : Silent (rest.forM fun phase => Log.debug (timeLine phase)) fun _ => True :=
        .each fun phase _ => (Speaks.debug (fun _ => not_false) (timeLine phase)).spares.silent
      have moreGrown := (more.answered (Log.debug (timeLine phase) host).2).grown
      have first :=
        timesSince_debug (readsLikeTime_timeLine (known phase List.mem_cons_self)) enabled
      have later := ih (fun other member => known other (List.mem_cons_of_mem _ member))
        (steps.sameLog.logsTimes.trans enabled)
      calc _ = (Log.debug (timeLine phase) host).2.timesSince host ++
            (rest.forM (fun phase => Log.debug (timeLine phase))
              (Log.debug (timeLine phase) host).2).2.timesSince
                (Log.debug (timeLine phase) host).2 :=
            Host.timesSince_trans (Host.Answered.of_quiet steps.quiet).grown moreGrown
        _ = timeLine phase :: rest.map timeLine := by rw [first, later, List.singleton_append]

theorem timesSince_reportTimings {timings : Timings}
    (known : ∀ name ∈ timings.names, name ∈ phaseNames) (host : Host) :
    (reportTimings timings host).2.timesSince host =
      if host.logsTimes then timings.phases.map timeLine else [] := by
  have looked : (Log.isEnabled .debug host).2 = host := rfl
  rw [reportTimings, Action.bind_apply, looked]
  change ((if host.logsTimes then _ else _ : Action Unit) host).2.timesSince host = _
  split
  · exact timesSince_lines (fun phase member => known _ (List.mem_map_of_mem member)) ‹_›
  · simp [Host.timesSince, Host.historySince_self]

end Driver

end CompileDriver
