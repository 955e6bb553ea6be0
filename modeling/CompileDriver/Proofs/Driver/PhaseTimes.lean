import CompileDriver.Proofs.Driver.History
import CompileDriver.Proofs.Driver.PhaseCalls

/-!
# Times mirror the phases of the last request

After a request the driver has recorded the time of every phase that the request has completed,
once and in order, and of no other phase, whatever requests were made before.  A request that
returns has logged these times, when its calls were over and the streams back in place; one that
is unwound has logged none.
-/

namespace CompileDriver

variable {σ : Type}

/-! ## From the report to the end -/

namespace Host

/-- Between two states nothing is called, and exactly these lines are logged that read like
times, with the descriptors of the first state. -/
structure Announces (before after : Host) (lines : List String) : Prop where
  quiet : Quiet before after
  lines : after.timesSince before = lines
  tables : Notes (fun moment => moment.time? ≠ none → moment.table = before.table) before after

namespace Announces

theorem refl (host : Host) : Announces host host [] where
  quiet := .refl host
  lines := by rw [timesSince, historySince_self, List.filterMap_nil]
  tables := .refl host

variable {first second third : Host} {calls : List SessionCall} {answers : List Answer}
  {lines : List String}

theorem followed (announces : Announces first second lines) (reticent : Reticent second third) :
    Announces first third lines where
  quiet := announces.quiet.trans reticent.quiet
  lines := by
    rw [timesSince_trans announces.tables.grown reticent.untimed.grown, announces.lines,
      reticent.untimed.timesSince, List.append_nil]
  tables := announces.tables.trans
    (reticent.untimed.weaken fun _ unlogged isTime => absurd unlogged isTime)

/-- After exchanges it adds no call and no answer, and its lines are the only times. -/
theorem since_exchanges (announces : Announces second third lines)
    (exchanges : Exchanges first second calls answers) :
    third.callsSince first = calls ∧ third.answersSince first = answers ∧
      third.timesSince first = lines := by
  have start := exchanges.untimed.grown
  have answered := Answered.of_quiet announces.quiet
  refine ⟨?_, ?_, ?_⟩
  · rw [callsSince_trans start answered.grown, exchanges.calls, answered.calls, List.map_nil,
      List.append_nil]
  · rw [answersSince_trans start answered.grown, exchanges.answers, answered.answers,
      List.append_nil]
  · rw [timesSince_trans start answered.grown, exchanges.untimed.timesSince, announces.lines,
      List.nil_append]

/-- A moment that is a time is one of the lines, and the descriptors are those of the first
state. -/
theorem table_of_time (announces : Announces first second lines) {moment : Moment}
    (member : moment ∈ second.historySince first) (isTime : moment.time? ≠ none) :
    lines ≠ [] ∧ moment.table = first.table := by
  constructor
  · rintro rfl
    exact isTime (List.filterMap_eq_nil_iff.mp announces.lines moment member)
  · exact (Notes.iff_historySince.mp announces.tables).2 moment member isTime

end Announces

end Host

namespace Driver

theorem announces_reportTimings {timings : Timings}
    (known : ∀ name ∈ timings.names, name ∈ phaseNames) (host : Host) :
    host.Announces (reportTimings timings host).2
      (if host.logsTimes then timings.phases.map timeLine else []) where
  quiet := (Silent.reportTimings timings host trivial).1
  lines := timesSince_reportTimings known host
  tables :=
    have speaks : Speaks (fun _ => False) (reportTimings timings) fun _ => True :=
      .reportTimings (fun _ => not_false) timings
    (Host.Utterances.notes (speaks host trivial).1).weaken fun _ same _ => same

/-! ## Requests -/

/-- How the times that are recorded for a request tell its phases. -/
structure Mirrors (toolchain : Toolchain σ) (request : Request) (before after : Host)
    (ending : Ending BuildResult) (timings : Timings) : Prop where
  /-- The phases are recorded that were completed according to the calls on the session, if
  debug records are enabled.  The request returns if its last call does. -/
  listed : ∃ ended completed,
    request.GoesThrough (after.callsSince before) (after.answersSince before) ended completed ∧
      (ended.returns = true ↔ ∃ result, ending = .returned result) ∧
        timings.names = if before.logsTimes then completed else []
  inOrder : timings.names <+: request.phases.map Phase.name
  once : timings.names.Nodup
  /-- A request that returns has logged the times, and no other line that reads like one. -/
  logged : ∀ result, ending = .returned result →
    after.timesSince before = timings.phases.map timeLine
  /-- One that does not return has logged none. -/
  unlogged : (∀ result, ending ≠ .returned result) → after.timesSince before = []
  /-- The times are logged when all calls on the session have been made and answered. -/
  last : ∃ early late, after.historySince before = early ++ late ∧
    (∀ moment ∈ early, moment.time? = none) ∧ ∀ moment ∈ late, moment.event.isRoutine = true
  /-- At that time the streams refer to what they referred to before the request, if the
  toolchain touches no descriptor of others. -/
  restored : ∀ owns leaks, toolchain.Tidy owns leaks →
    ∀ moment ∈ after.historySince before, moment.time? ≠ none →
      ∀ stream : Stream, moment.table.file? stream.number = before.opened stream.number
  /-- Nothing is recorded or logged if debug records are not enabled. -/
  disabled : before.logsTimes = false → timings.phases = [] ∧ after.timesSince before = []

/-- What has been worked and announced mirrors the phases. -/
theorem Mirrors.of_announces {toolchain : Toolchain σ} {request : Request}
    {before middle after : Host} {ending : Ending BuildResult} {timings : Timings}
    {calls : List SessionCall} {answers : List Answer} {ended : CallEnd}
    {completed lines : List String}
    (exchanges : before.Exchanges middle calls answers)
    (through : request.GoesThrough calls answers ended completed)
    (recorded : timings.names = if before.logsTimes then completed else [])
    (announces : middle.Announces after lines)
    (agrees : ended.returns = true ↔ ∃ result, ending = .returned result)
    (announced : lines = if ended.returns then timings.phases.map timeLine else [])
    (streams : ended.returns = true → ∀ owns leaks, toolchain.Tidy owns leaks →
      ∀ stream : Stream, middle.opened stream.number = before.opened stream.number) :
    Mirrors toolchain request before after ending timings := by
  obtain ⟨calls_eq, answers_eq, lines_eq⟩ := announces.since_exchanges exchanges
  have history := Host.historySince_trans exchanges.untimed.grown announces.quiet.grown
  have early := (Host.Notes.iff_historySince.mp exchanges.untimed).2
  have inOrder : timings.names <+: request.phases.map Phase.name := by
    rw [recorded]
    split
    · exact through.completed_prefix
    · exact List.nil_prefix
  exact
    { listed := by
        rw [calls_eq, answers_eq]
        exact ⟨ended, completed, through, agrees, recorded⟩
      inOrder
      once := request.phases_nodup.sublist inOrder.sublist
      logged := by
        intro result returned
        rw [lines_eq, announced, if_pos (agrees.mpr ⟨result, returned⟩)]
      unlogged := by
        intro notReturned
        rw [lines_eq, announced, if_neg]
        rintro returns
        obtain ⟨result, returned⟩ := agrees.mp returns
        exact notReturned result returned
      last := by
        refine ⟨_, _, history, early, ?_⟩
        exact (Host.Notes.iff_historySince.mp announces.quiet).2
      restored := by
        intro owns leaks tidy moment member isTime stream
        rw [history, List.mem_append] at member
        rcases member with isEarly | isLate
        · exact absurd (early moment isEarly) isTime
        · obtain ⟨spoken, table⟩ := announces.table_of_time isLate isTime
          have returns : ended.returns = true := by
            by_contra notReturned
            exact spoken (announced.trans (if_neg notReturned))
          rw [table]
          exact streams returns owns leaks tidy stream
      disabled := by
        intro disabled
        have none : timings.phases = [] := by
          rw [disabled] at recorded
          exact List.map_eq_nil_iff.mp recorded
        refine ⟨none, ?_⟩
        rw [lines_eq, announced, none]
        exact ite_self _ }

section

variable {driver : Driver σ} (discreet : driver.toolchain.Discreet)
  (leavesLog : driver.toolchain.LeavesLog)

include discreet leavesLog

theorem serve_mirrors (request : Request) (before : Host) :
    Mirrors driver.toolchain request before (driver.serve request before).2
      (driver.serve request before).1.1 (driver.serve request before).1.2.timings := by
  obtain ⟨calls, answers, ended, completed, exchanges, through, agrees, recorded⟩ :=
    work_attains discreet leavesLog request before
  have streams (result : BuildResult) (session : σ)
      (reports : (driver.work request before).1.1 = .ok (result, session)) (owns : σ → Nat → Prop)
      (leaks : Nat → Prop) (tidy : driver.toolchain.Tidy owns leaks) :=
    work_streams tidy reports
  rw [serve_eq, Action.bind_apply]
  rcases worked : driver.work request before with ⟨⟨ending | ⟨result, session⟩, timings⟩, middle⟩
  all_goals rw [worked] at exchanges agrees recorded streams
  · -- the request was unwound, and nothing is reported
    obtain ⟨notReturned, isEnding⟩ := agrees
    refine .of_announces exchanges through recorded (.refl middle) ?_ ?_ ?_
    · rw [notReturned]
      refine ⟨nofun, ?_⟩
      rintro ⟨result, returned⟩
      exact absurd returned (isEnding result)
    · rw [notReturned]
      rfl
    · rw [notReturned]
      exact nofun
  · have returns : ended.returns = true := agrees
    have known : ∀ name ∈ timings.names, name ∈ phaseNames := by
      intro name member
      rw [recorded] at member
      split at member
      · exact request.phases_known (through.completed_prefix.subset member)
      · cases member
    have announced := (announces_reportTimings known middle).followed
      (Reticent.close discreet leavesLog session _ trivial).1
    refine .of_announces exchanges through recorded announced ?_ ?_
      fun _ => streams result session rfl
    · exact ⟨fun _ => ⟨result, rfl⟩, fun _ => returns⟩
    · rw [returns, exchanges.sameLog.logsTimes, if_pos rfl]
      split
      · rfl
      · rename_i disabled
        rw [if_neg disabled] at recorded
        have none : timings.phases = [] := List.map_eq_nil_iff.mp recorded
        exact (congrArg (List.map timeLine) none).symm

/-- Times mirror the phases of the last request.  Whatever requests a driver has served before,
and whatever has become of the process since, the times that are recorded after the next request
are those of the phases that it has completed. -/
theorem times_mirror_last_request (earlier : List Request) (start before : Host)
    (request : Request) :
    Mirrors driver.toolchain request before
      ((driver.serveAll earlier start).1.2.serve request before).2
      ((driver.serveAll earlier start).1.2.serve request before).1.1
      ((driver.serveAll earlier start).1.2.serve request before).1.2.timings := by
  have same := driver.serveAll_toolchain earlier start
  rw [← same]
  exact serve_mirrors (same ▸ discreet) (same ▸ leavesLog) request before

end

/-- A driver that has served a request that fails, one that is unwound and one that returns. -/
def usedDriver : Driver Unit :=
  (brittleDriver.serveAll brittleHistory measuringStart).1.2

/-- The process on which it has served them. -/
def usedHost : Host :=
  (brittleDriver.serveAll brittleHistory measuringStart).2

/-- A request to write the program out. -/
def linkingRequest : Request :=
  .build { argv0 := [], input := [] } []

/-- Next the program is built and the linker panics: three phases are recorded, and none is
logged.  When the program is run instead, all four are logged. -/
theorem times_mirror_last_request_brittle :
    Mirrors brittleDriver.toolchain linkingRequest usedHost
        (usedDriver.serve linkingRequest usedHost).2
        (usedDriver.serve linkingRequest usedHost).1.1
        (usedDriver.serve linkingRequest usedHost).1.2.timings ∧
      (usedDriver.serve linkingRequest usedHost).1.2.timings.names =
        ["plugins", "parse", "compile"] ∧
      (usedDriver.serve linkingRequest usedHost).2.timesSince usedHost = [] ∧
      Mirrors brittleDriver.toolchain quietRequest usedHost
        (usedDriver.serve quietRequest usedHost).2
        (usedDriver.serve quietRequest usedHost).1.1
        (usedDriver.serve quietRequest usedHost).1.2.timings ∧
      (usedDriver.serve quietRequest usedHost).2.timesSince usedHost =
        ["plugins    0ns", "parse      0ns", "compile    0ns", "run        0ns"] := by
  have discreet : brittleDriver.toolchain.Discreet := brittleScript.discreet _
  have leavesLog : brittleDriver.toolchain.LeavesLog := brittleScript.leavesLog _
  have mirrors (request : Request) :
      Mirrors brittleDriver.toolchain request usedHost (usedDriver.serve request usedHost).2
        (usedDriver.serve request usedHost).1.1
        (usedDriver.serve request usedHost).1.2.timings :=
    times_mirror_last_request discreet leavesLog brittleHistory measuringStart usedHost request
  refine ⟨mirrors linkingRequest, ?_, ?_, mirrors quietRequest, ?_⟩
  all_goals decide +kernel

end Driver

end CompileDriver
